import ApiScribe.Proofs.Builder.Contribution
import Mathlib.Data.List.Perm.Basic

/-!
# Independent declarations

Declarations that write different operations and components, and of which at most one gives the
title and at most one the version, can be added in any order. The document then has the same parts,
though not in the same order.
-/

namespace ApiScribe

namespace OpenApi

/-! ### Documents with the same parts -/

/-- The documents agree on all that is found by a key. -/
structure Document.SameParts (doc doc' : Document) : Prop where
  openapi : doc.openapi = doc'.openapi
  info : doc.info = doc'.info
  operations (path : String) (method : Method) :
    doc.paths.operation? path method = doc'.paths.operation? path method
  schemas (id : String) : doc.components.schemas.get? id = doc'.components.schemas.get? id
  parameters (id : String) : doc.components.parameters.get? id = doc'.components.parameters.get? id
  requestBodies (id : String) :
    doc.components.requestBodies.get? id = doc'.components.requestBodies.get? id
  responses (id : String) : doc.components.responses.get? id = doc'.components.responses.get? id
  securitySchemes (id : String) :
    doc.components.securitySchemes.get? id = doc'.components.securitySchemes.get? id
  callbacks (id : String) : doc.components.callbacks.get? id = doc'.components.callbacks.get? id

/-- The documents have no operation and no component in common, as far as keys tell. -/
structure Document.Apart (doc doc' : Document) : Prop where
  operations (path : String) (method : Method) :
    ¬((doc.paths.operation? path method).isSome ∧ (doc'.paths.operation? path method).isSome)
  schemas : doc.components.schemas.keys.Disjoint doc'.components.schemas.keys
  parameters : doc.components.parameters.keys.Disjoint doc'.components.parameters.keys
  requestBodies : doc.components.requestBodies.keys.Disjoint doc'.components.requestBodies.keys
  responses : doc.components.responses.keys.Disjoint doc'.components.responses.keys
  securitySchemes :
    doc.components.securitySchemes.keys.Disjoint doc'.components.securitySchemes.keys
  callbacks : doc.components.callbacks.keys.Disjoint doc'.components.callbacks.keys

namespace Document

variable {doc doc' doc'' delta delta' : Document} {titled titled' versioned versioned' : Bool}

lemma SameParts.refl (doc : Document) : doc.SameParts doc :=
  ⟨rfl, rfl, fun _ _ => rfl, fun _ => rfl, fun _ => rfl, fun _ => rfl, fun _ => rfl, fun _ => rfl,
    fun _ => rfl⟩

lemma SameParts.trans (h : doc.SameParts doc') (h' : doc'.SameParts doc'') :
    doc.SameParts doc'' where
  openapi := h.openapi.trans h'.openapi
  info := h.info.trans h'.info
  operations path method := (h.operations path method).trans (h'.operations path method)
  schemas id := (h.schemas id).trans (h'.schemas id)
  parameters id := (h.parameters id).trans (h'.parameters id)
  requestBodies id := (h.requestBodies id).trans (h'.requestBodies id)
  responses id := (h.responses id).trans (h'.responses id)
  securitySchemes id := (h.securitySchemes id).trans (h'.securitySchemes id)
  callbacks id := (h.callbacks id).trans (h'.callbacks id)

lemma Apart.symm (h : doc.Apart doc') : doc'.Apart doc where
  operations path method hboth := h.operations path method hboth.symm
  schemas := List.disjoint_symm h.schemas
  parameters := List.disjoint_symm h.parameters
  requestBodies := List.disjoint_symm h.requestBodies
  responses := List.disjoint_symm h.responses
  securitySchemes := List.disjoint_symm h.securitySchemes
  callbacks := List.disjoint_symm h.callbacks

/-- Laying the same document over both makes no difference. -/
lemma SameParts.overlay (h : doc.SameParts doc') (hdelta : delta.UniqueKeys) :
    (doc.overlay titled versioned delta).SameParts (doc'.overlay titled versioned delta) where
  openapi := h.openapi
  info := by simp only [Document.overlay, h.info]
  operations path method := by
    simp only [Document.overlay, PathTable.operation?_overlay hdelta.paths, h.operations]
  schemas id := by
    simp only [Document.overlay, Components.overlay, OrderedMap.get?_overlay hdelta.schemas,
      h.schemas]
  parameters id := by
    simp only [Document.overlay, Components.overlay, OrderedMap.get?_overlay hdelta.parameters,
      h.parameters]
  requestBodies id := by
    simp only [Document.overlay, Components.overlay, OrderedMap.get?_overlay hdelta.requestBodies,
      h.requestBodies]
  responses id := by
    simp only [Document.overlay, Components.overlay, OrderedMap.get?_overlay hdelta.responses,
      h.responses]
  securitySchemes id := by
    simp only [Document.overlay, Components.overlay, OrderedMap.get?_overlay hdelta.securitySchemes,
      h.securitySchemes]
  callbacks id := by
    simp only [Document.overlay, Components.overlay, OrderedMap.get?_overlay hdelta.callbacks,
      h.callbacks]

end Document

lemma or_or_comm {α : Type} {a b : Option α} (h : ¬(a.isSome ∧ b.isSome)) (c : Option α) :
    b.or (a.or c) = a.or (b.or c) := by
  cases a with
  | none => simp
  | some v =>
    cases b with
    | none => simp
    | some w => exact absurd ⟨rfl, rfl⟩ h

lemma get?_overlay_overlay_comm {α : Type} {m m' : OrderedMap α} (hm : m.keys.Nodup)
    (hm' : m'.keys.Nodup) (h : m.keys.Disjoint m'.keys) (lower : OrderedMap α) (k : String) :
    ((lower.overlay m).overlay m').get? k = ((lower.overlay m').overlay m).get? k := by
  simp only [OrderedMap.get?_overlay hm, OrderedMap.get?_overlay hm']
  refine or_or_comm (fun hboth => ?_) _
  exact h (OrderedMap.isSome_get?_iff.mp hboth.1) (OrderedMap.isSome_get?_iff.mp hboth.2)

/-- Documents that are apart can be laid over a third one in either order. -/
lemma Document.sameParts_overlay_comm {delta delta' : Document}
    {titled titled' versioned versioned' : Bool} (hdelta : delta.UniqueKeys)
    (hdelta' : delta'.UniqueKeys) (h : delta.Apart delta') (htitled : ¬(titled ∧ titled'))
    (hversioned : ¬(versioned ∧ versioned')) (doc : Document) :
    ((doc.overlay titled versioned delta).overlay titled' versioned' delta').SameParts
      ((doc.overlay titled' versioned' delta').overlay titled versioned delta) where
  openapi := rfl
  info := by
    simp only [overlay, Info.mk.injEq]
    cases titled <;> cases titled' <;> cases versioned <;> cases versioned' <;> simp_all
  operations path method := by
    simp only [overlay, PathTable.operation?_overlay hdelta.paths,
      PathTable.operation?_overlay hdelta'.paths]
    exact or_or_comm (h.operations path method) _
  schemas := get?_overlay_overlay_comm hdelta.schemas hdelta'.schemas h.schemas _
  parameters := get?_overlay_overlay_comm hdelta.parameters hdelta'.parameters h.parameters _
  requestBodies :=
    get?_overlay_overlay_comm hdelta.requestBodies hdelta'.requestBodies h.requestBodies _
  responses := get?_overlay_overlay_comm hdelta.responses hdelta'.responses h.responses _
  securitySchemes :=
    get?_overlay_overlay_comm hdelta.securitySchemes hdelta'.securitySchemes h.securitySchemes _
  callbacks := get?_overlay_overlay_comm hdelta.callbacks hdelta'.callbacks h.callbacks _

end OpenApi

namespace Builder

open OpenApi

variable {d d' : Declaration} {ds ds' : List Declaration}

/-! ### Contributions -/

/-- The document that a declaration describes by itself. -/
def Declaration.contribution (d : Declaration) : Document := (d.addTo {}).1

/-- The annotations of a declaration that fail when it stands by itself. -/
def Declaration.diagnostics (d : Declaration) : List Diagnostic := (d.addTo {}).2

lemma uniqueKeys_contribution (d : Declaration) : d.contribution.UniqueKeys :=
  runPass_preserves Rule.uniqueKeys .empty

lemma transported_start (doc : Document) (name : String) :
    (State.start {} name).Transported doc.servers.length (doc.overlay false false)
      (.start doc name) :=
  ⟨doc.overlay_empty.symm, rfl, rfl, rfl⟩

lemma addTo_doc (d : Declaration) (doc : Document) :
    (d.addTo doc).1 = doc.overlay (d.mentions .api) (d.mentions .version) d.contribution := by
  have hdoc := (runPass_overlay d.value d.annotations .empty (.start {} d.name)
    (transported_start doc d.name)).2
  simp only [Bool.false_or] at hdoc
  simp only [Declaration.addTo, Declaration.contribution, Declaration.mentions, hdoc]

lemma addTo_diagnostics (d : Declaration) (doc : Document) : (d.addTo doc).2 = d.diagnostics := by
  have hfailures := (runPass_overlay d.value d.annotations .empty (.start {} d.name)
    (transported_start doc d.name)).1
  simp only [Declaration.addTo, Declaration.diagnostics, hfailures]

/-! ### Any order -/

/-- The declarations write different operations and components, and at most one of them gives the
title, and at most one the version. -/
structure Independent (d d' : Declaration) : Prop where
  contributions : d.contribution.Apart d'.contribution
  api : ¬(d.mentions .api ∧ d'.mentions .api)
  version : ¬(d.mentions .version ∧ d'.mentions .version)

lemma Independent.symm (h : Independent d d') : Independent d' d where
  contributions := h.contributions.symm
  api hboth := h.api hboth.symm
  version hboth := h.version hboth.symm

lemma addTo_congr {doc doc' : Document} (h : doc.SameParts doc') (d : Declaration) :
    (d.addTo doc).1.SameParts (d.addTo doc').1 := by
  rw [addTo_doc, addTo_doc]
  exact h.overlay (uniqueKeys_contribution d)

lemma addTo_comm (h : Independent d d') (doc : Document) :
    (d'.addTo (d.addTo doc).1).1.SameParts (d.addTo (d'.addTo doc).1).1 := by
  simp only [addTo_doc]
  exact Document.sameParts_overlay_comm (uniqueKeys_contribution d) (uniqueKeys_contribution d')
    h.contributions h.api h.version doc

lemma addAll_cons_doc (doc : Document) (d : Declaration) (ds : List Declaration) :
    (addAll doc (d :: ds)).1 = (addAll (d.addTo doc).1 ds).1 := by
  rw [addAll]

lemma addAll_congr {doc doc' : Document} (h : doc.SameParts doc') (ds : List Declaration) :
    (addAll doc ds).1.SameParts (addAll doc' ds).1 := by
  induction ds generalizing doc doc' with
  | nil => exact h
  | cons d ds ih =>
    rw [addAll_cons_doc, addAll_cons_doc]
    exact ih (addTo_congr h d)

/-- Independent declarations make the same parts in whatever order they are added. -/
lemma addAll_perm (hperm : ds.Perm ds') (h : ds.Pairwise Independent) (doc : Document) :
    (addAll doc ds).1.SameParts (addAll doc ds').1 := by
  induction hperm generalizing doc with
  | nil => exact .refl doc
  | cons d _ ih =>
    rw [addAll_cons_doc, addAll_cons_doc]
    exact ih (List.pairwise_cons.mp h).2 _
  | swap d d' rest =>
    have hindependent : Independent d' d := (List.pairwise_cons.mp h).1 d List.mem_cons_self
    simp only [addAll_cons_doc]
    exact addAll_congr (addTo_comm hindependent doc) rest
  | trans hperm _ ih ih' => exact (ih h doc).trans (ih' (hperm.pairwise h Independent.symm) doc)

/-! ### Lists -/

/-- A list to which every declaration adds its own is made of theirs, in order. -/
lemma addAll_list {α : Type} {list : Document → List α}
    (hlist : ∀ titled versioned doc delta,
      list (doc.overlay titled versioned delta) = list doc ++ list delta)
    (doc : Document) (ds : List Declaration) :
    list (addAll doc ds).1 = list doc ++ ds.flatMap fun d => list d.contribution := by
  induction ds generalizing doc with
  | nil => exact (List.append_nil _).symm
  | cons d ds ih =>
    rw [addAll_cons_doc, ih, addTo_doc, hlist, List.flatMap_cons, List.append_assoc]

lemma build_list {α : Type} (list : Document → List α) (hempty : list {} = [])
    (hlist : ∀ titled versioned doc delta,
      list (doc.overlay titled versioned delta) = list doc ++ list delta)
    (ds : List Declaration) : list (build ds).1 = ds.flatMap fun d => list d.contribution := by
  rw [build, addAll_list hlist, hempty, List.nil_append]

lemma addAll_diagnostics (doc : Document) (ds : List Declaration) :
    (addAll doc ds).2 = ds.flatMap (·.diagnostics) := by
  induction ds generalizing doc with
  | nil => rfl
  | cons d ds ih =>
    rw [List.flatMap_cons, ← ih (d.addTo doc).1, ← addTo_diagnostics d doc, addAll]

/-- The order of independent declarations shows only in the order of what they list: the document
has the same parts for every permutation, and its servers, its security requirements, its tags and
the failed annotations are those of the declarations one after the other. -/
theorem build_perm (h : ds.Pairwise Independent) (hperm : ds'.Perm ds) :
    (build ds').1.SameParts (build ds).1 ∧
      (build ds').1.servers = ds'.flatMap (·.contribution.servers) ∧
      (build ds').1.security = ds'.flatMap (·.contribution.security) ∧
      (build ds').1.tags = ds'.flatMap (·.contribution.tags) ∧
      (build ds').2 = ds'.flatMap (·.diagnostics) := by
  refine ⟨?_, ?_, ?_, ?_, addAll_diagnostics {} ds'⟩
  · exact addAll_perm hperm (hperm.symm.pairwise h Independent.symm) {}
  · exact build_list Document.servers rfl (fun _ _ _ _ => rfl) ds'
  · exact build_list Document.security rfl (fun _ _ _ _ => rfl) ds'
  · exact build_list Document.tags rfl (fun _ _ _ _ => rfl) ds'

/-- Two declarations for one path, of which the second registers a component as well and has an
annotation that fails. -/
def listUsers : Declaration :=
  { name := "listUsers", doc := "@Operation GET /users - All users\n@Tag Users" }

def createUser : Declaration :=
  { name := "createUser",
    doc := "@Version 2\n@Response\nDone.\n@Operation POST /users - New user\n@Variable port" }

lemma contribution_listUsers :
    listUsers.contribution =
      { paths := PathTable.setOperation {} "/users" .get
          { tags := ["Users"], summary := "All users" } } := by
  rfl

lemma contribution_createUser :
    createUser.contribution =
      { info := { version := "2" }
        paths := PathTable.setOperation {} "/users" .post { summary := "New user" }
        components := { responses := ⟨[("createUser", { description := "Done." })]⟩ } } := by
  rfl

lemma independent_listUsers_createUser : Independent listUsers createUser where
  contributions := by
    rw [contribution_listUsers, contribution_createUser]
    refine ⟨fun path method => ?_, ?_, ?_, ?_, ?_, ?_, ?_⟩
    · rintro ⟨hget, hpost⟩
      rw [PathTable.operation?_setOperation] at hget hpost
      split_ifs at hget with hmethod
      · rw [if_neg (by simp [← hmethod.2])] at hpost
        cases hpost
      · cases hget
    all_goals exact List.disjoint_nil_left _
  api := by decide
  version := by decide

/-- Two declarations on one path have the same parts and errors in either order. -/
theorem build_perm_users :
    [listUsers, createUser].Pairwise Independent ∧
      [createUser, listUsers].Perm [listUsers, createUser] ∧
      (build [createUser, listUsers]).1.SameParts (build [listUsers, createUser]).1 ∧
      (build [createUser, listUsers]).2.length = 1 := by
  have h : [listUsers, createUser].Pairwise Independent :=
    List.pairwise_pair.mpr independent_listUsers_createUser
  have hperm : [createUser, listUsers].Perm [listUsers, createUser] := .swap ..
  have hbuild := build_perm h hperm
  refine ⟨h, hperm, hbuild.1, ?_⟩
  rw [hbuild.2.2.2.2]
  rfl

end Builder

end ApiScribe
