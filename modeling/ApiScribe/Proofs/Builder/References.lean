import ApiScribe.Proofs.Builder.Confinement
import ApiScribe.Proofs.Builder.Forms
import ApiScribe.Proofs.Locating

/-!
# References and the components they name

The target of a reference is a pointer into the document after a `#`. It has the key of the
component as it is, so it leads to the component exactly if the key has nothing to escape.
-/

namespace ApiScribe

namespace OpenApi

open Json.Pointer (Literal)

/-- The pointer in the target of a reference, which stands after a `#`. -/
def Reference.pointer? (r : Reference) : Option String :=
  match r.target.toList with
  | '#' :: cs => some (.ofList cs)
  | _ => none

/-- The reference leads to the place in the value that steps lead to. -/
def Reference.LeadsTo (r : Reference) (json : Json) (steps : List Json.Step) : Prop :=
  r.pointer?.bind json.resolve? = some steps

instance (r : Reference) (json : Json) (steps : List Json.Step) :
    Decidable (r.LeadsTo json steps) :=
  inferInstanceAs (Decidable (r.pointer?.bind json.resolve? = some steps))

/-- The steps to the component of a kind with a key. -/
def componentSteps (kind : ComponentKind) (id : String) : List Json.Step :=
  [.field "components", .field kind.name, .field id]

lemma pointer?_component (kind : ComponentKind) (id : String) :
    (Reference.component kind id).pointer? =
      some ("/" ++ "components" ++ "/" ++ kind.name ++ "/" ++ id) := by
  have hroot : "#/components/".toList = '#' :: ("/" ++ "components" ++ "/").toList := by decide
  have hchars : (Reference.component kind id).target.toList =
      '#' :: ("/" ++ "components" ++ "/" ++ kind.name ++ "/" ++ id).toList := by
    unfold Reference.component
    simp only [String.toList_append, hroot, List.cons_append]
  simp only [Reference.pointer?, hchars, String.ofList_toList]

/-- The reference to a component leads to it exactly if nothing in its key is to be escaped. -/
lemma leadsTo_component_iff {doc : Document} {kind : ComponentKind} {id : String} {json : Json}
    (h : (doc.components.written kind).get? id = some json) :
    (Reference.component kind id).LeadsTo doc.toJson (componentSteps kind id) ↔ Literal id := by
  have hcomponents : Literal "components" := by decide
  have hkind : Literal kind.name := by cases kind <;> decide
  have hfollow := follow?_component h
  rw [← Json.Pointer.tokens?_eq_iff hcomponents hkind, Reference.LeadsTo, pointer?_component,
    Option.bind_some, Json.resolve?, Option.bind_eq_some_iff]
  have hlocate (tokens : List String) :
      doc.toJson.locate? tokens = some (componentSteps kind id) ↔
        tokens = ["components", kind.name, id] := by
    have hfields := @Json.locate?_eq_fields_iff doc.toJson tokens ["components", kind.name, id]
    simp only [List.map_cons, List.map_nil, hfollow, Option.isSome_some, and_true] at hfields
    exact hfields
  simp only [hlocate, exists_eq_right]

end OpenApi

namespace Builder

open OpenApi
open Json.Pointer (Literal)

/-! ### Parameters with a component ID -/

namespace Argument

/-- A parameter with a name and a location is no reference. -/
lemma reference?_of_parameter? {argument : String} {parsed : String × String × Option String}
    (h : parameter? argument = some parsed) : reference? argument = none := by
  rw [Option.eq_none_iff_forall_ne_some]
  intro id href
  have hbare : Text.Bare argument := by
    rw [eq_braced_of_reference? href]
    exact bare_braced (bare_of_reference? href)
  have hrest : argument.toList.dropWhile (!Text.isBlank ·) = [] := by
    rw [List.dropWhile_eq_nil_iff]
    intro c hc
    simp [hbare.not_blank c hc]
  simp only [parameter?_eq, Option.bind_eq_some_iff] at h
  obtain ⟨⟨name, cs⟩, hname, ⟨location, cs'⟩, hlocation, -⟩ := h
  obtain ⟨-, -, rfl⟩ := Text.word?_eq_some_iff.mp hname
  rw [hrest] at hlocation
  cases hlocation

end Argument

variable {value : Option String} {s : State} {a : Annotation}

/-- A parameter that is declared with a component ID is registered under it, and the operation in
scope gets a reference to it. -/
lemma attempt_namedParameter {name word id : String} {location : ParameterLocation}
    {place : OperationPlace} (hs : Coherent s.doc s.pass) (hkind : a.kind = .parameter)
    (hparsed : Argument.parameter? a.argument = some (name, word, some id))
    (hlocation : ParameterLocation.ofName? word = some location)
    (hscope : s.pass.scope.operation? = some place) :
    ∃ next o, attempt value s a = (next, .done) ∧ s.doc.operation? place = some o ∧
      next.doc.operation? place =
        some { o with parameters := o.parameters ++ [.ref (.component .parameters id)] } ∧
      next.doc.components.parameters.get? id = some (.declare name location a.bodyText) := by
  obtain ⟨o, ho⟩ := Option.isSome_iff_exists.mp (hs.operation place hscope)
  have hheader : parameterHeader a.argument = .ok (name, location, some id) := by
    have hword : choose .parameterLocation ParameterLocation.ofName? word = .ok location := by
      rw [choose, hlocation]
    rw [parameterHeader, hparsed]
    change (choose .parameterLocation ParameterLocation.ofName? word >>= fun found =>
      .ok (name, found, some id)) = _
    rw [hword]
    rfl
  have hrule := @Rule.namedParameter value s a name location id _ hkind
    (Argument.reference?_of_parameter? hparsed) hheader hscope fun _ hmem => by
      cases hmem
      exact hs.operation place hscope
  refine ⟨_, o, hrule.attempt_eq (by simp), ho, ?_, ?_⟩
  · simp only [referToParameter, addParameter, Document.operation?_modifyOperation_self,
      operation?_registerParameter, ho, Option.map_some, parameterReference]
  · rw [referToParameter, addParameter, Document.modifyOperation, Document.modifyPaths_frame]
    exact OrderedMap.get?_insert_self _ _ _

/-- The reference to a component leads to it, wherever the component is found in a document, exactly
if its key has neither a slash nor a tilde. So it does for the reference that an operation gets
together with a parameter that is declared with a component ID. -/
theorem component_reference_leads_iff (id : String) :
    (∀ (doc : Document) (kind : ComponentKind) (json : Json),
      (doc.components.written kind).get? id = some json →
        doc.toJson.follow? (componentSteps kind id) = some json ∧
        ((Reference.component kind id).LeadsTo doc.toJson (componentSteps kind id) ↔
          '/' ∉ id.toList ∧ '~' ∉ id.toList)) ∧
    ∀ (value : Option String) (doc : Document) (owner : String) (annotations : List Annotation)
      (a : Annotation) (name word : String) (location : ParameterLocation)
      (place : OperationPlace),
      let s := (run value (.start doc owner) annotations).1
      a.kind = .parameter → Argument.parameter? a.argument = some (name, word, some id) →
      ParameterLocation.ofName? word = some location → s.pass.scope.operation? = some place →
        ∃ next o reference, attempt value s a = (next, .done) ∧
          s.doc.operation? place = some o ∧
          next.doc.operation? place =
            some { o with parameters := o.parameters ++ [.ref reference] } ∧
          next.doc.toJson.follow? (componentSteps .parameters id) =
            some (Parameter.declare name location a.bodyText).toJson ∧
          (reference.LeadsTo next.doc.toJson (componentSteps .parameters id) ↔
            '/' ∉ id.toList ∧ '~' ∉ id.toList) := by
  constructor
  · intro doc kind json h
    exact ⟨follow?_component h, leadsTo_component_iff h⟩
  · intro value doc owner annotations a name word location place s hkind hparsed hlocation hscope
    have hs : Coherent s.doc s.pass := run_coherent (.start doc owner) annotations
    obtain ⟨next, o, hattempt, ho, hnext, hparameter⟩ :=
      @attempt_namedParameter value _ _ _ _ _ _ _ hs hkind hparsed hlocation hscope
    have hwritten : (next.doc.components.written .parameters).get? id =
        some (Parameter.declare name location a.bodyText).toJson := by
      rw [Components.written, OrderedMap.get?_mapValues, hparameter, Option.map_some]
    exact ⟨next, o, _, hattempt, ho, hnext, follow?_component hwritten,
      leadsTo_component_iff hwritten⟩

/-- An operation, and a parameter that is to be a component. -/
def showAccount : Annotation := { kind := .operation, argument := "GET /account - Account" }

def accountId : Annotation := { kind := .parameter, argument := "id query as AccountID" }

/-- The reference to the parameter leads to the component that it was declared as. -/
theorem accountId_reference_leads :
    let s := (run none (.start {} "") [showAccount]).1
    let doc := (run none (.start {} "") [showAccount, accountId]).1.doc
    (doc.components.written .parameters).get? "AccountID" =
        some (Parameter.declare "id" .query "").toJson ∧
      (Reference.component .parameters "AccountID").LeadsTo doc.toJson
        (componentSteps .parameters "AccountID") ∧
      accountId.kind = .parameter ∧
      Argument.parameter? accountId.argument = some ("id", "query", some "AccountID") ∧
      ParameterLocation.ofName? "query" = some .query ∧
      s.pass.scope.operation? = some ⟨.document, "/account", .get⟩ ∧
      ∃ (next : State) (reference : Reference), attempt none s accountId = (next, .done) ∧
        reference.LeadsTo next.doc.toJson (componentSteps .parameters "AccountID") := by
  intro s doc
  have hwritten : (doc.components.written .parameters).get? "AccountID" =
      some (Parameter.declare "id" .query "").toJson := rfl
  have hscope : s.pass.scope.operation? = some ⟨.document, "/account", .get⟩ := rfl
  obtain ⟨hcomponents, hdeclared⟩ := component_reference_leads_iff "AccountID"
  obtain ⟨next, o, reference, hattempt, -, -, -, hleads⟩ :=
    hdeclared none {} "" [showAccount] accountId "id" "query" .query _ rfl rfl rfl hscope
  exact ⟨hwritten, (hcomponents doc .parameters _ hwritten).2.mpr (by decide), rfl, rfl,
    rfl, hscope, next, reference, hattempt, hleads.mpr (by decide)⟩

/-- A parameter with a slash in its component ID. -/
def slashedId : Annotation := { kind := .parameter, argument := "id query as account/id" }

/-- The operation gets a reference that leads nowhere, while one with the slash escaped leads to the
parameter. -/
theorem slashedId_reference_lost :
    let doc := (runPass none (.start {} "") [showAccount, slashedId]).1.doc
    (runPass none (.start {} "") [showAccount, slashedId]).2 = [] ∧
      (doc.components.written .parameters).get? "account/id" =
        some (Parameter.declare "id" .query "").toJson ∧
      (doc.operation? ⟨.document, "/account", .get⟩).map (·.parameters) =
        some [.ref (.component .parameters "account/id")] ∧
      (Reference.component .parameters "account/id").pointer?.bind doc.toJson.resolve? = none ∧
      ({ target := "#/components/parameters/account~1id" } : Reference).LeadsTo doc.toJson
        (componentSteps .parameters "account/id") := by
  intro doc
  exact ⟨rfl, rfl, rfl, by decide, by decide⟩

end Builder

end ApiScribe
