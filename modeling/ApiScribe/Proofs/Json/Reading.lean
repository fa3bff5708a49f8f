import ApiScribe.Json.Read
import ApiScribe.Proofs.Json.Value

/-!
# Typed readers

Readers take back what is written of lists, maps and records, if every part is taken back. And what
a reader yields has a property if what its parts yield has it, whatever the text is.
-/

namespace ApiScribe.Json.Reader

variable {α β σ : Type}

/-! ### Reading what is written -/

lemma json_ofJson {value : Json} (h : value.Distinct) : json (.ofJson value) = .ok value := by
  rw [json, Tree.toJson_ofJson h]
  rfl

lemma nullable_ofJson {read : Reader α} {json : Json} {value : α} (hjson : json ≠ .null)
    (h : read (.ofJson json) = .ok value) : nullable read (.ofJson json) = .ok (some value) := by
  have hnullable : nullable read (.ofJson json) = (read (.ofJson json)).map some := by
    cases json with
    | null => exact absurd rfl hjson
    | _ => rfl
  rw [hnullable, h]
  rfl

lemma kept_ofJson {read : Reader α} {json : Json} {value : α}
    (h : read (.ofJson json) = .ok value) : kept read (.ofJson json) = .ok value := by
  obtain ⟨json', hjson'⟩ := Tree.exists_toJson_ofJson json
  rw [kept, hjson', h]
  rfl

section Containers

variable {read : Reader β} {write : α → Json} {f : α → β}

lemma items_ofItems {values : List α} (h : ∀ v ∈ values, read (.ofJson (write v)) = .ok (f v)) :
    items read (Tree.ofItems (values.map write)) = .ok (values.map f) := by
  induction values with
  | nil => rfl
  | cons v values ih =>
    obtain ⟨hv, hvalues⟩ := List.forall_mem_cons.mp h
    rw [List.map_cons, Tree.ofItems, items, hv, ih hvalues]
    rfl

lemma list_ofJson {values : List α} (h : ∀ v ∈ values, read (.ofJson (write v)) = .ok (f v)) :
    list read (.ofJson (.array (values.map write))) = .ok (values.map f) := by
  rw [Tree.ofJson, list, items_ofItems h]
  rfl

lemma entries_ofFields {pairs : List (String × α)}
    (h : ∀ e ∈ pairs, read (.ofJson (write e.2)) = .ok (f e.2)) :
    entries read (Tree.ofFields (pairs.map fun e => (e.1, write e.2))) =
      .ok (pairs.map fun e => (e.1, f e.2)) := by
  induction pairs with
  | nil => rfl
  | cons e pairs ih =>
    obtain ⟨he, hpairs⟩ := List.forall_mem_cons.mp h
    rw [List.map_cons, Tree.ofFields, entries, he, ih hpairs]
    rfl

lemma map_ofJson {m : OrderedMap α} (hkeys : m.keys.Nodup)
    (h : ∀ e ∈ m.entries, read (.ofJson (write e.2)) = .ok (f e.2)) :
    map read (.ofJson (.object (m.mapValues write))) = .ok (m.mapValues f) := by
  have hkeys' : (m.mapValues f).keys.Nodup := by rwa [OrderedMap.keys_mapValues]
  rw [OrderedMap.mapValues, Tree.ofJson, map, entries_ofFields h]
  exact congrArg Except.ok (OrderedMap.ofEntries_eq hkeys')

end Containers

/-! ### Reading written records -/

/-- The fields stand in the order of the properties, and reading them turns the first record into
the second one. Only fields that are not required are left out. -/
inductive Fills : List (Property σ) → List (String × Json) → σ → σ → Prop
  | nil (r : σ) : Fills [] [] r r
  | read {known : Property σ} {props : List (Property σ)} {json : Json}
    {fields : List (String × Json)} {r₀ r₁ r : σ}
    (hstore : known.store (.ofJson json) r₀ = .ok r₁) (h : Fills props fields r₁ r) :
    Fills (known :: props) ((known.name, json) :: fields) r₀ r
  | skip {known : Property σ} {props : List (Property σ)} {fields : List (String × Json)}
    {r₀ r : σ} (hoptional : known.required = false) (h : Fills props fields r₀ r) :
    Fills (known :: props) fields r₀ r

/-- A property is found by its name, if no earlier one has the name. -/
lemma find?_name {before props : List (Property σ)} {known : Property σ}
    (h : known.name ∉ before.map (·.name)) :
    (before ++ known :: props).find? (·.name = known.name) = some known := by
  have hnone : before.find? (·.name = known.name) = none := by
    rw [List.find?_eq_none]
    intro p hp hname
    exact h (List.mem_map.mpr ⟨p, hp, of_decide_eq_true hname⟩)
  rw [List.find?_append, hnone, Option.none_or, List.find?_cons_of_pos (by simp)]

/-- The properties before the first one that can still be met may have been seen, no others. -/
lemma readFields_ofFields (closed : Bool) (before : List (Property σ))
    {props : List (Property σ)} {fields : List (String × Json)} {r₀ r : σ} {seen : List String}
    (h : Fills props fields r₀ r)
    (hnodup : ((before ++ props).map (·.name)).Nodup) (hseen : seen ⊆ before.map (·.name)) :
    ∃ seen', readFields closed (before ++ props) { record := r₀, seen } (Tree.ofFields fields) =
      .ok { record := r, seen := seen' } ∧ seen ⊆ seen' ∧
        ∀ known ∈ props, known.required → known.name ∈ seen' := by
  induction h generalizing before seen with
  | nil r => exact ⟨seen, rfl, List.Subset.refl _, List.forall_mem_nil _⟩
  | @read known props json fields r₀ r₁ r hstore h ih =>
    have hfresh : known.name ∉ before.map (·.name) := by
      rw [List.map_append, List.map_cons, List.nodup_append] at hnodup
      exact fun hmem => hnodup.2.2 _ hmem _ List.mem_cons_self rfl
    have hunseen : known.name ∉ seen := fun hmem => hfresh (hseen hmem)
    have hseen' : known.name :: seen ⊆ (before ++ [known]).map (·.name) := by
      simpa using List.subset_append_of_subset_left _ hseen
    obtain ⟨seen', hread, hsub, hrequired⟩ :=
      ih (before ++ [known]) (by rwa [← List.append_cons]) hseen'
    refine ⟨seen', ?_, fun name hname => hsub (List.mem_cons_of_mem _ hname), ?_⟩
    · rw [Tree.ofFields, readFields, readField, find?_name hfresh]
      simp only [if_neg hunseen, hstore]
      rwa [← List.append_cons] at hread
    · exact List.forall_mem_cons.mpr ⟨fun _ => hsub List.mem_cons_self, hrequired⟩
  | @skip known props fields r₀ r hoptional h ih =>
    have hseen' : seen ⊆ (before ++ [known]).map (·.name) := by
      simpa using List.subset_append_of_subset_left _ hseen
    obtain ⟨seen', hread, hsub, hrequired⟩ :=
      ih (before ++ [known]) (by rwa [← List.append_cons]) hseen'
    refine ⟨seen', by rwa [← List.append_cons] at hread, hsub, ?_⟩
    exact List.forall_mem_cons.mpr ⟨fun h => by simp [hoptional] at h, hrequired⟩

lemma record_ofJson {closed : Bool} {blank r : σ} {props : List (Property σ)}
    {fields : List (String × Json)} (h : Fills props fields blank r)
    (hnodup : (props.map (·.name)).Nodup) :
    record closed blank props (.ofJson (.object ⟨fields⟩)) = .ok r := by
  obtain ⟨seen, hread, -, hrequired⟩ :=
    readFields_ofFields closed [] h hnodup (List.nil_subset _)
  have hall : props.all fun known => !known.required || seen.contains known.name := by
    rw [List.all_eq_true]
    intro known hknown
    by_cases hreq : known.required
    · simpa [hreq] using hrequired known hknown hreq
    · simp [hreq]
  rw [Tree.ofJson, record, ← List.nil_append props, hread]
  exact if_pos hall

section Fields

variable {name : String} {read : Reader α} {set : α → σ → σ} {props : List (Property σ)}
  {fields : List (String × Json)} {value : α} {r₀ r : σ}

/-- What may be written of a field: nothing if its value is the default, or else the value. -/
inductive Written (read : Reader α) (name : String) (default value : α) :
    List (String × Json) → Prop
  | omitted (h : value = default) : Written read name default value []
  | field {json : Json} (h : read (.ofJson json) = .ok value) :
    Written read name default value [(name, json)]

lemma Fills.field {json : Json} (required : Bool) (hread : read (.ofJson json) = .ok value)
    (h : Fills props fields (set value r₀) r) :
    Fills (field name read set required :: props) ((name, json) :: fields) r₀ r := by
  have hstore : (Reader.field name read set required).store (.ofJson json) r₀ =
      .ok (set value r₀) := by
    change (read (.ofJson json)).map (set · r₀) = _
    rw [hread]
    rfl
  exact .read hstore h

/-- A field that is left out must be at its default in the record so far. -/
lemma Fills.written {default : α} {segment : List (String × Json)}
    (hwritten : Written read name default value segment) (hdefault : set default r₀ = r₀)
    (h : Fills props fields (set value r₀) r) :
    Fills (Reader.field name read set :: props) (segment ++ fields) r₀ r := by
  cases hwritten with
  | omitted hvalue =>
    rw [hvalue, hdefault] at h
    exact .skip rfl h
  | field hread => exact .field false hread h

lemma Fills.last {default : α} {segment : List (String × Json)}
    (hwritten : Written read name default value segment) (hdefault : set default r₀ = r₀) :
    Fills [Reader.field name read set] segment r₀ (set value r₀) :=
  List.append_nil segment ▸ .written hwritten hdefault (.nil _)

end Fields

/-! ### What readers yield -/

/-- Whatever is read has the property. -/
def Yields (P : α → Prop) (read : Reader α) : Prop := ∀ tree value, read tree = .ok value → P value

section Yields

variable {P : α → Prop} {read : Reader α}

lemma toJson_of_json {tree : Tree} {value : Json} (h : json tree = .ok value) :
    tree.toJson = .ok value := by
  rw [json] at h
  cases hvalue : tree.toJson with
  | error fault => rw [hvalue] at h; cases h
  | ok value' => rw [hvalue] at h; cases h; rfl

lemma yields_json : Yields Json.Distinct json :=
  fun _ _ h => Tree.distinct_of_toJson (toJson_of_json h)

lemma endOf_eq_ok {stop : Option Fault} {value value' : α} (h : endOf stop value = .ok value') :
    value = value' := by
  cases stop with
  | none => cases h; rfl
  | some fault => cases h

lemma forall_of_items (h : Yields P read) {trees : List Tree} {values : List α}
    (hvalues : items read trees = .ok values) : ∀ v ∈ values, P v := by
  induction trees generalizing values with
  | nil => cases hvalues; exact List.forall_mem_nil _
  | cons tree trees ih =>
    obtain ⟨v, hv, hvalues⟩ := exists_of_bind_eq_ok hvalues
    obtain ⟨vs, hvs, hvalues⟩ := exists_of_bind_eq_ok hvalues
    cases hvalues
    exact List.forall_mem_cons.mpr ⟨h tree v hv, ih hvs⟩

lemma forall_of_entries (h : Yields P read) {fields : List (Label × Tree)}
    {values : List (String × α)} (hvalues : entries read fields = .ok values) :
    ∀ e ∈ values, P e.2 := by
  induction fields generalizing values with
  | nil => cases hvalues; exact List.forall_mem_nil _
  | cons field fields ih =>
    obtain ⟨label, tree⟩ := field
    cases label with
    | flawed fault => cases hvalues
    | name name =>
      obtain ⟨v, hv, hvalues⟩ := exists_of_bind_eq_ok hvalues
      obtain ⟨vs, hvs, hvalues⟩ := exists_of_bind_eq_ok hvalues
      cases hvalues
      exact List.forall_mem_cons.mpr ⟨h tree v hv, ih hvs⟩

lemma yields_list (h : Yields P read) : Yields (fun values => ∀ v ∈ values, P v) (list read) := by
  intro tree values hvalues
  unfold list at hvalues
  split at hvalues
  · obtain ⟨vs, hvs, hvalues⟩ := exists_of_bind_eq_ok hvalues
    obtain rfl := endOf_eq_ok hvalues
    exact forall_of_items h hvs
  · cases hvalues
  · cases hvalues

lemma yields_map (h : Yields P read) : Yields (OrderedMap.Each P) (map read) := by
  intro tree m hm
  unfold map at hm
  split at hm
  · obtain ⟨values, hvalues, hm⟩ := exists_of_bind_eq_ok hm
    obtain rfl := endOf_eq_ok hm
    exact .ofEntries (forall_of_entries h hvalues)
  · cases hm
  · cases hm

lemma yields_nullable (h : Yields P read) :
    Yields (fun value => ∀ v ∈ value, P v) (nullable read) := by
  intro tree value hvalue
  unfold nullable at hvalue
  split at hvalue
  · cases hvalue
    rintro _ ⟨⟩
  · obtain ⟨v, hv, rfl⟩ := exists_of_map_eq_ok hvalue
    rintro _ ⟨⟩
    exact h _ v hv

lemma yields_any (read : Reader α) : Yields (fun _ => True) read := fun _ _ _ => trivial

/-! ### What records are made of -/

/-- Storing a field in a record that has the property leaves one that has it. -/
def Property.Keeps (P : σ → Prop) (known : Property σ) : Prop :=
  ∀ tree r r', known.store tree r = .ok r' → P r → P r'

variable {I : σ → Prop} {blank : σ} {props : List (Property σ)}

lemma keeps_field {name : String} {set : α → σ → σ} {required : Bool} (h : Yields P read)
    (hset : ∀ v r, P v → I r → I (set v r)) : (field name read set required).Keeps I := by
  intro tree r r' hstore hr
  obtain ⟨v, hv, rfl⟩ := exists_of_map_eq_ok hstore
  exact hset v r (h tree v hv) hr

lemma keeps_any {name : String} {set : α → σ → σ} {required : Bool}
    (hset : ∀ v r, I r → I (set v r)) : (field name read set required).Keeps I :=
  keeps_field (yields_any read) fun v r _ => hset v r

lemma readField_keeps (h : ∀ known ∈ props, known.Keeps I) {closed : Bool} {p p' : Partial σ}
    {entry : Label × Tree} (hread : readField closed props p entry = .ok p') (hp : I p.record) :
    I p'.record := by
  obtain ⟨label, tree⟩ := entry
  cases label with
  | flawed fault => cases hread
  | name name =>
    rw [readField] at hread
    split at hread
    next known hknown =>
      split_ifs at hread
      obtain ⟨r, hr, hread⟩ := exists_of_bind_eq_ok hread
      cases hread
      exact h known (List.mem_of_find?_eq_some hknown) tree _ _ hr hp
    next =>
      split_ifs at hread
      obtain ⟨-, -, hread⟩ := exists_of_bind_eq_ok hread
      cases hread
      exact hp

lemma readFields_keeps (h : ∀ known ∈ props, known.Keeps I) {closed : Bool} {p p' : Partial σ}
    {entries : List (Label × Tree)} (hread : readFields closed props p entries = .ok p')
    (hp : I p.record) : I p'.record := by
  induction entries generalizing p with
  | nil => cases hread; exact hp
  | cons entry entries ih =>
    obtain ⟨next, hnext, hread⟩ := exists_of_bind_eq_ok hread
    exact ih hread (readField_keeps h hnext hp)

lemma readPositions_keeps (h : ∀ known ∈ props, known.Keeps I) {r r' : σ} {trees : List Tree}
    {stop : Option Fault} (hread : readPositions r props trees stop = .ok r') (hr : I r) :
    I r' := by
  fun_induction readPositions r props trees stop with
  | case1 r known fields tree trees stop ih =>
    obtain ⟨hknown, hfields⟩ := List.forall_mem_cons.mp h
    obtain ⟨r₁, hr₁, hread⟩ := exists_of_bind_eq_ok hread
    exact ih _ hfields hread (hknown tree _ _ hr₁ hr)
  | case2 => cases hread
  | case3 => cases hread
  | case4 r known fields hoptional ih => exact ih (List.forall_mem_cons.mp h).2 hread hr
  | case5 => cases hread
  | case6 => cases hread
  | case7 r stop => obtain rfl := endOf_eq_ok hread; exact hr

lemma yields_record (closed : Bool) (hblank : I blank) (h : ∀ known ∈ props, known.Keeps I) :
    Yields I (record closed blank props) := by
  intro tree r hr
  unfold record at hr
  split at hr
  · obtain ⟨p, hp, hr⟩ := exists_of_bind_eq_ok hr
    obtain ⟨p', hp', hr⟩ := exists_of_bind_eq_ok hr
    obtain rfl := endOf_eq_ok hp'
    split_ifs at hr
    cases hr
    exact readFields_keeps h hp hblank
  · exact readPositions_keeps h hr hblank
  · cases hr
  · cases hr
  · cases hr

end Yields

end ApiScribe.Json.Reader
