import ApiScribe.OrderedMap
import Mathlib.Data.List.Nodup
import Mathlib.Tactic.Common

/-!
# Laws of ordered maps

What insertion and modification do to look-up, to the entries and to the keys, and how a map that is
laid over another one behaves under them.
-/

namespace ApiScribe.OrderedMap

variable {α : Type} {m m' : OrderedMap α} {k k' : String} {v v' : α}

lemma ext_entries (h : m.entries = m'.entries) : m = m' := by
  cases m; cases m'; exact congrArg mk h

/-! ### Look-up -/

lemma lookup_upsert (entries : List (String × α)) (k k' : String) (v : α) :
    lookup k' (upsert k v entries) = if k = k' then some v else lookup k' entries := by
  induction entries with
  | nil => rfl
  | cons e rest ih =>
    obtain ⟨k₀, v₀⟩ := e
    by_cases hk : k₀ = k
    · subst hk
      simp only [upsert, lookup, if_pos]
      split_ifs <;> rfl
    · simp only [upsert, lookup, if_neg hk, ih]
      by_cases hk' : k₀ = k'
      · subst hk'; simp [Ne.symm hk]
      · simp [hk']

lemma lookup_adjust (entries : List (String × α)) (k k' : String) (f : α → α) :
    lookup k' (adjust k f entries) =
      if k = k' then (lookup k' entries).map f else lookup k' entries := by
  induction entries with
  | nil => simp [adjust, lookup]
  | cons e rest ih =>
    obtain ⟨k₀, v₀⟩ := e
    by_cases hk : k₀ = k
    · subst hk
      simp only [adjust, lookup, if_pos]
      split_ifs <;> rfl
    · simp only [adjust, lookup, if_neg hk, ih]
      by_cases hk' : k₀ = k'
      · subst hk'; simp [Ne.symm hk]
      · simp [hk']

lemma get?_insert (m : OrderedMap α) (k k' : String) (v : α) :
    (m.insert k v).get? k' = if k = k' then some v else m.get? k' :=
  lookup_upsert m.entries k k' v

lemma get?_modify (m : OrderedMap α) (k k' : String) (f : α → α) :
    (m.modify k f).get? k' = if k = k' then (m.get? k').map f else m.get? k' :=
  lookup_adjust m.entries k k' f

@[simp] lemma get?_insert_self (m : OrderedMap α) (k : String) (v : α) :
    (m.insert k v).get? k = some v := by
  rw [get?_insert, if_pos rfl]

@[simp] lemma get?_modify_self (m : OrderedMap α) (k : String) (f : α → α) :
    (m.modify k f).get? k = (m.get? k).map f := by
  rw [get?_modify, if_pos rfl]

lemma get?_insert_of_ne (h : k ≠ k') (v : α) : (m.insert k v).get? k' = m.get? k' := by
  rw [get?_insert, if_neg h]

lemma get?_modify_of_ne (h : k ≠ k') (f : α → α) : (m.modify k f).get? k' = m.get? k' := by
  rw [get?_modify, if_neg h]

lemma isSome_get?_insert (v : α) (h : (m.get? k').isSome) : ((m.insert k v).get? k').isSome := by
  rw [get?_insert]
  split_ifs
  · rfl
  · exact h

@[simp] lemma isSome_get?_modify (m : OrderedMap α) (k k' : String) (f : α → α) :
    ((m.modify k f).get? k').isSome = (m.get? k').isSome := by
  rw [get?_modify]
  split_ifs
  · exact Option.isSome_map
  · rfl

/-! ### Entries -/

lemma mem_entries_of_get? (h : m.get? k = some v) : (k, v) ∈ m.entries := by
  obtain ⟨entries⟩ := m
  change lookup k entries = some v at h
  induction entries with
  | nil => cases h
  | cons e rest ih =>
    obtain ⟨k₀, v₀⟩ := e
    simp only [lookup] at h
    split_ifs at h with hk
    · cases h; subst hk; exact List.mem_cons_self
    · exact List.mem_cons_of_mem _ (ih h)

lemma mem_entries_insert {e : String × α} (h : e ∈ (m.insert k v).entries) :
    e = (k, v) ∨ e ∈ m.entries := by
  obtain ⟨entries⟩ := m
  change e ∈ upsert k v entries at h
  induction entries with
  | nil => exact Or.inl (List.mem_singleton.mp h)
  | cons e₀ rest ih =>
    obtain ⟨k₀, v₀⟩ := e₀
    simp only [upsert] at h
    split_ifs at h with hk
    · rcases List.mem_cons.mp h with rfl | h
      · exact Or.inl (by rw [hk])
      · exact Or.inr (List.mem_cons_of_mem _ h)
    · rcases List.mem_cons.mp h with rfl | h
      · exact Or.inr List.mem_cons_self
      · exact (ih h).imp_right (List.mem_cons_of_mem _)

lemma mem_entries_modify {f : α → α} {e : String × α} (h : e ∈ (m.modify k f).entries) :
    e ∈ m.entries ∨ ∃ v, (k, v) ∈ m.entries ∧ e = (k, f v) := by
  obtain ⟨entries⟩ := m
  change e ∈ adjust k f entries at h
  induction entries with
  | nil => exact Or.inl h
  | cons e₀ rest ih =>
    obtain ⟨k₀, v₀⟩ := e₀
    simp only [adjust] at h
    split_ifs at h with hk
    · subst hk
      rcases List.mem_cons.mp h with rfl | h
      · exact Or.inr ⟨v₀, List.mem_cons_self, rfl⟩
      · exact Or.inl (List.mem_cons_of_mem _ h)
    · rcases List.mem_cons.mp h with rfl | h
      · exact Or.inl List.mem_cons_self
      · rcases ih h with h | ⟨v, hv, rfl⟩
        · exact Or.inl (List.mem_cons_of_mem _ h)
        · exact Or.inr ⟨v, List.mem_cons_of_mem _ hv, rfl⟩

/-- A property of all entries survives the insertion of an entry that has it. -/
lemma forall_entries_insert {P : String × α → Prop} (h : ∀ e ∈ m.entries, P e) (hv : P (k, v)) :
    ∀ e ∈ (m.insert k v).entries, P e := by
  intro e he
  rcases mem_entries_insert he with rfl | he
  · exact hv
  · exact h e he

lemma forall_entries_modify {P : String × α → Prop} {f : α → α} (h : ∀ e ∈ m.entries, P e)
    (hf : ∀ v, P (k, v) → P (k, f v)) : ∀ e ∈ (m.modify k f).entries, P e := by
  intro e he
  rcases mem_entries_modify he with he | ⟨v, hv, rfl⟩
  · exact h e he
  · exact hf v (h _ hv)

/-! ### Keys -/

lemma isSome_get?_iff : (m.get? k).isSome ↔ k ∈ m.keys := by
  obtain ⟨entries⟩ := m
  change (lookup k entries).isSome ↔ k ∈ entries.map (·.1)
  induction entries with
  | nil => simp [lookup]
  | cons e rest ih =>
    obtain ⟨k₀, v₀⟩ := e
    simp only [lookup, List.map_cons, List.mem_cons]
    split_ifs with hk
    · simp [hk]
    · rw [ih]; simp [Ne.symm hk]

lemma get?_eq_none_iff : m.get? k = none ↔ k ∉ m.keys := by
  rw [← isSome_get?_iff, Option.not_isSome_iff_eq_none]

lemma get?_of_mem (h : m.keys.Nodup) (hmem : (k, v) ∈ m.entries) : m.get? k = some v := by
  obtain ⟨entries⟩ := m
  change lookup k entries = some v
  induction entries with
  | nil => cases hmem
  | cons e rest ih =>
    obtain ⟨k₀, v₀⟩ := e
    obtain ⟨hk₀, hrest⟩ := List.nodup_cons.mp h
    rcases List.mem_cons.mp hmem with heq | hmem
    · cases heq
      exact if_pos rfl
    · have hne : k₀ ≠ k := by
        rintro rfl
        exact hk₀ (List.mem_map.mpr ⟨_, hmem, rfl⟩)
      rw [lookup, if_neg hne]
      exact ih hrest hmem

/-- A map is its keys, in order, and what they are mapped to. -/
lemma ext_get? (h : m.keys.Nodup) (hkeys : m.keys = m'.keys) (hget : ∀ k, m.get? k = m'.get? k) :
    m = m' := by
  have hentries {m : OrderedMap α} (h : m.keys.Nodup) :
      m.entries = m.keys.filterMap fun k => (m.get? k).map (Prod.mk k) := by
    rw [keys, List.filterMap_map]
    refine (List.filterMap_some.symm).trans (List.filterMap_congr fun e he => ?_)
    rw [Function.comp_apply, get?_of_mem h he]
    rfl
  apply ext_entries
  rw [hentries h, hentries (hkeys ▸ h), hkeys]
  simp only [hget]

lemma keys_insert (m : OrderedMap α) (k : String) (v : α) :
    (m.insert k v).keys = if k ∈ m.keys then m.keys else m.keys ++ [k] := by
  obtain ⟨entries⟩ := m
  change (upsert k v entries).map (·.1) =
    if k ∈ entries.map (·.1) then entries.map (·.1) else entries.map (·.1) ++ [k]
  induction entries with
  | nil => simp [upsert]
  | cons e rest ih =>
    obtain ⟨k₀, v₀⟩ := e
    by_cases hk : k₀ = k
    · simp [upsert, hk]
    · simp only [upsert, if_neg hk, List.map_cons, ih, List.mem_cons, Ne.symm hk, false_or]
      split_ifs <;> rfl

@[simp] lemma keys_modify (m : OrderedMap α) (k : String) (f : α → α) :
    (m.modify k f).keys = m.keys := by
  obtain ⟨entries⟩ := m
  change (adjust k f entries).map (·.1) = entries.map (·.1)
  induction entries with
  | nil => rfl
  | cons e rest ih =>
    obtain ⟨k₀, v₀⟩ := e
    by_cases hk : k₀ = k
    · simp [adjust, hk]
    · simp [adjust, hk, ih]

lemma nodup_keys_insert (h : m.keys.Nodup) (k : String) (v : α) : (m.insert k v).keys.Nodup := by
  rw [keys_insert]
  split_ifs with hk
  · exact h
  · rw [List.nodup_append]
    refine ⟨h, List.nodup_singleton k, ?_⟩
    rintro a ha b hb rfl
    exact hk (List.mem_singleton.mp hb ▸ ha)

lemma nodup_keys_modify (h : m.keys.Nodup) (k : String) (f : α → α) :
    (m.modify k f).keys.Nodup := by
  rw [keys_modify]
  exact h

lemma notMem_keys_erase (m : OrderedMap α) (k : String) : k ∉ (m.erase k).keys := by
  intro h
  obtain ⟨e, he, hkey⟩ := List.mem_map.mp h
  have hne := (List.mem_filter.mp he).2
  exact of_decide_eq_true hne hkey

lemma erase_of_notMem (h : k ∉ m.keys) : m.erase k = m := by
  apply ext_entries
  refine List.filter_eq_self.mpr fun e he => decide_eq_true fun hkey => h ?_
  exact List.mem_map.mpr ⟨e, he, hkey⟩

/-! ### Changes one after the other -/

lemma modify_id (m : OrderedMap α) (k : String) : (m.modify k fun v => v) = m := by
  obtain ⟨entries⟩ := m
  apply ext_entries
  change adjust k (fun v => v) entries = entries
  induction entries with
  | nil => rfl
  | cons e rest ih =>
    obtain ⟨k₀, v₀⟩ := e
    rw [adjust, ih, ite_self]

lemma modify_modify (m : OrderedMap α) (k : String) (f g : α → α) :
    (m.modify k f).modify k g = m.modify k fun v => g (f v) := by
  obtain ⟨entries⟩ := m
  apply ext_entries
  change adjust k g (adjust k f entries) = adjust k (fun v => g (f v)) entries
  induction entries with
  | nil => rfl
  | cons e rest ih =>
    obtain ⟨k₀, v₀⟩ := e
    by_cases hk : k₀ = k
    · simp [adjust, hk]
    · simp [adjust, hk, ih]

/-! ### Insertions one after the other -/

lemma insert_insert_self (m : OrderedMap α) (k : String) (v v' : α) :
    (m.insert k v).insert k v' = m.insert k v' := by
  obtain ⟨entries⟩ := m
  apply ext_entries
  change upsert k v' (upsert k v entries) = upsert k v' entries
  induction entries with
  | nil => simp [upsert]
  | cons e rest ih =>
    obtain ⟨k₀, v₀⟩ := e
    by_cases hk : k₀ = k
    · simp [upsert, hk]
    · simp [upsert, hk, ih]

/-- Only the insertion of two new keys depends on the order. -/
lemma insert_comm (hne : k ≠ k') (h : (m.get? k).isSome) (v v' : α) :
    (m.insert k v).insert k' v' = (m.insert k' v').insert k v := by
  obtain ⟨entries⟩ := m
  apply ext_entries
  change upsert k' v' (upsert k v entries) = upsert k v (upsert k' v' entries)
  change (lookup k entries).isSome at h
  induction entries with
  | nil => cases h
  | cons e rest ih =>
    obtain ⟨k₀, v₀⟩ := e
    by_cases hk : k₀ = k
    · subst hk
      simp [upsert, hne]
    · by_cases hk' : k₀ = k'
      · subst hk'
        simp [upsert, hk]
      · simp only [lookup, if_neg hk] at h
        simp [upsert, hk, hk', ih h]

lemma modify_eq_insert {f : α → α} (h : m.get? k = some v) : m.modify k f = m.insert k (f v) := by
  obtain ⟨entries⟩ := m
  apply ext_entries
  change adjust k f entries = upsert k (f v) entries
  change lookup k entries = some v at h
  induction entries with
  | nil => cases h
  | cons e rest ih =>
    obtain ⟨k₀, v₀⟩ := e
    simp only [lookup] at h
    split_ifs at h with hk
    · cases h
      simp [adjust, upsert, hk]
    · simp [adjust, upsert, hk, ih h]

lemma insert_of_get? (h : m.get? k = some v) : m.insert k v = m := by
  rw [← modify_eq_insert (f := fun v => v) h, modify_id]

lemma modify_of_get? {f : α → α} (h : m.get? k = some v) (hf : f v = v) : m.modify k f = m := by
  rw [modify_eq_insert h, hf, insert_of_get? h]

/-! ### One map laid over another -/

/-- Insert the entries of `m'` into `m`, in their order, each combined with what `m` has under its
key. -/
def mergeWith (f : Option α → α → α) (m m' : OrderedMap α) : OrderedMap α :=
  m'.entries.foldl (fun acc e => acc.insert e.1 (f (acc.get? e.1) e.2)) m

lemma overlay_eq_mergeWith (m m' : OrderedMap α) : m.overlay m' = mergeWith (fun _ v => v) m m' :=
  rfl

variable {f : Option α → α → α}

lemma mergeWith_cons (f : Option α → α → α) (m : OrderedMap α) (k : String) (v : α)
    (rest : List (String × α)) :
    mergeWith f m ⟨(k, v) :: rest⟩ = mergeWith f (m.insert k (f (m.get? k) v)) ⟨rest⟩ :=
  rfl

lemma get?_mergeWith (h : m'.keys.Nodup) (k : String) :
    (mergeWith f m m').get? k = ((m'.get? k).map (f (m.get? k))).or (m.get? k) := by
  obtain ⟨entries⟩ := m'
  induction entries generalizing m with
  | nil => rfl
  | cons e rest ih =>
    obtain ⟨k₀, v₀⟩ := e
    obtain ⟨hnew, hrest⟩ := List.nodup_cons.mp h
    rw [mergeWith_cons, ih hrest]
    change _ = ((if k₀ = k then some v₀ else get? ⟨rest⟩ k).map (f (m.get? k))).or (m.get? k)
    by_cases hk : k₀ = k
    · subst hk
      rw [get?_eq_none_iff.mpr hnew, if_pos rfl]
      exact get?_insert_self _ _ _
    · rw [if_neg hk, get?_insert_of_ne hk]

/-- A key that the lower map has and the upper one has not is out of the way. -/
lemma mergeWith_insert_left (hk : (m.get? k).isSome) (hk' : k ∉ m'.keys) (v : α) :
    mergeWith f (m.insert k v) m' = (mergeWith f m m').insert k v := by
  obtain ⟨entries⟩ := m'
  induction entries generalizing m with
  | nil => rfl
  | cons e rest ih =>
    obtain ⟨k₀, v₀⟩ := e
    have hne : k ≠ k₀ := fun heq => hk' (heq ▸ List.mem_cons_self)
    have hrest : k ∉ keys ⟨rest⟩ := fun hmem => hk' (List.mem_cons_of_mem _ hmem)
    rw [mergeWith_cons, mergeWith_cons, get?_insert_of_ne hne, insert_comm hne hk]
    exact ih (isSome_get?_insert _ hk) hrest

lemma mergeWith_insert (h : m'.keys.Nodup) (k : String) (v : α) :
    mergeWith f m (m'.insert k v) = (mergeWith f m m').insert k (f (m.get? k) v) := by
  obtain ⟨entries⟩ := m'
  induction entries generalizing m with
  | nil => rfl
  | cons e rest ih =>
    obtain ⟨k₀, v₀⟩ := e
    obtain ⟨hnew, hrest⟩ := List.nodup_cons.mp h
    by_cases hk : k₀ = k
    · subst hk
      have hins : insert ⟨(k₀, v₀) :: rest⟩ k₀ v = ⟨(k₀, v) :: rest⟩ := by simp [insert, upsert]
      rw [hins, mergeWith_cons, mergeWith_cons, ← mergeWith_insert_left (by simp) hnew,
        insert_insert_self]
    · have hins : insert ⟨(k₀, v₀) :: rest⟩ k v = ⟨(k₀, v₀) :: (insert ⟨rest⟩ k v).entries⟩ := by
        simp [insert, upsert, hk]
      rw [hins, mergeWith_cons, mergeWith_cons, ih hrest, get?_insert_of_ne hk]

/-- A change that can be made before or after an entry is combined. -/
lemma mergeWith_modify {g : α → α} (h : m'.keys.Nodup) (hk : m'.get? k = some v)
    (hg : f (m.get? k) (g v) = g (f (m.get? k) v)) :
    mergeWith f m (m'.modify k g) = (mergeWith f m m').modify k g := by
  have hmerge : (mergeWith f m m').get? k = some (f (m.get? k) v) := by
    rw [get?_mergeWith h, hk]
    rfl
  rw [modify_eq_insert hk, modify_eq_insert hmerge, mergeWith_insert h, hg]

lemma get?_overlay (h : m'.keys.Nodup) (k : String) :
    (m.overlay m').get? k = (m'.get? k).or (m.get? k) := by
  rw [overlay_eq_mergeWith, get?_mergeWith h, Option.map_id']

/-- What the upper map has is found in the result. -/
lemma get?_overlay_of_isSome (h : m'.keys.Nodup) (hk : (m'.get? k).isSome) :
    (m.overlay m').get? k = m'.get? k := by
  obtain ⟨v, hv⟩ := Option.isSome_iff_exists.mp hk
  rw [get?_overlay h, hv]
  rfl

lemma overlay_insert (h : m'.keys.Nodup) (k : String) (v : α) :
    m.overlay (m'.insert k v) = (m.overlay m').insert k v := by
  simp only [overlay_eq_mergeWith]
  exact mergeWith_insert h k v

lemma overlay_modify (h : m'.keys.Nodup) (hk : (m'.get? k).isSome) (f : α → α) :
    m.overlay (m'.modify k f) = (m.overlay m').modify k f := by
  obtain ⟨v, hv⟩ := Option.isSome_iff_exists.mp hk
  simp only [overlay_eq_mergeWith]
  exact mergeWith_modify h hv rfl

/-! ### Maps from entries -/

lemma insert_of_notMem (h : k ∉ m.keys) (v : α) : m.insert k v = ⟨m.entries ++ [(k, v)]⟩ := by
  obtain ⟨entries⟩ := m
  apply ext_entries
  change upsert k v entries = entries ++ [(k, v)]
  induction entries with
  | nil => rfl
  | cons e rest ih =>
    obtain ⟨k₀, v₀⟩ := e
    have hne : k₀ ≠ k := fun heq => h (heq ▸ List.mem_cons_self)
    have hrest : k ∉ keys ⟨rest⟩ := fun hmem => h (List.mem_cons_of_mem _ hmem)
    simp [upsert, hne, ih hrest]

/-- A key stands at one place only. -/
lemma notMem_keys_of_eq_append {e : String × α} {front back : List (String × α)}
    (h : m.keys.Nodup) (hm : m.entries = front ++ e :: back) :
    e.1 ∉ keys (⟨front⟩ : OrderedMap α) := by
  rw [keys, hm, List.map_append, List.map_cons] at h
  exact fun hmem => List.disjoint_of_nodup_append h hmem List.mem_cons_self

/-- A map whose keys are all new goes to the end as it is. -/
lemma overlay_eq_append (h : (m.keys ++ m'.keys).Nodup) :
    m.overlay m' = ⟨m.entries ++ m'.entries⟩ := by
  obtain ⟨entries⟩ := m'
  induction entries generalizing m with
  | nil => simp [overlay]
  | cons e rest ih =>
    obtain ⟨k₀, v₀⟩ := e
    have hk₀ : k₀ ∉ m.keys := fun hmem =>
      (List.nodup_append.mp h).2.2 k₀ hmem k₀ List.mem_cons_self rfl
    have hinsert : m.insert k₀ v₀ = ⟨m.entries ++ [(k₀, v₀)]⟩ := insert_of_notMem hk₀ v₀
    have hkeys : ((m.insert k₀ v₀).keys ++ keys ⟨rest⟩).Nodup := by
      rw [hinsert]
      simpa [keys] using h
    have hstep := ih hkeys
    rw [hinsert] at hstep
    change (m.insert k₀ v₀).overlay ⟨rest⟩ = _
    rw [hinsert, hstep]
    simp

lemma ofEntries_eq {entries : List (String × α)} (h : (entries.map Prod.fst).Nodup) :
    ofEntries entries = ⟨entries⟩ := by
  have hkeys : (keys ({} : OrderedMap α) ++ keys ⟨entries⟩).Nodup := h
  exact overlay_eq_append hkeys

lemma nodup_keys_overlay (h : m.keys.Nodup) (m' : OrderedMap α) : (m.overlay m').keys.Nodup := by
  obtain ⟨entries⟩ := m'
  induction entries generalizing m with
  | nil => exact h
  | cons e rest ih => exact ih (nodup_keys_insert h e.1 e.2)

lemma nodup_keys_ofEntries (entries : List (String × α)) : (ofEntries entries).keys.Nodup := by
  have hempty : (keys ({} : OrderedMap α)).Nodup := List.nodup_nil
  exact nodup_keys_overlay hempty _

lemma forall_entries_overlay {P : String × α → Prop} (h : ∀ e ∈ m.entries, P e)
    (h' : ∀ e ∈ m'.entries, P e) : ∀ e ∈ (m.overlay m').entries, P e := by
  obtain ⟨entries⟩ := m'
  induction entries generalizing m with
  | nil => exact h
  | cons e rest ih =>
    obtain ⟨he, hrest⟩ := List.forall_mem_cons.mp h'
    exact ih (forall_entries_insert h he) hrest

lemma forall_entries_ofEntries {P : String × α → Prop} {entries : List (String × α)}
    (h : ∀ e ∈ entries, P e) : ∀ e ∈ (ofEntries entries).entries, P e :=
  forall_entries_overlay (List.forall_mem_nil _) h

/-! ### All values -/

/-- No key occurs twice, and every value has the property. -/
inductive Each (P : α → Prop) : OrderedMap α → Prop
  | intro {entries : List (String × α)} (nodup : (entries.map Prod.fst).Nodup)
    (values : ∀ e ∈ entries, P e.2) : Each P ⟨entries⟩

namespace Each

variable {P : α → Prop}

lemma nodup (h : m.Each P) : m.keys.Nodup := by
  cases h with
  | intro nodup values => exact nodup

lemma values (h : m.Each P) : ∀ e ∈ m.entries, P e.2 := by
  cases h with
  | intro nodup values => exact values

lemma empty : Each P {} := .intro List.nodup_nil (List.forall_mem_nil _)

lemma insert (h : m.Each P) (k : String) (hv : P v) : (m.insert k v).Each P :=
  .intro (nodup_keys_insert h.nodup k v) (forall_entries_insert h.values hv)

lemma modify (h : m.Each P) (k : String) {f : α → α} (hf : ∀ v, P v → P (f v)) :
    (m.modify k f).Each P :=
  .intro (nodup_keys_modify h.nodup k f) (forall_entries_modify h.values hf)

lemma ofEntries {entries : List (String × α)} (h : ∀ e ∈ entries, P e.2) :
    (ofEntries entries).Each P :=
  .intro (nodup_keys_ofEntries entries) (forall_entries_ofEntries h)

lemma get? (h : m.Each P) (hv : m.get? k = some v) : P v := h.values _ (mem_entries_of_get? hv)

end Each

/-! ### Mapping values -/

/-- Change every value. -/
def mapValues {β : Type} (f : α → β) (m : OrderedMap α) : OrderedMap β :=
  ⟨m.entries.map fun e => (e.1, f e.2)⟩

@[simp] lemma keys_mapValues {β : Type} (f : α → β) (m : OrderedMap α) :
    (m.mapValues f).keys = m.keys := by
  simp [mapValues, keys]

@[simp] lemma mapValues_id (m : OrderedMap α) : m.mapValues id = m :=
  ext_entries (List.map_id _)

lemma get?_mapValues {β : Type} (f : α → β) (m : OrderedMap α) (k : String) :
    (m.mapValues f).get? k = (m.get? k).map f := by
  obtain ⟨entries⟩ := m
  change lookup k (entries.map fun e => (e.1, f e.2)) = (lookup k entries).map f
  induction entries with
  | nil => rfl
  | cons e rest ih =>
    obtain ⟨k₀, v₀⟩ := e
    rw [List.map_cons, lookup, lookup, ih]
    split_ifs <;> rfl

/-- A map is restored when what was changed everywhere is put right at the only key that matters. -/
lemma modify_mapValues {f g : α → α} (h : m.keys.Nodup) (hk : ∀ v, m.get? k = some v → f (g v) = v)
    (hne : ∀ e ∈ m.entries, e.1 ≠ k → g e.2 = e.2) : (m.mapValues g).modify k f = m := by
  refine ext_get? ?_ ?_ fun k' => ?_
  · rwa [keys_modify, keys_mapValues]
  · rw [keys_modify, keys_mapValues]
  · rw [get?_modify, get?_mapValues]
    cases hget : m.get? k' with
    | none => simp
    | some v =>
      split_ifs with hkey
      · exact congrArg some (hk v (hkey ▸ hget))
      · exact congrArg some (hne _ (mem_entries_of_get? hget) (Ne.symm hkey))

end ApiScribe.OrderedMap
