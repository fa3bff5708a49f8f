import ApiScribe.Json.Basic
import ApiScribe.Proofs.OrderedMap

/-!
# Pointers

A JSON Pointer is a text that leads from a value to one inside it. It is cut into tokens, each of
which stands after a slash and is the name of a field or the number of an element. In a token `~1`
stands for a slash and `~0` for a tilde, so that there is a pointer to every field.
-/

namespace ApiScribe.Json

/-! ### Steps -/

/-- One step into a value: to a field by its name, or to an element by its number. -/
inductive Step where
  | field (name : String)
  | element (index : Nat)
deriving DecidableEq, Repr

def child? : Json → Step → Option Json
  | .object fields, .field name => fields.get? name
  | .array items, .element index => items[index]?
  | _, _ => none

/-- The value that steps lead to. -/
def follow? (json : Json) : List Step → Option Json
  | [] => some json
  | step :: steps => (json.child? step).bind (·.follow? steps)

lemma follow?_append (json : Json) (steps steps' : List Step) :
    json.follow? (steps ++ steps') = (json.follow? steps).bind (·.follow? steps') := by
  induction steps generalizing json with
  | nil => rfl
  | cons step steps ih => simp only [List.cons_append, follow?, ih, Option.bind_assoc]

/-! ### Reading pointers -/

namespace Pointer

/-- The text that a token stands for. A tilde that is not followed by `0` or `1` is an error. -/
def unescape : List Char → Option (List Char)
  | [] => some []
  | '~' :: '0' :: cs => (unescape cs).map ('~' :: ·)
  | '~' :: '1' :: cs => (unescape cs).map ('/' :: ·)
  | c :: cs => if c = '~' then none else (unescape cs).map (c :: ·)

/-- What the tokens of a pointer stand for. The empty pointer has none, and any other one starts
with a slash. -/
def tokens? (pointer : String) : Option (List String) :=
  match pointer.toList with
  | [] => some []
  | '/' :: cs => ((cs.splitOn '/').mapM unescape).map (·.map .ofList)
  | _ => none

/-- The number of an element, which is written without leading zeros. -/
def index? (token : String) : Option Nat := token.toNat?.filter fun index => toString index = token

end Pointer

/-- The step that a token stands for in a value. -/
def step? : Json → String → Option Step
  | .object _, token => some (.field token)
  | .array _, token => (Pointer.index? token).map .element
  | _, _ => none

/-- The steps that tokens stand for in a value, if there is a value at each of them. -/
def locate? (json : Json) : List String → Option (List Step)
  | [] => some []
  | token :: tokens => do
    let step ← json.step? token
    let value ← json.child? step
    let steps ← value.locate? tokens
    return step :: steps

/-- Where a pointer leads in a value, if it leads anywhere. -/
def resolve? (json : Json) (pointer : String) : Option (List Step) :=
  (Pointer.tokens? pointer).bind json.locate?

lemma locate?_cons_eq_some_iff {json : Json} {token : String} {tokens : List String}
    {steps : List Step} :
    json.locate? (token :: tokens) = some steps ↔
      ∃ step value rest, json.step? token = some step ∧ json.child? step = some value ∧
        value.locate? tokens = some rest ∧ steps = step :: rest := by
  simp only [locate?, Option.bind_eq_bind, Option.pure_def, Option.bind_eq_some_iff,
    Option.some.injEq]
  constructor
  · rintro ⟨step, hstep, value, hvalue, rest, hrest, rfl⟩
    exact ⟨step, value, rest, hstep, hvalue, hrest, rfl⟩
  · rintro ⟨step, value, rest, hstep, hvalue, hrest, rfl⟩
    exact ⟨step, hstep, value, hvalue, rest, hrest, rfl⟩

lemma eq_of_step?_eq_field {json : Json} {token name : String}
    (h : json.step? token = some (.field name)) : token = name := by
  cases json <;> simp_all [step?]

lemma step?_of_child? {json value : Json} {name : String}
    (h : json.child? (.field name) = some value) : json.step? name = some (.field name) := by
  cases json <;> simp_all [step?, child?]

/-- Tokens lead through fields exactly if they are the names of the fields. -/
lemma locate?_eq_fields_iff {json : Json} {tokens names : List String} :
    json.locate? tokens = some (names.map .field) ↔
      tokens = names ∧ (json.follow? (names.map .field)).isSome := by
  induction tokens generalizing json names with
  | nil => cases names <;> simp [locate?, follow?]
  | cons token tokens ih =>
    rw [locate?_cons_eq_some_iff]
    constructor
    · rintro ⟨step, value, rest, hstep, hvalue, hrest, hsteps⟩
      cases names with
      | nil => cases hsteps
      | cons name names =>
        obtain ⟨rfl, rfl⟩ := List.cons.inj hsteps
        obtain ⟨rfl, hfollow⟩ := ih.mp hrest
        refine ⟨by rw [eq_of_step?_eq_field hstep], ?_⟩
        simp only [List.map_cons, follow?, hvalue, Option.bind_some]
        exact hfollow
    · rintro ⟨rfl, hfollow⟩
      obtain ⟨found, hfound⟩ := Option.isSome_iff_exists.mp hfollow
      obtain ⟨value, hvalue, hrest⟩ := Option.bind_eq_some_iff.mp hfound
      have hlocate := ih.mpr ⟨rfl, Option.isSome_of_eq_some hrest⟩
      exact ⟨.field token, value, _, step?_of_child? hvalue, hvalue, hlocate, rfl⟩

/-! ### Tokens that stand for themselves -/

namespace Pointer

lemma unescape_of_notMem {cs : List Char} (h : '~' ∉ cs) : unescape cs = some cs := by
  induction cs with
  | nil => rfl
  | cons c cs ih =>
    rw [List.mem_cons, not_or] at h
    have hc : c ≠ '~' := Ne.symm h.1
    rw [unescape]
    · rw [if_neg hc, ih h.2, Option.map_some]
    · rintro _ rfl
      exact absurd rfl hc
    · rintro _ rfl
      exact absurd rfl hc

/-- A token is shorter than it is written if it has a tilde. -/
lemma length_of_unescape {cs ds : List Char} (h : unescape cs = some ds) :
    ds.length ≤ cs.length ∧ ('~' ∈ cs → ds.length < cs.length) := by
  fun_induction unescape cs generalizing ds with
  | case1 =>
    cases h
    simp
  | case2 cs ih | case3 cs ih =>
    obtain ⟨es, hes, rfl⟩ := Option.map_eq_some_iff.mp h
    have hlength := (ih hes).1
    simp only [List.length_cons]
    omega
  | case4 => cases h
  | case5 c cs _ _ hc ih =>
    obtain ⟨es, hes, rfl⟩ := Option.map_eq_some_iff.mp h
    obtain ⟨hle, hlt⟩ := ih hes
    refine ⟨Nat.succ_le_succ hle, fun hmem => Nat.succ_lt_succ (hlt ?_)⟩
    exact (List.mem_cons.mp hmem).resolve_left (Ne.symm hc)

lemma unescape_eq_self_iff {cs : List Char} : unescape cs = some cs ↔ '~' ∉ cs := by
  constructor
  · intro h hmem
    exact absurd ((length_of_unescape h).2 hmem) (Nat.lt_irrefl _)
  · exact unescape_of_notMem

/-- The tokens of a text without its first slash. -/
lemma mapM_unescape_append {cs : List Char} (hslash : '/' ∉ cs) (rest : List Char) :
    ((cs ++ '/' :: rest).splitOn '/').mapM unescape =
      (unescape cs).bind fun token => ((rest.splitOn '/').mapM unescape).map (token :: ·) := by
  rw [List.splitOn_append_cons_self_of_not_mem hslash, List.mapM_cons]
  cases unescape cs <;> cases (rest.splitOn '/').mapM unescape <;> rfl

lemma mapM_unescape_ne_nil (cs : List Char) : (cs.splitOn '/').mapM unescape ≠ some [] := by
  obtain ⟨first, rest, hsplit⟩ := List.exists_cons_of_ne_nil (List.splitOn_ne_nil '/' cs)
  rw [hsplit, List.mapM_cons]
  cases unescape first <;> cases rest.mapM unescape <;> simp

/-- A name that stands for itself in a pointer. -/
def Literal (name : String) : Prop := '/' ∉ name.toList ∧ '~' ∉ name.toList

instance : DecidablePred Literal := fun name =>
  inferInstanceAs (Decidable ('/' ∉ name.toList ∧ '~' ∉ name.toList))

/-- A text is its only token exactly if it has nothing to escape. -/
lemma mapM_unescape_eq_self_iff {cs : List Char} :
    (cs.splitOn '/').mapM unescape = some [cs] ↔ '/' ∉ cs ∧ '~' ∉ cs := by
  by_cases hslash : '/' ∈ cs
  · obtain ⟨front, back, rfl, hfront⟩ := List.eq_append_cons_of_mem hslash
    rw [mapM_unescape_append hfront]
    simp only [hslash, not_true_eq_false, false_and, iff_false]
    intro h
    obtain ⟨token, -, hrest⟩ := Option.bind_eq_some_iff.mp h
    obtain ⟨tokens, htokens, hcons⟩ := Option.map_eq_some_iff.mp hrest
    cases hcons
    exact mapM_unescape_ne_nil back htokens
  · rw [List.splitOn_eq_singleton hslash, List.mapM_cons, List.mapM_nil, ← unescape_eq_self_iff]
    cases unescape cs <;> simp [hslash]

/-- Three names are the tokens of the pointer that has them after its slashes exactly if the last
one stands for itself, given that the others do. -/
lemma tokens?_eq_iff {first second : String} (hfirst : Literal first) (hsecond : Literal second)
    (name : String) :
    tokens? ("/" ++ first ++ "/" ++ second ++ "/" ++ name) = some [first, second, name] ↔
      Literal name := by
  have hchars : ("/" ++ first ++ "/" ++ second ++ "/" ++ name).toList =
      '/' :: (first.toList ++ '/' :: (second.toList ++ '/' :: name.toList)) := by
    simp
  rw [tokens?, hchars]
  simp only [mapM_unescape_append hfirst.1, mapM_unescape_append hsecond.1,
    unescape_of_notMem hfirst.2, unescape_of_notMem hsecond.2, Option.bind_some, Option.map_map,
    Option.map_eq_some_iff, Function.comp_apply, List.map_cons, String.ofList_toList,
    List.cons.injEq, true_and]
  rw [Literal, ← mapM_unescape_eq_self_iff]
  constructor
  · rintro ⟨tokens, htokens, hname⟩
    obtain ⟨token, rfl, rfl⟩ := List.map_eq_singleton_iff.mp hname
    rw [String.toList_ofList] at htokens ⊢
    exact htokens
  · intro h
    exact ⟨[name.toList], h, by simp⟩

end Pointer

end ApiScribe.Json
