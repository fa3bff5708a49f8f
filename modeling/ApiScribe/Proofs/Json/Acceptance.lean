import ApiScribe.Proofs.Json.Parsing
import ApiScribe.Proofs.Json.Spelling

/-!
# Texts that are accepted

A text is accepted if its tree has no fault. Then none of its tokens has a fault, and the machine
never depends on where the tokens stand: a text with the same tokens in other places is accepted
with the same value. Reading an object accepts the texts whose value is an object.
-/

namespace ApiScribe.Json

variable {frames frames' : List Frame} {mode mode' : Mode} {t : Located} {source : Source}

/-! ### Trees without faults -/

namespace Tree

/-- The field has a name, and its tree a value. -/
def GoodField (field : Label × Tree) : Prop := (∃ name, field.1 = .name name) ∧ field.2.Good

variable {tree : Tree} {stop : Option Fault}

lemma exists_itemsToJson_iff {items : List Tree} :
    (∃ values, itemsToJson items = .ok values) ↔ ∀ item ∈ items, item.Good := by
  induction items with
  | nil => simp [itemsToJson]
  | cons item items ih =>
    rw [List.forall_mem_cons, ← ih, itemsToJson]
    constructor
    · rintro ⟨values, h⟩
      obtain ⟨value, hvalue, h⟩ := exists_of_bind_eq_ok h
      obtain ⟨rest, hrest, -⟩ := exists_of_bind_eq_ok h
      exact ⟨⟨value, hvalue⟩, rest, hrest⟩
    · rintro ⟨⟨value, hvalue⟩, rest, hrest⟩
      exact ⟨value :: rest, by rw [hvalue, hrest]; rfl⟩

lemma exists_fieldsToJson_iff {fields : List (Label × Tree)} :
    (∃ values, fieldsToJson fields = .ok values) ↔ ∀ field ∈ fields, GoodField field := by
  induction fields with
  | nil => simp [fieldsToJson]
  | cons field fields ih =>
    rw [List.forall_mem_cons, ← ih]
    obtain ⟨label, tree⟩ := field
    cases label with
    | flawed fault => simp [fieldsToJson, GoodField]
    | name name =>
      rw [fieldsToJson]
      constructor
      · rintro ⟨values, h⟩
        obtain ⟨value, hvalue, h⟩ := exists_of_bind_eq_ok h
        obtain ⟨rest, hrest, -⟩ := exists_of_bind_eq_ok h
        exact ⟨⟨⟨name, rfl⟩, value, hvalue⟩, rest, hrest⟩
      · rintro ⟨⟨-, value, hvalue⟩, rest, hrest⟩
        have hvalue' : tree.toJson = .ok value := hvalue
        exact ⟨(name, value) :: rest, by rw [hvalue', hrest]; rfl⟩

lemma good_array_iff {items : List Tree} :
    (array items stop).Good ↔ stop = none ∧ ∀ item ∈ items, item.Good := by
  rw [← exists_itemsToJson_iff, Good]
  constructor
  · rintro ⟨json, h⟩
    rw [toJson] at h
    obtain ⟨values, hvalues, h⟩ := exists_of_bind_eq_ok h
    cases stop with
    | none => exact ⟨rfl, values, hvalues⟩
    | some fault => cases h
  · rintro ⟨rfl, values, hvalues⟩
    exact ⟨.array values, by rw [toJson, hvalues]; rfl⟩

lemma good_object_iff {fields : List (Label × Tree)} :
    (object fields stop).Good ↔ stop = none ∧ ∀ field ∈ fields, GoodField field := by
  rw [← exists_fieldsToJson_iff, Good]
  constructor
  · rintro ⟨json, h⟩
    rw [toJson] at h
    obtain ⟨values, hvalues, h⟩ := exists_of_bind_eq_ok h
    cases stop with
    | none => exact ⟨rfl, values, hvalues⟩
    | some fault => cases h
  · rintro ⟨rfl, values, hvalues⟩
    exact ⟨.object (.ofEntries values), by rw [toJson, hvalues]; rfl⟩

/-- The tree does not stand for an object. -/
def NotObject (tree : Tree) : Prop := ∀ fields, tree.toJson ≠ .ok (.object fields)

lemma notObject_of_not_good (h : ¬tree.Good) : tree.NotObject := fun _ heq => h ⟨_, heq⟩

lemma notObject_array {items : List Tree} : (guardWith stop (array items none)).NotObject := by
  intro fields h
  cases stop with
  | some fault => cases h
  | none =>
    obtain ⟨values, -, h⟩ := exists_of_bind_eq_ok h
    cases h

end Tree

/-! ### Tokens of a text -/

namespace Token

variable {p : Position} {cs : List Char}

/-- The token is one that a text can have: what has a value in quotes is a string, and no word or
number is an object. -/
def Proper : Token → Prop
  | .text tree => tree.Good → ∃ s, tree = .string s
  | .literal tree => tree.NotObject
  | _ => True

lemma proper_brokenString (content : Content) (cause : Cause) :
    (brokenString content cause p).token.Proper := by
  intro hgood
  exact absurd (Tree.good_guardWith_iff.mp hgood).2 (Tree.not_good_broken _)

lemma proper_scanString (content : Content) : (scanString content p cs).token.Proper := by
  fun_induction scanString content p cs with
  | case3 _ _ _ _ _ _ _ _ _ ih => exact ih
  | case7 _ _ _ _ _ _ _ _ _ _ ih => exact ih
  | case11 _ _ _ _ _ _ _ _ _ _ _ ih => exact ih
  | case9 content p cs _ _ _ _ content' =>
    intro hgood
    obtain ⟨hflaw, -⟩ := Tree.good_guardWith_iff.mp hgood
    exact ⟨_, by rw [Content.tree, hflaw]; rfl⟩
  | case1 | case2 | case4 | case5 | case6 | case8 | case10 => exact proper_brokenString _ _

lemma proper_scanWord {value : Tree} (hvalue : value.NotObject) (letters : List Char) :
    (scanWord value p letters cs).token.Proper := by
  fun_induction scanWord value p letters cs with
  | case1 => exact hvalue
  | case2 => exact Tree.notObject_of_not_good (Tree.not_good_broken _)
  | case3 _ _ _ _ ih => exact ih
  | case4 => exact Tree.notObject_of_not_good (Tree.not_good_broken _)

lemma proper_scanNumeral : (scanNumeral p cs).token.Proper := by
  by_cases hgood : (Numeral.scan p cs).tree.Good
  · obtain ⟨word, number, hcs, -, -, hreads⟩ := Numeral.starts_scan hgood
    obtain ⟨stop, hstop⟩ := hreads p _ (.refl _)
    rw [← hcs] at hstop
    rw [scanNumeral, hstop]
    intro fields h
    cases h
  · exact Tree.notObject_of_not_good hgood

lemma proper_scan (p : Position) (c : Char) (cs : List Char) : (scan p c cs).token.Proper := by
  fun_cases scan p c cs with
  | case1 | case2 | case3 | case4 | case5 | case6 | case12 => trivial
  | case7 => exact proper_scanString {}
  | case8 | case9 | case10 =>
    refine proper_scanWord ?_ _
    rintro fields ⟨⟩
  | case11 => exact proper_scanNumeral

lemma proper_of_mem_lex {t : Located} (h : t ∈ lex p cs) : t.token.Proper := by
  fun_induction lex p cs with
  | case1 => cases h
  | case2 p c cs hc ih => exact ih h
  | case3 p c cs hc next ih =>
    rcases List.mem_cons.mp h with rfl | h
    · exact proper_scan p c cs
    · exact ih h

end Token

/-! ### States without faults -/

/-- What the container holds so far has no fault. -/
def Frame.Clean : Frame → Prop
  | .array limit done => limit = none ∧ ∀ tree ∈ done, tree.Good
  | .field limit done label =>
    limit = none ∧ (∀ field ∈ done, Tree.GoodField field) ∧ ∃ name, label = .name name

lemma Frame.good_close_iff {frame : Frame} {tree : Tree} :
    (frame.close tree).Good ↔ frame.Clean ∧ tree.Good := by
  cases frame with
  | array limit done =>
    simp only [Frame.close, Frame.Clean, Tree.good_guardWith_iff, Tree.good_array_iff,
      List.mem_reverse, List.forall_mem_cons, true_and]
    tauto
  | field limit done label =>
    simp only [Frame.close, Frame.Clean, Tree.good_guardWith_iff, Tree.good_object_iff,
      List.mem_reverse, List.forall_mem_cons, true_and, Tree.GoodField]
    tauto

lemma good_foldl_close_iff {tree : Tree} :
    (frames.foldl Frame.close tree).Good ↔ (∀ frame ∈ frames, frame.Clean) ∧ tree.Good := by
  induction frames generalizing tree with
  | nil => simp
  | cons frame frames ih =>
    rw [List.foldl_cons, ih, Frame.good_close_iff, List.forall_mem_cons]
    tauto

/-- The container that the machine is in, as a frame. -/
def Mode.opened : Mode → List Frame
  | .value | .ended _ => []
  | .firstItem limit => [.array limit []]
  | .nextItem limit done | .afterItem limit done => [.array limit done]
  | .firstLabel limit => [.field limit [] (.name "")]
  | .nextLabel limit done | .afterField limit done => [.field limit done (.name "")]
  | .afterLabel limit done label => [.field limit done label]

/-- What has been read so far has no fault. -/
def Clean (frames : List Frame) (mode : Mode) : Prop :=
  match mode with
  | .ended tree => tree.Good
  | mode => ∀ frame ∈ mode.opened ++ frames, frame.Clean

/-- The text has a value and nothing after it. -/
def Source.Accepted (source : Source) : Prop := source.tree.Good ∧ source.trailing = none

def Move.Clean : Move → Prop
  | .next frames mode => Json.Clean frames mode
  | .stop source => source.Accepted

/-! ### Texts that break off -/

section BreakingOff

variable {limit : Option Fault} {cause : Cause} {position : Position}

lemma not_accepted_noValue : ¬(Source.noValue frames cause position).Accepted := by
  rintro ⟨hgood, -⟩
  exact Tree.not_good_broken _ (good_foldl_close_iff.mp hgood).2

lemma not_accepted_cutArray {done : List Tree} :
    ¬(Source.cutArray frames limit done cause position).Accepted := by
  rintro ⟨hgood, -⟩
  have harray := (Tree.good_guardWith_iff.mp (good_foldl_close_iff.mp hgood).2).2
  cases (Tree.good_array_iff.mp harray).1

lemma not_accepted_cutObject {done : List (Label × Tree)} :
    ¬(Source.cutObject frames limit done cause position).Accepted := by
  rintro ⟨hgood, -⟩
  have hobject := (Tree.good_guardWith_iff.mp (good_foldl_close_iff.mp hgood).2).2
  cases (Tree.good_object_iff.mp hobject).1

/-- A text that ends is accepted only after its value. -/
lemma ended_of_atEnd (h : (atEnd position frames mode).Accepted) :
    ∃ tree : Tree, mode = .ended tree ∧ tree.Good := by
  cases mode with
  | value => exact absurd h not_accepted_noValue
  | firstItem | nextItem | afterItem => exact absurd h not_accepted_cutArray
  | firstLabel | nextLabel | afterField => exact absurd h not_accepted_cutObject
  | afterLabel => exact absurd h not_accepted_noValue
  | ended tree => exact ⟨tree, rfl, h.1⟩

end BreakingOff

/-! ### One token -/

lemma Move.resume_clean {tree : Tree} (h : (Move.resume tree frames).Clean) :
    (∀ frame ∈ frames, frame.Clean) ∧ tree.Good := by
  cases frames with
  | nil => exact ⟨List.forall_mem_nil _, h⟩
  | cons frame frames =>
    cases frame with
    | array limit done =>
      obtain ⟨⟨hlimit, hdone⟩, hframes⟩ := List.forall_mem_cons.mp h
      obtain ⟨htree, hdone⟩ := List.forall_mem_cons.mp hdone
      exact ⟨List.forall_mem_cons.mpr ⟨⟨hlimit, hdone⟩, hframes⟩, htree⟩
    | field limit done label =>
      obtain ⟨⟨hlimit, hdone, -⟩, hframes⟩ := List.forall_mem_cons.mp h
      obtain ⟨⟨hlabel, htree⟩, hdone⟩ := List.forall_mem_cons.mp hdone
      exact ⟨List.forall_mem_cons.mpr ⟨⟨hlimit, hdone, hlabel⟩, hframes⟩, htree⟩

lemma Move.closeArray_clean {limit : Option Fault} {done : List Tree}
    (h : (Move.closeArray frames limit done).Clean) :
    ∀ frame ∈ .array limit done :: frames, frame.Clean := by
  obtain ⟨hframes, hgood⟩ := Move.resume_clean h
  obtain ⟨hlimit, harray⟩ := Tree.good_guardWith_iff.mp hgood
  have hdone := (Tree.good_array_iff.mp harray).2
  refine List.forall_mem_cons.mpr ⟨⟨hlimit, fun tree htree => ?_⟩, hframes⟩
  exact hdone tree (List.mem_reverse.mpr htree)

lemma Move.closeObject_clean {limit : Option Fault} {done : List (Label × Tree)} {name : String}
    (h : (Move.closeObject frames limit done).Clean) :
    ∀ frame ∈ .field limit done (.name name) :: frames, frame.Clean := by
  obtain ⟨hframes, hgood⟩ := Move.resume_clean h
  obtain ⟨hlimit, hobject⟩ := Tree.good_guardWith_iff.mp hgood
  have hdone := (Tree.good_object_iff.mp hobject).2
  refine List.forall_mem_cons.mpr ⟨⟨hlimit, fun field hfield => ?_, name, rfl⟩, hframes⟩
  exact hdone field (List.mem_reverse.mpr hfield)

/-- The machine goes on from a token without faults in a state without faults, and does the same
wherever the token stands. -/
structure Steady (move : Located → Move) (start : Prop) (t : Located) : Prop where
  clean : start
  sound : t.token.Sound
  goes : ∃ frames mode, move t = .next frames mode
  same : ∀ t' : Located, t'.token = t.token → move t' = move t

lemma Steady.of_eq {move move' : Located → Move} {start : Prop} (h : Steady move start t)
    (heq : ∀ t' : Located, t'.token = t.token → move' t' = move t') : Steady move' start t where
  clean := h.clean
  sound := h.sound
  goes := by rw [heq t rfl]; exact h.goes
  same t' ht' := by rw [heq t' ht', heq t rfl, h.same t' ht']

lemma Move.resume_goes (tree : Tree) (frames : List Frame) :
    ∃ frames' mode, Move.resume tree frames = .next frames' mode := by
  match frames with
  | [] | .array _ _ :: _ | .field _ _ _ :: _ => exact ⟨_, _, rfl⟩

lemma depthFault_congr (h : depthFault frames t = none) (t' : Located) :
    depthFault frames t' = none := by
  rw [depthFault] at h ⊢
  split_ifs at h ⊢
  rfl

lemma onValue_steady (hproper : t.token.Proper) (h : (onValue frames t).Clean) :
    Steady (onValue frames) (∀ frame ∈ frames, frame.Clean) t := by
  unfold onValue at h
  cases htoken : t.token with
  | openBrace | openBracket =>
    simp only [htoken] at h
    obtain ⟨⟨hlimit, -⟩, hframes⟩ := List.forall_mem_cons.mp h
    refine ⟨hframes, by simp [htoken, Token.Sound], ⟨_, _, by rw [onValue, htoken]⟩, ?_⟩
    intro t' ht'
    simp only [onValue, ht', htoken, hlimit, depthFault_congr hlimit t']
  | text tree =>
    simp only [htoken] at h
    rw [htoken] at hproper
    obtain ⟨hframes, hgood⟩ := Move.resume_clean h
    refine ⟨hframes, by rw [htoken]; exact hproper hgood, ?_, fun t' ht' => ?_⟩
    · simp only [onValue, htoken, Move.resume_goes]
    · simp only [onValue, ht', htoken]
  | literal tree =>
    simp only [htoken] at h
    obtain ⟨hframes, hgood⟩ := Move.resume_clean h
    refine ⟨hframes, by rw [htoken]; exact hgood, ?_, fun t' ht' => ?_⟩
    · simp only [onValue, htoken, Move.resume_goes]
    · simp only [onValue, ht', htoken]
  | closeBrace | closeBracket | comma | colon | stray =>
    simp only [htoken] at h
    exact absurd h not_accepted_noValue

lemma onLabel_steady {limit : Option Fault} {done : List (Label × Tree)} (hproper : t.token.Proper)
    (h : (onLabel frames limit done t).Clean) :
    Steady (onLabel frames limit done)
      (∀ frame ∈ .field limit done (.name "") :: frames, frame.Clean) t := by
  unfold onLabel at h
  split at h
  next name htoken =>
    obtain ⟨⟨hlimit, hdone, -⟩, hframes⟩ := List.forall_mem_cons.mp h
    refine ⟨List.forall_mem_cons.mpr ⟨⟨hlimit, hdone, "", rfl⟩, hframes⟩, ?_, ?_, fun t' ht' => ?_⟩
    · rw [htoken]
      exact ⟨name, rfl⟩
    · exact ⟨frames, .afterLabel limit done (.name name), by simp only [onLabel, htoken]⟩
    · simp only [onLabel, ht', htoken]
  next fault s htoken =>
    obtain ⟨⟨-, -, name, hlabel⟩, -⟩ := List.forall_mem_cons.mp h
    cases hlabel
  next fault tree _ htoken =>
    obtain ⟨⟨-, -, name, hlabel⟩, -⟩ := List.forall_mem_cons.mp (good_foldl_close_iff.mp h.1).1
    cases hlabel
  next tree hstring _ _ htoken =>
    rw [htoken] at hproper
    obtain ⟨s, rfl⟩ := hproper (good_foldl_close_iff.mp h.1).2
    exact absurd rfl (hstring s)
  next => exact absurd h not_accepted_cutObject

lemma step_item_steady {limit : Option Fault} {done : List Tree} (hproper : t.token.Proper)
    (hvalue : ∀ t' : Located, t'.token ≠ .closeBracket →
      step frames mode t' = onValue (.array limit done :: frames) t')
    (hclose : t.token ≠ .closeBracket) (h : (step frames mode t).Clean) :
    Steady (step frames mode) (∀ frame ∈ .array limit done :: frames, frame.Clean) t := by
  rw [hvalue t hclose] at h
  exact (onValue_steady hproper h).of_eq fun t' ht' => hvalue t' (ht' ▸ hclose)

lemma step_label_steady {limit : Option Fault} {done : List (Label × Tree)}
    (hproper : t.token.Proper)
    (hlabel : ∀ t' : Located, t'.token ≠ .closeBrace →
      step frames mode t' = onLabel frames limit done t')
    (hclose : t.token ≠ .closeBrace) (h : (step frames mode t).Clean) :
    Steady (step frames mode)
      (∀ frame ∈ .field limit done (.name "") :: frames, frame.Clean) t := by
  rw [hlabel t hclose] at h
  exact (onLabel_steady hproper h).of_eq fun t' ht' => hlabel t' (ht' ▸ hclose)

/-- A mark that leads to the same move wherever it stands. -/
lemma Steady.of_mark {move : Located → Move} {start : Prop} (result : Move)
    (heq : ∀ t' : Located, t'.token = t.token → move t' = result) (hclean : start)
    (hsound : t.token.Sound) (hgoes : ∃ frames mode, result = .next frames mode) :
    Steady move start t where
  clean := hclean
  sound := hsound
  goes := by rw [heq t rfl]; exact hgoes
  same t' ht' := by rw [heq t' ht', heq t rfl]

/-- What one token does to a state. -/
lemma step_steady (hproper : t.token.Proper) (h : (step frames mode t).Clean) :
    Steady (step frames mode) (Clean frames mode) t := by
  cases mode with
  | value => exact onValue_steady hproper h
  | firstItem limit =>
    by_cases hclose : t.token = .closeBracket
    · simp only [step, hclose] at h
      refine .of_mark (.closeArray frames limit []) (fun t' ht' => ?_) (Move.closeArray_clean h)
        (by simp [hclose, Token.Sound]) (Move.resume_goes _ _)
      simp only [step, ht', hclose]
    · exact step_item_steady hproper (step_firstItem limit) hclose h
  | nextItem limit done =>
    by_cases hclose : t.token = .closeBracket
    · simp only [step, hclose] at h
      exact absurd h not_accepted_cutArray
    · exact step_item_steady hproper (step_nextItem limit done) hclose h
  | afterItem limit done =>
    simp only [step] at h
    split at h
    next hcomma =>
      refine .of_mark (.next frames (.nextItem limit done)) (fun t' ht' => ?_) h
        (by simp [hcomma, Token.Sound]) ⟨_, _, rfl⟩
      simp only [step, ht', hcomma]
    next hclose =>
      refine .of_mark (.closeArray frames limit done) (fun t' ht' => ?_) (Move.closeArray_clean h)
        (by simp [hclose, Token.Sound]) (Move.resume_goes _ _)
      simp only [step, ht', hclose]
    next => exact absurd h not_accepted_cutArray
  | firstLabel limit =>
    by_cases hclose : t.token = .closeBrace
    · simp only [step, hclose] at h
      refine .of_mark (.closeObject frames limit []) (fun t' ht' => ?_) (Move.closeObject_clean h)
        (by simp [hclose, Token.Sound]) (Move.resume_goes _ _)
      simp only [step, ht', hclose]
    · refine step_label_steady hproper (fun t' ht' => ?_) hclose h
      simp only [step]
  | nextLabel limit done =>
    by_cases hclose : t.token = .closeBrace
    · simp only [step, hclose] at h
      exact absurd h not_accepted_cutObject
    · refine step_label_steady hproper (fun t' ht' => ?_) hclose h
      simp only [step]
  | afterLabel limit done label =>
    simp only [step] at h
    split at h
    next hcolon =>
      refine .of_mark (.next (.field limit done label :: frames) .value) (fun t' ht' => ?_) h
        (by simp [hcolon, Token.Sound]) ⟨_, _, rfl⟩
      simp only [step, ht', hcolon]
    next => exact absurd h not_accepted_noValue
  | afterField limit done =>
    simp only [step] at h
    split at h
    next hcomma =>
      refine .of_mark (.next frames (.nextLabel limit done)) (fun t' ht' => ?_) h
        (by simp [hcomma, Token.Sound]) ⟨_, _, rfl⟩
      simp only [step, ht', hcomma]
    next hclose =>
      refine .of_mark (.closeObject frames limit done) (fun t' ht' => ?_) (Move.closeObject_clean h)
        (by simp [hclose, Token.Sound]) (Move.resume_goes _ _)
      simp only [step, ht', hclose]
    next => exact absurd h not_accepted_cutObject
  | ended tree => cases h.2

/-! ### All tokens -/

/-- An accepted run goes on from each token. -/
lemma exists_next_of_run {finish : Position} {ts : List Located} (hproper : t.token.Proper)
    (h : (run finish frames mode (t :: ts)).Accepted) :
    ∃ frames' mode', step frames mode t = .next frames' mode' ∧
      (run finish frames' mode' ts).Accepted := by
  rw [run_cons] at h
  cases hmove : step frames mode t with
  | next frames' mode' =>
    rw [hmove] at h
    exact ⟨frames', mode', rfl, h⟩
  | stop source =>
    rw [hmove] at h
    have hclean : (step frames mode t).Clean := by
      rw [hmove]
      exact h
    obtain ⟨frames', mode', hgoes⟩ := (step_steady hproper hclean).goes
    rw [hmove] at hgoes
    cases hgoes

/-- An accepted run starts without faults, meets none, and is the same for the same tokens in other
places. -/
lemma run_steady {finish : Position} {ts : List Located} (hproper : ∀ t ∈ ts, t.token.Proper)
    (h : (run finish frames mode ts).Accepted) :
    Clean frames mode ∧ (∀ t ∈ ts, t.token.Sound) ∧
      ∀ finish' ts', ts'.map (·.token) = ts.map (·.token) →
        run finish' frames mode ts' = run finish frames mode ts := by
  induction ts generalizing frames mode with
  | nil =>
    obtain ⟨tree, rfl, hgood⟩ := ended_of_atEnd h
    refine ⟨hgood, List.forall_mem_nil _, fun finish' ts' hts => ?_⟩
    obtain rfl := List.map_eq_nil_iff.mp hts
    rfl
  | cons t ts ih =>
    obtain ⟨ht, hts⟩ := List.forall_mem_cons.mp hproper
    obtain ⟨frames', mode', hmove, hrun⟩ := exists_next_of_run ht h
    obtain ⟨hclean, hsound, hsame⟩ := ih hts hrun
    have hstep : Steady (step frames mode) (Clean frames mode) t := by
      apply step_steady ht
      rw [hmove]
      exact hclean
    refine ⟨hstep.clean, List.forall_mem_cons.mpr ⟨hstep.sound, hsound⟩, fun finish' ts' hmap => ?_⟩
    obtain ⟨t', rest, rfl, ht', hrest⟩ := List.map_eq_cons_iff.mp hmap
    rw [run_cons, run_cons, hstep.same t' ht', hmove]
    exact hsame finish' rest hrest

/-! ### Values of a text -/

variable {text text' : String} {value : Json}

lemma parse_eq_ok_iff :
    parse text = .ok value ↔
      (Source.ofText text).tree.toJson = .ok value ∧ (Source.ofText text).trailing = none := by
  constructor
  · intro h
    obtain ⟨value', hvalue, h⟩ := exists_of_bind_eq_ok h
    cases hstop : (Source.ofText text).trailing with
    | none =>
      rw [hstop] at h
      cases h
      exact ⟨hvalue, rfl⟩
    | some fault =>
      rw [hstop] at h
      cases h
  · rintro ⟨hvalue, hstop⟩
    rw [parse, hvalue, hstop]
    rfl

/-- The text has a value that is written like the given one. Values have no decidable equality, but
their texts do. -/
def readsAs (text : String) (value : Json) : Bool :=
  match parse text with
  | .ok value' => decide ((value.Integral ∧ value.depth ≤ nestingLimit) ∧
      (value'.Integral ∧ value'.depth ≤ nestingLimit) ∧ value'.compact = value.compact)
  | .error _ => false

/-- Values that are written alike are the same. -/
lemma parse_of_readsAs (hdistinct : value.Distinct) (h : readsAs text value) :
    parse text = .ok value := by
  unfold readsAs at h
  split at h
  next value' hparse =>
    obtain ⟨⟨hnumbers, hdepth⟩, ⟨hnumbers', hdepth'⟩, hcompact⟩ := of_decide_eq_true h
    have hdistinct' := Tree.distinct_of_toJson (parse_eq_ok_iff.mp hparse).1
    have hvalue := parse_compact hnumbers' hdistinct' hdepth'
    rw [hcompact, parse_compact hnumbers hdistinct hdepth] at hvalue
    rw [hparse, hvalue]
  next => cases h

lemma accepted_of_parse (h : parse text = .ok value) : (Source.ofText text).Accepted :=
  ⟨⟨value, (parse_eq_ok_iff.mp h).1⟩, (parse_eq_ok_iff.mp h).2⟩

/-- A text with a value spells its tokens. -/
lemma spells_of_parse (h : parse text = .ok value) :
    Token.Spells text.toList (Token.ofLine text) :=
  Token.spells_of_lex
    (run_steady (fun _ => Token.proper_of_mem_lex) (accepted_of_parse h)).2.1

/-- Two texts that spell the same tokens have the same value. -/
lemma parse_of_spells (h : parse text = .ok value)
    (htext' : Token.Spells text'.toList (Token.ofLine text)) : parse text' = .ok value := by
  have hsame := (run_steady (fun _ => Token.proper_of_mem_lex) (accepted_of_parse h)).2.2
  have hsource : Source.ofText text' = Source.ofText text := hsame _ _ (htext'.map_lex {})
  rw [parse_eq_ok_iff, hsource]
  exact parse_eq_ok_iff.mp h

/-- A text with a value has more than blanks. -/
lemma trim_ne_empty_of_parse (h : parse text = .ok value) : Text.trim text ≠ "" := by
  intro hempty
  have hspells := (spells_of_parse h).trimChars
  have hchars : Text.trimChars text.toList = [] := by
    rw [← String.toList_ofList (l := Text.trimChars text.toList), ← Text.trim, hempty]
    rfl
  rw [hchars] at hspells
  have hlex : Token.lex {} text.toList = [] := List.map_eq_nil_iff.mp hspells.eq_nil
  have haccepted := accepted_of_parse h
  rw [Source.ofText, hlex] at haccepted
  exact not_accepted_noValue haccepted

/-! ### Objects -/

/-- The outermost container is an array. -/
def Rooted : List Frame → Prop
  | [] => False
  | .array _ _ :: frames => frames = [] ∨ Rooted frames
  | .field _ _ _ :: frames => Rooted frames

/-- The text as a whole is an array. -/
def InArray (frames : List Frame) (mode : Mode) : Prop :=
  match mode with
  | .ended tree => tree.NotObject
  | mode => Rooted (mode.opened ++ frames)

def Move.InArray : Move → Prop
  | .next frames mode => Json.InArray frames mode
  | .stop _ => True

lemma Move.resume_inArray {tree : Tree} (h : frames = [] ∧ tree.NotObject ∨ Rooted frames) :
    (Move.resume tree frames).InArray := by
  match frames with
  | [] => exact h.elim (·.2) False.elim
  | .array _ _ :: _ => exact h.elim (fun h => by cases h.1) id
  | .field _ _ _ :: _ => exact h.elim (fun h => by cases h.1) id

lemma onValue_inArray (h : Rooted frames) : (onValue frames t).InArray := by
  unfold onValue
  split
  · exact .inr h
  · exact h
  · exact Move.resume_inArray (.inr h)
  · exact Move.resume_inArray (.inr h)
  all_goals trivial

lemma onLabel_inArray {limit : Option Fault} {done : List (Label × Tree)} (h : Rooted frames) :
    (onLabel frames limit done t).InArray := by
  unfold onLabel
  split
  · exact h
  · exact h
  all_goals trivial

lemma closeArray_inArray {limit : Option Fault} {done : List Tree}
    (h : frames = [] ∨ Rooted frames) :
    (Move.closeArray frames limit done).InArray :=
  Move.resume_inArray (h.imp_left fun h => ⟨h, Tree.notObject_array⟩)

lemma step_inArray (h : InArray frames mode) : (step frames mode t).InArray := by
  fun_cases step frames mode t with
  -- a value, the end of an array or of an object, a label, a mark, or a text that breaks off
  | case1 | case3 | case5 => exact onValue_inArray h
  | case2 | case7 => exact closeArray_inArray h
  | case9 | case16 => exact Move.resume_inArray (.inr h)
  | case10 | case12 => exact onLabel_inArray h
  | case6 | case13 | case15 => exact h
  | case4 | case8 | case11 | case14 | case17 | case18 => trivial

/-- An array that has been opened first is what the text stands for. -/
lemma run_inArray {finish : Position} {ts : List Located} (hproper : ∀ t ∈ ts, t.token.Proper)
    (hin : InArray frames mode) (h : (run finish frames mode ts).Accepted) :
    (run finish frames mode ts).tree.NotObject := by
  induction ts generalizing frames mode with
  | nil =>
    obtain ⟨tree, rfl, -⟩ := ended_of_atEnd h
    exact hin
  | cons t ts ih =>
    obtain ⟨ht, hts⟩ := List.forall_mem_cons.mp hproper
    obtain ⟨frames', mode', hmove, hrun⟩ := exists_next_of_run ht h
    have hin' : (step frames mode t).InArray := step_inArray hin
    rw [hmove] at hin'
    rw [run_cons, hmove]
    exact ih hts hin' hrun

/-- A text that starts with anything but a brace does not stand for an object. -/
lemma notObject_of_head {finish : Position} {ts : List Located}
    (hproper : ∀ t' ∈ t :: ts, t'.token.Proper) (h : (run finish [] .value (t :: ts)).Accepted)
    (hopen : t.token ≠ .openBrace) : (run finish [] .value (t :: ts)).tree.NotObject := by
  obtain ⟨ht, hts⟩ := List.forall_mem_cons.mp hproper
  obtain ⟨frames, mode, hmove, hrun⟩ := exists_next_of_run ht h
  rw [run_cons, hmove]
  refine run_inArray hts ?_ hrun
  cases htoken : t.token with
  | openBrace => exact absurd htoken hopen
  | openBracket =>
    simp only [step, onValue, htoken] at hmove
    cases hmove
    exact .inl rfl
  | text tree =>
    simp only [step, onValue, htoken] at hmove
    cases hmove
    rw [htoken] at ht
    rintro fields hfields
    obtain ⟨s, rfl⟩ := ht ⟨_, hfields⟩
    cases hfields
  | literal tree =>
    simp only [step, onValue, htoken] at hmove
    cases hmove
    rwa [htoken] at ht
  | closeBrace | closeBracket | comma | colon | stray =>
    simp only [step, onValue, htoken] at hmove
    cases hmove

/-- Reading an object accepts the texts whose value is an object. -/
lemma parseObject_eq_ok_iff {fields : OrderedMap Json} :
    parseObject text = .ok fields ↔ parse text = .ok (.object fields) := by
  constructor
  · intro h
    unfold parseObject at h
    dsimp only at h
    split at h
    · cases h
    · split at h <;> cases h
    · split at h <;> cases h
    · split at h
      next hparse =>
        cases h
        exact hparse
      next => cases h
      next => cases h
  · intro h
    have hhead : ∀ t ts, Token.lex {} text.toList = t :: ts → t.token = .openBrace := by
      intro t ts hlex
      by_contra hopen
      have haccepted := accepted_of_parse h
      have hobject := (parse_eq_ok_iff.mp h).1
      simp only [Source.ofText, hlex] at haccepted hobject
      refine notObject_of_head (fun t' ht' => ?_) haccepted hopen fields hobject
      rw [← hlex] at ht'
      exact Token.proper_of_mem_lex ht'
    unfold parseObject
    dsimp only
    split
    next hlex => cases hhead _ _ hlex
    next hlex => cases hhead _ _ hlex
    next hlex => cases hhead _ _ hlex
    next => rw [h]

end ApiScribe.Json
