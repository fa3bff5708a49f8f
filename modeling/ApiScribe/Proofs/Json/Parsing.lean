import ApiScribe.Json.Parse
import ApiScribe.Proofs.Json.Lexing

/-!
# Reading written values

The machine that reads tokens turns the tokens of a value into its tree, if the value does not nest
too deep. So a written value is read as itself.
-/

namespace ApiScribe.Json

variable {frames : List Frame} {ts : List Located}

/-- Go on after a token. -/
def Move.proceed (finish : Position) : Move → List Located → Source
  | .next frames mode, ts => run finish frames mode ts
  | .stop source, _ => source

lemma run_cons (finish : Position) (frames : List Frame) (mode : Mode) (t : Located)
    (ts : List Located) :
    run finish frames mode (t :: ts) = (step frames mode t).proceed finish ts := by
  rw [run]
  cases step frames mode t <;> rfl

/-- The machine reads the tokens of the value as its tree. -/
def Parses (json : Json) : Prop :=
  ∀ finish frames ts rest, frames.length + json.depth ≤ nestingLimit →
    ts.map (·.token) = json.tokens →
    run finish frames .value (ts ++ rest) =
      (Move.resume (.ofJson json) frames).proceed finish rest

/-! ### Arrays -/

/-- A value does not start with a closing bracket. -/
lemma tokens_head (json : Json) : ∃ t ts, json.tokens = t :: ts ∧ t ≠ .closeBracket := by
  match json with
  | .null | .bool _ | .number _ | .string _ => exact ⟨_, _, rfl, by simp⟩
  | .array [] | .array (_ :: _) => exact ⟨_, _, rfl, by simp⟩
  | .object ⟨[]⟩ | .object ⟨(_, _) :: _⟩ => exact ⟨_, _, rfl, by simp⟩

/-- Where an item may stand, a value is read as the next item. -/
lemma run_item (finish : Position) {mode : Mode} {done : List Tree} {json : Json}
    (hjson : Parses json)
    (hmode : ∀ t : Located, t.token ≠ .closeBracket →
      step frames mode t = onValue (.array none done :: frames) t)
    (hdepth : frames.length + 1 + json.depth ≤ nestingLimit)
    (hts : ts.map (·.token) = json.tokens) (rest : List Located) :
    run finish frames mode (ts ++ rest) =
      run finish frames (.afterItem none (.ofJson json :: done)) rest := by
  obtain ⟨token, tokens, htokens, hne⟩ := tokens_head json
  have hvalue := hjson finish (.array none done :: frames) ts rest hdepth hts
  rw [htokens] at hts
  obtain ⟨t, ts', rfl, rfl, -⟩ := List.map_eq_cons_iff.mp hts
  rw [List.cons_append, run_cons] at hvalue ⊢
  rw [hmode t hne]
  exact hvalue

lemma step_firstItem (limit : Option Fault) (t : Located) (h : t.token ≠ .closeBracket) :
    step frames (.firstItem limit) t = onValue (.array limit [] :: frames) t := by
  rw [step]
  split
  · next hclose => exact absurd hclose h
  · rfl

lemma step_nextItem (limit : Option Fault) (done : List Tree) (t : Located)
    (h : t.token ≠ .closeBracket) :
    step frames (.nextItem limit done) t = onValue (.array limit done :: frames) t := by
  rw [step]
  split
  · next hclose => exact absurd hclose h
  · rfl

lemma run_afterItem (finish : Position) {items : List Json} (h : ∀ item ∈ items, Parses item)
    (hdepth : ∀ item ∈ items, frames.length + 1 + item.depth ≤ nestingLimit)
    (hts : ts.map (·.token) = tokensOfItems items) (done : List Tree) (rest : List Located) :
    run finish frames (.afterItem none done) (ts ++ rest) =
      (Move.closeArray frames none ((Tree.ofItems items).reverse ++ done)).proceed finish rest := by
  induction items generalizing done ts with
  | nil =>
    obtain ⟨t, ts', rfl, htoken, hnil⟩ := List.map_eq_cons_iff.mp hts
    obtain rfl := List.map_eq_nil_iff.mp hnil
    rw [List.singleton_append, run_cons, step, htoken]
    rfl
  | cons item items ih =>
    obtain ⟨hitem, hitems⟩ := List.forall_mem_cons.mp h
    obtain ⟨hd, hds⟩ := List.forall_mem_cons.mp hdepth
    obtain ⟨t, ts', rfl, htoken, hts'⟩ := List.map_eq_cons_iff.mp hts
    obtain ⟨ts₁, ts₂, rfl, hts₁, hts₂⟩ := List.map_eq_append_iff.mp hts'
    have hcomma : step frames (.afterItem none done) t = .next frames (.nextItem none done) := by
      rw [step, htoken]
    have hnext := run_item finish hitem (step_nextItem none done) hd hts₁ (ts₂ ++ rest)
    rw [List.cons_append, run_cons, hcomma, List.append_assoc]
    exact hnext.trans ((ih hitems hds hts₂ _).trans (by simp [Tree.ofItems]))

/-! ### Objects -/

/-- Where a field may stand, a name and a value are read as the next field. -/
lemma run_field (finish : Position) {mode : Mode} {done : List (Label × Tree)} {key : String}
    {json : Json} (hjson : Parses json)
    (hmode : ∀ t : Located, t.token = .text (.string key) →
      step frames mode t = .next frames (.afterLabel none done (.name key)))
    (hdepth : frames.length + 1 + json.depth ≤ nestingLimit)
    (hts : ts.map (·.token) = .text (.string key) :: .colon :: json.tokens) (rest : List Located) :
    run finish frames mode (ts ++ rest) =
      run finish frames (.afterField none ((.name key, .ofJson json) :: done)) rest := by
  obtain ⟨t, ts', rfl, htext, hts'⟩ := List.map_eq_cons_iff.mp hts
  obtain ⟨t', ts'', rfl, hcolon, hts''⟩ := List.map_eq_cons_iff.mp hts'
  have hstep : step frames (.afterLabel none done (.name key)) t' =
      .next (.field none done (.name key) :: frames) .value := by
    rw [step, hcolon]
  rw [List.cons_append, run_cons, hmode t htext, List.cons_append]
  change run finish frames _ (t' :: (ts'' ++ rest)) = _
  rw [run_cons, hstep]
  exact hjson finish (.field none done (.name key) :: frames) ts'' rest hdepth hts''

lemma step_firstLabel (limit : Option Fault) {key : String} (t : Located)
    (h : t.token = .text (.string key)) :
    step frames (.firstLabel limit) t = .next frames (.afterLabel limit [] (.name key)) := by
  rw [step, h]
  simp only [onLabel, h]

lemma step_nextLabel (limit : Option Fault) (done : List (Label × Tree)) {key : String}
    (t : Located) (h : t.token = .text (.string key)) :
    step frames (.nextLabel limit done) t = .next frames (.afterLabel limit done (.name key)) := by
  rw [step, h]
  simp only [onLabel, h]

lemma run_afterField (finish : Position) {fields : List (String × Json)}
    (h : ∀ e ∈ fields, Parses e.2)
    (hdepth : ∀ e ∈ fields, frames.length + 1 + e.2.depth ≤ nestingLimit)
    (hts : ts.map (·.token) = tokensOfFields fields) (done : List (Label × Tree))
    (rest : List Located) :
    run finish frames (.afterField none done) (ts ++ rest) =
      (Move.closeObject frames none ((Tree.ofFields fields).reverse ++ done)).proceed finish
        rest := by
  induction fields generalizing done ts with
  | nil =>
    obtain ⟨t, ts', rfl, htoken, hnil⟩ := List.map_eq_cons_iff.mp hts
    obtain rfl := List.map_eq_nil_iff.mp hnil
    rw [List.singleton_append, run_cons, step, htoken]
    rfl
  | cons e fields ih =>
    obtain ⟨hvalue, hfields⟩ := List.forall_mem_cons.mp h
    obtain ⟨hd, hds⟩ := List.forall_mem_cons.mp hdepth
    obtain ⟨t, ts', rfl, htoken, hts'⟩ := List.map_eq_cons_iff.mp hts
    obtain ⟨ts₁, ts₂, rfl, hts₁, hts₂⟩ := List.map_eq_append_iff.mp hts'
    have hcomma : step frames (.afterField none done) t = .next frames (.nextLabel none done) := by
      rw [step, htoken]
    have hnext := run_field finish hvalue (step_nextLabel none done) hd hts₁ (ts₂ ++ rest)
    rw [List.cons_append, run_cons, hcomma, List.append_assoc]
    exact hnext.trans ((ih hfields hds hts₂ _).trans (by simp [Tree.ofFields]))

/-! ### Values -/

lemma depthFault_eq_none {n : Nat} (h : frames.length + (n + 1) ≤ nestingLimit) (t : Located) :
    depthFault frames t = none :=
  if_pos (by omega)

/-- A value that is a single token. -/
lemma parses_of_token {json : Json} {token : Token} (htokens : json.tokens = [token])
    (h : ∀ frames t, t.token = token → onValue frames t = .resume (.ofJson json) frames) :
    Parses json := by
  intro finish frames ts rest _ hts
  rw [htokens] at hts
  obtain ⟨t, ts', rfl, htoken, hnil⟩ := List.map_eq_cons_iff.mp hts
  obtain rfl := List.map_eq_nil_iff.mp hnil
  rw [List.singleton_append, run_cons, step, h frames t htoken]

lemma parses_array {items : List Json} (h : ∀ item ∈ items, Parses item) :
    Parses (.array items) := by
  intro finish frames ts rest hdepth hts
  have hitems : ∀ item ∈ items, frames.length + 1 + item.depth ≤ nestingLimit := by
    intro item hitem
    have := depth_lt_of_mem_items hitem
    omega
  rw [depth] at hdepth
  cases items with
  | nil =>
    obtain ⟨t, ts', rfl, hopen, hts'⟩ := List.map_eq_cons_iff.mp hts
    obtain ⟨t', ts'', rfl, hclose, hnil⟩ := List.map_eq_cons_iff.mp hts'
    obtain rfl := List.map_eq_nil_iff.mp hnil
    have hstep : step frames .value t = .next frames (.firstItem none) := by
      rw [step, onValue, hopen, depthFault_eq_none hdepth]
    have hstep' : step frames (.firstItem none) t' = .closeArray frames none [] := by
      rw [step, hclose]
    rw [List.cons_append, run_cons, hstep, Move.proceed, List.singleton_append, run_cons, hstep']
    rfl
  | cons item items =>
    obtain ⟨t, ts', rfl, hopen, hts'⟩ := List.map_eq_cons_iff.mp hts
    obtain ⟨ts₁, ts₂, rfl, hts₁, hts₂⟩ := List.map_eq_append_iff.mp hts'
    obtain ⟨hitem, hrest⟩ := List.forall_mem_cons.mp h
    obtain ⟨hd, hds⟩ := List.forall_mem_cons.mp hitems
    have hstep : step frames .value t = .next frames (.firstItem none) := by
      rw [step, onValue, hopen, depthFault_eq_none hdepth]
    have hfirst := run_item finish hitem (step_firstItem none) hd hts₁ (ts₂ ++ rest)
    rw [List.cons_append, run_cons, hstep, List.append_assoc]
    refine hfirst.trans ((run_afterItem finish hrest hds hts₂ _ rest).trans ?_)
    simp [Move.closeArray, Tree.guardWith, Tree.ofJson, Tree.ofItems]

lemma parses_object {fields : OrderedMap Json} (h : ∀ e ∈ fields.entries, Parses e.2) :
    Parses (.object fields) := by
  intro finish frames ts rest hdepth hts
  have hfields : ∀ e ∈ fields.entries, frames.length + 1 + e.2.depth ≤ nestingLimit := by
    intro e he
    have := depth_lt_of_mem_fields he
    omega
  obtain ⟨fields⟩ := fields
  rw [depth] at hdepth
  cases fields with
  | nil =>
    obtain ⟨t, ts', rfl, hopen, hts'⟩ := List.map_eq_cons_iff.mp hts
    obtain ⟨t', ts'', rfl, hclose, hnil⟩ := List.map_eq_cons_iff.mp hts'
    obtain rfl := List.map_eq_nil_iff.mp hnil
    have hstep : step frames .value t = .next frames (.firstLabel none) := by
      rw [step, onValue, hopen, depthFault_eq_none hdepth]
    have hstep' : step frames (.firstLabel none) t' = .closeObject frames none [] := by
      rw [step, hclose]
    rw [List.cons_append, run_cons, hstep, Move.proceed, List.singleton_append, run_cons, hstep']
    rfl
  | cons e fields =>
    obtain ⟨t, ts', rfl, hopen, hts'⟩ := List.map_eq_cons_iff.mp hts
    obtain ⟨ts₁, ts₂, rfl, hts₁, hts₂⟩ := List.map_eq_append_iff.mp hts'
    obtain ⟨hvalue, hrest⟩ := List.forall_mem_cons.mp h
    obtain ⟨hd, hds⟩ := List.forall_mem_cons.mp hfields
    have hstep : step frames .value t = .next frames (.firstLabel none) := by
      rw [step, onValue, hopen, depthFault_eq_none hdepth]
    have hfirst := run_field finish hvalue (step_firstLabel none) hd hts₁ (ts₂ ++ rest)
    rw [List.cons_append, run_cons, hstep, List.append_assoc]
    refine hfirst.trans ((run_afterField finish hrest hds hts₂ _ rest).trans ?_)
    simp [Move.closeObject, Tree.guardWith, Tree.ofJson, Tree.ofFields]

/-- The machine reads the tokens of any value as its tree. -/
lemma parses (json : Json) : Parses json := by
  induction json using Json.induction with
  | null | bool | number | string =>
    exact parses_of_token (by rw [tokens]) fun frames t h => by rw [onValue, h]; rfl
  | array items ih => exact parses_array ih
  | object fields ih => exact parses_object ih

/-! ### Written values -/

variable {json : Json} {text : List Char}

/-- A text that is cut into the tokens of a value is read as its tree. -/
lemma Source.ofText_eq (h : Token.Lexes text json.tokens []) (hdepth : json.depth ≤ nestingLimit) :
    Source.ofText (.ofList text) = { tree := .ofJson json } := by
  obtain ⟨located, q, hlex, hmap⟩ := h {}
  have hrun := parses json (Position.advanceAll {} text) [] located (Token.lex q [])
    (by simpa using hdepth) hmap
  rw [List.append_nil] at hlex
  rw [Source.ofText, String.toList_ofList, hlex, hrun, Token.lex]
  rfl

lemma ends_nil : Token.Ends [] := by rintro _ ⟨⟩

/-- The compact text of a value is read as its tree. -/
lemma ofText_compact (h : json.Integral) (hdepth : json.depth ≤ nestingLimit) :
    Source.ofText json.compact = { tree := .ofJson json } :=
  Source.ofText_eq (Token.Layout.compact.reads h 0 [] ends_nil) hdepth

/-- So is its text over several lines. -/
lemma ofText_pretty (h : json.Integral) (hdepth : json.depth ≤ nestingLimit) :
    Source.ofText json.pretty = { tree := .ofJson json } :=
  Source.ofText_eq (Token.Layout.pretty.reads h 0 [] ends_nil) hdepth

/-- A written value is read as itself. -/
lemma parse_compact (h : json.Integral) (hdistinct : json.Distinct)
    (hdepth : json.depth ≤ nestingLimit) : parse json.compact = .ok json := by
  rw [parse, ofText_compact h hdepth, Tree.toJson_ofJson hdistinct]
  rfl

/-- A written object is read as its fields. -/
lemma parseObject_compact {fields : OrderedMap Json} (h : (Json.object fields).Integral)
    (hdistinct : (Json.object fields).Distinct)
    (hdepth : (Json.object fields).depth ≤ nestingLimit) :
    parseObject (Json.object fields).compact = .ok fields := by
  have hparse := parse_compact h hdistinct hdepth
  obtain ⟨located, q, hlex, hmap⟩ := Token.Layout.compact.reads h 0 [] ends_nil {}
  have hopen : ∃ tokens, (Json.object fields).tokens = .openBrace :: tokens := by
    obtain ⟨_ | ⟨e, fields⟩⟩ := fields <;> exact ⟨_, rfl⟩
  obtain ⟨tokens, htokens⟩ := hopen
  rw [htokens] at hmap
  obtain ⟨⟨token, start, stop⟩, ts, rfl, htoken, -⟩ := List.map_eq_cons_iff.mp hmap
  have hlex' : Token.lex {} (Json.object fields).compact.toList =
      { token, start, stop } :: (ts ++ Token.lex q []) := by
    rw [compact, String.toList_ofList]
    rwa [List.append_nil] at hlex
  cases htoken
  simp only [parseObject, hlex', hparse]

end ApiScribe.Json
