import ApiScribe.Rust.Token

/-!
# Productions

A production takes tokens off the front of a sequence, or fails. What it does next depends only on
the tokens that it sees. On its way it collects the documented items.
-/

namespace ApiScribe.Rust

/-- A documented item: its name with the line where that stands, the text of the string literal
that it is defined as, and its documentation. -/
structure Item where
  name : String
  line : Nat
  value : Option String
  doc : String
deriving DecidableEq, Repr

structure Cursor where
  tokens : List TokenTree
  /-- The items so far, latest first. -/
  found : List Item

abbrev Grammar := StateT Cursor Option

/-! ### What can be seen -/

/-- Words that are no identifiers. -/
def keywords : List String :=
  ["_", "abstract", "as", "async", "await", "become", "box", "break", "const", "continue", "crate",
    "do", "dyn", "else", "enum", "extern", "false", "final", "fn", "for", "if", "impl", "in", "let",
    "loop", "macro", "match", "mod", "move", "mut", "override", "priv", "pub", "ref", "return",
    "Self", "self", "static", "struct", "super", "trait", "true", "try", "type", "typeof", "unsafe",
    "unsized", "use", "virtual", "where", "while", "yield"]

def isKeyword (name : String) : Bool := keywords.contains name

abbrev Sight := List TokenTree → Bool

def seesEnd : Sight := List.isEmpty

/-- The tokens after an operator, whose signs are all joint but the last. -/
def dropSigns : List Char → List TokenTree → Option (List TokenTree)
  | [], tokens => some tokens
  | [c], .leaf (.punct d _) _ :: tokens => if c = d then some tokens else none
  | c :: cs, .leaf (.punct d true) _ :: tokens => if c = d then dropSigns cs tokens else none
  | _, _ => none

def seesSigns (signs : String) : Sight := fun tokens => (dropSigns signs.toList tokens).isSome

def seesAnySigns (choices : List String) : Sight := fun tokens =>
  choices.any fun signs => seesSigns signs tokens

def seesWord (name : String) : Sight
  | .leaf (.word other) _ :: _ => name = other
  | _ => false

def seesAnyWord (names : List String) : Sight
  | .leaf (.word name) _ :: _ => names.contains name
  | _ => false

/-- Any word, keyword or not. -/
def seesSomeWord : Sight
  | .leaf (.word _) _ :: _ => true
  | _ => false

def seesIdentifier : Sight
  | .leaf (.word name) _ :: _ => !isKeyword name
  | _ => false

def seesLifetime : Sight
  | .leaf .lifetime _ :: _ => true
  | _ => false

def seesGroup (delimiter : Delimiter) : Sight
  | .group other _ :: _ => delimiter = other
  | _ => false

def seesString : Sight
  | .leaf (.literal (.string _)) _ :: _ => true
  | _ => false

def seesNumber : Sight
  | .leaf (.literal (.integer _ _)) _ :: _ | .leaf (.literal (.float _)) _ :: _ => true
  | _ => false

/-- A literal, which includes truth values and negative numbers. -/
def seesLiteral : Sight
  | .leaf (.literal _) _ :: _ => true
  | .leaf (.word name) _ :: _ => name = "true" || name = "false"
  | .leaf (.punct '-' _) _ :: tokens => seesNumber tokens
  | _ => false

/-! ### Single tokens -/

namespace Grammar

variable {α β : Type}

def fail : Grammar α := fun _ => none

def tokens : Grammar (List TokenTree) := return (← get).tokens

def sees (sight : Sight) : Grammar Bool := return sight (← tokens)

/-- Whether something is seen after a number of tokens. -/
def seesAfter (n : Nat) (sight : Sight) : Grammar Bool := return sight ((← tokens).drop n)

def require (condition : Bool) : Grammar Unit := if condition then pure () else fail

def take (read : TokenTree → Option α) : Grammar α := fun cursor =>
  match cursor.tokens with
  | [] => none
  | token :: tokens => (read token).map (·, { cursor with tokens })

def signs (operator : String) : Grammar Unit := fun cursor =>
  (dropSigns operator.toList cursor.tokens).map ((), { cursor with tokens := · })

def word (name : String) : Grammar Unit := take fun
  | .leaf (.word other) _ => if name = other then some () else none
  | _ => none

def someWord : Grammar Unit := take fun
  | .leaf (.word _) _ => some ()
  | _ => none

/-- A name and its line. -/
structure Name where
  text : String
  line : Nat

def identifier : Grammar Name := take fun
  | .leaf (.word name) line => if isKeyword name then none else some ⟨name, line⟩
  | _ => none

/-- An identifier, or one of some keywords. -/
def identifierOr (names : List String) : Grammar Name := take fun
  | .leaf (.word name) line =>
    if isKeyword name && !names.contains name then none else some ⟨name, line⟩
  | _ => none

def lifetime : Grammar Unit := take fun
  | .leaf .lifetime _ => some ()
  | _ => none

/-- Any group, whose content is skipped. -/
def someGroup : Grammar Delimiter := take fun
  | .group delimiter _ => some delimiter
  | _ => none

/-- A literal, with its value if it is a string. -/
def literal : Grammar (Option String) := do
  if ← sees (seesSigns "-") then
    signs "-"
    require (← sees seesNumber)
  take fun
    | .leaf (.literal (.string value)) _ => some (some value)
    | .leaf (.literal _) _ => some none
    | .leaf (.word name) _ => if name = "true" ∨ name = "false" then some none else none
    | _ => none

/-! ### Sequences -/

/-- Takes an operator if it is there. -/
def signs? (operator : String) : Grammar Bool := do
  if ← sees (seesSigns operator) then
    signs operator
    return true
  return false

def word? (name : String) : Grammar Bool := do
  if ← sees (seesWord name) then
    word name
    return true
  return false

def lifetime? : Grammar Unit := do
  if ← sees seesLifetime then lifetime

/-- A group with a content that is taken whole. -/
def inside (delimiter : Delimiter) (content : Grammar α) : Grammar α := fun cursor =>
  match cursor.tokens with
  | .group other inner :: tokens =>
    if delimiter = other then
      match content { cursor with tokens := inner } with
      | some (a, ⟨[], found⟩) => some (a, ⟨tokens, found⟩)
      | _ => none
    else none
  | _ => none

/-- The first of two productions that succeeds. -/
def either (first second : Grammar α) : Grammar α := fun cursor =>
  match first cursor with
  | some result => some result
  | none => second cursor

def loop (step : α → Grammar (α ⊕ β)) : (steps : Nat) → α → Grammar β
  | 0, _ => fail
  | steps + 1, a => do
    match ← step a with
    | .inl a => loop step steps a
    | .inr b => return b

/-- Repeats a step until it ends with a result. A step that goes on takes a token at least. -/
def iterate (step : α → Grammar (α ⊕ β)) (a : α) : Grammar β := do
  loop step ((← tokens).length + 1) a

def repeatWhile (sight : Sight) (body : Grammar Unit) : Grammar Unit :=
  iterate (fun _ => do
    if ← sees sight then
      body
      return .inl ()
    return .inr ()) ()

/-- Elements up to a stop, which may be left out after the last separator. -/
def separated (separator : String) (stop : Sight) (element : Grammar Unit) : Grammar Unit :=
  iterate (fun _ => do
    if ← sees stop then return .inr ()
    element
    if ← signs? separator then return .inl ()
    return .inr ()) ()

/-- All of a group as elements with commas between them, and possibly one after the last. -/
def commaSeparated (element : Grammar Unit) : Grammar Unit := separated "," seesEnd element

/-- Elements between angle brackets. -/
def angled (element : Grammar Unit) : Grammar Unit := do
  signs "<"
  separated "," (seesSigns ">") element
  signs ">"

/-! ### Found items -/

/-- Runs a production and takes out the items it has found, latest first. -/
def collect (body : Grammar α) : Grammar (α × List Item) := fun cursor =>
  match body { cursor with found := [] } with
  | some (a, inner) => some ((a, inner.found), { inner with found := cursor.found })
  | none => none

def record (items : List Item) : Grammar Unit :=
  modify fun cursor => { cursor with found := items ++ cursor.found }

/-- Runs a production without keeping the items it finds. -/
def discard (body : Grammar α) : Grammar α := do return (← collect body).1

end Grammar

end ApiScribe.Rust
