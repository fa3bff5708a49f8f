import ApiScribe.Rust.Grammar.Rule

/-!
# Attributes

Only attributes `doc = "…"` with a plain string literal document an item.
-/

namespace ApiScribe.Rust

structure Attribute where
  line : Nat
  /-- Whether its path is `doc`. -/
  isDoc : Bool
  /-- The string literal it is set to. -/
  text : Option String

/-- The lines of documentation in a list of attributes. -/
def Attribute.docText (attributes : List Attribute) : String :=
  "\n".intercalate ((attributes.filter (·.isDoc)).filterMap (·.text))

namespace Grammar

variable (parse : Productions)

/-- The words that can stand in a path without being identifiers. -/
def pathWords : List String := ["super", "self", "Self", "crate"]

/-- A path without arguments, and its name if that is all it consists of. -/
def simplePath : Grammar (Option String) := do
  let rooted ← signs? "::"
  let first ← identifierOr pathWords
  let single ← iterate (fun single => do
    if ← signs? "::" then
      let _ ← identifierOr pathWords
      return .inl false
    return .inr single) (!rooted)
  return if single then some first.text else none

/-- What an attribute is set to, which is no attribute itself. -/
def attributeValue : Grammar (Option String) := do
  match ← tokens with
  | [.leaf (.literal (.string value)) _] =>
    let _ ← literal
    return some value
  | tokens =>
    require !(seesSigns "#" tokens && seesGroup .bracket (tokens.drop 1))
    let _ ← parse (.expression true)
    return none

def attributeContent (line : Nat) : Grammar Attribute := do
  let name ← if ← word? "unsafe" then pure none else simplePath
  let isDoc := name = some "doc"
  if ← signs? "=" then return { line, isDoc, text := ← attributeValue parse }
  if !(← sees seesEnd) then
    let _ ← someGroup
  return { line, isDoc, text := none }

/-- An attribute from its hash sign on. -/
def wholeAttribute (inner : Bool) : Grammar Attribute := do
  let line ← take fun
    | .leaf (.punct '#' _) line => some line
    | _ => none
  if inner then signs "!"
  inside .bracket (attributeContent parse line)

def seesInnerAttribute : Sight := fun tokens =>
  seesSigns "#" tokens && seesSigns "!" (tokens.drop 1)

def attributesWhile (inner : Bool) (sight : Sight) : Grammar (List Attribute) :=
  iterate (fun before => do
    if ← sees sight then return .inl ((← wholeAttribute parse inner) :: before)
    return .inr before.reverse) []

/-- The attributes in front of something. -/
def outerAttributes : Grammar (List Attribute) := attributesWhile parse false (seesSigns "#")

/-- The attributes of the file or block at whose start they stand. -/
def innerAttributes : Grammar (List Attribute) := attributesWhile parse true seesInnerAttribute

/-- Attributes of something that is not documented by them. -/
def skipAttributes : Grammar Unit := do
  let _ ← outerAttributes parse

end Grammar

end ApiScribe.Rust
