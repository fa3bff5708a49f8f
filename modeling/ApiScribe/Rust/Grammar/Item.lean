import ApiScribe.Rust.Grammar.Pattern
import ApiScribe.Text.Blank

/-!
# Items

An item with documentation is recorded before those inside it. Items that only a later phase of a
compiler would refuse are well formed, but neither they nor what they hold is recorded.
-/

namespace ApiScribe.Rust.Grammar

variable (parse : Productions)

/-! ### Documentation -/

/-- The attributes in front of an item, and the items inside them. -/
structure Header where
  attributes : List Attribute
  found : List Item

/-- What an item turns out to be: one that is not recorded, one that only holds others, or one with
a name, a value and attributes at the start of its body. -/
inductive Outcome where
  | skipped
  | unnamed
  | named (name : Name) (value : Option String) (inner : List Attribute)

def header : Grammar Header := do
  let (attributes, found) ← collect (outerAttributes parse)
  return { attributes, found }

/-- The item of a name that is documented by some attributes. -/
def documented (name : Name) (value : Option String) (attributes : List Attribute) : List Item :=
  let doc := Attribute.docText attributes
  if (Text.trim doc).isEmpty then [] else [{ name := name.text, line := name.line, value, doc }]

def recordItem (header : Header) (body : Grammar Outcome) : Grammar Unit := do
  let (outcome, found) ← collect body
  match outcome with
  | .skipped => pure ()
  | .unnamed => record (found ++ header.found)
  | .named name value inner =>
    record (found ++ header.found ++ documented name value (header.attributes ++ inner))

/-! ### Visibility -/

/-- The range of a `pub`, if it has one, and whether there is a `pub`. -/
def visibility : Grammar Bool := do
  if ← word? "pub" then
    match ← tokens with
    | .group .paren [.leaf (.word scope) _] :: _ =>
      if ["crate", "self", "super"].contains scope then
        let _ ← someGroup
    | .group .paren (.leaf (.word "in") _ :: _) :: _ =>
      inside .paren do
        word "in"
        let _ ← simplePath
    | _ => pure ()
    return true
  return false

/-! ### Functions -/

/-- The tokens after a word, if they start with it. -/
def dropWord (name : String) (tokens : List TokenTree) : List TokenTree :=
  if seesWord name tokens then tokens.drop 1 else tokens

def dropAbi (tokens : List TokenTree) : List TokenTree :=
  if seesWord "extern" tokens then
    if seesString (tokens.drop 1) then tokens.drop 2 else tokens.drop 1
  else tokens

/-- The start of a function, where `safety` holds the words on its safety. -/
def seesFunction (safety : List String) : Sight := fun tokens =>
  let tokens := dropWord "async" (dropWord "const" tokens)
  let tokens := if seesAnyWord safety tokens then tokens.drop 1 else tokens
  seesWord "fn" (dropAbi tokens)

/-- The `self` of a method. -/
def receiver : Grammar Unit := do
  let reference ← signs? "&"
  if reference then lifetime?
  let _ ← word? "mut"
  word "self"
  if !reference then
    if ← signs? ":" then type parse true

/-- A parameter that is not `self`. -/
def typedParameter : Grammar Unit := do
  if ← sees (seesSigns "...") then variadic
  else if (← sees seesIdentifier) && (← seesAfter 1 (seesSigns "<")) then type parse true
  else
    let _ ← parse .pattern
    signs ":"
    if ← sees (seesSigns "...") then variadic else type parse true

/-- The parameters of a function, the first of which may be `self`. -/
def parameters : Grammar Unit := inside .paren do
  if ← sees seesEnd then return
  skipAttributes parse
  either (receiver parse) (typedParameter parse)
  if ← signs? "," then
    commaSeparated do
      skipAttributes parse
      typedParameter parse

/-- A function up to its body, where `safety` holds the words on its safety. -/
def signature (safety : List String) : Grammar Name := do
  let _ ← word? "const"
  let _ ← word? "async"
  if ← sees (seesAnyWord safety) then someWord
  abi?
  word "fn"
  let name ← identifier
  let _ ← generics? parse
  parameters parse
  arrow? parse true
  let _ ← where? parse
  return name

/-- A function that is only recorded if it has a body. -/
def function : Grammar Outcome := do
  let name ← signature parse ["unsafe"]
  if ← signs? ";" then return .skipped
  return .named name none (← attributedBlock parse)

/-! ### Constants -/

/-- The rest of a constant: its name, whether it is generic, and its value. -/
def constantTail : Grammar (Name × Bool × Option Form) := do
  word "const"
  let name ← identifierOr ["_"]
  let generic ← generics? parse
  signs ":"
  type parse true
  let value ← if ← signs? "=" then some <$> parse (.expression true) else pure none
  let restricted ← where? parse
  signs ";"
  return (name, generic || restricted, value)

/-- The text of an expression that is a string literal. -/
def Form.text? : Form → Option String
  | .text value => some value
  | _ => none

/-- A constant that is only recorded if it has a value and no parameters. -/
def constant : Grammar Outcome := do
  match ← constantTail parse with
  | (name, false, some form) => return .named name (Form.text? form) []
  | _ => return .skipped

def staticVariable : Grammar Outcome := do
  word "static"
  let _ ← word? "mut"
  let name ← identifier
  let typed ← signs? ":"
  if typed then type parse true
  let form ← if ← signs? "=" then some <$> parse (.expression true) else pure none
  signs ";"
  match typed, form with
  | true, some form => return .named name (Form.text? form) []
  | true, none | false, some _ => return .skipped
  | false, none => fail

/-! ### Types -/

def namedFields : Grammar Unit :=
  inside .brace <| commaSeparated do
    skipAttributes parse
    let _ ← visibility
    let _ ← identifierOr ["_"]
    signs ":"
    type parse true

def positionalFields : Grammar Unit :=
  inside .paren <| commaSeparated do
    skipAttributes parse
    let _ ← visibility
    type parse true

def structType : Grammar Outcome := do
  word "struct"
  let name ← identifier
  let _ ← generics? parse
  let restricted ← where? parse
  if !restricted && (← sees (seesGroup .paren)) then
    positionalFields parse
    let _ ← where? parse
    signs ";"
  else if ← sees (seesGroup .brace) then namedFields parse
  else signs ";"
  return .named name none []

def enumeration : Grammar Outcome := do
  word "enum"
  let name ← identifier
  let _ ← generics? parse
  let _ ← where? parse
  inside .brace <| commaSeparated do
    skipAttributes parse
    let _ ← visibility
    let _ ← identifier
    if ← sees (seesGroup .brace) then namedFields parse
    else if ← sees (seesGroup .paren) then positionalFields parse
    if ← signs? "=" then expression parse
  return .named name none []

def union : Grammar Outcome := do
  word "union"
  let name ← identifier
  let _ ← generics? parse
  let _ ← where? parse
  namedFields parse
  return .named name none []

/-- Where the conditions on a type alias can stand. -/
structure WherePlaces where
  before : Bool
  after : Bool

/-- The rest of a type alias or associated type: its name, whether it has bounds, and whether it
has a definition. -/
def typeAliasTail (places : WherePlaces) : Grammar (Name × Bool × Bool) := do
  word "type"
  let name ← identifier
  let _ ← generics? parse
  let bounded ← signs? ":"
  if bounded then
    boundsUntil parse fun tokens => seesWord "where" tokens || seesAnySigns ["=", ";"] tokens
  let restricted ← if places.before then where? parse else pure false
  let defined ← signs? "="
  if defined then type parse true
  if places.after && !restricted then
    let _ ← where? parse
  signs ";"
  return (name, bounded, defined)

def typeAlias : Grammar Outcome := do
  match ← typeAliasTail parse { before := true, after := false } with
  | (name, false, true) => return .named name none []
  | _ => return .skipped

/-! ### Modules and imports -/

def importsProduction (rooted : Bool) : Grammar Form := do
  if ← signs? "*" then return .plain
  if ← sees (seesGroup .brace) then
    inside .brace <| commaSeparated do
      let atRoot ← if rooted then signs? "::" else pure false
      let _ ← parse (.imports (rooted && !atRoot))
    return .plain
  let _ ← identifierOr ("try" :: pathWords)
  if ← signs? "::" then
    let _ ← parse (.imports false)
  else if ← word? "as" then
    let _ ← identifierOr ["_"]
  return .plain

def imports : Grammar Outcome := do
  word "use"
  let atRoot ← signs? "::"
  let _ ← parse (.imports !atRoot)
  signs ";"
  return .unnamed

def seesMacroPath : Sight := fun tokens =>
  seesIdentifier tokens || seesAnyWord ["self", "super", "crate"] tokens || seesSigns "::" tokens

/-- A macro call with its semicolon, which only braces can lack. -/
def macroCall (named : Bool) : Grammar Outcome := do
  let _ ← simplePath
  signs "!"
  if named && ((← sees seesIdentifier) || (← sees (seesWord "try"))) then someWord
  if (← someGroup) ≠ .brace then signs ";"
  return .unnamed

def macroDefinition : Grammar Outcome := do
  word "macro"
  let _ ← identifier
  if ← sees (seesGroup .paren) then
    let _ ← someGroup
  require ((← someGroup) = .brace)
  return .skipped

def externCrate : Grammar Outcome := do
  word "extern"
  word "crate"
  let _ ← identifierOr ["self"]
  if ← word? "as" then
    let _ ← identifierOr ["_"]
  signs ";"
  return .unnamed

def module : Grammar Outcome := do
  let _ ← word? "unsafe"
  word "mod"
  let name ← identifierOr ["try"]
  if ← signs? ";" then return .named name none []
  let inner ← inside .brace do
    let inner ← innerAttributes parse
    repeatWhile (!seesEnd ·) do
      let _ ← parse .item
    return inner
  return .named name none inner

/-! ### Foreign items -/

def foreignFunction : Grammar Outcome := do
  let safe := seesFunction ["safe"] (← tokens) && !seesFunction [] (← tokens)
  let _ ← signature parse ["unsafe", "safe"]
  if ← signs? ";" then return if safe then .skipped else .unnamed
  let _ ← attributedBlock parse
  return .skipped

def foreignStatic : Grammar Outcome := do
  let safe ← word? "safe"
  if !safe then
    let _ ← word? "unsafe"
  word "static"
  let _ ← word? "mut"
  let _ ← identifier
  signs ":"
  type parse true
  let defined ← signs? "="
  if defined then expression parse
  signs ";"
  return if safe || defined then .skipped else .unnamed

def foreignItem : Grammar Unit := do
  let header ← header parse
  recordItem header do
    let isPublic ← visibility
    let tokens ← tokens
    if seesFunction ["unsafe", "safe"] tokens then foreignFunction parse
    else if seesWord "static" tokens ||
        (seesAnyWord ["unsafe", "safe"] tokens && seesWord "static" (tokens.drop 1)) then
      foreignStatic parse
    else if seesWord "type" tokens then
      match ← typeAliasTail parse { before := true, after := true } with
      | (_, false, false) => return .unnamed
      | _ => return .skipped
    else
      require (!isPublic && seesMacroPath tokens)
      macroCall false

def foreignModule : Grammar Outcome := do
  let _ ← word? "unsafe"
  abi?
  inside .brace do
    let _ ← innerAttributes parse
    repeatWhile (!seesEnd ·) (foreignItem parse)
  return .unnamed

/-! ### Traits -/

/-- An associated function, constant or type of a trait, of which only a function is recorded. -/
def traitItemBody : Grammar Outcome := do
  let isPublic ← visibility
  let isDefault ← word? "default"
  let tokens ← tokens
  let outcome ←
    if seesFunction ["unsafe"] tokens then do
      let name ← signature parse ["unsafe"]
      if ← signs? ";" then pure (Outcome.named name none [])
      else pure (.named name none (← attributedBlock parse))
    else if seesWord "const" tokens then do
      match ← constantTail parse with
      | (_, false, _) => pure .unnamed
      | _ => pure .skipped
    else if seesWord "type" tokens then do
      let _ ← typeAliasTail parse { before := false, after := true }
      pure .unnamed
    else do
      require (!isPublic && !isDefault && seesMacroPath tokens)
      macroCall false
  return if isPublic || isDefault then .skipped else outcome

def traitItem : Grammar Unit := do
  let header ← header parse
  recordItem header (traitItemBody parse)

def seesTraitBody : Sight := fun tokens => seesWord "where" tokens || seesGroup .brace tokens

/-- A trait, or another name for a sum of bounds. -/
def trait : Grammar Outcome := do
  let isUnsafe ← word? "unsafe"
  let isAuto ← word? "auto"
  word "trait"
  let name ← identifier
  let _ ← generics? parse
  if !isUnsafe && !isAuto && (← signs? "=") then
    boundsUntil parse fun tokens => seesWord "where" tokens || seesSigns ";" tokens
    let _ ← where? parse
    signs ";"
    return .unnamed
  if ← signs? ":" then boundsUntil parse seesTraitBody
  let _ ← where? parse
  let inner ← inside .brace do
    let inner ← innerAttributes parse
    repeatWhile (!seesEnd ·) (traitItem parse)
    return inner
  return .named name none inner

/-! ### Implementations -/

def implItemBody : Grammar Outcome := do
  let isPublic ← visibility
  let isDefault := (← sees (seesWord "default")) && !(← seesAfter 1 (seesSigns "!"))
  if isDefault then word "default"
  let tokens ← tokens
  if seesFunction ["unsafe"] tokens then function parse
  else if seesWord "const" tokens then constant parse
  else if seesWord "type" tokens then
    match ← typeAliasTail parse { before := false, after := true } with
    | (_, false, true) => return .unnamed
    | _ => return .skipped
  else
    require (!isPublic && !isDefault && seesMacroPath tokens)
    macroCall false

def implItem : Grammar Unit := do
  let header ← header parse
  recordItem header (implItemBody parse)

/-- Parameters of an implementation, where a type in angle brackets could start as well. -/
def seesImplGenerics : Sight := fun tokens =>
  let after := tokens.drop 2
  seesSigns "<" tokens &&
    (seesAnySigns [">", "#"] (tokens.drop 1) || seesWord "const" (tokens.drop 1) ||
      ((seesLifetime (tokens.drop 1) || seesIdentifier (tokens.drop 1)) &&
        (seesAnySigns [">", ",", "="] after || (seesSigns ":" after && !seesSigns "::" after))))

/-- An implementation after its visibility. -/
def implementation (isPublic : Bool) : Grammar Outcome := do
  let _ ← word? "default"
  let _ ← word? "unsafe"
  word "impl"
  if ← sees seesImplGenerics then
    let _ ← generics? parse
  let isConst := (← sees (seesWord "const")) ||
    ((← sees (seesSigns "?")) && (← seesAfter 1 (seesWord "const")))
  if isConst then
    let _ ← signs? "?"
    word "const"
  if (← sees (seesSigns "!")) && !(← seesAfter 1 (seesGroup .brace)) then signs "!"
  let form ← parse (.type true)
  let ofTrait ← word? "for"
  if ofTrait then type parse true
  let _ ← where? parse
  inside .brace do
    let _ ← innerAttributes parse
    repeatWhile (!seesEnd ·) (implItem parse)
  let isPath := form = .segment || form = .path
  return if isPublic || isConst || (ofTrait && !isPath) then .skipped else .unnamed

/-! ### Any item -/

def seesTrait : Sight := fun tokens =>
  seesWord "trait" tokens || (seesWord "auto" tokens && seesWord "trait" (tokens.drop 1))

def seesForeignModule : Sight := fun tokens =>
  seesWord "extern" tokens && seesGroup .brace (dropAbi tokens)

/-- An item after its attributes. -/
def itemBody : Grammar Outcome := do
  let isPublic ← visibility
  let tokens ← tokens
  let safe := dropWord "unsafe" tokens
  if seesFunction ["unsafe"] tokens then function parse
  else if seesForeignModule safe then foreignModule parse
  else if seesWord "extern" tokens then externCrate
  else if seesWord "use" tokens then imports parse
  else if seesWord "static" tokens then staticVariable parse
  else if seesWord "const" tokens then constant parse
  else if seesTrait safe then trait parse
  else if seesWord "impl" safe then implementation parse isPublic
  else if seesWord "mod" safe then module parse
  else if seesWord "type" tokens then typeAlias parse
  else if seesWord "struct" tokens then structType parse
  else if seesWord "enum" tokens then enumeration parse
  else if seesWord "union" tokens && seesIdentifier (tokens.drop 1) then union parse
  else if seesWord "default" tokens && !seesSigns "!" (tokens.drop 1) then
    implementation parse isPublic
  else if seesWord "macro" tokens then macroDefinition
  else
    require (!isPublic && seesMacroPath tokens)
    macroCall true

def itemProduction : Grammar Form := do
  let header ← header parse
  recordItem header (itemBody parse)
  return .plain

/-! ### Files -/

/-- The items of a file, and its own documentation. -/
def file : Grammar Unit := do
  let (attributes, found) ← collect (innerAttributes parse)
  match attributes.find? (·.isDoc) with
  | some first => record (found ++ documented ⟨"", first.line⟩ none attributes)
  | none => record found
  repeatWhile (!seesEnd ·) do
    let _ ← parse .item

end ApiScribe.Rust.Grammar
