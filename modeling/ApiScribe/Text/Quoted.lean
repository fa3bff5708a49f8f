import ApiScribe.Text.Unprintable

/-!
# Quoted text

Text between double quotes as messages show it: with short escapes for the common controls and the
code point in braces for every other character that cannot be shown.
-/

namespace ApiScribe.Text

structure QuoteStyle where
  /-- Whether single quotes are escaped as well. -/
  escapeSingle : Bool := false

def codePointEscape (c : Char) : List Char :=
  '\\' :: 'u' :: '\x7b' :: Nat.toDigits 16 c.toNat ++ ['\x7d']

def QuoteStyle.escape (style : QuoteStyle) (c : Char) : List Char :=
  match c with
  | '\x00' => ['\\', '0']
  | '\t' => ['\\', 't']
  | '\n' => ['\\', 'n']
  | '\r' => ['\\', 'r']
  | '"' => ['\\', '"']
  | '\\' => ['\\', '\\']
  | '\'' => if style.escapeSingle then ['\\', '\''] else ['\'']
  | c => if isUnprintable c then codePointEscape c else [c]

def QuoteStyle.quote (style : QuoteStyle) (s : String) : String :=
  .ofList ('"' :: s.toList.flatMap style.escape ++ ['"'])

/-- A text in messages. -/
def quote (s : String) : String := QuoteStyle.quote {} s

/-- A file path in messages. -/
def quotePath (s : String) : String := QuoteStyle.quote { escapeSingle := true } s

end ApiScribe.Text
