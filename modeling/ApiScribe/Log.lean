/-!
# Log records
-/

namespace ApiScribe.Log

inductive Level where
  | debug
  | info
  | warn
deriving Repr, DecidableEq

def Level.name : Level → String
  | debug => "DEBUG"
  | info => "INFO"
  | warn => "WARN"

structure Record where
  level : Level
  text : String
deriving Repr, DecidableEq

def Record.debug (text : String) : Record := { level := .debug, text }

def Record.info (text : String) : Record := { level := .info, text }

def Record.warn (text : String) : Record := { level := .warn, text }

def Record.line (r : Record) : String := r.level.name ++ " " ++ r.text

end ApiScribe.Log
