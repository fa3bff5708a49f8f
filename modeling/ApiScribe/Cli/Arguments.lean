import ApiScribe.Text.Quoted

/-!
# Command-line arguments

Options can stand anywhere before two dashes on their own, and their values stand after an equals
sign, right after the letter, or in the next argument. A value from the next argument is only
checked once another known option, the project path or the end follows.
-/

namespace ApiScribe.Cli

inductive Format where
  | yaml
  | json
deriving DecidableEq, Repr

def Format.name : Format → String
  | .yaml => "yaml"
  | .json => "json"

/-- The format as messages show it. -/
def Format.label : Format → String
  | .yaml => "Yaml"
  | .json => "Json"

def Format.ofName? : String → Option Format
  | "yaml" => some .yaml
  | "json" => some .json
  | _ => none

structure Arguments where
  projectPath : String
  format : Format := .yaml
  output : Option String := none
  allowErrors : Bool := false
  verbose : Bool := false
deriving DecidableEq, Repr

/-- The arguments as messages show them. -/
def Arguments.describe (a : Arguments) : String :=
  let output :=
    match a.output with
    | none => "None"
    | some path => "Some(" ++ Text.quotePath path ++ ")"
  "CliArgs \x7b project_path: " ++ Text.quotePath a.projectPath ++ ", output_format: " ++
    a.format.label ++ ", output_path: " ++ output ++ ", allow_errors: " ++
    toString a.allowErrors ++ ", verbose: " ++ toString a.verbose ++ " \x7d"

/-- Why arguments do not start a run. -/
inductive UsageError where
  | missingPath
  | unknown
  | invalidValue
  /-- An option is given twice. -/
  | repeated
  /-- A switch is given a value. -/
  | needlessValue
  | help
  | version
deriving DecidableEq, Repr

/-! ### Options -/

inductive Flag where
  | format
  | output
  | allowErrors
  | verbose
  | help
  | version
deriving DecidableEq, Repr

namespace Flag

def takesValue : Flag → Bool
  | format | output => true
  | _ => false

def ofLetter? : Char → Option Flag
  | 'f' => some format
  | 'o' => some output
  | 'v' => some verbose
  | 'h' => some help
  | 'V' => some version
  | _ => none

def ofName? : String → Option Flag
  | "format" => some format
  | "output" => some output
  | "allow-errors" => some allowErrors
  | "verbose" => some verbose
  | "help" => some help
  | "version" => some version
  | _ => none

end Flag

/-! ### Progress -/

/-- A value that has not been checked yet, or an option that waits for one. -/
inductive Pending where
  | nothing
  | path (value : String)
  | value (flag : Flag) (value : Option String)
deriving DecidableEq, Repr

structure Progress where
  path : Option String := none
  format : Option Format := none
  output : Option String := none
  allowErrors : Bool := false
  verbose : Bool := false
  pending : Pending := .nothing
  /-- Whether all further arguments are paths. -/
  onlyPaths : Bool := false
deriving DecidableEq, Repr

namespace Progress

/-- Take the value of an option, which is given once at most. -/
def assign (p : Progress) (flag : Flag) (value : String) : Except UsageError Progress :=
  match flag with
  | .format =>
    if p.format.isSome then .error .repeated
    else
      match Format.ofName? value with
      | some format => .ok { p with format := some format }
      | none => .error .invalidValue
  | .output =>
    if p.output.isSome then .error .repeated
    else if value = "" then .error .invalidValue
    else .ok { p with output := some value }
  | _ => .error .needlessValue

/-- Check what is pending. -/
def settle (p : Progress) : Except UsageError Progress :=
  let settled := { p with pending := .nothing }
  match p.pending with
  | .nothing => .ok p
  | .path value =>
    if value = "" then .error .invalidValue else .ok { settled with path := some value }
  | .value _ none => .error .invalidValue
  | .value flag (some value) => settled.assign flag value

/-- Set a switch, or end with what it asks for. -/
def switch (p : Progress) (flag : Flag) : Except UsageError Progress := do
  let p ← p.settle
  match flag with
  | .allowErrors => if p.allowErrors then throw .repeated else return { p with allowErrors := true }
  | .verbose => if p.verbose then throw .repeated else return { p with verbose := true }
  | .help => throw .help
  | .version => throw .version
  | _ => throw .invalidValue

/-- An option with a value that is attached to it, if there is one. -/
def give (p : Progress) (flag : Flag) (value : Option String) :
    Except UsageError Progress := do
  let p ← p.settle
  match value with
  | some value => p.assign flag value
  | none => return { p with pending := .value flag none }

/-- An argument after two dashes. -/
def long (p : Progress) (cs : List Char) : Except UsageError Progress :=
  let value :=
    match cs.dropWhile (· ≠ '=') with
    | _ :: value => some (String.ofList value)
    | [] => none
  match Flag.ofName? (.ofList (cs.takeWhile (· ≠ '='))) with
  | none => .error .unknown
  | some flag =>
    if flag.takesValue then p.give flag value
    else if value.isSome then .error .needlessValue
    else p.switch flag

/-- The letters after a single dash. -/
def letters (p : Progress) : List Char → Except UsageError Progress
  | [] => .ok p
  | c :: cs =>
    match Flag.ofLetter? c with
    | none => .error .unknown
    | some flag =>
      if flag.takesValue then
        match cs with
        | [] => p.give flag none
        | '=' :: value => p.give flag (some (.ofList value))
        | value => p.give flag (some (.ofList value))
      else do
        let p ← p.switch flag
        p.letters cs

/-- An argument that is no option: a value, or the project path. -/
def plain (p : Progress) (argument : String) : Except UsageError Progress :=
  match p.pending, p.onlyPaths with
  | .value flag none, false => .ok { p with pending := .value flag (some argument) }
  | .path _, _ => .error .unknown
  | _, _ =>
    if p.path.isSome then .error .unknown
    else do
      let p ← p.settle
      return { p with pending := .path argument }

def step (p : Progress) (argument : String) : Except UsageError Progress :=
  if p.onlyPaths then p.plain argument
  else
    match argument.toList with
    | ['-', '-'] => .ok { p with onlyPaths := true }
    | '-' :: '-' :: cs => p.long cs
    | ['-'] => p.plain argument
    | '-' :: cs => p.letters cs
    | _ => p.plain argument

def finish (p : Progress) : Except UsageError Arguments := do
  let p ← p.settle
  match p.path with
  | none => throw .missingPath
  | some projectPath =>
    return {
      projectPath, format := p.format.getD .yaml, output := p.output
      allowErrors := p.allowErrors, verbose := p.verbose }

end Progress

/-- The arguments of a run. -/
def Arguments.parse (arguments : List String) : Except UsageError Arguments := do
  let progress ← arguments.foldlM Progress.step {}
  progress.finish

end ApiScribe.Cli
