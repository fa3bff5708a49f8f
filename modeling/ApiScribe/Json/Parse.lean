import ApiScribe.Json.Token
import ApiScribe.Json.Write
import ApiScribe.Text.Quoted

/-!
# Reading JSON text

The tokens of a text drive a machine whose stack holds the containers that still wait for a value.
It turns every text into a tree; a value is then read off the tree.
-/

namespace ApiScribe.Json

/-- Containers may nest this deep. -/
def nestingLimit : Nat := 127

/-- A container in which a value is under way. What it holds so far stands last first. -/
inductive Frame where
  | array (limit : Option Fault) (done : List Tree)
  | field (limit : Option Fault) (done : List (Label × Tree)) (label : Label)

/-- What the machine expects next. -/
inductive Mode where
  | value
  | firstItem (limit : Option Fault)
  | nextItem (limit : Option Fault) (done : List Tree)
  | afterItem (limit : Option Fault) (done : List Tree)
  | firstLabel (limit : Option Fault)
  | nextLabel (limit : Option Fault) (done : List (Label × Tree))
  | afterLabel (limit : Option Fault) (done : List (Label × Tree)) (label : Label)
  | afterField (limit : Option Fault) (done : List (Label × Tree))
  | ended (tree : Tree)

/-- A text as a tree, and the fault of what follows the value. -/
structure Source where
  tree : Tree
  trailing : Option Fault := none

/-- What comes of one token. -/
inductive Move where
  | next (frames : List Frame) (mode : Mode)
  | stop (source : Source)

namespace Frame

/-- The container with the tree as its last value. -/
def close (tree : Tree) : Frame → Tree
  | array limit done => .guardWith limit (.array (tree :: done).reverse none)
  | field limit done label => .guardWith limit (.object ((label, tree) :: done).reverse none)

end Frame

namespace Source

/-- The source of a text that breaks off with the given tree. -/
def breakOff (frames : List Frame) (tree : Tree) : Source :=
  { tree := frames.foldl Frame.close tree }

/-- A value is due and there is none. -/
def noValue (frames : List Frame) (cause : Cause) (position : Position) : Source :=
  breakOff frames (.broken { cause, position })

/-- The innermost array ends with a fault. -/
def cutArray (frames : List Frame) (limit : Option Fault) (done : List Tree) (cause : Cause)
    (position : Position) : Source :=
  breakOff frames (.guardWith limit (.array done.reverse (some { cause, position })))

/-- The innermost object ends with a fault. -/
def cutObject (frames : List Frame) (limit : Option Fault) (done : List (Label × Tree))
    (cause : Cause) (position : Position) : Source :=
  breakOff frames (.guardWith limit (.object done.reverse (some { cause, position })))

end Source

namespace Move

/-- A value is complete. -/
def resume (tree : Tree) : List Frame → Move
  | [] => .next [] (.ended tree)
  | .array limit done :: frames => .next frames (.afterItem limit (tree :: done))
  | .field limit done label :: frames => .next frames (.afterField limit ((label, tree) :: done))

def closeArray (frames : List Frame) (limit : Option Fault) (done : List Tree) : Move :=
  resume (.guardWith limit (.array done.reverse none)) frames

def closeObject (frames : List Frame) (limit : Option Fault) (done : List (Label × Tree)) : Move :=
  resume (.guardWith limit (.object done.reverse none)) frames

end Move

/-- A container opened inside so many others may be one too deep. -/
def depthFault (frames : List Frame) (t : Located) : Option Fault :=
  if frames.length < nestingLimit then none
  else some { cause := .nestingTooDeep, position := t.seen }

/-- A token where a value is due. -/
def onValue (frames : List Frame) (t : Located) : Move :=
  match t.token with
  | .openBracket => .next frames (.firstItem (depthFault frames t))
  | .openBrace => .next frames (.firstLabel (depthFault frames t))
  | .text tree | .literal tree => .resume tree frames
  | .closeBrace | .closeBracket | .comma | .colon | .stray =>
    .stop (.noValue frames .expectedValue t.seen)

/-- A token where the label of a field is due. -/
def onLabel (frames : List Frame) (limit : Option Fault) (done : List (Label × Tree))
    (t : Located) : Move :=
  match t.token with
  | .text (.string name) => .next frames (.afterLabel limit done (.name name))
  | .text (.guarded fault (.string _)) => .next frames (.afterLabel limit done (.flawed fault))
  | .text (.guarded fault tree) =>
    .stop (.breakOff (.field limit done (.flawed fault) :: frames) tree)
  | .text tree => .stop (.breakOff (.field limit done (.name "") :: frames) tree)
  | _ => .stop (.cutObject frames limit done .labelNotString t.seen)

def step (frames : List Frame) (mode : Mode) (t : Located) : Move :=
  match mode with
  | .value => onValue frames t
  | .firstItem limit =>
    match t.token with
    | .closeBracket => .closeArray frames limit []
    | _ => onValue (.array limit [] :: frames) t
  | .nextItem limit done =>
    match t.token with
    | .closeBracket => .stop (.cutArray frames limit done .trailingComma t.seen)
    | _ => onValue (.array limit done :: frames) t
  | .afterItem limit done =>
    match t.token with
    | .comma => .next frames (.nextItem limit done)
    | .closeBracket => .closeArray frames limit done
    | _ => .stop (.cutArray frames limit done .expectedListEnd t.seen)
  | .firstLabel limit =>
    match t.token with
    | .closeBrace => .closeObject frames limit []
    | _ => onLabel frames limit [] t
  | .nextLabel limit done =>
    match t.token with
    | .closeBrace => .stop (.cutObject frames limit done .trailingComma t.seen)
    | _ => onLabel frames limit done t
  | .afterLabel limit done label =>
    match t.token with
    | .colon => .next (.field limit done label :: frames) .value
    | _ => .stop (.noValue (.field limit done label :: frames) .expectedColon t.seen)
  | .afterField limit done =>
    match t.token with
    | .comma => .next frames (.nextLabel limit done)
    | .closeBrace => .closeObject frames limit done
    | _ => .stop (.cutObject frames limit done .expectedObjectEnd t.seen)
  | .ended tree =>
    .stop { tree, trailing := some { cause := .trailingCharacters, position := t.seen } }

/-- There are no more tokens. -/
def atEnd (finish : Position) (frames : List Frame) : Mode → Source
  | .value => .noValue frames .endOfValue finish
  | .firstItem limit => .cutArray frames limit [] .endOfList finish
  | .nextItem limit done => .cutArray frames limit done .endAfterComma finish
  | .afterItem limit done => .cutArray frames limit done .endOfList finish
  | .firstLabel limit => .cutObject frames limit [] .endOfObject finish
  | .nextLabel limit done => .cutObject frames limit done .endAfterComma finish
  | .afterLabel limit done label => .noValue (.field limit done label :: frames) .endOfObject finish
  | .afterField limit done => .cutObject frames limit done .endOfObject finish
  | .ended tree => { tree }

def run (finish : Position) (frames : List Frame) (mode : Mode) : List Located → Source
  | [] => atEnd finish frames mode
  | t :: ts =>
    match step frames mode t with
    | .next frames mode => run finish frames mode ts
    | .stop source => source

/-- The tree of a text. -/
def Source.ofText (text : String) : Source :=
  let chars := text.toList
  run (Position.advanceAll {} chars) [] .value (Token.lex {} chars)

/-- The value a text stands for. -/
def parse (text : String) : Except Fault Json := do
  let source := Source.ofText text
  let value ← source.tree.toJson
  Tree.endOf source.trailing value

/-! ### Objects -/

/-- A value as messages name it. -/
def describe : Json → String
  | .null => "null"
  | .bool true => "boolean `true`"
  | .bool false => "boolean `false`"
  | .number (.integer n) => "integer `" ++ .ofList (integerChars n) ++ "`"
  | .number (.double x) => "floating point `" ++ .ofList (doubleLayout.write x) ++ "`"
  | .string s => "string " ++ Text.quote s
  | .array _ => "sequence"
  | .object _ => "map"

/-- The fields of the object a text stands for. Another kind of value is refused as soon as it is
recognised, whatever follows it. -/
def parseObject (text : String) : Except Fault (OrderedMap Json) :=
  let refuse (value : Json) (position : Position) : Except Fault (OrderedMap Json) :=
    .error { cause := .notAnObject (describe value), position }
  match Token.lex {} text.toList with
  | { token := .openBracket, start, .. } :: _ => refuse (.array []) start
  | { token := .text tree, stop, .. } :: _ | { token := .literal tree, stop, .. } :: _ =>
    match tree.toJson with
    | .ok value => refuse value stop
    | .error fault => .error fault
  | _ =>
    match parse text with
    | .ok (.object fields) => .ok fields
    | .ok value => refuse value {}
    | .error fault => .error fault

end ApiScribe.Json
