/-
# Telematics.Telemetry.Filter -- which events the log shows

A filter is a list of directives between commas.  A directive is a level, or a
target with a level behind an equals sign; a target alone stands for every level.
A level is a word in any case, or its number.  Behind the target, or instead of
it, a span may stand between square brackets, and within them a field between
braces, which may ask for a value behind an equals sign.

A target is what the name of a part of the program begins with.  A directive with
a span, or with a value, is about what happens within spans; the program opens
none, so such a directive is read and shows nothing.  Any other one holds for the
events of the parts that its target fits and that have the field.  Of the
directives that hold for an event the one with the longest target decides, of
those the one with a field, and of equal ones the last; the event is shown if it
is no more detailed than that directive's level.
-/
import Telematics.Telemetry.Settings
import Telematics.Text.Alphanumeric
import Telematics.Text.Blank
import Telematics.Text.Cut
import Telematics.Text.Decimal
import Telematics.Text.Pattern
import Telematics.Text.Quoted
import Telematics.Total

namespace Telematics.Telemetry

set_option autoImplicit false

/-- How detailed an event is. -/
inductive Level where
  | off
  | error
  | warn
  | info
  | debug
  | trace
  deriving Repr, DecidableEq

namespace Level

/-- Every level, the least detailed first. -/
def all : List Level := [.off, .error, .warn, .info, .debug, .trace]

def word : Level → String
  | .off => "off"
  | .error => "error"
  | .warn => "warn"
  | .info => "info"
  | .debug => "debug"
  | .trace => "trace"

def rank : Level → Nat
  | .off => 0
  | .error => 1
  | .warn => 2
  | .info => 3
  | .debug => 4
  | .trace => 5

/-- The level that a word or number stands for. -/
def ofText? (s : String) : Option Level :=
  match Text.Decimal.read 18446744073709551615 s.toList with
  | some n => all.find? (·.rank = n)
  | none =>
    if s = "" then some .error
    else all.find? fun level => level.word = Settings.lower s

end Level

/-- Why a filter is refused. -/
inductive FilterError where
  | invalidLevel
  /-- The parts of a directive do not fit together. -/
  | invalidDirective
  /-- What a field should have as its value is neither a number nor a regular expression that
  can be used. -/
  | invalidField (reason : Text.PatternError)
  /-- A part of a directive would begin or end within a character. -/
  | brokenCharacter
  deriving Repr, DecidableEq

def FilterError.message : FilterError → String
  | .invalidLevel =>
    "error parsing level filter: expected one of \"off\", \"error\", \"warn\", \"info\", " ++
      "\"debug\", \"trace\", or a number 0-5"
  | .invalidDirective => "invalid filter directive"
  | .invalidField reason => "invalid field filter: " ++ reason.message
  | .brokenCharacter => "not a character boundary"

/-- A field that is asked for. -/
structure FieldTest where
  name : String
  /-- Whether the field has to have a certain value. -/
  hasValue : Bool
  deriving Repr, DecidableEq

/-- What is shown, and up to which level. -/
structure FilterDirective where
  /-- What the name of a part of the program begins with. -/
  target : Option String := none
  /-- The name of the span in which something happens. -/
  span : Option String := none
  /-- What a span or an event says about itself. -/
  field : Option FieldTest := none
  level : Level := .trace
  deriving Repr, DecidableEq

abbrev Filter := List FilterDirective

/-- Why no log can be opened. -/
inductive TelemetryError where
  | alreadyInstalled (text : String)
  | invalidSettings (text : String)
  deriving Repr, DecidableEq

def TelemetryError.message : TelemetryError → String
  | .alreadyInstalled text => "Failed to initialize tracing subscriber: " ++ text
  | .invalidSettings text => "Invalid configuration: " ++ text

namespace FilterDirective

/-! ## Reading

The parts of a directive are found in the text without the blanks at its ends, and
cut out of the text with them: a blank in front moves every part, and one behind
belongs to what stands last. -/

/-- Whether a directive may begin with a character other than an opening bracket. -/
def mayBegin (c : Char) : Bool :=
  Text.isAlphanumeric c || c = '-' || c = ':' || c = '_'

/-- A text without the bytes in front of a position, unless that is within a character. -/
def dropBytes? : Nat → List Char → Option (List Char)
  | 0, cs => some cs
  | _ + 1, [] => none
  | n + 1, c :: cs => if n < c.utf8Size - 1 then none else dropBytes? (n + 1 - c.utf8Size) cs

/-- The bytes of a text in front of a position, unless that is within a character. -/
def takeBytes? : Nat → List Char → Option (List Char)
  | 0, _ => some []
  | _ + 1, [] => none
  | n + 1, c :: cs =>
    if n < c.utf8Size - 1 then none
    else (takeBytes? (n + 1 - c.utf8Size) cs).map (c :: ·)

def between (whole : List Char) (start stop : Nat) : Except FilterError String :=
  match (dropBytes? start whole).bind (takeBytes? (stop - start)) with
  | some cs => .ok (String.ofList cs)
  | none => .error .brokenCharacter

def behind (whole : List Char) (start : Nat) : Except FilterError String :=
  match dropBytes? start whole with
  | some cs => .ok (String.ofList cs)
  | none => .error .brokenCharacter

def size (cs : List Char) : Nat :=
  total Char.utf8Size cs

/-- Reads the level behind the equals sign; nothing stands for the most detailed one. -/
def readLevel (whole : List Char) (start : Nat) (d : FilterDirective) :
    Except FilterError FilterDirective := do
  let text ← behind whole start
  if text = "" then return { d with level := .trace }
  match Level.ofText? text with
  | some level => return { d with level }
  | none => throw .invalidLevel

/-- Reads what follows a closing bracket: nothing or a level. -/
def readEnd (whole : List Char) (start : Nat) (cs : List Char) (d : FilterDirective) :
    Except FilterError FilterDirective :=
  match cs with
  | [] => .ok d
  | '=' :: _ => readLevel whole (start + 1) d
  | _ => .error .invalidDirective

/-- Whether a text is a number without a sign, with a point and an exponent if need be. -/
def isNumeral (cs : List Char) : Bool :=
  let fraction := cs.dropWhile Char.isDigit
  let places := if fraction.head? = some '.' then fraction.tail else fraction
  let exponent := places.dropWhile Char.isDigit
  let count := cs.length - exponent.length - (fraction.length - places.length)
  let magnitude := match exponent with
    | _ :: '+' :: digits => digits
    | _ :: '-' :: digits => digits
    | _ :: digits => digits
    | [] => []
  count ≠ 0 && (exponent.isEmpty || ((exponent.head? = some 'e' || exponent.head? = some 'E') &&
    !magnitude.isEmpty && magnitude.all Char.isDigit))

/-- Whether a text is a number with a plus sign. -/
def isPositive : List Char → Bool
  | '+' :: cs =>
    isNumeral cs || ["inf", "infinity", "nan"].contains (Settings.lower (String.ofList cs))
  | _ => false

/-- Refuses a text that may not stand for the value of a field.  It is a regular expression, as
numbers without a plus sign are too. -/
def checkValue (cs : List Char) : Except FilterError Unit :=
  if isPositive cs then .ok () else (Text.Pattern.check cs).mapError .invalidField

/-- The field that the text between two braces asks for; what stands behind a second equals sign
is not looked at. -/
def fieldOf (text : String) : Except FilterError FieldTest := do
  match Text.cut '=' text.toList with
  | name :: value :: _ =>
    checkValue value
    return ⟨String.ofList name, true⟩
  | _ => return ⟨text, false⟩

/-- Reads a field behind its opening brace, and the closing bracket behind it. -/
def readField (whole : List Char) (start : Nat) (cs : List Char) (d : FilterDirective) :
    Except FilterError FilterDirective := do
  let found := cs.takeWhile (· ≠ '\x7d')
  let stop := start + size found
  match cs.dropWhile (· ≠ '\x7d') with
  | [] => throw .invalidDirective
  | _ :: rest =>
    let text ← between whole start stop
    if text = "" then throw .invalidDirective
    let field ← fieldOf text
    match rest with
    | ']' :: rest => readEnd whole (stop + 2) rest { d with field := some field }
    | _ => throw .invalidDirective

def readSpan (whole : List Char) (start : Nat) (cs : List Char) (d : FilterDirective) :
    Except FilterError FilterDirective := do
  let found := cs.takeWhile fun c => c ≠ ']' && c ≠ '\x7b'
  let stop := start + size found
  match cs.dropWhile fun c => c ≠ ']' && c ≠ '\x7b' with
  | [] => throw .invalidDirective
  | c :: rest =>
    let name ← between whole start stop
    let named := { d with span := some name }
    if c = ']' then readEnd whole (stop + 1) rest named
    else readField whole (stop + 1) rest (if name = "" then d else named)

/-- Reads a directive that begins with a target or is nothing but a level. -/
def readTarget (whole cs : List Char) : Except FilterError FilterDirective := do
  let stop := size (cs.takeWhile fun c => c ≠ '=' && c ≠ '[')
  match cs.dropWhile fun c => c ≠ '=' && c ≠ '[' with
  | [] =>
    let text := String.ofList whole
    match Level.ofText? text with
    | some level => return { level }
    | none => return { target := some text }
  | c :: rest =>
    let target ← between whole 0 stop
    if c = '=' then readLevel whole (stop + 1) { target := some target }
    else readSpan whole (stop + 1) rest { target := some target }

/-- The directive that a text stands for. -/
def ofChars (whole : List Char) : Except FilterError FilterDirective :=
  match Text.trim whole with
  | [] => .error .invalidDirective
  | '[' :: rest => readSpan whole 1 rest {}
  | c :: rest => if mayBegin c then readTarget whole (c :: rest) else .error .invalidDirective

/-! ## Deciding -/

/-- Whether a directive decides about events wherever they happen. -/
def isGeneral (d : FilterDirective) : Bool :=
  d.span.isNone && d.field.all (!·.hasValue)

/-- Whether a directive holds for the events of a part of the program that have certain fields. -/
def holdsFor (d : FilterDirective) (part : String) (fields : List String) : Bool :=
  d.isGeneral && d.target.all (·.toList.isPrefixOf part.toList) &&
    d.field.all (·.name ∈ fields)

/-- How much a directive asks for: the bytes of its target, and whether it asks for a field. -/
def rank (d : FilterDirective) : Nat × Nat :=
  ((d.target.map (·.utf8ByteSize + 1)).getD 0, if d.field.isSome then 1 else 0)

/-- Whether another directive that holds for the same events decides about them; of two fields
the one decides whose name comes last. -/
def yieldsTo (d other : FilterDirective) : Bool :=
  match compareLex (compareOn Prod.fst) (compareOn Prod.snd) d.rank other.rank with
  | .lt => true
  | .eq => (d.field.map (·.name)).getD "" ≤ (other.field.map (·.name)).getD ""
  | .gt => false

end FilterDirective

namespace Filter

/-- Reads a filter; one without directives lets the errors pass. -/
def ofText (s : String) : Except FilterError Filter := do
  let directives ← ((Text.cut ',' s.toList).filter (!·.isEmpty)).mapM FilterDirective.ofChars
  return if directives.isEmpty then [{ level := .error }] else directives

/-- The directive that decides about the events of a part of the program that have certain
fields. -/
def deciding? (filter : Filter) (part : String) (fields : List String) :
    Option FilterDirective :=
  (filter.filter (·.holdsFor part fields)).foldl (fun best d =>
    match best with
    | some b => if b.yieldsTo d then some d else some b
    | none => some d) none

def shows (filter : Filter) (part : String) (fields : List String) (level : Level) : Bool :=
  match filter.deciding? part fields with
  | some d => level.rank ≤ d.level.rank
  | none => false

end Filter

/-- The filter of the settings, or why there is none. -/
def Settings.filter (settings : Settings) : Except TelemetryError Filter :=
  match Filter.ofText settings.level with
  | .ok filter => .ok filter
  | .error e => .error (.invalidSettings
      ("log level " ++ Text.Quoted.encode settings.level ++ ": " ++ e.message))

end Telematics.Telemetry
