import GroupSync.Document.JsonText
import GroupSync.Number.Unsigned
import GroupSync.Text.Ascii
import GroupSync.Text.Blank

/-!
# Log events

Events carry a level, the name of the part of the program that they come from, a message and
fields.  A filter, written as a list of directives, decides which events are shown: the
directive with the longest matching target sets the least severe level that passes.
-/

namespace GroupSync

inductive LogLevel where
  | error
  | warn
  | info
  | debug
  | trace
deriving DecidableEq, Repr

namespace LogLevel

def name : LogLevel → String
  | error => "ERROR"
  | warn => "WARN"
  | info => "INFO"
  | debug => "DEBUG"
  | trace => "TRACE"

/-- The place of a level on the scale from silence to everything. -/
def verbosity : LogLevel → Nat
  | error => 1
  | warn => 2
  | info => 3
  | debug => 4
  | trace => 5

end LogLevel

inductive LogValue where
  | text (value : String)
  | number (value : Int)
  | boolean (value : Bool)
deriving DecidableEq, Repr

structure LogEvent where
  level : LogLevel
  /-- The part of the program that it comes from. -/
  target : String
  message : String
  fields : List (String × LogValue)
deriving DecidableEq, Repr

namespace LogEvent

def isAtLeast (event : LogEvent) (level : LogLevel) : Bool :=
  event.level.verbosity ≤ level.verbosity

end LogEvent

namespace LogValue

def render : LogValue → String
  | text value => value
  | number value => toString value
  | boolean value => toString value

def toNode : LogValue → Document.Node
  | text value => .string value
  | number value => .integer value
  | boolean value => .boolean value

end LogValue

/-- The form in which events are written. -/
inductive LogFormat where
  /-- Lines for human readers. -/
  | text
  /-- One object per event, for machines. -/
  | json
deriving DecidableEq, Repr, Inhabited

namespace LogFormat

def diagnosticName : LogFormat → String
  | text => "Text"
  | json => "Json"

/-- The text by which a format is looked up: without blanks around it and in small letters. -/
def normalized (name : String) : String :=
  Text.lowerAscii (Text.trim name)

/-- The format of a name in letters of any case, with any blanks around it; the empty name is
that of the standard format. -/
def ofName? (name : String) : Option LogFormat :=
  match normalized name with
  | "" => some text
  | "text" => some text
  | "pretty" => some text
  | "json" => some json
  | _ => none

def refusal (name : String) : String :=
  "Unknown log format: " ++ normalized name

end LogFormat

namespace LogEvent

def renderLine (event : LogEvent) : String :=
  event.level.name ++ " " ++ event.message ++
    String.join (event.fields.map fun field => " " ++ field.1 ++ "=" ++ field.2.render)

/-- An event as an object, with its fields beside level, message and target. -/
def toNode (event : LogEvent) : Document.Node :=
  .ofMembers
    ([("level", .string event.level.name), ("message", .string event.message)] ++
      event.fields.map (fun field => (field.1, field.2.toNode)) ++
      [("target", .string event.target)])

def render (event : LogEvent) : LogFormat → String
  | .text => event.renderLine
  | .json => Document.Json.render event.toNode

end LogEvent

structure LogDirective where
  /-- The targets that the directive is about: those that begin with this text. -/
  target : String
  /-- The verbosity up to which events pass. -/
  verbosity : Nat
  /-- The directive is about events inside certain spans only. -/
  spanBound : Bool
deriving DecidableEq, Repr

inductive LogFilterFault where
  | invalidDirective
  | invalidLevel
deriving DecidableEq, Repr

namespace LogFilterFault

def message : LogFilterFault → String
  | invalidDirective => "invalid filter directive"
  | invalidLevel =>
      "error parsing level filter: expected one of \"off\", \"error\", \"warn\", \"info\", " ++
        "\"debug\", \"trace\", or a number 0-5"

end LogFilterFault

namespace LogDirective

/-- The verbosity that a level's name or number stands for. -/
def verbosity? (level : String) : Option Nat :=
  match Number.readUInt64 level.toList with
  | .ok number => if number ≤ 5 then some number else none
  | .error _ =>
      if level == "" then some LogLevel.error.verbosity
      else if Text.equalsIgnoringAsciiCase level "off" then some 0
      else
        ([LogLevel.error, .warn, .info, .debug, .trace].find? fun candidate =>
          Text.equalsIgnoringAsciiCase level candidate.name).map LogLevel.verbosity

def full : Nat :=
  LogLevel.trace.verbosity

/-- A character that may open a directive without a span. -/
def opens (character : Char) : Bool :=
  character.isAlphanum || 0x80 ≤ character.toNat || character == '-' || character == ':' ||
    character == '_'

def ofLevel (target : String) (spanBound : Bool) (level : List Char) :
    Except LogFilterFault LogDirective :=
  if level.isEmpty then .ok ⟨target, full, spanBound⟩
  else
    match verbosity? (String.ofList level) with
    | some verbosity => .ok ⟨target, verbosity, spanBound⟩
    | none => .error .invalidLevel

/-- Read a directive behind the bracket that opens its span. -/
def ofSpan (target : String) (text : List Char) : Except LogFilterFault LogDirective :=
  match text.dropWhile (· != ']') with
  | [] => .error .invalidDirective
  | _ :: '=' :: level => ofLevel target true level
  | _ :: _ => .ok ⟨target, full, true⟩

/-- Read a directive: a level, a target, or a target with a level. -/
def read (text : List Char) : Except LogFilterFault LogDirective :=
  match Text.trimChars text with
  | [] => .ok ⟨"", full, false⟩
  | '[' :: span => ofSpan "" span
  | first :: rest =>
      if !opens first then .error .invalidDirective
      else
        let text := first :: rest
        let target := String.ofList (text.takeWhile fun character =>
          character != '=' && character != '[')
        match text.dropWhile fun character => character != '=' && character != '[' with
        | '=' :: level => ofLevel target false level
        | _ :: span => ofSpan target span
        | [] =>
            match verbosity? target with
            | some verbosity => .ok ⟨"", verbosity, false⟩
            | none => .ok ⟨target, full, false⟩

def concerns (directive : LogDirective) (target : String) : Bool :=
  directive.target.toList.isPrefixOf target.toList

end LogDirective

structure LogFilter where
  directives : List LogDirective
deriving DecidableEq, Repr

namespace LogFilter

/-- Read a filter: directives separated by commas.  A filter without directives lets errors
pass. -/
def read (text : String) : Except LogFilterFault LogFilter := do
  let parts := (text.toList.splitOn ',').filter fun part => !part.isEmpty
  let directives ← parts.mapM LogDirective.read
  if directives.isEmpty then return ⟨[⟨"", LogLevel.error.verbosity, false⟩]⟩
  else return ⟨directives⟩

/-- Of two directives about an event the later one is chosen unless its target is shorter. -/
def choose (chosen : Option LogDirective) (directive : LogDirective) : Option LogDirective :=
  match chosen with
  | none => some directive
  | some earlier =>
      if directive.target.length < earlier.target.length then some earlier else some directive

def admits (filter : LogFilter) (event : LogEvent) : Bool :=
  let concerned := filter.directives.filter fun directive =>
    !directive.spanBound && directive.concerns event.target
  match concerned.foldl choose none with
  | some directive => event.level.verbosity ≤ directive.verbosity
  | none => false

/-- The filter in force: the one that is asked for, if it is one, or else the standard one. -/
def inForce (asked : Option String) (standard : String) : Except LogFilterFault LogFilter :=
  match asked.map read with
  | some (.ok filter) => .ok filter
  | _ => read standard

end LogFilter

end GroupSync
