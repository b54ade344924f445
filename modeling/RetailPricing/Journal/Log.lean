import RetailPricing.Journal.Basic
import RetailPricing.Template.Filling

/-!
# The log

A log line has a level, a source, an event and fields. Lines below the
configured level are dropped. The others name the service, which is the part
of the source before its first dot, and the checkout they are bound to. A field
of arguments is not written: they fill the placeholders of the event. Fields
are written as JSON has them; a datum that JSON cannot hold is written as its
literal.
-/

namespace RetailPricing

inductive LogLevel
  | debug
  | info
  | warning
  | error
  | critical
deriving DecidableEq

namespace LogLevel

def severity : LogLevel → Nat
  | debug => 10
  | info => 20
  | warning => 30
  | error => 40
  | critical => 50

def word : LogLevel → String
  | debug => "debug"
  | info => "info"
  | warning => "warning"
  | error => "error"
  | critical => "critical"

/-- The level of a log call by its name. An exception is an error. -/
def ofCall? : String → Option LogLevel
  | "debug" => some debug
  | "info" => some info
  | "warning" | "warn" => some warning
  | "error" | "exception" => some error
  | "critical" | "fatal" => some critical
  | _ => none

/-- The level with this severity. -/
def ofSeverity? (severity : Int) : Option LogLevel :=
  [debug, info, warning, error, critical].find? fun level =>
    (level.severity : Int) = severity

/-- The least severity that is logged at each configurable level. -/
def thresholds : List (String × Nat) :=
  [("CRITICAL", 50), ("FATAL", 50), ("ERROR", 40), ("WARNING", 30),
    ("WARN", 30), ("INFO", 20), ("DEBUG", 10), ("NOTSET", 0)]

/-- The least severity that is logged at a level, whose name may be written in
any case. Two names belong to the format of lines and are no levels. -/
def threshold (name : String) : Except Mishap Nat :=
  match (Text.upperCase? name.toList).map String.ofList with
  | some "BASIC_FORMAT" => .error .badValue
  | some "_STYLES" => .error .wrongType
  | some capitals =>
      match thresholds.find? fun entry => entry.1 == capitals with
      | some (_, severity) => .ok severity
      | none => .error .missingAttribute
  | none => .error .missingAttribute

end LogLevel

/-- What a log call says, before anything is added to it. -/
structure LogLine where
  level : LogLevel
  source : String
  event : Datum
  fields : List (String × Datum)

namespace Datum

mutual

/-- A datum as JSON holds it. -/
def logged : Datum → Datum
  | null => null
  | bool b => bool b
  | int n => int n
  | float x => float x
  | text t => ofString t.content
  | list elements => list (loggedList elements)
  | tuple elements => list (loggedList elements)
  | mapping entries => mapping (loggedEntries entries)
  | other => ofString other.literal

def loggedList : List Datum → List Datum
  | [] => []
  | element :: rest => logged element :: loggedList rest

def loggedEntries : List (String × Datum) → List (String × Datum)
  | [] => []
  | (key, element) :: rest => (key, logged element) :: loggedEntries rest

end

end Datum

namespace Log

/-- The part of a source before its first dot; a source without a dot belongs
to no service. -/
def serviceOf? (source : List Char) : Option (List Char) :=
  if source.contains '.' then some (source.takeWhile (· != '.')) else none

/-- Adds the service to the fields of an event, judging by its logger. A logger
that is no text but holds a dot among its members cannot be cut at it, and one
that has no members cannot be searched. -/
def addService (event : List (String × Datum)) :
    Except Mishap (List (String × Datum)) :=
  match Datum.lookup "logger" event with
  | none => .ok event
  | some (.text t) =>
      match serviceOf? t.content.toList with
      | some service =>
          .ok (Datum.setEntry "service" (.ofString (String.ofList service)) event)
      | none => .ok event
  | some other =>
      match other.elements? with
      | none => .error .wrongType
      | some members =>
          if members.any isDot then .error .missingAttribute else .ok event
where
  isDot : Datum → Bool
    | .text t => t.content == "."
    | _ => false

/-- Adds the checkout to the fields of an event, if one is bound. -/
def addCheckout (bound : Datum) (event : List (String × Datum)) :
    List (String × Datum) :=
  if bound.isGiven then Datum.setEntry "checkout_id" bound event else event

/-- The name under which lines of a source appear. -/
def sourceName (source : String) : String :=
  if source.isEmpty then "root" else source

def argumentField : String := "positional_args"

def recordField : String := "_record"

/-- Fields about the moment of writing. They are left to the writer. -/
def momentFields : List String := ["timestamp", "stack_info", "exc_info"]

/-- The entries without those under some names. -/
def without (names : List String) (entries : List (String × Datum)) :
    List (String × Datum) :=
  entries.filter fun entry => !names.contains entry.1

/-- The name of a datum that has one. -/
def nameOf? : Datum → Option Datum
  | .rule r => some r.name
  | .item i => some i.name
  | .ruleDefinition d => some ((d.name.map Datum.ofString).getD .null)
  | .text (.label l) => some (.ofString l.name)
  | _ => none

/-- The logger that a line names: its source, unless the line belongs to a
record, which has a name of its own. -/
def loggerOf (source : String) (fields : List (String × Datum)) :
    Except Mishap Datum :=
  match Datum.lookup recordField fields with
  | none | some .null => .ok (.ofString (sourceName source))
  | some record =>
      match nameOf? record with
      | some name => .ok name
      | none => .error .missingAttribute

/-- The arguments of an event. A single mapping among them names them by keys. -/
def argumentsOf : Datum → Except Mishap Datum
  | .mapping [_] => .error .missingKey
  | .list [.mapping (entry :: rest)] => .ok (.mapping (entry :: rest))
  | .tuple [.mapping (entry :: rest)] => .ok (.mapping (entry :: rest))
  | .mapping entries => .ok (.mapping entries)
  | .list elements => .ok (.list elements)
  | .tuple elements => .ok (.tuple elements)
  | .text t => .ok (.text t)
  | _ => .error .wrongType

/-- Fills the event of an entry list with arguments. Only texts can be
filled. -/
def fillEvent (given : Datum) (entries : List (String × Datum)) :
    Except Mishap (List (String × Datum)) := do
  let arguments ← argumentsOf given
  match Datum.lookup "event" entries with
  | none => .error .missingKey
  | some (.text t) =>
      let filled ← Template.fill t.content arguments
      return Datum.setEntry "event" (.ofString filled) entries
  | some _ => .error .wrongType

/-- Takes the arguments out of the entries and fills the event with them. An
empty argument field fills nothing; nothing in its place is no argument field. -/
def takeArguments (entries : List (String × Datum)) :
    Except Mishap (List (String × Datum)) :=
  match Datum.lookup argumentField entries with
  | none | some .null => .ok entries
  | some given => do
      let filled ← if given.isGiven then fillEvent given entries else .ok entries
      return without [argumentField] filled

/-- The event, the logger and the level of a line, in place of fields of the
same names. A line may come without an event. -/
def withHeading (line : LogLine) : Except Mishap (List (String × Datum)) := do
  let logger ← loggerOf line.source line.fields
  let told :=
    match line.event with
    | .null => line.fields
    | event => Datum.setEntry "event" event line.fields
  return Datum.setEntry "level" (.ofString line.level.word)
    (Datum.setEntry "logger" logger told)

/-- The fields of a line as it is written. -/
def render (bound : Datum) (line : LogLine) :
    Except Mishap (List (String × Datum)) := do
  let worded ← takeArguments (← withHeading line)
  let served ← addService (without momentFields worded)
  return Datum.loggedEntries (addCheckout bound served)

/-- The line as it is written, unless it is below the threshold. -/
def write? (threshold : Nat) (bound : Datum) (line : LogLine) :
    Except Mishap (Option (List (String × Datum))) :=
  if threshold ≤ line.level.severity then (render bound line).map some
  else .ok none

end Log

end RetailPricing
