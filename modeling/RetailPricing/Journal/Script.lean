import RetailPricing.Journal.Log

/-!
# Logging by hand

A script is a row of log calls and of blocks that bind a checkout. A log call
goes to a source and says by the name of its level, or by its severity, what
kind of line it wants. Inside a block its checkout is bound, and behind the
block the one from before is bound again, however the block ended. A block may
end in an interruption, which the nearest enclosing block that catches
interruptions stops.
-/

namespace RetailPricing

/-- A step of a script. -/
inductive ScriptStep
  | write (level source event : Datum) (fields : List (String × Datum))
  | block (checkout : Datum) (body : List ScriptStep) (fails catches : Bool)
  | showBound
  | showService (event : Datum)
  | showCheckout (event : Datum)

/-- What a script has shown and written, and the mishap that stopped it. -/
structure ScriptReport where
  shown : List Datum
  lines : List (List (String × Datum))
  stopped : Option Mishap

namespace ScriptReport

def nothing : ScriptReport := ⟨[], [], none⟩

def showing (datum : Datum) : ScriptReport := ⟨[datum], [], none⟩

def stoppedBy (mishap : Mishap) : ScriptReport := ⟨[], [], some mishap⟩

/-- One report behind the other. -/
def append (first second : ScriptReport) : ScriptReport :=
  ⟨first.shown ++ second.shown, first.lines ++ second.lines, second.stopped⟩

/-- The end of a block: an interruption of its own behind a body that was not
stopped, and no interruption if the block catches them. -/
def endBlock (fails catches : Bool) (body : ScriptReport) : ScriptReport :=
  let stopped :=
    match body.stopped with
    | none => if fails then some .interrupted else none
    | some mishap => some mishap
  { body with
    stopped := if catches && stopped == some .interrupted then none else stopped }

end ScriptReport

/-- Names that a log call takes as its own and cannot take as fields. -/
def reservedFields : List String := ["self", "event", "method_name"]

/-- Names that a log call by severity cannot take as fields. -/
def reservedForSeverity : List String := ["self", "level"]

def usesAny (names : List String) (fields : List (String × Datum)) : Bool :=
  fields.any fun field => names.contains field.1

/-- The name of the source of a call. What is not given is no name. -/
def sourceOf (given : Datum) : Except Mishap String :=
  match given with
  | .text t => .ok t.content
  | other => if other.isGiven then .error .wrongType else .ok ""

/-- The level that a call by severity asks for. Only data that can be keys can
be looked up. -/
def levelOfSeverity : Datum → Except Mishap LogLevel
  | .int n =>
      match LogLevel.ofSeverity? n with
      | some level => .ok level
      | none => .error .missingKey
  | .list _ | .mapping _ | .item _ => .error .wrongType
  | .conditionDefinition _ | .actionDefinition _ | .ruleDefinition _ =>
      .error .wrongType
  | _ => .error .missingKey

def lineAt (level : LogLevel) (source : String) (event : Datum)
    (fields : List (String × Datum)) : Except Mishap LogLine :=
  if usesAny reservedFields fields then .error .wrongType
  else .ok ⟨level, source, event, fields⟩

/-- A line by severity, which stands where other calls have their event; its
event is one of the fields, if it has one. -/
def lineBySeverity (source : String) (severity : Datum)
    (fields : List (String × Datum)) : Except Mishap LogLine :=
  if usesAny reservedForSeverity fields then .error .wrongType
  else do
    let level ← levelOfSeverity severity
    lineAt level source ((Datum.lookup "event" fields).getD .null)
      (Log.without ["event"] fields)

/-- Calls that change the fields of a source for later calls and write no line.
Fields are set by name only, and none that was not set can be taken back. -/
def fieldCall? (call : String) (fields : List (String × Datum)) :
    Option (Except Mishap Unit) :=
  match call with
  | "bind" | "new" => some (.error .wrongType)
  | "unbind" =>
      some (.error (if fields.isEmpty then .missingKey else .wrongType))
  | "try_unbind" => some (if fields.isEmpty then .ok () else .error .wrongType)
  | _ => none

/-- The line that a call by the name of a level asks for. -/
def lineByName (call source : String) (event : Datum)
    (fields : List (String × Datum)) : Except Mishap (Option LogLine) :=
  match LogLevel.ofCall? call, fieldCall? call fields with
  | some level, _ => (lineAt level source event fields).map some
  | none, some outcome => outcome.map fun _ => none
  | none, none => .error .missingAttribute

/-- The line that a log call asks for, if it asks for one. -/
def lineOfCall? (call source event : Datum) (fields : List (String × Datum)) :
    Except Mishap (Option LogLine) := do
  let source ← sourceOf source
  match call with
  | .text t =>
      if t.content = "log" then (lineBySeverity source event fields).map some
      else lineByName t.content source event fields
  | _ => .error .wrongType

def writeLine (threshold : Nat) (bound call source event : Datum)
    (fields : List (String × Datum)) : ScriptReport :=
  let written := do
    match ← lineOfCall? call source event fields with
    | some line => Log.write? threshold bound line
    | none => return none
  match written with
  | .ok lines => ⟨[], lines.toList, none⟩
  | .error mishap => .stoppedBy mishap

/-- The event with its service; only a mapping can be asked for its logger. -/
def serviceShown : Datum → Except Mishap Datum
  | .mapping event => (Log.addService event).map .mapping
  | _ => .error .missingAttribute

/-- The event with the checkout that is bound; only a mapping can take it. -/
def checkoutShown (bound : Datum) : Datum → Except Mishap Datum
  | .mapping event => .ok (.mapping (Log.addCheckout bound event))
  | other => if bound.isGiven then .error .wrongType else .ok other

/-- A report that shows a datum, or stops. -/
def ScriptReport.ofShown : Except Mishap Datum → ScriptReport
  | .ok datum => .showing datum
  | .error mishap => .stoppedBy mishap

mutual

/-- Runs one step while `bound` is the checkout that is bound. -/
def runStep (threshold : Nat) (bound : Datum) : ScriptStep → ScriptReport
  | .write level source event fields =>
      writeLine threshold bound level source event fields
  | .block checkout body fails catches =>
      (runSteps threshold checkout body).endBlock fails catches
  | .showBound => .showing bound
  | .showService event => .ofShown (serviceShown event)
  | .showCheckout event => .ofShown (checkoutShown bound event)

/-- Runs steps up to the first mishap. -/
def runSteps (threshold : Nat) (bound : Datum) : List ScriptStep → ScriptReport
  | [] => .nothing
  | step :: rest =>
      let report := runStep threshold bound step
      match report.stopped with
      | some _ => report
      | none => report.append (runSteps threshold bound rest)

end

end RetailPricing
