import RetailPricing.Definition.Loading
import RetailPricing.Json.Reader
import RetailPricing.Text.Utf8

/-!
# Rules files

A rules file is a JSON text in UTF-8. It holds a list of rule definitions, or
an object with such a list under `rules`. All line ends are read as line feeds,
so places in a malformed file do not depend on how its lines end.
-/

namespace RetailPricing

namespace RulesFile

/-- What stands at a path: something that cannot be opened, or a file. -/
inductive Content
  | unreadable (trouble : FileTrouble)
  | bytes (contents : List UInt8)

/-- The path as reports name it: without empty parts and parts that are a single
dot. Two slashes in front are kept, more of them count as one. -/
def namedPath (path : String) : String :=
  let parts := (path.splitOn "/").filter fun part => part != "" && part != "."
  let start :=
    match path.toList with
    | '/' :: '/' :: '/' :: _ => "/"
    | '/' :: '/' :: _ => "//"
    | '/' :: _ => "/"
    | _ => ""
  let name := start ++ String.intercalate "/" parts
  if name.isEmpty then "." else name

/-- Carriage returns, with or without a line feed behind them, become line
feeds. -/
def withLineFeeds : List Char → List Char
  | [] => []
  | '\r' :: '\n' :: rest => '\n' :: withLineFeeds rest
  | '\r' :: rest => '\n' :: withLineFeeds rest
  | c :: rest => c :: withLineFeeds rest

def parse (path : String) (contents : List UInt8) : Except Fault Datum :=
  match Utf8.decode? contents with
  | none => .error (.mishap .undecodableText)
  | some characters =>
      let text := withLineFeeds characters
      match Json.read text with
      | .ok datum => .ok datum
      | .error (.signal s) => .error (.ofSignal s)
      | .error (.trouble what place) =>
          .error (.configuration
            (.malformedFile path (Json.SyntaxFault.locate text what place)))

/-- The list of definitions in the datum of a file. -/
def definitions? : Datum → Option (List Datum)
  | .list members => some members
  | .mapping entries =>
      match Datum.lookup "rules" entries with
      | some (.list members) => some members
      | _ => none
  | _ => none

def read (path : String) : Content → Except Fault (List Datum)
  | .unreadable trouble => .error (.configuration (.unreadableFile path trouble))
  | .bytes contents => do
      match definitions? (← parse path contents) with
      | some members => return members
      | none => throw (.configuration (.notAListOfRules path))

/-- Loads the rules of a file. No path has a character with the number zero in
it. -/
def load (path : String) (content : Content) : Reported Fault (List PricingRule) :=
  if path.contains '\x00' then Reported.lift (.error (.mishap .badValue))
  else do loadMembers (← Reported.lift (read (namedPath path) content))

end RulesFile

end RetailPricing
