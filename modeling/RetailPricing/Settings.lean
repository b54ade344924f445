import RetailPricing.BinaryFloat.Basic
import RetailPricing.Definition.Checking

/-!
# Settings

Settings come from explicit overrides, then from the environment, then from
their defaults. Variables of the environment carry a common beginning. Both
variables and overrides are found whatever their case, but the exact name of an
override comes first. Anything else in either place is passed over. All
violations are collected in the order of the settings.
-/

namespace RetailPricing

structure Settings where
  environment : String
  logLevel : String
  defaultCurrency : String
  rulesFile : Option String
  metricsEnabled : Bool
deriving DecidableEq

namespace Settings

def variableStart : String := "pricing_"

/-- Variables have no equals sign in their names, and nothing in an environment
has a character with the number zero in it. -/
def checkEnvironment (environment : List (String × String)) : Except Mishap Unit :=
  let unfit := environment.any fun entry =>
    entry.1.contains '=' || entry.1.contains '\x00' || entry.2.contains '\x00'
  if unfit then .error .badValue else .ok ()

/-- The entry with this name in lower case. Of several spellings the last one
counts. -/
def inAnyCase? {α : Type} (entries : List (String × α)) (name : String) : Option α :=
  (entries.reverse.find? fun entry =>
    Text.lowerCase entry.1.toList == name.toList).map Prod.snd

def fromEnvironment? (environment : List (String × String)) (name : String) :
    Option String :=
  inAnyCase? environment (variableStart ++ name)

def overridden? (overrides : List (String × Datum)) (name : String) : Option Datum :=
  match Datum.lookup name overrides with
  | some datum => some datum
  | none => inAnyCase? overrides name

def given? (environment : List (String × String))
    (overrides : List (String × Datum)) (name : String) : Option Datum :=
  match overridden? overrides name with
  | some datum => some datum
  | none => (fromEnvironment? environment name).map Datum.ofString

def checkNonemptyText (given : Datum) : Checked String := do
  let characters ← Checked.text given
  if characters.isEmpty then Checked.violated .nonemptyText given
  else return characters

def wordsForOn : List String := ["true", "t", "yes", "y", "on", "1"]

def wordsForOff : List String := ["false", "f", "no", "n", "off", "0"]

/-- One or zero; other whole numbers are understood as numbers, not as
switches. -/
def switchOfInt (found : Datum) (n : Int) : Checked Bool :=
  if n = 0 then .ok false
  else if n = 1 then .ok true
  else Checked.violated .readableBoolean found

/-- Half as many numbers as fit into 64 bits. -/
def halfOfWords : Nat := Nat.pow 2 63

/-- Whole numbers have to fit into 64 bits, where half of them are negative. -/
def isWord64 (n : Int) : Bool :=
  -(halfOfWords : Int) ≤ n && n < halfOfWords

/-- The whole number that a float is, strictly between the bounds of 64
bits. -/
def wholeFloat? : BinaryFloat → Option Int
  | .finite negative mantissa exponent =>
      let magnitude? : Option Nat :=
        if exponent < 0 then
          if mantissa % Nat.pow 2 exponent.natAbs = 0 then
            some (mantissa / Nat.pow 2 exponent.natAbs)
          else none
        else some (mantissa * Nat.pow 2 exponent.natAbs)
      magnitude?.bind fun magnitude =>
        if magnitude < halfOfWords then
          some (if negative then -(magnitude : Int) else magnitude)
        else none
  | _ => none

def switchOfFloat (found : Datum) (x : BinaryFloat) : Checked Bool :=
  match wholeFloat? x with
  | some n => switchOfInt found n
  | none => Checked.violated .boolean found

/-- A switch: a flag, a word in any case, or a number that is one or zero. -/
def checkSwitch (given : Datum) : Checked Bool :=
  match given with
  | .bool b => .ok b
  | .text t =>
      let word := String.ofList (t.content.toList.map Char.toLower)
      if wordsForOn.contains word then .ok true
      else if wordsForOff.contains word then .ok false
      else Checked.violated .readableBoolean given
  | .int n =>
      if isWord64 n then switchOfInt given n
      else Checked.violated .boolean given
  | .float x => switchOfFloat given x
  | .decimal (.finite x) => switchOfFloat given (.ofAmount x)
  | _ => Checked.violated .boolean given

def load (environment : List (String × String))
    (overrides : List (String × Datum)) : Checked Settings :=
  let setting {α : Type} (name : String) (usual : α)
      (check : Datum → Checked α) : Checked α :=
    match given? environment overrides name with
    | some datum => (check datum).under (.field name)
    | none => .ok usual
  let env := setting "env" "local" Checked.text
  let logLevel := setting "log_level" "info" Checked.text
  let currency := setting "default_currency" "EUR" checkNonemptyText
  let rulesFile := setting "rules_file" none Checked.optionalText
  let metrics := setting "enable_metrics" true checkSwitch
  (env.both (logLevel.both (currency.both (rulesFile.both metrics)))).map
    fun (env, logLevel, currency, rulesFile, metrics) =>
      ⟨env, logLevel, currency, rulesFile, metrics⟩

end Settings

end RetailPricing
