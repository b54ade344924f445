import RetailPricing.Datum.Literal
import RetailPricing.Datum.Plain
import RetailPricing.Definition.Violation
import RetailPricing.Json.Trouble

/-!
# Faults and reports

Faults say what went wrong; reports put it into words. The three kinds of
pricing faults are those of malformed rules, of conditions that cannot be
evaluated, and of items and scans that are not acceptable. Below them are
mishaps, which carry no details. A report may name the fault that caused it.
-/

namespace RetailPricing

/-- What goes wrong below the level of pricing. -/
inductive Mishap
  | signal (s : Signal)
  | wrongType
  | missingAttribute
  | badValue
  | numberTooLarge
  | missingKey
  | missingPosition
  | undecodableText
  | malformedText
  | missingFile
  | directoryAsFile
  | fileAsDirectory
  | nameTooLong
  | rejectedFields
  | duplicateSeries
  | interrupted
deriving DecidableEq

inductive FileTrouble
  | missing
  | directory
  | belowFile
  | nameTooLong
deriving DecidableEq

/-- Malformed rules, conditions, actions, values and rules files. -/
inductive ConfigurationFault
  | unsupportedValue (given : Datum)
  | unsupportedValueType (given : Datum)
  | booleanNumber (given : Datum)
  | notANumber (given : Datum)
  | notFinite (given : Datum)
  | unknownLabel (vocabulary : String) (given : Datum) (allowed : List String)
  | missingConditionKind
  | missingConditionValue (kind : Datum)
  | groupSizeNotPositive (value : Value)
  | groupOperator (operator : Operator)
  | missingActionKind
  | missingActionValue (kind : Datum)
  | actionNotNumeric (kind : ActionKind) (given : Datum)
  | actionNegative (kind : ActionKind) (amount : Amount)
  | conditionExpected (rule found : Datum)
  | actionExpected (rule found : Datum)
  | ruleExpected (found : Datum)
  | missingDefinitions
  | invalidDefinition (index : Nat) (violations : List Violation)
  | unreadableFile (path : String) (trouble : FileTrouble)
  | malformedFile (path : String) (fault : Json.SyntaxFault)
  | notAListOfRules (path : String)
  | inDefinition (index : Nat) (fault : ConfigurationFault)

/-- A rule that could not be evaluated in a pass. -/
structure RuleFailure where
  index : Nat
  label : Datum
  fault : ComparisonFault

/-- Conditions that cannot be evaluated. -/
inductive EvaluationFault
  | comparison (fault : ComparisonFault)
  | failedRules (failures : List RuleFailure)

/-- Items and scans that are not acceptable. -/
inductive ValidationFault
  | codeRequired (code : Datum)
  | currencyRequired (code : Text) (currency : Datum)
  | notAnAmount (field : String) (given : Datum) (reason : ConfigurationFault)
  | negativePrice (code : Text) (price : Amount)
  | missingCart
  | emptyScan
  | itemExpected (found : Datum)
  | currencyMismatch (code currency : Text) (expected : Datum)

/-- Everything that can take the place of a result. -/
inductive Fault
  | configuration (fault : ConfigurationFault)
  | evaluation (fault : EvaluationFault)
  | validation (fault : ValidationFault)
  | rejected (violations : List Violation)
  | mishap (mishap : Mishap)

/-- The kinds of pricing faults; the last one is for faults of no special
kind. -/
inductive Category
  | configuration
  | evaluation
  | validation
  | pricing
deriving DecidableEq

/-- A fault in words. Details are plain data. -/
inductive Report
  | pricing (category : Category) (code message : String)
      (details : List (String × Datum)) (cause : Option Report)
  | rejected (violations : List Violation)
  | mishap (mishap : Mishap)

namespace Category

/-- The code of a category; faults of no special kind bring their own. -/
def code : Category → String
  | configuration => "CONFIGURATION_ERROR"
  | evaluation => "EVALUATION_ERROR"
  | validation => "VALIDATION_ERROR"
  | pricing => ""

/-- What a fault of the category says when nothing else is said. -/
def defaultMessage : Category → String
  | configuration => "Invalid pricing rule configuration"
  | evaluation => "Pricing rule evaluation failed"
  | validation => "Validation failed"
  | pricing => ""

end Category

private def literalDetail (d : Datum) : Datum :=
  .ofString d.literal

namespace FileTrouble

/-- What the file system says about a path. -/
def describe (path : String) : FileTrouble → String
  | missing => "[Errno 2] No such file or directory: " ++ Text.quoted path
  | directory => "[Errno 21] Is a directory: " ++ Text.quoted path
  | belowFile => "[Errno 20] Not a directory: " ++ Text.quoted path
  | nameTooLong => "[Errno 36] File name too long: " ++ Text.quoted path

def mishap : FileTrouble → Mishap
  | missing => .missingFile
  | directory => .directoryAsFile
  | belowFile => .fileAsDirectory
  | nameTooLong => .nameTooLong

end FileTrouble

namespace ComparisonFault

def message : ComparisonFault → String
  | differentTypes _ _ _ => "Cannot compare values of different types"
  | withoutOrder _ _ =>
      "Ordering operator is not supported for this value type"

def details : ComparisonFault → List (String × Datum)
  | differentTypes operator fact expected =>
      [("operator", .ofString operator.word), ("fact_type", .ofString fact.word),
        ("value_type", .ofString expected.word)]
  | withoutOrder operator expected =>
      [("operator", .ofString operator.word),
        ("value_type", .ofString expected.word)]

end ComparisonFault

namespace ConfigurationFault

def message : ConfigurationFault → String
  | unsupportedValue _ => "Unsupported comparison value"
  | unsupportedValueType _ => "Unsupported comparison value type"
  | booleanNumber _ => "Boolean is not a number"
  | notANumber _ => "Value is not a number"
  | notFinite _ => "Value is not a finite number"
  | unknownLabel vocabulary _ _ => "Unknown " ++ vocabulary
  | missingConditionKind => "Missing condition kind"
  | missingConditionValue _ => "Missing condition value"
  | groupSizeNotPositive _ =>
      "X quantity condition requires a positive integer group size"
  | groupOperator _ => "X quantity condition only supports the eq operator"
  | missingActionKind => "Missing action kind"
  | missingActionValue _ => "Missing action value"
  | actionNotNumeric _ _ => "Action value must be numeric"
  | actionNegative _ _ => "Action value must not be negative"
  | conditionExpected _ _ =>
      "Pricing rule conditions must be Condition instances"
  | actionExpected _ _ => "Pricing rule actions must be Action instances"
  | ruleExpected _ => "Rules must be PricingRule instances"
  | missingDefinitions => "Missing pricing rule definitions"
  | invalidDefinition _ _ => "Invalid pricing rule definition"
  | unreadableFile _ _ => "Cannot read pricing rules file"
  | malformedFile _ _ => "Pricing rules file is not valid JSON"
  | notAListOfRules _ => "Pricing rules file must contain a list of rules"
  | inDefinition _ fault => fault.message

/-- A fault inside a definition also says which definition it is. -/
def details : ConfigurationFault → List (String × Datum)
  | unsupportedValue given => [("value", literalDetail given)]
  | unsupportedValueType given =>
      [("value", literalDetail given), ("type", .ofString given.typeName)]
  | booleanNumber given => [("value", literalDetail given)]
  | notANumber given => [("value", literalDetail given)]
  | notFinite given => [("value", literalDetail given)]
  | unknownLabel vocabulary given allowed =>
      [(vocabulary, literalDetail given),
        ("allowed", .list (allowed.map .ofString))]
  | missingConditionKind => []
  | missingConditionValue kind => [("kind", .ofString kind.shown)]
  | groupSizeNotPositive value =>
      [("value", .text value.asText), ("value_type", .ofString value.type.word)]
  | groupOperator operator => [("operator", .ofString operator.word)]
  | missingActionKind => []
  | missingActionValue kind => [("kind", .ofString kind.shown)]
  | actionNotNumeric kind given =>
      [("kind", .ofString kind.word), ("value", literalDetail given)]
  | actionNegative kind amount =>
      [("kind", .ofString kind.word), ("value", .ofString amount.toText)]
  | conditionExpected rule found =>
      [("rule", rule), ("condition", literalDetail found)]
  | actionExpected rule found =>
      [("rule", rule), ("action", literalDetail found)]
  | ruleExpected found => [("rule", literalDetail found)]
  | missingDefinitions => []
  | invalidDefinition index violations =>
      [("index", .int index), ("errors", .list (violations.map Violation.toDatum))]
  | unreadableFile path trouble =>
      [("path", .ofString path), ("error", .ofString (trouble.describe path))]
  | malformedFile path fault =>
      [("path", .ofString path), ("error", .ofString fault.describe)]
  | notAListOfRules path => [("path", .ofString path)]
  | inDefinition index fault => fault.details ++ [("index", .int index)]

/-- The mishap from which the fault was noticed. -/
def cause? : ConfigurationFault → Option Mishap
  | notANumber _ => some (.signal .invalidOperation)
  | invalidDefinition _ _ => some .rejectedFields
  | unreadableFile _ trouble => some trouble.mishap
  | malformedFile _ _ => some .malformedText
  | inDefinition _ fault => fault.cause?
  | _ => none

end ConfigurationFault

namespace ValidationFault

def message : ValidationFault → String
  | codeRequired _ => "Cart item code is required"
  | currencyRequired _ _ => "Cart item currency is required"
  | notAnAmount field _ _ => "Cart item " ++ field ++ " must be a number"
  | negativePrice _ _ => "Cart item price must not be negative"
  | missingCart => "Cart is required"
  | emptyScan => "Cannot scan an empty item"
  | itemExpected _ => "Scanned item must be a CartItem"
  | currencyMismatch _ _ _ =>
      "Scanned item currency does not match checkout currency"

def details : ValidationFault → List (String × Datum)
  | codeRequired code => [("code", literalDetail code)]
  | currencyRequired code currency =>
      [("code", .text code), ("currency", literalDetail currency)]
  | notAnAmount field given _ => [(field, literalDetail given)]
  | negativePrice code price =>
      [("code", .text code), ("price", .ofString price.toText)]
  | missingCart => []
  | emptyScan => []
  | itemExpected found => [("item", literalDetail found)]
  | currencyMismatch code currency expected =>
      [("code", .text code), ("currency", .text currency), ("expected", expected)]

end ValidationFault

namespace RuleFailure

/-- The fields under which a failed rule is reported and logged. -/
def fields (failure : RuleFailure) : List (String × Datum) :=
  [("rule_index", .int failure.index), ("rule", failure.label),
    ("code", .ofString Category.evaluation.code),
    ("message", .ofString failure.fault.message),
    ("details", .mapping failure.fault.details)]

end RuleFailure

namespace EvaluationFault

def message : EvaluationFault → String
  | comparison fault => fault.message
  | failedRules failures =>
      toString failures.length ++ " pricing rule(s) failed to evaluate"

def details : EvaluationFault → List (String × Datum)
  | comparison fault => fault.details
  | failedRules failures =>
      [("failed_rules",
        .list (failures.map fun failure => .mapping failure.fields))]

/-- The failure that is reported as the cause: that of the first rule. -/
def cause? : EvaluationFault → Option ComparisonFault
  | comparison _ => none
  | failedRules failures => failures.head?.map RuleFailure.fault

end EvaluationFault

namespace Report

/-- A report of a category with its own code; objects in the details are made
plain. -/
def ofCategory (category : Category) (message : String)
    (details : List (String × Datum)) (cause : Option Report) : Report :=
  pricing category category.code message (Datum.plainEntries details) cause

def ofConfigurationFault (fault : ConfigurationFault) : Report :=
  ofCategory .configuration fault.message fault.details
    (fault.cause?.map mishap)

def ofComparisonFault (fault : ComparisonFault) : Report :=
  ofCategory .evaluation fault.message fault.details none

def ofEvaluationFault (fault : EvaluationFault) : Report :=
  ofCategory .evaluation fault.message fault.details
    (fault.cause?.map ofComparisonFault)

def ofValidationFault (fault : ValidationFault) : Report :=
  ofCategory .validation fault.message fault.details <|
    match fault with
    | .notAnAmount _ _ reason => some (ofConfigurationFault reason)
    | _ => none

def ofFault : Fault → Report
  | .configuration fault => ofConfigurationFault fault
  | .evaluation fault => ofEvaluationFault fault
  | .validation fault => ofValidationFault fault
  | .rejected violations => rejected violations
  | .mishap m => mishap m

end Report

namespace Fault

def ofSignal (s : Signal) : Fault :=
  .mishap (.signal s)

def wrongType : Fault := .mishap .wrongType

def missingAttribute : Fault := .mishap .missingAttribute

def ofInterruption : Interruption → Fault
  | .comparison fault => .evaluation (.comparison fault)
  | .signal s => ofSignal s

end Fault

end RetailPricing
