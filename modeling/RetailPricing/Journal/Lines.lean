import RetailPricing.Journal.Log

/-!
# The lines of a journal

Every notice has a line in the log, and the log of a journal holds the lines of
its notices in order, as far as they reach the threshold.
-/

namespace RetailPricing

namespace Notice

private def countField (name : String) (n : Nat) : String × Datum :=
  (name, .int n)

private def wordsField (name : String) (words : List String) : String × Datum :=
  (name, .list (words.map .ofString))

def line : Notice → LogLine
  | codeConditionEvaluated rule condition matched =>
      ⟨.debug, "pricing.rule_engine", .ofString "Evaluated item code condition",
        [("rule", rule), ("condition", .ofString condition),
          countField "matched" matched]⟩
  | quantityNotMet rule condition quantity =>
      ⟨.debug, "pricing.rule_engine", .ofString "Quantity total condition not met",
        [("rule", rule), ("condition", .ofString condition),
          countField "quantity" quantity]⟩
  | noCompleteGroup rule groupSize quantity =>
      ⟨.debug, "pricing.rule_engine", .ofString "No complete group for x quantity condition",
        [("rule", rule), countField "group_size" groupSize,
          countField "quantity" quantity]⟩
  | groupsEvaluated rule groupSize groupCount eligible =>
      ⟨.debug, "pricing.rule_engine", .ofString "Evaluated x quantity condition",
        [("rule", rule), countField "group_size" groupSize,
          countField "group_count" groupCount, countField "eligible" eligible]⟩
  | ruleApplied rule items actions =>
      ⟨.info, "pricing.rule_engine", .ofString "Pricing rule applied",
        [("rule", rule), countField "items" items, wordsField "actions" actions]⟩
  | ruleFailed failure =>
      ⟨.error, "pricing.rule_engine", .ofString "Pricing rule evaluation error",
        failure.fields⟩
  | unknownKindSkipped index rule kind =>
      ⟨.warning, "pricing.rule_loader", .ofString "Skipping unrecognised condition kind",
        [("rule_index", (index.map fun n => Datum.int n).getD .null),
          ("rule", (rule.map Datum.ofString).getD .null), ("kind", .text kind)]⟩
  | rulesLoaded count =>
      ⟨.info, "pricing.rule_loader", .ofString "Pricing rules loaded",
        [countField "count" count]⟩
  | itemScanned code cartSize =>
      ⟨.info, "pricing.checkout", .ofString "Scanned cart item",
        [("code", .text code), countField "cart_size" cartSize]⟩
  | serviceStarted environment currency metered rules noops conditionKinds
      actionKinds =>
      ⟨.info, "pricing.service", .ofString "Pricing service initialised",
        [("env", .ofString environment), ("currency", .ofString currency),
          ("metrics_enabled", .bool metered), countField "total_rules" rules,
          countField "noop_rules" noops,
          wordsField "condition_kinds" conditionKinds,
          wordsField "action_kinds" actionKinds]⟩

end Notice

namespace Journal

def log (threshold : Nat) (journal : Journal) : List (List (String × Datum)) :=
  journal.filterMap fun
    | .notice checkout n =>
        match Log.write? threshold ((checkout.map Datum.ofString).getD .null) n.line with
        | .ok written => written
        | .error _ => none
    | .count _ => none

end Journal

end RetailPricing
