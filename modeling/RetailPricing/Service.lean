import RetailPricing.Checkout
import RetailPricing.Journal.Log
import RetailPricing.RulesFile
import RetailPricing.Settings

/-!
# The pricing service

A service is started from settings: it sets up the log, loads the configured
rules and opens checkouts that all use them. A service without a rules file has
no rules.
-/

namespace RetailPricing

structure Service where
  settings : Settings
  rules : List PricingRule

namespace Service

/-- The rules that settings ask for; `content` is what stands at the path of
the rules file. -/
def configuredRules (settings : Settings) (content : RulesFile.Content) :
    Reported Fault (List PricingRule) :=
  match settings.rulesFile with
  | some path => if path.isEmpty then .done [] else RulesFile.load path content
  | none => .done []

private def startNotice (settings : Settings) (rules : List PricingRule) : Notice :=
  let statistics := RuleStatistics.ofRules rules
  .serviceStarted settings.environment settings.defaultCurrency
    settings.metricsEnabled statistics.rules statistics.noops
    statistics.conditionKinds statistics.actionKinds

/-- Starts a service. The log level is looked at before the rules are. -/
def start (settings : Settings) (content : RulesFile.Content) :
    Reported Fault Service := do
  let _ ← Reported.lift ((LogLevel.threshold settings.logLevel).mapError .mishap)
  let rules ← configuredRules settings content
  Reported.note (startNotice settings rules)
  return ⟨settings, rules⟩

def openCheckout (service : Service) (identity : String) : Checkout :=
  ⟨identity, service.rules, .ofString service.settings.defaultCurrency, []⟩

end Service

end RetailPricing
