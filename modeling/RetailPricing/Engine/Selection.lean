import RetailPricing.Journal.Basic

/-!
# Selecting entries of a cart

A rule selects entries in three stages, whatever the order of its conditions.
Code conditions filter entry by entry. Quantity conditions look at the number
of entries that are left and keep all of them or none. Group conditions keep,
out of every complete group, all members but one, counted from the front. A
stage that finds no entries left looks at no further conditions.

Entries are taken over any type with codes, because selection looks at nothing
else.
-/

namespace RetailPricing

namespace Condition

/-- The size of the groups that a group condition counts. -/
def groupSize (condition : Condition) : Nat :=
  match condition.value with
  | .integer n => n.toNat
  | _ => 0

end Condition

namespace Rule

section Stages

variable {Entry : Type} (codeOf : Entry → Text)

/-- The entries whose code meets the condition. -/
def meetingCode (condition : Condition) :
    List Entry → Except Interruption (List Entry)
  | [] => .ok []
  | entry :: rest => do
      let meets ← condition.evaluate (.text (codeOf entry))
      let kept ← meetingCode condition rest
      return if meets then entry :: kept else kept

/-- Filters the entries by each of the code conditions. -/
def narrowByCode (label : Datum) :
    List Condition → List Entry → Reported Interruption (List Entry)
  | [], working => .done working
  | condition :: rest, working => do
      let kept ← Reported.lift (meetingCode codeOf condition working)
      Reported.note
        (.codeConditionEvaluated label condition.describe kept.length)
      narrowByCode label rest kept

/-- Keeps the entries as long as their number meets the quantity conditions. -/
def gateByQuantity (label : Datum) :
    List Condition → List Entry → Reported Interruption (List Entry)
  | [], working => .done working
  | condition :: rest, working =>
      if working.isEmpty then .done working
      else do
        let met ← Reported.lift (condition.evaluate (.integer working.length))
        if met then gateByQuantity label rest working
        else do
          Reported.note
            (.quantityNotMet label condition.describe working.length)
          gateByQuantity label rest []

/-- The discounted members of complete groups. -/
def takeGroups (label : Datum) (size : Nat) (working : List Entry) :
    Reported Interruption (List Entry) :=
  let groups := working.length / size
  if groups = 0 then do
    Reported.note (.noCompleteGroup label size working.length)
    return []
  else do
    let eligible := groups * (size - 1)
    Reported.note (.groupsEvaluated label size groups eligible)
    return working.take eligible

/-- Takes groups by each of the group conditions. -/
def narrowByGroups (label : Datum) :
    List Condition → List Entry → Reported Interruption (List Entry)
  | [], working => .done working
  | condition :: rest, working =>
      if working.isEmpty then .done working
      else do
        let eligible ← takeGroups label condition.groupSize working
        narrowByGroups label rest eligible

def select (rule : PricingRule) (entries : List Entry) :
    Reported Interruption (List Entry) :=
  if rule.isNoop then .done []
  else do
    let byCode ←
      narrowByCode codeOf rule.label (rule.conditionsOf .itemCode) entries
    let gated ←
      gateByQuantity rule.label (rule.conditionsOf .quantityTotal) byCode
    narrowByGroups rule.label (rule.conditionsOf .xQuantity) gated

end Stages

/-- The positions in a cart that a rule selects, in increasing order. -/
def selectPositions (rule : PricingRule) (cart : Cart) :
    Reported Interruption (List Nat) := do
  let selected ←
    rule.select (fun (entry : CartItem × Nat) => entry.1.code) cart.zipIdx
  return selected.map Prod.snd

end Rule

end RetailPricing
