import RetailPricing.Definition.Checking

/-!
# Reports of other faults

Callers can put together reports of their own. A category brings its code and
what it usually says. Everything that is given is checked before it becomes a
report: the code and the message have to be texts, the details a mapping.
-/

namespace RetailPricing

structure DraftReport where
  category : Category
  code : Datum
  message : Datum
  details : Datum

namespace DraftReport

/-- A draft for a category. Only faults of no special kind have a code of their
own, and they bring their message with them. -/
def create (category : Category) (code message : Option Datum) (details : Datum) :
    Except Mishap DraftReport :=
  match category, code, message with
  | .pricing, some code, some message => .ok ⟨.pricing, code, message, details⟩
  | .pricing, _, _ => .error .wrongType
  | named, _, message =>
      .ok ⟨named, .ofString named.code,
        message.getD (.ofString named.defaultMessage), details⟩

/-- The checked report. Details that are not given are empty. -/
def check (draft : DraftReport) : Checked Report :=
  let code := (Checked.text draft.code).under (.field "code")
  let message := (Checked.text draft.message).under (.field "message")
  let details :=
    if draft.details.isGiven then
      (Checked.mapping draft.details).under (.field "details")
    else .ok []
  (code.both (message.both details)).map fun (code, message, details) =>
    .pricing draft.category code message (Datum.plainEntries details) none

end DraftReport

end RetailPricing
