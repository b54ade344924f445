import RetailPricing.Label

/-!
# Texts

Codes, names, currencies and comparison values are texts. A label of one of
the vocabularies may stand wherever a text is wanted.
-/

namespace RetailPricing

/-- A text: plain characters, or a label, which reads as its word wherever a
text is wanted and keeps its own written form. -/
inductive Text
  | plain (characters : String)
  | label (label : Label)
deriving DecidableEq

namespace Text

/-- The characters that a text reads as. -/
def content : Text → String
  | plain characters => characters
  | label l => l.word

/-- Two texts say the same when they read the same. -/
def agrees (s t : Text) : Bool :=
  s.content == t.content

theorem agrees_iff {s t : Text} : s.agrees t = true ↔ s.content = t.content :=
  beq_iff_eq

theorem agrees_refl (t : Text) : t.agrees t = true :=
  agrees_iff.2 rfl

theorem agrees_comm (s t : Text) : s.agrees t = t.agrees s :=
  Bool.eq_iff_iff.2 <| by
    rw [agrees_iff, agrees_iff, eq_comm]

def isEmpty (t : Text) : Bool :=
  t.content.isEmpty

end Text

end RetailPricing
