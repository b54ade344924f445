import RetailPricing.Text.Ascii
import RetailPricing.Text.Characters

/-!
# Closed vocabularies

Conditions, operators, actions and value types each come from a short list.
Every member of a list has a word, which is what definitions and log lines
hold, and a name in capitals. Two readers turn a text into a member: the
lenient one of the factories takes words and names in any case, the one of
definitions takes words only but passes over blanks around them. The lenient one
gives back every member from its word.
-/

namespace RetailPricing

/-- What a condition looks at, in the order in which conditions are
evaluated. -/
inductive ConditionKind
  | itemCode
  | quantityTotal
  | xQuantity
deriving DecidableEq

/-- How a fact is compared with the value of a condition. -/
inductive Operator
  | eq
  | neq
  | gt
  | lt
  | gte
  | lte
deriving DecidableEq

/-- What an action does to the discount of an item. -/
inductive ActionKind
  | fixedPrice
  | discountPercent
deriving DecidableEq

inductive ValueType
  | text
  | integer
  | decimal
deriving DecidableEq

namespace ConditionKind

def word : ConditionKind → String
  | itemCode => "item_code"
  | quantityTotal => "quantity_total"
  | xQuantity => "x_quantity"

end ConditionKind

namespace Operator

def word : Operator → String
  | eq => "eq"
  | neq => "neq"
  | gt => "gt"
  | lt => "lt"
  | gte => "gte"
  | lte => "lte"

/-- The operator asks for an order and not only for equality. -/
def isOrdering : Operator → Bool
  | eq | neq => false
  | gt | lt | gte | lte => true

end Operator

namespace ActionKind

def word : ActionKind → String
  | fixedPrice => "fixed_price"
  | discountPercent => "discount_percent"

end ActionKind

namespace ValueType

def word : ValueType → String
  | text => "text"
  | integer => "integer"
  | decimal => "decimal"

end ValueType

/-- A list of members that are known by their words. -/
class Vocabulary (α : Type) where
  title : String
  /-- All members, in the order in which they are offered. -/
  members : List α
  word : α → String

namespace Vocabulary

instance : Vocabulary ConditionKind where
  title := "ConditionKind"
  members := [.itemCode, .quantityTotal, .xQuantity]
  word := ConditionKind.word

instance : Vocabulary Operator where
  title := "ConditionOperator"
  members := [.eq, .neq, .gt, .lt, .gte, .lte]
  word := Operator.word

instance : Vocabulary ActionKind where
  title := "ActionKind"
  members := [.fixedPrice, .discountPercent]
  word := ActionKind.word

instance : Vocabulary ValueType where
  title := "ValueType"
  members := [.text, .integer, .decimal]
  word := ValueType.word

variable {α : Type} [Vocabulary α]

/-- The name of a member: its word in capitals. -/
def nameOf (member : α) : String :=
  String.ofList ((word member).toList.map Char.toUpper)

def words (α : Type) [Vocabulary α] : List String :=
  (members : List α).map word

def ofWord? (text : List Char) : Option α :=
  members.find? fun member => (word member).toList == text

def ofName? (text : List Char) : Option α :=
  members.find? fun member => (nameOf member).toList == text

/-- The reader of the factories: a word in any case, or else a name in any
case. -/
def ofAnyCase? (text : String) : Option α :=
  match ofWord? (Text.lowerCase text.toList) with
  | some member => some member
  | none => (Text.upperCase? text.toList).bind ofName?

/-- The form in which definitions compare words. -/
def normalised (text : String) : List Char :=
  Text.lowerCase (Text.strip text.toList)

/-- The reader of definitions: a word in any case, with blanks around it. -/
def ofNormalised? (text : String) : Option α :=
  ofWord? (normalised text)

theorem ofAnyCase?_of_ascii {text : String} (ascii : Text.IsASCII text.toList) :
    (ofAnyCase? text : Option α) =
      match ofWord? (text.toList.map Char.toLower) with
      | some member => some member
      | none => ofName? (text.toList.map Char.toUpper) := by
  rw [ofAnyCase?, Text.lowerCase_of_ascii ascii, Text.upperCase?_of_ascii ascii]
  rfl

end Vocabulary

namespace ConditionKind

theorem ofAnyCase?_word (kind : ConditionKind) :
    Vocabulary.ofAnyCase? kind.word = some kind := by
  rw [Vocabulary.ofAnyCase?_of_ascii (by cases kind <;> decide)]
  cases kind <;> rfl

end ConditionKind

namespace Operator

theorem ofAnyCase?_word (operator : Operator) :
    Vocabulary.ofAnyCase? operator.word = some operator := by
  rw [Vocabulary.ofAnyCase?_of_ascii (by cases operator <;> decide)]
  cases operator <;> rfl

end Operator

namespace ActionKind

theorem ofAnyCase?_word (kind : ActionKind) :
    Vocabulary.ofAnyCase? kind.word = some kind := by
  rw [Vocabulary.ofAnyCase?_of_ascii (by cases kind <;> decide)]
  cases kind <;> rfl

end ActionKind

/-- A member of one of the vocabularies. -/
inductive Label
  | conditionKind (kind : ConditionKind)
  | operator (operator : Operator)
  | actionKind (kind : ActionKind)
  | valueType (type : ValueType)
deriving DecidableEq

namespace Label

def word : Label → String
  | conditionKind k => k.word
  | operator o => o.word
  | actionKind k => k.word
  | valueType t => t.word

def name : Label → String
  | conditionKind k => Vocabulary.nameOf k
  | operator o => Vocabulary.nameOf o
  | actionKind k => Vocabulary.nameOf k
  | valueType t => Vocabulary.nameOf t

private def qualify {α : Type} [Vocabulary α] (member : α) : String :=
  Vocabulary.title α ++ "." ++ Vocabulary.nameOf member

/-- The name of a label with that of its vocabulary in front. -/
def qualifiedName : Label → String
  | conditionKind k => qualify k
  | operator o => qualify o
  | actionKind k => qualify k
  | valueType t => qualify t

private def members : List Label :=
  (Vocabulary.members.map conditionKind) ++ (Vocabulary.members.map operator) ++
    (Vocabulary.members.map actionKind) ++ (Vocabulary.members.map valueType)

def ofQualifiedName? (name : String) : Option Label :=
  members.find? fun label => label.qualifiedName == name

end Label

end RetailPricing
