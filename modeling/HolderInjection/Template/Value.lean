import HolderInjection.Text.Quoted

/-!
# Values of a template

A template looks at the values it is filled with in three ways, and those are all it asks of them.
The values that source text is generated with are texts and lists of texts; besides, there are
numbers, truth values and an absent one.
-/

namespace HolderInjection.Template

/-- What a template asks of values of some type. A value is what it is however often it is looked
at: one that a loop uses up, or that prints differently the next time, is not covered. -/
class Fillable (V : Type) where
  print : V → String
  /-- Whether a condition holds of a value. -/
  isTruthy : V → Bool
  /-- What a loop over a value runs through, if it can be looped over. -/
  items? : V → Option (List V)

/-- The values of everyday templates. -/
inductive Value where
  | text (content : String)
  | integer (number : Int)
  | boolean (truth : Bool)
  | absent
  | list (items : List Value)
  deriving Repr, Inhabited

namespace Value

/-- Text and lists count if they are not empty, numbers if they are not zero. -/
def isTruthy : Value → Bool
  | text content => !content.isEmpty
  | integer number => number != 0
  | boolean truth => truth
  | absent => false
  | list items => !items.isEmpty

mutual

/-- The text that stands for a value within a list. -/
def literal : Value → String
  | text content => String.ofList (Text.quoted content.toList)
  | integer number => toString number
  | boolean true => "True"
  | boolean false => "False"
  | absent => "None"
  | list items => "[" ++ ", ".intercalate (literals items) ++ "]"

def literals : List Value → List String
  | [] => []
  | value :: values => value.literal :: literals values

end

/-- The text that stands for a value. -/
def print : Value → String
  | text content => content
  | value => value.literal

def items? : Value → Option (List Value)
  | list items => some items
  | _ => none

instance : Fillable Value := ⟨print, isTruthy, items?⟩

end Value

end HolderInjection.Template
