/-!
# JSON values

The values a report is made of: numbers are unsigned, and the fields of an object keep their order.
-/

namespace Prototyper

/-- A JSON value. -/
inductive Json where
  | null
  | bool (b : Bool)
  | number (n : Nat)
  | string (s : String)
  | list (items : List Json)
  | object (fields : List (String × Json))
  deriving Inhabited

namespace Json

/-- An optional value, `null` when absent. -/
def ofOption {α : Type} (toJson : α → Json) : Option α → Json
  | none => null
  | some a => toJson a

/-- An object with one field, which names the variant of what it holds. -/
def variant (label : String) (content : Json) : Json :=
  object [(label, content)]

end Json

end Prototyper
