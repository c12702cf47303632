namespace DocShape

/-! Kinds of scalars. -/

inductive Kind where
  | str
  | number
  | int
  | float
  | bool
  | any
deriving Repr, DecidableEq

namespace Kind

def name : Kind → String
  | .str => "str"
  | .number => "number"
  | .int => "int"
  | .float => "float"
  | .bool => "bool"
  | .any => "any"

/-- The kind that a schema names, by its own name or another accepted one. -/
def ofName? : String → Option Kind
  | "str" | "string" => some .str
  | "number" | "num" => some .number
  | "int" | "integer" => some .int
  | "float" => some .float
  | "bool" | "boolean" => some .bool
  | "any" => some .any
  | _ => none

def supportsRange : Kind → Bool
  | .str | .number | .int | .float => true
  | .bool | .any => false

theorem ofName?_name (kind : Kind) : ofName? kind.name = some kind := by
  cases kind <;> rfl

end Kind
end DocShape
