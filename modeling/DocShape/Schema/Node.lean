import DocShape.Pattern
import DocShape.Schema.Kind
import DocShape.Schema.Range
import DocShape.Value

namespace DocShape

/-! Schema trees. -/

inductive FieldKey where
  | literal (name : String)
  | pattern (pattern : Pattern)

namespace FieldKey

def literal? : FieldKey → Option String
  | .literal name => some name
  | .pattern _ => none

def pattern? : FieldKey → Option Pattern
  | .literal _ => none
  | .pattern found => some found

def text : FieldKey → String
  | .literal name => "`" ++ name ++ "`"
  | .pattern found => found.text

end FieldKey

structure Field (Shape : Type) where
  key : FieldKey
  required : Bool
  node : Shape

/-- How many shapes an element of a sequence must have. -/
inductive Matching where
  | any
  | all
deriving Repr, DecidableEq

namespace Matching

def name : Matching → String
  | .any => "any"
  | .all => "all"

end Matching

/-- A leaf with its constraints; an empty list of allowed values allows every value. -/
structure Scalar where
  kind : Kind
  range : Option Range
  allowEmpty : Bool
  allowed : List Value
  pattern : Option Pattern

namespace Scalar

def ofKind (kind : Kind) : Scalar := ⟨kind, none, true, [], none⟩

end Scalar

inductive Node where
  /-- Fields in the order of their declaration, and whether other keys are tolerated. -/
  | map (fields : List (Field Node)) (allowEmpty : Bool)
  | seq (variants : List Node) (matching : Matching)
  | scalar (scalar : Scalar)
  /-- A fragment that stands here under its name. -/
  | included (name : String) (target : Node)

namespace Node

/-- A word for the kind of values that a node accepts. -/
def shape : Node → String
  | .map .. => "map"
  | .seq .. => "seq"
  | .scalar leaf => leaf.kind.name
  | .included _ target => target.shape

def keysText (fields : List (Field Node)) : String :=
  if fields.isEmpty then "no keys"
  else "one of " ++ ", ".intercalate (fields.map fun field => field.key.text)

/-- The shapes that an element of a sequence may or must have. -/
def variantsText (variants : List Node) : Matching → String
  | .any => "any of " ++ " | ".intercalate (variants.map shape)
  | .all => "all of " ++ " & ".intercalate (variants.map shape)

def hasLiteral (fields : List (Field Node)) (name : String) : Bool :=
  fields.any fun field => field.key.literal? == some name

end Node
end DocShape
