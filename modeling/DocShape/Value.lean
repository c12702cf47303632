import DocShape.Number.Binary64

namespace DocShape

/-! Document values: scalars, sequences, mappings in their written order, and tagged
values.

Reports and lookups see a value through its tags; `content` takes them off.
-/

inductive Value where
  | null
  | bool (flag : Bool)
  | int (number : Int)
  | float (number : Binary64)
  | string (text : String)
  | seq (items : List Value)
  | map (entries : List (Value × Value))
  | tagged (tag : String) (inner : Value)
deriving Repr, Inhabited

abbrev Entries := List (Value × Value)

namespace Value

def content : Value → Value
  | .tagged _ inner => inner.content
  | other => other

/-- The text of a string, tagged or not. -/
def text? (value : Value) : Option String :=
  match value.content with
  | .string text => some text
  | _ => none

/-- The floating-point number nearest to a number, tagged or not. -/
def number? (value : Value) : Option Binary64 :=
  match value.content with
  | .int number => some (.ofInt number)
  | .float number => some number
  | _ => none

/-- The untagged string `name`. -/
def isPlain (name : String) : Value → Bool
  | .string text => text == name
  | _ => false

/-- The string `name`, tagged or not. -/
def isNamed (name : String) (value : Value) : Bool :=
  value.content.isPlain name

/-- A tag without the mark in front of it; the mark alone stays. -/
def bareTag (tag : String) : List Char :=
  match tag.toList with
  | '!' :: first :: rest => first :: rest
  | other => other

def sameFloat (left right : Binary64) : Bool :=
  left.same right || left == .nan && right == .nan

mutual

/-- Equality of values.  An integer never equals a float, all `nan` are equal, both zeros
are equal, and mappings are compared without regard to order. -/
def same : Value → Value → Bool
  | .null, .null => true
  | .bool left, .bool right => left == right
  | .int left, .int right => left == right
  | .float left, .float right => sameFloat left right
  | .string left, .string right => left == right
  | .seq left, .seq right => sameItems left right
  | .map left, .map right => left.length == right.length && sameEntries left right
  | .tagged leftTag left, .tagged rightTag right =>
      bareTag leftTag == bareTag rightTag && same left right
  | _, _ => false

def sameItems : List Value → List Value → Bool
  | [], [] => true
  | left :: leftRest, right :: rightRest => same left right && sameItems leftRest rightRest
  | _, _ => false

/-- Every entry on the left has an equal one on the right. -/
def sameEntries : Entries → Entries → Bool
  | [], _ => true
  | (key, value) :: rest, right =>
      (right.any fun entry => same key entry.1 && same value entry.2) && sameEntries rest right

end

theorem content_content (value : Value) : value.content.content = value.content := by
  induction value using content.induct with
  | case1 tag inner innerContent => simpa [content] using innerContent
  | case2 other untagged =>
      have fixed : other.content = other := by
        cases other <;> first | rfl | exact absurd rfl (untagged _ _)
      rw [fixed, fixed]

end Value

namespace Entries

/-- The value stored under the untagged key `name`. -/
def get? (entries : Entries) (name : String) : Option Value :=
  (entries.find? fun entry => entry.1.isPlain name).map (·.2)

def has (entries : Entries) (name : String) : Bool :=
  entries.any fun entry => entry.1.isPlain name

/-- Adds an entry at the end; the value of an equal key is replaced where it stands. -/
def put (entries : Entries) (key stored : Value) : Entries :=
  if entries.any fun entry => entry.1.same key then
    entries.map fun entry => if entry.1.same key then (entry.1, stored) else entry
  else entries ++ [(key, stored)]

/-- The mapping that a list of entries makes, in which all keys differ. -/
def ofList (entries : Entries) : Entries :=
  entries.foldl (fun stored entry => stored.put entry.1 entry.2) []

theorem has_eq_isSome_get? (entries : Entries) (name : String) :
    entries.has name = (entries.get? name).isSome := by
  unfold has get?
  rw [Option.isSome_map, List.isSome_find?]

end Entries
end DocShape
