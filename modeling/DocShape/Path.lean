import DocShape.Text.Quoted

namespace DocShape

/-! Positions in a document, counted from its root. -/

inductive Segment where
  | key (name : String)
  | index (position : Nat)
deriving Repr, DecidableEq

abbrev DocPath := List Segment

namespace Segment

/-- A key is quoted when it is empty or holds a character that paths give a meaning to. -/
def needsQuotes (name : String) : Bool :=
  name.isEmpty || name.toList.any fun character => ['.', '[', ']', '"', ' '].contains character

def keyText (name : String) : String :=
  if needsQuotes name then Text.quoted name else name

/-- A step's text; a key after another step is set off by a dot. -/
def text (first : Bool) : Segment → String
  | .key name => (if first then "" else ".") ++ keyText name
  | .index position => "[" ++ toString position ++ "]"

end Segment

namespace DocPath

def text : DocPath → String
  | [] => "<root>"
  | first :: rest => first.text true ++ String.join (rest.map (Segment.text false))

end DocPath
end DocShape
