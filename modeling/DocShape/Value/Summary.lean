import DocShape.Number.Style
import DocShape.Text.Quoted
import DocShape.Value

namespace DocShape.Value

/-! Short descriptions of values for reports, and the text of mapping keys. -/

def previewLength : Nat := 32

/-- Fewest digits that read back, positional for leading digits from the fifth decimal
place up to the sixteenth whole place, and a whole number keeps a zero after the point. -/
def numberStyle : NumberStyle where
  exponential leading := leading < -5 || 15 < leading
  wholeEnd := ".0"
  tie := .toEven
  nan := ".nan"
  infinity := ".inf"

def floatText (number : Binary64) : String := numberStyle.text number

def boolText (flag : Bool) : String := if flag then "true" else "false"

def preview (text : String) : String :=
  let characters := text.toList
  if characters.length ≤ previewLength then text
  else String.ofList (characters.take previewLength ++ ['.', '.', '.'])

/-- What a report says that a document holds. -/
def summary (value : Value) : String :=
  match value.content with
  | .null => "null"
  | .bool flag => "bool " ++ boolText flag
  | .int number => "int " ++ toString number
  | .float number => "float " ++ floatText number
  | .string text => "str " ++ Text.quoted (preview text)
  | .seq items => "seq of " ++ toString items.length ++ " items"
  | .map entries => "map with " ++ toString entries.length ++ " keys"
  | .tagged .. => "tagged value"

/-- The text of a mapping key, by which patterns and paths know it. -/
def keyText (key : Value) : String :=
  match key.content with
  | .string text => text
  | .int number => toString number
  | .float number => floatText number
  | .bool flag => boolText flag
  | .null => "~"
  | other => other.summary

theorem summary_content (value : Value) : value.content.summary = value.summary := by
  unfold summary
  rw [content_content]

theorem keyText_content (key : Value) : key.content.keyText = key.keyText := by
  unfold keyText
  rw [content_content]

end DocShape.Value
