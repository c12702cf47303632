import DocShape.Pattern.Matching
import DocShape.Pattern.Reading
import DocShape.Pattern.Size

namespace DocShape

/-! Patterns for keys and strings. -/

/-- A pattern as written, and the expression it stands for between the two ends of a
text. -/
structure Pattern where
  source : String
  expression : Pattern.Expression
deriving Repr

namespace Pattern

/-- The written pattern as a group between the anchors of a text. -/
def anchored (source : String) : String := "^(?:" ++ source ++ ")$"

def compile? (source : String) : Option Pattern := do
  let tree ← Tree.read? (anchored source)
  let (expression, _) ← Expression.ofTree? .initial tree
  if expression.size ≤ Expression.sizeLimit then some ⟨source, expression⟩ else none

def isMatch (pattern : Pattern) (text : String) : Bool :=
  pattern.expression.isFoundIn text.toList

def text (pattern : Pattern) : String := "/" ++ pattern.source ++ "/"

end Pattern
end DocShape
