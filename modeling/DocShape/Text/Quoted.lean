import DocShape.Unicode.Category
import DocShape.Unicode.Property

namespace DocShape.Text

/-! Quoted text for reports.

A character stands for itself when it leaves ink of its own; one that would be
invisible, or that would attach itself to the character before it, is written as its
code point.
-/

/-- Characters that leave ink, and the plain blank.  A letter that is ignored where it
cannot be shown, such as the filler U+1160, leaves none. -/
def isGraphic (character : Char) : Bool :=
  let code := character.toNat
  if code < 0x7f then decide (0x20 ≤ code)
  else
    Unicode.Category.graphic.any (·.contains code) &&
      !Unicode.Property.defaultIgnorableCodePoint.contains code

/-- Marks that are drawn onto the character before them.  Those that take room of their own,
and letters that only extend the character before them, such as U+FF9E, are not among them. -/
def isMark (character : Char) : Bool :=
  let code := character.toNat
  decide (0x300 ≤ code) &&
    (Unicode.Category.nonspacingMark.contains code || Unicode.Category.enclosingMark.contains code)

def codePoint (character : Char) : List Char :=
  ['\\', 'u', '\x7b'] ++ Nat.toDigits 16 character.toNat ++ ['\x7d']

def escape (character : Char) : List Char :=
  match character with
  | '\x00' => ['\\', '0']
  | '\t' => ['\\', 't']
  | '\r' => ['\\', 'r']
  | '\n' => ['\\', 'n']
  | '"' => ['\\', '"']
  | '\\' => ['\\', '\\']
  | other => if !isMark other && isGraphic other then [other] else codePoint other

def quoted (text : String) : String :=
  String.ofList ('"' :: text.toList.flatMap escape ++ ['"'])

end DocShape.Text
