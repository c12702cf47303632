import DocShape.Pattern.CharSet
import DocShape.Unicode.Script

namespace DocShape.Pattern

/-! Character classes by the name of a property, a category or a script.

Names are compared without regard to case, blanks, dashes, underscores and an `is` at
their start.
-/

open DocShape.Unicode

namespace PropertyName

def plainCharacter? (character : Char) : Option Char :=
  if character = ' ' ∨ character = '_' ∨ character = '-' ∨ 0x7f < character.toNat then none
  else some character.toLower

def normalized (name : String) : String :=
  let characters := name.toList
  let marked := (characters.take 2).map Char.toLower == ['i', 's']
  let plain := (if marked then characters.drop 2 else characters).filterMap plainCharacter?
  if marked && plain == ['c'] then "isc" else String.ofList plain

def isNamed (wanted : String) (names : List String) : Bool :=
  names.any fun name => normalized name == wanted

def categories : List (List String × List Category) := [
  (["Cased_Letter", "LC"], Category.casedLetters),
  (["Close_Punctuation", "Pe"], [.closePunctuation]),
  (["Connector_Punctuation", "Pc"], [.connectorPunctuation]),
  (["Control", "Cc", "cntrl"], [.control]),
  (["Currency_Symbol", "Sc"], [.currencySymbol]),
  (["Dash_Punctuation", "Pd"], [.dashPunctuation]),
  (["Decimal_Number", "Nd", "digit"], [.decimalNumber]),
  (["Enclosing_Mark", "Me"], [.enclosingMark]),
  (["Final_Punctuation", "Pf"], [.finalPunctuation]),
  (["Format", "Cf"], [.format]),
  (["Initial_Punctuation", "Pi"], [.initialPunctuation]),
  (["Letter", "L"], Category.letters),
  (["Letter_Number", "Nl"], [.letterNumber]),
  (["Line_Separator", "Zl"], [.lineSeparator]),
  (["Lowercase_Letter", "Ll"], [.lowercaseLetter]),
  (["Mark", "M", "Combining_Mark"], Category.marks),
  (["Math_Symbol", "Sm"], [.mathSymbol]),
  (["Modifier_Letter", "Lm"], [.modifierLetter]),
  (["Modifier_Symbol", "Sk"], [.modifierSymbol]),
  (["Nonspacing_Mark", "Mn"], [.nonspacingMark]),
  (["Number", "N"], Category.numbers),
  (["Open_Punctuation", "Ps"], [.openPunctuation]),
  (["Other_Letter", "Lo"], [.otherLetter]),
  (["Other_Number", "No"], [.otherNumber]),
  (["Other_Punctuation", "Po"], [.otherPunctuation]),
  (["Other_Symbol", "So"], [.otherSymbol]),
  (["Paragraph_Separator", "Zp"], [.paragraphSeparator]),
  (["Private_Use", "Co"], [.privateUse]),
  (["Punctuation", "P", "punct"], Category.punctuation),
  (["Separator", "Z"], Category.separators),
  (["Space_Separator", "Zs"], [.spaceSeparator]),
  (["Spacing_Mark", "Mc"], [.spacingMark]),
  (["Symbol", "S"], Category.symbols),
  (["Titlecase_Letter", "Lt"], [.titlecaseLetter]),
  (["Uppercase_Letter", "Lu"], [.uppercaseLetter]),
  (["Assigned"], Category.assigned)]

def category? (wanted : String) : Option CharSet :=
  if wanted = "any" then some .anything
  else if wanted = "ascii" then some (.ranges [(0x00, 0x7f)])
  else if isNamed wanted ["Unassigned", "Cn"] then
    some (.complement (.categories Category.assigned))
  else if isNamed wanted ["Other", "C"] then
    some (.complement (.categories (Category.graphic ++ Category.separators)))
  else
    (categories.find? fun entry => isNamed wanted entry.1).map fun entry =>
      .categories entry.2

def script? (wanted : String) : Option Script :=
  Script.all.find? fun script => isNamed wanted script.names

def withoutScript : CharSet :=
  .complement (.unions (Script.all.map fun script => .ranges script.characters))

def scriptSet? (wanted : String) : Option CharSet :=
  if isNamed wanted ["Unknown", "Zzzz"] then some withoutScript
  else (script? wanted).map fun script => .ranges script.characters

def property? (wanted : String) : Option CharSet :=
  (Property.named.find? fun entry => isNamed wanted entry.1).map fun entry => .ranges entry.2

/-- A class named without a property.  Three short names are those of categories first. -/
def ofName? (name : String) : Option CharSet :=
  let wanted := normalized name
  let category := category? wanted <|> scriptSet? wanted
  if ["cf", "sc", "lc"].contains wanted then category
  else property? wanted <|> category

/-- A class named by a property and its value, which are those of categories and scripts.  The
properties with values for age and for the breaks between graphemes, words and sentences are not
known here, so that a pattern with one of them is refused. -/
def ofValue? (property value : String) : Option CharSet :=
  let named := isNamed (normalized property)
  let wanted := normalized value
  if named ["General_Category", "gc"] then category? wanted
  else if named ["Script", "sc"] then scriptSet? wanted
  else if named ["Script_Extensions", "scx"] then
    if isNamed wanted ["Unknown", "Zzzz"] then some withoutScript
    else (script? wanted).map fun script => .ranges script.extended
  else none

end PropertyName
end DocShape.Pattern
