namespace DocShape.Text

/-! JSON text, written on one line without blanks. -/

/-- Two hexadecimal digits of a control character. -/
def controlDigits (code : Nat) : List Char :=
  [Nat.digitChar (code / 16), Nat.digitChar (code % 16)]

/-- Only quotes, backslashes and control characters below the blank are escaped. -/
def jsonEscape (character : Char) : List Char :=
  match character with
  | '"' => ['\\', '"']
  | '\\' => ['\\', '\\']
  | '\x08' => ['\\', 'b']
  | '\x0c' => ['\\', 'f']
  | '\n' => ['\\', 'n']
  | '\r' => ['\\', 'r']
  | '\t' => ['\\', 't']
  | other =>
      if other.toNat < 0x20 then ['\\', 'u', '0', '0'] ++ controlDigits other.toNat else [other]

def jsonString (text : String) : String :=
  String.ofList ('"' :: text.toList.flatMap jsonEscape ++ ['"'])

def jsonBool (value : Bool) : String := if value then "true" else "false"

def jsonArray (items : List String) : String :=
  "[" ++ ",".intercalate items ++ "]"

/-- An object of fields whose values are JSON texts. -/
def jsonObject (fields : List (String × String)) : String :=
  "\x7b" ++ ",".intercalate (fields.map fun field => jsonString field.1 ++ ":" ++ field.2) ++ "\x7d"

end DocShape.Text
