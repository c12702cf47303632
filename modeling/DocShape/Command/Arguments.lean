namespace DocShape.Command

/-! Reading options and operands from the words of a command line.

An option is given once at most.  Its value is the rest of its word after an equals sign, or
else the next word.  After a bare `--` all words are operands.
-/

/-- Why a command line asks for nothing that can be run. -/
inductive Stop where
  | usage
  | help
  | version
deriving Repr, DecidableEq

/-- The long names that may be used, each without the marks in front of it. -/
structure Vocabulary where
  flags : List String
  /-- Options with a value, each with the values that it may have. -/
  valued : List (String × (String → Bool))
  /-- What a single mark and a letter ask for. -/
  letters : List (Char × Stop)
  /-- Flags that end the reading. -/
  stops : List (String × Stop)

structure Arguments where
  flags : List String
  values : List (String × String)
  operands : List String

namespace Arguments

def empty : Arguments := ⟨[], [], []⟩

def withFlag (arguments : Arguments) (name : String) : Except Stop Arguments :=
  if arguments.flags.contains name then .error .usage
  else .ok { arguments with flags := name :: arguments.flags }

def withValue (arguments : Arguments) (name value : String) (accepts : String → Bool) :
    Except Stop Arguments :=
  if (arguments.values.lookup name).isSome || !accepts value then .error .usage
  else .ok { arguments with values := (name, value) :: arguments.values }

/-- Operands are paths, which are not empty. -/
def withOperand (arguments : Arguments) (word : String) : Except Stop Arguments :=
  if word.isEmpty then .error .usage
  else .ok { arguments with operands := arguments.operands ++ [word] }

inductive Word where
  /-- The mark after which only operands come. -/
  | separator
  | long (name : String) (value : Option String)
  | short (letter : Char)
  | operand

/-- A single mark alone is an operand. -/
def classify (word : String) : Word :=
  match word.toList with
  | ['-', '-'] => .separator
  | '-' :: '-' :: rest =>
      let name := String.ofList (rest.takeWhile (· != '='))
      match rest.dropWhile (· != '=') with
      | _ :: value => .long name (some (String.ofList value))
      | [] => .long name none
  | '-' :: letter :: _ => .short letter
  | _ => .operand

/-- Whether a word can be the value of the option before it. -/
def isValue (word : String) : Bool :=
  match classify word with
  | .operand => true
  | _ => false

def stop {α : Type} (found : Option Stop) : Except Stop α := .error (found.getD .usage)

/-- Reads words up to the end, or up to the first operand if `untilOperand` holds.  That
operand and the words after it are left over. -/
def read (known : Vocabulary) (untilOperand : Bool) :
    Arguments → List String → Except Stop (Arguments × List String)
  | found, [] => .ok (found, [])
  | found, word :: rest =>
      match classify word with
      | .separator =>
          if untilOperand then .error .usage
          else do return (← rest.foldlM withOperand found, [])
      | .short letter => stop (known.letters.lookup letter)
      | .operand =>
          if untilOperand then .ok (found, word :: rest)
          else do read known untilOperand (← found.withOperand word) rest
      | .long name value =>
          match known.valued.lookup name, value with
          | some accepts, some value => do
              read known untilOperand (← found.withValue name value accepts) rest
          | some accepts, none =>
              match rest with
              | value :: rest =>
                  if isValue value then do
                    read known untilOperand (← found.withValue name value accepts) rest
                  else .error .usage
              | [] => .error .usage
          | none, some _ => .error .usage
          | none, none =>
              if known.flags.contains name then do
                read known untilOperand (← found.withFlag name) rest
              else stop (known.stops.lookup name)

end Arguments
end DocShape.Command
