import DocShape.Number.Reading
import DocShape.Value
import DocShape.Yaml.Tree

namespace DocShape.Yaml

/-! What scalars, tags and references to anchors stand for. -/

namespace Scalar

def isNull (text : String) : Bool := ["null", "Null", "NULL", "~"].contains text

def bool? (text : String) : Option Bool :=
  if ["true", "True", "TRUE"].contains text then some true
  else if ["false", "False", "FALSE"].contains text then some false
  else none

def digit? (base : Nat) (character : Char) : Option Nat :=
  let value :=
    if character.isAlphanum then Reader.hexDigit character else base
  if value < base then some value else none

def number? (base : Nat) (digits : List Char) : Option Nat :=
  if digits.isEmpty then none
  else digits.foldlM (fun value digit => (digit? base digit).map (value * base + ·)) 0

/-- A number with the mark of its base in front; otherwise in base ten. -/
def natural? : List Char → Option Nat
  | '0' :: 'x' :: digits => number? 16 digits
  | '0' :: 'o' :: digits => number? 8 digits
  | '0' :: 'b' :: digits => number? 2 digits
  | digits => number? 10 digits

/-- Several digits, the first of them zero: no number. -/
def hasLeadingZero (magnitude : List Char) : Bool :=
  magnitude.length > 1 && magnitude.head? == some '0' && magnitude.all Char.isDigit

def int? (text : List Char) : Option Int :=
  let (isNegative, magnitude) := Binary64.signed text
  if hasLeadingZero magnitude then none
  else
    (natural? magnitude).map fun number =>
      if isNegative then -(number : Int) else number

def maxUnsigned : Int := Int.pow 2 64 - 1

def minSigned : Int := -Int.pow 2 63

def isHeld (number : Int) : Bool := decide (minSigned ≤ number ∧ number ≤ maxUnsigned)

/-- The whole numbers that are not read as floating-point numbers when they are not held. -/
def isWide (number : Int) : Bool := decide (-Int.pow 2 127 ≤ number ∧ number < Int.pow 2 128)

/-- Infinities, `nan` and finite decimal numbers, each with its own spellings. -/
def float? (text : String) : Option Binary64 :=
  if [".inf", ".Inf", ".INF", "+.inf", "+.Inf", "+.INF"].contains text then
    some (.infinite false)
  else if ["-.inf", "-.Inf", "-.INF"].contains text then some (.infinite true)
  else if [".nan", ".NaN", ".NAN"].contains text then some .nan
  else
    match Binary64.ofText? text with
    | some (.finite negative units) => some (.finite negative units)
    | _ => none

/-- The value of a scalar that is written without marks.  A whole number of more than 64 and
at most 128 bits is an error. -/
def plain? (text : String) : Option Value :=
  if text.isEmpty || isNull text then some .null
  else
    match bool? text with
    | some flag => some (.bool flag)
    | none =>
        match int? text.toList with
        | some number =>
            if isHeld number then some (.int number)
            else if isWide number then none
            else some (((float? text).map Value.float).getD (.string text))
        | none =>
            if hasLeadingZero (Binary64.signed text.toList).2 then some (.string text)
            else some (((float? text).map Value.float).getD (.string text))

/-- The value of a scalar with a tag that is not its own kind of value. -/
def tagged? (tag text : String) : Option Value :=
  match tag with
  | "tag:yaml.org,2002:bool" => (bool? text).map .bool
  | "tag:yaml.org,2002:int" =>
      (int? text.toList).bind fun number => if isHeld number then some (.int number) else none
  | "tag:yaml.org,2002:float" => (float? text).map .float
  | "tag:yaml.org,2002:null" => if isNull text then some .null else none
  | _ => some (.string text)

end Scalar

namespace Tree

def localTag? (tag : Option String) : Option String :=
  tag.bind fun text =>
    match text.toList with
    | ['!'] => some "!"
    | '!' :: name => some (String.ofList name)
    | _ => none

/-- A scalar's value.  A tag that is put aside leaves the scalar as if it had none. -/
def scalarValue? (tag : Option String) (text : String) (isPlain : Bool) : Option Value :=
  match tag with
  | some tag => Scalar.tagged? tag text
  | none => if isPlain then Scalar.plain? text else some (.string text)

/-- The nodes that references stand for, and how many of them may still be followed. -/
structure Anchors where
  nodes : List (Nat × Tree)
  jumps : Nat

abbrev Resolver := StateT Anchors Option

namespace Resolver

/-- The node that a reference stands for, and any other node itself. -/
def follow (tree : Tree) : Resolver Tree := do
  match tree with
  | .reference anchor =>
      let anchors ← get
      match anchors.jumps, anchors.nodes.lookup anchor with
      | jumps + 1, some target =>
          set { anchors with jumps }
          return target
      | _, _ => failure
  | other => return other

def isReference : Tree → Bool
  | .reference _ => true
  | _ => false

def withTag (tag : Option String) (value : Value) : Value :=
  match tag with
  | some name => .tagged name value
  | none => value

/-- The value of a node at most `depth` collections deep.  Inside a tag, which goes for the
keys of a tagged mapping too, a node's own tag does not count. -/
def value (depth : Nat) (inTag : Bool) (tree : Tree) : Resolver Value := do
  let target ← follow tree
  let inTag := inTag && !isReference tree
  match target with
  | .reference _ => failure
  | .scalar properties text isPlain =>
      let tag := if inTag then none else properties.tag
      match localTag? tag with
      | some name => return .tagged name (← (scalarValue? none text isPlain : Option Value))
      | none => (scalarValue? tag text isPlain : Option Value)
  | .seq properties items =>
      match depth with
      | 0 => failure
      | inner + 1 =>
          let tag := if inTag then none else localTag? properties.tag
          return withTag tag (.seq (← items.mapM (value inner false)))
  | .map properties entries =>
      match depth with
      | 0 => failure
      | inner + 1 =>
          let tag := if inTag then none else localTag? properties.tag
          let found ← entries.foldlM (fun found entry => do
            let key ← value inner (inTag || tag.isSome) entry.1
            if found.any fun known : Value × Value => known.1.same key then failure
            return (key, ← value inner false entry.2) :: found) []
          return withTag tag (.map found.reverse)

end Resolver

/-- A collection counts at its start and at its end, other nodes once. -/
def edges : Tree → Nat
  | .seq .. | .map .. => 2
  | _ => 1

/-- The value of a document; none if a scalar does not fit its tag, two keys of a mapping are
equal, or too much is nested or repeated. -/
def value? (tree : Tree) : Option Value :=
  let nodes := tree.nodes
  let anchored := nodes.reverse.filterMap fun node => node.anchor?.map (·, node)
  let size := nodes.foldl (fun counted node => counted + node.edges) 0
  (Resolver.value maxDepth false tree).run' ⟨anchored, 100 * size⟩

end Tree
end DocShape.Yaml
