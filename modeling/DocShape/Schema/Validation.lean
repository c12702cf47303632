import DocShape.Schema.Config
import DocShape.Schema.Node
import DocShape.Value.Summary
import DocShape.Violation

namespace DocShape

/-! Validation: every difference between a document and a schema tree, in the order of the
declared fields and then of the document. -/

namespace Validation

def claims (fields : List (Field Node)) (key : Value) : Bool :=
  match key.content with
  | .string name => Node.hasLiteral fields name
  | _ => false

/-- The value under a literal field's name: the entry with exactly that key, else the first
one whose key is that string below its tags. -/
def literalValue? (entries : Entries) (name : String) : Option Value :=
  match entries.get? name with
  | some found => some found
  | none => (entries.find? fun entry => entry.1.isNamed name).map (·.2)

def kindMatches : Kind → Value → Bool
  | .any, _ => true
  | .str, .string _ => true
  | .bool, .bool _ => true
  | .number, .int _ => true
  | .number, .float _ => true
  | .int, .int _ => true
  | .float, .float _ => true
  | _, _ => false

/-- What a range measures in a value, and the word that a report puts before the range. -/
def measure? : Value → Option (Binary64 × String)
  | .int number => some (.ofInt number, "")
  | .float number => some (number, "")
  | .string text => some (.ofNat text.length, "length ")
  | _ => none

def mismatch (path : DocPath) (expected : String) (value : Value) : Violation :=
  .mk path .typeMismatch expected value.summary []

def emptiness (path : DocPath) (scalar : Scalar) : Value → List Violation
  | .string text =>
      if text.isEmpty && !scalar.allowEmpty then
        [.mk path .emptyValue "non-empty str" "empty str" []]
      else []
  | _ => []

def patternFault (path : DocPath) (scalar : Scalar) : Value → List Violation
  | .string text =>
      match scalar.pattern with
      | some pattern =>
          if pattern.isMatch text then []
          else
            [.mk path .patternMismatch ("str matching " ++ pattern.text)
              (Value.summary (.string text)) []]
      | none => []
  | _ => []

def allowedFault (path : DocPath) (scalar : Scalar) (value : Value) : List Violation :=
  if scalar.allowed.isEmpty || scalar.allowed.any value.same then []
  else
    [.mk path .enumMismatch
      ("one of " ++ ", ".intercalate (scalar.allowed.map Value.summary)) value.summary []]

def rangeFault (path : DocPath) (scalar : Scalar) (value : Value) : List Violation :=
  match scalar.range, measure? value with
  | some range, some (measured, label) =>
      if range.contains measured then []
      else [.mk path .rangeViolation (label ++ range.text) value.summary []]
  | _, _ => []

def scalarViolations (path : DocPath) (scalar : Scalar) (value : Value) : List Violation :=
  if scalar.kind = .any then []
  else if kindMatches scalar.kind value then
    emptiness path scalar value ++ patternFault path scalar value ++
      allowedFault path scalar value ++ rangeFault path scalar value
  else [mismatch path scalar.kind.name value]

/-- The list with the fewest violations, the earliest of several. -/
def fewest : List (List Violation) → List Violation
  | [] => []
  | first :: rest =>
      rest.foldl (fun best next => if next.length < best.length then next else best) first

/-- Why an element fails, given the violations of each of its shapes; nothing if it
passes. -/
def causes? (report : ElementReport) (matching : Matching) (outcomes : List (List Violation)) :
    Option (List Violation) :=
  let failures := outcomes.filter fun outcome => !outcome.isEmpty
  if failures.isEmpty || matching == .any && outcomes.any List.isEmpty then none
  else
    match report with
    | .closest => some (fewest failures)
    | .all => some failures.flatten

def elementViolations (config : Config) (path : DocPath) (variants : List Node)
    (matching : Matching) (item : Value) (outcomes : List (List Violation)) : List Violation :=
  match causes? config.elementReport matching outcomes with
  | none => []
  | some causes =>
      [.mk path .elementMismatch (Node.variantsText variants matching) item.summary causes]

/-- The violations of a value that no literal field claims, given those of each pattern
field that applies to it. -/
def unclaimedViolations (path : DocPath) (fields : List (Field Node)) (allowEmpty : Bool)
    (keyText : String) (outcomes : List (List Violation)) : List Violation :=
  if outcomes.isEmpty && !allowEmpty then
    [.mk path .unexpectedField (Node.keysText fields) ("key `" ++ keyText ++ "`") []]
  else outcomes.flatten

mutual

/-- The violations of a value that stands at `path`. -/
def check (config : Config) (path : DocPath) : Node → Value → List Violation
  | .map fields allowEmpty, value =>
      match value.content with
      | .map entries =>
          checkLiterals config path entries fields ++
            entries.flatMap fun entry =>
              if claims fields entry.1 then []
              else
                let keyText := entry.1.keyText
                let below := path ++ [.key keyText]
                unclaimedViolations below fields allowEmpty keyText
                  (checkPatterns config below keyText entry.2 fields)
      | other => [mismatch path "map" other]
  | .seq [only] _, value =>
      match value.content with
      | .seq items =>
          items.zipIdx.flatMap fun element =>
            check config (path ++ [.index element.2]) only element.1
      | other => [mismatch path "seq" other]
  | .seq variants matching, value =>
      match value.content with
      | .seq items =>
          items.zipIdx.flatMap fun element =>
            let below := path ++ [.index element.2]
            elementViolations config below variants matching element.1
              (checkVariants config below element.1 variants)
      | other => [mismatch path "seq" other]
  | .scalar leaf, value => scalarViolations path leaf value.content
  | .included _ target, value => check config path target value

/-- The violations of the values that literal fields claim, and of required fields that
have none. -/
def checkLiterals (config : Config) (path : DocPath) (entries : Entries) :
    List (Field Node) → List Violation
  | [] => []
  | ⟨key, required, node⟩ :: rest =>
      (match key.literal? with
        | none => []
        | some name =>
            let below := path ++ [.key name]
            match literalValue? entries name with
            | some found => check config below node found
            | none =>
                if required then [.mk below .missingField node.shape "nothing" []] else []) ++
        checkLiterals config path entries rest

/-- The violations of a value for each pattern field that applies to its key. -/
def checkPatterns (config : Config) (path : DocPath) (keyText : String) (value : Value) :
    List (Field Node) → List (List Violation)
  | [] => []
  | ⟨key, _, node⟩ :: rest =>
      if key.pattern?.any (·.isMatch keyText) then
        check config path node value ::
          (if config.patternMatch = .first then []
          else checkPatterns config path keyText value rest)
      else checkPatterns config path keyText value rest

/-- The violations of an element for each shape of a sequence. -/
def checkVariants (config : Config) (path : DocPath) (item : Value) :
    List Node → List (List Violation)
  | [] => []
  | variant :: rest => check config path variant item :: checkVariants config path item rest

end

end Validation
end DocShape
