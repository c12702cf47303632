import DocShape.Domain
import DocShape.Proofs.Alike

namespace DocShape.Domain

/-! The tree that the contract's sources are built into. -/

def anything : Node := .scalar (.ofKind .any)

def text : Node := .scalar (.ofKind .str)

def flag : Node := .scalar (.ofKind .bool)

def listOf (element : Node) : Node := .seq [element] .any

/-- A mapping with any keys that has these fields. -/
def record (fields : List (Field Node)) : Node := .map fields true

/-- A list of texts and of mappings with these fields. -/
def describedTexts (fields : List (Field Node)) : Node := .seq [record fields, text] .any

def has (name : String) (node : Node) : Field Node := ⟨.literal name, true, node⟩

def mayHave (name : String) (node : Node) : Field Node := ⟨.literal name, false, node⟩

/-- A pattern for texts made of one or more characters of a set. -/
def manyOf (source : String) (set : Pattern.CharSet) : Pattern where
  source := source
  expression := .sequence (.assertion .textStart)
    (.sequence (.repeated (.one set) 1 none) (.sequence (.assertion .textEnd) .empty))

def keyed (pattern : Pattern) (node : Node) : Node := .map [⟨.pattern pattern, false, node⟩] false

/-- Some characters, none of which ends a line. -/
def lineOfText : Pattern := manyOf "(.+)" (.complement (.ranges [(10, 10)]))

def letters : Pattern :=
  manyOf "[A-Za-z]+" (.union (.ranges [(65, 90)]) (.union (.ranges [(97, 122)]) (.ranges [])))

def filledText : Node := .scalar { Scalar.ofKind .str with allowEmpty := false }

def fromZero : Range := ⟨some ⟨.finite false 0, false⟩, none, rfl⟩

def nonNegative : Node := .scalar { Scalar.ofKind .number with range := some fromZero }

def buttonNode : Node := record [mayHave "title" text, mayHave "payload" text]

def variationNode : Node := record
  [mayHave "text" text, mayHave "image" text, mayHave "channel" text,
    mayHave "custom" (record []), mayHave "buttons" (listOf buttonNode)]

def responsesNode : Node := keyed lineOfText (listOf variationNode)

def formNode : Node :=
  .map [mayHave "required_slots" (record []), mayHave "ignored_intents" anything] false

def sessionNode : Node := record
  [mayHave "session_expiration_time" nonNegative,
    mayHave "carry_over_slots_to_new_session" flag]

def sections : List (Field Node) :=
  [mayHave "version" filledText,
    has "intents"
      (describedTexts [mayHave "use_entities" anything, mayHave "ignore_entities" anything]),
    has "entities"
      (describedTexts [mayHave "roles" (listOf text), mayHave "groups" (listOf text)]),
    has "actions" (listOf text),
    has "responses" (.included responsesName responsesNode),
    has "slots" (record []),
    mayHave "forms" (keyed letters formNode),
    has "config" (record [mayHave "store_entities_as_slots" flag]),
    has "session_config" sessionNode]

def tree : Node := record sections

/-- The contract is built without a fault, into this tree and no fragments of its own. -/
theorem schema_eq : schema = .ok ⟨tree, .empty, .standard⟩ := by
  have built : (match schema with
      | .ok ⟨root, ⟨entries, _⟩, config⟩ =>
          root.alike tree && entries.isEmpty && config = .standard
      | .error _ => false) = true := by
    decide +kernel
  cases made : schema with
  | error error =>
      rw [made] at built
      cases built
  | ok found =>
      obtain ⟨root, ⟨entries, _⟩, config⟩ := found
      simp only [made, Bool.and_eq_true, List.isEmpty_iff, decide_eq_true_eq] at built
      obtain ⟨⟨alike, rfl⟩, rfl⟩ := built
      cases Node.eq_of_alike alike
      rfl

end DocShape.Domain
