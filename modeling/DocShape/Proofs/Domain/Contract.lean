import Mathlib
import DocShape.Proofs.Binary64
import DocShape.Proofs.Domain.Tree
import DocShape.Proofs.Pattern.Language
import DocShape.Proofs.Validation.Laws

namespace DocShape.Domain

/-! What the contract demands of a domain file, said of the file itself. -/

open Value

/-- The key has a text, in a single line. -/
def IsLine (text : String) : Prop := text ≠ "" ∧ '\n' ∉ text.toList

/-- Letters of the Latin alphabet, and at least one. -/
def IsWord (text : String) : Prop := text ≠ "" ∧ ∀ letter ∈ text.toList, letter.isAlpha = true

/-- A number that is not below zero; `nan` is none. -/
inductive IsNonNegative : Value → Prop where
  | int {number : Int} (above : 0 ≤ number) : IsNonNegative (.int number)
  | float {number : Binary64} (above : (Binary64.finite false 0).le number = true) :
      IsNonNegative (.float number)

@[mk_iff]
structure IsButton (entries : Entries) : Prop where
  title : entries.Optional "title" IsText
  payload : entries.Optional "payload" IsText

@[mk_iff]
structure IsVariation (entries : Entries) : Prop where
  text : entries.Optional "text" IsText
  image : entries.Optional "image" IsText
  channel : entries.Optional "channel" IsText
  custom : entries.Optional "custom" IsMapping
  buttons : entries.Optional "buttons" (IsListOf (IsMappingWith IsButton))

/-- Each response has a name and a list of variations. -/
def IsResponses (entries : Entries) : Prop :=
  ∀ entry ∈ entries, IsLine entry.1.keyText ∧ IsListOf (IsMappingWith IsVariation) entry.2

@[mk_iff]
structure IsEntity (entries : Entries) : Prop where
  roles : entries.Optional "roles" (IsListOf IsText)
  groups : entries.Optional "groups" (IsListOf IsText)

/-- A form has no entries but these two. -/
@[mk_iff]
structure IsForm (entries : Entries) : Prop where
  slots : entries.Optional "required_slots" IsMapping
  only : ∀ entry ∈ entries,
    entry.1 = .string "required_slots" ∨ entry.1 = .string "ignored_intents"

def IsForms (entries : Entries) : Prop :=
  ∀ entry ∈ entries, IsWord entry.1.keyText ∧ IsMappingWith IsForm entry.2

@[mk_iff]
structure IsSession (entries : Entries) : Prop where
  expiration : entries.Optional "session_expiration_time" IsNonNegative
  carryOver : entries.Optional "carry_over_slots_to_new_session" IsFlag

/-- The sections of a domain file; other sections may stand beside them. -/
@[mk_iff]
structure IsDomain (entries : Entries) : Prop where
  version : entries.Optional "version" fun stored => ∃ text, stored = .string text ∧ text ≠ ""
  intents : entries.Required "intents" (IsListOf fun item => IsMapping item ∨ IsText item)
  entities : entries.Required "entities"
    (IsListOf fun item => IsMappingWith IsEntity item ∨ IsText item)
  actions : entries.Required "actions" (IsListOf IsText)
  responses : entries.Required "responses" (IsMappingWith IsResponses)
  slots : entries.Required "slots" IsMapping
  forms : entries.Optional "forms" (IsMappingWith IsForms)
  config : entries.Required "config"
    (IsMappingWith fun inner => inner.Optional "store_entities_as_slots" IsFlag)
  session : entries.Required "session_config" (IsMappingWith IsSession)

theorem manyOf_isMatch {source text : String} {set : Pattern.CharSet} :
    (manyOf source set).isMatch text = true ↔
      text ≠ "" ∧ ∀ found ∈ text.toList, set.contains found.toNat = true := by
  rw [Pattern.isMatch, manyOf, Pattern.Expression.isFoundIn_anchored_iff,
    Pattern.Expression.spans_oneOrMore_iff, Ne, String.toList_eq_nil_iff]

theorem contains_range (low high code : Nat) :
    (Pattern.CharSet.ranges [(low, high)]).contains code = true ↔ low ≤ code ∧ code ≤ high := by
  simp only [Pattern.CharSet.contains, Unicode.Ranges.contains, Bool.or_false]
  split <;> simp <;> omega

theorem lineOfText_isMatch (text : String) : lineOfText.isMatch text = true ↔ IsLine text := by
  have noNewline (found : Char) :
      (Pattern.CharSet.complement (.ranges [(10, 10)])).contains found.toNat = true ↔
        found ≠ '\n' := by
    rw [Pattern.CharSet.contains, Bool.not_eq_true', ← Bool.not_eq_true, contains_range]
    refine not_congr ⟨fun same => ?_, ?_⟩
    · exact Char.toNat_inj.mp (Nat.le_antisymm same.2 same.1)
    · rintro rfl
      exact ⟨Nat.le_refl _, Nat.le_refl _⟩
  rw [lineOfText, manyOf_isMatch, IsLine]
  simp only [noNewline]
  refine and_congr_right fun _ => ⟨fun each member => each _ member rfl, ?_⟩
  rintro absent found member rfl
  exact absent member

theorem isAlpha_iff (letter : Char) :
    letter.isAlpha = true ↔
      65 ≤ letter.toNat ∧ letter.toNat ≤ 90 ∨ 97 ≤ letter.toNat ∧ letter.toNat ≤ 122 := by
  simp [Char.isAlpha, Char.isUpper, Char.isLower, UInt32.le_iff_toNat_le]

theorem letters_isMatch (text : String) : letters.isMatch text = true ↔ IsWord text := by
  have isLetter (found : Char) :
      (Pattern.CharSet.union (.ranges [(65, 90)])
          (.union (.ranges [(97, 122)]) (.ranges []))).contains found.toNat = true ↔
        found.isAlpha = true := by
    simp only [isAlpha_iff, ← contains_range, Pattern.CharSet.contains, Unicode.Ranges.contains_nil,
      Bool.or_eq_true, Bool.false_eq_true, or_false]
  rw [letters, manyOf_isMatch, IsWord]
  simp only [isLetter]

section Nodes

variable {config : Config}

open Node

theorem demands_filledText :
    Demands config filledText fun stored => ∃ text, stored = .string text ∧ text ≠ "" := by
  intro value plain
  rw [filledText, Conforms, plain.content, admits_filled_iff]
  constructor
  · rintro (anything | ⟨has, filled⟩)
    · cases anything
    · cases has with
      | str text => exact ⟨text, rfl, fun empty => filled (empty ▸ rfl)⟩
  · rintro ⟨text, rfl, filled⟩
    exact .inr ⟨.str text, fun empty => filled (Value.string.inj empty)⟩

theorem contains_fromZero (measured : Binary64) :
    fromZero.contains measured = (Binary64.finite false 0).le measured := by
  simp [fromZero, Range.contains, Bound.below]

theorem demands_nonNegative : Demands config nonNegative IsNonNegative := by
  intro value plain
  rw [nonNegative, Conforms, plain.content, admits_ranged_iff]
  simp only [contains_fromZero]
  constructor
  · rintro (anything | ⟨has, above⟩)
    · cases anything
    · cases has with
      | whole number => exact .int (Binary64.zero_le_ofInt_iff.mp (above _ (.int number)))
      | decimal number => exact .float (above _ (.float number))
  · intro isNonNegative
    cases isNonNegative with
    | int above =>
        refine .inr ⟨.whole _, fun measured measures => ?_⟩
        cases measures
        exact Binary64.zero_le_ofInt_iff.mpr above
    | float above =>
        refine .inr ⟨.decimal _, fun measured measures => ?_⟩
        cases measures
        exact above

theorem demands_mapping : Demands config (record []) IsMapping := demands_tolerant fieldsDemand_nil

theorem demands_button : Demands config buttonNode (IsMappingWith IsButton) := by
  have fields : FieldsDemand config [mayHave "title" text, mayHave "payload" text] _ :=
    .optional demands_text (.optional demands_text fieldsDemand_nil)
  exact demands_tolerant (fields.congr fun entries => by simp [isButton_iff])

theorem demands_variation : Demands config variationNode (IsMappingWith IsVariation) := by
  have fields : FieldsDemand config [mayHave "text" text, mayHave "image" text,
      mayHave "channel" text, mayHave "custom" (record []),
      mayHave "buttons" (listOf buttonNode)] _ :=
    .optional demands_text (.optional demands_text (.optional demands_text
      (.optional demands_mapping (.optional (demands_listOf demands_button) fieldsDemand_nil))))
  exact demands_tolerant (fields.congr fun entries => by simp [isVariation_iff])

theorem demands_responses : Demands config responsesNode (IsMappingWith IsResponses) :=
  demands_matching lineOfText_isMatch (demands_listOf demands_variation)

theorem demands_intents :
    Demands config
      (describedTexts [mayHave "use_entities" anything, mayHave "ignore_entities" anything])
      (IsListOf fun item => IsMapping item ∨ IsText item) := by
  have fields : FieldsDemand config
      [mayHave "use_entities" anything, mayHave "ignore_entities" anything] _ :=
    .optional demands_anything (.optional demands_anything fieldsDemand_nil)
  refine demands_listOfEither (demands_tolerant (fields.congr fun entries => ?_)) demands_text
  simp [Entries.Optional]

theorem demands_entities :
    Demands config
      (describedTexts [mayHave "roles" (listOf text), mayHave "groups" (listOf text)])
      (IsListOf fun item => IsMappingWith IsEntity item ∨ IsText item) := by
  have texts : Demands config (listOf text) (IsListOf IsText) := demands_listOf demands_text
  have fields : FieldsDemand config
      [mayHave "roles" (listOf text), mayHave "groups" (listOf text)] _ :=
    .optional texts (.optional texts fieldsDemand_nil)
  refine demands_listOfEither (demands_tolerant (fields.congr fun entries => ?_)) demands_text
  simp [isEntity_iff]

theorem demands_form : Demands config formNode (IsMappingWith IsForm) := by
  have fields : FieldsDemand config
      [mayHave "required_slots" (record []), mayHave "ignored_intents" anything] _ :=
    .optional demands_mapping (.optional demands_anything fieldsDemand_nil)
  refine (demands_strict fields).congr fun value => exists_congr fun entries =>
    and_congr_right fun _ => ?_
  simp [isForm_iff, Entries.Optional, mayHave]

theorem demands_forms : Demands config (keyed letters formNode) (IsMappingWith IsForms) :=
  demands_matching letters_isMatch demands_form

theorem demands_config :
    Demands config (record [mayHave "store_entities_as_slots" flag])
      (IsMappingWith fun entries => entries.Optional "store_entities_as_slots" IsFlag) := by
  have fields : FieldsDemand config [mayHave "store_entities_as_slots" flag] _ :=
    .optional demands_flag fieldsDemand_nil
  exact demands_tolerant (fields.congr fun entries => by simp)

theorem demands_session : Demands config sessionNode (IsMappingWith IsSession) := by
  have fields : FieldsDemand config [mayHave "session_expiration_time" nonNegative,
      mayHave "carry_over_slots_to_new_session" flag] _ :=
    .optional demands_nonNegative (.optional demands_flag fieldsDemand_nil)
  exact demands_tolerant (fields.congr fun entries => by simp [isSession_iff])

theorem demands_tree : Demands config tree (IsMappingWith IsDomain) := by
  have fields : FieldsDemand config sections _ :=
    .optional demands_filledText <| .required demands_intents <| .required demands_entities <|
      .required (demands_listOf demands_text) <| .required (demands_included demands_responses) <|
        .required demands_mapping <| .optional demands_forms <| .required demands_config <|
          .required demands_session fieldsDemand_nil
  exact demands_tolerant (fields.congr fun entries => by simp [isDomain_iff])

end Nodes

theorem tree_varied : tree.Varied := by
  simp [tree, sections, record, describedTexts, listOf, keyed, has, mayHave, filledText, text, flag,
    anything, responsesNode, variationNode, buttonNode, formNode, sessionNode, nonNegative]

/-- The contract accepts a plain document exactly when it is a mapping with the sections of a
domain file. -/
theorem validate_eq_nil_iff {document : Value} (untagged : document.untagged = true)
    (distinct : document.Distinct) :
    validate document = .ok [] ↔ ∃ entries : Entries, document = .map entries ∧ IsDomain entries := by
  have outcome : validate document = .ok (Schema.validate ⟨tree, .empty, .standard⟩ document) := by
    rw [validate, schema_eq]
    rfl
  rw [outcome, Except.ok.injEq, Schema.validate_eq_nil_iff_conforms _ tree_varied]
  exact demands_tree document ⟨untagged, distinct⟩

/-- A file with a response under a number and a form under a word. -/
def smallFile : Value := mapping
  [("intents", .seq [.string "greet", mapping [("order", .null)]]),
    ("entities", .seq [mapping [("roles", .seq [.string "from", .string "to"])]]),
    ("actions", .seq []),
    ("responses", .map [(.int 7, .seq [mapping [("text", .string "hello")]])]),
    ("slots", mapping []),
    ("forms", mapping [("order", mapping [("ignored_intents", .string "greet")])]),
    ("config", mapping [("store_entities_as_slots", .bool true)]),
    ("session_config", mapping [("session_expiration_time", .int 60)])]

theorem validate_eq_nil_iff_smallFile :
    smallFile.untagged = true ∧ smallFile.Distinct ∧
      ∃ entries : Entries, smallFile = .map entries ∧ IsDomain entries := by
  have untagged : smallFile.untagged = true := by decide +kernel
  have distinct : smallFile.Distinct := by
    simp [smallFile, mapping, Value.Distinct, everywhere_map_iff, everywhere_seq_iff,
      everywhere_scalar, Entries.Distinct, Value.same]
  have accepted : (validate smallFile).toOption.any List.isEmpty = true := by decide +kernel
  have clean : validate smallFile = .ok [] := by
    cases outcome : validate smallFile with
    | error error =>
        rw [outcome] at accepted
        cases accepted
    | ok found =>
        rw [outcome] at accepted
        rw [List.isEmpty_iff.mp accepted]
  exact ⟨untagged, distinct, (validate_eq_nil_iff untagged distinct).mp clean⟩

end DocShape.Domain
