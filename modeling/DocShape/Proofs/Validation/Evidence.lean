import DocShape.Proofs.Validation.Reported
import DocShape.Schema

namespace DocShape

/-! What every violation says about the document: its path leads through the document, and
what is found there is what the violation tells.
-/

/-- Following the path from the top of the document, through tags, can lead to the value.  A
key leads to any entry of its text. -/
inductive Value.Reaches (document : Value) : DocPath → Value → Prop where
  | top : Reaches document [] document
  | key {path : DocPath} {holder key stored : Value} {entries : Entries}
      (upTo : Reaches document path holder) (mapping : holder.content = .map entries)
      (member : (key, stored) ∈ entries) : Reaches document (path ++ [.key key.keyText]) stored
  | index {path : DocPath} {holder item : Value} {items : List Value} {position : Nat}
      (upTo : Reaches document path holder) (sequence : holder.content = .seq items)
      (found : items[position]? = some item) : Reaches document (path ++ [.index position]) item

/-- What a violation of this kind tells of the place where it stands. -/
def ViolationKind.Tells (document : Value) (path : DocPath) (actual : String) :
    ViolationKind → Prop
  | .missingField =>
      ∃ above name holder entries, path = above ++ [.key name] ∧ document.Reaches above holder ∧
        holder.content = .map entries ∧ ∀ entry ∈ entries, entry.1.content ≠ .string name
  | .unexpectedField =>
      ∃ above name found, path = above ++ [.key name] ∧ document.Reaches path found ∧
        actual = "key `" ++ name ++ "`"
  | .emptyValue => ∃ found, document.Reaches path found ∧ found.content = .string ""
  | .typeMismatch | .patternMismatch | .enumMismatch | .rangeViolation | .elementMismatch =>
      ∃ found, document.Reaches path found ∧ found.summary = actual

/-- The violation tells the truth about the document, and so do all its causes.  It has causes
if it is about the shapes of an element, and they stand at or below its place. -/
inductive Violation.Truthful (document : Value) : Violation → Prop where
  | mk {path : DocPath} {kind : ViolationKind} {expected actual : String}
      {causes : List Violation} (tells : kind.Tells document path actual)
      (explained : causes ≠ [] ↔ kind = .elementMismatch)
      (below : ∀ cause ∈ causes, path <+: cause.path)
      (truthful : ∀ cause ∈ causes, Truthful document cause) :
      Truthful document (.mk path kind expected actual causes)

namespace Validation

variable {config : Config} {document value : Value} {path : DocPath} {violation : Violation}

/-- All violations tell the truth, and none stands outside of this place. -/
def Supported (document : Value) (path : DocPath) (outcome : List Violation) : Prop :=
  ∀ violation ∈ outcome, path <+: violation.path ∧ violation.Truthful document

/-- A violation without causes is truthful if it tells the truth. -/
theorem truthful_alone {kind : ViolationKind} {expected actual : String}
    (simple : kind ≠ .elementMismatch) (tells : kind.Tells document path actual) :
    (Violation.mk path kind expected actual []).Truthful document :=
  .mk tells (by simp [simple]) nofun nofun

theorem mismatch_truthful (reached : document.Reaches path value) (expected : String) :
    (mismatch path expected value.content).Truthful document :=
  truthful_alone (by simp) ⟨value, reached, (Value.summary_content value).symm⟩

theorem LeafFault.truthful {leaf : Scalar} (fault : LeafFault path leaf value.content violation)
    (reached : document.Reaches path value) :
    path <+: violation.path ∧ violation.Truthful document := by
  have same := (Value.summary_content value).symm
  generalize content : value.content = looked at fault same
  cases fault with
  | kind => exact ⟨List.prefix_refl path, truthful_alone (by simp) ⟨value, reached, same⟩⟩
  | empty => exact ⟨List.prefix_refl path, truthful_alone (by simp) ⟨value, reached, content⟩⟩
  | pattern => exact ⟨List.prefix_refl path, truthful_alone (by simp) ⟨value, reached, same⟩⟩
  | allowed => exact ⟨List.prefix_refl path, truthful_alone (by simp) ⟨value, reached, same⟩⟩
  | range => exact ⟨List.prefix_refl path, truthful_alone (by simp) ⟨value, reached, same⟩⟩

theorem Reported.truthful {node : Node} (reported : Reported node path value violation)
    (reached : document.Reaches path value) :
    path <+: violation.path ∧ violation.Truthful document := by
  have onward {path : DocPath} {step : Segment} {violation : Violation}
      (inside : path ++ [step] <+: violation.path) : path <+: violation.path :=
    (List.prefix_append path [step]).trans inside
  induction reported with
  | notMap => exact ⟨List.prefix_refl _, mismatch_truthful reached "map"⟩
  | missing mapping _ _ _ absent =>
      refine ⟨List.prefix_append _ _, truthful_alone (by simp) ?_⟩
      exact ⟨_, _, _, _, rfl, reached, mapping, literalValue?_eq_none_iff.mp absent⟩
  | literal mapping _ _ found _ ofBelow =>
      obtain ⟨key, inEntries, spelled⟩ := (literalValue?_eq_some_iff.mp found).mem
      have below := Value.Reaches.key reached mapping inEntries
      rw [Value.keyText_of_spelled spelled] at below
      exact (ofBelow below).imp_left onward
  | unexpected mapping inEntries _ =>
      refine ⟨List.prefix_append _ _, truthful_alone (by simp) ?_⟩
      exact ⟨_, _, _, rfl, .key reached mapping inEntries, rfl⟩
  | pattern mapping inEntries _ _ _ ofBelow =>
      exact (ofBelow (.key reached mapping inEntries)).imp_left onward
  | notSeq => exact ⟨List.prefix_refl _, mismatch_truthful reached "seq"⟩
  | only sequence found _ ofBelow =>
      exact (ofBelow (.index reached sequence found)).imp_left onward
  | element sequence found present _ _ ofCause =>
      have below := Value.Reaches.index reached sequence found
      refine ⟨List.prefix_append _ _, .mk ⟨_, below, rfl⟩ (by simp [present]) ?_ ?_⟩
      · exact fun cause member => (ofCause cause member below).1
      · exact fun cause member => (ofCause cause member below).2
  | leaf fault => exact fault.truthful reached
  | included _ ofBelow => exact ofBelow reached

/-- What is reported about a value of the document, wherever it stands, is true of it. -/
def Supports (config : Config) (document : Value) (node : Node) : Prop :=
  ∀ path value, document.Reaches path value → Supported document path (check config path node value)

theorem check_supported (node : Node) : Supports config document node :=
  fun path value reached violation member =>
    (check_traces node path value violation member).truthful reached

end Validation

/-- Every violation in a report, and every cause at any depth, tells the truth about the
document. -/
theorem Schema.validate_truthful (schema : Schema) (document : Value) :
    ∀ violation ∈ schema.validate document, violation.Truthful document := by
  intro violation member
  exact (Validation.check_supported schema.root [] document .top violation member).2

/-- An element under a tagged key with none of its shapes, and a field that is missing. -/
theorem Schema.validate_truthful_nested :
    let sizes : Node := .seq [.scalar (.ofKind .int), .scalar (.ofKind .bool)] .any
    let name : Field Node := ⟨.literal "name", true, .scalar (.ofKind .str)⟩
    let schema := Schema.ofNode (.map [⟨.literal "sizes", true, sizes⟩, name] false)
    let document : Value := .map [(.tagged "!mark" (.string "sizes"), .seq [.string "wide"])]
    ∃ mismatch missing, schema.validate document = [mismatch, missing] ∧
      mismatch.Truthful document ∧ missing.Truthful document := by
  intro sizes name schema document
  obtain ⟨mismatch, missing, found⟩ : ∃ mismatch missing,
      schema.validate document = [mismatch, missing] := ⟨_, _, rfl⟩
  have truthful := validate_truthful schema document
  rw [found] at truthful
  exact ⟨mismatch, missing, found, truthful mismatch (by simp), truthful missing (by simp)⟩

end DocShape
