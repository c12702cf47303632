import DocShape.Proofs.Stripped
import DocShape.Proofs.Tree
import DocShape.Proofs.Validation.Outcomes
import DocShape.Schema
import Mathlib.Data.List.Basic

namespace DocShape

/-! Validation does not see tags: without them a document gets the same report, as long as no
two keys of one mapping become equal.
-/

namespace Validation

open Value

variable {config : Config} {path : DocPath} {fields : List (Field Node)} {entries : Entries}

theorem claims_stripped (key : Value) : claims fields key.stripped = claims fields key := by
  unfold claims
  rw [content_stripped]
  cases found : key.content with
  | tagged tag inner => exact absurd found (content_ne_tagged key tag inner)
  | _ => rfl

theorem namesOnce_of_apart (apart : (strippedEntries entries).Distinct) : entries.NamesOnce := by
  rw [strippedEntries_eq_map, Entries.Distinct, List.pairwise_map] at apart
  refine apart.imp fun {left right} different name spelled again => ?_
  have first := stripped_eq_string_iff.mpr spelled
  have second := stripped_eq_string_iff.mpr again
  simp [strippedEntry, first, second, Value.same] at different

theorem spelled_stripped_iff {key : Value} {name : String} :
    key.stripped.content = .string name ↔ key.content = .string name := by
  rw [← isNamed_iff, ← isNamed_iff, isNamed_stripped]

theorem namesOnce_stripped (once : entries.NamesOnce) : (strippedEntries entries).NamesOnce := by
  rw [strippedEntries_eq_map, Entries.NamesOnce, List.pairwise_map]
  refine once.imp fun {left right} apart name spelled again => ?_
  exact apart name (spelled_stripped_iff.mp spelled) (spelled_stripped_iff.mp again)

/-- Where no two keys become equal, a name leads to the only key that spells it. -/
theorem literalValue?_stripped (apart : (strippedEntries entries).Distinct) (name : String) :
    literalValue? (strippedEntries entries) name = stripped <$> literalValue? entries name := by
  have once := namesOnce_of_apart apart
  refine Option.ext fun stored => ?_
  rw [literalValue?_eq_some_iff_mem (namesOnce_stripped once), Option.map_eq_map,
    Option.map_eq_some_iff]
  simp only [literalValue?_eq_some_iff_mem once, strippedEntries_eq_map, List.mem_map,
    strippedEntry, Prod.mk.injEq]
  constructor
  · rintro ⟨_, ⟨entry, member, rfl, rfl⟩, spelled⟩
    exact ⟨entry.2, ⟨entry.1, member, spelled_stripped_iff.mp spelled⟩, rfl⟩
  · rintro ⟨found, ⟨key, member, spelled⟩, rfl⟩
    exact ⟨_, ⟨(key, found), member, rfl, rfl⟩, spelled_stripped_iff.mpr spelled⟩

theorem mismatch_stripped (expected : String) (value : Value) :
    mismatch path expected value.stripped = mismatch path expected value := by
  unfold mismatch
  rw [summary_stripped]

/-- The constraints of a leaf apply to scalars, in which no tag is left. -/
theorem scalarViolations_stripped (leaf : Scalar) (value : Value) :
    scalarViolations path leaf value.content.stripped =
      scalarViolations path leaf value.content := by
  cases found : value.content with
  | tagged tag inner => exact absurd found (content_ne_tagged value tag inner)
  | seq items =>
      rw [scalarViolations_of_unlike leaf (.inr ⟨items, rfl⟩), ← mismatch_stripped,
        scalarViolations_of_unlike leaf (.inr ⟨strippedItems items, by rw [stripped]⟩)]
  | map entries =>
      rw [scalarViolations_of_unlike leaf (.inl ⟨entries, rfl⟩), ← mismatch_stripped,
        scalarViolations_of_unlike leaf (.inl ⟨strippedEntries entries, by rw [stripped]⟩)]
  | _ => rfl

/-- The report on a value is the same for the value without its tags. -/
def Overlooks (config : Config) (node : Node) : Prop :=
  ∀ path value, value.Apart → check config path node value.stripped = check config path node value

theorem literalViolations_stripped {field : Field Node} (overlooks : Overlooks config field.node)
    (keysApart : (strippedEntries entries).Distinct)
    (below : ∀ entry ∈ entries, entry.2.Apart) :
    literalViolations config path (strippedEntries entries) field =
      literalViolations config path entries field := by
  unfold literalViolations
  cases field.key.literal? with
  | none => rfl
  | some name =>
      simp only [literalValue?_stripped keysApart]
      cases found : literalValue? entries name with
      | none => rfl
      | some stored =>
          obtain ⟨key, member, _⟩ := (literalValue?_eq_some_iff.mp found).mem
          exact overlooks _ stored (below _ member)

theorem patternViolations_stripped {allowEmpty : Bool} {entry : Value × Value}
    (overlooks : ∀ field ∈ fields, Overlooks config field.node) (apart : entry.2.Apart) :
    patternViolations config path fields allowEmpty (strippedEntry entry) =
      patternViolations config path fields allowEmpty entry := by
  unfold patternViolations strippedEntry
  rw [keyText_stripped]
  refine congrArg _ (List.map_congr_left fun field applies => ?_)
  exact overlooks field (mem_of_mem_applicable applies) _ entry.2 apart

theorem map_overlooks {allowEmpty : Bool} (ofField : ∀ field ∈ fields, Overlooks config field.node) :
    Overlooks config (.map fields allowEmpty) := by
  intro path value apart
  by_cases mapping : ∃ entries : Entries, value.content = .map entries
  · obtain ⟨entries, mapping⟩ := mapping
    have stripped := stripped_eq_map_iff.mpr ⟨entries, mapping, rfl⟩
    have inside := Everywhere.content apart
    rw [mapping, everywhere_map_iff] at inside
    obtain ⟨keysApart, below⟩ := inside
    have literal (field : Field Node) (member : field ∈ fields) :
        literalViolations config path (strippedEntries entries) field =
          literalViolations config path entries field :=
      literalViolations_stripped (ofField field member) keysApart
        fun entry member => (below entry member).2
    rw [check_map stripped, check_map mapping, List.flatMap_congr literal,
      strippedEntries_eq_map, List.flatMap_map]
    refine congrArg _ (List.flatMap_congr fun entry member => ?_)
    rw [patternViolations_stripped ofField (below entry member).2]
    simp only [strippedEntry, claims_stripped]
  · have unmapped (entries : Entries) : value.stripped.content ≠ .map entries := by
      intro found
      obtain ⟨original, isMap, _⟩ := stripped_eq_map_iff.mp found
      exact mapping ⟨original, isMap⟩
    rw [check_map_of_not_map unmapped, check_map_of_not_map (not_exists.mp mapping),
      content_stripped, mismatch_stripped]

theorem seq_overlooks {variants : List Node} {matching : Matching}
    (ofVariant : ∀ variant ∈ variants, Overlooks config variant) :
    Overlooks config (.seq variants matching) := by
  intro path value apart
  by_cases sequence : ∃ items, value.content = .seq items
  · obtain ⟨items, sequence⟩ := sequence
    have stripped := stripped_eq_seq_iff.mpr ⟨items, sequence, rfl⟩
    have inside := Everywhere.content apart
    rw [sequence, everywhere_seq_iff] at inside
    have ofElement (element : Value × Nat) (member : element ∈ items.zipIdx)
        (variant : Node) (isVariant : variant ∈ variants) (path : DocPath) :
        check config path variant element.1.stripped = check config path variant element.1 :=
      ofVariant variant isVariant path element.1
        (inside element.1 (List.fst_mem_of_mem_zipIdx member))
    by_cases single : variants.length = 1
    · obtain ⟨only, rfl⟩ := List.length_eq_one_iff.mp single
      rw [check_seq_one stripped, check_seq_one sequence, strippedItems_eq_map,
        List.zipIdx_map, List.flatMap_map]
      refine List.flatMap_congr fun element member => ?_
      exact ofElement element member only (by simp) _
    · rw [check_seq_several single stripped, check_seq_several single sequence,
        strippedItems_eq_map, List.zipIdx_map, List.flatMap_map]
      refine List.flatMap_congr fun element member => ?_
      simp only [elementViolations, Prod.map, id_eq, summary_stripped]
      rw [List.map_congr_left fun variant isVariant =>
        ofElement element member variant isVariant _]
  · have unlisted (items : List Value) : value.stripped.content ≠ .seq items := by
      intro found
      obtain ⟨original, isSeq, _⟩ := stripped_eq_seq_iff.mp found
      exact sequence ⟨original, isSeq⟩
    rw [check_seq_of_not_seq unlisted, check_seq_of_not_seq (not_exists.mp sequence),
      content_stripped, mismatch_stripped]

theorem check_overlooks (node : Node) : Overlooks config node := by
  induction node using Node.induction with
  | map fields allowEmpty ofField => exact map_overlooks ofField
  | seq variants matching ofVariant => exact seq_overlooks ofVariant
  | scalar leaf =>
      intro path value _
      rw [check_scalar, check_scalar, content_stripped, scalarViolations_stripped]
  | included name target ofTarget =>
      intro path value apart
      rw [check_included, check_included]
      exact ofTarget path value apart

end Validation

/-- A document and the same document without tags get the same report. -/
theorem Schema.validate_stripped (schema : Schema) {document : Value} (apart : document.Apart) :
    schema.validate document.stripped = schema.validate document :=
  Validation.check_overlooks schema.root [] document apart

/-- Tags on keys and values, none of which a report shows. -/
theorem Schema.validate_stripped_tagged :
    let sizes : Node := .seq [.scalar (.ofKind .int), .scalar (.ofKind .bool)] .any
    let schema := Schema.ofNode (.map [⟨.literal "sizes", true, sizes⟩] false)
    let document : Value := .map
      [(.tagged "!mark" (.string "sizes"),
          .seq [.tagged "!wide" (.int 1), .tagged "!tall" (.string "two")]),
        (.tagged "!mark" (.int 3), .null)]
    document.Apart ∧ (schema.validate document).length = 2 ∧
      schema.validate document.stripped = schema.validate document := by
  intro sizes schema document
  have apart : document.Apart := by
    simp [document, Value.Apart, Value.everywhere_map_iff, Value.everywhere_seq_iff,
      Value.everywhere_tagged_iff, Value.everywhere_scalar, Value.strippedEntries, Value.stripped,
      Value.strippedItems, Entries.Distinct, Value.same]
  exact ⟨apart, rfl, validate_stripped schema apart⟩

end DocShape
