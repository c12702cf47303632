import DocShape.Proofs.Validation.Evidence
import DocShape.Proofs.Validation.Wording
import DocShape.Proofs.Violation.Lines
import DocShape.Report

namespace DocShape

/-! How many lines the violations of a document take.

Beyond a line for each part of a violation there are only those that the document's keys break:
a key is written as it stands in a path where it needs no quotes, and where it is called
unexpected.
-/

theorem Segment.oneLine_text_iff (isFirst : Bool) (segment : Segment) :
    Text.OneLine (segment.text isFirst) ↔
      ∀ name, segment = .key name → needsQuotes name = false → Text.OneLine name := by
  cases segment with
  | index position =>
      simp only [text, Text.oneLine_append_iff]
      refine iff_of_true ⟨⟨by decide, Text.oneLine_nat _⟩, by decide⟩ fun _ isKey => ?_
      cases isKey
  | key name =>
      have separator : Text.OneLine (if isFirst then "" else ".") := by
        cases isFirst <;> decide
      simp only [text, Text.oneLine_append_iff, separator, true_and, Segment.key.injEq,
        forall_eq', keyText]
      cases needsQuotes name with
      | true => simp [Text.oneLine_quoted]
      | false => simp

/-- Only a key that needs no quotes can break the line of a path. -/
theorem DocPath.oneLine_text_iff (path : DocPath) :
    Text.OneLine path.text ↔
      ∀ name, .key name ∈ path → Segment.needsQuotes name = false → Text.OneLine name := by
  cases path with
  | nil => exact iff_of_true (by decide +kernel) fun _ member => absurd member List.not_mem_nil
  | cons first later =>
      have ofSteps : Text.OneLine (text (first :: later)) ↔
          Text.OneLine (first.text true) ∧ ∀ step ∈ later, Text.OneLine (step.text false) := by
        simp only [Text.OneLine, toList_text_cons, tailText, List.mem_append, List.mem_flatMap,
          not_or, not_exists, not_and]
      simp only [ofSteps, Segment.oneLine_text_iff]
      constructor
      · intro each name member
        obtain ⟨ofFirst, ofLater⟩ := each
        rcases List.mem_cons.mp member with isFirst | isLater
        · exact ofFirst name isFirst.symm
        · exact ofLater _ isLater name rfl
      · intro each
        refine ⟨fun name isFirst => each name (isFirst ▸ List.mem_cons_self), ?_⟩
        rintro step isLater name rfl
        exact each name (List.mem_cons_of_mem _ isLater)

/-- A mapping in the document has a key that is this text, also below tags. -/
def Value.HasKey (document : Value) (name : String) : Prop :=
  ∃ path holder entries key stored, document.Reaches path holder ∧
    holder.content = .map entries ∧ (key, stored) ∈ entries ∧ key.content = .string name

/-- A key on the way through a document is a key of the document, or one of a single line that
stands for it. -/
theorem Value.Reaches.oneLine_or_hasKey {document found : Value} {path : DocPath} {name : String}
    (reached : document.Reaches path found) (member : .key name ∈ path) :
    Text.OneLine name ∨ document.HasKey name := by
  induction reached with
  | top => cases member
  | @key above holder key stored entries upTo mapping inEntries ofAbove =>
      rcases List.mem_append.mp member with inAbove | isLast
      · exact ofAbove inAbove
      · obtain rfl : name = key.keyText := by simpa using isLast
        refine key.oneLine_keyText_or.imp_right fun spelled => ?_
        exact ⟨above, holder, entries, key, stored, upTo, mapping, inEntries, spelled⟩
  | index _ _ _ ofAbove =>
      rcases List.mem_append.mp member with inAbove | isLast
      · exact ofAbove inAbove
      · simp at isLast

namespace Violation

variable {document : Value} {violation : Violation} {name : String}

/-- The violation writes the key as it stands: on its path, where the key needs no quotes, or
because the key is unexpected. -/
inductive WritesBare (violation : Violation) (name : String) : Prop where
  | onPath (member : .key name ∈ violation.path) (unquoted : Segment.needsQuotes name = false)
  | unexpected (kind : violation.kind = .unexpectedField)
      (last : violation.path.getLast? = some (.key name))

theorem Truthful.parts (truthful : violation.Truthful document) :
    ∀ part ∈ violation.parts, part.Truthful document := by
  induction truthful with
  | mk tells explained below truthful ofCause =>
      rw [parts_mk]
      refine List.forall_mem_cons.mpr ⟨.mk tells explained below truthful, fun part member => ?_⟩
      obtain ⟨cause, inCauses, inCause⟩ := List.mem_flatMap.mp member
      exact ofCause cause inCauses part inCause

theorem Truthful.tells (truthful : violation.Truthful document) :
    violation.kind.Tells document violation.path violation.actual := by
  cases truthful with
  | mk tells => exact tells

/-- The line of a violation is broken by the keys that it writes as they stand, and by nothing
else. -/
theorem Worded.oneLine_title_iff (worded : violation.Worded)
    (truthful : violation.Truthful document) :
    Text.OneLine violation.title ↔ ∀ name, violation.WritesBare name → Text.OneLine name := by
  rw [Violation.oneLine_title_iff, DocPath.oneLine_text_iff]
  have tells := truthful.tells
  constructor
  · intro ⟨ofPath, _, ofActual⟩ name bare
    cases bare with
    | onPath member unquoted => exact ofPath name member unquoted
    | unexpected kind last =>
        rw [kind] at tells
        obtain ⟨above, key, _, path, _, actual⟩ := tells
        obtain rfl : key = name := by simpa [path] using last
        rw [actual, Text.oneLine_append_iff, Text.oneLine_append_iff] at ofActual
        exact ofActual.1.2
  · intro each
    refine ⟨fun name member unquoted => each name (.onPath member unquoted), worded.expected, ?_⟩
    by_cases kind : violation.kind = .unexpectedField
    · rw [kind] at tells
      obtain ⟨above, key, _, path, _, actual⟩ := tells
      have ofKey := each key (.unexpected kind (by simp [path]))
      rw [actual, Text.oneLine_append_iff, Text.oneLine_append_iff]
      exact ⟨⟨by decide, ofKey⟩, by decide⟩
    · exact worded.actual kind

theorem WritesBare.mem_path (bare : violation.WritesBare name) : .key name ∈ violation.path := by
  cases bare with
  | onPath member => exact member
  | unexpected _ last => exact List.mem_of_getLast? last

/-- A key that breaks a line comes from the document. -/
theorem Worded.oneLine_or_hasKey (worded : violation.Worded)
    (truthful : violation.Truthful document) (member : .key name ∈ violation.path) :
    Text.OneLine name ∨ document.HasKey name := by
  have tells := truthful.tells
  have ofReached : (∃ found, document.Reaches violation.path found) →
      Text.OneLine name ∨ document.HasKey name :=
    fun ⟨_, reached⟩ => reached.oneLine_or_hasKey member
  cases kind : violation.kind with
  | missingField =>
      rw [kind] at tells
      obtain ⟨above, last, holder, _, path, reached, _⟩ := tells
      rw [path, List.mem_append, List.mem_singleton, Segment.key.injEq] at member
      rcases member with inAbove | rfl
      · exact reached.oneLine_or_hasKey inAbove
      · exact .inl (worded.missing kind name (by simp [path]))
  | unexpectedField =>
      rw [kind] at tells
      obtain ⟨_, _, found, _, reached, _⟩ := tells
      exact ofReached ⟨found, reached⟩
  | _ =>
      rw [kind] at tells
      obtain ⟨found, reached, _⟩ := tells
      exact ofReached ⟨found, reached⟩

end Violation

namespace Report

theorem toList_indented (text : String) :
    (indented text).toList = ' ' :: ' ' :: text.toList.flatMap fun character =>
      if character = '\n' then "\n  ".toList else [character] := by
  simp only [indented, String.toList_append, String.toList_ofList]
  rfl

/-- Setting a text off to the right makes no line more or less. -/
theorem length_lines_indented (text : String) :
    (Text.lines (indented text)).length = (Text.lines text).length := by
  have counted (characters : List Char) :
      (characters.flatMap fun character =>
        if character = '\n' then "\n  ".toList else [character]).count '\n' =
        characters.count '\n' := by
    induction characters with
    | nil => rfl
    | cons character rest inRest =>
        rw [List.flatMap_cons, List.count_append, inRest, List.count_cons, Nat.add_comm]
        by_cases isBreak : character = '\n' <;> simp [isBreak]
  rw [Text.length_lines, Text.length_lines, toList_indented, List.count_cons_of_ne (by decide),
    List.count_cons_of_ne (by decide), counted]

end Report

namespace Schema

/-- Under a schema with names and patterns of one line, what a violation tells has a line for each
of its parts, also in a report, exactly when no key that is written as it stands breaks its
line.  A key that does is one of the document. -/
theorem validate_lines (schema : Schema) (ofRoot : schema.root.OneLine) (document : Value) :
    ∀ violation ∈ schema.validate document,
      (Text.lines (Report.indented violation.text)).length =
          (Text.lines violation.text).length ∧
        ((Text.lines violation.text).length = violation.parts.length ↔
          ∀ part ∈ violation.parts, ∀ name, part.WritesBare name → Text.OneLine name) ∧
        ∀ part ∈ violation.parts, ∀ name, part.WritesBare name →
          Text.OneLine name ∨ document.HasKey name := by
  intro violation reported
  have traced := Validation.check_traces schema.root [] document violation reported
  have worded := traced.worded ofRoot
  have truthful := (traced.truthful .top).2.parts
  refine ⟨Report.length_lines_indented violation.text, ?_, fun part member name bare => ?_⟩
  · rw [Violation.length_lines_text_eq_iff]
    exact forall₂_congr fun part member =>
      (worded part member).oneLine_title_iff (truthful part member)
  · exact (worded part member).oneLine_or_hasKey (truthful part member) bare.mem_path

/-- A name and an element of two lines each, both of another kind than declared. -/
theorem validate_lines_values :
    let sizes : Node := .seq [.scalar (.ofKind .int), .scalar (.ofKind .bool)] .any
    let name : Field Node := ⟨.literal "name", true, .scalar (.ofKind .int)⟩
    let schema := Schema.ofNode (.map [name, ⟨.literal "sizes", true, sizes⟩] false)
    let document : Value := .map [(.string "name", .string "a\nb"),
      (.string "sizes", .seq [.string "c\nd"])]
    schema.root.OneLine ∧ ∃ ofName ofElement,
      schema.validate document = [ofName, ofElement] ∧
        (Text.lines ofName.text).length = 1 ∧ (Text.lines ofElement.text).length = 2 := by
  intro sizes name schema document
  have leaf (kind : Kind) : (Node.scalar (.ofKind kind)).OneLine := .scalar nofun
  have ofSizes : sizes.OneLine := .seq (by simp [leaf])
  have ofRoot : schema.root.OneLine :=
    .map (by decide) (by simp [name, leaf, ofSizes])
  obtain ⟨ofName, ofElement, found⟩ : ∃ ofName ofElement,
      schema.validate document = [ofName, ofElement] := ⟨_, _, rfl⟩
  have plain (violation : Violation)
      (steps : ∀ part ∈ violation.parts, ∀ step ∈ part.path,
        step ∈ [.key "name", .key "sizes", .index 0]) :
      ∀ part ∈ violation.parts, ∀ name, part.WritesBare name → Text.OneLine name := by
    intro part member name bare
    have known := steps part member _ bare.mem_path
    simp only [List.mem_cons, Segment.key.injEq, List.not_mem_nil, reduceCtorEq, or_false] at known
    rcases known with rfl | rfl <;> decide
  have told := validate_lines schema ofRoot document
  rw [found, List.forall_mem_cons, List.forall_mem_singleton] at told
  cases found
  exact ⟨ofRoot, _, _, rfl, told.1.2.1.mpr (plain _ (by decide +kernel)),
    told.2.2.1.mpr (plain _ (by decide +kernel))⟩

/-- An unexpected key of two lines breaks the line of its violation twice. -/
theorem key_breaks_line :
    let schema := Schema.ofNode (.map [] false)
    let document : Value := .map [(.string "a\nb", .null)]
    schema.root.OneLine ∧ ∃ violation, schema.validate document = [violation] ∧
      violation.parts.length = 1 ∧ (Text.lines violation.text).length = 3 ∧
        (Text.lines (Report.indented violation.text)).length = 3 :=
  ⟨.map nofun nofun, _, rfl, rfl, by decide +kernel, by decide +kernel⟩

end Schema
end DocShape
