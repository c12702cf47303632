import DocShape.Proofs.Grammar.Keywords

namespace DocShape

/-! The forms that the keywords of a definition can take together: an include, a map, a
sequence or a scalar. -/

/-- The definitions that stand inside a definition. -/
inductive Outline where
  | included (name : String)
  | map (fields : Entries)
  | seq (variants : List Value)
  | scalar

namespace Grammar

/-- The keys are keywords, and a description is a string. -/
structure IsKeyed (entries : Entries) : Prop where
  known : entries.KeyedBy ("desc" :: Heading.keywords)
  described : ∀ stored, entries.get? "desc" = some stored → ∃ text, stored = .string text

/-- A written type is one of these. -/
def IsTyped (entries : Entries) (names : List String) : Prop :=
  ∃ name ∈ names, entries.get? "type" = some (.string name)

/-- A list of values that a scalar may have. -/
def IsChoice (choices : Value) : Prop :=
  ∃ items, choices = .seq items ∧ items ≠ [] ∧ ∀ item ∈ items, Heading.isContainer item = false

def IsPattern (source : String) : Prop := ∃ pattern, Pattern.compile? source = some pattern

/-- The keywords of a scalar, which say nothing about other kinds of nodes. -/
structure IsScalar (entries : Entries) (kind : Kind) : Prop where
  lacks : entries.Lacks ["include", "mapping", "map", "sequence", "seq", "matching"]
  flagged : entries.Flagged "allowempty"
  filled : entries.get? "allowempty" = some (.bool false) → kind = .str
  range : ∀ bounds, entries.get? "range" = some bounds →
    kind.supportsRange = true ∧ IsRange bounds
  choice : ∀ choices, entries.get? "enum" = some choices → kind ≠ .any ∧ IsChoice choices
  pattern : ∀ written, entries.get? "pattern" = some written →
    kind = .str ∧ ∃ source, written = .string source ∧ IsPattern source

inductive Form (entries : Entries) : Outline → Prop where
  | included {name : String} (target : entries.get? "include" = some (.string name))
      (alone : entries.KeyedBy ["include", "required", "desc"]) : Form entries (.included name)
  | map {fields : Entries}
      (typed : IsTyped entries ["map", "mapping"] ∨
        entries.get? "type" = none ∧ ¬ entries.Lacks ["mapping", "map"])
      (lacks : entries.Lacks ["include", "sequence", "seq", "matching", "range", "enum", "pattern"])
      (flagged : entries.Flagged "allowempty")
      (spelled : entries.Spelled "mapping" "map" none ∧ fields = [] ∨
        entries.Spelled "mapping" "map" (some (.map fields))) : Form entries (.map fields)
  | seq {variants : List Value}
      (typed : IsTyped entries ["seq", "sequence"] ∨
        entries.get? "type" = none ∧ ¬ entries.Lacks ["sequence", "seq"])
      (lacks : entries.Lacks ["include", "mapping", "map", "allowempty", "range", "enum", "pattern"])
      (matching : ∀ stored, entries.get? "matching" = some stored →
        stored = .string "any" ∨ stored = .string "all")
      (spelled : entries.Spelled "sequence" "seq" (some (.seq variants)))
      (present : variants ≠ []) : Form entries (.seq variants)
  | scalar (kind : Kind)
      (typed : (∃ name, entries.get? "type" = some (.string name) ∧ Kind.ofName? name = some kind) ∨
        entries.get? "type" = none ∧ kind = .str)
      (scalar : IsScalar entries kind) : Form entries .scalar

end Grammar

/-- No kind of scalars is named as a container. -/
theorem Kind.ne_of_ofName? {name : String} {kind : Kind} (named : Kind.ofName? name = some kind) :
    ∀ container ∈ ["map", "mapping", "seq", "sequence"], name ≠ container := by
  intro container member same
  have unnamed : ∀ container ∈ ["map", "mapping", "seq", "sequence"],
      Kind.ofName? container = none := by
    decide
  rw [same, unnamed container member] at named
  cases named

namespace Entries

/-- The mapping under a key; none counts as empty. -/
def table (entries : Entries) (name : String) : Entries :=
  match entries.get? name with
  | some (.map fields) => fields
  | _ => []

/-- The sequence under a key; none counts as empty. -/
def items (entries : Entries) (name : String) : List Value :=
  match entries.get? name with
  | some (.seq variants) => variants
  | _ => []

end Entries

namespace Heading

variable {path : String} {entries : Entries} {kind : Kind}

def outline (entries : Entries) : Heading → Outline
  | .included name => .included name
  | .map keyword _ => .map (entries.table keyword)
  | .seq keyword _ => .seq (entries.items keyword)
  | .scalar _ => .scalar

theorem rangeUnder_eq_ok_iff {bounds : Value} {found : Option Range}
    (stored : entries.get? "range" = some bounds) :
    rangeUnder path kind entries = .ok found ↔
      kind.supportsRange = true ∧ ∃ range, rangeOf path bounds = .ok range ∧ some range = found := by
  unfold rangeUnder
  cases supported : kind.supportsRange with
  | false => simp [stored]
  | true => cases read : rangeOf path bounds <;> simp [stored, read]

theorem rangeUnder_succeeds_iff (path : String) (untagged : (Value.map entries).untagged = true) :
    (∃ range, rangeUnder path kind entries = .ok range) ↔
      ∀ bounds, entries.get? "range" = some bounds →
        kind.supportsRange = true ∧ IsRange bounds := by
  cases stored : entries.get? "range" with
  | none => simp [rangeUnder, stored]
  | some bounds =>
      have plain := Entries.get?_untagged untagged stored
      simp only [rangeUnder_eq_ok_iff stored, Option.some.injEq, forall_eq',
        ← rangeOf_succeeds_iff path plain]
      constructor
      · intro ⟨_, supported, range, read, _⟩
        exact ⟨supported, range, read⟩
      · intro ⟨supported, range, read⟩
        exact ⟨_, supported, range, read, rfl⟩

theorem allowedOf_eq_ok_iff {choices : Value} {allowed : List Value} :
    allowedOf path kind choices = .ok allowed ↔
      kind ≠ .any ∧ choices = .seq allowed ∧ allowed ≠ [] ∧
        ∀ choice ∈ allowed, isContainer choice = false := by
  unfold allowedOf
  cases choices with
  | seq items =>
      cases items with
      | nil =>
          simp only [malformed_ne_ok, Value.seq.injEq, false_iff]
          intro scalars
          exact scalars.2.2.1 scalars.2.1.symm
      | cons first rest =>
          by_cases untyped : kind = .any
          · simp [untyped, malformed]
          · cases nested : (first :: rest).any isContainer with
            | true =>
                obtain ⟨choice, member, isNested⟩ := List.any_eq_true.mp nested
                simp only [untyped, nested, if_true, if_false, malformed_ne_ok, false_iff]
                intro scalars
                cases scalars.2.1
                rw [scalars.2.2.2 choice member] at isNested
                cases isNested
            | false =>
                have scalars : ∀ choice ∈ first :: rest, isContainer choice = false := by
                  simpa using nested
                simp only [untyped, nested, if_false, Bool.false_eq_true, Except.ok.injEq,
                  Value.seq.injEq, ne_eq, not_false_eq_true, true_and]
                constructor
                · intro same
                  exact ⟨same, same ▸ List.cons_ne_nil _ _, same ▸ scalars⟩
                · exact And.left
  | _ => simp [malformed]

theorem allowedUnder_succeeds_iff (path : String) :
    (∃ allowed, allowedUnder path kind entries = .ok allowed) ↔
      ∀ choices, entries.get? "enum" = some choices → kind ≠ .any ∧ Grammar.IsChoice choices := by
  unfold allowedUnder
  cases stored : entries.get? "enum" with
  | none => simp
  | some choices =>
      simp only [allowedOf_eq_ok_iff, exists_and_left, Option.some.injEq, forall_eq',
        Grammar.IsChoice]

theorem patternOf_eq_ok_iff {source : String} {pattern : Pattern} :
    patternOf path source = .ok pattern ↔ Pattern.compile? source = some pattern := by
  unfold patternOf
  cases Pattern.compile? source <;> simp

theorem patternUnder_succeeds_iff (path : String) (untagged : (Value.map entries).untagged = true) :
    (∃ pattern, patternUnder path kind entries = .ok pattern) ↔
      ∀ written, entries.get? "pattern" = some written →
        kind = .str ∧ ∃ source, written = .string source ∧ Grammar.IsPattern source := by
  unfold patternUnder
  cases stored : entries.get? "pattern" with
  | none => simp
  | some written =>
      have plain := Entries.get?_untagged untagged stored
      by_cases isStr : kind = .str
      · cases text : written.text? with
        | some source =>
            obtain rfl := (Value.text?_eq_some_iff_of_untagged plain).mp text
            simp [isStr, text, map_succeeds_iff, patternOf_eq_ok_iff, Grammar.IsPattern]
        | none =>
            have notString := (Value.text?_eq_none_iff_of_untagged plain).mp text
            simp [isStr, text, notString, malformed]
      · simp [isStr, malformed]

theorem ofScalar_eq_ok_iff {hasChildren : Bool} {heading : Heading} :
    ofScalar path entries kind hasChildren = .ok heading ↔
      hasChildren = false ∧ entries.Lacks ["matching"] ∧
        ∃ flagged, flag path "allowempty" entries = .ok flagged ∧
          (flagged.getD true = false → kind = .str) ∧
            ∃ range, rangeUnder path kind entries = .ok range ∧
              ∃ allowed, allowedUnder path kind entries = .ok allowed ∧
                ∃ pattern, patternUnder path kind entries = .ok pattern ∧
                  .scalar ⟨kind, range, flagged.getD true, allowed, pattern⟩ = heading := by
  unfold ofScalar
  cases hasChildren with
  | true => simp [malformed, bind_eq_ok]
  | false =>
      have demanded (allowEmpty : Bool) (rest : Except SchemaError Heading) :
          (if !allowEmpty && kind != .str then
              malformed path .allowEmptyNotStr >>= fun _ : Unit => rest
            else rest) = .ok heading ↔ (allowEmpty = false → kind = .str) ∧ rest = .ok heading := by
        cases allowEmpty with
        | true => simp
        | false => by_cases isStr : kind = .str <;> simp [isStr, bind_eq_ok, malformed]
      simp only [bind_eq_ok, pure_eq_ok, Bool.false_eq_true, if_false, true_and, demanded,
        exists_unit, reject_eq_ok_iff]

theorem fieldsUnder_eq_ok_iff {fields : Option (String × Value)} {keyword : String} :
    fieldsUnder path fields = .ok keyword ↔
      fields = none ∧ keyword = "mapping" ∨ ∃ table, fields = some (keyword, .map table) := by
  cases fields with
  | none => simp [fieldsUnder, eq_comm]
  | some found =>
      obtain ⟨name, value⟩ := found
      cases value <;> simp [fieldsUnder, malformed]

theorem elementsUnder_eq_ok_iff {sequence : Option (String × Value)} {keyword : String} :
    elementsUnder path sequence = .ok keyword ↔
      ∃ variants, sequence = some (keyword, .seq variants) ∧ variants ≠ [] := by
  cases sequence with
  | none => simp [elementsUnder, malformed]
  | some found =>
      obtain ⟨name, value⟩ := found
      cases value with
      | seq variants => cases variants <;> simp [elementsUnder, malformed]
      | _ => simp [elementsUnder, malformed]

theorem matchingUnder_succeeds_iff (path : String) (untagged : (Value.map entries).untagged = true) :
    (∃ matching, matchingUnder path entries = .ok matching) ↔
      ∀ stored, entries.get? "matching" = some stored →
        stored = .string "any" ∨ stored = .string "all" := by
  unfold matchingUnder
  cases stored : entries.get? "matching" with
  | none => simp
  | some value =>
      have plain := Entries.get?_untagged untagged stored
      simp only [Option.map_some, Option.some.injEq, forall_eq',
        ← Value.text?_eq_some_iff_of_untagged plain]
      split <;> simp_all [malformed]

theorem ofMap_eq_ok_iff {fields sequence : Option (String × Value)} {heading : Heading} :
    ofMap path entries fields sequence = .ok heading ↔
      sequence = none ∧ entries.Lacks ["matching", "range", "enum", "pattern"] ∧
        ∃ flagged, flag path "allowempty" entries = .ok flagged ∧
          ∃ keyword, fieldsUnder path fields = .ok keyword ∧
            .map keyword (flagged.getD false) = heading := by
  unfold ofMap
  cases sequence with
  | some found => simp [malformed, bind_eq_ok]
  | none =>
      simp only [Option.isSome_none, Bool.false_eq_true, if_false, bind_eq_ok, pure_eq_ok,
        exists_unit, reject_eq_ok_iff, true_and]

theorem ofSeq_eq_ok_iff {fields sequence : Option (String × Value)} {heading : Heading} :
    ofSeq path entries fields sequence = .ok heading ↔
      fields = none ∧ entries.Lacks ["allowempty", "range", "enum", "pattern"] ∧
        ∃ keyword, elementsUnder path sequence = .ok keyword ∧
          ∃ matching, matchingUnder path entries = .ok matching ∧
            .seq keyword matching = heading := by
  unfold ofSeq
  cases fields with
  | some found => simp [malformed, bind_eq_ok]
  | none =>
      simp only [Option.isSome_none, Bool.false_eq_true, if_false, bind_eq_ok, pure_eq_ok,
        exists_unit, reject_eq_ok_iff, true_and]

/-- A written type decides between the forms, and without one the keywords that are there
do. -/
inductive Chosen (path : String) (entries : Entries) (fields sequence : Option (String × Value))
    (heading : Heading) : Prop where
  | map
      (typed : Grammar.IsTyped entries ["map", "mapping"] ∨
        entries.get? "type" = none ∧ fields.isSome = true)
      (found : ofMap path entries fields sequence = .ok heading)
  | seq
      (typed : Grammar.IsTyped entries ["seq", "sequence"] ∨
        entries.get? "type" = none ∧ fields.isSome = false ∧ sequence.isSome = true)
      (found : ofSeq path entries fields sequence = .ok heading)
  | scalar (kind : Kind)
      (typed : (∃ name, entries.get? "type" = some (.string name) ∧ Kind.ofName? name = some kind) ∨
        entries.get? "type" = none ∧ fields.isSome = false ∧ sequence.isSome = false ∧ kind = .str)
      (found : ofScalar path entries kind (fields.isSome || sequence.isSome) = .ok heading)

theorem read_eq_ok_iff {heading : Heading} :
    read path entries = .ok heading ↔
      checkKeywords path entries = .ok () ∧
        ((∃ target, entries.get? "include" = some target ∧
            ofInclude path entries target = .ok heading) ∨
          entries.get? "include" = none ∧
            ∃ fields, either path "mapping" "map" entries = .ok fields ∧
              ∃ sequence, either path "sequence" "seq" entries = .ok sequence ∧
                Chosen path entries fields sequence heading) := by
  unfold read
  simp only [bind_eq_ok, exists_unit]
  refine and_congr_right fun _ => ?_
  cases target : entries.get? "include" with
  | some value => simp
  | none =>
      simp only [reduceCtorEq, false_and, exists_false, false_or, true_and, bind_eq_ok]
      refine exists_congr fun fields => and_congr_right fun _ => exists_congr fun sequence =>
        and_congr_right fun _ => ?_
      constructor
      · intro found
        split at found
        · rename_i isMap
          exact .map (.inl ⟨"map", by simp, isMap⟩) found
        · rename_i isMap
          exact .map (.inl ⟨"mapping", by simp, isMap⟩) found
        · rename_i isSeq
          exact .seq (.inl ⟨"seq", by simp, isSeq⟩) found
        · rename_i isSeq
          exact .seq (.inl ⟨"sequence", by simp, isSeq⟩) found
        · rename_i name _ _ _ _ typed
          split at found
          · rename_i kind named
            exact .scalar kind (.inl ⟨name, typed, named⟩) found
          · cases found
        · cases found
        · rename_i untyped
          split at found
          · rename_i present
            exact .map (.inr ⟨untyped, present⟩) found
          · rename_i absent
            split at found
            · rename_i present
              exact .seq (.inr ⟨untyped, by simpa using absent, present⟩) found
            · rename_i noSequence
              refine .scalar .str
                (.inr ⟨untyped, by simpa using absent, by simpa using noSequence, rfl⟩) ?_
              simpa [absent, noSequence] using found
      · intro chosen
        cases chosen with
        | map typed found =>
            rcases typed with ⟨name, member, typed⟩ | ⟨untyped, present⟩
            · rcases List.mem_pair.mp member with rfl | rfl
              · simpa [typed] using found
              · simpa [typed] using found
            · simpa [untyped, present] using found
        | seq typed found =>
            rcases typed with ⟨name, member, typed⟩ | ⟨untyped, absent, present⟩
            · rcases List.mem_pair.mp member with rfl | rfl
              · simpa [typed] using found
              · simpa [typed] using found
            · simpa [untyped, absent, present] using found
        | scalar kind typed found =>
            rcases typed with ⟨name, typed, named⟩ | ⟨untyped, absent, missing, rfl⟩
            · have apart := Kind.ne_of_ofName? named
              simp only [List.forall_mem_cons] at apart
              obtain ⟨notMap, notMapping, notSeq, notSequence, _⟩ := apart
              simpa [typed, named, notMap, notMapping, notSeq, notSequence] using found
            · simpa [untyped, absent, missing] using found

section Found

variable {fields sequence : Option (String × Value)} {heading : Heading}

theorem either_of_lacks {name synonym : String} (lacks : entries.Lacks [name, synonym]) :
    either path name synonym entries = .ok none := by
  simp only [Entries.lacks_cons] at lacks
  simp [either, lacks.1, lacks.2.1]

theorem form_of_ofMap (alone : entries.get? "include" = none)
    (ofFields : either path "mapping" "map" entries = .ok fields)
    (ofSequence : either path "sequence" "seq" entries = .ok sequence)
    (typed : Grammar.IsTyped entries ["map", "mapping"] ∨
      entries.get? "type" = none ∧ fields.isSome = true)
    (found : ofMap path entries fields sequence = .ok heading) :
    Grammar.Form entries (heading.outline entries) := by
  obtain ⟨fieldsSpelled, fieldsFound⟩ := either_spelled ofFields
  obtain ⟨rfl, lacks, flagged, isFlagged, keyword, under, rfl⟩ := ofMap_eq_ok_iff.mp found
  have noSequence := Entries.spelled_none_iff.mp (either_spelled ofSequence).1
  have all : entries.Lacks
      ["include", "sequence", "seq", "matching", "range", "enum", "pattern"] := by
    simp_all
  have tolerance := (flag_succeeds_iff path).mp ⟨flagged, isFlagged⟩
  rcases fieldsUnder_eq_ok_iff.mp under with ⟨rfl, rfl⟩ | ⟨table, rfl⟩
  · have noFields := Entries.spelled_none_iff.mp fieldsSpelled
    have empty : entries.table "mapping" = [] := by
      simp only [Entries.lacks_cons] at noFields
      simp [Entries.table, noFields.1]
    rw [outline, empty]
    refine .map (.inl ?_) all tolerance (.inl ⟨fieldsSpelled, rfl⟩)
    rcases typed with typed | ⟨_, present⟩
    · exact typed
    · cases present
  · have stored := fieldsFound keyword (.map table) rfl
    have isTable : entries.table keyword = table := by
      simp [Entries.table, stored]
    rw [outline, isTable]
    refine .map ?_ all tolerance (.inr fieldsSpelled)
    rcases typed with typed | ⟨untyped, _⟩
    · exact .inl typed
    · exact .inr ⟨untyped, fieldsSpelled.not_lacks⟩

theorem form_of_ofSeq (untagged : (Value.map entries).untagged = true)
    (alone : entries.get? "include" = none)
    (ofFields : either path "mapping" "map" entries = .ok fields)
    (ofSequence : either path "sequence" "seq" entries = .ok sequence)
    (typed : Grammar.IsTyped entries ["seq", "sequence"] ∨
      entries.get? "type" = none ∧ fields.isSome = false ∧ sequence.isSome = true)
    (found : ofSeq path entries fields sequence = .ok heading) :
    Grammar.Form entries (heading.outline entries) := by
  obtain ⟨sequenceSpelled, sequenceFound⟩ := either_spelled ofSequence
  obtain ⟨rfl, lacks, keyword, under, matching, isMatching, rfl⟩ := ofSeq_eq_ok_iff.mp found
  obtain ⟨variants, rfl, present⟩ := elementsUnder_eq_ok_iff.mp under
  have noFields := Entries.spelled_none_iff.mp (either_spelled ofFields).1
  have all : entries.Lacks
      ["include", "mapping", "map", "allowempty", "range", "enum", "pattern"] := by
    simp_all
  have stored := sequenceFound keyword (.seq variants) rfl
  have isList : entries.items keyword = variants := by
    simp [Entries.items, stored]
  rw [outline, isList]
  refine .seq ?_ all ((matchingUnder_succeeds_iff path untagged).mp ⟨matching, isMatching⟩)
    sequenceSpelled present
  rcases typed with typed | ⟨untyped, _, _⟩
  · exact .inl typed
  · exact .inr ⟨untyped, sequenceSpelled.not_lacks⟩

theorem form_of_ofScalar (untagged : (Value.map entries).untagged = true)
    (alone : entries.get? "include" = none)
    (ofFields : either path "mapping" "map" entries = .ok fields)
    (ofSequence : either path "sequence" "seq" entries = .ok sequence)
    (typed : (∃ name, entries.get? "type" = some (.string name) ∧ Kind.ofName? name = some kind) ∨
      entries.get? "type" = none ∧ fields.isSome = false ∧ sequence.isSome = false ∧ kind = .str)
    (found : ofScalar path entries kind (fields.isSome || sequence.isSome) = .ok heading) :
    Grammar.Form entries (heading.outline entries) := by
  obtain ⟨childless, lacks, flagged, isFlagged, filled, range, isRange, allowed, isAllowed,
    pattern, isPattern, rfl⟩ := ofScalar_eq_ok_iff.mp found
  obtain rfl : fields = none := by simp_all
  obtain rfl : sequence = none := by simp_all
  have noFields := Entries.spelled_none_iff.mp (either_spelled ofFields).1
  have noSequence := Entries.spelled_none_iff.mp (either_spelled ofSequence).1
  refine .scalar kind ?_ ⟨?lacks, (flag_succeeds_iff path).mp ⟨flagged, isFlagged⟩, ?filled,
    (rangeUnder_succeeds_iff path untagged).mp ⟨range, isRange⟩,
    (allowedUnder_succeeds_iff path).mp ⟨allowed, isAllowed⟩,
    (patternUnder_succeeds_iff path untagged).mp ⟨pattern, isPattern⟩⟩
  case lacks => simp_all
  case filled =>
    intro mustFill
    rw [flag_eq_ok_iff, mustFill] at isFlagged
    apply filled
    cases flagged with
    | none => cases isFlagged
    | some value =>
        cases isFlagged
        rfl
  rcases typed with typed | ⟨untyped, _, _, isStr⟩
  · exact .inl typed
  · exact .inr ⟨untyped, isStr⟩

end Found

section Form

variable {outline : Outline}

/-- The keywords lead to a heading of this outline. -/
def Leads (path : String) (entries : Entries) (outline : Outline) : Prop :=
  ∃ fields, either path "mapping" "map" entries = .ok fields ∧
    ∃ sequence, either path "sequence" "seq" entries = .ok sequence ∧
      ∃ heading, Chosen path entries fields sequence heading ∧ heading.outline entries = outline

theorem leads_of_map (path : String) {table : Entries}
    (typed : Grammar.IsTyped entries ["map", "mapping"] ∨
      entries.get? "type" = none ∧ ¬ entries.Lacks ["mapping", "map"])
    (lacks : entries.Lacks ["include", "sequence", "seq", "matching", "range", "enum", "pattern"])
    (flagged : entries.Flagged "allowempty")
    (spelled : entries.Spelled "mapping" "map" none ∧ table = [] ∨
      entries.Spelled "mapping" "map" (some (.map table))) : Leads path entries (.map table) := by
  obtain ⟨flag, isFlag⟩ := (flag_succeeds_iff path).mpr flagged
  have noSequence : either path "sequence" "seq" entries = .ok none :=
    either_of_lacks (by simp_all)
  have rejected : entries.Lacks ["matching", "range", "enum", "pattern"] := by simp_all
  rcases spelled with ⟨spelled, rfl⟩ | spelled
  · have noFields := Entries.spelled_none_iff.mp spelled
    refine ⟨none, either_of_lacks noFields, none, noSequence, .map "mapping" (flag.getD false),
      .map ?_ (ofMap_eq_ok_iff.mpr ⟨rfl, rejected, flag, isFlag, "mapping", rfl, rfl⟩), ?_⟩
    · rcases typed with typed | ⟨_, present⟩
      · exact .inl typed
      · exact absurd noFields present
    · simp only [Entries.lacks_cons] at noFields
      simp [Heading.outline, Entries.table, noFields.1]
  · obtain ⟨found, ofFields, isTable⟩ := either_of_spelled path spelled
    obtain ⟨⟨keyword, value⟩, rfl, rfl⟩ := Option.map_eq_some_iff.mp isTable
    have stored := (either_spelled ofFields).2 keyword _ rfl
    refine ⟨_, ofFields, none, noSequence, .map keyword (flag.getD false),
      .map ?_ (ofMap_eq_ok_iff.mpr ⟨rfl, rejected, flag, isFlag, keyword, rfl, rfl⟩), ?_⟩
    · rcases typed with typed | ⟨untyped, _⟩
      · exact .inl typed
      · exact .inr ⟨untyped, rfl⟩
    · simp [Heading.outline, Entries.table, stored]

theorem leads_of_seq (path : String) {variants : List Value}
    (untagged : (Value.map entries).untagged = true)
    (typed : Grammar.IsTyped entries ["seq", "sequence"] ∨
      entries.get? "type" = none ∧ ¬ entries.Lacks ["sequence", "seq"])
    (lacks : entries.Lacks ["include", "mapping", "map", "allowempty", "range", "enum", "pattern"])
    (matching : ∀ stored, entries.get? "matching" = some stored →
      stored = .string "any" ∨ stored = .string "all")
    (spelled : entries.Spelled "sequence" "seq" (some (.seq variants)))
    (present : variants ≠ []) : Leads path entries (.seq variants) := by
  obtain ⟨mode, isMode⟩ := (matchingUnder_succeeds_iff path untagged).mpr matching
  have noFields : either path "mapping" "map" entries = .ok none := either_of_lacks (by simp_all)
  have rejected : entries.Lacks ["allowempty", "range", "enum", "pattern"] := by simp_all
  obtain ⟨found, ofSequence, isList⟩ := either_of_spelled path spelled
  obtain ⟨⟨keyword, value⟩, rfl, rfl⟩ := Option.map_eq_some_iff.mp isList
  have stored := (either_spelled ofSequence).2 keyword _ rfl
  have under : elementsUnder path (some (keyword, .seq variants)) = .ok keyword :=
    elementsUnder_eq_ok_iff.mpr ⟨variants, rfl, present⟩
  refine ⟨none, noFields, _, ofSequence, .seq keyword mode,
    .seq ?_ (ofSeq_eq_ok_iff.mpr ⟨rfl, rejected, keyword, under, mode, isMode, rfl⟩), ?_⟩
  · rcases typed with typed | ⟨untyped, _⟩
    · exact .inl typed
    · exact .inr ⟨untyped, rfl, rfl⟩
  · simp [Heading.outline, Entries.items, stored]

theorem leads_of_scalar (path : String) (untagged : (Value.map entries).untagged = true)
    (typed : (∃ name, entries.get? "type" = some (.string name) ∧ Kind.ofName? name = some kind) ∨
      entries.get? "type" = none ∧ kind = .str)
    (scalar : Grammar.IsScalar entries kind) : Leads path entries .scalar := by
  obtain ⟨flag, isFlag⟩ := (flag_succeeds_iff path).mpr scalar.flagged
  obtain ⟨range, isRange⟩ := (rangeUnder_succeeds_iff path untagged).mpr scalar.range
  obtain ⟨allowed, isAllowed⟩ := (allowedUnder_succeeds_iff path).mpr scalar.choice
  obtain ⟨pattern, isPattern⟩ := (patternUnder_succeeds_iff path untagged).mpr scalar.pattern
  have lacks := scalar.lacks
  have noFields : either path "mapping" "map" entries = .ok none := either_of_lacks (by simp_all)
  have noSequence : either path "sequence" "seq" entries = .ok none :=
    either_of_lacks (by simp_all)
  have filled : flag.getD true = false → kind = .str := by
    intro isFalse
    rw [flag_eq_ok_iff] at isFlag
    apply scalar.filled
    cases flag with
    | none => cases isFalse
    | some value =>
        cases isFalse
        exact isFlag
  refine ⟨none, noFields, none, noSequence,
    .scalar ⟨kind, range, flag.getD true, allowed, pattern⟩, .scalar kind ?_
      (ofScalar_eq_ok_iff.mpr ⟨rfl, by simp_all, flag, isFlag, filled, range, isRange, allowed,
        isAllowed, pattern, isPattern, rfl⟩), rfl⟩
  rcases typed with typed | ⟨untyped, isStr⟩
  · exact .inl typed
  · exact .inr ⟨untyped, rfl, rfl, isStr⟩

/-- Without an include, the forms are what the keywords lead to. -/
theorem leads_iff_form (path : String) (untagged : (Value.map entries).untagged = true)
    (alone : entries.get? "include" = none) :
    Leads path entries outline ↔ Grammar.Form entries outline := by
  constructor
  · intro ⟨fields, ofFields, sequence, ofSequence, heading, chosen, same⟩
    subst same
    cases chosen with
    | map typed found => exact form_of_ofMap alone ofFields ofSequence typed found
    | seq typed found => exact form_of_ofSeq untagged alone ofFields ofSequence typed found
    | scalar kind typed found =>
        exact form_of_ofScalar untagged alone ofFields ofSequence typed found
  · intro form
    cases form with
    | included target =>
        rw [alone] at target
        cases target
    | map typed lacks flagged spelled => exact leads_of_map path typed lacks flagged spelled
    | seq typed lacks matching spelled present =>
        exact leads_of_seq path untagged typed lacks matching spelled present
    | scalar kind typed scalar => exact leads_of_scalar path untagged typed scalar

end Form

/-- The keywords of a definition are accepted if they are known and take one of the forms. -/
theorem read_succeeds_iff (path : String) {outline : Outline}
    (untagged : (Value.map entries).untagged = true) :
    (∃ heading, read path entries = .ok heading ∧ heading.outline entries = outline) ↔
      Grammar.IsKeyed entries ∧ Grammar.Form entries outline := by
  simp only [read_eq_ok_iff, checkKeywords_eq_ok_iff untagged]
  constructor
  · intro ⟨heading, ⟨⟨known, described⟩, found⟩, same⟩
    refine ⟨⟨known, described⟩, ?_⟩
    rcases found with ⟨target, isInclude, found⟩ | ⟨alone, fields, ofFields, sequence, ofSequence,
      chosen⟩
    · have plain := Entries.get?_untagged untagged isInclude
      obtain ⟨keyed, name, rfl, rfl⟩ := (ofInclude_eq_ok_iff known plain).mp found
      rw [← same]
      exact .included isInclude keyed
    · exact (leads_iff_form path untagged alone).mp
        ⟨fields, ofFields, sequence, ofSequence, heading, chosen, same⟩
  · intro ⟨⟨known, described⟩, form⟩
    cases isInclude : entries.get? "include" with
    | some target =>
        have plain := Entries.get?_untagged untagged isInclude
        cases form with
        | included found keyed =>
            cases isInclude.symm.trans found
            exact ⟨_, ⟨⟨known, described⟩,
              .inl ⟨_, rfl, (ofInclude_eq_ok_iff known plain).mpr ⟨keyed, _, rfl, rfl⟩⟩⟩, rfl⟩
        | map _ lacks => simp_all
        | seq _ lacks => simp_all
        | scalar kind _ scalar =>
            have lacks := scalar.lacks
            simp_all
    | none =>
        obtain ⟨fields, ofFields, sequence, ofSequence, heading, chosen, same⟩ :=
          (leads_iff_form path untagged isInclude).mpr form
        exact ⟨heading, ⟨⟨known, described⟩,
          .inr ⟨rfl, fields, ofFields, sequence, ofSequence, chosen⟩⟩, same⟩

end Heading
end DocShape
