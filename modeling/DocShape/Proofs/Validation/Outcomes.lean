import DocShape.Proofs.Tree
import DocShape.Schema.Validation

namespace DocShape.Validation

/-! The lists that validation walks, as operations on the whole list of fields, shapes or
elements. -/

/-- Whether a field has a pattern for keys of this text. -/
def selects (text : String) (field : Field Node) : Bool :=
  field.key.pattern?.any (·.isMatch text)

/-- The pattern fields that apply to a key of this text. -/
def applicable (policy : PatternMatch) (text : String) (fields : List (Field Node)) :
    List (Field Node) :=
  match policy with
  | .first => (fields.find? (selects text)).toList
  | .all => fields.filter (selects text)

theorem mem_of_mem_applicable {policy : PatternMatch} {text : String}
    {fields : List (Field Node)} {field : Field Node}
    (member : field ∈ applicable policy text fields) : field ∈ fields := by
  cases policy with
  | first => exact List.mem_of_find?_eq_some (Option.mem_toList.mp member)
  | all => exact (List.mem_filter.mp member).1

/-- The violations that a field adds when its name is looked up. -/
def literalViolations (config : Config) (path : DocPath) (entries : Entries)
    (field : Field Node) : List Violation :=
  match field.key.literal? with
  | none => []
  | some name =>
      match literalValue? entries name with
      | some found => check config (path ++ [.key name]) field.node found
      | none =>
          if field.required then
            [.mk (path ++ [.key name]) .missingField field.node.shape "nothing" []]
          else []

/-- The violations of an entry that no literal field claims. -/
def patternViolations (config : Config) (path : DocPath) (fields : List (Field Node))
    (allowEmpty : Bool) (entry : Value × Value) : List Violation :=
  unclaimedViolations (path ++ [.key entry.1.keyText]) fields allowEmpty entry.1.keyText
    ((applicable config.patternMatch entry.1.keyText fields).map fun field =>
      check config (path ++ [.key entry.1.keyText]) field.node entry.2)

variable {config : Config} {path : DocPath} {entries : Entries} {fields : List (Field Node)}

theorem checkLiterals_eq_flatMap :
    checkLiterals config path entries fields =
      fields.flatMap (literalViolations config path entries) := by
  induction fields with
  | nil => simp only [checkLiterals, List.flatMap_nil]
  | cons field rest inRest =>
      simp only [checkLiterals, List.flatMap_cons, inRest]
      rfl

theorem checkPatterns_eq_map (text : String) (value : Value) :
    checkPatterns config path text value fields =
      (applicable config.patternMatch text fields).map fun field =>
        check config path field.node value := by
  induction fields with
  | nil => cases policy : config.patternMatch <;> simp [checkPatterns, applicable]
  | cons field rest inRest =>
      have unfolded : checkPatterns config path text value (field :: rest) =
          if selects text field then
            check config path field.node value ::
              (if config.patternMatch = .first then []
              else checkPatterns config path text value rest)
          else checkPatterns config path text value rest := by
        rw [checkPatterns]
        rfl
      rw [unfolded, inRest]
      cases policy : config.patternMatch with
      | first =>
          by_cases selected : selects text field <;> simp [applicable, selected]
      | all =>
          by_cases selected : selects text field <;> simp [applicable, selected]

theorem checkVariants_eq_map (item : Value) (variants : List Node) :
    checkVariants config path item variants =
      variants.map fun variant => check config path variant item := by
  induction variants with
  | nil => simp only [checkVariants, List.map_nil]
  | cons variant rest inRest => simp only [checkVariants, List.map_cons, inRest]

theorem check_map {allowEmpty : Bool} {value : Value} (mapping : value.content = .map entries) :
    check config path (.map fields allowEmpty) value =
      fields.flatMap (literalViolations config path entries) ++
        entries.flatMap fun entry =>
          if claims fields entry.1 then []
          else patternViolations config path fields allowEmpty entry := by
  simp only [check, mapping, checkLiterals_eq_flatMap, checkPatterns_eq_map, patternViolations]

theorem check_map_of_not_map {allowEmpty : Bool} {value : Value}
    (other : ∀ entries, value.content ≠ .map entries) :
    check config path (.map fields allowEmpty) value = [mismatch path "map" value.content] := by
  simp only [check]

theorem check_included (name : String) (target : Node) (value : Value) :
    check config path (.included name target) value = check config path target value := by
  simp only [check]

theorem check_scalar (leaf : Scalar) (value : Value) :
    check config path (.scalar leaf) value = scalarViolations path leaf value.content := by
  simp only [check]

/-- A value is checked through its tags. -/
theorem check_content (node : Node) (value : Value) :
    check config path node value.content = check config path node value := by
  induction node using Node.induction with
  | map fields allowEmpty _ => simp only [check, Value.content_content]
  | seq variants matching _ =>
      match variants with
      | [] | [_] | _ :: _ :: _ => simp only [check, Value.content_content]
  | scalar leaf => simp only [check, Value.content_content]
  | included name target ofTarget => rw [check_included, check_included, ofTarget]

/-- A leaf finds no more wrong with a mapping or a sequence than that it is one. -/
theorem scalarViolations_of_unlike {value : Value} (leaf : Scalar)
    (unlike : (∃ entries, value = .map entries) ∨ ∃ items, value = .seq items) :
    scalarViolations path leaf value =
      if leaf.kind = .any then [] else [mismatch path leaf.kind.name value] := by
  unfold scalarViolations
  by_cases anything : leaf.kind = .any
  · rw [if_pos anything, if_pos anything]
  · have unmatched : kindMatches leaf.kind value = false := by
      rcases unlike with ⟨entries, rfl⟩ | ⟨items, rfl⟩
      · cases kind : leaf.kind <;> first | rfl | exact absurd kind anything
      · cases kind : leaf.kind <;> first | rfl | exact absurd kind anything
    simp only [anything, unmatched, Bool.false_eq_true, if_false]

theorem check_seq_of_not_seq {variants : List Node} {matching : Matching} {value : Value}
    (other : ∀ items, value.content ≠ .seq items) :
    check config path (.seq variants matching) value = [mismatch path "seq" value.content] := by
  match variants with
  | [] | [_] | _ :: _ :: _ => simp only [check]

theorem check_seq_one {only : Node} {matching : Matching} {value : Value} {items : List Value}
    (sequence : value.content = .seq items) :
    check config path (.seq [only] matching) value =
      items.zipIdx.flatMap fun element =>
        check config (path ++ [.index element.2]) only element.1 := by
  simp only [check, sequence]

theorem check_seq_several {variants : List Node} {matching : Matching} {value : Value}
    {items : List Value} (several : variants.length ≠ 1)
    (sequence : value.content = .seq items) :
    check config path (.seq variants matching) value =
      items.zipIdx.flatMap fun element =>
        elementViolations config (path ++ [.index element.2]) variants matching element.1
          (variants.map fun variant =>
            check config (path ++ [.index element.2]) variant element.1) := by
  match variants with
  | [] => simp only [check, sequence, checkVariants_eq_map]
  | [_] => exact absurd rfl several
  | _ :: _ :: _ => simp only [check, sequence, checkVariants_eq_map]

end DocShape.Validation
