import DocShape.Proofs.Lookup
import DocShape.Proofs.Validation.Shapes

namespace DocShape.Validation

/-! Where the violations of a report come from: every one is traced through the schema and the
document to the node that finds it and to the value that it is about.
-/

/-- What a leaf can find wrong with a value at this place. -/
inductive LeafFault (path : DocPath) (leaf : Scalar) : Value → Violation → Prop where
  | kind {value : Value} : LeafFault path leaf value (mismatch path leaf.kind.name value)
  | empty : LeafFault path leaf (.string "") (.mk path .emptyValue "non-empty str" "empty str" [])
  | pattern {text : String} {pattern : Pattern} (declared : leaf.pattern = some pattern) :
      LeafFault path leaf (.string text)
        (.mk path .patternMismatch ("str matching " ++ pattern.text)
          (Value.summary (.string text)) [])
  | allowed {value : Value} :
      LeafFault path leaf value
        (.mk path .enumMismatch ("one of " ++ ", ".intercalate (leaf.allowed.map Value.summary))
          value.summary [])
  | range {value : Value} {range : Range} {measured : Binary64} {label : String}
      (declared : leaf.range = some range) (measure : measure? value = some (measured, label)) :
      LeafFault path leaf value
        (.mk path .rangeViolation (label ++ range.text) value.summary [])

/-- The node, at this place and about this value, can come to report this violation. -/
inductive Reported : Node → DocPath → Value → Violation → Prop where
  | notMap {fields : List (Field Node)} {allowEmpty : Bool} {path : DocPath} {value : Value} :
      Reported (.map fields allowEmpty) path value (mismatch path "map" value.content)
  | missing {fields : List (Field Node)} {allowEmpty : Bool} {path : DocPath} {value : Value}
      {entries : Entries} {field : Field Node} {name : String}
      (mapping : value.content = .map entries) (member : field ∈ fields)
      (literal : field.key.literal? = some name) (required : field.required = true)
      (absent : literalValue? entries name = none) :
      Reported (.map fields allowEmpty) path value
        (.mk (path ++ [.key name]) .missingField field.node.shape "nothing" [])
  | literal {fields : List (Field Node)} {allowEmpty : Bool} {path : DocPath}
      {value stored : Value} {entries : Entries} {field : Field Node} {name : String}
      {violation : Violation} (mapping : value.content = .map entries) (member : field ∈ fields)
      (literal : field.key.literal? = some name)
      (found : literalValue? entries name = some stored)
      (below : Reported field.node (path ++ [.key name]) stored violation) :
      Reported (.map fields allowEmpty) path value violation
  | unexpected {fields : List (Field Node)} {path : DocPath} {value : Value} {entries : Entries}
      {entry : Value × Value} (mapping : value.content = .map entries)
      (inEntries : entry ∈ entries) (unclaimed : claims fields entry.1 = false) :
      Reported (.map fields false) path value
        (.mk (path ++ [.key entry.1.keyText]) .unexpectedField (Node.keysText fields)
          ("key `" ++ entry.1.keyText ++ "`") [])
  | pattern {fields : List (Field Node)} {allowEmpty : Bool} {path : DocPath} {value : Value}
      {entries : Entries} {entry : Value × Value} {field : Field Node} {violation : Violation}
      (mapping : value.content = .map entries) (inEntries : entry ∈ entries)
      (unclaimed : claims fields entry.1 = false) (member : field ∈ fields)
      (below : Reported field.node (path ++ [.key entry.1.keyText]) entry.2 violation) :
      Reported (.map fields allowEmpty) path value violation
  | notSeq {variants : List Node} {matching : Matching} {path : DocPath} {value : Value} :
      Reported (.seq variants matching) path value (mismatch path "seq" value.content)
  | only {variant : Node} {matching : Matching} {path : DocPath} {value item : Value}
      {items : List Value} {position : Nat} {violation : Violation}
      (sequence : value.content = .seq items) (found : items[position]? = some item)
      (below : Reported variant (path ++ [.index position]) item violation) :
      Reported (.seq [variant] matching) path value violation
  | element {variants : List Node} {matching : Matching} {path : DocPath} {value item : Value}
      {items : List Value} {position : Nat} {causes : List Violation} {blamed : Violation → Node}
      (sequence : value.content = .seq items) (found : items[position]? = some item)
      (present : causes ≠ []) (members : ∀ cause ∈ causes, blamed cause ∈ variants)
      (below : ∀ cause ∈ causes, Reported (blamed cause) (path ++ [.index position]) item cause) :
      Reported (.seq variants matching) path value
        (.mk (path ++ [.index position]) .elementMismatch (Node.variantsText variants matching)
          item.summary causes)
  | leaf {leaf : Scalar} {path : DocPath} {value : Value} {violation : Violation}
      (fault : LeafFault path leaf value.content violation) :
      Reported (.scalar leaf) path value violation
  | included {name : String} {target : Node} {path : DocPath} {value : Value}
      {violation : Violation} (below : Reported target path value violation) :
      Reported (.included name target) path value violation

variable {config : Config} {path : DocPath} {value : Value} {violation : Violation}

theorem leafFault_of_mem {leaf : Scalar} (member : violation ∈ scalarViolations path leaf value) :
    LeafFault path leaf value violation := by
  unfold scalarViolations at member
  split at member
  · cases member
  · split at member
    · simp only [List.mem_append] at member
      rcases member with ((inEmptiness | inPattern) | inAllowed) | inRange
      · unfold emptiness at inEmptiness
        split at inEmptiness
        · split at inEmptiness
          · rename_i text _ flagged
            obtain rfl : text = "" := by simp_all
            rw [List.mem_singleton.mp inEmptiness]
            exact .empty
          · cases inEmptiness
        · cases inEmptiness
      · unfold patternFault at inPattern
        split at inPattern
        · split at inPattern
          · rename_i declared
            split at inPattern
            · cases inPattern
            · rw [List.mem_singleton.mp inPattern]
              exact .pattern declared
          · cases inPattern
        · cases inPattern
      · unfold allowedFault at inAllowed
        split at inAllowed
        · cases inAllowed
        · rw [List.mem_singleton.mp inAllowed]
          exact .allowed
      · unfold rangeFault at inRange
        split at inRange
        · rename_i declared measure
          split at inRange
          · cases inRange
          · rw [List.mem_singleton.mp inRange]
            exact .range declared measure
        · cases inRange
    · rw [List.mem_singleton.mp member]
      exact .kind

/-- Whatever the node reports, it comes to do so. -/
def Traces (config : Config) (node : Node) : Prop :=
  ∀ path value violation, violation ∈ check config path node value →
    Reported node path value violation

section Fields

variable {fields : List (Field Node)} {allowEmpty : Bool} {entries : Entries}

theorem reported_of_mem_literal {field : Field Node} (ofField : Traces config field.node)
    (mapping : value.content = .map entries) (member : field ∈ fields)
    (found : violation ∈ literalViolations config path entries field) :
    Reported (.map fields allowEmpty) path value violation := by
  unfold literalViolations at found
  split at found
  · cases found
  · rename_i name literal
    split at found
    · rename_i stored isStored
      exact .literal mapping member literal isStored (ofField _ _ _ found)
    · rename_i absent
      split at found
      · rename_i required
        rw [List.mem_singleton.mp found]
        exact .missing mapping member literal required absent
      · cases found

theorem reported_of_mem_pattern {entry : Value × Value}
    (ofField : ∀ field ∈ fields, Traces config field.node)
    (mapping : value.content = .map entries) (inEntries : entry ∈ entries)
    (unclaimed : claims fields entry.1 = false)
    (found : violation ∈ patternViolations config path fields allowEmpty entry) :
    Reported (.map fields allowEmpty) path value violation := by
  unfold patternViolations unclaimedViolations at found
  split at found
  · rename_i refused
    obtain rfl : allowEmpty = false := by simp_all
    rw [List.mem_singleton.mp found]
    exact .unexpected mapping inEntries unclaimed
  · rw [← List.flatMap_def, List.mem_flatMap] at found
    obtain ⟨field, applies, inField⟩ := found
    have member := mem_of_mem_applicable applies
    exact .pattern mapping inEntries unclaimed member (ofField field member _ _ _ inField)

theorem map_traces (ofField : ∀ field ∈ fields, Traces config field.node) :
    Traces config (.map fields allowEmpty) := by
  intro path value violation found
  by_cases mapping : ∃ entries : Entries, value.content = .map entries
  · obtain ⟨entries, mapping⟩ := mapping
    rw [check_map mapping, List.mem_append, List.mem_flatMap, List.mem_flatMap] at found
    rcases found with ⟨field, member, inField⟩ | ⟨entry, inEntries, inEntry⟩
    · exact reported_of_mem_literal (ofField field member) mapping member inField
    · split at inEntry
      · cases inEntry
      · rename_i unclaimed
        exact reported_of_mem_pattern ofField mapping inEntries (Bool.eq_false_iff.mpr unclaimed)
          inEntry
  · rw [check_map_of_not_map (not_exists.mp mapping)] at found
    rw [List.mem_singleton.mp found]
    exact .notMap

end Fields

section Variants

variable {variants : List Node} {matching : Matching}

theorem reported_of_mem_element {items : List Value} {item : Value} {position : Nat}
    (ofVariant : ∀ variant ∈ variants, Traces config variant)
    (sequence : value.content = .seq items) (isItem : items[position]? = some item)
    (found : violation ∈ elementViolations config (path ++ [.index position]) variants matching item
      (variants.map fun variant => check config (path ++ [.index position]) variant item)) :
    Reported (.seq variants matching) path value violation := by
  unfold elementViolations at found
  split at found
  · cases found
  · rename_i causes isCauses
    obtain ⟨present, fromOutcomes⟩ := causes?_eq_some isCauses
    have origin (cause : Violation) (inCauses : cause ∈ causes) :
        ∃ variant ∈ variants, cause ∈ check config (path ++ [.index position]) variant item := by
      obtain ⟨_, inOutcomes, inOutcome⟩ := fromOutcomes cause inCauses
      obtain ⟨variant, member, rfl⟩ := List.mem_map.mp inOutcomes
      exact ⟨variant, member, inOutcome⟩
    have : Nonempty Node := ⟨.seq variants matching⟩
    choose! blamed members outcomes using origin
    rw [List.mem_singleton.mp found]
    exact .element sequence isItem present members fun cause inCauses =>
      ofVariant _ (members cause inCauses) _ _ _ (outcomes cause inCauses)

theorem seq_traces (ofVariant : ∀ variant ∈ variants, Traces config variant) :
    Traces config (.seq variants matching) := by
  intro path value violation found
  by_cases sequence : ∃ items, value.content = .seq items
  · obtain ⟨items, sequence⟩ := sequence
    by_cases single : variants.length = 1
    · obtain ⟨only, rfl⟩ := List.length_eq_one_iff.mp single
      rw [check_seq_one sequence, List.mem_flatMap] at found
      obtain ⟨element, member, inElement⟩ := found
      exact .only sequence (List.mem_zipIdx_iff_getElem?.mp member)
        (ofVariant only (by simp) _ _ _ inElement)
    · rw [check_seq_several single sequence, List.mem_flatMap] at found
      obtain ⟨element, member, inElement⟩ := found
      exact reported_of_mem_element ofVariant sequence (List.mem_zipIdx_iff_getElem?.mp member)
        inElement
  · rw [check_seq_of_not_seq (not_exists.mp sequence)] at found
    rw [List.mem_singleton.mp found]
    exact .notSeq

end Variants

theorem check_traces (node : Node) : Traces config node := by
  induction node using Node.induction with
  | map fields allowEmpty ofField => exact map_traces ofField
  | seq variants matching ofVariant => exact seq_traces ofVariant
  | scalar leaf =>
      intro path value violation found
      rw [check_scalar] at found
      exact .leaf (leafFault_of_mem found)
  | included name target ofTarget =>
      intro path value violation found
      rw [check_included] at found
      exact .included (ofTarget path value violation found)

end DocShape.Validation
