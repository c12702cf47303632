import DocShape.Proofs.Causes
import DocShape.Proofs.Rearranged
import DocShape.Proofs.Validation.Comparison
import Mathlib.Data.List.Perm.Basic

namespace DocShape

/-! The order of a mapping's entries does not matter: a document with rearranged mappings gets
the same violations, at most in another order, and so for the causes of each.
-/

/-- The members of one list in another order, each next to a related one. -/
def UpToOrder {α β : Type} (related : α → β → Prop) (members : List α) (others : List β) : Prop :=
  ∃ middle, members.Perm middle ∧ List.Forall₂ related middle others

/-- The same violation, with causes that match up to their order. -/
inductive Violation.Matches : Violation → Violation → Prop where
  | mk {path : DocPath} {kind : ViolationKind} {expected actual : String}
      {causes middle others : List Violation} (order : causes.Perm middle)
      (each : List.Forall₂ Matches middle others) :
      Matches (.mk path kind expected actual causes) (.mk path kind expected actual others)

theorem Violation.Matches.refl (violation : Violation) : violation.Matches violation := by
  induction violation using Violation.induction with
  | mk path kind expected actual causes ofCauses =>
      exact .mk (List.Perm.refl causes) (List.forall₂_same.mpr ofCauses)

namespace UpToOrder

variable {α β : Type} {related : α → β → Prop} {members middle : List α} {others : List β}

theorem of_perm (order : members.Perm middle) (each : UpToOrder related middle others) :
    UpToOrder related members others := by
  obtain ⟨last, reordered, each⟩ := each
  exact ⟨last, order.trans reordered, each⟩

theorem length_eq (each : UpToOrder related members others) : members.length = others.length := by
  obtain ⟨middle, order, each⟩ := each
  exact order.length_eq.trans each.length_eq

theorem eq_nil_iff (each : UpToOrder related members others) : members = [] ↔ others = [] := by
  rw [← List.length_eq_zero_iff, ← List.length_eq_zero_iff, each.length_eq]

end UpToOrder

namespace Validation

variable {config : Config} {path : DocPath} {fields : List (Field Node)}

theorem upToOrder_composes : Composes (UpToOrder Violation.Matches) where
  refl outcome := ⟨outcome, .refl outcome, List.forall₂_same.mpr fun violation _ => .refl violation⟩
  append fronts rests := by
    obtain ⟨front, frontOrder, frontEach⟩ := fronts
    obtain ⟨rest, restOrder, restEach⟩ := rests
    exact ⟨front ++ rest, frontOrder.append restOrder, List.rel_append frontEach restEach⟩

/-- The choice among failed shapes depends on how much is wrong with each, not on the order. -/
theorem explained_upToOrder {outcomes others : List (List Violation)} (report : ElementReport)
    (each : List.Forall₂ (UpToOrder Violation.Matches) outcomes others) :
    UpToOrder Violation.Matches (explained report outcomes) (explained report others) := by
  cases report with
  | closest =>
      exact fewest_paired each (upToOrder_composes.refl []) fun _ _ agreed => agreed.length_eq
  | all => exact upToOrder_composes.flatten each

/-- A rearranged value gets the same violations up to order. -/
def Unordered (config : Config) (node : Node) : Prop :=
  ∀ path value other, value.NamesOnce → value.Rearranged other →
    UpToOrder Violation.Matches (check config path node value) (check config path node other)

theorem check_map_perm {allowEmpty : Bool} {entries others : Entries} (once : entries.NamesOnce)
    (order : entries.Perm others) :
    (check config path (.map fields allowEmpty) (.map entries)).Perm
      (check config path (.map fields allowEmpty) (.map others)) := by
  have literal : literalViolations config path entries = literalViolations config path others := by
    funext field
    unfold literalViolations
    simp only [literalValue?_perm once order]
  rw [check_map (Value.content_map entries), check_map (Value.content_map others), literal]
  exact (order.flatMap_right _).append_left _

theorem mismatch_rearranged {value other : Value} (rearranged : value.Rearranged other)
    (expected : String) :
    mismatch path expected value.content = mismatch path expected other.content := by
  unfold mismatch
  rw [Value.summary_content, Value.summary_content, rearranged.summary_eq]

theorem map_unordered {allowEmpty : Bool} (ofField : ∀ field ∈ fields, Unordered config field.node) :
    Unordered config (.map fields allowEmpty) := by
  intro path value other once rearranged
  cases rearranged.reordered with
  | same same =>
      rw [← check_content, same, check_content]
      exact upToOrder_composes.refl _
  | items isSeq otherIsSeq each =>
      rw [check_map_of_not_map (by simp [isSeq]), check_map_of_not_map (by simp [otherIsSeq]),
        mismatch_rearranged rearranged]
      exact upToOrder_composes.refl _
  | @entries entries middle others isMap otherIsMap order each =>
      have inside := Value.Everywhere.content once
      rw [isMap, Value.everywhere_map_iff] at inside
      obtain ⟨here, below⟩ := inside
      have pairs : List.Forall₂ (fun entry other => entry.1 = other.1 ∧
          entry.2.NamesOnce ∧ entry.2.Rearranged other.2) middle others := by
        refine forall₂_of_mem each fun entry member _ _ paired => ?_
        have storedOnce := (below entry (order.mem_iff.mpr member)).2
        cases paired with
        | mk rearranged => exact ⟨rfl, storedOnce, rearranged⟩
      -- First the entries change places, then what stands under each key changes in place.
      rw [← check_content, isMap]
      refine UpToOrder.of_perm (check_map_perm here order) ?_
      refine upToOrder_composes.map_paired rfl
        (fun _ stored other => stored.NamesOnce ∧ stored.Rearranged other)
        (Value.content_map middle) otherIsMap pairs fun field member key stored other paired => ?_
      exact ofField field member _ stored other paired.1 paired.2

theorem elementViolations_unordered {variants : List Node} {matching : Matching}
    {item other : Value} (ofVariant : ∀ variant ∈ variants, Unordered config variant)
    (once : item.NamesOnce) (rearranged : item.Rearranged other) :
    UpToOrder Violation.Matches
      (elementViolations config path variants matching item
        (variants.map fun variant => check config path variant item))
      (elementViolations config path variants matching other
        (variants.map fun variant => check config path variant other)) := by
  have outcomes : List.Forall₂ (UpToOrder Violation.Matches)
      (variants.map fun variant => check config path variant item)
      (variants.map fun variant => check config path variant other) := by
    rw [List.forall₂_map_left_iff, List.forall₂_map_right_iff, List.forall₂_same]
    intro variant member
    exact ofVariant variant member path item other once rearranged
  refine elementViolations_paired outcomes (upToOrder_composes.refl [])
    (fun _ _ agreed => agreed.eq_nil_iff) fun failed => ?_
  obtain ⟨middle, order, each⟩ := explained_upToOrder config.elementReport failed
  rw [rearranged.summary_eq]
  exact ⟨_, .refl _, .cons (.mk order each) .nil⟩

theorem seq_unordered {variants : List Node} {matching : Matching}
    (ofVariant : ∀ variant ∈ variants, Unordered config variant) :
    Unordered config (.seq variants matching) := by
  intro path value other once rearranged
  cases rearranged.reordered with
  | same same =>
      rw [← check_content, same, check_content]
      exact upToOrder_composes.refl _
  | entries isMap otherIsMap _ _ =>
      rw [check_seq_of_not_seq (by simp [isMap]), check_seq_of_not_seq (by simp [otherIsMap]),
        mismatch_rearranged rearranged]
      exact upToOrder_composes.refl _
  | @items items others isSeq otherIsSeq each =>
      have inside := Value.Everywhere.content once
      rw [isSeq, Value.everywhere_seq_iff] at inside
      have itemPairs : List.Forall₂ (fun item other => item.NamesOnce ∧ item.Rearranged other)
          items others :=
        forall₂_of_mem each fun item member _ _ rearranged => ⟨inside item member, rearranged⟩
      have pairs := forall₂_zipIdx itemPairs 0
      by_cases single : variants.length = 1
      · obtain ⟨only, rfl⟩ := List.length_eq_one_iff.mp single
        rw [check_seq_one isSeq, check_seq_one otherIsSeq]
        refine upToOrder_composes.flatMap (pairs.imp fun element other paired => ?_)
        obtain ⟨sameIndex, itemOnce, rearranged⟩ := paired
        rw [sameIndex]
        exact ofVariant only (by simp) _ element.1 other.1 itemOnce rearranged
      · rw [check_seq_several single isSeq, check_seq_several single otherIsSeq]
        refine upToOrder_composes.flatMap (pairs.imp fun element other paired => ?_)
        obtain ⟨sameIndex, itemOnce, rearranged⟩ := paired
        rw [sameIndex]
        exact elementViolations_unordered ofVariant itemOnce rearranged

theorem scalar_unordered (leaf : Scalar) : Unordered config (.scalar leaf) := by
  intro path value other once rearranged
  rw [check_scalar, check_scalar]
  cases rearranged.reordered with
  | same same =>
      rw [same]
      exact upToOrder_composes.refl _
  | items isSeq otherIsSeq _ =>
      rw [scalarViolations_of_unlike leaf (.inr ⟨_, isSeq⟩),
        scalarViolations_of_unlike leaf (.inr ⟨_, otherIsSeq⟩), mismatch_rearranged rearranged]
      exact upToOrder_composes.refl _
  | entries isMap otherIsMap _ _ =>
      rw [scalarViolations_of_unlike leaf (.inl ⟨_, isMap⟩),
        scalarViolations_of_unlike leaf (.inl ⟨_, otherIsMap⟩), mismatch_rearranged rearranged]
      exact upToOrder_composes.refl _

theorem check_unordered (node : Node) : Unordered config node := by
  induction node using Node.induction with
  | map fields allowEmpty ofField => exact map_unordered ofField
  | seq variants matching ofVariant => exact seq_unordered ofVariant
  | scalar leaf => exact scalar_unordered leaf
  | included name target ofTarget =>
      intro path value other once rearranged
      rw [check_included, check_included]
      exact ofTarget path value other once rearranged

end Validation

/-- However the entries of its mappings are arranged, a document in which no mapping spells a
name twice gets the same violations up to order. -/
theorem Schema.validate_rearranged (schema : Schema) {document other : Value}
    (once : document.NamesOnce) (rearranged : document.Rearranged other) :
    UpToOrder Violation.Matches (schema.validate document) (schema.validate other) :=
  Validation.check_unordered schema.root [] document other once rearranged

/-- A list of mappings, each arranged in another way, in a mapping that is rearranged too. -/
theorem Schema.validate_rearranged_nested :
    let number : Field Node := ⟨.literal "size", true, .scalar (.ofKind .int)⟩
    let flag : Field Node := ⟨.literal "size", true, .scalar (.ofKind .bool)⟩
    let parts : Node := .seq [.map [number] false, .map [flag] true] .any
    let schema := Schema.ofNode (.map [⟨.literal "parts", true, parts⟩] false)
    let size : Value × Value := (.tagged "!mark" (.string "size"), .string "wide")
    let depth : Value × Value := (.int 1, .null)
    let document : Value := .map [(.string "parts", .seq [.map [size, depth]]), depth]
    let other : Value := .map [depth, (.string "parts", .seq [.map [depth, size]])]
    document.NamesOnce ∧ document.Rearranged other ∧ (schema.validate document).length = 2 ∧
      UpToOrder Violation.Matches (schema.validate document) (schema.validate other) := by
  intro number flag parts schema size depth document other
  have once : document.NamesOnce := by
    simp [document, size, depth, Value.NamesOnce, Value.everywhere_map_iff,
      Value.everywhere_seq_iff, Value.everywhere_tagged_iff, Value.everywhere_scalar,
      Entries.NamesOnce, Entries.SpelledApart, Value.content]
  have inner : Value.Rearranged (.map [size, depth]) (.map [depth, size]) :=
    .map (.swap _ _ _) (.cons (.mk (.same _)) (.cons (.mk (.same _)) .nil))
  have rearranged : document.Rearranged other :=
    .map (.swap _ _ _) (.cons (.mk (.same _)) (.cons (.mk (.seq (.cons inner .nil))) .nil))
  exact ⟨once, rearranged, rfl, validate_rearranged schema once rearranged⟩

end DocShape
