import DocShape.Proofs.Validation.Comparison
import DocShape.Proofs.Validation.Location

namespace DocShape

/-! A change to the value at one position of a document changes nothing in the report but what
is said about that value, about its parts and about what it is a part of.
-/

/-- The documents are alike but for the value at this position, which tags do not count for. -/
inductive Value.EditedAt : DocPath → Value → Value → Prop where
  | here (before after : Value) : EditedAt [] before after
  | tagged {position : DocPath} {tag : String} {before after : Value}
      (below : EditedAt position before after) :
      EditedAt position (.tagged tag before) (.tagged tag after)
  | item {position : DocPath} {front rest : List Value} {before after : Value}
      (below : EditedAt position before after) :
      EditedAt (.index front.length :: position) (.seq (front ++ before :: rest))
        (.seq (front ++ after :: rest))
  | stored {position : DocPath} {front rest : Entries} {key before after : Value}
      (below : EditedAt position before after) :
      EditedAt (.key key.keyText :: position) (.map (front ++ (key, before) :: rest))
        (.map (front ++ (key, after) :: rest))

/-- The violation is neither about the position, nor about what lies below it, nor about what
it lies in. -/
def Violation.Elsewhere (position : DocPath) (violation : Violation) : Prop :=
  ¬ violation.path <+: position ∧ ¬ position <+: violation.path

instance (position : DocPath) : DecidablePred (Violation.Elsewhere position) :=
  fun _ => instDecidableAnd

namespace Value

variable {position path : DocPath} {before after : Value}

/-- Two values that stand at `path` in documents that are edited at `position`. -/
def EditedWithin (position path : DocPath) (before after : Value) : Prop :=
  before = after ∨ ∃ below, position = path ++ below ∧ EditedAt below before after

/-- How two values differ that stand at `path` in documents that are edited at `position`. -/
inductive Differs (position path : DocPath) (before after : Value) : Prop where
  | nowhere (same : before = after)
  | here (inside : position <+: path)
  | stored {entries others : Entries} (around : path <+: position)
      (isMap : before.content = .map entries) (otherIsMap : after.content = .map others)
      (pairs : List.Forall₂ (fun entry other => entry.1 = other.1 ∧
        EditedWithin position (path ++ [.key entry.1.keyText]) entry.2 other.2) entries others)
  | item {items others : List Value} (around : path <+: position)
      (isSeq : before.content = .seq items) (otherIsSeq : after.content = .seq others)
      (pairs : List.Forall₂ (fun element other => element.2 = other.2 ∧
        EditedWithin position (path ++ [.index element.2]) element.1 other.1)
        items.zipIdx others.zipIdx)

theorem EditedWithin.differs (within : EditedWithin position path before after) :
    Differs position path before after := by
  rcases within with same | ⟨below, rfl, edited⟩
  · exact .nowhere same
  · induction edited with
    | here before after => exact .here (by simp)
    | tagged _ ofInner =>
        cases ofInner with
        | nowhere same => exact .nowhere (congrArg _ same)
        | here inside => exact .here inside
        | stored around isMap otherIsMap pairs => exact .stored around isMap otherIsMap pairs
        | item around isSeq otherIsSeq pairs => exact .item around isSeq otherIsSeq pairs
    | @item deeper front rest before after below _ =>
        refine .item (List.prefix_append _ _) rfl rfl ?_
        rw [List.zipIdx_append, List.zipIdx_append, List.zipIdx_cons, List.zipIdx_cons]
        refine forall₂_replaced (fun _ => ⟨rfl, .inl rfl⟩) ⟨rfl, .inr ⟨deeper, ?_, below⟩⟩
        simp
    | @stored deeper front rest key before after below _ =>
        refine .stored (List.prefix_append _ _) rfl rfl ?_
        refine forall₂_replaced (fun _ => ⟨rfl, .inl rfl⟩) ⟨rfl, .inr ⟨deeper, ?_, below⟩⟩
        simp

end Value

namespace Validation

variable {config : Config} {position path : DocPath}

/-- The reports say the same elsewhere. -/
def AgreeElsewhere (position : DocPath) (outcome other : List Violation) : Prop :=
  outcome.filter (Violation.Elsewhere position ·) = other.filter (Violation.Elsewhere position ·)

theorem agreeElsewhere_composes : Composes (AgreeElsewhere position) where
  refl _ := rfl
  append fronts rests := by
    unfold AgreeElsewhere at *
    rw [List.filter_append, List.filter_append, fronts, rests]

/-- Reports that say nothing about elsewhere. -/
theorem agreeElsewhere_of_near {outcome other : List Violation}
    (near : ∀ violation ∈ outcome ++ other,
      violation.path <+: position ∨ position <+: violation.path) :
    AgreeElsewhere position outcome other := by
  have silent (report : List Violation) (among : report ⊆ outcome ++ other) :
      report.filter (Violation.Elsewhere position ·) = [] := by
    refine List.filter_eq_nil_iff.mpr fun violation member => ?_
    rw [decide_eq_true_eq]
    intro ⟨notAbove, notBelow⟩
    exact (near violation (among member)).elim notAbove notBelow
  rw [AgreeElsewhere, silent outcome (by simp), silent other (by simp)]

/-- What is said about the value at `path` itself, around the edited position. -/
theorem agreeElsewhere_around {outcome other : List Violation} (around : path <+: position)
    (here : ∀ violation ∈ outcome ++ other, violation.path = path) :
    AgreeElsewhere position outcome other :=
  agreeElsewhere_of_near fun violation member => .inl (by rwa [here violation member])

/-- Values that differ at the edited position only get reports that agree elsewhere. -/
def Local (config : Config) (position : DocPath) (node : Node) : Prop :=
  ∀ path before after, Value.EditedWithin position path before after →
    AgreeElsewhere position (check config path node before) (check config path node after)

theorem agreeElsewhere_mismatch (around : path <+: position) (expected : String)
    (before after : Value) :
    AgreeElsewhere position [mismatch path expected before] [mismatch path expected after] :=
  agreeElsewhere_around around (by simp [mismatch, Violation.path])

/-- A report from the edited position downwards says nothing about elsewhere. -/
theorem agreeElsewhere_below (inside : position <+: path) (node : Node) (before after : Value) :
    AgreeElsewhere position (check config path node before) (check config path node after) := by
  refine agreeElsewhere_of_near fun violation member => .inr (inside.trans ?_)
  rcases List.mem_append.mp member with ofBefore | ofAfter
  · exact prefix_path_of_mem_check ofBefore
  · exact prefix_path_of_mem_check ofAfter

theorem map_local {fields : List (Field Node)} {allowEmpty : Bool}
    (ofField : ∀ field ∈ fields, Local config position field.node) :
    Local config position (.map fields allowEmpty) := by
  intro path before after within
  cases within.differs with
  | nowhere same =>
      rw [same]
      exact agreeElsewhere_composes.refl _
  | here inside => exact agreeElsewhere_below inside _ before after
  | item around isSeq otherIsSeq pairs =>
      rw [check_map_of_not_map (by simp [isSeq]), check_map_of_not_map (by simp [otherIsSeq])]
      exact agreeElsewhere_mismatch around "map" _ _
  | stored around isMap otherIsMap pairs =>
      exact agreeElsewhere_composes.map_paired rfl _ isMap otherIsMap pairs
        fun field member key stored other => ofField field member _ stored other

/-- An element with the edit in it is blamed, if at all, at a place around the edit. -/
theorem elementViolations_local {variants : List Node} {matching : Matching} {before after : Value}
    (within : Value.EditedWithin position path before after) :
    AgreeElsewhere position
      (elementViolations config path variants matching before
        (variants.map fun variant => check config path variant before))
      (elementViolations config path variants matching after
        (variants.map fun variant => check config path variant after)) := by
  rcases within with rfl | ⟨below, split, _⟩
  · exact agreeElsewhere_composes.refl _
  · have around : path <+: position := by
      rw [split]
      exact List.prefix_append path below
    refine agreeElsewhere_around around fun violation member => ?_
    rcases List.mem_append.mp member with ofBefore | ofAfter
    · exact path_of_mem_elementViolations ofBefore
    · exact path_of_mem_elementViolations ofAfter

theorem seq_local {variants : List Node} {matching : Matching}
    (ofVariant : ∀ variant ∈ variants, Local config position variant) :
    Local config position (.seq variants matching) := by
  intro path before after within
  cases within.differs with
  | nowhere same =>
      rw [same]
      exact agreeElsewhere_composes.refl _
  | here inside => exact agreeElsewhere_below inside _ before after
  | stored around isMap otherIsMap pairs =>
      rw [check_seq_of_not_seq (by simp [isMap]), check_seq_of_not_seq (by simp [otherIsMap])]
      exact agreeElsewhere_mismatch around "seq" _ _
  | item around isSeq otherIsSeq pairs =>
      by_cases single : variants.length = 1
      · obtain ⟨only, rfl⟩ := List.length_eq_one_iff.mp single
        rw [check_seq_one isSeq, check_seq_one otherIsSeq]
        refine agreeElsewhere_composes.flatMap (pairs.imp fun element other paired => ?_)
        obtain ⟨item, index⟩ := element
        obtain ⟨_, _⟩ := other
        obtain ⟨rfl, within⟩ := paired
        exact ofVariant only (by simp) _ item _ within
      · rw [check_seq_several single isSeq, check_seq_several single otherIsSeq]
        refine agreeElsewhere_composes.flatMap (pairs.imp fun element other paired => ?_)
        obtain ⟨item, index⟩ := element
        obtain ⟨_, _⟩ := other
        obtain ⟨rfl, within⟩ := paired
        exact elementViolations_local within

theorem scalar_local (leaf : Scalar) : Local config position (.scalar leaf) := by
  intro path before after within
  cases within.differs with
  | nowhere same =>
      rw [same]
      exact agreeElsewhere_composes.refl _
  | here inside => exact agreeElsewhere_below inside _ before after
  | stored around isMap otherIsMap _ =>
      rw [check_scalar, check_scalar, scalarViolations_of_unlike leaf (.inl ⟨_, isMap⟩),
        scalarViolations_of_unlike leaf (.inl ⟨_, otherIsMap⟩)]
      split
      · exact agreeElsewhere_composes.refl []
      · exact agreeElsewhere_mismatch around leaf.kind.name _ _
  | item around isSeq otherIsSeq _ =>
      rw [check_scalar, check_scalar, scalarViolations_of_unlike leaf (.inr ⟨_, isSeq⟩),
        scalarViolations_of_unlike leaf (.inr ⟨_, otherIsSeq⟩)]
      split
      · exact agreeElsewhere_composes.refl []
      · exact agreeElsewhere_mismatch around leaf.kind.name _ _

theorem check_local (node : Node) : Local config position node := by
  induction node using Node.induction with
  | map fields allowEmpty ofField => exact map_local ofField
  | seq variants matching ofVariant => exact seq_local ofVariant
  | scalar leaf => exact scalar_local leaf
  | included name target ofTarget =>
      intro path before after within
      rw [check_included, check_included]
      exact ofTarget path before after within

end Validation

/-- Documents that are alike but for the value at one position get the same violations
elsewhere, with the same causes and in the same order. -/
theorem Schema.validate_elsewhere (schema : Schema) {position : DocPath} {before after : Value}
    (edited : Value.EditedAt position before after) :
    (schema.validate before).filter (Violation.Elsewhere position ·) =
      (schema.validate after).filter (Violation.Elsewhere position ·) :=
  Validation.check_local schema.root [] before after (.inr ⟨position, rfl, edited⟩)

/-- An edit that turns an element from passing to failing, next to other faults. -/
theorem Schema.validate_elsewhere_sibling :
    let sizes : Node := .seq [.scalar (.ofKind .int), .scalar (.ofKind .bool)] .any
    let depth : Field Node := ⟨.literal "depth", true, .scalar (.ofKind .int)⟩
    let schema := Schema.ofNode (.map [⟨.literal "sizes", true, sizes⟩, depth] false)
    let document (size : Value) : Value := .map
      [(.tagged "!mark" (.string "sizes"), .seq [size, .string "tall"]), (.string "depth", .null)]
    let position : DocPath := [.key "sizes", .index 0]
    let before := schema.validate (document (.int 1))
    let after := schema.validate (document .null)
    Value.EditedAt position (document (.int 1)) (document .null) ∧
      before.length = 2 ∧ after.length = 3 ∧
      before.filter (Violation.Elsewhere position ·) =
        after.filter (Violation.Elsewhere position ·) := by
  intro sizes depth schema document position before after
  have ofElement : Value.EditedAt [.index 0] (.seq [.int 1, .string "tall"])
      (.seq [.null, .string "tall"]) := @Value.EditedAt.item [] [] _ _ _ (.here _ _)
  have edited : Value.EditedAt position (document (.int 1)) (document .null) :=
    @Value.EditedAt.stored _ [] _ (.tagged "!mark" (.string "sizes")) _ _ ofElement
  exact ⟨edited, rfl, rfl, validate_elsewhere schema edited⟩

end DocShape
