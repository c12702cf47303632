import DocShape.Proofs.Validation.Comparison
import DocShape.Proofs.Validation.Coverage
import Mathlib.Data.List.Nodup

namespace DocShape.Validation

/-! The elements of a sequence one by one: which are reported, and what is told about them.

An element is reported if no shape accepts it, or not every one, as the sequence asks.  Where
there is a choice of shapes this is one violation, explained by the shapes that refuse it.  A
sequence without shapes reports no element, also where it asks for one of them.
-/

variable {config : Config} {path : DocPath} {variants : List Node} {matching : Matching}
  {item value : Value} {items : List Value} {index : Nat}

/-- What a report on the sequence at `path` says about an element, or about what lies in it. -/
def aboutElement (path : DocPath) (index : Nat) (report : List Violation) : List Violation :=
  report.filter fun violation => path ++ [.index index] <+: violation.path

/-- The element has one of the shapes, or all of them. -/
def Meets (config : Config) (variants : List Node) (item : Value) : Matching → Prop
  | .any => ∃ variant ∈ variants, Accepts config variant item
  | .all => ∀ variant ∈ variants, Accepts config variant item

/-- The shapes that do not accept the element, in their order. -/
def refusing (config : Config) (variants : List Node) (item : Value) : List Node :=
  variants.filter fun variant => !(check config [] variant item).isEmpty

/-- What is told about the element at `path` if these shapes refuse it: the whole report of the
first one whose report is shortest, or the reports of all in a row. -/
def Explains (config : Config) (path : DocPath) (refused : List Node) (item : Value)
    (causes : List Violation) : ElementReport → Prop
  | .closest => ∃ before closest after, refused = before ++ closest :: after ∧
      causes = check config path closest item ∧
      (∀ earlier ∈ before, causes.length < (check config path earlier item).length) ∧
      ∀ later ∈ after, causes.length ≤ (check config path later item).length
  | .all => causes = refused.flatMap fun variant => check config path variant item

theorem mem_refusing_iff {variant : Node} :
    variant ∈ refusing config variants item ↔
      variant ∈ variants ∧ ¬ Accepts config variant item := by
  simp [refusing, Accepts]

/-- Whether a shape accepts an element does not depend on where the element stands. -/
theorem failures_map_check (path : DocPath) :
    failures (variants.map fun variant => check config path variant item) =
      (refusing config variants item).map fun variant => check config path variant item := by
  unfold failures refusing
  rw [List.filter_map]
  congr 2
  funext variant
  rw [Function.comp_apply, Bool.not_inj_iff, Bool.eq_iff_iff, List.isEmpty_iff, List.isEmpty_iff]
  exact check_eq_nil_iff_accepts

theorem passes_iff_meets (path : DocPath) :
    Passes (variants.map fun variant => check config path variant item) matching ↔
      Meets config variants item matching := by
  cases matching with
  | any => simp only [Passes, Meets, List.mem_map, exists_exists_and_eq_and,
      check_eq_nil_iff_accepts]
  | all => simp only [Passes, Meets, List.forall_mem_map, check_eq_nil_iff_accepts]

theorem index_eq_of_prefix {first second : Nat} {position : DocPath}
    (inside : path ++ [.index first] <+: position)
    (also : path ++ [.index second] <+: position) : first = second := by
  obtain ⟨rest, rfl⟩ := inside
  obtain ⟨other, same⟩ := also
  rw [List.append_assoc, List.append_assoc] at same
  have steps := List.append_cancel_left same
  simp only [List.singleton_append, List.cons.injEq, Segment.index.injEq] at steps
  exact steps.1.symm

/-- Where each element is reported on at its own place, the report on one of them can be picked
out of the whole. -/
theorem aboutElement_flatMap {found : Value × Nat → List Violation}
    (isThere : items[index]? = some item)
    (placed : ∀ element, ∀ violation ∈ found element,
      path ++ [.index element.2] <+: violation.path) :
    aboutElement path index (items.zipIdx.flatMap found) = found (item, index) := by
  have indexed : (item, index) ∈ items.zipIdx := List.mem_zipIdx_iff_getElem?.mpr isThere
  obtain ⟨before, after, split⟩ := List.append_of_mem indexed
  have once : (items.zipIdx.map (·.2)).Nodup := by
    rw [List.zipIdx_map_snd]
    exact List.nodup_range'
  rw [split, List.map_append, List.map_cons, List.nodup_middle, List.nodup_cons,
    ← List.map_append] at once
  have silent (elements : List (Value × Nat)) (others : elements ⊆ before ++ after) :
      aboutElement path index (elements.flatMap found) = [] := by
    refine List.filter_eq_nil_iff.mpr fun violation member inside => ?_
    obtain ⟨element, inElements, isFound⟩ := List.mem_flatMap.mp member
    have same := index_eq_of_prefix (of_decide_eq_true inside) (placed element violation isFound)
    exact once.1 (List.mem_map.mpr ⟨element, others inElements, same.symm⟩)
  have kept : aboutElement path index (found (item, index)) = found (item, index) :=
    List.filter_eq_self.mpr fun violation member =>
      decide_eq_true (placed (item, index) violation member)
  unfold aboutElement at *
  rw [split, List.flatMap_append, List.flatMap_cons, List.filter_append, List.filter_append, kept,
    silent before (List.subset_append_left _ _), silent after (List.subset_append_right _ _),
    List.nil_append, List.append_nil]

theorem aboutElement_check_one {only : Node} (isSeq : value.content = .seq items)
    (isThere : items[index]? = some item) :
    aboutElement path index (check config path (.seq [only] matching) value) =
      check config (path ++ [.index index]) only item := by
  rw [check_seq_one isSeq]
  exact aboutElement_flatMap isThere fun _ _ => prefix_path_of_mem_check

theorem aboutElement_check_several (several : variants.length ≠ 1)
    (isSeq : value.content = .seq items) (isThere : items[index]? = some item) :
    aboutElement path index (check config path (.seq variants matching) value) =
      elementViolations config (path ++ [.index index]) variants matching item
        (variants.map fun variant => check config (path ++ [.index index]) variant item) := by
  rw [check_seq_several several isSeq]
  refine aboutElement_flatMap isThere fun element violation member => ?_
  exact (path_of_mem_elementViolations member).symm ▸ List.prefix_refl _

/-- Nothing is reported about an element exactly when it has the shapes that the sequence asks
for, or the sequence has none. -/
theorem aboutElement_eq_nil_iff (isSeq : value.content = .seq items)
    (isThere : items[index]? = some item) :
    aboutElement path index (check config path (.seq variants matching) value) = [] ↔
      variants = [] ∨ Meets config variants item matching := by
  by_cases single : variants.length = 1
  · obtain ⟨only, rfl⟩ := List.length_eq_one_iff.mp single
    rw [aboutElement_check_one isSeq isThere, check_eq_nil_iff_accepts]
    cases matching <;> simp [Meets]
  · rw [aboutElement_check_several single isSeq isThere, elementViolations_eq_nil_iff,
      List.map_eq_nil_iff, passes_iff_meets]

/-- Two elements of a sequence that asks for both of its shapes. -/
theorem aboutElement_eq_nil_iff_both :
    let sizes : Node := .seq [.scalar (.ofKind .int), .scalar (.ofKind .number)] .all
    let report := check .standard [.key "sizes"] sizes (.seq [.null, .int 2])
    report.length = 1 ∧ aboutElement [.key "sizes"] 1 report = [] := by
  intro sizes report
  refine ⟨rfl, (aboutElement_eq_nil_iff rfl rfl).mpr (.inr fun variant member => ?_)⟩
  rcases List.mem_pair.mp member with rfl | rfl
  · rfl
  · rfl

/-- A sequence that asks for one of no shapes takes every element, although none has a shape. -/
theorem aboutElement_passes_over_shapeless :
    ¬ ∀ (config : Config) (path : DocPath) (variants : List Node) (matching : Matching)
      (value : Value) (items : List Value) (index : Nat) (item : Value),
      value.content = .seq items → items[index]? = some item →
        (aboutElement path index (check config path (.seq variants matching) value) = [] ↔
          Meets config variants item matching) := by
  intro agree
  obtain ⟨_, member, _⟩ := (agree .standard [] [] .any (.seq [.int 1]) _ 0 _ rfl rfl).mp rfl
  cases member

theorem explains_explained (present : refusing config variants item ≠ []) (report : ElementReport) :
    Explains config path (refusing config variants item) item
      (explained report
        (failures (variants.map fun variant => check config path variant item))) report := by
  rw [failures_map_check]
  cases report with
  | all => rw [Explains, explained, List.flatMap_def]
  | closest =>
      have someOutcome : (refusing config variants item).map (check config path · item) ≠ [] :=
        mt List.map_eq_nil_iff.mp present
      obtain ⟨before, after, split, inFront, behind⟩ := fewest_split someOutcome
      obtain ⟨front, rest, parts, rfl, ofRest⟩ := List.map_eq_append_iff.mp split
      obtain ⟨closest, back, rfl, isClosest, rfl⟩ := List.map_eq_cons_iff.mp ofRest
      exact ⟨front, closest, back, parts, isClosest.symm,
        fun earlier member => inFront _ (List.mem_map_of_mem member),
        fun later member => behind _ (List.mem_map_of_mem member)⟩

/-- About an element that a sequence with a choice of shapes does not take there is one
violation, at the element's place.  Its causes tell of the shapes that refuse the element;
those are all shapes if one of them would do. -/
theorem aboutElement_explained (several : 2 ≤ variants.length) (isSeq : value.content = .seq items)
    (isThere : items[index]? = some item) (fails : ¬ Meets config variants item matching) :
    (∃ causes,
      aboutElement path index (check config path (.seq variants matching) value) =
        [.mk (path ++ [.index index]) .elementMismatch (Node.variantsText variants matching)
          item.summary causes] ∧
      Explains config (path ++ [.index index]) (refusing config variants item) item causes
        config.elementReport) ∧
      (matching = .any → refusing config variants item = variants) := by
  have ofAny (isAny : matching = .any) : refusing config variants item = variants := by
    subst isAny
    refine List.filter_eq_self.mpr fun variant member => ?_
    have refuses : ¬ Accepts config variant item := fun accepts => fails ⟨variant, member, accepts⟩
    simpa [Accepts] using refuses
  have refused : refusing config variants item ≠ [] := by
    cases matching with
    | any =>
        rw [ofAny rfl]
        exact List.ne_nil_of_length_pos (by omega)
    | all =>
        simp only [Meets, not_forall] at fails
        obtain ⟨variant, member, refuses⟩ := fails
        exact List.ne_nil_of_mem (mem_refusing_iff.mpr ⟨member, refuses⟩)
  refine ⟨⟨_, ?_, explains_explained refused config.elementReport⟩, ofAny⟩
  rw [aboutElement_check_several (by omega) isSeq isThere]
  refine elementViolations_of_failing ?_
  rw [List.map_eq_nil_iff, passes_iff_meets]
  rintro (none | meets)
  · simp [none] at several
  · exact fails meets

/-- An element that fails two of three shapes in as many ways, where all three are asked for. -/
theorem aboutElement_explained_tie :
    let variants : List Node :=
      [.scalar (.ofKind .int), .scalar (.ofKind .any), .scalar (.ofKind .bool)]
    let refused : List Node := [.scalar (.ofKind .int), .scalar (.ofKind .bool)]
    let item : Value := .string "wide"
    refusing .standard variants item = refused ∧
      ∃ causes,
        aboutElement [] 0 (check .standard [] (.seq variants .all) (.seq [item])) =
          [.mk [.index 0] .elementMismatch (Node.variantsText variants .all) item.summary causes] ∧
        Explains .standard [.index 0] refused item causes .closest := by
  intro variants refused item
  have fails : ¬ Meets .standard variants item .all := fun meets =>
    List.cons_ne_nil _ _ (meets (.scalar (.ofKind .int)) List.mem_cons_self)
  have several : 2 ≤ variants.length := by decide
  exact ⟨rfl, (@aboutElement_explained .standard [] _ _ _ _ _ _ several rfl rfl fails).1⟩

end DocShape.Validation
