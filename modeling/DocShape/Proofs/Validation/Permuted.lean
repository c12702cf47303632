import DocShape.Proofs.Validation.Loosening
import Mathlib.Data.List.Perm.Basic

namespace DocShape

/-! The order of declarations in a schema tree.

The fields of a map, the shapes of a sequence and the values that a leaf allows can stand in any
order.  Only where the first matching pattern field decides about a key do the pattern fields of
a map have to stay in their order among themselves.
-/

/-- One list of declarations somewhere in a tree, also below includes, put in another order. -/
inductive Node.Permuted (policy : PatternMatch) : Node → Node → Prop where
  | fields {fields others : List (Field Node)} {allowEmpty : Bool} (order : fields.Perm others)
      (precedence : policy = .first →
        fields.filter (·.key.pattern?.isSome) = others.filter (·.key.pattern?.isSome)) :
      Permuted policy (.map fields allowEmpty) (.map others allowEmpty)
  | variants {variants others : List Node} {matching : Matching} (order : variants.Perm others) :
      Permuted policy (.seq variants matching) (.seq others matching)
  | allowed {leaf : Scalar} {others : List Value} (order : leaf.allowed.Perm others) :
      Permuted policy (.scalar leaf) (.scalar { leaf with allowed := others })
  | field {front rest : List (Field Node)} {key : FieldKey} {required allowEmpty : Bool}
      {before after : Node} (below : Permuted policy before after) :
      Permuted policy (.map (front ++ ⟨key, required, before⟩ :: rest) allowEmpty)
        (.map (front ++ ⟨key, required, after⟩ :: rest) allowEmpty)
  | variant {front rest : List Node} {matching : Matching} {before after : Node}
      (below : Permuted policy before after) :
      Permuted policy (.seq (front ++ before :: rest) matching)
        (.seq (front ++ after :: rest) matching)
  | target {name : String} {before after : Node} (below : Permuted policy before after) :
      Permuted policy (.included name before) (.included name after)

namespace Node

variable {policy : PatternMatch} {before after : Node}

theorem Permuted.symm (permuted : before.Permuted policy after) :
    after.Permuted policy before := by
  induction permuted with
  | fields order precedence => exact .fields order.symm fun first => (precedence first).symm
  | variants order => exact .variants order.symm
  | @allowed leaf others order =>
      exact @Permuted.allowed policy { leaf with allowed := others } leaf.allowed order.symm
  | field _ ofBelow => exact .field ofBelow
  | variant _ ofBelow => exact .variant ofBelow
  | target _ ofBelow => exact .target ofBelow

theorem Varied.of_permuted (permuted : before.Permuted policy after) (varied : before.Varied) :
    after.Varied := by
  induction permuted with
  | fields order _ =>
      rw [varied_map_iff] at varied ⊢
      exact fun field member => varied field (order.mem_iff.mpr member)
  | variants order =>
      rw [varied_seq_iff] at varied ⊢
      refine ⟨fun none => varied.1 ?_, fun variant member => ?_⟩
      · exact (none ▸ order).eq_nil
      · exact varied.2 variant (order.mem_iff.mpr member)
  | allowed => exact .scalar _
  | field _ ofBelow =>
      simp only [varied_map_iff, List.forall_mem_append, List.forall_mem_cons] at varied ⊢
      exact ⟨varied.1, ofBelow varied.2.1, varied.2.2⟩
  | variant _ ofBelow =>
      simp only [varied_seq_iff, List.forall_mem_append, List.forall_mem_cons] at varied ⊢
      exact ⟨by simp, varied.2.1, ofBelow varied.2.2.1, varied.2.2.2⟩
  | target _ ofBelow =>
      rw [varied_included_iff] at varied ⊢
      exact ofBelow varied

end Node

namespace Validation

variable {config : Config} {fields others : List (Field Node)} {allowEmpty : Bool}
  {variants more : List Node} {matching : Matching} {item value : Value}

/-- Which fields decide about a key depends on no order but that of the pattern fields, and on
this only where the first one counts. -/
theorem mem_applicable_of_perm {policy : PatternMatch} {text : String} {field : Field Node}
    (order : fields.Perm others)
    (precedence : policy = .first →
      fields.filter (·.key.pattern?.isSome) = others.filter (·.key.pattern?.isSome)) :
    field ∈ applicable policy text fields ↔ field ∈ applicable policy text others := by
  cases policy with
  | all => exact (order.filter (selects text)).mem_iff
  | first =>
      have amongPatterns (declared : List (Field Node)) :
          declared.find? (selects text) =
            (declared.filter (·.key.pattern?.isSome)).find? (selects text) := by
        rw [List.find?_filter]
        congr 1
        funext field
        unfold selects
        cases field.key.pattern? <;> simp
      rw [applicable, applicable, amongPatterns fields, amongPatterns others, precedence rfl]

theorem takes_map_of_perm (order : fields.Perm others)
    (precedence : config.patternMatch = .first →
      fields.filter (·.key.pattern?.isSome) = others.filter (·.key.pattern?.isSome))
    (takes : Takes config (.map fields allowEmpty) value) :
    Takes config (.map others allowEmpty) value := by
  have applies (text : String) (field : Field Node) :
      field ∈ applicable config.patternMatch text fields ↔
        field ∈ applicable config.patternMatch text others :=
    mem_applicable_of_perm order precedence
  have unclaimed {key : Value} (free : ¬ Claimed others key) : ¬ Claimed fields key := by
    rintro ⟨field, member, spelled⟩
    exact free ⟨field, order.mem_iff.mp member, spelled⟩
  cases takes with
  | map isMap literal present matched known =>
      refine .map isMap (fun field member => literal field (order.mem_iff.mpr member))
        (fun field member => present field (order.mem_iff.mpr member)) ?_ ?_
      · intro entry member free field decides
        exact matched entry member (unclaimed free) field ((applies _ field).mpr decides)
      · intro entry member free none
        refine known entry member (unclaimed free) ?_
        refine List.eq_nil_iff_forall_not_mem.mpr fun field decides => ?_
        rw [applies, none] at decides
        cases decides

theorem takesElement_of_perm (order : variants.Perm more)
    (takes : TakesElement config variants matching item) :
    TakesElement config more matching item := by
  cases takes with
  | any member takes => exact .any (order.mem_iff.mp member) takes
  | all present each =>
      refine .all (fun none => present (none ▸ order).eq_nil) fun variant member => ?_
      exact each variant (order.mem_iff.mpr member)

theorem admits_of_perm {leaf : Scalar} {allowed : List Value} (order : leaf.allowed.Perm allowed)
    (admits : leaf.Admits value) : { leaf with allowed := allowed }.Admits value := by
  refine { admits with allowed := fun given => ?_ }
  obtain ⟨choice, member, same⟩ := admits.allowed fun none => given (none ▸ order).nil_eq.symm
  exact ⟨choice, order.mem_iff.mp member, same⟩

theorem takes_of_permuted {before after : Node}
    (permuted : before.Permuted config.patternMatch after) (value : Value)
    (takes : Takes config before value) : Takes config after value := by
  induction permuted generalizing value with
  | fields order precedence => exact takes_map_of_perm order precedence takes
  | variants order => exact takes_seq_of_element (fun _ => takesElement_of_perm order) takes
  | allowed order =>
      cases takes with
      | scalar admits => exact .scalar (admits.imp_right (admits_of_perm order))
  | field _ ofBelow =>
      refine takes_map_of_looser (forall₂_replaced .refl ?_) id takes
      exact ⟨rfl, id, ofBelow⟩
  | variant _ ofBelow => exact takes_seq_of_element (fun _ => takesElement_replaced ofBelow) takes
  | target _ ofBelow =>
      cases takes with
      | included takes => exact .included (ofBelow value takes)

/-- One list put in another order leaves nothing to report where there was nothing before, and
the other way round. -/
theorem check_eq_nil_iff_of_permuted {before after : Node} (path : DocPath)
    (permuted : before.Permuted config.patternMatch after) (varied : before.Varied) :
    check config path before value = [] ↔ check config path after value = [] := by
  rw [check_eq_nil_iff_takes varied, check_eq_nil_iff_takes (varied.of_permuted permuted)]
  exact ⟨takes_of_permuted permuted value, takes_of_permuted permuted.symm value⟩

/-- So do any number of lists, one after the other. -/
theorem check_eq_nil_iff_of_permutations {before after : Node} (path : DocPath)
    (permuted : Relation.ReflTransGen (Node.Permuted config.patternMatch) before after)
    (varied : before.Varied) :
    after.Varied ∧
      (check config path before value = [] ↔ check config path after value = []) := by
  induction permuted with
  | refl => exact ⟨varied, Iff.rfl⟩
  | tail _ last ofEarlier =>
      obtain ⟨stillVaried, agree⟩ := ofEarlier
      exact ⟨stillVaried.of_permuted last,
        agree.trans (check_eq_nil_iff_of_permuted path last stillVaried)⟩

end Validation

/-- A document passes or fails whatever the order of the declarations. -/
theorem Schema.validate_permuted {schema other : Schema} (same : schema.config = other.config)
    (permuted : Relation.ReflTransGen (Node.Permuted schema.config.patternMatch) schema.root
      other.root)
    (varied : schema.root.Varied) (document : Value) :
    schema.validate document = [] ↔ other.validate document = [] := by
  rw [Schema.validate, Schema.validate, ← same]
  exact (Validation.check_eq_nil_iff_of_permutations [] permuted varied).2

/-- Below an include two shapes change places, then the values that one of them allows, then
the fields of the map around them. -/
theorem Schema.validate_permuted_nested :
    let size (allowed : List Value) : Node := .scalar { Scalar.ofKind .int with allowed := allowed }
    let sizes (shapes : List Node) : Field Node :=
      ⟨.literal "sizes", true, .included "sizes" (.seq shapes .any)⟩
    let rest : Field Node := ⟨.pattern ⟨"", .empty⟩, false, .scalar (.ofKind .bool)⟩
    let schema :=
      Schema.ofNode (.map [sizes [size [.int 1, .int 2], .scalar (.ofKind .str)], rest] false)
    let other :=
      Schema.ofNode (.map [rest, sizes [.scalar (.ofKind .str), size [.int 2, .int 1]]] false)
    let document : Value :=
      .map [(.string "sizes", .seq [.int 2, .string "wide"]), (.string "open", .bool true)]
    Relation.ReflTransGen (Node.Permuted .first) schema.root other.root ∧
      schema.validate document = [] ∧ other.validate document = [] := by
  intro size sizes rest schema other document
  have within {shapes others : List Node}
      (below : (Node.seq shapes .any).Permuted .first (.seq others .any)) :
      (Node.map [sizes shapes, rest] false).Permuted .first (.map [sizes others, rest] false) :=
    @Node.Permuted.field _ [] _ _ _ _ _ _ (.target below)
  have shapes := within (.variants (.swap (.scalar (.ofKind .str)) (size [.int 1, .int 2]) []))
  have values : (Node.map [sizes [.scalar (.ofKind .str), size [.int 1, .int 2]], rest]
      false).Permuted .first
        (.map [sizes [.scalar (.ofKind .str), size [.int 2, .int 1]], rest] false) :=
    within (@Node.Permuted.variant _ [.scalar (.ofKind .str)] [] _ _ _ (.allowed (.swap _ _ [])))
  have fields : (Node.map [sizes [.scalar (.ofKind .str), size [.int 2, .int 1]], rest]
      false).Permuted .first other.root :=
    .fields (.swap rest _ []) fun _ => rfl
  have permuted := ((Relation.ReflTransGen.single shapes).tail values).tail fields
  have varied : schema.root.Varied := by
    simp [schema, Schema.ofNode, sizes, rest, size]
  have clean : schema.validate document = [] := by decide +kernel
  have same : schema.config = other.config := rfl
  exact ⟨permuted, clean, (Schema.validate_permuted same permuted varied document).mp clean⟩

end DocShape
