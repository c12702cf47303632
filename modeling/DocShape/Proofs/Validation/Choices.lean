import DocShape.Proofs.Grammar.Leaf
import DocShape.Proofs.Rounding
import DocShape.Proofs.Validation.Laws
import DocShape.Schema

namespace DocShape

/-! Leaves with listed choices: what they accept, and which choices can be used at all.

Choices are kept as they are written, of whatever kind and with their tags, while a document is
untagged and has to be of the leaf's kind before it is compared with them.
-/

theorem Value.sameFloat_self (number : Binary64) : sameFloat number number = true := by
  by_cases placed : number = .nan
  · rw [placed]
    rfl
  · rw [sameFloat, Binary64.same_self placed, Bool.true_or]

namespace Kind.Has

variable {kind : Kind} {value : Value} (has : kind.Has value)

include has

theorem same_self : value.same value = true := by
  cases has with
  | decimal number => simp only [Value.same, Value.sameFloat_self]
  | float number => simp only [Value.same, Value.sameFloat_self]
  | _ => simp [Value.same]

/-- No tagged value equals one of a kind. -/
theorem content_of_same {choice : Value} (same : value.same choice = true) :
    choice.content = choice := by
  cases choice with
  | tagged tag inner => cases has <;> simp [Value.same] at same
  | _ => rfl

end Kind.Has

namespace Scalar

/-- What a leaf of this kind with these choices makes of documents. -/
structure Chooses (kind : Kind) (choices : List Value) (accepts : Value → Prop) : Prop where
  /-- What is accepted is of the kind and has the content of a choice. -/
  chosen : ∀ document, accepts document →
    kind.Has document.content ∧ ∃ choice ∈ choices, document.content.same choice.content = true
  /-- What is of the kind and has the content of a choice without a tag is accepted. -/
  admitted : ∀ document, ∀ choice ∈ choices, choice.content = choice →
    kind.Has document.content → document.content.same choice.content = true → accepts document
  /-- A choice of the kind is itself a document that is accepted. -/
  usable : ∀ choice ∈ choices, kind.Has choice → accepts choice

theorem chooses_of_accepts_iff {kind : Kind} {choices : List Value} {accepts : Value → Prop}
    (same : ∀ document, accepts document ↔ kind.Has document.content ∧
      ∃ choice ∈ choices, document.content.same choice = true) :
    Chooses kind choices accepts := by
  have admitted (document choice : Value) (member : choice ∈ choices)
      (untagged : choice.content = choice) (has : kind.Has document.content)
      (equal : document.content.same choice.content = true) : accepts document :=
    (same document).mpr ⟨has, choice, member, untagged ▸ equal⟩
  constructor
  case chosen =>
    intro document accepted
    obtain ⟨has, choice, member, equal⟩ := (same document).mp accepted
    exact ⟨has, choice, member, (has.content_of_same equal).symm ▸ equal⟩
  case admitted => exact admitted
  case usable =>
    intro choice member has
    have untagged := has.content
    exact admitted choice choice member untagged (untagged.symm ▸ has)
      (untagged.symm ▸ has.same_self)

end Scalar

namespace Definition

variable {scope : Scope} {before after : Catalog Node} {limit depth : Nat} {path : String}
  {entries : Entries} {node : Node} {listing : Value}

/-- Where choices are the only constraint, a document is accepted for being of the leaf's kind
and equal to a choice.  Choices of another kind are listed in vain. -/
theorem chooses_of_build
    (built : scope.build (read limit path depth (.map entries)) before = .ok (node, after))
    (listed : entries.get? "enum" = some listing) (alone : entries.Lacks ["range", "pattern"])
    (unfilled : entries.get? "allowempty" ≠ some (.bool false)) :
    ∃ kind choices, Grammar.IsOfKind entries kind ∧ listing = .seq choices ∧
      ∀ config place, Scalar.Chooses kind choices fun document =>
        Validation.check config place node document = [] := by
  obtain ⟨leaf, rfl, declared⟩ := declared_of_build built (by decide) listed
  have allowed := declared.allowed
  simp only [Heading.allowedUnder, listed, Heading.allowedOf_eq_ok_iff] at allowed
  obtain ⟨typed, rfl, present, _⟩ := allowed
  refine ⟨leaf.kind, leaf.allowed, declared.kind, rfl, fun config place => ?_⟩
  refine Scalar.chooses_of_accepts_iff fun document => ?_
  rw [Validation.check_scalar, Validation.scalarViolations_eq_nil_iff, or_iff_right typed,
    declared.listed_only unfilled alone]
  exact Node.admits_listed_iff present

/-- Integers with a text and a tagged number among the choices. -/
def mixedChoices : Entries :=
  [(.string "type", .string "int"),
    (.string "enum", .seq [.string "a", .int 1, .tagged "!two" (.int 2)])]

/-- The text is listed, but it is no integer. -/
theorem validate_refuses_listed :
    ∃ schema, Schema.ofSource .empty (.map mixedChoices) = .ok schema ∧
      ∃ choice choices, mixedChoices.get? "enum" = some (.seq choices) ∧ choice ∈ choices ∧
        schema.validate choice ≠ [] := by
  have refused : ((Schema.ofSource .empty (.map mixedChoices)).toOption.map fun schema =>
      (schema.validate (.string "a")).isEmpty) = some false := by
    decide +kernel
  obtain ⟨schema, made, refused⟩ := Option.map_eq_some_iff.mp refused
  refine ⟨schema, toOption_eq_some_iff.mp made, .string "a", _, rfl, List.mem_cons_self, ?_⟩
  intro clean
  rw [clean] at refused
  cases refused

theorem chooses_of_build_mixed :
    ∃ node after, Scope.build ⟨.empty, .empty⟩ (read 64 "<root>" 0 (.map mixedChoices)) .empty =
        .ok (node, after) ∧
      Validation.check .standard [] node (.tagged "!one" (.int 1)) = [] ∧
      Validation.check .standard [] node (.int 3) ≠ [] := by
  have succeeds : (Scope.build ⟨.empty, .empty⟩ (read 64 "<root>" 0 (.map mixedChoices))
      .empty).isOk = true := by
    decide +kernel
  obtain ⟨⟨node, after⟩, built⟩ := exists_of_isOk succeeds
  obtain ⟨kind, choices, isKind, listed, chooses⟩ :=
    chooses_of_build built rfl (by simp [mixedChoices, Entries.get?, Value.isPlain])
      (by simp [mixedChoices, Entries.get?, Value.isPlain])
  cases listed
  obtain ⟨name, typed, named⟩ | ⟨untyped, _⟩ := isKind
  · cases typed
    cases named
    refine ⟨node, after, built, ?_, fun accepted => ?_⟩
    · exact (chooses .standard []).admitted (.tagged "!one" (.int 1)) (.int 1) (by simp) rfl
        (.int 1) rfl
    · obtain ⟨_, choice, member, same⟩ := (chooses .standard []).chosen (.int 3) accepted
      simp only [List.mem_cons, List.not_mem_nil, or_false] at member
      obtain rfl | rfl | rfl := member
      · cases same
      · cases same
      · cases same
  · cases untyped

end Definition
end DocShape
