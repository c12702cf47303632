import DocShape.Proofs.Registry.Growth

namespace DocShape

/-! Schemas built with a larger registry.

Declarations are looked at before the registry, and a name that stands for nothing ends the
run, so a run that succeeds never meets the fragments that were added.
-/

namespace Linking

variable {α β : Type}

/-- Whatever the first computation gives, the second one gives too, with the same fragments
built on the way. -/
def Refines (first second : Linking α) : Prop :=
  ∀ before result, first before = .ok result → second before = .ok result

theorem Refines.refl (computation : Linking α) : Refines computation computation :=
  fun _ _ done => done

theorem Refines.bind {first second : Linking α} {next later : α → Linking β}
    (ofFirst : Refines first second) (ofNext : ∀ found, Refines (next found) (later found)) :
    Refines (first >>= next) (second >>= later) := by
  rintro before ⟨result, after⟩ done
  obtain ⟨found, between, doneFirst, doneNext⟩ := bind_eq_ok.mp done
  exact bind_eq_ok.mpr
    ⟨found, between, ofFirst _ _ doneFirst, ofNext found between _ doneNext⟩

end Linking

namespace Definition

variable {resolve other : String → Linking Node}

theorem linkFields_refines
    {definitions : List (Definition × Except SchemaError (FieldKey × Bool))}
    (ofField : ∀ field ∈ definitions, Linking.Refines (field.1.link resolve) (field.1.link other)) :
    Linking.Refines (linkFields resolve definitions) (linkFields other definitions) := by
  induction definitions with
  | nil => exact .refl _
  | cons first rest inRest =>
      obtain ⟨ofFirst, ofOthers⟩ := List.forall_mem_cons.mp ofField
      exact ofFirst.bind fun _ => (Linking.Refines.refl _).bind fun _ =>
        (inRest ofOthers).bind fun _ => .refl _

theorem linkVariants_refines {definitions : List Definition}
    (ofVariant : ∀ variant ∈ definitions,
      Linking.Refines (variant.link resolve) (variant.link other)) :
    Linking.Refines (linkVariants resolve definitions) (linkVariants other definitions) := by
  induction definitions with
  | nil => exact .refl _
  | cons first rest inRest =>
      obtain ⟨ofFirst, ofOthers⟩ := List.forall_mem_cons.mp ofVariant
      exact ofFirst.bind fun _ => (inRest ofOthers).bind fun _ => .refl _

theorem link_refines (resolves : ∀ name, Linking.Refines (resolve name) (other name))
    (definition : Definition) :
    Linking.Refines (definition.link resolve) (definition.link other) := by
  induction definition using Definition.induction with
  | refused error => exact .refl _
  | included name => exact (resolves name).bind fun _ => .refl _
  | map definitions allowEmpty ofField =>
      exact (linkFields_refines ofField).bind fun _ => .refl _
  | seq definitions matching ofVariant =>
      exact (linkVariants_refines ofVariant).bind fun _ => .refl _
  | scalar leaf => exact .refl _

end Definition

namespace Scope

variable {registered extended : Catalog Node} {declared : Catalog Definition}
  (keeps : ∀ name node, registered.find? name = some node → extended.find? name = some node)

include keeps

theorem resolve_refines (room : Nat) (opened : List String) (name : String) :
    Linking.Refines ((Scope.mk registered declared).resolve room opened name)
      ((Scope.mk extended declared).resolve room opened name) := by
  intro before result done
  rw [resolve_eq] at done ⊢
  cases built : before.find? name with
  | some node => simpa only [built] using done
  | none =>
      simp only [built] at done ⊢
      by_cases isOpen : opened.contains name
      · rw [if_pos isOpen] at done
        cases done
      · rw [if_neg isOpen] at done ⊢
        cases isDeclared : declared.find? name with
        | none =>
            simp only [isDeclared] at done ⊢
            cases isRegistered : registered.find? name with
            | none =>
                rw [isRegistered] at done
                cases done
            | some node =>
                rw [isRegistered] at done
                rw [keeps name node isRegistered]
                exact done
        | some definition =>
            match room with
            | 0 =>
                simp only [isDeclared] at done
                cases done
            | inner + 1 =>
                simp only [isDeclared, bind_eq_ok] at done ⊢
                obtain ⟨found, linked, stored⟩ := done
                have ofBody := Definition.link_refines
                  (fun other => resolve_refines inner (opened ++ [name]) other) definition
                exact ⟨found, ofBody before found linked, stored⟩

theorem build_refines (definition : Definition) :
    Linking.Refines ((Scope.mk registered declared).build definition)
      ((Scope.mk extended declared).build definition) :=
  Definition.link_refines (fun name => resolve_refines keeps declared.size [] name) definition

theorem buildDeclared_refines :
    Linking.Refines (Scope.mk registered declared).buildDeclared
      (Scope.mk extended declared).buildDeclared := by
  have ofNames (names : List String) :
      Linking.Refines (names.forM fun name => discard ((Scope.mk registered declared).lookUp name))
        (names.forM fun name => discard ((Scope.mk extended declared).lookUp name)) := by
    induction names with
    | nil => exact .refl _
    | cons name rest inRest =>
        have ofFirst : Linking.Refines (discard ((Scope.mk registered declared).lookUp name))
            (discard ((Scope.mk extended declared).lookUp name)) :=
          (resolve_refines keeps declared.size [] name).bind fun _ => .refl (pure ())
        simp only [List.forM_eq_forM, List.forM_cons]
        exact ofFirst.bind fun _ => inRest
  exact ofNames declared.names

end Scope

namespace Schema

variable {registry grown : Registry} {source : Value} {schema : Schema}

/-- A source declares none of the fragments by which a registry has grown. -/
def Spares (source : Value) (registry grown : Registry) : Prop :=
  ∀ name, Source.Defines source name → grown.contains name = true → registry.contains name = true

theorem ofSource_of_within (within : registry.Within grown) (spares : Spares source registry grown)
    (made : ofSource registry source = .ok schema) : ofSource grown source = .ok schema := by
  obtain ⟨entries, rfl, nonempty, distinct, free, built, filled, root, fragments, linked, rfl⟩ :=
    ofSource_eq_ok_iff.mp made
  refine ofSource_eq_ok_iff.mpr
    ⟨entries, rfl, nonempty, distinct, ?_, built, ?_, root, fragments, ?_, ?_⟩
  · intro name member
    obtain ⟨body, declares⟩ := (Source.mem_names_fragments_iff distinct).mp member
    rw [← Bool.not_eq_true]
    intro contained
    have earlier := spares name ⟨entries, body, rfl, declares⟩ contained
    exact absurd earlier (by simpa [Registry.contains] using free name member)
  · rw [within.config]
    exact Scope.buildDeclared_refines within.keeps _ _ filled
  · rw [within.config]
    exact Scope.build_refines within.keeps _ _ _ linked
  · rw [within.config]

/-- A schema that builds is the same with more fragments registered, and so are its reports.
Linking the fragment for responses is such an addition, and happens once. -/
theorem ofSource_extended :
    (∀ (registry grown : Registry) (source : Value) (schema : Schema), registry.Within grown →
      Spares source registry grown → ofSource registry source = .ok schema →
        ofSource grown source = .ok schema ∧
          ∀ document, (ofSource grown source).map (·.validate document) =
            .ok (schema.validate document)) ∧
    ∀ registry linked : Registry, Domain.link registry = .ok linked →
      Domain.link linked = .ok linked ∧
        ∀ (source : Value) (schema : Schema), ofSource registry source = .ok schema →
          ¬ Source.Defines source Domain.responsesName → ofSource linked source = .ok schema := by
  constructor
  · intro registry grown source schema within spares made
    have same := ofSource_of_within within spares made
    refine ⟨same, fun document => ?_⟩
    rw [same]
    rfl
  · intro registry linked done
    obtain ⟨within, contained, added⟩ := Domain.link_within done
    refine ⟨Domain.link_eq_ok_iff.mpr (.inl ⟨contained, rfl⟩), fun source schema made absent => ?_⟩
    refine ofSource_of_within within (fun name defines present => ?_) made
    rcases added name present with earlier | rfl
    · exact earlier
    · exact absurd defines absent

/-- The registry of the forward source with one more fragment. -/
def widerRegistry : Registry :=
  ⟨.ofList [("base", .scalar (.ofKind .int)), ("spare", .scalar (.ofKind .str))], .standard⟩

theorem forward_within_wider : forwardRegistry.Within widerRegistry := by
  refine ⟨rfl, fun name node found => ?_⟩
  have stored : (name, node) ∈ [("base", Node.scalar (.ofKind .int))] :=
    (Catalog.find?_ofList_eq_some_iff (by decide)).mp found
  cases List.mem_singleton.mp stored
  rfl

theorem defines_forwardSource {name : String} (defines : Source.Defines forwardSource name) :
    name = "outer" ∨ name = "inner" := by
  obtain ⟨entries, body, same, key, member, spelled⟩ := defines
  cases same
  have named := Source.fragmentName?_eq_some_iff.mpr spelled
  simp only [List.mem_cons, Prod.mk.injEq, List.not_mem_nil, or_false] at member
  rcases member with ⟨rfl, _⟩ | ⟨rfl, _⟩ | ⟨rfl, _⟩
  · have outer : Source.fragmentName? (.string "schema;outer") = some "outer" := by decide +kernel
    exact .inl (Option.some.inj (named.symm.trans outer))
  · have inner : Source.fragmentName? (.string "schema;inner") = some "inner" := by decide +kernel
    exact .inr (Option.some.inj (named.symm.trans inner))
  · have body : Source.fragmentName? (.string "map") = none := by decide +kernel
    cases named.symm.trans body

/-- A source with fragments of its own, in a registry with a fragment that it does not
mention, and beside the fragment for responses. -/
theorem ofSource_extended_wider :
    ∃ schema linked, ofSource forwardRegistry forwardSource = .ok schema ∧
      ofSource widerRegistry forwardSource = .ok schema ∧
      Domain.link forwardRegistry = .ok linked ∧ Domain.link linked = .ok linked ∧
      ofSource linked forwardSource = .ok schema := by
  have builds : (ofSource forwardRegistry forwardSource).isOk = true := by
    decide +kernel
  have links : (Domain.link forwardRegistry).isOk = true := by
    decide +kernel
  obtain ⟨schema, made⟩ := exists_of_isOk builds
  obtain ⟨linked, done⟩ := exists_of_isOk links
  have spares : Spares forwardSource forwardRegistry widerRegistry := by
    intro name defines contained
    rcases defines_forwardSource defines with rfl | rfl
    · cases contained
    · cases contained
  have absent : ¬ Source.Defines forwardSource Domain.responsesName := by
    intro defines
    rcases defines_forwardSource defines with same | same
    · exact absurd same (by decide)
    · exact absurd same (by decide)
  obtain ⟨once, same⟩ := ofSource_extended.2 forwardRegistry linked done
  exact ⟨schema, linked, made,
    (ofSource_extended.1 _ _ _ _ forward_within_wider spares made).1, done, once,
    same forwardSource schema made absent⟩

end Schema
end DocShape
