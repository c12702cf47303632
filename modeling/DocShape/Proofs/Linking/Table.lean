import DocShape.Proofs.Catalog
import DocShape.Proofs.Linking.Expansion

namespace DocShape.Scope

/-! The table of built fragments.

What linking keeps true of it: every fragment in the table is what its declaration expands
to when includes are taken from the table itself, and a fragment that is being built does
not get into it.  So a fragment is the same tree whether an include or the final pass over
all declarations caused it to be built.
-/

variable {scope : Scope} {opened : List String} {before between after built : Catalog Node}

/-- What a name stands for once all fragments are in a table: a declared fragment by the
table, any other by the registry. -/
def available (scope : Scope) (built : Catalog Node) (name : String) : Except SchemaError Node :=
  match if scope.declared.contains name then built.find? name else scope.registered.find? name with
  | some node => .ok node
  | none => .error (.unresolvedInclude name)

/-- Every fragment in the table is the expansion of its own declaration. -/
def Linked (scope : Scope) (built : Catalog Node) : Prop :=
  ∀ name node, built.find? name = some node → ∃ definition,
    scope.declared.find? name = some definition ∧
      definition.expand (scope.available built) = .ok node

/-- Every declared fragment is in the table. -/
def Filled (scope : Scope) (built : Catalog Node) : Prop :=
  ∀ name, scope.declared.contains name = true → ∃ node, built.find? name = some node

/-- What building something, with these fragments being built around it, does to the
table. -/
structure Advances (scope : Scope) (opened : List String) (before after : Catalog Node) :
    Prop where
  linked : scope.Linked after
  keeps : ∀ name node, before.find? name = some node → after.find? name = some node
  spares : ∀ name ∈ opened, after.find? name = before.find? name

theorem Advances.refl (linked : scope.Linked built) : scope.Advances opened built built :=
  ⟨linked, fun _ _ found => found, fun _ _ => rfl⟩

theorem Advances.trans (first : scope.Advances opened before between)
    (second : scope.Advances opened between after) : scope.Advances opened before after :=
  ⟨second.linked, fun name node found => second.keeps name node (first.keeps name node found),
    fun name member => (second.spares name member).trans (first.spares name member)⟩

theorem available_eq_ok_iff {name : String} {node : Node} :
    scope.available built name = .ok node ↔
      (if scope.declared.contains name then built.find? name
        else scope.registered.find? name) = some node := by
  unfold available
  split
  · rename_i found
    simp [found]
  · rename_i missing
    simp [missing]

theorem available_of_find? (linked : scope.Linked built) {name : String} {node : Node}
    (found : built.find? name = some node) : scope.available built name = .ok node := by
  obtain ⟨definition, declared, _⟩ := linked name node found
  rw [available_eq_ok_iff, if_pos (Catalog.contains_iff.mpr ⟨definition, declared⟩), found]

theorem contains_of_filled (linked : scope.Linked built) (filled : scope.Filled built)
    (name : String) : built.contains name = scope.declared.contains name := by
  rw [Bool.eq_iff_iff]
  constructor
  · intro contained
    obtain ⟨node, found⟩ := Catalog.contains_iff.mp contained
    obtain ⟨definition, declared, _⟩ := linked name node found
    exact Catalog.contains_iff.mpr ⟨definition, declared⟩
  · intro declared
    exact Catalog.contains_iff.mpr (filled name declared)

theorem Filled.mono (filled : scope.Filled before)
    (keeps : ∀ name node, before.find? name = some node → after.find? name = some node) :
    scope.Filled after := by
  intro name declared
  obtain ⟨node, found⟩ := filled name declared
  exact ⟨node, keeps name node found⟩

theorem available_mono
    (keeps : ∀ name node, before.find? name = some node → after.find? name = some node)
    (name : String) (node : Node) (found : scope.available before name = .ok node) :
    scope.available after name = .ok node := by
  rw [available_eq_ok_iff] at found ⊢
  by_cases declared : scope.declared.contains name
  · rw [if_pos declared] at found ⊢
    exact keeps name node found
  · rw [if_neg declared] at found ⊢
    exact found

theorem Advances.available (advances : scope.Advances opened before after) {name : String}
    {node : Node} (found : scope.available before name = .ok node) :
    scope.available after name = .ok node :=
  available_mono advances.keeps name node found

theorem Advances.expand (advances : scope.Advances opened before after)
    {definition : Definition} {node : Node}
    (expanded : definition.expand (scope.available before) = .ok node) :
    definition.expand (scope.available after) = .ok node :=
  Definition.expand_mono (available_mono advances.keeps) expanded

section Link

variable {resolve : String → Linking Node}

/-- What a resolver has to do for an include while these fragments are being built. -/
def Resolves (scope : Scope) (opened : List String) (resolve : String → Linking Node) : Prop :=
  ∀ name before node after, scope.Linked before → resolve name before = .ok (node, after) →
    scope.Advances opened before after ∧ scope.available after name = .ok node

/-- Building a definition advances the table, and the finished table expands the definition
to the same node. -/
def Built (scope : Scope) (opened : List String) (resolve : String → Linking Node)
    (definition : Definition) : Prop :=
  ∀ before node after, scope.Linked before →
    definition.link resolve before = .ok (node, after) →
      scope.Advances opened before after ∧ definition.expand (scope.available after) = .ok node

theorem linkFields_advances
    {definitions : List (Definition × Except SchemaError (FieldKey × Bool))}
    (ofField : ∀ field ∈ definitions, scope.Built opened resolve field.1)
    {fields : List (Field Node)} (linked : scope.Linked before)
    (done : Definition.linkFields resolve definitions before = .ok (fields, after)) :
    scope.Advances opened before after ∧
      List.Forall₂ (fun definition field =>
        definition.1.expand (scope.available after) = .ok field.node ∧
          definition.2 = .ok (field.key, field.required)) definitions fields := by
  induction definitions generalizing before fields with
  | nil =>
      simp only [Definition.linkFields, Linking.pure_eq_ok] at done
      obtain ⟨rfl, rfl⟩ := done
      exact ⟨.refl linked, .nil⟩
  | cons first rest inRest =>
      obtain ⟨definition, label⟩ := first
      simp only [Definition.linkFields, Linking.bind_eq_ok, Linking.ofExcept_eq_ok,
        Linking.pure_eq_ok] at done
      obtain ⟨node, between, linkedFirst, ⟨key, required⟩, _, ⟨labelled, rfl⟩, others, _,
        linkedRest, rfl, rfl⟩ := done
      obtain ⟨ofFirst, expanded⟩ := ofField (definition, label) (by simp) _ _ _ linked linkedFirst
      obtain ⟨ofOthers, related⟩ := inRest
        (fun field member => ofField field (List.mem_cons_of_mem _ member)) ofFirst.linked linkedRest
      exact ⟨ofFirst.trans ofOthers, .cons ⟨ofOthers.expand expanded, labelled⟩ related⟩

theorem linkVariants_advances {definitions : List Definition}
    (ofVariant : ∀ definition ∈ definitions, scope.Built opened resolve definition)
    {variants : List Node} (linked : scope.Linked before)
    (done : Definition.linkVariants resolve definitions before = .ok (variants, after)) :
    scope.Advances opened before after ∧
      List.Forall₂ (fun definition variant =>
        definition.expand (scope.available after) = .ok variant) definitions variants := by
  induction definitions generalizing before variants with
  | nil =>
      simp only [Definition.linkVariants, Linking.pure_eq_ok] at done
      obtain ⟨rfl, rfl⟩ := done
      exact ⟨.refl linked, .nil⟩
  | cons definition rest inRest =>
      simp only [Definition.linkVariants, Linking.bind_eq_ok, Linking.pure_eq_ok] at done
      obtain ⟨node, between, linkedFirst, others, _, linkedRest, rfl, rfl⟩ := done
      obtain ⟨ofFirst, expanded⟩ := ofVariant definition (by simp) _ _ _ linked linkedFirst
      obtain ⟨ofOthers, related⟩ := inRest
        (fun variant member => ofVariant variant (List.mem_cons_of_mem _ member)) ofFirst.linked
        linkedRest
      exact ⟨ofFirst.trans ofOthers, .cons (ofOthers.expand expanded) related⟩

theorem link_built (resolves : scope.Resolves opened resolve) (definition : Definition) :
    scope.Built opened resolve definition := by
  induction definition using Definition.induction with
  | refused error =>
      intro before node after _ done
      simp only [Definition.link] at done
      exact absurd done Linking.fail_ne_ok
  | included name =>
      intro before node after linked done
      simp only [Definition.link, Linking.bind_eq_ok, Linking.pure_eq_ok] at done
      obtain ⟨target, _, resolved, rfl, rfl⟩ := done
      obtain ⟨advances, found⟩ := resolves name _ _ _ linked resolved
      exact ⟨advances, Definition.expand_included_eq_ok_iff.mpr ⟨target, found, rfl⟩⟩
  | map definitions allowEmpty ofField =>
      intro before node after linked done
      simp only [Definition.link, Linking.bind_eq_ok, Linking.pure_eq_ok] at done
      obtain ⟨fields, _, linkedFields, rfl, rfl⟩ := done
      obtain ⟨advances, related⟩ := linkFields_advances ofField linked linkedFields
      exact ⟨advances, Definition.expand_map_eq_ok_iff.mpr ⟨fields, related, rfl⟩⟩
  | seq definitions matching ofVariant =>
      intro before node after linked done
      simp only [Definition.link, Linking.bind_eq_ok, Linking.pure_eq_ok] at done
      obtain ⟨variants, _, linkedVariants, rfl, rfl⟩ := done
      obtain ⟨advances, related⟩ := linkVariants_advances ofVariant linked linkedVariants
      exact ⟨advances, Definition.expand_seq_eq_ok_iff.mpr ⟨variants, related, rfl⟩⟩
  | scalar leaf =>
      intro before node after linked done
      simp only [Definition.link, Linking.pure_eq_ok] at done
      obtain ⟨rfl, rfl⟩ := done
      exact ⟨.refl linked, rfl⟩

end Link

/-- A fragment that is not in the table yet may be added once it has been built. -/
theorem Advances.insert {name : String} {definition : Definition} {node : Node}
    (advances : scope.Advances (opened ++ [name]) before after) (absent : before.find? name = none)
    (unopened : name ∉ opened) (declared : scope.declared.find? name = some definition)
    (expanded : definition.expand (scope.available after) = .ok node) :
    scope.Advances opened before (after.insert name node) ∧
      scope.available (after.insert name node) name = .ok node := by
  have missing : after.find? name = none := by
    rw [advances.spares name (by simp), absent]
  have keeps (other : String) (stored : Node) (found : after.find? other = some stored) :
      (after.insert name node).find? other = some stored := by
    have different : name ≠ other := by
      rintro rfl
      rw [missing] at found
      cases found
    rw [Catalog.find?_insert, if_neg different, found]
  refine ⟨⟨?_, ?_, ?_⟩, ?_⟩
  · intro other stored found
    rw [Catalog.find?_insert] at found
    by_cases same : name = other
    · subst same
      cases (if_pos rfl).symm.trans found
      exact ⟨definition, declared, Definition.expand_mono (available_mono keeps) expanded⟩
    · rw [if_neg same] at found
      obtain ⟨ofOther, declaredOther, expandedOther⟩ := advances.linked other stored found
      exact ⟨ofOther, declaredOther, Definition.expand_mono (available_mono keeps) expandedOther⟩
  · exact fun other stored found => keeps other stored (advances.keeps other stored found)
  · intro other member
    have different : name ≠ other := by
      rintro rfl
      exact unopened member
    rw [Catalog.find?_insert, if_neg different, advances.spares other (by simp [member])]
  · rw [available_eq_ok_iff, if_pos (Catalog.contains_iff.mpr ⟨definition, declared⟩),
      Catalog.find?_insert, if_pos rfl]

/-- The steps of a lookup: the table, the fragments being built, the declarations, and the
registry last. -/
theorem resolve_eq (scope : Scope) (room : Nat) (opened : List String) (name : String)
    (before : Catalog Node) :
    scope.resolve room opened name before =
      match before.find? name with
      | some node => .ok (node, before)
      | none =>
          if opened.contains name then .error (.includeCycle (opened ++ [name]))
          else
            match scope.declared.find? name, room with
            | some _, 0 => .error (.includeCycle (opened ++ [name]))
            | some definition, room + 1 => do
                let (node, after) ← definition.link (scope.resolve room (opened ++ [name])) before
                return (node, after.insert name node)
            | none, _ =>
                match scope.registered.find? name with
                | some node => .ok (node, before)
                | none => .error (.unresolvedInclude name) := by
  rw [resolve.eq_def]
  simp only [bind, StateT.bind, get, getThe, MonadStateOf.get, StateT.get, pure, Except.pure,
    Except.bind]
  cases before.find? name with
  | some node => rfl
  | none =>
      by_cases isOpen : opened.contains name
      · simp only [isOpen, if_true]
        rfl
      · simp only [isOpen]
        cases scope.declared.find? name with
        | none => cases scope.registered.find? name <;> rfl
        | some definition => cases room <;> rfl

/-- A lookup keeps the table as it should be, and the table then knows the name. -/
theorem resolve_resolves (room : Nat) (opened : List String) :
    scope.Resolves opened (scope.resolve room opened) := by
  intro name before node after linked done
  rw [resolve_eq] at done
  cases found : before.find? name with
  | some stored =>
      simp only [found, Except.ok.injEq, Prod.mk.injEq] at done
      obtain ⟨rfl, rfl⟩ := done
      exact ⟨.refl linked, available_of_find? linked found⟩
  | none =>
      simp only [found] at done
      by_cases isOpen : opened.contains name
      · rw [if_pos isOpen] at done
        contradiction
      · rw [if_neg isOpen] at done
        cases declared : scope.declared.find? name with
        | none =>
            cases registered : scope.registered.find? name with
            | none => simp [declared, registered] at done
            | some target =>
                simp only [declared, registered, Except.ok.injEq, Prod.mk.injEq] at done
                obtain ⟨rfl, rfl⟩ := done
                have undeclared : ¬ scope.declared.contains name = true := by
                  simp [Catalog.contains_eq_isSome_find?, declared]
                exact ⟨.refl linked, available_eq_ok_iff.mpr (by rw [if_neg undeclared, registered])⟩
        | some definition =>
            match room with
            | 0 => simp [declared] at done
            | inner + 1 =>
                simp only [declared, bind_eq_ok, Prod.exists, pure_eq_ok, Prod.mk.injEq] at done
                obtain ⟨_, between, linkedHere, rfl, rfl⟩ := done
                obtain ⟨advances, expanded⟩ :=
                  link_built (resolve_resolves inner (opened ++ [name])) definition _ _ _ linked
                    linkedHere
                exact advances.insert found (by simpa using isOpen) declared expanded

theorem linked_empty : scope.Linked .empty := by
  intro name node found
  cases found

theorem forM_lookUp_advances {names : List String} (linked : scope.Linked before)
    (done : (names.forM fun name => discard (scope.lookUp name)) before = .ok ((), after)) :
    scope.Advances [] before after ∧
      ∀ name ∈ names, ∃ node, scope.available after name = .ok node := by
  induction names generalizing before with
  | nil =>
      simp only [List.forM_eq_forM, List.forM_nil, Linking.pure_eq_ok, true_and] at done
      subst done
      exact ⟨.refl linked, by simp⟩
  | cons name rest inRest =>
      simp only [List.forM_eq_forM, List.forM_cons, Linking.bind_eq_ok,
        Linking.discard_eq_ok] at done
      obtain ⟨_, between, ⟨node, resolved⟩, remaining⟩ := done
      obtain ⟨ofFirst, found⟩ := resolve_resolves _ _ _ _ _ _ linked resolved
      obtain ⟨ofRest, inTable⟩ := inRest ofFirst.linked remaining
      refine ⟨ofFirst.trans ofRest, ?_⟩
      intro wanted member
      rcases List.mem_cons.mp member with rfl | later
      · exact ⟨node, ofRest.available found⟩
      · exact inTable wanted later

/-- Building all declared fragments puts every one of them into the table. -/
theorem buildDeclared_fills (linked : scope.Linked before)
    (done : scope.buildDeclared before = .ok ((), after)) :
    scope.Advances [] before after ∧ scope.Filled after := by
  obtain ⟨advances, inTable⟩ := forM_lookUp_advances linked done
  refine ⟨advances, ?_⟩
  intro name declared
  obtain ⟨node, found⟩ :=
    inTable name (Catalog.mem_names_iff.mpr (Catalog.contains_iff.mp declared))
  rw [available_eq_ok_iff, if_pos declared] at found
  exact ⟨node, found⟩

end DocShape.Scope
