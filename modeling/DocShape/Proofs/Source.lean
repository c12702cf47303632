import DocShape.Proofs.Catalog
import DocShape.Proofs.Lookup
import DocShape.Proofs.Opening
import DocShape.Schema.Source

namespace DocShape

/-! The entries of a source: the fragments it declares, and the rest of it. -/

theorem Definition.afterMark?_eq_some_iff {mark text rest : String} :
    afterMark? mark text = some rest ↔ text = mark ++ rest := by
  unfold afterMark?
  constructor
  · intro found
    split at found
    · rename_i marked
      obtain ⟨after, split⟩ := List.isPrefixOf_iff_prefix.mp marked
      have rest_eq : rest = String.ofList after := by
        rw [← Option.some.inj found, ← split, ← String.length_toList, List.drop_left]
      rw [rest_eq, ← String.toList_inj, String.toList_append, String.toList_ofList, split]
    · cases found
  · rintro rfl
    have marked : mark.toList.isPrefixOf (mark ++ rest).toList = true := by
      rw [List.isPrefixOf_iff_prefix, String.toList_append]
      exact List.prefix_append _ _
    rw [if_pos marked, String.toList_append, ← String.length_toList, List.drop_left,
      String.ofList_toList]

namespace Source

variable {entries : Entries} {name : String} {body : Value}

/-- An entry of the source declares a fragment with this name and this body. -/
def Declares (entries : Entries) (name : String) (body : Value) : Prop :=
  ∃ key, (key, body) ∈ entries ∧ key.text? = some (fragmentPath name)

def declarations (entries : Entries) : List (String × Value) :=
  entries.filterMap fun entry => (fragmentName? entry.1).map (·, entry.2)

/-- The entries that declare no fragment. -/
def remaining (entries : Entries) : Entries :=
  entries.filter fun entry => (fragmentName? entry.1).isNone

def fragments (entries : Entries) : Catalog Value := .ofList (declarations entries)

/-- What the includes of a source can name: its own fragments, read from their
declarations, and registered ones. -/
def scope (registered : Catalog Node) (limit : Nat) (entries : Entries) : Scope :=
  ⟨registered, (fragments entries).map fun name body => .read limit (fragmentPath name) 0 body⟩

theorem fragmentName?_eq_some_iff {key : Value} :
    fragmentName? key = some name ↔ key.text? = some (fragmentPath name) := by
  unfold fragmentName? fragmentPath
  rw [Option.bind_eq_some_iff]
  simp only [Definition.afterMark?_eq_some_iff, exists_eq_right]

theorem mem_declarations_iff : (name, body) ∈ declarations entries ↔ Declares entries name body := by
  unfold declarations Declares
  simp only [List.mem_filterMap, Option.map_eq_some_iff, Prod.mk.injEq, Prod.exists,
    ← fragmentName?_eq_some_iff]
  constructor
  · rintro ⟨key, _, member, _, found, rfl, rfl⟩
    exact ⟨key, member, found⟩
  · rintro ⟨key, member, found⟩
    exact ⟨key, body, member, name, found, rfl, rfl⟩

def splitEntry (found : Catalog Value × Entries) (entry : Value × Value) :
    Except SchemaError (Catalog Value × Entries) :=
  match fragmentName? entry.1 with
  | none => .ok (found.1, found.2 ++ [entry])
  | some name =>
      if name.isEmpty then malformed .emptyFragmentName
      else if found.1.contains name then .error (.duplicateFragment name)
      else .ok (found.1.insert name entry.2, found.2)

theorem split_eq (entries : Entries) : split entries = entries.foldlM splitEntry (.empty, []) := rfl

theorem splitEntry_of_none {found : Catalog Value × Entries} {entry : Value × Value}
    (unnamed : fragmentName? entry.1 = none) :
    splitEntry found entry = .ok (found.1, found.2 ++ [entry]) := by
  simp [splitEntry, unnamed]

theorem splitEntry_eq_ok_iff {before after : Catalog Value × Entries} {entry : Value × Value}
    (named : fragmentName? entry.1 = some name) :
    splitEntry before entry = .ok after ↔
      name ≠ "" ∧ before.1.contains name = false ∧
        (before.1.insert name entry.2, before.2) = after := by
  simp only [splitEntry, named]
  by_cases empty : name = ""
  · simp [empty, malformed]
  · by_cases taken : before.1.contains name = true
    · simp [empty, taken]
    · simp [empty, taken]

/-- All these declarations have names, and the names are still free. -/
def Fresh (found : Catalog Value) (later : List (String × Value)) : Prop :=
  ∀ declaration ∈ later, declaration.1 ≠ "" ∧ found.contains declaration.1 = false

theorem fresh_insert_iff {found : Catalog Value} {later : List (String × Value)} :
    Fresh (found.insert name body) later ↔ Fresh found later ∧ name ∉ later.map (·.1) := by
  unfold Fresh
  simp only [Catalog.contains_insert, Bool.or_eq_false_iff, List.mem_map, not_exists, not_and]
  constructor
  · intro fresh
    constructor
    · intro declaration member
      obtain ⟨nonempty, _, absent⟩ := fresh declaration member
      exact ⟨nonempty, absent⟩
    · intro declaration member same
      obtain ⟨_, different, _⟩ := fresh declaration member
      simp [same] at different
  · intro ⟨fresh, once⟩ declaration member
    obtain ⟨nonempty, absent⟩ := fresh declaration member
    have different : name ≠ declaration.1 := fun same => once declaration member same.symm
    exact ⟨nonempty, by simpa using different, absent⟩

/-- Taking a source apart goes well if its fragments have names and no name is declared
twice. -/
theorem foldlM_splitEntry_eq_ok_iff {before found : Catalog Value × Entries} :
    entries.foldlM splitEntry before = .ok found ↔
      Fresh before.1 (declarations entries) ∧ ((declarations entries).map (·.1)).Nodup ∧
        (before.1.insertAll (declarations entries), before.2 ++ remaining entries) = found := by
  induction entries generalizing before with
  | nil => simp [Fresh, declarations, remaining, Catalog.insertAll, pure, Except.pure]
  | cons entry rest inRest =>
      rw [List.foldlM_cons, bind_eq_ok]
      cases named : fragmentName? entry.1 with
      | none => simp [splitEntry_of_none named, inRest, declarations, remaining, named]
      | some name =>
          have declared : declarations (entry :: rest) = (name, entry.2) :: declarations rest := by
            simp [declarations, named]
          have kept : remaining (entry :: rest) = remaining rest := by
            simp [remaining, named]
          have fresh : Fresh before.1 ((name, entry.2) :: declarations rest) ↔
              (name ≠ "" ∧ before.1.contains name = false) ∧ Fresh before.1 (declarations rest) :=
            List.forall_mem_cons
          rw [declared, kept, fresh, List.map_cons, List.nodup_cons]
          simp only [splitEntry_eq_ok_iff named, inRest]
          constructor
          · intro ⟨between, ⟨nonempty, free, inserted⟩, others, distinct, same⟩
            subst inserted
            obtain ⟨others, once⟩ := fresh_insert_iff.mp others
            exact ⟨⟨⟨nonempty, free⟩, others⟩, ⟨once, distinct⟩, same⟩
          · intro ⟨⟨⟨nonempty, free⟩, others⟩, ⟨once, distinct⟩, same⟩
            exact ⟨_, ⟨nonempty, free, rfl⟩, fresh_insert_iff.mpr ⟨others, once⟩, distinct, same⟩

theorem split_eq_ok_iff {found : Catalog Value × Entries} :
    split entries = .ok found ↔
      (∀ declaration ∈ declarations entries, declaration.1 ≠ "") ∧
      ((declarations entries).map (·.1)).Nodup ∧ (fragments entries, remaining entries) = found := by
  rw [split_eq, foldlM_splitEntry_eq_ok_iff]
  simp [Fresh, fragments, Catalog.ofList, Catalog.contains_empty]

/-- What the includes of declared fragments can name. -/
def scopeWith (registered : Catalog Node) (limit : Nat) (declared : Catalog Value) : Scope :=
  ⟨registered, declared.map fun name body => .read limit (fragmentPath name) 0 body⟩

section ScopeWith

variable {registered : Catalog Node} {limit : Nat} {declared : Catalog Value}

theorem scopeOf_of_free {registered : Catalog Node} (limit : Nat)
    (free : ∀ name ∈ declared.names, registered.contains name = false) :
    scopeOf registered limit declared = .ok (scopeWith registered limit declared) := by
  have untaken : declared.names.find? registered.contains = none := by
    rw [List.find?_eq_none]
    intro name member
    simp [free name member]
  simp only [scopeOf, untaken, scopeWith]

/-- Declared fragments have names that no registered fragment has. -/
theorem scopeOf_eq_ok_iff {found : Scope} :
    scopeOf registered limit declared = .ok found ↔
      (∀ name ∈ declared.names, registered.contains name = false) ∧
        scopeWith registered limit declared = found := by
  by_cases free : ∀ name ∈ declared.names, registered.contains name = false
  · rw [scopeOf_of_free limit free, Except.ok.injEq]
    exact (and_iff_right free).symm
  · refine iff_of_false ?_ fun both => free both.1
    unfold scopeOf
    cases untaken : declared.names.find? registered.contains with
    | some name => simp
    | none => exact absurd (by simpa using untaken) free

theorem declared_scopeWith_iff {name : String} {definition : Definition} :
    (scopeWith registered limit declared).declared.find? name = some definition ↔
      ∃ body, declared.find? name = some body ∧
        .read limit (fragmentPath name) 0 body = definition := by
  simp [scopeWith, Catalog.find?_map, Option.map_eq_some_iff]

theorem contains_scopeWith (name : String) :
    (scopeWith registered limit declared).declared.contains name = declared.contains name := by
  simp only [scopeWith, Catalog.contains_eq_isSome_find?, Catalog.find?_map, Option.isSome_map]

end ScopeWith

/-- A source of fragments is a mapping that declares fragments and holds nothing else. -/
theorem fragmentsOf_eq_ok_iff {source : Value} {found : Catalog Value} :
    fragmentsOf source = .ok found ↔
      ∃ entries, source = .map entries ∧
        (∀ declaration ∈ declarations entries, declaration.1 ≠ "") ∧
        ((declarations entries).map (·.1)).Nodup ∧ remaining entries = [] ∧
        fragments entries = found := by
  cases source with
  | map entries =>
      simp only [fragmentsOf, bind_eq_ok, split_eq_ok_iff, Prod.exists, Prod.mk.injEq,
        Value.map.injEq, exists_eq_left']
      cases rest : remaining entries with
      | nil => simp [and_assoc, pure_eq_ok]
      | cons entry others => simp [malformed]
  | _ => simp [fragmentsOf, malformed]

end Source
end DocShape
