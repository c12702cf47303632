import DocShape.Proofs.Linking.Table

namespace DocShape.Scope

/-! Agreement of the table with building every include anew.

A fragment's tree contains the trees of the fragments it includes, so along any chain of
includes the trees get smaller: no fragment meets itself, and building anew ends.
-/

variable {scope : Scope} {room : Nat} {opened : List String} {built : Catalog Node}

/-- The fragments being built are distinct declared ones, and there is room for all others. -/
structure Fits (scope : Scope) (room : Nat) (opened : List String) : Prop where
  distinct : opened.Nodup
  declared : ∀ name ∈ opened, scope.declared.contains name = true
  enough : scope.declared.size ≤ opened.length + room

theorem fits_nil (scope : Scope) : scope.Fits scope.declared.size [] := by
  constructor
  case distinct => exact .nil
  case declared =>
    intro name member
    cases member
  case enough =>
    rw [List.length_nil]
    omega

theorem Fits.insert (fits : scope.Fits room opened) {name : String} (unopened : name ∉ opened)
    (isDeclared : scope.declared.contains name = true) :
    ∃ inner, room = inner + 1 ∧ scope.Fits inner (opened ++ [name]) := by
  have distinct : (name :: opened).Nodup := List.nodup_cons.mpr ⟨unopened, fits.distinct⟩
  have declared : ∀ other ∈ name :: opened, scope.declared.contains other = true :=
    List.forall_mem_cons.mpr ⟨isDeclared, fits.declared⟩
  have reordered : List.Perm (opened ++ [name]) (name :: opened) := List.perm_append_singleton _ _
  have bounded : (name :: opened).length ≤ scope.declared.names.length := by
    apply distinct.length_le_of_subset
    intro other member
    exact Catalog.mem_names_iff.mpr (Catalog.contains_iff.mp (declared other member))
  have enough := fits.enough
  rw [Catalog.length_names, List.length_cons] at bounded
  obtain ⟨inner, rfl⟩ := Nat.exists_eq_add_one_of_ne_zero (show room ≠ 0 by omega)
  refine ⟨inner, rfl, ?_⟩
  constructor
  case distinct => exact reordered.nodup_iff.mpr distinct
  case declared =>
    intro other member
    exact declared other (reordered.mem_iff.mp member)
  case enough =>
    rw [reordered.length_eq, List.length_cons]
    omega

theorem rebuild_of_available (linked : scope.Linked built) (room : Nat) (opened : List String)
    (name : String) (node : Node) (found : scope.available built name = .ok node)
    (fits : scope.Fits room opened)
    (around : ∀ other ∈ opened, ∃ outer, built.find? other = some outer ∧
      sizeOf node < sizeOf outer) :
    scope.rebuild room opened name = .ok node := by
  have inTable := available_eq_ok_iff.mp found
  -- An opened fragment has a larger tree than this one, so this one is not among them.
  have unopened : name ∉ opened := by
    intro member
    obtain ⟨outer, stored, smaller⟩ := around name member
    rw [if_pos (fits.declared name member), stored] at inTable
    cases inTable
    exact Nat.lt_irrefl _ smaller
  rw [rebuild, if_neg (by simpa using unopened)]
  cases declared : scope.declared.find? name with
  | none =>
      have undeclared : ¬ scope.declared.contains name = true := by
        simp [Catalog.contains_eq_isSome_find?, declared]
      rw [if_neg undeclared] at inTable
      simp only [inTable]
  | some definition =>
      have isDeclared := Catalog.contains_iff.mpr ⟨definition, declared⟩
      rw [if_pos isDeclared] at inTable
      obtain ⟨own, same, expanded⟩ := linked name node inTable
      cases declared.symm.trans same
      obtain ⟨inner, rfl, fitsInside⟩ := fits.insert unopened isDeclared
      refine Definition.expand_of_includes expanded fun other target includes => ?_
      refine rebuild_of_available linked inner (opened ++ [name]) other target
        (Definition.lookUp_of_includes expanded includes) fitsInside ?_
      intro outerName member
      have inside := includes.sizeOf_lt
      rcases List.mem_append.mp member with earlier | here
      · obtain ⟨outer, stored, smaller⟩ := around outerName earlier
        exact ⟨outer, stored, Nat.lt_trans inside smaller⟩
      · cases List.mem_singleton.mp here
        exact ⟨node, inTable, inside⟩
termination_by room

theorem rebuilt_of_available (linked : scope.Linked built) {name : String} {node : Node}
    (found : scope.available built name = .ok node) : scope.rebuilt name = .ok node := by
  refine rebuild_of_available linked scope.declared.size [] name node found (fits_nil scope) ?_
  intro other member
  cases member

end DocShape.Scope
