import DocShape.Schema.Linking
import Mathlib.Data.List.Forall2

namespace DocShape

/-! Opening a computation that succeeded, step by step, and lists whose members are related
one to one. -/

theorem bind_eq_ok {ε α β : Type} {first : Except ε α} {next : α → Except ε β} {result : β} :
    (first >>= next) = .ok result ↔ ∃ found, first = .ok found ∧ next found = .ok result := by
  cases first <;> simp [bind, Except.bind]

theorem bind_eq_error {ε α β : Type} {first : Except ε α} {next : α → Except ε β} {error : ε} :
    (first >>= next) = .error error ↔
      first = .error error ∨ ∃ found, first = .ok found ∧ next found = .error error := by
  cases first <;> simp [bind, Except.bind]

theorem pure_eq_ok {ε α : Type} {value result : α} :
    (pure value : Except ε α) = .ok result ↔ value = result := by
  simp [pure, Except.pure]

theorem map_succeeds_iff {ε α β : Type} {change : α → β} {found : Except ε α} :
    (∃ result, change <$> found = .ok result) ↔ ∃ value, found = .ok value := by
  cases found <;> simp [Functor.map, Except.map]

/-- Computations that begin alike and differ by a change of what comes next differ by it. -/
theorem bind_eq_map {ε α β γ : Type} {first : Except ε α} {next : α → Except ε β}
    {later : α → Except ε γ} {change : β → γ}
    (each : ∀ found, later found = (next found).map change) :
    (first >>= later) = (first >>= next).map change := by
  cases first with
  | error error => rfl
  | ok found => exact each found

theorem map_bind_eq_map {ε α β γ δ : Type} {first : Except ε α} {change : α → γ}
    {next : α → Except ε β} {later : γ → Except ε δ} {after : β → δ}
    (each : ∀ found, first = .ok found → later (change found) = (next found).map after) :
    (first.map change >>= later) = (first >>= next).map after := by
  cases first with
  | error error => rfl
  | ok found => exact each found rfl

theorem exists_of_isOk {ε α : Type} {found : Except ε α} (isOk : found.isOk = true) :
    ∃ value, found = .ok value := by
  cases found with
  | error error => cases isOk
  | ok value => exact ⟨value, rfl⟩

theorem toOption_eq_some_iff {ε α : Type} {found : Except ε α} {value : α} :
    found.toOption = some value ↔ found = .ok value := by
  cases found <;> simp [Except.toOption]

theorem exists_unit {holds : Unit → Prop} : (∃ found, holds found) ↔ holds () := by
  constructor
  · intro ⟨_, found⟩
    exact found
  · intro found
    exact ⟨(), found⟩

section Related

variable {α β : Type} {left right : α → β → Prop} {sources : List α} {results : List β}

theorem forall₂_of_mem (related : List.Forall₂ left sources results)
    (each : ∀ source ∈ sources, ∀ result ∈ results, left source result → right source result) :
    List.Forall₂ right sources results := by
  obtain ⟨length, pairs⟩ := List.forall₂_iff_zip.mp related
  refine List.forall₂_iff_zip.mpr ⟨length, fun member => ?_⟩
  obtain ⟨inSources, inResults⟩ := List.of_mem_zip member
  exact each _ inSources _ inResults (pairs member)

theorem source_of_mem (related : List.Forall₂ left sources results) {result : β}
    (member : result ∈ results) : ∃ source ∈ sources, left source result := by
  induction related with
  | nil => cases member
  | cons first _ ofRest =>
      rcases List.mem_cons.mp member with rfl | later
      · exact ⟨_, by simp, first⟩
      · obtain ⟨source, inRest, related⟩ := ofRest later
        exact ⟨source, List.mem_cons_of_mem _ inRest, related⟩

theorem result_of_mem (related : List.Forall₂ left sources results) {source : α}
    (member : source ∈ sources) : ∃ result ∈ results, left source result := by
  obtain ⟨result, inResults, found⟩ := source_of_mem (List.Forall₂.flip related) member
  exact ⟨result, inResults, found⟩

/-- Two lists that differ in one place. -/
theorem forall₂_replaced {same : α → α → Prop} (refl : ∀ member, same member member)
    {front rest : List α} {old new : α} (replaced : same old new) :
    List.Forall₂ same (front ++ old :: rest) (front ++ new :: rest) := by
  have unchanged (members : List α) : List.Forall₂ same members members :=
    List.forall₂_same.mpr fun member _ => refl member
  exact List.rel_append (unchanged front) (.cons replaced (unchanged rest))

theorem rel_same {related : α → α → Prop} (refl : ∀ member, related member member)
    (found : Option α) : Option.Rel related found found := by
  cases found with
  | none => exact .none
  | some member => exact .some (refl member)

theorem rel_imp (imp : ∀ source result, left source result → right source result)
    {found : Option α} {again : Option β} (related : Option.Rel left found again) :
    Option.Rel right found again := by
  cases related with
  | none => exact .none
  | some related => exact .some (imp _ _ related)

theorem rel_swap {back : β → α → Prop} (swap : ∀ source result, left source result → back result source)
    {found : Option α} {again : Option β} (related : Option.Rel left found again) :
    Option.Rel back again found := by
  cases related with
  | none => exact .none
  | some related => exact .some (swap _ _ related)

theorem isSome_eq_of_rel {found : Option α} {again : Option β}
    (related : Option.Rel left found again) : found.isSome = again.isSome := by
  cases related <;> rfl

theorem eq_none_iff_of_rel {found : Option α} {again : Option β}
    (related : Option.Rel left found again) : found = none ↔ again = none := by
  cases related <;> simp

theorem forall₂_zipIdx (related : List.Forall₂ left sources results) (start : Nat) :
    List.Forall₂ (fun source result => source.2 = result.2 ∧ left source.1 result.1)
      (sources.zipIdx start) (results.zipIdx start) := by
  induction related generalizing start with
  | nil => exact .nil
  | cons first _ ofRest => exact .cons ⟨rfl, first⟩ (ofRest (start + 1))

end Related

namespace Linking

variable {α β : Type} {before after : Catalog Node}

theorem bind_eq_ok {first : Linking α} {next : α → Linking β} {result : β} :
    (first >>= next) before = .ok (result, after) ↔
      ∃ found between, first before = .ok (found, between) ∧
        next found between = .ok (result, after) := by
  change (first before >>= fun found => next found.1 found.2) = .ok (result, after) ↔ _
  rw [DocShape.bind_eq_ok, Prod.exists]

theorem pure_apply (value : α) : (pure value : Linking α) before = .ok (value, before) := rfl

theorem pure_eq_ok {value result : α} :
    (pure value : Linking α) before = .ok (result, after) ↔ value = result ∧ before = after := by
  rw [pure_apply, Except.ok.injEq, Prod.mk.injEq]

theorem fail_ne_ok {error : SchemaError} {result : α} :
    fail error before ≠ .ok (result, after) :=
  nofun

theorem ofExcept_eq_ok {found : Except SchemaError α} {result : α} :
    ofExcept found before = .ok (result, after) ↔ found = .ok result ∧ before = after := by
  cases found with
  | error error => simp [ofExcept, fail]
  | ok value => simp [ofExcept, pure_eq_ok]

theorem discard_eq_ok {computation : Linking α} {nothing : PUnit} :
    discard computation before = .ok (nothing, after) ↔
      ∃ result, computation before = .ok (result, after) := by
  change (computation before >>= fun found => pure ((), found.2)) = .ok ((), after) ↔ _
  rw [DocShape.bind_eq_ok, Prod.exists]
  simp only [DocShape.pure_eq_ok, Prod.mk.injEq, true_and]
  constructor
  · rintro ⟨result, _, done, rfl⟩
    exact ⟨result, done⟩
  · rintro ⟨result, done⟩
    exact ⟨result, after, done, rfl⟩

end Linking
end DocShape
