import DocShape.Proofs.Inside
import DocShape.Value.Summary

namespace DocShape.Value

/-! Documents whose mappings list the same entries in another order.

Reports describe a rearranged value in the same words, and where no mapping spells a name
twice the same names lead to the same values.
-/

mutual

/-- The same value with the entries of its mappings rearranged, in itself and in whatever
stands in it but keys. -/
inductive Rearranged : Value → Value → Prop where
  | same (value : Value) : Rearranged value value
  | tagged {tag : String} {inner other : Value} (below : Rearranged inner other) :
      Rearranged (.tagged tag inner) (.tagged tag other)
  | seq {items others : List Value} (each : List.Forall₂ Rearranged items others) :
      Rearranged (.seq items) (.seq others)
  | map {entries middle others : Entries} (order : entries.Perm middle)
      (each : List.Forall₂ RearrangedEntry middle others) : Rearranged (.map entries) (.map others)

inductive RearrangedEntry : Value × Value → Value × Value → Prop where
  | mk {key stored other : Value} (below : Rearranged stored other) :
      RearrangedEntry (key, stored) (key, other)

end

/-- No mapping in the value has two keys that spell one name. -/
def NamesOnce (value : Value) : Prop := value.Everywhere Entries.NamesOnce

variable {value other : Value}

/-- What a value and a rearranged one are below their tags. -/
inductive Reordered (value other : Value) : Prop where
  | same (same : value.content = other.content)
  | items {items others : List Value} (isSeq : value.content = .seq items)
      (otherIsSeq : other.content = .seq others) (each : List.Forall₂ Rearranged items others)
  | entries {entries middle others : Entries} (isMap : value.content = .map entries)
      (otherIsMap : other.content = .map others) (order : entries.Perm middle)
      (each : List.Forall₂ RearrangedEntry middle others)

theorem Rearranged.reordered (rearranged : Rearranged value other) : Reordered value other := by
  induction value using content.induct generalizing other with
  | case1 tag inner ofInner =>
      cases rearranged with
      | same => exact .same rfl
      | tagged below =>
          cases ofInner below with
          | same same => exact .same same
          | items isSeq otherIsSeq each => exact .items isSeq otherIsSeq each
          | entries isMap otherIsMap order each => exact .entries isMap otherIsMap order each
  | case2 value untagged =>
      cases rearranged with
      | same => exact .same rfl
      | tagged => exact absurd rfl (untagged _ _)
      | seq each => exact .items rfl rfl each
      | map order each => exact .entries rfl rfl order each

theorem Rearranged.summary_eq (rearranged : Rearranged value other) :
    value.summary = other.summary := by
  rw [← summary_content value, ← summary_content other]
  cases rearranged.reordered with
  | same same => rw [same]
  | items isSeq otherIsSeq each =>
      rw [isSeq, otherIsSeq]
      simp only [summary, content, each.length_eq]
  | entries isMap otherIsMap order each =>
      rw [isMap, otherIsMap]
      simp only [summary, content, order.length_eq, each.length_eq]

end DocShape.Value
