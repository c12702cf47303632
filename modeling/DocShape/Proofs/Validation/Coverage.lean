import DocShape.Proofs.Validation.Conformance
import DocShape.Proofs.Validation.Location

namespace DocShape

/-! Which entries of a mapping a clean report speaks for.

Fields look their names up, so one entry stands for each name; every other entry of that
name is passed over when the remaining keys are checked.  A clean report accounts for all
entries but those.
-/

namespace Validation

variable {config : Config} {path : DocPath} {fields : List (Field Node)} {allowEmpty : Bool}

def Accepts (config : Config) (node : Node) (value : Value) : Prop :=
  check config [] node value = []

theorem check_eq_nil_iff_accepts {node : Node} {value : Value} :
    check config path node value = [] ↔ Accepts config node value := by
  have moved : check config (path ++ []) node value =
      (check config [] node value).map (.under path) := check_append path [] node value
  rw [List.append_nil] at moved
  rw [moved, List.map_eq_nil_iff, Accepts]

/-- An entry that fields speak for: the literal fields of its name accept it, or the pattern
fields that decide about its key do, or no field knows the key and the map tolerates that. -/
inductive Accounted (config : Config) (fields : List (Field Node)) (allowEmpty : Bool)
    (key stored : Value) : Prop where
  | named (claimed : Claimed fields key)
      (accepted : ∀ field ∈ fields, ∀ name, field.key = .literal name →
        key.content = .string name → Accepts config field.node stored)
  | matched (selected : ∃ field ∈ fields, field.Matches key.keyText)
      (accepted : ∀ field ∈ fields, field.Governs config.patternMatch fields key.keyText →
        Accepts config field.node stored)
  | tolerated (unclaimed : ¬ Claimed fields key)
      (unmatched : ∀ field ∈ fields, ¬ field.Matches key.keyText)
      (allowed : allowEmpty = true)

/-- The key between two parts of a mapping spells a name with tags, and that name leads to
another entry: to exactly that key, or to a spelling further in front. -/
def Shadowed (before : Entries) (key : Value) (after : Entries) : Prop :=
  ∃ name, key.content = .string name ∧ key ≠ .string name ∧
    ((∃ other ∈ before ++ after, other.1 = .string name) ∨
      ∃ earlier ∈ before, earlier.1.content = .string name)

theorem stores_of_not_shadowed {before after : Entries} {key stored : Value} {name : String}
    (distinct : Entries.Distinct (before ++ (key, stored) :: after))
    (spelled : key.content = .string name) (unshadowed : ¬ Shadowed before key after) :
    Entries.Stores (before ++ (key, stored) :: after) name stored := by
  by_cases plain : key = .string name
  · refine .inl ⟨before, key, after, rfl, plain, ?_⟩
    intro earlier member same
    have different := (List.pairwise_append.mp distinct).2.2 earlier member (key, stored) (by simp)
    rw [same, plain] at different
    simp [Value.same] at different
  · have absent : ∀ other ∈ before ++ after, other.1 ≠ .string name :=
      fun other member same => unshadowed ⟨name, spelled, plain, .inl ⟨other, member, same⟩⟩
    refine .inr ⟨?_, before, key, after, rfl, spelled, ?_⟩
    · intro entry member
      rcases List.mem_append.mp member with earlier | here
      · exact absent entry (List.mem_append_left _ earlier)
      · rcases List.mem_cons.mp here with rfl | later
        · exact plain
        · exact absent entry (List.mem_append_right _ later)
    · intro earlier member same
      exact unshadowed ⟨name, spelled, plain, .inr ⟨earlier, member, same⟩⟩

/-- What a shadowed key holds is never looked up. -/
theorem literalValue?_of_shadowed {before after : Entries} {key : Value}
    (shadowed : Shadowed before key after) (stored other : Value) (wanted : String) :
    literalValue? (before ++ (key, other) :: after) wanted =
      literalValue? (before ++ (key, stored) :: after) wanted := by
  obtain ⟨name, spelled, tagged, reached⟩ := shadowed
  have notPlain : key.isPlain wanted = false := by
    cases found : key.isPlain wanted with
    | false => rfl
    | true =>
        rw [Value.isPlain_iff.mp found, Value.content_string, Value.string.injEq] at spelled
        exact absurd (spelled ▸ Value.isPlain_iff.mp found) tagged
  have plain : Entries.get? (before ++ (key, other) :: after) wanted =
      Entries.get? (before ++ (key, stored) :: after) wanted := by
    simp only [Entries.get?, List.find?_append, List.find?_cons, notPlain]
  unfold literalValue?
  rw [plain]
  cases exact : Entries.get? (before ++ (key, stored) :: after) wanted with
  | some found => rfl
  | none =>
      have absent := Entries.get?_eq_none_iff.mp exact
      simp only [List.find?_append, List.find?_cons]
      by_cases same : key.isNamed wanted = true
      · -- The name asked for is the shadowed one, so only a spelling in front can lead on.
        rw [Value.isNamed_iff, spelled, Value.string.injEq] at same
        subst same
        rcases reached with ⟨other, member, same⟩ | ⟨earlier, member, same⟩
        · refine absurd same (absent other ?_)
          rcases List.mem_append.mp member with inFront | behind
          · exact List.mem_append_left _ inFront
          · exact List.mem_append_right _ (List.mem_cons_of_mem _ behind)
        · cases front : before.find? fun entry => entry.1.isNamed name with
          | some found => rfl
          | none =>
              have unnamed := List.find?_eq_none.mp front earlier member
              exact absurd (Value.isNamed_iff.mpr same) unnamed
      · simp only [same]

theorem check_map_of_shadowed {before after : Entries} {key : Value}
    (claimed : Claimed fields key) (shadowed : Shadowed before key after)
    (stored other : Value) :
    check config path (.map fields allowEmpty) (.map (before ++ (key, other) :: after)) =
      check config path (.map fields allowEmpty) (.map (before ++ (key, stored) :: after)) := by
  have literal (field : Field Node) :
      literalViolations config path (before ++ (key, other) :: after) field =
        literalViolations config path (before ++ (key, stored) :: after) field := by
    unfold literalViolations
    simp only [literalValue?_of_shadowed shadowed stored other]
  rw [check_map (Value.content_map (before ++ (key, other) :: after)),
    check_map (Value.content_map (before ++ (key, stored) :: after))]
  simp only [funext literal, List.flatMap_append, List.flatMap_cons, claims_iff.mpr claimed,
    if_true]

theorem accounted_of_check_eq_nil {before after : Entries} {key stored value : Value}
    (mapping : value.content = .map (before ++ (key, stored) :: after))
    (distinct : Entries.Distinct (before ++ (key, stored) :: after))
    (unshadowed : ¬ Shadowed before key after)
    (clean : check config path (.map fields allowEmpty) value = []) :
    Accounted config fields allowEmpty key stored := by
  rw [check_map mapping, List.append_eq_nil_iff, List.flatMap_eq_nil_iff,
    List.flatMap_eq_nil_iff] at clean
  obtain ⟨literal, remaining⟩ := clean
  by_cases claimed : Claimed fields key
  · refine .named claimed fun field member name isLiteral spelled => ?_
    have passed := (literalViolations_eq_nil_iff.mp (literal field member) name isLiteral).1
    exact check_eq_nil_iff_accepts.mp
      (passed stored (stores_of_not_shadowed distinct spelled unshadowed))
  · have unclaimed : claims fields key = false :=
      Bool.eq_false_iff.mpr (mt claims_iff.mp claimed)
    have passed := remaining (key, stored) (by simp)
    simp only [unclaimed, Bool.false_eq_true, if_false, patternViolations_eq_nil_iff] at passed
    by_cases selected : ∃ field ∈ fields, field.Matches key.keyText
    · refine .matched selected fun field member governs => ?_
      exact check_eq_nil_iff_accepts.mp (passed.1 field member governs)
    · have unmatched : ∀ field ∈ fields, ¬ field.Matches key.keyText :=
        fun field member matched => selected ⟨field, member, matched⟩
      exact .tolerated claimed unmatched (passed.2 unmatched)

/-- A clean report on a mapping accounts for every entry but those whose key is shadowed, and
of a shadowed entry that a literal field claims the report is the same whatever it holds. -/
theorem clean_report_accounts {value : Value} {entries : Entries}
    (mapping : value.content = .map entries) (distinct : entries.Distinct) :
    (check config path (.map fields allowEmpty) value = [] →
      ∀ before key stored after, entries = before ++ (key, stored) :: after →
        ¬ Shadowed before key after → Accounted config fields allowEmpty key stored) ∧
    ∀ before key stored after, entries = before ++ (key, stored) :: after →
      Claimed fields key → Shadowed before key after → ∀ other,
        check config path (.map fields allowEmpty) (.map (before ++ (key, other) :: after)) =
          check config path (.map fields allowEmpty) value := by
  constructor
  · rintro clean before key stored after rfl unshadowed
    exact accounted_of_check_eq_nil mapping distinct unshadowed clean
  · rintro before key stored after rfl claimed shadowed other
    rw [check_map_of_shadowed claimed shadowed stored other, check_map mapping,
      check_map (Value.content_map (before ++ (key, stored) :: after))]

/-- A plain key and a tagged one, both accounted for. -/
theorem clean_report_accounts_tagged :
    let number : Node := .scalar (.ofKind .int)
    let fields := [⟨.literal "low", true, number⟩, ⟨.literal "high", true, number⟩]
    let high : Value := .tagged "!mark" (.string "high")
    Accounted .standard fields false high (.int 2) := by
  refine (@clean_report_accounts .standard [] _ false
    (.map [(.string "low", .int 1), (.tagged "!mark" (.string "high"), .int 2)]) _
    rfl (by simp [Entries.Distinct, Value.same])).1 rfl
    [(.string "low", .int 1)] _ _ [] rfl ?_
  rintro ⟨name, spelled, _, reached⟩
  obtain rfl : "high" = name := by simpa [Value.content] using spelled
  rcases reached with ⟨other, member, same⟩ | ⟨earlier, member, same⟩
  · cases List.mem_singleton.mp member
    simp at same
  · cases List.mem_singleton.mp member
    simp [Value.content] at same

/-- A clean report does not account for every entry: next to a key, a tagged spelling of it
holds what the field would refuse. -/
theorem clean_report_passes_over_shadowed :
    ¬ ∀ (config : Config) (fields : List (Field Node)) (allowEmpty : Bool) (entries : Entries),
      entries.Distinct → check config [] (.map fields allowEmpty) (.map entries) = [] →
        ∀ entry ∈ entries, Accounted config fields allowEmpty entry.1 entry.2 := by
  intro accounts
  have escaped := accounts .standard [⟨.literal "count", false, .scalar (.ofKind .int)⟩] false
    [(.string "count", .int 1), (.tagged "!mark" (.string "count"), .string "many")]
    (by simp [Entries.Distinct, Value.same]) rfl
    (.tagged "!mark" (.string "count"), .string "many") (by simp)
  cases escaped with
  | named claimed accepted =>
      have passed := accepted ⟨.literal "count", false, .scalar (.ofKind .int)⟩ (by simp) "count"
        rfl rfl
      exact List.cons_ne_nil _ _ passed
  | matched selected accepted =>
      obtain ⟨field, member, pattern, isPattern, _⟩ := selected
      cases List.mem_singleton.mp member
      cases isPattern
  | tolerated unclaimed unmatched allowed => cases allowed

end Validation
end DocShape
