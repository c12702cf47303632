import DocShape.Proofs.Causes
import DocShape.Proofs.Opening
import DocShape.Proofs.Text.Json

namespace DocShape

/-! Violations as JSON: the text tells all of a violation but how its path is divided. -/

theorem ViolationKind.name_inj {kind other : ViolationKind} (same : kind.name = other.name) :
    kind = other := by
  cases kind <;> cases other <;> first | rfl | exact absurd same (by decide)

namespace Violation

/-- The same is told of both violations: they are of one kind, at places with one text, with the
same texts, and with causes of which the same is told in the same order. -/
inductive ToldAlike : Violation → Violation → Prop where
  | mk {path other : DocPath} {kind : ViolationKind} {expected actual : String}
      {causes others : List Violation} (places : path.text = other.text)
      (below : List.Forall₂ ToldAlike causes others) :
      ToldAlike (.mk path kind expected actual causes) (.mk other kind expected actual others)

variable {causes others : List Violation} {rest remaining : List Char}

/-- The end of a violation's object behind its texts, and what follows the object. -/
def jsonEnding (causes : List Violation) (rest : List Char) : List Char :=
  match causes with
  | [] => '\x7d' :: rest
  | first :: later =>
      ',' :: ((Text.jsonString "causes").toList ++
        ':' :: '[' :: ([','].intercalate ((first :: later).map fun cause => cause.json.toList) ++
          ']' :: '\x7d' :: rest))

theorem toList_json_append (path : DocPath) (kind : ViolationKind) (expected actual : String)
    (causes : List Violation) (rest : List Char) :
    (json (.mk path kind expected actual causes)).toList ++ rest =
      '\x7b' :: Text.jsonTextField "path" path.text (',' :: Text.jsonTextField "kind" kind.name
        (',' :: Text.jsonTextField "expected" expected (',' :: Text.jsonTextField "actual" actual
          (jsonEnding causes rest)))) := by
  cases causes with
  | nil => simp [json, causesJson, leadingFields, Text.jsonObject, Text.jsonTextField, jsonEnding]
  | cons first later =>
      simp [json, causesJson, causesJson_eq_map, leadingFields, Text.jsonObject, Text.jsonArray,
        Text.jsonTextField, jsonEnding, Function.comp_def]

/-- A violation in a list, behind its comma. -/
def jsonItem (violation : Violation) : List Char := ',' :: violation.json.toList

/-- With a comma in front, a list is a row of items. -/
theorem flatMap_jsonItem (first : Violation) (later : List Violation) :
    (first :: later).flatMap jsonItem =
      ',' :: [','].intercalate ((first :: later).map fun cause => cause.json.toList) := by
  have mapped : (first :: later).flatMap jsonItem =
      ((first :: later).map fun cause => cause.json.toList).flatMap (',' :: ·) := by
    rw [List.flatMap_map]
    rfl
  rw [mapped, List.map_cons, Text.cons_intercalate]

/-- Where the texts of causes show where they end, so does the end of the object. -/
theorem jsonEnding_inj {agree : Violation → Violation → Prop}
    (each : ∀ cause ∈ causes, ∀ other later further,
      cause.json.toList ++ later = other.json.toList ++ further →
        agree cause other ∧ later = further)
    (same : jsonEnding causes rest = jsonEnding others remaining) :
    List.Forall₂ agree causes others ∧ rest = remaining := by
  cases causes with
  | nil =>
      cases others with
      | nil => exact ⟨.nil, (List.cons.inj same).2⟩
      | cons other further => simp [jsonEnding] at same
  | cons cause later =>
      cases others with
      | nil => simp [jsonEnding] at same
      | cons other further =>
          simp only [jsonEnding, List.cons.injEq, List.append_cancel_left_eq, true_and] at same
          have rows : (cause :: later).flatMap jsonItem ++ ']' :: '\x7d' :: rest =
              (other :: further).flatMap jsonItem ++ ']' :: '\x7d' :: remaining := by
            rw [flatMap_jsonItem, flatMap_jsonItem, List.cons_append, List.cons_append, same]
          obtain ⟨below, sameRest⟩ := Text.flatMap_append_inj (by simp [jsonItem])
            (fun cause member other _ _ same => each cause member other _ _ (List.cons.inj same).2)
            rows
          exact ⟨below, (List.cons.inj sameRest).2⟩

theorem json_append_inj {left right : Violation}
    (same : left.json.toList ++ rest = right.json.toList ++ remaining) :
    left.ToldAlike right ∧ rest = remaining := by
  induction left using Violation.induction generalizing right rest remaining with
  | mk path kind expected actual causes ofCause =>
      obtain ⟨other, otherKind, otherExpected, otherActual, others⟩ := right
      rw [toList_json_append, toList_json_append] at same
      obtain ⟨samePath, afterPath⟩ := Text.jsonTextField_inj (List.cons.inj same).2
      obtain ⟨sameKind, afterKind⟩ := Text.jsonTextField_inj (List.cons.inj afterPath).2
      obtain ⟨rfl, afterExpected⟩ := Text.jsonTextField_inj (List.cons.inj afterKind).2
      obtain ⟨rfl, afterActual⟩ := Text.jsonTextField_inj (List.cons.inj afterExpected).2
      cases ViolationKind.name_inj sameKind
      obtain ⟨below, sameRest⟩ := jsonEnding_inj
        (fun cause member _ _ _ sameTexts => ofCause cause member sameTexts) afterActual
      exact ⟨.mk samePath below, sameRest⟩

theorem json_of_toldAlike {left right : Violation} (alike : left.ToldAlike right) :
    left.json = right.json := by
  induction left using Violation.induction generalizing right with
  | mk path kind expected actual causes ofCause =>
      cases alike with
      | @mk _ other _ _ _ _ others places below =>
          have sameCauses : causesJson causes = causesJson others := by
            rw [causesJson_eq_map, causesJson_eq_map, ← List.forall₂_eq_eq_eq,
              List.forall₂_map_left_iff, List.forall₂_map_right_iff]
            exact forall₂_of_mem below fun cause member _ _ alike => ofCause cause member alike
          simp only [json, leadingFields, places, sameCauses]

/-- Two violations have the same JSON text exactly when the same is told of both. -/
theorem json_eq_iff (left right : Violation) : left.json = right.json ↔ left.ToldAlike right := by
  constructor
  · intro same
    have letters : left.json.toList ++ [] = right.json.toList ++ [] := by rw [same]
    exact (json_append_inj letters).1
  · exact json_of_toldAlike

end Violation
end DocShape
