import DocShape.Proofs.Grammar.Definition
import DocShape.Proofs.Linking.Success

namespace DocShape

/-! The includes that a source writes, and those in the definition read from it.

Here the source may hold tags anywhere.  Keywords are found by their plain keys only, while
the name of a fragment is read through its tags.
-/

namespace Source

/-- A definition `child` stands among the fields or the element shapes of a definition. -/
@[mk_iff]
inductive Inside (entries : Entries) (child : Value) : Prop where
  | field {keyword : String} {key : Value} {fields : Entries}
      (spelled : keyword ∈ ["mapping", "map"])
      (stored : entries.get? keyword = some (.map fields)) (member : (key, child) ∈ fields)
  | variant {keyword : String} {variants : List Value}
      (spelled : keyword ∈ ["sequence", "seq"])
      (stored : entries.get? keyword = some (.seq variants)) (member : child ∈ variants)

/-- An include of `name` is written in the definition, at any depth. -/
inductive Mentions : Value → String → Prop where
  | here {entries : Entries} {written : Value} {name : String}
      (target : entries.get? "include" = some written) (named : written.text? = some name) :
      Mentions (.map entries) name
  | within {entries : Entries} {child : Value} {name : String} (inside : Inside entries child)
      (mentions : Mentions child name) : Mentions (.map entries) name

theorem mentions_map_iff {entries : Entries} {name : String} :
    Mentions (.map entries) name ↔
      (∃ written, entries.get? "include" = some written ∧ written.text? = some name) ∨
        ∃ child, Inside entries child ∧ Mentions child name := by
  constructor
  · intro mentions
    cases mentions with
    | here target named => exact .inl ⟨_, target, named⟩
    | within inside mentions => exact .inr ⟨_, inside, mentions⟩
  · rintro (⟨written, target, named⟩ | ⟨child, inside, mentions⟩)
    · exact .here target named
    · exact .within inside mentions

/-- Of these bodies, one for the first name includes the second. -/
def Includes (bodies : String → Value → Prop) (outer inner : String) : Prop :=
  ∃ body, bodies outer body ∧ Mentions body inner

end Source

namespace Heading

variable {path : String} {entries : Entries} {heading : Heading}

theorem lacks_of_ofInclude {target : Value}
    (found : ofInclude path entries target = .ok heading) :
    (∃ name, target.text? = some name ∧ heading = .included name) ∧
      ∀ name, name ∉ includeKeywords → entries.get? name = none := by
  obtain ⟨alone, name, named, rfl⟩ := ofInclude_eq_ok_iff_alone.mp found
  refine ⟨⟨name, named, rfl⟩, fun name foreign => ?_⟩
  exact alone.lacks (List.forall_mem_singleton.mpr foreign) name List.mem_cons_self

theorem either_of_get? {name synonym keyword : String} {stored : Value}
    {found : Option (String × Value)} (chosen : either path name synonym entries = .ok found)
    (spelled : keyword ∈ [name, synonym]) (present : entries.get? keyword = some stored) :
    found = some (keyword, stored) := by
  unfold either at chosen
  rcases List.mem_pair.mp spelled with rfl | rfl
  · cases other : entries.get? synonym <;> simp_all [malformed]
  · cases other : entries.get? name <;> simp_all [malformed]

theorem keyword_of_either {name synonym keyword : String} {stored : Value}
    (chosen : either path name synonym entries = .ok (some (keyword, stored))) :
    keyword ∈ [name, synonym] ∧ entries.get? keyword = some stored := by
  refine ⟨?_, (either_spelled chosen).2 keyword stored rfl⟩
  unfold either at chosen
  split at chosen <;> simp_all [malformed]

/-- What a heading is read from, and which keywords it leaves no room for. -/
inductive ReadFrom (path : String) (entries : Entries) : Heading → Prop where
  | included {written : Value} {name : String} (target : entries.get? "include" = some written)
      (named : written.text? = some name)
      (alone : ∀ name, name ∉ includeKeywords → entries.get? name = none) :
      ReadFrom path entries (.included name)
  | map {fields : Option (String × Value)} {keyword : String} {allowEmpty : Bool}
      (typed : Grammar.IsTyped entries ["map", "mapping"] ∨ entries.get? "type" = none)
      (lacks : entries.Lacks ["include", "sequence", "seq", "range"])
      (ofFields : either path "mapping" "map" entries = .ok fields)
      (under : fieldsUnder path fields = .ok keyword) :
      ReadFrom path entries (.map keyword allowEmpty)
  | seq {variants : List Value} {keyword : String} {matching : Matching}
      (typed : Grammar.IsTyped entries ["seq", "sequence"] ∨ entries.get? "type" = none)
      (lacks : entries.Lacks ["include", "mapping", "map", "range"])
      (ofSequence : either path "sequence" "seq" entries = .ok (some (keyword, .seq variants)))
      (present : variants ≠ []) : ReadFrom path entries (.seq keyword matching)
  | scalar {kind : Kind} {leaf : Scalar}
      (typed : (∃ name, entries.get? "type" = some (.string name) ∧ Kind.ofName? name = some kind) ∨
        entries.get? "type" = none)
      (lacks : entries.Lacks ["include", "mapping", "map", "sequence", "seq"])
      (ofKind : ofScalar path entries kind false = .ok (.scalar leaf)) :
      ReadFrom path entries (.scalar leaf)

theorem readFrom (found : read path entries = .ok heading) : ReadFrom path entries heading := by
  obtain ⟨_, ⟨target, isInclude, found⟩ | ⟨noInclude, fields, ofFields, sequence, ofSequence,
    chosen⟩⟩ := read_eq_ok_iff.mp found
  · obtain ⟨⟨name, named, rfl⟩, alone⟩ := lacks_of_ofInclude found
    exact .included isInclude named alone
  · have fieldsSpelled := (either_spelled ofFields).1
    have sequenceSpelled := (either_spelled ofSequence).1
    cases chosen with
    | map typed found =>
        obtain ⟨rfl, lacks, _, _, keyword, under, rfl⟩ := ofMap_eq_ok_iff.mp found
        have noSequence := Entries.spelled_none_iff.mp sequenceSpelled
        exact .map (typed.imp_right And.left) (by simp_all) ofFields under
    | seq typed found =>
        obtain ⟨rfl, lacks, keyword, under, _, _, rfl⟩ := ofSeq_eq_ok_iff.mp found
        obtain ⟨variants, rfl, present⟩ := elementsUnder_eq_ok_iff.mp under
        have noFields := Entries.spelled_none_iff.mp fieldsSpelled
        exact .seq (typed.imp_right And.left) (by simp_all) ofSequence present
    | scalar kind typed found =>
        have childless := (ofScalar_eq_ok_iff.mp found).1
        rw [childless] at found
        obtain rfl : fields = none := by simp_all
        obtain rfl : sequence = none := by simp_all
        have noFields := Entries.spelled_none_iff.mp fieldsSpelled
        have noSequence := Entries.spelled_none_iff.mp sequenceSpelled
        obtain ⟨_, _, _, _, _, _, _, _, _, _, _, rfl⟩ := ofScalar_eq_ok_iff.mp found
        exact .scalar (typed.imp_right And.left) (by simp_all) found

/-- The keyword `include` makes a definition an include, and nothing else does. -/
theorem included_iff (found : read path entries = .ok heading) {name : String} :
    heading.outline entries = .included name ↔
      ∃ written, entries.get? "include" = some written ∧ written.text? = some name := by
  cases readFrom found with
  | included target named => simp [target, named, outline]
  | map _ lacks => simp [lacks "include", outline]
  | seq _ lacks => simp [lacks "include", outline]
  | scalar _ lacks => simp [lacks "include", outline]

theorem children_of_inside (found : read path entries = .ok heading) {child : Value}
    (inside : Source.Inside entries child) : child ∈ (heading.outline entries).children := by
  cases inside with
  | field spelled stored member =>
      cases readFrom found with
      | included _ _ alone =>
          rw [alone _ (by rcases List.mem_pair.mp spelled with rfl | rfl <;> decide)] at stored
          cases stored
      | map _ _ ofFields under =>
          obtain rfl := either_of_get? ofFields spelled stored
          cases under
          simp only [outline, Entries.table, stored, Outline.children]
          exact List.mem_map.mpr ⟨_, member, rfl⟩
      | seq _ lacks | scalar _ lacks =>
          rw [lacks _ (by simp at spelled ⊢; tauto)] at stored
          cases stored
  | variant spelled stored member =>
      cases readFrom found with
      | included _ _ alone =>
          rw [alone _ (by rcases List.mem_pair.mp spelled with rfl | rfl <;> decide)] at stored
          cases stored
      | seq _ _ ofSequence =>
          cases either_of_get? ofSequence spelled stored
          simpa only [outline, Entries.items, stored, Outline.children] using member
      | map _ lacks | scalar _ lacks =>
          rw [lacks _ (by simp at spelled ⊢; tauto)] at stored
          cases stored

theorem inside_of_children (found : read path entries = .ok heading) {child : Value}
    (member : child ∈ (heading.outline entries).children) : Source.Inside entries child := by
  cases readFrom found with
  | included | scalar => cases member
  | map _ _ ofFields under =>
      rcases fieldsUnder_eq_ok_iff.mp under with ⟨rfl, rfl⟩ | ⟨table, rfl⟩
      · have noFields := Entries.spelled_none_iff.mp (either_spelled ofFields).1
        simp only [Entries.lacks_cons] at noFields
        simp [outline, Entries.table, noFields.1, Outline.children] at member
      · obtain ⟨spelled, stored⟩ := keyword_of_either ofFields
        simp only [outline, Entries.table, stored, Outline.children, List.mem_map] at member
        obtain ⟨⟨key, _⟩, member, rfl⟩ := member
        exact .field spelled stored member
  | seq _ _ ofSequence =>
      obtain ⟨spelled, stored⟩ := keyword_of_either ofSequence
      simp only [outline, Entries.items, stored, Outline.children] at member
      exact .variant spelled stored member

theorem mentions_iff (found : read path entries = .ok heading) {name : String} :
    Source.Mentions (.map entries) name ↔
      heading.outline entries = .included name ∨
        ∃ child ∈ (heading.outline entries).children, Source.Mentions child name := by
  rw [Source.mentions_map_iff, included_iff found]
  refine or_congr_right (exists_congr fun child => and_congr_left fun _ => ?_)
  exact ⟨children_of_inside found, inside_of_children found⟩

end Heading

namespace Definition

/-- Where no fault was found, the includes of a definition are those written in its source. -/
theorem includes_iff_mentions {limit depth : Nat} {path name : String} {value : Value}
    (sound : (read limit path depth value).Sound) :
    (read limit path depth value).Includes name ↔ Source.Mentions value name := by
  have shallow := shallow_of_sound sound
  cases value with
  | map entries =>
      rw [read_map shallow] at sound ⊢
      cases found : Heading.read path entries with
      | error error =>
          rw [found] at sound
          exact absurd sound not_sound_refused
      | ok heading =>
          rw [found] at sound
          rw [Heading.mentions_iff found]
          refine includes_ofHeading_iff sound fun child _ childPath childSound => ?_
          have deeper := shallow_of_sound childSound
          exact includes_iff_mentions childSound
  | _ =>
      rw [read, if_neg (Nat.not_lt.mpr shallow)] at sound
      · exact absurd sound not_sound_refused
      · simp
termination_by limit - depth

end Definition

/-- Where no definition has a fault, the includes among them are those among their bodies. -/
theorem Scope.includes_eq {scope : Scope} {limit : Nat} {path : String → String}
    {bodies : String → Value → Prop}
    (declared : ∀ name definition, scope.declared.find? name = some definition ↔
      ∃ body, bodies name body ∧ Definition.read limit (path name) 0 body = definition)
    (sound : ∀ name definition, scope.declared.find? name = some definition → definition.Sound) :
    scope.Includes = Source.Includes bodies := by
  funext outer inner
  rw [Scope.Includes, Source.Includes, eq_iff_iff]
  constructor
  · rintro ⟨definition, found, includes⟩
    obtain ⟨body, isBody, rfl⟩ := (declared outer definition).mp found
    exact ⟨body, isBody, (Definition.includes_iff_mentions (sound outer _ found)).mp includes⟩
  · rintro ⟨body, isBody, mentions⟩
    have found := (declared outer _).mpr ⟨body, isBody, rfl⟩
    exact ⟨_, found, (Definition.includes_iff_mentions (sound outer _ found)).mpr mentions⟩

end DocShape
