import DocShape.Proofs.Grammar.Bounds
import DocShape.Proofs.Grammar.Rephrased
import Mathlib.Logic.Equiv.Basic

namespace DocShape

/-! Definitions that say the same in other words: with the other spelling of a keyword or of a
type, without a type that goes without saying, with or without a description, or in another
order.

Each edit of one mapping leaves one that states the same; an edit of a definition inside it is
known from the definition.
-/

namespace Source

/-- The names of types, those of one kind of node together. -/
def typeNames : List (List String) :=
  [["map", "mapping"], ["seq", "sequence"], ["str", "string"], ["number", "num"],
    ["int", "integer"], ["float"], ["bool", "boolean"], ["any"]]

/-- The keywords that have another spelling. -/
def synonyms : List (String × String) := [("mapping", "map"), ("sequence", "seq")]

/-- The key with its name exchanged for the other one of a pair, if it is one of them. -/
def exchanged (name synonym : String) : Value → Value
  | .string text => .string (Equiv.swap name synonym text)
  | key => key

/-- The entries ask for what a type names without naming it. -/
inductive Implies (entries : Entries) : String → Prop where
  | map (present : ¬ entries.Lacks ["mapping", "map"]) : Implies entries "map"
  | seq (present : ¬ entries.Lacks ["sequence", "seq"]) : Implies entries "seq"
  | str (absent : entries.Lacks ["include", "mapping", "map", "sequence", "seq"]) :
      Implies entries "str"

/-- One edit of the words of a definition, or of one that stands somewhere inside it. -/
inductive Respelled : Value → Value → Prop where
  | synonym {entries : Entries} {name synonym : String} (pair : (name, synonym) ∈ synonyms) :
      Respelled (.map entries)
        (.map (entries.map fun entry => (exchanged name synonym entry.1, entry.2)))
  | renamed {front rest : Entries} {names : List String} {name other : String}
      (isGroup : names ∈ typeNames) (member : name ∈ names) (also : other ∈ names) :
      Respelled (.map (front ++ (.string "type", .string name) :: rest))
        (.map (front ++ (.string "type", .string other) :: rest))
  | untyped {front rest : Entries} {name : String} (once : (front ++ rest).get? "type" = none)
      (implied : Implies (front ++ rest) name) :
      Respelled (.map (front ++ (.string "type", .string name) :: rest)) (.map (front ++ rest))
  | described {front rest : Entries} {text : String} (once : (front ++ rest).get? "desc" = none) :
      Respelled (.map (front ++ rest)) (.map (front ++ (.string "desc", .string text) :: rest))
  | reordered {entries others : Entries} (distinct : entries.Distinct)
      (order : entries.Perm others) : Respelled (.map entries) (.map others)
  | bounds {front rest bounds others : Entries} (order : bounds.Perm others) :
      Respelled (.map (front ++ (.string "range", .map bounds) :: rest))
        (.map (front ++ (.string "range", .map others) :: rest))
  | field {front rest before after : Entries} {keyword : String} {key child other : Value}
      (spelled : keyword ∈ ["mapping", "map"]) (below : Respelled child other) :
      Respelled
        (.map (front ++ (.string keyword, .map (before ++ (key, child) :: after)) :: rest))
        (.map (front ++ (.string keyword, .map (before ++ (key, other) :: after)) :: rest))
  | variant {front rest : Entries} {before after : List Value} {keyword : String}
      {child other : Value} (spelled : keyword ∈ ["sequence", "seq"])
      (below : Respelled child other) :
      Respelled (.map (front ++ (.string keyword, .seq (before ++ child :: after)) :: rest))
        (.map (front ++ (.string keyword, .seq (before ++ other :: after)) :: rest))

/-- What can stand instead of a value under its key. -/
inductive Counterpart : Value → Value → Value → Prop where
  | same (key stored : Value) : Counterpart key stored stored
  | type {names : List String} {name other : String} (isGroup : names ∈ typeNames)
      (member : name ∈ names) (also : other ∈ names) :
      Counterpart (.string "type") (.string name) (.string other)
  | range {bounds others : Entries} (order : bounds.Perm others) :
      Counterpart (.string "range") (.map bounds) (.map others)
  | nested {keyword : String} {stored other : Value}
      (spelled : keyword ∈ ["mapping", "map", "sequence", "seq"]) (nested : Nested stored other) :
      Counterpart (.string keyword) stored other

end Source

namespace Entries

variable {entries others front rest : Entries} {name key : String} {stored : Value}

theorem get?_append : (front ++ rest).get? name = (front.get? name).or (rest.get? name) := by
  rw [get?, List.find?_append, Option.map_or]
  rfl

theorem get?_insert_of_ne (different : key ≠ name) :
    (front ++ (.string key, stored) :: rest).get? name = (front ++ rest).get? name := by
  have skipped : get? ((.string key, stored) :: rest) name = rest.get? name := by
    simp [get?, Value.isPlain, different]
  rw [get?_append, get?_append, skipped]

theorem get?_insert_self (once : (front ++ rest).get? key = none) :
    (front ++ (.string key, stored) :: rest).get? key = some stored := by
  rw [get?_append, Option.or_eq_none_iff] at once
  rw [get?_append, once.1]
  simp [get?, Value.isPlain]

theorem forall_mem_insert_iff (holds : Value → Prop) (ofKey : holds (.string key)) :
    (∀ entry ∈ front ++ (.string key, stored) :: rest, holds entry.1) ↔
      ∀ entry ∈ front ++ rest, holds entry.1 := by
  simp only [List.forall_mem_append, List.forall_mem_cons, ofKey, true_and]

theorem get?_eq_some_iff_mem (distinct : entries.Distinct) :
    entries.get? name = some stored ↔ (.string name, stored) ∈ entries := by
  constructor
  · intro found
    obtain ⟨_, member, rfl⟩ := (get?_eq_some_iff.mp found).mem
    exact member
  · intro member
    obtain ⟨before, after, rfl⟩ := List.append_of_mem member
    refine get?_eq_some_iff.mpr ⟨before, _, after, rfl, rfl, fun earlier inFront named => ?_⟩
    have apart := (List.pairwise_append.mp distinct).2.2 earlier inFront _ List.mem_cons_self
    rw [named] at apart
    simp [Value.same] at apart

theorem get?_perm (distinct : entries.Distinct) (order : entries.Perm others) (name : String) :
    entries.get? name = others.get? name := by
  cases again : others.get? name with
  | none =>
      rw [get?_eq_none_iff] at again ⊢
      exact fun entry member => again entry (order.mem_iff.mp member)
  | some stored =>
      obtain ⟨_, member, rfl⟩ := (get?_eq_some_iff.mp again).mem
      exact (get?_eq_some_iff_mem distinct).mpr (order.mem_iff.mpr member)

end Entries

namespace Source

variable {entries others : Entries} {name synonym : String}

theorem isPlain_exchanged {text : String} {key : Value} :
    (exchanged name synonym key).isPlain text = key.isPlain (Equiv.swap name synonym text) := by
  cases key with
  | string other =>
      rw [exchanged, Value.isPlain, Value.isPlain, Bool.eq_iff_iff, beq_iff_eq, beq_iff_eq]
      exact Equiv.swap_apply_eq_iff
  | _ => rfl

theorem get?_exchanged {text : String} :
    Entries.get? (entries.map fun entry => (exchanged name synonym entry.1, entry.2)) text =
      entries.get? (Equiv.swap name synonym text) := by
  rw [Entries.get?, List.find?_map, Option.map_map, Entries.get?]
  simp only [Function.comp_def, isPlain_exchanged]

end Source

namespace Heading

open Source (Counterpart Implies exchanged synonyms)

variable {entries others front rest : Entries} {name : String}

/-- Mappings that hold the same under all keywords but two state the same if these two make no
difference. -/
theorem rephrased_of_get?
    (same : ∀ name, name ∉ ["type", "desc"] → entries.get? name = others.get? name)
    (keyed : Keyed entries ↔ Keyed others)
    (alone : entries.get? "include" ≠ none → (IncludeOnly entries ↔ IncludeOnly others))
    (asks : ∀ fields sequence, entries.Spelled "mapping" "map" fields →
      entries.Spelled "sequence" "seq" sequence → fields = none ∨ sequence = none →
        Asked.of? (entries.get? "type") fields.isSome sequence.isSome =
          Asked.of? (others.get? "type") fields.isSome sequence.isSome) :
    Rephrased entries others := by
  have nested (name : String) (counts : name ∉ ["type", "desc"]) :
      Option.Rel Nested (entries.get? name) (others.get? name) :=
    same name counts ▸ rel_same .same _
  have range : Option.Rel SameRange (entries.get? "range") (others.get? "range") :=
    same "range" (by decide) ▸ rel_same (fun _ _ _ => Iff.rfl) _
  refine ⟨keyed, same "include" (by decide), alone,
    .inl ⟨nested "mapping" (by decide), nested "map" (by decide)⟩,
    .inl ⟨nested "sequence" (by decide), nested "seq" (by decide)⟩, asks, ?_, range⟩
  intro name isLeaf
  have foreign : ∀ name ∈ ["required", "allowempty", "matching", "enum", "pattern"],
      name ∉ ["type", "desc"] := by
    decide
  exact same name (foreign name isLeaf)

theorem rephrased_of_perm (distinct : entries.Distinct) (order : entries.Perm others) :
    Rephrased entries others := by
  have same := Entries.get?_perm distinct order
  refine rephrased_of_get? (fun name _ => same name) ?_ ?_ ?_
  · rw [keyed_iff, keyed_iff, same]
    exact and_congr_left' (forall_congr' fun entry => imp_congr_left order.mem_iff)
  · intro _
    exact forall_congr' fun entry => imp_congr_left order.mem_iff
  · intro fields sequence _ _ _
    rw [same]

theorem rephrased_described {text : String} (once : (front ++ rest).get? "desc" = none) :
    Rephrased (front ++ rest) (front ++ (.string "desc", .string text) :: rest) := by
  have same (name : String) (counts : name ≠ "desc") : (front ++ rest).get? name =
      Entries.get? (front ++ (.string "desc", .string text) :: rest) name :=
    (Entries.get?_insert_of_ne counts.symm).symm
  refine rephrased_of_get? (fun name counts => same name (by simp_all)) ?_ ?_ ?_
  · have known : isKnown (.string "desc") = true := rfl
    rw [keyed_iff, keyed_iff, Entries.forall_mem_insert_iff (isKnown · = true) known,
      Entries.get?_insert_self once, once]
    simp [Value.text?, Value.content]
  · intro _
    refine (Entries.forall_mem_insert_iff
      (fun key => ∀ name, key.text? = some name → name ∈ includeKeywords) ?_).symm
    intro name text
    cases text
    decide
  · intro fields sequence _ _ _
    rw [same "type" (by decide)]

theorem rephrased_untyped (once : (front ++ rest).get? "type" = none)
    (implied : Implies (front ++ rest) name) :
    Rephrased (front ++ (.string "type", .string name) :: rest) (front ++ rest) := by
  have same (keyword : String) (counts : keyword ≠ "type") :
      Entries.get? (front ++ (.string "type", .string name) :: rest) keyword =
        (front ++ rest).get? keyword :=
    Entries.get?_insert_of_ne counts.symm
  have typed : Entries.get? (front ++ (.string "type", .string name) :: rest) "type" =
      some (.string name) :=
    Entries.get?_insert_self once
  refine rephrased_of_get? (fun keyword counts => same keyword (by simp_all)) ?_ ?_ ?_
  · have known : isKnown (.string "type") = true := rfl
    rw [keyed_iff, keyed_iff, Entries.forall_mem_insert_iff (isKnown · = true) known,
      same "desc" (by decide)]
  · intro included
    rw [same "include" (by decide)] at included
    have notAlone : ¬ IncludeOnly (front ++ (.string "type", .string name) :: rest) := by
      intro alone
      have untyped := alone.lacks (by decide) "type" (List.mem_singleton_self _)
      rw [typed] at untyped
      cases untyped
    cases implied with
    | map present => exact iff_of_false notAlone fun alone => present (alone.lacks (by decide))
    | seq present => exact iff_of_false notAlone fun alone => present (alone.lacks (by decide))
    | str absent => exact absurd (absent "include" (by simp)) included
  · intro fields sequence ofFields ofSequence single
    have lacks {names : List String} (counts : ∀ keyword ∈ names, keyword ≠ "type") :
        Entries.Lacks (front ++ (.string "type", .string name) :: rest) names ↔
          (front ++ rest).Lacks names :=
      forall₂_congr fun keyword member => by rw [same keyword (counts keyword member)]
    rw [typed, once]
    cases implied with
    | map present =>
        cases fields with
        | none => exact absurd ((lacks (by decide)).mp (Entries.spelled_none_iff.mp ofFields)) present
        | some found => rfl
    | seq present =>
        cases sequence with
        | none =>
            exact absurd ((lacks (by decide)).mp (Entries.spelled_none_iff.mp ofSequence)) present
        | some found =>
            obtain rfl := single.resolve_right (Option.some_ne_none found)
            rfl
    | str absent =>
        have noFields : (front ++ rest).Lacks ["mapping", "map"] := by simp_all
        have noSequence : (front ++ rest).Lacks ["sequence", "seq"] := by simp_all
        cases fields with
        | some found => exact absurd ((lacks (by decide)).mpr noFields) ofFields.not_lacks
        | none =>
            cases sequence with
            | some found => exact absurd ((lacks (by decide)).mpr noSequence) ofSequence.not_lacks
            | none => rfl

/-- A pair of keywords that a property does not tell apart can be exchanged under it. -/
theorem swap_iff {holds : String → Prop} {synonym : String} (same : holds name ↔ holds synonym)
    (text : String) : holds (Equiv.swap name synonym text) ↔ holds text := by
  rw [Equiv.swap_apply_def]
  split
  · rename_i isName
    rw [isName, same]
  · split
    · rename_i isSynonym
      rw [isSynonym, same]
    · rfl

theorem isKnown_exchanged {synonym : String} (pair : (name, synonym) ∈ synonyms) {key : Value} :
    isKnown (exchanged name synonym key) = true ↔ isKnown key = true := by
  have known : ∀ pair ∈ synonyms,
      isKnown (.string pair.1) = true ↔ isKnown (.string pair.2) = true := by
    decide
  cases key with
  | string text =>
      exact @swap_iff name (fun text => isKnown (.string text) = true) synonym (known _ pair) text
  | _ => rfl

theorem includeOnly_exchanged {synonym : String} (pair : (name, synonym) ∈ synonyms) :
    IncludeOnly (entries.map fun entry => (exchanged name synonym entry.1, entry.2)) ↔
      IncludeOnly entries := by
  have foreign : ∀ pair ∈ synonyms, pair.1 ∈ includeKeywords ↔ pair.2 ∈ includeKeywords := by
    decide
  unfold IncludeOnly
  rw [List.forall_mem_map]
  refine forall₂_congr fun entry _ => ?_
  obtain ⟨key, stored⟩ := entry
  cases key with
  | string text =>
      have text?_string (text : String) : Value.text? (.string text) = some text := rfl
      simp only [exchanged, text?_string, Option.some.injEq, forall_eq']
      exact swap_iff (foreign _ pair) text
  | _ => rfl

theorem alikeUnder_exchanged {first second synonym : String}
    (container : (first, second) ∈ synonyms) (pair : (name, synonym) ∈ synonyms) :
    AlikeUnder first second entries
      (entries.map fun entry => (exchanged name synonym entry.1, entry.2)) := by
  have apart : ∀ container ∈ synonyms, ∀ pair ∈ synonyms, container ≠ pair →
      (container.1 ≠ pair.1 ∧ container.1 ≠ pair.2) ∧
        container.2 ≠ pair.1 ∧ container.2 ≠ pair.2 := by
    decide
  have nested (found : Option Value) : Option.Rel Nested found found := rel_same .same found
  unfold AlikeUnder
  simp only [Source.get?_exchanged]
  by_cases same : (first, second) = (name, synonym)
  · cases same
    rw [Equiv.swap_apply_left, Equiv.swap_apply_right]
    exact .inr ⟨nested _, nested _⟩
  · obtain ⟨⟨ofFirst, alsoFirst⟩, ofSecond, alsoSecond⟩ := apart _ container _ pair same
    rw [Equiv.swap_apply_of_ne_of_ne ofFirst alsoFirst,
      Equiv.swap_apply_of_ne_of_ne ofSecond alsoSecond]
    exact .inl ⟨nested _, nested _⟩

theorem rephrased_exchanged {synonym : String} (pair : (name, synonym) ∈ synonyms) :
    Rephrased entries (entries.map fun entry => (exchanged name synonym entry.1, entry.2)) := by
  have apart : ∀ pair ∈ synonyms, ∀ keyword ∈ ["include", "type", "desc", "range", "required",
      "allowempty", "matching", "enum", "pattern"], keyword ≠ pair.1 ∧ keyword ≠ pair.2 := by
    decide
  have same (keyword : String) (member : keyword ∈ ["include", "type", "desc", "range", "required",
      "allowempty", "matching", "enum", "pattern"]) :
      entries.get? keyword =
        Entries.get? (entries.map fun entry => (exchanged name synonym entry.1, entry.2)) keyword := by
    obtain ⟨first, second⟩ := apart _ pair keyword member
    rw [Source.get?_exchanged, Equiv.swap_apply_of_ne_of_ne first second]
  refine ⟨?keyed, same _ (by simp), fun _ => (includeOnly_exchanged pair).symm,
    alikeUnder_exchanged (by decide) pair, alikeUnder_exchanged (by decide) pair, ?asks,
    fun keyword isLeaf => same keyword (by simp_all), ?range⟩
  case keyed =>
    rw [keyed_iff, keyed_iff, ← same "desc" (by simp), List.forall_mem_map]
    simp only [isKnown_exchanged pair]
  case asks =>
    intro fields sequence _ _ _
    rw [same "type" (by simp)]
  case range => exact same "range" (by simp) ▸ rel_same (fun _ _ _ => Iff.rfl) _

section Counterparts

variable (pairs : List.Forall₂
  (fun entry other => entry.1 = other.1 ∧ Counterpart entry.1 entry.2 other.2) entries others)

include pairs

theorem get?_counterparts (name : String) :
    Option.Rel (Counterpart (.string name)) (entries.get? name) (others.get? name) := by
  have paired : Option.Rel (fun found again => ∃ key : Value, key.isPlain name = true ∧
      Counterpart key found again) (entries.get? name) (others.get? name) :=
    Validation.find?_paired pairs
  refine rel_imp (fun found again inPair => ?_) paired
  obtain ⟨key, isPlain, counterpart⟩ := inPair
  rwa [Value.isPlain_iff.mp isPlain] at counterpart

theorem get?_counterparts_eq
    (leaf : name ∉ ["type", "range", "mapping", "map", "sequence", "seq"]) :
    entries.get? name = others.get? name := by
  have related := get?_counterparts pairs name
  generalize entries.get? name = found at related ⊢
  generalize others.get? name = again at related ⊢
  cases related with
  | none => rfl
  | some counterpart =>
      cases counterpart with
      | same => rfl
      | nested spelled => simp_all
      | _ => simp at leaf

theorem get?_counterparts_nested (container : name ∉ ["type", "range"]) :
    Option.Rel Nested (entries.get? name) (others.get? name) := by
  refine rel_imp (fun found again counterpart => ?_) (get?_counterparts pairs name)
  cases counterpart with
  | same => exact .same _
  | nested _ nested => exact nested
  | _ => simp at container

theorem rephrased_of_counterparts : Rephrased entries others := by
  have keys : entries.map Prod.fst = others.map Prod.fst := by
    rw [← List.forall₂_eq_eq_eq, List.forall₂_map_left_iff, List.forall₂_map_right_iff]
    exact pairs.imp fun _ _ paired => paired.1
  have onKeys (holds : Value → Prop) :
      (∀ entry ∈ entries, holds entry.1) ↔ ∀ entry ∈ others, holds entry.1 := by
    rw [← List.forall_mem_map (f := Prod.fst), keys, List.forall_mem_map]
  have described : entries.get? "desc" = others.get? "desc" :=
    get?_counterparts_eq pairs (by decide)
  refine ⟨?keyed, get?_counterparts_eq pairs (by decide),
    fun _ => onKeys fun key => ∀ name, key.text? = some name → name ∈ includeKeywords,
    .inl ⟨get?_counterparts_nested pairs (by decide), get?_counterparts_nested pairs (by decide)⟩,
    .inl ⟨get?_counterparts_nested pairs (by decide), get?_counterparts_nested pairs (by decide)⟩,
    ?asks, ?leaf, ?range⟩
  case keyed =>
    rw [keyed_iff, keyed_iff, onKeys (isKnown · = true), described]
  case asks =>
    intro fields sequence _ _ _
    have aliases : ∀ names ∈ Source.typeNames, ∀ name ∈ names, ∀ other ∈ names,
        Asked.ofName? name = Asked.ofName? other := by
      decide
    have related := get?_counterparts pairs "type"
    generalize isType : Value.string "type" = key at related
    generalize entries.get? "type" = found at related ⊢
    generalize others.get? "type" = again at related ⊢
    cases related with
    | none => rfl
    | some counterpart =>
        cases counterpart with
        | same => rfl
        | type isGroup member also => exact aliases _ isGroup _ member _ also
        | range => simp at isType
        | nested spelled =>
            cases isType
            simp at spelled
  case leaf =>
    have plain : ∀ name ∈ ["required", "allowempty", "matching", "enum", "pattern"],
        name ∉ ["type", "range", "mapping", "map", "sequence", "seq"] := by
      decide
    exact fun name isLeaf => get?_counterparts_eq pairs (plain name isLeaf)
  case range =>
    refine rel_imp (fun found again counterpart path range => ?_) (get?_counterparts pairs "range")
    generalize isRange : Value.string "range" = key at counterpart
    cases counterpart with
    | same => exact Iff.rfl
    | type => simp at isRange
    | range order => exact ⟨rangeOf_of_perm order, rangeOf_of_perm order.symm⟩
    | nested spelled =>
        cases isRange
        simp at spelled

end Counterparts

end Heading

namespace Source

variable {value other : Value}

theorem readAlike_of_respelled (respelled : Respelled value other) : value.ReadAlike other := by
  have replaced {front rest : Entries} {key stored again : Value}
      (counterpart : Counterpart key stored again) :
      (Value.map (front ++ (key, stored) :: rest)).ReadAlike
        (.map (front ++ (key, again) :: rest)) := by
    have pairs : List.Forall₂
        (fun entry other => entry.1 = other.1 ∧ Counterpart entry.1 entry.2 other.2)
        (front ++ (key, stored) :: rest) (front ++ (key, again) :: rest) :=
      forall₂_replaced (fun entry => ⟨rfl, .same entry.1 entry.2⟩) ⟨rfl, counterpart⟩
    exact (Heading.rephrased_of_counterparts pairs).readAlike
  induction respelled with
  | synonym pair => exact (Heading.rephrased_exchanged pair).readAlike
  | renamed isGroup member also => exact replaced (.type isGroup member also)
  | untyped once implied => exact (Heading.rephrased_untyped once implied).readAlike
  | described once => exact (Heading.rephrased_described once).readAlike
  | reordered distinct order => exact (Heading.rephrased_of_perm distinct order).readAlike
  | bounds order => exact replaced (.range order)
  | field spelled _ ofBelow =>
      have container := List.mem_append_left ["sequence", "seq"] spelled
      exact replaced (.nested container (.fields (forall₂_replaced
        (fun field => ⟨rfl, .refl field.2⟩) ⟨rfl, ofBelow⟩)))
  | variant spelled _ ofBelow =>
      have container := List.mem_append_right ["mapping", "map"] spelled
      exact replaced (.nested container (.variants (forall₂_replaced .refl ofBelow)))

/-- Any number of edits, made or undone, leave a definition that is read alike. -/
theorem readAlike_of_edits (edits : Relation.EqvGen Respelled value other) :
    value.ReadAlike other := by
  induction edits with
  | rel _ _ respelled => exact readAlike_of_respelled respelled
  | refl value => exact .refl value
  | symm _ _ _ alike => exact alike.symm
  | trans _ _ _ _ _ first second => exact first.trans second

end Source
end DocShape
