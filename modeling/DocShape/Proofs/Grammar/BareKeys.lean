import DocShape.Proofs.Linking.Mentions

namespace DocShape

/-! Definitions with the tags taken off their keys.

Some checks see a key through its tags, and keywords are looked up without looking through
them.  Where every keyword is written without a tag the two agree, so that tags on other keys
make no difference.
-/

namespace Source

def bareKeys (entries : Entries) : Entries := entries.map fun entry => (entry.1.content, entry.2)

mutual

/-- A definition without tags on its keys, on the names of its fields and on the keys of its
range, and so for the definitions inside it. -/
def bareDefinition : Value → Value
  | .map entries => .map (bareEntries entries)
  | other => other

def bareEntries : Entries → Entries
  | [] => []
  | (key, stored) :: rest =>
      (key.content, bareUnder (Heading.keywordOf key) stored) :: bareEntries rest

/-- What stands under a keyword, with bare keys. -/
def bareUnder (keyword : String) : Value → Value
  | .map fields =>
      if keyword ∈ ["mapping", "map"] then .map (bareFields fields)
      else if keyword = "range" then .map (bareKeys fields)
      else .map fields
  | .seq variants =>
      if keyword ∈ ["sequence", "seq"] then .seq (bareVariants variants) else .seq variants
  | other => other

def bareFields : Entries → Entries
  | [] => []
  | (name, child) :: rest => (name.content, bareDefinition child) :: bareFields rest

def bareVariants : List Value → List Value
  | [] => []
  | variant :: rest => bareDefinition variant :: bareVariants rest

end

def bareEntry (entry : Value × Value) : Value × Value :=
  (entry.1.content, bareUnder (Heading.keywordOf entry.1) entry.2)

theorem bareEntries_eq_map (entries : Entries) : bareEntries entries = entries.map bareEntry := by
  induction entries with
  | nil => rfl
  | cons entry rest inRest => simp only [bareEntries, List.map_cons, inRest, bareEntry]

theorem bareFields_eq_map (fields : Entries) :
    bareFields fields = fields.map fun field => (field.1.content, bareDefinition field.2) := by
  induction fields with
  | nil => rfl
  | cons field rest inRest => simp only [bareFields, List.map_cons, inRest]

theorem bareVariants_eq_map (variants : List Value) :
    bareVariants variants = variants.map bareDefinition := by
  induction variants with
  | nil => rfl
  | cons variant rest inRest => simp only [bareVariants, List.map_cons, inRest]

/-- Only what stands under these keywords has keys that are looked at. -/
theorem bareUnder_of_notMem {keyword : String} {stored : Value}
    (leaf : keyword ∉ ["mapping", "map", "sequence", "seq", "range"]) :
    bareUnder keyword stored = stored := by
  simp only [List.mem_cons, List.not_mem_nil, or_false, not_or] at leaf
  cases stored <;> simp [bareUnder, leaf]

theorem bareUnder_map (keyword : String) (fields : Entries) :
    ∃ others, bareUnder keyword (.map fields) = .map others := by
  rw [bareUnder]
  split
  · exact ⟨_, rfl⟩
  · split
    · exact ⟨_, rfl⟩
    · exact ⟨_, rfl⟩

theorem bareUnder_seq (keyword : String) (variants : List Value) :
    ∃ others, bareUnder keyword (.seq variants) = .seq others ∧
      others.length = variants.length := by
  rw [bareUnder]
  split
  · exact ⟨_, rfl, by rw [bareVariants_eq_map, List.length_map]⟩
  · exact ⟨_, rfl, rfl⟩

end Source

namespace Value

variable {key : Value}

theorem text?_content : key.content.text? = key.text? := by
  rw [text?, content_content, text?]

end Value

namespace Heading

variable {key : Value}

theorem keywordOf_content : keywordOf key.content = keywordOf key := by
  rw [keywordOf, Value.text?_content, keywordOf]

theorem isKnown_content : isKnown key.content = isKnown key := by
  rw [isKnown, keywordOf_content, isKnown]

end Heading

namespace Entries

open Source (bareEntries bareUnder)

variable {entries : Entries} {name : String}

/-- Every keyword is written without a tag. -/
def Explicit (entries : Entries) : Prop :=
  ∀ entry ∈ entries, Heading.isKnown entry.1 = true → ∃ name, entry.1 = .string name

theorem Explicit.isPlain_content (explicit : entries.Explicit) {entry : Value × Value}
    (member : entry ∈ entries) (known : Heading.isKnown (.string name) = true) :
    entry.1.content.isPlain name = entry.1.isPlain name := by
  rw [Bool.eq_iff_iff, Value.isPlain_iff, Value.isPlain_iff]
  constructor
  · intro spelled
    rw [← spelled, Heading.isKnown_content] at known
    obtain ⟨other, plain⟩ := explicit entry member known
    rw [← spelled, plain, Value.content_string]
  · intro plain
    rw [plain, Value.content_string]

theorem get?_bareEntries (explicit : entries.Explicit)
    (known : Heading.isKnown (.string name) = true) :
    (bareEntries entries).get? name = (entries.get? name).map (bareUnder name) := by
  induction entries with
  | nil => rfl
  | cons entry rest inRest =>
      obtain ⟨first, others⟩ := List.forall_mem_cons.mp explicit
      obtain ⟨key, stored⟩ := entry
      have same := explicit.isPlain_content List.mem_cons_self known
      have later := inRest others
      simp only [get?] at later
      simp only [get?, bareEntries, List.find?_cons, same]
      cases here : key.isPlain name with
      | true =>
          rw [Value.isPlain_iff] at here
          subst here
          rfl
      | false => exact later

/-- A keyword whose value has no keys of its own keeps its value. -/
theorem get?_bareEntries_same (explicit : entries.Explicit)
    (known : Heading.isKnown (.string name) = true)
    (leaf : name ∉ ["mapping", "map", "sequence", "seq", "range"]) :
    (bareEntries entries).get? name = entries.get? name := by
  rw [get?_bareEntries explicit known]
  cases entries.get? name with
  | none => rfl
  | some stored => rw [Option.map_some, Source.bareUnder_of_notMem leaf]

theorem has_bareEntries (explicit : entries.Explicit)
    (known : Heading.isKnown (.string name) = true) :
    (bareEntries entries).has name = entries.has name := by
  rw [has_eq_isSome_get?, has_eq_isSome_get?, get?_bareEntries explicit known, Option.isSome_map]

end Entries

namespace Heading

open Source (bareEntries bareUnder)

variable {path : String} {entries : Entries}

theorem checkKeywords_bareEntries (explicit : entries.Explicit) :
    checkKeywords path (bareEntries entries) = checkKeywords path entries := by
  have unknown : (bareEntries entries).find? (fun entry => !isKnown entry.1) =
      (entries.find? fun entry => !isKnown entry.1).map Source.bareEntry := by
    rw [Source.bareEntries_eq_map, List.find?_map]
    congr 2
    funext entry
    simp only [Function.comp, Source.bareEntry, isKnown_content]
  unfold checkKeywords
  rw [unknown, Entries.get?_bareEntries_same explicit (by decide) (by decide)]
  cases entries.find? fun entry => !isKnown entry.1 with
  | none => rfl
  | some entry =>
      simp only [Option.map_some, Source.bareEntry, Value.keyText_content]

theorem ofInclude_bareEntries {target : Value} :
    ofInclude path (bareEntries entries) target = ofInclude path entries target := by
  have texts : (bareEntries entries).filterMap (fun entry => entry.1.text?) =
      entries.filterMap fun entry => entry.1.text? := by
    rw [Source.bareEntries_eq_map, List.filterMap_map]
    congr 1
    funext entry
    exact Value.text?_content
  unfold ofInclude
  rw [texts]

theorem flag_bareEntries {name : String} (explicit : entries.Explicit)
    (known : isKnown (.string name) = true)
    (leaf : name ∉ ["mapping", "map", "sequence", "seq", "range"]) :
    flag path name (bareEntries entries) = flag path name entries := by
  unfold flag
  rw [Entries.get?_bareEntries_same explicit known leaf]

theorem reject_bareEntries {node : String} {names : List String} (explicit : entries.Explicit)
    (known : ∀ name ∈ names, isKnown (.string name) = true) :
    reject path node names (bareEntries entries) = reject path node names entries := by
  have present : names.find? (bareEntries entries).has = names.find? entries.has := by
    induction names with
    | nil => rfl
    | cons name rest inRest =>
        obtain ⟨first, others⟩ := List.forall_mem_cons.mp known
        rw [List.find?_cons, List.find?_cons, inRest others, Entries.has_bareEntries explicit first]
  unfold reject
  rw [present]

/-- What was found under a keyword, with bare keys. -/
def bareFound (found : String × Value) : String × Value := (found.1, bareUnder found.1 found.2)

theorem either_bareEntries {name synonym : String} (explicit : entries.Explicit)
    (known : isKnown (.string name) = true) (knownSynonym : isKnown (.string synonym) = true) :
    either path name synonym (bareEntries entries) =
      (either path name synonym entries).map (Option.map bareFound) := by
  unfold either
  rw [Entries.get?_bareEntries explicit known, Entries.get?_bareEntries explicit knownSynonym]
  cases entries.get? name <;> cases entries.get? synonym <;> rfl

theorem fieldsUnder_bareFound {fields : Option (String × Value)} :
    fieldsUnder path (fields.map bareFound) = fieldsUnder path fields := by
  cases fields with
  | none => rfl
  | some found =>
      obtain ⟨keyword, stored⟩ := found
      cases stored with
      | map table =>
          obtain ⟨others, same⟩ := Source.bareUnder_map keyword table
          simp only [Option.map_some, bareFound, same, fieldsUnder]
      | seq variants =>
          obtain ⟨others, same, _⟩ := Source.bareUnder_seq keyword variants
          simp only [Option.map_some, bareFound, same, fieldsUnder]
      | _ => simp only [Option.map_some, bareFound, bareUnder, fieldsUnder]

theorem elementsUnder_bareFound {sequence : Option (String × Value)} :
    elementsUnder path (sequence.map bareFound) = elementsUnder path sequence := by
  cases sequence with
  | none => rfl
  | some found =>
      obtain ⟨keyword, stored⟩ := found
      cases stored with
      | map table =>
          obtain ⟨others, same⟩ := Source.bareUnder_map keyword table
          simp only [Option.map_some, bareFound, same, elementsUnder]
      | seq variants =>
          obtain ⟨others, same, length⟩ := Source.bareUnder_seq keyword variants
          simp only [Option.map_some, bareFound, same]
          cases variants <;> cases others <;> first | rfl | cases length
      | _ => simp only [Option.map_some, bareFound, bareUnder, elementsUnder]

theorem matchingUnder_bareEntries (explicit : entries.Explicit) :
    matchingUnder path (bareEntries entries) = matchingUnder path entries := by
  unfold matchingUnder
  rw [Entries.get?_bareEntries_same explicit (by decide) (by decide)]

theorem ofMap_bareEntries (explicit : entries.Explicit)
    {fields sequence : Option (String × Value)} :
    ofMap path (bareEntries entries) (fields.map bareFound) (sequence.map bareFound) =
      ofMap path entries fields sequence := by
  unfold ofMap
  rw [Option.isSome_map, reject_bareEntries explicit (by decide),
    flag_bareEntries explicit (by decide) (by decide), fieldsUnder_bareFound]

theorem ofSeq_bareEntries (explicit : entries.Explicit)
    {fields sequence : Option (String × Value)} :
    ofSeq path (bareEntries entries) (fields.map bareFound) (sequence.map bareFound) =
      ofSeq path entries fields sequence := by
  unfold ofSeq
  rw [Option.isSome_map, reject_bareEntries explicit (by decide), elementsUnder_bareFound,
    matchingUnder_bareEntries explicit]

/-- The bounds of a range are known through the tags of their keys. -/
theorem rangeOf_bareUnder {bounds : Value} :
    rangeOf path (bareUnder "range" bounds) = rangeOf path bounds := by
  cases bounds with
  | map entries =>
      have bare : bareUnder "range" (.map entries) = .map (Source.bareKeys entries) := by
        rw [bareUnder, if_neg (by decide), if_pos rfl]
      have each (found : Option Bound × Option Bound) (entry : Value × Value) :
          addBound path found (entry.1.content, entry.2) = addBound path found entry := by
        simp only [addBound, keywordOf_content]
      rw [bare, rangeOf, rangeOf, Source.bareKeys, List.foldlM_map]
      simp only [each]
  | seq items => rw [bareUnder, if_neg (by decide)]
  | _ => rw [bareUnder] <;> simp

theorem ofScalar_bareEntries (explicit : entries.Explicit) {kind : Kind} {hasChildren : Bool} :
    ofScalar path (bareEntries entries) kind hasChildren =
      ofScalar path entries kind hasChildren := by
  have range : rangeUnder path kind (bareEntries entries) = rangeUnder path kind entries := by
    unfold rangeUnder
    rw [Entries.get?_bareEntries explicit (by decide)]
    cases entries.get? "range" with
    | none => rfl
    | some bounds => simp only [Option.map_some, rangeOf_bareUnder]
  have allowed : allowedUnder path kind (bareEntries entries) = allowedUnder path kind entries := by
    unfold allowedUnder
    rw [Entries.get?_bareEntries_same explicit (by decide) (by decide)]
  have pattern : patternUnder path kind (bareEntries entries) = patternUnder path kind entries := by
    unfold patternUnder
    rw [Entries.get?_bareEntries_same explicit (by decide) (by decide)]
  unfold ofScalar
  rw [reject_bareEntries explicit (by decide),
    flag_bareEntries explicit (by decide) (by decide), range, allowed, pattern]

/-- Without tags on its keys a definition is read as before. -/
theorem read_bareEntries (explicit : entries.Explicit) :
    read path (bareEntries entries) = read path entries := by
  have target : (bareEntries entries).get? "include" = entries.get? "include" :=
    Entries.get?_bareEntries_same explicit (by decide) (by decide)
  have type : (bareEntries entries).get? "type" = entries.get? "type" :=
    Entries.get?_bareEntries_same explicit (by decide) (by decide)
  unfold read
  rw [checkKeywords_bareEntries explicit, target, type,
    either_bareEntries explicit (by decide) (by decide),
    either_bareEntries explicit (by decide) (by decide)]
  cases entries.get? "include" with
  | some written => simp only [ofInclude_bareEntries]
  | none =>
      cases either path "mapping" "map" entries with
      | error error => rfl
      | ok fields =>
          cases either path "sequence" "seq" entries with
          | error error => rfl
          | ok sequence =>
              simp only [Except.map, Except.bind, bind, ofMap_bareEntries explicit,
                ofSeq_bareEntries explicit, ofScalar_bareEntries explicit, Option.isSome_map]

theorem keyword_of_read_map {keyword : String} {allowEmpty : Bool}
    (found : read path entries = .ok (.map keyword allowEmpty)) :
    keyword ∈ ["mapping", "map"] := by
  cases readFrom found with
  | map _ _ ofFields under =>
      rcases fieldsUnder_eq_ok_iff.mp under with ⟨_, rfl⟩ | ⟨table, rfl⟩
      · exact List.mem_cons_self
      · exact (keyword_of_either ofFields).1

theorem keyword_of_read_seq {keyword : String} {matching : Matching}
    (found : read path entries = .ok (.seq keyword matching)) :
    keyword ∈ ["sequence", "seq"] := by
  cases readFrom found with
  | seq _ _ ofSequence => exact (keyword_of_either ofSequence).1

end Heading

namespace Source

variable {entries : Entries} {keyword : String}

theorem inside_of_mem_table (spelled : keyword ∈ ["mapping", "map"]) {field : Value × Value}
    (member : field ∈ entries.table keyword) : Inside entries field.2 := by
  unfold Entries.table at member
  cases stored : entries.get? keyword with
  | none => simp [stored] at member
  | some found =>
      cases found with
      | map fields =>
          rw [stored] at member
          exact .field spelled stored member
      | _ => simp [stored] at member

theorem inside_of_mem_items (spelled : keyword ∈ ["sequence", "seq"]) {variant : Value}
    (member : variant ∈ entries.items keyword) : Inside entries variant := by
  unfold Entries.items at member
  cases stored : entries.get? keyword with
  | none => simp [stored] at member
  | some found =>
      cases found with
      | seq variants =>
          rw [stored] at member
          exact .variant spelled stored member
      | _ => simp [stored] at member

theorem table_bareEntries (explicit : entries.Explicit) (spelled : keyword ∈ ["mapping", "map"]) :
    (bareEntries entries).table keyword = bareFields (entries.table keyword) := by
  have known : Heading.isKnown (.string keyword) = true := by
    rcases List.mem_pair.mp spelled with rfl | rfl <;> decide
  unfold Entries.table
  rw [Entries.get?_bareEntries explicit known]
  cases entries.get? keyword with
  | none => rfl
  | some stored =>
      cases stored with
      | map fields => rw [Option.map_some, bareUnder, if_pos spelled]
      | seq variants =>
          obtain ⟨others, same, _⟩ := bareUnder_seq keyword variants
          rw [Option.map_some, same]
          rfl
      | _ => rfl

theorem items_bareEntries (explicit : entries.Explicit) (spelled : keyword ∈ ["sequence", "seq"]) :
    (bareEntries entries).items keyword = bareVariants (entries.items keyword) := by
  have known : Heading.isKnown (.string keyword) = true := by
    rcases List.mem_pair.mp spelled with rfl | rfl <;> decide
  unfold Entries.items
  rw [Entries.get?_bareEntries explicit known]
  cases entries.get? keyword with
  | none => rfl
  | some stored =>
      cases stored with
      | seq variants => rw [Option.map_some, bareUnder, if_pos spelled]
      | map fields =>
          obtain ⟨others, same⟩ := bareUnder_map keyword fields
          rw [Option.map_some, same]
          rfl
      | _ => rfl

/-- The mapping of a definition that is this one, or stands at some depth in it. -/
inductive Reaches : Value → Entries → Prop where
  | here (entries : Entries) : Reaches (.map entries) entries
  | within {entries found : Entries} {child : Value} (inside : Inside entries child)
      (below : Reaches child found) : Reaches (.map entries) found

/-- Every keyword in the definition, and in those inside it, is written without a tag. -/
def Explicit (definition : Value) : Prop :=
  ∀ entries, Reaches definition entries → entries.Explicit

theorem Explicit.child (explicit : Explicit (.map entries)) {child : Value}
    (inside : Inside entries child) : Explicit child :=
  fun found below => explicit found (.within inside below)

end Source

namespace Definition

open Source (bareDefinition bareEntries)

variable {limit depth : Nat} {path : String}

theorem requiredOf_bareDefinition {child : Value} (explicit : Source.Explicit child) :
    requiredOf path (bareDefinition child) = requiredOf path child := by
  cases child with
  | map entries =>
      exact Heading.flag_bareEntries (explicit entries (.here entries)) (by decide) (by decide)
  | _ => rfl

/-- Without tags on its keys, and on those inside it, a definition is read as before. -/
theorem read_bareDefinition (limit : Nat) (path : String) (depth : Nat) {value : Value}
    (explicit : Source.Explicit value) :
    read limit path depth (bareDefinition value) = read limit path depth value := by
  cases value with
  | map entries =>
      have here := explicit entries (.here entries)
      rw [bareDefinition]
      by_cases deep : limit < depth
      · rw [read, if_pos deep, read, if_pos deep]
      · have shallow := Nat.le_of_not_lt deep
        rw [read_map shallow, read_map shallow, Heading.read_bareEntries here]
        cases found : Heading.read path entries with
        | error error => rfl
        | ok heading =>
            cases heading with
            | map keyword allowEmpty =>
                have spelled := Heading.keyword_of_read_map found
                simp only [ofHeading, Source.table_bareEntries here spelled,
                  Source.bareFields_eq_map, List.map_map]
                congr 1
                refine List.map_congr_left fun field member => ?_
                have childExplicit := explicit.child (Source.inside_of_mem_table spelled member)
                have same (childPath : String) :
                    read limit childPath (depth + 1) (bareDefinition field.2) =
                      read limit childPath (depth + 1) field.2 :=
                  read_bareDefinition limit childPath (depth + 1) childExplicit
                simp only [Function.comp, readField, Value.text?_content,
                  requiredOf_bareDefinition childExplicit, same]
            | seq keyword matching =>
                have spelled := Heading.keyword_of_read_seq found
                simp only [ofHeading, Source.items_bareEntries here spelled,
                  Source.bareVariants_eq_map, List.zipIdx_map, List.map_map]
                congr 1
                refine List.map_congr_left fun indexed member => ?_
                have inItems := List.fst_mem_of_mem_zipIdx member
                exact read_bareDefinition limit _ (depth + 1)
                  (explicit.child (Source.inside_of_mem_items spelled inItems))
            | _ => rfl
  | _ => rfl
termination_by limit + 1 - depth

end Definition
end DocShape
