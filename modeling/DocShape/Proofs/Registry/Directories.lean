import DocShape.Proofs.Registry.Batches
import Mathlib.Data.List.Nodup

namespace DocShape

/-! Registries from the files of a directory.

The files are taken in the order of their names, and each is counted, measured and read before
the next one is looked at.  What is loaded shows nothing of this: a directory gives the registry
of all declarations in its fragment files put together, or none.
-/

namespace Catalog

variable {α : Type} {lists : List (List (String × α))} {whole : Catalog α}

theorem contains_ofList_iff {added : List (String × α)} (distinct : (added.map (·.1)).Nodup)
    {name : String} : (ofList added).contains name = true ↔ name ∈ added.map (·.1) := by
  simp [contains_iff, find?_ofList_eq_some_iff distinct]

theorem apart_ofList_iff {first second : List (String × α)}
    (distinct : (first.map (·.1)).Nodup) (alsoDistinct : (second.map (·.1)).Nodup) :
    (ofList first).Apart (ofList second) ↔ (first.map (·.1)).Disjoint (second.map (·.1)) := by
  unfold Apart List.Disjoint
  simp only [contains_ofList_iff distinct, ← Bool.not_eq_true, contains_ofList_iff alsoDistinct]

/-- Lists of entries fit together if no name is in two of them. -/
theorem joins_ofList_iff (each : ∀ list ∈ lists, (list.map (·.1)).Nodup) :
    Joins (empty :: lists.map ofList) whole ↔
      (lists.flatten.map (·.1)).Nodup ∧ ofList lists.flatten = whole := by
  have apart : (empty :: lists.map ofList).Pairwise Apart ↔ (lists.flatten.map (·.1)).Nodup := by
    have ofEmpty : ∀ list ∈ lists, (empty : Catalog α).Apart (ofList list) := fun _ _ => nofun
    rw [List.pairwise_cons, List.forall_mem_map, and_iff_right ofEmpty, List.map_flatten,
      List.nodup_flatten, List.forall_mem_map, and_iff_right each, List.pairwise_map,
      List.pairwise_map]
    refine ⟨fun pairs => ?_, fun pairs => ?_⟩
    · refine pairs.imp_of_mem fun first second apart => ?_
      exact (apart_ofList_iff (each _ first) (each _ second)).mp apart
    · refine pairs.imp_of_mem fun first second disjoint => ?_
      exact (apart_ofList_iff (each _ first) (each _ second)).mpr disjoint
  have stored (name : String) (stored : α) :
      (∃ part ∈ empty :: lists.map ofList, part.find? name = some stored) ↔
        (name, stored) ∈ lists.flatten := by
    simp only [List.exists_mem_cons_iff, find?_empty, reduceCtorEq, false_or, List.mem_map,
      exists_exists_and_eq_and, List.mem_flatten]
    refine exists_congr fun list => and_congr_right fun member => ?_
    exact find?_ofList_eq_some_iff (each list member)
  constructor
  · rintro ⟨pairs, stores⟩
    have distinct := apart.mp pairs
    refine ⟨distinct, ext_find? fun name value => ?_⟩
    rw [find?_ofList_eq_some_iff distinct, stores, stored]
  · rintro ⟨distinct, rfl⟩
    refine ⟨apart.mpr distinct, fun name value => ?_⟩
    rw [find?_ofList_eq_some_iff distinct, stored]

end Catalog

namespace Source

variable {sources : List (Except SchemaError Value)} {entries : Entries}
  {found declared : Catalog Value}

/-- The entries declare fragments with names and nothing else. -/
def OnlyFragments (entries : Entries) : Prop :=
  ∀ entry ∈ entries, ∃ name, name ≠ "" ∧ entry.1.text? = some (fragmentPath name)

theorem onlyFragments_iff :
    OnlyFragments entries ↔
      (∀ declaration ∈ declarations entries, declaration.1 ≠ "") ∧ remaining entries = [] := by
  simp only [OnlyFragments, ← fragmentName?_eq_some_iff]
  constructor
  · intro only
    constructor
    · rintro ⟨name, body⟩ member
      obtain ⟨key, isEntry, spelled⟩ := mem_declarations_iff.mp member
      obtain ⟨own, nonempty, named⟩ := only _ isEntry
      rw [fragmentName?_eq_some_iff.mpr spelled, Option.some.injEq] at named
      rwa [named]
    · refine List.filter_eq_nil_iff.mpr fun entry member => ?_
      obtain ⟨name, _, named⟩ := only entry member
      simp [named]
  · rintro ⟨nonempty, none⟩ entry member
    have named := List.filter_eq_nil_iff.mp none entry member
    obtain ⟨name, named⟩ := Option.ne_none_iff_exists'.mp (by simpa using named)
    have declares : Declares entries name entry.2 :=
      ⟨entry.1, member, fragmentName?_eq_some_iff.mp named⟩
    exact ⟨name, nonempty _ (mem_declarations_iff.mpr declares), named⟩

/-- The source can be read and is a mapping with these entries, all of which declare
fragments. -/
def Lists (source : Except SchemaError Value) (entries : Entries) : Prop :=
  source = .ok (.map entries) ∧ OnlyFragments entries

theorem reads_iff {source : Except SchemaError Value} :
    Reads source declared ↔
      ∃ entries, Lists source entries ∧ ((declarations entries).map (·.1)).Nodup ∧
        .ofList (declarations entries) = declared := by
  simp only [Reads, Lists, bind_eq_ok, fragmentsOf_eq_ok_iff, onlyFragments_iff, fragments]
  constructor
  · rintro ⟨_, read, entries, rfl, nonempty, distinct, none, same⟩
    exact ⟨entries, ⟨read, nonempty, none⟩, distinct, same⟩
  · rintro ⟨entries, ⟨read, nonempty, none⟩, distinct, same⟩
    exact ⟨_, read, entries, rfl, nonempty, distinct, none, same⟩

theorem forall₂_reads_iff {parts : List (Catalog Value)} :
    List.Forall₂ Reads sources parts ↔
      ∃ contents, List.Forall₂ Lists sources contents ∧
        (∀ list ∈ contents.map declarations, (list.map (·.1)).Nodup) ∧
        (contents.map declarations).map .ofList = parts := by
  induction sources generalizing parts with
  | nil => simp [List.forall₂_nil_left_iff, eq_comm]
  | cons source rest inRest =>
      rw [List.forall₂_cons_left_iff]
      simp only [reads_iff, inRest, List.forall₂_cons_left_iff]
      constructor
      · rintro ⟨_, _, ⟨entries, lists, distinct, rfl⟩, ⟨contents, each, others, rfl⟩, rfl⟩
        exact ⟨entries :: contents, ⟨entries, contents, lists, each, rfl⟩,
          List.forall_mem_cons.mpr ⟨distinct, others⟩, rfl⟩
      · rintro ⟨_, ⟨entries, contents, lists, each, rfl⟩, all, rfl⟩
        obtain ⟨distinct, others⟩ := List.forall_mem_cons.mp all
        exact ⟨_, _, ⟨entries, lists, distinct, rfl⟩, ⟨contents, each, others, rfl⟩, rfl⟩

/-- Sources can be put together if no name is declared twice in all of them. -/
theorem collect_eq_ok_iff_lists :
    collect sources = .ok found ↔
      ∃ contents, List.Forall₂ Lists sources contents ∧
        ((contents.flatMap declarations).map (·.1)).Nodup ∧
        .ofList (contents.flatMap declarations) = found := by
  simp only [collect_eq_ok_iff, forall₂_reads_iff, List.flatMap_def]
  constructor
  · rintro ⟨_, ⟨contents, lists, each, rfl⟩, joins⟩
    exact ⟨contents, lists, (Catalog.joins_ofList_iff each).mp joins⟩
  · rintro ⟨contents, lists, distinct, whole⟩
    have each : ∀ list ∈ contents.map declarations, (list.map (·.1)).Nodup := by
      rw [List.map_flatten, List.nodup_flatten, List.forall_mem_map] at distinct
      exact distinct.1
    exact ⟨_, ⟨contents, lists, each, rfl⟩, (Catalog.joins_ofList_iff each).mpr ⟨distinct, whole⟩⟩

end Source

namespace Registry

variable {config : Config} {items others : List (String × StoredItem)} {registry : Registry}

/-- A regular file whose name marks it as a source of fragments, with its content. -/
def fragmentFile? : String × StoredItem → Option (String × ByteArray)
  | (name, .file content) => if isFragmentFileName name then some (name, content) else none
  | _ => none

def fragmentFiles (items : List (String × StoredItem)) : List (String × ByteArray) :=
  items.filterMap fragmentFile?

/-- Files with such a name are loaded and links with one are refused; nothing else is looked
at. -/
def isDecisive : String × StoredItem → Bool
  | (_, .directory) => false
  | (name, _) => isFragmentFileName name

/-- What a directory must not go beyond, whatever its files hold. -/
structure Admits (config : Config) (items : List (String × StoredItem)) : Prop where
  unlinked : ∀ name target, (name, .link target) ∈ items → isFragmentFileName name = false
  bounded : (fragmentFiles items).length ≤ config.maxFragments

/-- The file is no larger than a source may be, and this is its text. -/
def HasText (config : Config) (file : String × ByteArray) (text : String) : Prop :=
  file.2.size ≤ config.maxFileSize ∧ String.fromUTF8? file.2 = some text

/-- The text of the file is a mapping with these entries, all of which declare fragments. -/
def Holds (config : Config) (file : String × ByteArray) (entries : Entries) : Prop :=
  (∃ text, HasText config file text ∧ Yaml.read? text = some (.map entries)) ∧
    Source.OnlyFragments entries

/-- All that the fragment files of a directory declare, put together, fills this registry. -/
structure Fills (config : Config) (items : List (String × StoredItem)) (registry : Registry) :
    Prop extends Admits config items where
  filled : ∃ contents, List.Forall₂ (Holds config) (fragmentFiles items) contents ∧
    ((contents.flatMap Source.declarations).map (·.1)).Nodup ∧
    ∃ names, (withConfig config).absorb (.ofList (contents.flatMap Source.declarations)) =
      .ok (registry, names)

/-- The source in a fragment file, apart from the other files. -/
def fileSource (config : Config) (file : String × ByteArray) : Except SchemaError Value :=
  Source.ofStored config file.1 (.file file.2)

theorem fileSource_of_hasText {file : String × ByteArray} {text : String}
    (hasText : HasText config file text) : fileSource config file = Source.ofText text := by
  have small : ¬ config.maxFileSize < (Stored.file file.2).size := Nat.not_lt.mpr hasText.1
  simp only [fileSource, Source.ofStored, Source.textOf, small, if_false, Stored.text, hasText.2]

theorem fileSource_eq_ok_iff {file : String × ByteArray} {value : Value} :
    fileSource config file = .ok value ↔
      ∃ text, HasText config file text ∧ Yaml.read? text = some value := by
  have ofText (text : String) : Source.ofText text = .ok value ↔ Yaml.read? text = some value := by
    unfold Source.ofText
    cases Yaml.read? text <;> simp
  constructor
  · intro read
    by_cases small : file.2.size ≤ config.maxFileSize
    · cases decoded : String.fromUTF8? file.2 with
      | none =>
          have small : ¬ config.maxFileSize < (Stored.file file.2).size := Nat.not_lt.mpr small
          simp [fileSource, Source.ofStored, Source.textOf, small, Stored.text, decoded] at read
      | some text =>
          have hasText : HasText config file text := ⟨small, decoded⟩
          rw [fileSource_of_hasText hasText, ofText] at read
          exact ⟨text, hasText, read⟩
    · have large : config.maxFileSize < (Stored.file file.2).size := Nat.lt_of_not_le small
      simp [fileSource, Source.ofStored, Source.textOf, large] at read
  · rintro ⟨text, hasText, parsed⟩
    rw [fileSource_of_hasText hasText, ofText, parsed]

theorem lists_fileSource_iff {file : String × ByteArray} {entries : Entries} :
    Source.Lists (fileSource config file) entries ↔ Holds config file entries := by
  rw [Source.Lists, Holds, fileSource_eq_ok_iff]

def byName (left right : String × StoredItem) : Bool := decide (left.1 ≤ right.1)

theorem sourcesIn_eq (config : Config) (items : List (String × StoredItem)) :
    sourcesIn config items =
      ((items.mergeSort byName).filterMap candidate?).zipIdx.map (sourceIn config) := rfl

theorem fragmentFiles_perm (order : items.Perm others) :
    (fragmentFiles items).Perm (fragmentFiles others) :=
  order.filterMap fragmentFile?

theorem Admits.perm (admits : Admits config items) (order : items.Perm others) :
    Admits config others where
  unlinked name target member := admits.unlinked name target (order.mem_iff.mpr member)
  bounded := (fragmentFiles_perm order).length_eq ▸ admits.bounded

theorem candidates_eq
    (unlinked : ∀ name target, (name, .link target) ∈ items → isFragmentFileName name = false) :
    items.filterMap candidate? =
      (fragmentFiles items).map fun file => (file.1, some file.2) := by
  unfold fragmentFiles
  rw [List.map_filterMap]
  refine List.filterMap_congr fun item member => ?_
  obtain ⟨name, item⟩ := item
  cases item with
  | file content =>
      by_cases named : isFragmentFileName name = true
      · simp [candidate?, fragmentFile?, named]
      · simp [candidate?, fragmentFile?, named]
  | directory => rfl
  | link target => simp [candidate?, fragmentFile?, unlinked name target member]

theorem sourceIn_of_lt {file : String × ByteArray} {before : Nat}
    (few : before < config.maxFragments) :
    sourceIn config ((file.1, some file.2), before) = fileSource config file :=
  if_neg (by omega)

/-- In an admissible directory each source is read as if its file were the only one. -/
theorem sourcesIn_of_admits (admits : Admits config items) :
    sourcesIn config items = (fragmentFiles (items.mergeSort byName)).map (fileSource config) := by
  have sorted := admits.perm (List.mergeSort_perm items byName).symm
  rw [sourcesIn_eq, candidates_eq sorted.unlinked, List.zipIdx_map, List.map_map]
  generalize filed : fragmentFiles (items.mergeSort byName) = files at sorted
  have bounded : files.length ≤ config.maxFragments := filed ▸ sorted.bounded
  conv => rhs; rw [← List.zipIdx_map_fst 0 files, List.map_map]
  refine List.map_congr_left fun counted member => ?_
  have before : counted.2 < files.length := by
    simpa using List.snd_lt_of_mem_zipIdx member
  exact sourceIn_of_lt (Nat.lt_of_lt_of_le before bounded)

theorem sourceIn_eq_ok {candidate : String × Option ByteArray} {before : Nat} {value : Value}
    (read : sourceIn config (candidate, before) = .ok value) :
    candidate.2 ≠ none ∧ before < config.maxFragments := by
  obtain ⟨name, content⟩ := candidate
  cases content with
  | none => cases read
  | some content =>
      refine ⟨nofun, ?_⟩
      by_contra many
      have exceeds : config.maxFragments < before + 1 := by omega
      simp [sourceIn, exceeds] at read

theorem admits_of_read (read : ∀ source ∈ sourcesIn config items, ∃ value, source = .ok value) :
    Admits config items := by
  rw [sourcesIn_eq] at read
  have sorted := List.mergeSort_perm items byName
  have each (candidate : String × Option ByteArray) (before : Nat)
      (counted : ((items.mergeSort byName).filterMap candidate?)[before]? = some candidate) :
      candidate.2 ≠ none ∧ before < config.maxFragments := by
    obtain ⟨value, isRead⟩ := read (sourceIn config (candidate, before))
      (List.mem_map.mpr ⟨_, List.mem_zipIdx_iff_getElem?.mpr counted, rfl⟩)
    exact sourceIn_eq_ok isRead
  have unlinked (name target : String) (member : (name, StoredItem.link target) ∈ items) :
      isFragmentFileName name = false := by
    by_contra named
    have isCandidate : (name, none) ∈ (items.mergeSort byName).filterMap candidate? :=
      List.mem_filterMap.mpr ⟨_, sorted.mem_iff.mpr member, by simp [candidate?, named]⟩
    obtain ⟨before, counted⟩ := List.getElem?_of_mem isCandidate
    exact (each _ before counted).1 rfl
  refine ⟨unlinked, ?_⟩
  by_contra many
  have length : ((items.mergeSort byName).filterMap candidate?).length =
      (fragmentFiles items).length := by
    rw [(sorted.filterMap candidate?).length_eq, candidates_eq unlinked, List.length_map]
  have present : config.maxFragments < ((items.mergeSort byName).filterMap candidate?).length := by
    omega
  have beyond := (each _ config.maxFragments (List.getElem?_eq_getElem present)).2
  omega

/-- A directory is loaded if it is admissible and the sources in its fragment files, in whatever
order, make a registry. -/
theorem ofSources_sourcesIn_eq_ok_iff :
    ofSources config (sourcesIn config items) = .ok registry ↔
      Admits config items ∧
        ofSources config ((fragmentFiles items).map (fileSource config)) = .ok registry := by
  have order : ((fragmentFiles (items.mergeSort byName)).map (fileSource config)).Perm
      ((fragmentFiles items).map (fileSource config)) :=
    (fragmentFiles_perm (List.mergeSort_perm items byName)).map _
  constructor
  · intro made
    obtain ⟨declared, collected, _⟩ := ofSources_eq_ok_iff.mp made
    obtain ⟨contents, lists, _⟩ := Source.collect_eq_ok_iff_lists.mp collected
    have admits : Admits config items := by
      refine admits_of_read fun source member => ?_
      obtain ⟨entries, _, read, _⟩ := result_of_mem lists member
      exact ⟨_, read⟩
    rw [sourcesIn_of_admits admits] at made
    exact ⟨admits, ofSources_of_perm order made⟩
  · rintro ⟨admits, made⟩
    rw [sourcesIn_of_admits admits]
    exact ofSources_of_perm order.symm made

theorem candidate?_name {item : String × StoredItem} {candidate : String × Option ByteArray}
    (found : candidate? item = some candidate) : candidate.1 = item.1 := by
  obtain ⟨name, item⟩ := item
  cases item with
  | file content =>
      simp only [candidate?, Option.ite_none_right_eq_some, Option.some.injEq] at found
      rw [← found.2]
  | directory => cases found
  | link target =>
      simp only [candidate?, Option.ite_none_right_eq_some, Option.some.injEq] at found
      rw [← found.2]

theorem candidates_decisive (items : List (String × StoredItem)) :
    (items.filter isDecisive).filterMap candidate? = items.filterMap candidate? := by
  rw [List.filterMap_filter]
  refine List.filterMap_congr fun item _ => ?_
  obtain ⟨name, item⟩ := item
  cases item with
  | file content => cases named : isFragmentFileName name <;> simp [isDecisive, candidate?, named]
  | directory => rfl
  | link target => cases named : isFragmentFileName name <;> simp [isDecisive, candidate?, named]

theorem candidates_pairwise (items : List (String × StoredItem)) :
    ((items.mergeSort byName).filterMap candidate?).Pairwise fun first second =>
      first.1 ≤ second.1 := by
  have sorted : (items.mergeSort byName).Pairwise fun first second =>
      byName first second = true := by
    refine List.pairwise_mergeSort (fun first second third below above => ?_)
      (fun first second => ?_) items
    · simp only [byName, decide_eq_true_eq] at below above ⊢
      exact String.le_trans below above
    · simpa [byName] using String.le_total first.1 second.1
  refine sorted.filterMap candidate? fun first second below candidate found other alsoFound => ?_
  rw [candidate?_name found, candidate?_name alsoFound]
  exact of_decide_eq_true below

theorem candidates_nodup (once : (items.map (·.1)).Nodup) :
    ((items.filterMap candidate?).map (·.1)).Nodup := by
  rw [List.Nodup, List.pairwise_map] at once ⊢
  refine once.filterMap candidate? fun first second different candidate found other alsoFound => ?_
  rwa [candidate?_name found, candidate?_name alsoFound]

/-- The sources of a directory are those of its decisive items, in whatever order it is
listed. -/
theorem sourcesIn_of_decisive (once : (items.map (·.1)).Nodup)
    (same : (others.filter isDecisive).Perm (items.filter isDecisive)) :
    sourcesIn config others = sourcesIn config items := by
  have sorted (items : List (String × StoredItem)) :
      ((items.mergeSort byName).filterMap candidate?).Perm
        ((items.filter isDecisive).filterMap candidate?) := by
    rw [candidates_decisive]
    exact (List.mergeSort_perm items byName).filterMap candidate?
  have order := (sorted others).trans ((same.filterMap candidate?).trans (sorted items).symm)
  have distinct : (((items.mergeSort byName).filterMap candidate?).map (·.1)).Nodup := by
    refine ((((List.mergeSort_perm items byName).filterMap candidate?).map (·.1)).nodup_iff).mpr ?_
    exact candidates_nodup once
  rw [sourcesIn_eq, sourcesIn_eq]
  congr 2
  refine List.Perm.eq_of_pairwise (fun first second inFirst inSecond below above => ?_)
    (candidates_pairwise others) (candidates_pairwise items) order
  exact List.inj_on_of_nodup_map distinct (order.mem_iff.mp inFirst) inSecond
    (String.le_antisymm below above)

theorem ofDirectory_eq {storage : Storage} {path : String}
    (listed : storage.list path = .ok items) :
    ofDirectory storage config path = ofSources config (sourcesIn config items) := by
  simp only [ofDirectory, listed]

theorem ofSources_fileSource_eq_ok_iff :
    Admits config items ∧
        ofSources config ((fragmentFiles items).map (fileSource config)) = .ok registry ↔
      Fills config items registry := by
  simp only [ofSources_eq_ok_iff, Source.collect_eq_ok_iff_lists, List.forall₂_map_left_iff,
    lists_fileSource_iff]
  constructor
  · rintro ⟨admits, _, ⟨contents, holds, distinct, rfl⟩, absorbed⟩
    exact ⟨admits, contents, holds, distinct, absorbed⟩
  · rintro ⟨admits, contents, holds, distinct, absorbed⟩
    exact ⟨admits, _, ⟨contents, holds, distinct, rfl⟩, absorbed⟩

theorem fileSources_eq {texts : List String}
    (each : List.Forall₂ (HasText config) (fragmentFiles items) texts) :
    (fragmentFiles items).map (fileSource config) = texts.map Source.ofText := by
  rw [← List.forall₂_eq_eq_eq, List.forall₂_map_left_iff, List.forall₂_map_right_iff]
  exact each.imp fun file text hasText => fileSource_of_hasText hasText

theorem Fills.texts (fills : Fills config items registry) :
    ∃ texts, List.Forall₂ (HasText config) (fragmentFiles items) texts := by
  obtain ⟨contents, holds, _⟩ := fills.filled
  refine ⟨(fragmentFiles items).map fun file => (String.fromUTF8? file.2).getD "", ?_⟩
  rw [List.forall₂_map_right_iff, List.forall₂_same]
  intro file member
  obtain ⟨entries, _, ⟨text, hasText, _⟩, _⟩ := result_of_mem holds member
  rwa [hasText.2]

/-- A directory gives the registry of all that its fragment files declare, if it is admissible
and the declarations fit together.  The order in which it is listed and its other items do not
matter, and its files could have been given as texts. -/
theorem ofDirectory_fills {storage : Storage} {path : String}
    (listed : storage.list path = .ok items) (once : (items.map (·.1)).Nodup) (config : Config) :
    (∀ registry, ofDirectory storage config path = .ok registry ↔ Fills config items registry) ∧
    (∀ (other : Storage) (others : List (String × StoredItem)), other.list path = .ok others →
      (others.filter isDecisive).Perm (items.filter isDecisive) →
        ofDirectory other config path = ofDirectory storage config path) ∧
    ∀ registry, ofDirectory storage .standard path = .ok registry ↔
      Admits .standard items ∧ ∃ texts,
        List.Forall₂ (HasText .standard) (fragmentFiles items) texts ∧
          ofTexts texts = .ok registry := by
  have filling (config : Config) (registry : Registry) :
      ofDirectory storage config path = .ok registry ↔ Fills config items registry := by
    rw [ofDirectory_eq listed, ofSources_sourcesIn_eq_ok_iff, ofSources_fileSource_eq_ok_iff]
  refine ⟨filling config, fun other others alsoListed same => ?_, fun registry => ?_⟩
  · rw [ofDirectory_eq alsoListed, ofDirectory_eq listed, sourcesIn_of_decisive once same]
  · rw [filling]
    constructor
    · intro fills
      obtain ⟨texts, each⟩ := fills.texts
      obtain ⟨admits, made⟩ := ofSources_fileSource_eq_ok_iff.mpr fills
      rw [fileSources_eq each] at made
      exact ⟨admits, texts, each, made⟩
    · rintro ⟨admits, texts, each, made⟩
      refine ofSources_fileSource_eq_ok_iff.mp ⟨admits, ?_⟩
      rw [fileSources_eq each]
      exact made

/-- Two fragment files of which the one listed first includes from the other, among items that
do not count. -/
theorem ofDirectory_fills_mixed :
    let listed := "schema;listed: {seq: [{include: item}]}"
    let item := "schema;item: {type: int}"
    let items : List (String × StoredItem) :=
      [("notes.txt", .file "none".toUTF8), ("b.YML", .file listed.toUTF8), ("old.yml", .directory),
        ("a.yaml", .file item.toUTF8), ("latest", .link "b.YML")]
    let others : List (String × StoredItem) :=
      [("a.yaml", .file item.toUTF8), ("b.YML", .file listed.toUTF8)]
    let storage : Storage := ⟨fun _ => .ok .directory, fun _ => .ok items⟩
    let other : Storage := ⟨fun _ => .ok .directory, fun _ => .ok others⟩
    ∃ registry, ofDirectory storage .standard "fragments" = .ok registry ∧
      registry.names = ["item", "listed"] ∧ Fills .standard items registry ∧
      ofDirectory other .standard "fragments" = .ok registry ∧
      ofTexts [listed, item] = .ok registry := by
  intro listed item items others storage other
  have named : ((ofTexts [listed, item]).toOption.map names) = some ["item", "listed"] := by
    decide +kernel
  obtain ⟨registry, found, isNamed⟩ := Option.map_eq_some_iff.mp named
  have made := toOption_eq_some_iff.mp found
  obtain ⟨filling, order, embedded⟩ :=
    @ofDirectory_fills items storage "fragments" rfl (by decide) .standard
  have upper : isFragmentFileName "b.YML" = true := by decide +kernel
  have lower : isFragmentFileName "a.yaml" = true := by decide +kernel
  have notes : isFragmentFileName "notes.txt" = false := by decide +kernel
  have latest : isFragmentFileName "latest" = false := by decide +kernel
  have files : fragmentFiles items = [("b.YML", listed.toUTF8), ("a.yaml", item.toUTF8)] := by
    simp only [items, fragmentFiles, List.filterMap_cons, List.filterMap_nil, fragmentFile?, upper,
      lower, notes, if_true, Bool.false_eq_true, if_false]
  have admits : Admits .standard items := by
    constructor
    case unlinked =>
      intro name target member
      obtain ⟨rfl, rfl⟩ : name = "latest" ∧ target = "b.YML" := by simpa [items] using member
      exact latest
    case bounded =>
      rw [files]
      decide
  have each : List.Forall₂ (HasText .standard) (fragmentFiles items) [listed, item] := by
    rw [files]
    refine .cons ⟨?_, ?_⟩ (.cons ⟨?_, ?_⟩ .nil)
    all_goals decide +kernel
  have loaded := (embedded registry).mpr ⟨admits, _, each, made⟩
  have swapped : (others.filter isDecisive).Perm (items.filter isDecisive) := by
    simp only [others, items, List.filter_cons, List.filter_nil, isDecisive, upper, lower, notes,
      latest, if_true, Bool.false_eq_true, if_false]
    exact .swap _ _ []
  have same := order other others rfl swapped
  exact ⟨registry, loaded, isNamed, (filling registry).mp loaded, same.trans loaded, made⟩

end Registry
end DocShape
