import DocShape.Proofs.Command.Loading

namespace DocShape

/-! A run over several documents: each is reported as in a run of its own, and the exit code is
that of the first one that could not be checked, or else tells whether all of them conform.
-/

/-- The document that is found under a path. -/
def Storage.Holds (storage : Storage) (file : String) (document : Value) : Prop :=
  ∃ text, storage.text file = .ok text ∧ Yaml.read? text = some document

theorem Storage.Holds.unique {storage : Storage} {file : String} {first second : Value}
    (held : storage.Holds file first) (again : storage.Holds file second) : first = second := by
  obtain ⟨text, opened, parsed⟩ := held
  obtain ⟨other, openedAgain, parsedAgain⟩ := again
  rw [opened, Except.ok.injEq] at openedAgain
  rw [← openedAgain, parsed] at parsedAgain
  exact Option.some.inj parsedAgain

/-- The text that a report carries in place of violations. -/
def Report.error? (report : Report) : Option String :=
  match report.findings with
  | .error fault => some (report.faultText fault)
  | .ok _ => none

/-- What a report shows, each under its name; only one without a result has an error. -/
def Report.members (report : Report) : List (String × String) :=
  [("file", Text.jsonString report.file), ("valid", Text.jsonBool report.isValid),
    ("violations", Text.jsonArray (report.violations.map Violation.json))] ++
      report.error?.toList.map fun text => ("error", Text.jsonString text)

theorem Report.json_eq (report : Report) : report.json = Text.jsonObject report.members := by
  unfold json members error?
  cases report.findings with
  | error fault => rfl
  | ok found => rfl

namespace Command

variable {storage : Storage} {wording : Wording} {schema : Schema} {file : String}
  {report : Report} {reports before after : List Report} {code : Nat}

/-- What is to be told of one file. -/
inductive Describes (storage : Storage) (wording : Wording) (schema : Schema) (file : String) :
    Report → Prop where
  | unreadable {fault : StorageFault} (failed : storage.text file = .error fault) :
      Describes storage wording schema file ⟨file, .error (.unreadable fault)⟩
  | malformed {text : String} (opened : storage.text file = .ok text)
      (broken : Yaml.read? text = none) :
      Describes storage wording schema file ⟨file, .error (.malformed wording.syntaxFault)⟩
  | checked {document : Value} (held : storage.Holds file document) :
      Describes storage wording schema file ⟨file, .ok (schema.validate document)⟩

theorem report_describes (storage : Storage) (wording : Wording) (schema : Schema)
    (file : String) :
    Describes storage wording schema file (Command.report storage wording schema file) := by
  unfold Command.report document
  cases opened : storage.text file with
  | error fault => exact .unreadable opened
  | ok text =>
      cases parsed : Yaml.read? text with
      | none =>
          simp only [parsed]
          exact .malformed opened parsed
      | some document =>
          simp only [parsed]
          exact .checked ⟨text, opened, parsed⟩

theorem not_holds_of_error {fault : StorageFault} (failed : storage.text file = .error fault) :
    ¬ ∃ document, storage.Holds file document := by
  rintro ⟨document, text, opened, _⟩
  rw [failed] at opened
  cases opened

theorem not_holds_of_broken {text : String} (opened : storage.text file = .ok text)
    (broken : Yaml.read? text = none) : ¬ ∃ document, storage.Holds file document := by
  rintro ⟨document, again, openedAgain, parsed⟩
  rw [opened, Except.ok.injEq] at openedAgain
  rw [← openedAgain, broken] at parsed
  cases parsed

theorem Describes.isValid_iff (describes : Describes storage wording schema file report) :
    report.isValid = true ↔
      ∃ document, storage.Holds file document ∧ schema.validate document = [] := by
  cases describes with
  | unreadable failed =>
      refine iff_of_false Bool.false_ne_true fun ⟨document, held, _⟩ => ?_
      exact not_holds_of_error failed ⟨document, held⟩
  | malformed opened broken =>
      refine iff_of_false Bool.false_ne_true fun ⟨document, held, _⟩ => ?_
      exact not_holds_of_broken opened broken ⟨document, held⟩
  | @checked document held =>
      have checks : Report.isValid ⟨file, .ok (schema.validate document)⟩ =
          (schema.validate document).isEmpty := rfl
      rw [checks, List.isEmpty_iff]
      constructor
      · exact fun clean => ⟨document, held, clean⟩
      · rintro ⟨other, again, clean⟩
        rwa [held.unique again]

theorem Describes.faultCode?_eq_none_iff
    (describes : Describes storage wording schema file report) :
    faultCode? report = none ↔ ∃ document, storage.Holds file document := by
  cases describes with
  | unreadable failed => exact iff_of_false nofun (not_holds_of_error failed)
  | malformed opened broken => exact iff_of_false nofun (not_holds_of_broken opened broken)
  | checked held => exact iff_of_true rfl ⟨_, held⟩

theorem faultCode?_eq_none_iff_error? : faultCode? report = none ↔ report.error? = none := by
  unfold faultCode? Report.error?
  cases report.findings <;> simp

theorem faultCode_ne_success (fault : DocumentFault) : faultCode fault ≠ success := by
  unfold faultCode
  split <;> decide

theorem ne_success_of_faultCode? (failed : faultCode? report = some code) : code ≠ success := by
  unfold faultCode? at failed
  cases found : report.findings with
  | ok violations => simp [found] at failed
  | error fault =>
      simp only [found, Option.some.injEq] at failed
      rw [← failed]
      exact faultCode_ne_success fault

/-- What a document in front of others makes of their exit code. -/
theorem codeOf_cons (report : Report) (rest : List Report) :
    codeOf (report :: rest) =
      match faultCode? report with
      | some code => code
      | none => if report.isValid ∨ codeOf rest ≠ success then codeOf rest else dataInvalid := by
  unfold codeOf
  rw [List.findSome?_cons]
  cases faultCode? report with
  | some code => rfl
  | none =>
      cases later : rest.findSome? faultCode? with
      | some code =>
          obtain ⟨faulty, _, failed⟩ := List.exists_of_findSome?_eq_some later
          simp [ne_success_of_faultCode? failed]
      | none =>
          by_cases valid : report.isValid = true
          · by_cases clean : rest.all Report.isValid = true
            · simp [valid, clean]
            · simp [valid, clean]
          · by_cases clean : rest.all Report.isValid = true
            · simp [valid, clean]
            · simp [valid, clean]

theorem isValid_of_faultCode? (failed : faultCode? report = some code) :
    report.isValid = false := by
  unfold faultCode? at failed
  unfold Report.isValid
  cases found : report.findings with
  | ok violations => simp [found] at failed
  | error fault => rfl

theorem codeOf_eq_success_iff :
    codeOf reports = success ↔ ∀ report ∈ reports, report.isValid = true := by
  induction reports with
  | nil => simp [codeOf]
  | cons report rest inRest =>
      rw [codeOf_cons, List.forall_mem_cons, ← inRest]
      cases failed : faultCode? report with
      | some code =>
          simp [ne_success_of_faultCode? failed, isValid_of_faultCode? failed]
      | none =>
          by_cases valid : report.isValid = true
          · simp [valid]
          · by_cases later : codeOf rest = success
            · simp [valid, later, dataInvalid, success]
            · simp [valid, later]

/-- The first document that cannot be checked decides, whatever the others are like. -/
theorem codeOf_of_fault (checked : ∀ earlier ∈ before, faultCode? earlier = none)
    (failed : faultCode? report = some code) : codeOf (before ++ report :: after) = code := by
  induction before with
  | nil => simp only [List.nil_append, codeOf_cons, failed]
  | cons first rest inRest =>
      obtain ⟨ofFirst, ofRest⟩ := List.forall_mem_cons.mp checked
      have decided := inRest ofRest
      rw [List.cons_append, codeOf_cons, ofFirst, decided]
      exact if_pos (.inr (ne_success_of_faultCode? failed))

theorem codeOf_of_checked (checked : ∀ report ∈ reports, faultCode? report = none) :
    codeOf reports = if reports.all Report.isValid then success else dataInvalid := by
  simp only [codeOf, List.findSome?_eq_none_iff.mpr checked]

/-- What is told of several files and how the run ends. -/
structure Covers (storage : Storage) (wording : Wording) (schema : Schema) (files : List String)
    (reports : List Report) (code : Nat) : Prop where
  describes : List.Forall₂ (Describes storage wording schema) files reports
  valid : List.Forall₂ (fun file report => report.isValid = true ↔
    ∃ document, storage.Holds file document ∧ schema.validate document = []) files reports
  faulty : List.Forall₂ (fun file report => report.error? ≠ none ↔
    ¬ ∃ document, storage.Holds file document) files reports
  json : Report.jsonOfAll reports = Text.jsonObject [("valid", Text.jsonBool (code == 0)),
    ("documents", Text.jsonArray (reports.map fun report => Text.jsonObject report.members))]
  succeeds : code = 0 ↔ ∀ report ∈ reports, report.isValid = true
  /-- The first file that cannot be read decides, if all before it are documents. -/
  unreadable : ∀ before file after fault, files = before ++ file :: after →
    (∀ earlier ∈ before, ∃ document, storage.Holds earlier document) →
    storage.text file = .error fault →
      code = if fault = .missing ∨ fault = .invalidPath then 64
        else if fault = .denied then 50 else 125
  /-- So does the first file whose text is no document. -/
  malformed : ∀ before file after text, files = before ++ file :: after →
    (∀ earlier ∈ before, ∃ document, storage.Holds earlier document) →
    storage.text file = .ok text → Yaml.read? text = none → code = 60
  checked : (∀ file ∈ files, ∃ document, storage.Holds file document) →
    code = if reports.all Report.isValid then 0 else 60

theorem faultCode_unreadable (fault : StorageFault) :
    faultCode (.unreadable fault) =
      if fault = .missing ∨ fault = .invalidPath then 64
        else if fault = .denied then 50 else 125 := by
  cases fault <;> rfl

theorem jsonOfAll_eq (reports : List Report) :
    Report.jsonOfAll reports = Text.jsonObject [("valid", Text.jsonBool (codeOf reports == 0)),
      ("documents", Text.jsonArray (reports.map fun report =>
        Text.jsonObject report.members))] := by
  have allValid : reports.all Report.isValid = (codeOf reports == 0) := by
    rw [Bool.eq_iff_iff, beq_iff_eq, List.all_eq_true]
    exact codeOf_eq_success_iff.symm
  unfold Report.jsonOfAll
  rw [allValid, List.map_congr_left fun report _ => Report.json_eq report]

theorem covers_reports (storage : Storage) (wording : Wording) (schema : Schema)
    (files : List String) :
    Covers storage wording schema files (files.map (Command.report storage wording schema))
      (codeOf (files.map (Command.report storage wording schema))) := by
  have describes (file : String) := report_describes storage wording schema file
  have checkable (members : List String)
      (held : ∀ file ∈ members, ∃ document, storage.Holds file document) :
      ∀ report ∈ members.map (Command.report storage wording schema), faultCode? report = none := by
    intro report member
    obtain ⟨file, isFile, rfl⟩ := List.mem_map.mp member
    exact (describes file).faultCode?_eq_none_iff.mpr (held file isFile)
  have decided {before after : List String} {file : String} {code : Nat}
      (held : ∀ earlier ∈ before, ∃ document, storage.Holds earlier document)
      (failed : faultCode? (Command.report storage wording schema file) = some code) :
      codeOf ((before ++ file :: after).map (Command.report storage wording schema)) = code := by
    rw [List.map_append, List.map_cons]
    exact codeOf_of_fault (checkable before held) failed
  constructor
  case describes =>
    rw [List.forall₂_map_right_iff, List.forall₂_same]
    exact fun file _ => describes file
  case valid =>
    rw [List.forall₂_map_right_iff, List.forall₂_same]
    exact fun file _ => (describes file).isValid_iff
  case faulty =>
    rw [List.forall₂_map_right_iff, List.forall₂_same]
    intro file _
    rw [ne_eq, ← faultCode?_eq_none_iff_error?, (describes file).faultCode?_eq_none_iff]
  case json => exact jsonOfAll_eq _
  case succeeds => exact codeOf_eq_success_iff
  case unreadable =>
    rintro before file after fault rfl held failed
    rw [← faultCode_unreadable]
    refine decided held ?_
    simp only [Command.report, document, failed, Except.map, faultCode?]
  case malformed =>
    rintro before file after text rfl held opened broken
    refine decided held ?_
    simp only [Command.report, document, opened, broken, Except.map, faultCode?]
    rfl
  case checked => exact fun held => codeOf_of_checked (checkable files held)

/-- In every format a run tells of each file, in order, what a run on that file alone tells, and
it succeeds only if all of them are documents that conform. -/
theorem validate_covers {choice : SchemaChoice} {config : Config} {loaded : LoadedSchema}
    (loads : loadSchema storage config choice = .ok loaded) (wording : Wording)
    (files : List String) :
    ∃ reports code, Covers storage wording loaded.schema files reports code ∧
      (∀ format, validate storage wording format files choice config =
        ⟨code, reportsText format reports, ""⟩) ∧
      List.Forall₂ (fun file report => ∃ alone, ∀ format,
        validate storage wording format [file] choice config =
          ⟨alone, reportsText format [report], ""⟩) files reports := by
  refine ⟨_, _, covers_reports storage wording loaded.schema files,
    fun format => validate_of_loadSchema loads, ?_⟩
  rw [List.forall₂_map_right_iff, List.forall₂_same]
  exact fun file _ => ⟨_, fun format => validate_of_loadSchema loads⟩

/-- Files under these names and nothing else. -/
def shelf (texts : List (String × String)) : Storage where
  find path :=
    match texts.lookup path with
    | some text => .ok (.file text.toUTF8)
    | none => .error .missing
  list _ := .error .missing

/-- A document that conforms, one that does not, a file that is not there and, too late to
decide, one that is no document. -/
theorem validate_covers_mixed :
    let storage := shelf [("schema.yml", "type: int"), ("one.yml", "1"), ("wide.yml", "wide"),
      ("broken.yml", "[")]
    let choice : SchemaChoice := ⟨some "schema.yml", none⟩
    let files := ["one.yml", "wide.yml", "missing.yml", "broken.yml"]
    ∃ loaded reports code, loadSchema storage .standard choice = .ok loaded ∧
      Covers storage ⟨"", ""⟩ loaded.schema files reports code ∧ code = 64 ∧
      validate storage ⟨"", ""⟩ .json files choice .standard =
        ⟨64, Report.jsonOfAll reports ++ "\n", ""⟩ := by
  intro storage choice files
  have builds : (loadSchema storage .standard choice).isOk = true := by decide +kernel
  obtain ⟨loaded, loads⟩ := exists_of_isOk builds
  obtain ⟨reports, code, covers, prints, _⟩ := validate_covers loads ⟨"", ""⟩ files
  have held (file : String) (found : ((storage.text file).toOption.bind Yaml.read?).isSome = true) :
      ∃ document, storage.Holds file document := by
    obtain ⟨document, isDocument⟩ := Option.isSome_iff_exists.mp found
    obtain ⟨text, opened, parsed⟩ := Option.bind_eq_some_iff.mp isDocument
    exact ⟨document, text, toOption_eq_some_iff.mp opened, parsed⟩
  have documents : ∀ earlier ∈ ["one.yml", "wide.yml"], ∃ document,
      storage.Holds earlier document := by
    refine List.forall_mem_cons.mpr ⟨held _ ?_, List.forall_mem_singleton.mpr (held _ ?_)⟩
    · decide +kernel
    · decide +kernel
  have decided : code = 64 :=
    covers.unreadable ["one.yml", "wide.yml"] "missing.yml" ["broken.yml"] .missing rfl
      documents rfl
  refine ⟨loaded, reports, code, loads, covers, decided, ?_⟩
  rw [prints, decided]
  rfl

end Command
end DocShape
