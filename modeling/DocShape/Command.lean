import DocShape.Command.Request
import DocShape.Domain
import DocShape.Report
import DocShape.Schema.Loading

namespace DocShape.Command

/-! Running a request on stored files. -/

structure Outcome where
  code : Nat
  output : String
  errors : String
deriving Repr, DecidableEq

/-- What the long version text tells about the program's build. -/
structure Build where
  system : String
  architecture : String
  target : String
  revision : String

def success : Nat := 0

/-- A schema or fragment file could not be read. -/
def loadFailure : Nat := 1

def badUsage : Nat := 2

def accessDenied : Nat := 50

/-- Some document does not conform or is no document at all. -/
def dataInvalid : Nat := 60

/-- A schema or fragment could not be built. -/
def schemaInvalid : Nat := 61

def pathUnusable : Nat := 64

def internalFailure : Nat := 125

inductive Step where
  | fragmentsFrom (directory : String)
  | schemaFrom (file : String)
  | linking
  | builtIn
deriving Repr, DecidableEq

def Step.text : Step → String
  | .fragmentsFrom directory => "loading fragments from " ++ directory
  | .schemaFrom file => "building schema " ++ file
  | .linking => "linking built-in fragments"
  | .builtIn => "building built-in domain schema"

structure Failure where
  step : Step
  error : SchemaError

namespace Failure

def code (failure : Failure) : Nat :=
  match failure.error with
  | .loadFailed _ => loadFailure
  | _ => schemaInvalid

def outcome (wording : Wording) (failure : Failure) : Outcome :=
  ⟨failure.code, "",
    "error: " ++ failure.step.text ++ ": " ++ failure.error.message wording ++ "\n"⟩

end Failure

def during {α : Type} (step : Step) (result : Except SchemaError α) : Except Failure α :=
  result.mapError fun error => ⟨step, error⟩

/-- A schema with the names of the fragments that it could include. -/
structure LoadedSchema where
  schema : Schema
  source : String
  available : List String

/-- The fragments that a task starts from. -/
def startingRegistry (storage : Storage) (config : Config) (choice : SchemaChoice) :
    Except Failure Registry :=
  match choice.fragments with
  | some directory =>
      during (.fragmentsFrom directory) (Registry.ofDirectory storage config directory)
  | none => pure (Registry.withConfig config)

/-- The schema of a task, given the fragments to start from. -/
def schemaOver (storage : Storage) (choice : SchemaChoice) (registry : Registry) :
    Except Failure LoadedSchema :=
  match choice.schema with
  | some file => do
      let schema ← during (.schemaFrom file) (Schema.ofFile storage registry file)
      return ⟨schema, file, registry.names⟩
  | none => do
      let linked ← during .linking (Domain.link registry)
      let schema ← during .builtIn (Schema.ofSource linked Domain.source)
      return ⟨schema, "built-in", linked.names⟩

def loadSchema (storage : Storage) (config : Config) (choice : SchemaChoice) :
    Except Failure LoadedSchema :=
  startingRegistry storage config choice >>= schemaOver storage choice

def document (storage : Storage) (wording : Wording) (file : String) :
    Except DocumentFault Value :=
  match storage.text file with
  | .error fault => .error (.unreadable fault)
  | .ok text =>
      match Yaml.read? text with
      | some found => .ok found
      | none => .error (.malformed wording.syntaxFault)

def report (storage : Storage) (wording : Wording) (schema : Schema) (file : String) : Report :=
  ⟨file, (document storage wording file).map schema.validate⟩

def faultCode : DocumentFault → Nat
  | .unreadable .denied => accessDenied
  | .unreadable .missing | .unreadable .invalidPath => pathUnusable
  | .unreadable _ => internalFailure
  | .malformed _ => dataInvalid

def faultCode? (report : Report) : Option Nat :=
  match report.findings with
  | .error fault => some (faultCode fault)
  | .ok _ => none

/-- The first document that could not be checked decides, then any that does not conform. -/
def codeOf (reports : List Report) : Nat :=
  match reports.findSome? faultCode? with
  | some code => code
  | none => if reports.all Report.isValid then success else dataInvalid

def reportsText (format : Format) (reports : List Report) : String :=
  match format with
  | .json => Report.jsonOfAll reports ++ "\n"
  | .table => Report.tableOfAll reports ++ "\n"
  | .pretty => String.join ((reports.flatMap Report.lines).map (· ++ "\n"))

def validate (storage : Storage) (wording : Wording) (format : Format) (files : List String)
    (choice : SchemaChoice) (config : Config) : Outcome :=
  match loadSchema storage config choice with
  | .error failure => failure.outcome wording
  | .ok loaded =>
      let reports := files.map (report storage wording loaded.schema)
      ⟨codeOf reports, reportsText format reports, ""⟩

def listed (names : List String) : String :=
  if names.isEmpty then "none" else ", ".intercalate names

def schemaText (format : Format) (loaded : LoadedSchema) : String :=
  let strings := fun (names : List String) => Text.jsonArray (names.map Text.jsonString)
  match format with
  | .json =>
      Text.jsonObject [("schema", Text.jsonString loaded.source),
        ("root", Text.jsonString loaded.schema.root.shape),
        ("declared_fragments", strings loaded.schema.fragmentNames),
        ("registry_fragments", strings loaded.available)] ++ "\n"
  | .table | .pretty =>
      "Schema:             " ++ loaded.source ++ "\n" ++
      "Root:               " ++ loaded.schema.root.shape ++ "\n" ++
      "Declared fragments: " ++ listed loaded.schema.fragmentNames ++ "\n" ++
      "Registry fragments: " ++ listed loaded.available ++ "\n"

def checkSchema (storage : Storage) (wording : Wording) (format : Format)
    (choice : SchemaChoice) : Outcome :=
  match loadSchema storage .standard choice with
  | .error failure => failure.outcome wording
  | .ok loaded => ⟨success, schemaText format loaded, ""⟩

def programName : String := "domainlint"

def programVersion : String := "0.1.0"

def shortVersion : String := programName ++ " " ++ programVersion ++ "\n"

def longVersion (build : Build) : String :=
  "name: " ++ programName ++ "\n" ++
  "version: " ++ programVersion ++ "\n" ++
  "target_os: " ++ build.system ++ "\n" ++
  "target_arch: " ++ build.architecture ++ "\n" ++
  "build_target: " ++ build.target ++ "\n" ++
  "git_hash: " ++ build.revision ++ "\n" ++
  "built_in_schema: domain + responses fragment\n"

def usage : String :=
  "Usage: " ++ programName ++ " [--format json|table|pretty] <validate|check-schema|version>\n"

/-- Runs a request; `format` goes where the request names none. -/
def run (storage : Storage) (wording : Wording) (build : Build) (format : Format)
    (request : Request) : Outcome :=
  let format := request.format.getD format
  match request.task with
  | .validate files choice config => validate storage wording format files choice config
  | .checkSchema choice => checkSchema storage wording format choice
  | .version extended => ⟨success, if extended then longVersion build else shortVersion, ""⟩

def runWords (storage : Storage) (wording : Wording) (build : Build) (format : Format)
    (words : List String) : Outcome :=
  match Request.ofWords words with
  | .ok request => run storage wording build format request
  | .error .help => ⟨success, usage, ""⟩
  | .error .version => ⟨success, shortVersion, ""⟩
  | .error .usage => ⟨badUsage, "", usage⟩

end DocShape.Command
