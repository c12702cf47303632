import DocShape.Command.Arguments
import DocShape.Schema.Config

namespace DocShape.Command

/-! What a command line asks for. -/

inductive Format where
  | json
  | table
  | pretty
deriving Repr, DecidableEq

namespace Format

def name : Format → String
  | .json => "json"
  | .table => "table"
  | .pretty => "pretty"

def all : List Format := [.json, .table, .pretty]

def ofName? (name : String) : Option Format := all.find? fun format => format.name == name

end Format

/-- Where the schema comes from; the built-in one if no file is named. -/
structure SchemaChoice where
  schema : Option String
  fragments : Option String
deriving Repr, DecidableEq

inductive Task where
  | validate (files : List String) (choice : SchemaChoice) (config : Config)
  | checkSchema (choice : SchemaChoice)
  | version (extended : Bool)
deriving Repr

structure Request where
  format : Option Format
  task : Task
deriving Repr

namespace Request

def isFormat (value : String) : Bool := (Format.ofName? value).isSome

def isLogFormat (value : String) : Bool := ["text", "json"].contains value

def isLogLevel (value : String) : Bool :=
  ["error", "warn", "info", "debug", "trace"].contains value

def isPath (value : String) : Bool := !value.isEmpty

/-- The options that may stand before or after the name of a task. -/
def sharedOptions : List (String × (String → Bool)) :=
  [("format", isFormat), ("log-format", isLogFormat), ("log-level", isLogLevel)]

def schemaOptions : List (String × (String → Bool)) :=
  [("schema", isPath), ("fragments", isPath)]

/-- The words known in front of a task. -/
def leading : Vocabulary where
  flags := []
  valued := sharedOptions
  letters := [('h', .help), ('V', .version)]
  stops := [("help", .help), ("version", .version)]

def vocabulary (flags : List String) (valued : List (String × (String → Bool))) : Vocabulary where
  flags
  valued := sharedOptions ++ valued
  letters := [('h', .help)]
  stops := [("help", .help)]

def choiceOf (arguments : Arguments) : SchemaChoice :=
  ⟨arguments.values.lookup "schema", arguments.values.lookup "fragments"⟩

def configOf (arguments : Arguments) : Config :=
  { Config.standard with
    patternMatch := if arguments.flags.contains "all-patterns" then .all else .first
    elementReport := if arguments.flags.contains "report-all-variants" then .all else .closest }

def taskOf (name : String) (words : List String) : Except Stop (Task × Arguments) := do
  match name with
  | "validate" =>
      let known := vocabulary ["all-patterns", "report-all-variants"] schemaOptions
      let (found, _) ← Arguments.read known false .empty words
      if found.operands.isEmpty then .error .usage
      return (.validate found.operands (choiceOf found) (configOf found), found)
  | "check-schema" =>
      let (found, _) ← Arguments.read (vocabulary [] schemaOptions) false .empty words
      if !found.operands.isEmpty then .error .usage
      return (.checkSchema (choiceOf found), found)
  | "version" =>
      let (found, _) ← Arguments.read (vocabulary ["extended"] []) false .empty words
      if !found.operands.isEmpty then .error .usage
      return (.version (found.flags.contains "extended"), found)
  | "help" => .error .help
  | _ => .error .usage

/-- Reads a command line.  A format given after the task's name counts before one in front
of it. -/
def ofWords (words : List String) : Except Stop Request := do
  match ← Arguments.read leading true .empty words with
  | (_, []) => .error .usage
  | (before, name :: rest) =>
      let (task, after) ← taskOf name rest
      let format := after.values.lookup "format" <|> before.values.lookup "format"
      return ⟨format.bind Format.ofName?, task⟩

end Request
end DocShape.Command
