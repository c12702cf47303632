import DocShape.Command
import DocShape.Storage.Tree

namespace DocShape.Main

/-! The program: words of a command line in, text and an exit code out.

The names of the items in a fragment directory are read from standard input, one a line.
-/

open Command

def faultOf : IO.Error → StorageFault
  | .noFileOrDirectory .. => .missing
  | .permissionDenied .. => .denied
  | .inappropriateType _ 21 _ => .isDirectory
  | .inappropriateType .. => .notDirectory
  | other => .other other.toString

def stored (path : String) : IO (Except StorageFault Stored) := do
  match ← (IO.FS.readBinFile path).toBaseIO with
  | .ok content => return .ok (.file content)
  | .error error =>
      match faultOf error with
      | .isDirectory => return .ok .directory
      | fault => return .error fault

partial def lines (stream : IO.FS.Stream) (found : List String) : IO (List String) := do
  let line ← stream.getLine
  if line.isEmpty then return found.reverse
  lines stream ((line.dropEndWhile (· == '\n')).toString :: found)

def item (directory name : String) : IO (Option (String × StoredItem)) := do
  match ← stored (directory ++ "/" ++ name) with
  | .ok (.file content) => return some (name, .file content)
  | .ok .directory => return some (name, .directory)
  | .error _ => return none

def pathsOf : Task → List String
  | .validate files choice _ => files ++ choice.schema.toList ++ choice.fragments.toList
  | .checkSchema choice => choice.schema.toList ++ choice.fragments.toList
  | .version _ => []

def directoryOf : Task → Option String
  | .validate _ choice _ => choice.fragments
  | .checkSchema choice => choice.fragments
  | .version _ => none

def storageFor (task : Task) : IO Storage := do
  let found ← (pathsOf task).mapM fun path => return (path, ← stored path)
  let items ←
    match directoryOf task with
    | some directory => do
        let names ← lines (← IO.getStdin) []
        names.filterMapM (item directory)
    | none => pure []
  let find := fun path => (found.lookup path).getD (.error .missing)
  return {
    find
    list := fun path =>
      match find path with
      | .ok .directory => .ok items
      | .ok (.file _) => .error .notDirectory
      | .error fault => .error fault }

def wording : Wording where
  syntaxFault := "the text is not a well-formed document"
  patternFault := "the pattern is not a regular expression"

def build : Build := ⟨"unknown", "unknown", "unknown", "unknown"⟩

def run (words : List String) : IO UInt32 := do
  let storage ←
    match Request.ofWords words with
    | .ok request => storageFor request.task
    | .error _ => pure FileTree.empty.storage
  let outcome := runWords storage wording build .json words
  (← IO.getStdout).putStr outcome.output
  (← IO.getStderr).putStr outcome.errors
  return UInt32.ofNat outcome.code

end DocShape.Main

def main (words : List String) : IO UInt32 := DocShape.Main.run words
