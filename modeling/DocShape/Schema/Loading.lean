import DocShape.Schema
import DocShape.Storage
import DocShape.Yaml

namespace DocShape

/-! Schemas and registries from text and from stored files. -/

namespace Source

def ofText (text : String) : Except SchemaError Value :=
  match Yaml.read? text with
  | some found => .ok found
  | none => .error .invalidSyntax

/-- The text of a stored source that is not too large. -/
def textOf (config : Config) (name : String) (stored : Stored) : Except LoadFault String :=
  if stored.size > config.maxFileSize then .error (.tooLarge stored.size name)
  else
    match stored.text with
    | .ok text => .ok text
    | .error fault => .error (.unreadable name fault.message)

def ofStored (config : Config) (name : String) (stored : Stored) : Except SchemaError Value :=
  match textOf config name stored with
  | .ok text => ofText text
  | .error fault => .error (.loadFailed fault)

end Source

namespace Registry

/-- A registry of the fragments of several sources, which may include each other whatever
their order. -/
def ofSources (config : Config) (sources : List (Except SchemaError Value)) :
    Except SchemaError Registry := do
  return (← (withConfig config).absorb (← Source.collect sources)).1

def ofTexts (texts : List String) : Except SchemaError Registry :=
  ofSources .standard (texts.map Source.ofText)

/-- Registers the fragments of a source that is given as text. -/
def registerText (registry : Registry) (text : String) :
    Except SchemaError (Registry × List String) := do
  registry.registerSource (← Source.ofText text)

/-- Registers the fragments of several texts one after the other. -/
def registerTexts (registry : Registry) (texts : List String) : Except SchemaError Registry :=
  texts.foldlM (fun grown text => do return (← grown.registerText text).1) registry

def isFragmentFileName (name : String) : Bool :=
  let lower := String.ofList (name.toList.map Char.toLower)
  lower.endsWith ".yml" || lower.endsWith ".yaml"

/-- An item of a directory that has to be looked at: a file by its content, and a link, which
is never followed, by nothing. -/
def candidate? : String × StoredItem → Option (String × Option ByteArray)
  | (name, .file content) => if isFragmentFileName name then some (name, some content) else none
  | (name, .link _) => if isFragmentFileName name then some (name, none) else none
  | (_, .directory) => none

/-- The source in a candidate that has `before` others in front of it. -/
def sourceIn (config : Config) :
    (String × Option ByteArray) × Nat → Except SchemaError Value
  | ((name, none), _) => .error (.loadFailed (.symlink name))
  | ((name, some content), before) =>
      if before + 1 > config.maxFragments then
        .error (.loadFailed (.tooManyFiles config.maxFragments (before + 1)))
      else Source.ofStored config name (.file content)

/-- The sources among the items of a directory, in the order of their names. -/
def sourcesIn (config : Config) (items : List (String × StoredItem)) :
    List (Except SchemaError Value) :=
  let sorted := items.mergeSort fun left right => decide (left.1 ≤ right.1)
  (sorted.filterMap candidate?).zipIdx.map (sourceIn config)

def ofDirectory (storage : Storage) (config : Config) (path : String) :
    Except SchemaError Registry :=
  match storage.list path with
  | .ok items => ofSources config (sourcesIn config items)
  | .error fault => .error (.loadFailed (.unavailable path fault.message))

end Registry

namespace Schema

def ofText (registry : Registry) (text : String) : Except SchemaError Schema := do
  ofSource registry (← Source.ofText text)

def ofFile (storage : Storage) (registry : Registry) (path : String) :
    Except SchemaError Schema :=
  match storage.find path with
  | .ok stored => do ofSource registry (← Source.ofStored registry.config path stored)
  | .error fault => .error (.loadFailed (.unavailable path fault.message))

def validateOnce (registry : Registry) (text : String) (document : Value) :
    Except SchemaError (List Violation) :=
  (ofText registry text).map fun schema => schema.validate document

end Schema
end DocShape
