import DocShape.Schema

namespace DocShape.Domain

/-! The structural contract of an assistant's domain file.

Sections that the contract does not name are tolerated.  What it says of responses is a
fragment of its own, and a registry that has a fragment of that name replaces it.
-/

def mapping (entries : List (String × Value)) : Value :=
  .map (entries.map fun (name, stored) => (.string name, stored))

def typed (kind : String) (more : List (String × Value)) : Value :=
  mapping (("type", .string kind) :: more)

def required : String × Value := ("required", .bool true)

def optional : String × Value := ("required", .bool false)

def tolerant : String × Value := ("allowempty", .bool true)

def fields (entries : List (String × Value)) : String × Value := ("mapping", mapping entries)

def items (variants : List Value) : String × Value := ("sequence", .seq variants)

def names : Value := typed "seq" [items [typed "str" []]]

/-- A list whose elements are names or tolerant mappings with these fields. -/
def describedNames (entries : List (String × Value)) : Value :=
  typed "seq" [required,
    items [typed "map" [tolerant, fields entries], typed "str" []]]

def form : Value :=
  typed "map" [fields [
    ("required_slots", typed "map" [optional, tolerant]),
    ("ignored_intents", typed "any" [])]]

def sessionConfig : Value :=
  typed "map" [required, tolerant, fields [
    ("session_expiration_time",
      typed "number" [("range", mapping [("min", .int 0)])]),
    ("carry_over_slots_to_new_session", typed "bool" [])]]

def source : Value :=
  mapping [tolerant, fields [
    ("version", typed "str" [optional, ("allowempty", .bool false)]),
    ("intents",
      describedNames [("use_entities", typed "any" []), ("ignore_entities", typed "any" [])]),
    ("entities", describedNames [("roles", names), ("groups", names)]),
    ("actions", typed "seq" [required, items [typed "str" [required]]]),
    ("responses", mapping [("include", .string "responses"), required]),
    ("slots", typed "map" [required, tolerant]),
    ("forms", typed "map" [optional, fields [("regex;[A-Za-z]+", form)]]),
    ("config",
      typed "map" [required, tolerant, fields [("store_entities_as_slots", typed "bool" [])]]),
    ("session_config", sessionConfig)]]

def button : Value :=
  typed "map" [tolerant, fields [("title", typed "str" []), ("payload", typed "str" [])]]

def variation : Value :=
  typed "map" [tolerant, fields [
    ("text", typed "str" []),
    ("image", typed "str" []),
    ("channel", typed "str" []),
    ("custom", typed "map" [tolerant]),
    ("buttons", typed "seq" [items [button]])]]

def responsesName : String := "responses"

/-- The fragment for responses, in which each name has a list of variations. -/
def responsesSource : Value :=
  mapping [(Source.fragmentPath responsesName,
    typed "map" [fields [("regex;(.+)", typed "seq" [items [variation]])]])]

def responsesRegistry (config : Config) : Except SchemaError Registry :=
  ((Registry.withConfig config).registerSource responsesSource).map (·.1)

/-- A registry with the fragment for responses added unless it has one. -/
def link (registry : Registry) : Except SchemaError Registry :=
  if registry.contains responsesName then .ok registry
  else (registry.registerSource responsesSource).map (·.1)

def schemaIn (registry : Registry) : Except SchemaError Schema := do
  Schema.ofSource (← link registry) source

def schema : Except SchemaError Schema := do
  Schema.ofSource (← responsesRegistry .standard) source

def validate (document : Value) : Except SchemaError (List Violation) :=
  schema.map fun contract => contract.validate document

end DocShape.Domain
