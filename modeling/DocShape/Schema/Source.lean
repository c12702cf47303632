import DocShape.Schema.Linking

namespace DocShape

/-! Schema sources: a body and the fragments declared beside it. -/

namespace Source

def fragmentMark : String := "schema;"

def malformed {α : Type} (fault : Malformation) : Except SchemaError α :=
  .error (.malformed "<root>" fault)

def fragmentName? (key : Value) : Option String :=
  key.text?.bind (Definition.afterMark? fragmentMark)

/-- Takes the fragments out of a top-level map; the other entries stay in order. -/
def split : Entries → Except SchemaError (Catalog Value × Entries)
  | entries => entries.foldlM (fun found entry =>
      match fragmentName? entry.1 with
      | none => .ok (found.1, found.2 ++ [entry])
      | some name =>
          if name.isEmpty then malformed .emptyFragmentName
          else if found.1.contains name then .error (.duplicateFragment name)
          else .ok (found.1.insert name entry.2, found.2)) (.empty, [])

def fragmentPath (name : String) : String := fragmentMark ++ name

/-- The scope of a source; its fragments may not share a name with a registered one. -/
def scopeOf (registered : Catalog Node) (limit : Nat) (fragments : Catalog Value) :
    Except SchemaError Scope :=
  match fragments.names.find? registered.contains with
  | some name => .error (.duplicateFragment name)
  | none =>
      .ok ⟨registered, fragments.map fun name body => .read limit (fragmentPath name) 0 body⟩

/-- The fragments of a source that may declare nothing else. -/
def fragmentsOf : Value → Except SchemaError (Catalog Value)
  | .map entries => do
      let (fragments, rest) ← split entries
      match rest with
      | [] => return fragments
      | (key, _) :: _ => malformed (.foreignEntry key.keyText)
  | _ => malformed .fragmentSourceNotMap

def merge (collected fragments : Catalog Value) : Except SchemaError (Catalog Value) :=
  match fragments.names.find? collected.contains with
  | some name => .error (.duplicateFragment name)
  | none => .ok (collected.extend fragments)

/-- The fragments of several sources together, up to the first source that fails. -/
def collect (sources : List (Except SchemaError Value)) : Except SchemaError (Catalog Value) :=
  sources.foldlM (fun collected source => do merge collected (← fragmentsOf (← source))) .empty

end Source
end DocShape
