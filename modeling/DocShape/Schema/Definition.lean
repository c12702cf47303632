import DocShape.Schema.Config
import DocShape.Schema.Error
import DocShape.Schema.Node
import DocShape.Value.Summary

namespace DocShape

/-! Node definitions as a schema source writes them.

Reading never fails: a fault becomes a definition of its own at the place where it was
found, so that an earlier include is looked up before a later fault is reported.
-/

/-- A node before its includes are looked up. -/
inductive Definition where
  | refused (error : SchemaError)
  | included (name : String)
  /-- Each field has its key and whether it is required, known only after the shape of its
  values. -/
  | map (fields : List (Definition × Except SchemaError (FieldKey × Bool))) (allowEmpty : Bool)
  | seq (variants : List Definition) (matching : Matching)
  | scalar (scalar : Scalar)

/-- What the keywords of a definition make of it, apart from the nodes inside it. -/
inductive Heading where
  | included (name : String)
  /-- The fields stand under this keyword. -/
  | map (keyword : String) (allowEmpty : Bool)
  /-- The element shapes stand under this keyword. -/
  | seq (keyword : String) (matching : Matching)
  | scalar (scalar : Scalar)

namespace Heading

def keywords : List String :=
  ["type", "required", "mapping", "map", "sequence", "seq", "matching", "allowempty", "range",
    "enum", "pattern", "include"]

/-- The keyword that a key stands for; a key that is no string stands for none. -/
def keywordOf (key : Value) : String := key.text?.getD ""

def malformed {α : Type} (path : String) (fault : Malformation) : Except SchemaError α :=
  .error (.malformed path fault)

def isKnown (key : Value) : Bool :=
  keywordOf key == "desc" || keywords.contains (keywordOf key)

def checkKeywords (path : String) (entries : Entries) : Except SchemaError Unit :=
  match entries.find? fun entry => !isKnown entry.1 with
  | some (key, _) => .error (.unknownKeyword path key.keyText)
  | none =>
      match entries.get? "desc" with
      | some desc => if desc.text?.isSome then .ok () else malformed path .descNotString
      | none => .ok ()

/-- The value under a keyword or its other spelling, with the spelling used. -/
def either (path name synonym : String) (entries : Entries) :
    Except SchemaError (Option (String × Value)) :=
  match entries.get? name, entries.get? synonym with
  | some _, some _ => malformed path (.sameKeyword name synonym)
  | some found, none => .ok (some (name, found))
  | none, some found => .ok (some (synonym, found))
  | none, none => .ok none

def flag (path name : String) (entries : Entries) : Except SchemaError (Option Bool) :=
  match entries.get? name with
  | none => .ok none
  | some (.bool value) => .ok (some value)
  | some _ => malformed path (.notBool name)

def reject (path node : String) (names : List String) (entries : Entries) :
    Except SchemaError Unit :=
  match names.find? entries.has with
  | some name => malformed path (.notValidOn name node)
  | none => .ok ()

/-- The keywords of an include, which stands alone but for `required` and `desc`. -/
def includeKeywords : List String := ["include", "required", "desc"]

def ofInclude (path : String) (entries : Entries) (target : Value) :
    Except SchemaError Heading :=
  let others := (entries.filterMap fun entry => entry.1.text?).filter fun name =>
    !includeKeywords.contains name
  match others with
  | name :: _ => malformed path (.includeCombined name)
  | [] =>
      match target.text? with
      | some name => .ok (.included name)
      | none => malformed path .includeNotName

def fieldsUnder (path : String) :
    (fields : Option (String × Value)) → Except SchemaError String
  | some (keyword, .map _) => .ok keyword
  | some _ => malformed path .fieldsNotMap
  | none => .ok "mapping"

def ofMap (path : String) (entries : Entries)
    (fields sequence : Option (String × Value)) : Except SchemaError Heading := do
  if sequence.isSome then malformed path .mapWithSequence
  reject path "map" ["matching", "range", "enum", "pattern"] entries
  let allowEmpty := (← flag path "allowempty" entries).getD false
  return .map (← fieldsUnder path fields) allowEmpty

def elementsUnder (path : String) :
    (sequence : Option (String × Value)) → Except SchemaError String
  | some (keyword, .seq (_ :: _)) => .ok keyword
  | some (_, .seq []) => malformed path .noElementShape
  | some _ => malformed path .sequenceNotList
  | none => malformed path .sequenceMissing

def matchingUnder (path : String) (entries : Entries) : Except SchemaError Matching :=
  match (entries.get? "matching").map Value.text? with
  | none | some (some "any") => .ok .any
  | some (some "all") => .ok .all
  | some _ => malformed path .matchingUnknown

def ofSeq (path : String) (entries : Entries)
    (fields sequence : Option (String × Value)) : Except SchemaError Heading := do
  if fields.isSome then malformed path .seqWithMapping
  reject path "seq" ["allowempty", "range", "enum", "pattern"] entries
  let keyword ← elementsUnder path sequence
  return .seq keyword (← matchingUnder path entries)

/-- Adds one entry of a range definition to the bounds found before it. -/
def addBound (path : String) (bounds : Option Bound × Option Bound) (entry : Value × Value) :
    Except SchemaError (Option Bound × Option Bound) :=
  let key := keywordOf entry.1
  let invalid := fun fault : RangeFault => Except.error (.invalidRange path fault)
  match entry.2.number? with
  | none => invalid (.notNumber key)
  | some value =>
      let low := fun exclusive =>
        if bounds.1.isSome then invalid (.conflictingBound key)
        else .ok (some ⟨value, exclusive⟩, bounds.2)
      let high := fun exclusive =>
        if bounds.2.isSome then invalid (.conflictingBound key)
        else .ok (bounds.1, some ⟨value, exclusive⟩)
      match key with
      | "min" => low false
      | "min-ex" => low true
      | "max" => high false
      | "max-ex" => high true
      | _ => invalid (.unknownBound key)

def rangeOf (path : String) : Value → Except SchemaError Range
  | .map entries => do
      let (min, max) ← entries.foldlM (addBound path) (none, none)
      match Range.of? min max with
      | .ok range => return range
      | .error fault => .error (.invalidRange path (.bounds fault))
  | _ => .error (.invalidRange path .notMap)

def isContainer : Value → Bool
  | .map _ | .seq _ => true
  | _ => false

def allowedOf (path : String) (kind : Kind) (choices : Value) :
    Except SchemaError (List Value) :=
  match choices with
  | .seq (first :: rest) =>
      if kind = .any then malformed path .enumWithoutType
      else if (first :: rest).any isContainer then malformed path .enumNotScalars
      else .ok (first :: rest)
  | _ => malformed path .enumNotList

def patternOf (path : String) (source : String) : Except SchemaError Pattern :=
  match Pattern.compile? source with
  | some pattern => .ok pattern
  | none => .error (.invalidPattern path source)

def rangeUnder (path : String) (kind : Kind) (entries : Entries) :
    Except SchemaError (Option Range) :=
  match entries.get? "range" with
  | none => .ok none
  | some bounds =>
      if kind.supportsRange then some <$> rangeOf path bounds
      else .error (.invalidRange path (.unsupported kind))

/-- The allowed values of a scalar; without a declaration there are none to choose from. -/
def allowedUnder (path : String) (kind : Kind) (entries : Entries) :
    Except SchemaError (List Value) :=
  match entries.get? "enum" with
  | none => .ok []
  | some choices => allowedOf path kind choices

def patternUnder (path : String) (kind : Kind) (entries : Entries) :
    Except SchemaError (Option Pattern) :=
  match entries.get? "pattern" with
  | none => .ok none
  | some written =>
      if kind = .str then
        match written.text? with
        | some source => some <$> patternOf path source
        | none => malformed path .patternNotString
      else malformed path .patternNotStr

def ofScalar (path : String) (entries : Entries) (kind : Kind) (hasChildren : Bool) :
    Except SchemaError Heading := do
  if hasChildren then malformed path (.scalarWithChildren kind)
  reject path kind.name ["matching"] entries
  let allowEmpty := (← flag path "allowempty" entries).getD true
  if !allowEmpty && kind != .str then malformed path .allowEmptyNotStr
  let range ← rangeUnder path kind entries
  let allowed ← allowedUnder path kind entries
  let pattern ← patternUnder path kind entries
  return .scalar ⟨kind, range, allowEmpty, allowed, pattern⟩

/-- Reads the keywords of a definition.  Without a type its other keywords tell what it
is, and a definition that tells nothing is a string. -/
def read (path : String) (entries : Entries) : Except SchemaError Heading := do
  checkKeywords path entries
  match entries.get? "include" with
  | some target => ofInclude path entries target
  | none =>
      let fields ← either path "mapping" "map" entries
      let sequence ← either path "sequence" "seq" entries
      match entries.get? "type" with
      | some (.string "map") | some (.string "mapping") => ofMap path entries fields sequence
      | some (.string "seq") | some (.string "sequence") => ofSeq path entries fields sequence
      | some (.string name) =>
          match Kind.ofName? name with
          | some kind => ofScalar path entries kind (fields.isSome || sequence.isSome)
          | none => .error (.unknownType path name)
      | some _ => malformed path .typeNotString
      | none =>
          if fields.isSome then ofMap path entries fields sequence
          else if sequence.isSome then ofSeq path entries fields sequence
          else ofScalar path entries .str false

end Heading

namespace Definition

def patternMark : String := "regex;"

def afterMark? (mark text : String) : Option String :=
  if mark.toList.isPrefixOf text.toList then
    some (String.ofList (text.toList.drop mark.length))
  else none

/-- The key of a field, given its own `required` keyword. -/
def labelOf (path name : String) (required : Option Bool) :
    Except SchemaError (FieldKey × Bool) :=
  let demanded := required == some true
  match afterMark? patternMark name with
  | some source =>
      if demanded then Heading.malformed path .requiredOnPattern
      else (Heading.patternOf path source).map fun pattern => (.pattern pattern, false)
  | none => .ok (.literal name, demanded)

/-- The `required` keyword of a field's node, if that is a map. -/
def requiredOf (path : String) : Value → Except SchemaError (Option Bool)
  | .map entries => Heading.flag path "required" entries
  | _ => .ok none

mutual

/-- Reads a node that lies `depth` steps below the root of its body. -/
def read (limit : Nat) (path : String) (depth : Nat) : Value → Definition
  | .map entries =>
      if limit < depth then .refused (.tooDeep path limit)
      else
        match Heading.read path entries with
        | .error error => .refused error
        | .ok (.included name) => .included name
        | .ok (.map keyword allowEmpty) =>
            .map (readFieldsUnder limit path depth keyword entries) allowEmpty
        | .ok (.seq keyword matching) =>
            .seq (readVariantsUnder limit path depth keyword entries) matching
        | .ok (.scalar leaf) => .scalar leaf
  | _ =>
      if limit < depth then .refused (.tooDeep path limit)
      else .refused (.malformed path .nodeNotMap)

def readFieldsUnder (limit : Nat) (path : String) (depth : Nat) (keyword : String) :
    Entries → List (Definition × Except SchemaError (FieldKey × Bool))
  | [] => []
  | (key, found) :: rest =>
      if key.isPlain keyword then readFieldTable limit path depth found
      else readFieldsUnder limit path depth keyword rest

def readFieldTable (limit : Nat) (path : String) (depth : Nat) :
    Value → List (Definition × Except SchemaError (FieldKey × Bool))
  | .map fields => readFields limit path depth fields
  | _ => []

def readFields (limit : Nat) (path : String) (depth : Nat) :
    Entries → List (Definition × Except SchemaError (FieldKey × Bool))
  | [] => []
  | (key, child) :: rest =>
      (match key.text? with
        | none =>
            (.refused (.malformed path .fieldNameNotString),
              Heading.malformed path .fieldNameNotString)
        | some name =>
            let childPath := path ++ "." ++ name
            match requiredOf childPath child with
            | .error error => (.refused error, .error error)
            | .ok required =>
                (read limit childPath (depth + 1) child, labelOf childPath name required)) ::
        readFields limit path depth rest

def readVariantsUnder (limit : Nat) (path : String) (depth : Nat) (keyword : String) :
    Entries → List Definition
  | [] => []
  | (key, found) :: rest =>
      if key.isPlain keyword then readVariantList limit path depth found
      else readVariantsUnder limit path depth keyword rest

def readVariantList (limit : Nat) (path : String) (depth : Nat) : Value → List Definition
  | .seq variants => readVariants limit path depth 0 variants
  | _ => []

def readVariants (limit : Nat) (path : String) (depth index : Nat) :
    List Value → List Definition
  | [] => []
  | variant :: rest =>
      read limit (path ++ "[" ++ toString index ++ "]") (depth + 1) variant ::
        readVariants limit path depth (index + 1) rest

end

end Definition
end DocShape
