import DocShape.Schema.Kind
import DocShape.Schema.Range

namespace DocShape

/-! Faults of schema sources, each with the place where it was found. -/

/-- The texts that explain a source or a pattern which cannot be read at all. -/
structure Wording where
  syntaxFault : String
  patternFault : String

inductive Malformation where
  | emptyFragmentName
  | sourceNotMap
  | fragmentSourceNotMap
  | foreignEntry (key : String)
  | nodeNotMap
  | descNotString
  | includeCombined (keyword : String)
  | includeNotName
  | sameKeyword (name synonym : String)
  | typeNotString
  | mapWithSequence
  | seqWithMapping
  | notValidOn (keyword node : String)
  | notBool (keyword : String)
  | fieldsNotMap
  | fieldNameNotString
  | requiredOnPattern
  | noElementShape
  | sequenceNotList
  | sequenceMissing
  | matchingUnknown
  | scalarWithChildren (kind : Kind)
  | allowEmptyNotStr
  | enumNotList
  | enumWithoutType
  | enumNotScalars
  | patternNotStr
  | patternNotString
deriving Repr, DecidableEq

namespace Malformation

def message : Malformation → String
  | .emptyFragmentName => "fragment name must not be empty"
  | .sourceNotMap => "schema source must be a map"
  | .fragmentSourceNotMap => "fragment source must be a map of `schema;<name>` entries"
  | .foreignEntry key =>
      "fragment sources may only declare `schema;<name>` entries, found `" ++ key ++ "`"
  | .nodeNotMap => "schema node must be a map"
  | .descNotString => "`desc` must be a string"
  | .includeCombined keyword => "`include` cannot be combined with `" ++ keyword ++ "`"
  | .includeNotName => "`include` must name a fragment"
  | .sameKeyword name synonym => "`" ++ name ++ "` and `" ++ synonym ++ "` are the same keyword"
  | .typeNotString => "`type` must be a string"
  | .mapWithSequence => "a map node cannot declare `sequence`"
  | .seqWithMapping => "a seq node cannot declare `mapping`"
  | .notValidOn keyword node => "`" ++ keyword ++ "` is not valid on a " ++ node ++ " node"
  | .notBool keyword => "`" ++ keyword ++ "` must be a bool"
  | .fieldsNotMap => "`mapping` must be a map of fields"
  | .fieldNameNotString => "field names must be strings"
  | .requiredOnPattern => "`required` has no meaning on a regex key"
  | .noElementShape => "`sequence` must declare at least one element shape"
  | .sequenceNotList => "`sequence` must be a list"
  | .sequenceMissing => "type seq requires `sequence`"
  | .matchingUnknown => "`matching` must be `any` or `all`"
  | .scalarWithChildren kind =>
      "type " ++ kind.name ++ " cannot declare `mapping` or `sequence`"
  | .allowEmptyNotStr => "`allowempty: false` only applies to str"
  | .enumNotList => "`enum` must be a non-empty list"
  | .enumWithoutType => "`enum` needs a concrete type"
  | .enumNotScalars => "`enum` values must be scalars"
  | .patternNotStr => "`pattern` only applies to str"
  | .patternNotString => "`pattern` must be a string"

end Malformation

inductive RangeFault where
  | unsupported (kind : Kind)
  | notMap
  | notNumber (key : String)
  | unknownBound (key : String)
  | conflictingBound (key : String)
  | bounds (fault : BoundsFault)
deriving Repr, DecidableEq

namespace RangeFault

def message : RangeFault → String
  | .unsupported kind => "range is not supported for type " ++ kind.name
  | .notMap => "range must be a map of bounds"
  | .notNumber key => "bound `" ++ key ++ "` must be a number"
  | .unknownBound key => "unknown bound `" ++ key ++ "`"
  | .conflictingBound key => "bound `" ++ key ++ "` conflicts with another bound"
  | .bounds fault => fault.message

end RangeFault

inductive LoadFault where
  | unavailable (path reason : String)
  | symlink (name : String)
  | tooManyFiles (max count : Nat)
  | tooLarge (size : Nat) (name : String)
  | unreadable (name reason : String)
deriving Repr, DecidableEq

namespace LoadFault

def message : LoadFault → String
  | .unavailable path reason => path ++ ": " ++ reason
  | .symlink name => "refusing to load fragment symlink: " ++ name
  | .tooManyFiles max count =>
      "fragment file count exceeds configured max (" ++ toString max ++ "): " ++ toString count
  | .tooLarge size name =>
      "schema file too large (" ++ toString size ++ " bytes): " ++ name
  | .unreadable name reason => "failed reading " ++ name ++ ": " ++ reason

end LoadFault

inductive SchemaError where
  | loadFailed (fault : LoadFault)
  | invalidSyntax
  | malformed (path : String) (fault : Malformation)
  | unknownKeyword (path keyword : String)
  | unknownType (path name : String)
  | invalidRange (path : String) (fault : RangeFault)
  | invalidPattern (path pattern : String)
  | unresolvedInclude (name : String)
  | includeCycle (chain : List String)
  | duplicateFragment (name : String)
  | tooDeep (path : String) (max : Nat)
deriving Repr, DecidableEq

namespace SchemaError

/-- What is wrong and where, without the explanation of a fault in the text itself. -/
def summary : SchemaError → String
  | .loadFailed fault => "failed to load schema: " ++ fault.message
  | .invalidSyntax => "schema is not valid YAML"
  | .malformed path fault => "malformed schema at " ++ path ++ ": " ++ fault.message
  | .unknownKeyword path keyword => "unknown schema keyword `" ++ keyword ++ "` at " ++ path
  | .unknownType path name => "unknown type `" ++ name ++ "` at " ++ path
  | .invalidRange path fault => "invalid range at " ++ path ++ ": " ++ fault.message
  | .invalidPattern path pattern => "invalid pattern `" ++ pattern ++ "` at " ++ path
  | .unresolvedInclude name => "unresolved include `" ++ name ++ "`"
  | .includeCycle chain => "include cycle: " ++ " -> ".intercalate chain
  | .duplicateFragment name => "fragment `" ++ name ++ "` is already registered"
  | .tooDeep path max =>
      "schema nesting exceeds max depth " ++ toString max ++ " at " ++ path

def message (wording : Wording) (error : SchemaError) : String :=
  match error with
  | .invalidSyntax => error.summary ++ ": " ++ wording.syntaxFault
  | .invalidPattern .. => error.summary ++ ": " ++ wording.patternFault
  | _ => error.summary

end SchemaError
end DocShape
