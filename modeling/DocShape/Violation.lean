import DocShape.Path
import DocShape.Text.Json

namespace DocShape

/-! Findings: where a document differs from its schema, and how. -/

inductive ViolationKind where
  | typeMismatch
  | missingField
  | unexpectedField
  | rangeViolation
  | elementMismatch
  | emptyValue
  | enumMismatch
  | patternMismatch
deriving Repr, DecidableEq

namespace ViolationKind

def phrase : ViolationKind → String
  | .typeMismatch => "type mismatch"
  | .missingField => "missing field"
  | .unexpectedField => "unexpected field"
  | .rangeViolation => "out of range"
  | .elementMismatch => "no matching element shape"
  | .emptyValue => "empty value"
  | .enumMismatch => "value not allowed"
  | .patternMismatch => "pattern mismatch"

def name : ViolationKind → String
  | .typeMismatch => "type_mismatch"
  | .missingField => "missing_field"
  | .unexpectedField => "unexpected_field"
  | .rangeViolation => "range_violation"
  | .elementMismatch => "element_mismatch"
  | .emptyValue => "empty_value"
  | .enumMismatch => "enum_mismatch"
  | .patternMismatch => "pattern_mismatch"

def all : List ViolationKind :=
  [.typeMismatch, .missingField, .unexpectedField, .rangeViolation, .elementMismatch,
    .emptyValue, .enumMismatch, .patternMismatch]

def ofName? (name : String) : Option ViolationKind :=
  all.find? fun kind => kind.name == name

end ViolationKind

/-- One difference between a document and its schema.  The causes tell why the reported
shapes of a sequence element failed. -/
inductive Violation where
  | mk (path : DocPath) (kind : ViolationKind) (expected actual : String)
      (causes : List Violation)
deriving Repr

namespace Violation

def path : Violation → DocPath
  | .mk path _ _ _ _ => path

def kind : Violation → ViolationKind
  | .mk _ kind _ _ _ => kind

def expected : Violation → String
  | .mk _ _ expected _ _ => expected

def actual : Violation → String
  | .mk _ _ _ actual _ => actual

def causes : Violation → List Violation
  | .mk _ _ _ _ causes => causes

def headline (path : DocPath) (kind : ViolationKind) (expected actual : String) : String :=
  path.text ++ ": " ++ kind.phrase ++ ": expected " ++ expected ++ ", found " ++ actual

mutual

/-- A line for the violation, then one for each cause; every cause is set off by the same
mark, however deep it lies. -/
def text : Violation → String
  | .mk path kind expected actual causes =>
      headline path kind expected actual ++ causesText causes

def causesText : List Violation → String
  | [] => ""
  | cause :: rest => "\n  - " ++ cause.text ++ causesText rest

end

def leadingFields (path : DocPath) (kind : ViolationKind) (expected actual : String) :
    List (String × String) :=
  [("path", Text.jsonString path.text), ("kind", Text.jsonString kind.name),
    ("expected", Text.jsonString expected), ("actual", Text.jsonString actual)]

mutual

/-- The violation as JSON; a violation without causes does not mention them. -/
def json : Violation → String
  | .mk path kind expected actual causes =>
      Text.jsonObject (leadingFields path kind expected actual ++
        match causesJson causes with
        | [] => []
        | written => [("causes", Text.jsonArray written)])

def causesJson : List Violation → List String
  | [] => []
  | cause :: rest => cause.json :: causesJson rest

end

theorem causesJson_eq_map (causes : List Violation) : causesJson causes = causes.map json := by
  induction causes with
  | nil => rfl
  | cons cause rest inRest => simp only [causesJson, List.map_cons, inRest]

end Violation
end DocShape
