import DocShape.Storage
import DocShape.Text.Table
import DocShape.Violation

namespace DocShape

/-! Reports on the documents of one run. -/

inductive DocumentFault where
  | unreadable (fault : StorageFault)
  | malformed (explanation : String)
deriving Repr, DecidableEq

namespace DocumentFault

def message : DocumentFault → String
  | .unreadable fault => fault.message
  | .malformed explanation => explanation

end DocumentFault

structure Report where
  file : String
  findings : Except DocumentFault (List Violation)

namespace Report

def isValid (report : Report) : Bool :=
  match report.findings with
  | .ok found => found.isEmpty
  | .error _ => false

def violations (report : Report) : List Violation :=
  match report.findings with
  | .ok found => found
  | .error _ => []

def faultText (report : Report) (fault : DocumentFault) : String :=
  report.file ++ ": " ++ fault.message

def json (report : Report) : String :=
  let fields := [("file", Text.jsonString report.file), ("valid", Text.jsonBool report.isValid),
    ("violations", Text.jsonArray (report.violations.map Violation.json))]
  let errors :=
    match report.findings with
    | .ok _ => []
    | .error fault => [("error", Text.jsonString (report.faultText fault))]
  Text.jsonObject (fields ++ errors)

def jsonOfAll (reports : List Report) : String :=
  Text.jsonObject [("valid", Text.jsonBool (reports.all isValid)),
    ("documents", Text.jsonArray (reports.map json))]

/-- Text with every line after the first set off by blanks, too. -/
def indented (text : String) : String :=
  "  " ++ String.ofList (text.toList.flatMap fun character =>
    if character = '\n' then "\n  ".toList else [character])

def lines (report : Report) : List String :=
  match report.findings with
  | .error fault => [report.file ++ ": unreadable: " ++ report.faultText fault]
  | .ok [] => [report.file ++ ": ok"]
  | .ok found =>
      (report.file ++ ": " ++ toString found.length ++ " violation(s)") ::
        found.map fun violation => indented violation.text

def header : List String := ["FILE", "PATH", "PROBLEM", "EXPECTED", "FOUND"]

def row (file path problem expected actual : String) : List String :=
  [file, path, problem, expected, actual]

mutual

/-- A row for a violation and one for each cause, farther to the right the deeper it lies. -/
def violationRows (file margin : String) : Violation → List (List String)
  | .mk path kind expected actual causes =>
      row file (margin ++ path.text) kind.phrase expected actual ::
        causeRows file (margin ++ "  ") causes

def causeRows (file margin : String) : List Violation → List (List String)
  | [] => []
  | cause :: rest => violationRows file margin cause ++ causeRows file margin rest

end

def rows (report : Report) : List (List String) :=
  match report.findings with
  | .error fault => [row report.file "" "unreadable" "" (report.faultText fault)]
  | .ok [] => [row report.file "" "valid" "" ""]
  | .ok found => causeRows report.file "" found

def tableOfAll (reports : List Report) : String :=
  Text.Table.text header (reports.flatMap rows)

end Report
end DocShape
