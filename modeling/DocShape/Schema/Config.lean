namespace DocShape

/-! Choices that schema building and validation leave to their caller. -/

/-- Which failed shapes of a sequence element a report explains. -/
inductive ElementReport where
  /-- The one with the fewest violations, the earliest of several. -/
  | closest
  | all
deriving Repr, DecidableEq

/-- Which of the pattern fields that match a key apply to its value. -/
inductive PatternMatch where
  | first
  | all
deriving Repr, DecidableEq

structure Config where
  elementReport : ElementReport
  patternMatch : PatternMatch
  /-- How deep one schema body may be nested; each fragment counts from its own root. -/
  maxDepth : Nat
  maxFragments : Nat
  maxFileSize : Nat
deriving Repr, DecidableEq

namespace Config

def standard : Config where
  elementReport := .closest
  patternMatch := .first
  maxDepth := 64
  maxFragments := 256
  maxFileSize := 262144

instance : Inhabited Config := ⟨standard⟩

end Config
end DocShape
