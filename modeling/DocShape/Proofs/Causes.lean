import DocShape.Violation

namespace DocShape.Violation

/-! Induction over violations, with the causes as members of their list, the part of a
violation that its causes do not touch, and its causes at any depth. -/

@[elab_as_elim]
theorem induction {motive : Violation → Prop}
    (mk : ∀ path kind expected actual causes, (∀ cause ∈ causes, motive cause) →
      motive (.mk path kind expected actual causes))
    (violation : Violation) : motive violation := by
  refine @Violation.rec motive (fun causes => ∀ cause ∈ causes, motive cause) mk ?_ ?_ violation
  · intro cause member
    cases member
  · intro first rest ofFirst ofRest cause member
    rcases List.mem_cons.mp member with rfl | later
    · exact ofFirst
    · exact ofRest cause later

/-- The violation without its causes. -/
def bare : Violation → Violation
  | .mk path kind expected actual _ => .mk path kind expected actual []

mutual

/-- All causes of a violation, at any depth, each in front of its own. -/
def nested : Violation → List Violation
  | .mk _ _ _ _ causes => nestedAll causes

/-- The violations of a list, each in front of its causes at any depth. -/
def nestedAll : List Violation → List Violation
  | [] => []
  | violation :: rest => violation :: (violation.nested ++ nestedAll rest)

end

/-- A violation and its causes at any depth. -/
def parts (violation : Violation) : List Violation := violation :: violation.nested

theorem nestedAll_eq_flatMap (violations : List Violation) :
    nestedAll violations = violations.flatMap parts := by
  induction violations with
  | nil => rfl
  | cons violation rest inRest =>
      rw [nestedAll, inRest]
      rfl

theorem parts_mk (path : DocPath) (kind : ViolationKind) (expected actual : String)
    (causes : List Violation) :
    parts (.mk path kind expected actual causes) =
      .mk path kind expected actual causes :: causes.flatMap parts := by
  rw [← nestedAll_eq_flatMap]
  rfl

end DocShape.Violation
