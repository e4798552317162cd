import QueryCompiler.Plan.Rule

/-!
# Running a plan

A plan is a list of steps: the actions of the stages (builder calls and failures), and the
writes a stage makes to the request (the default sort, the effective page and size) and to the
list of loaded relations. The steps are taken in order against a backend until one fails; what
was done before the failure stays done, so the state reached is the state after the longest
prefix of steps that succeeded (`perform_append_ok`).
-/

namespace QueryCompiler

/-- One step of a plan. -/
inductive Step where
  /-- A builder call or an operation's failure. -/
  | act (a : Action)
  /-- Write the sort keys in effect back into the request. -/
  | setSort (keys : List SortKey)
  /-- Write the page and size in effect back into the request. -/
  | setWindow (page size : Int)
  /-- Record a relation as loaded. -/
  | relate (relation : String)
  deriving DecidableEq, Repr

/-- The state of a plan while it runs. -/
structure Run where
  /-- The query built so far. -/
  query : Select
  /-- The request, with the defaults written back so far. -/
  request : Request
  /-- The relations loaded so far. -/
  relations : List String := []

namespace Run

/-- Take one step: the new state, or the failure. -/
def step (b : Backend) (s : Run) : Step → Except PlanError Run
  | .act (.call c) => (b.send s.query c).map fun q => { s with query := q }
  | .act (.fail e) => .error e
  | .setSort ks => .ok { s with request := { s.request with sort := ks } }
  | .setWindow p z => .ok { s with request := { s.request with page := some p, size := some z } }
  | .relate r => .ok { s with relations := s.relations ++ [r] }

/-- Take the steps in order until one fails: the state reached, and the failure if any. -/
def perform (b : Backend) : Run → List Step → Run × Option PlanError
  | s, [] => (s, none)
  | s, st :: rest =>
    match s.step b st with
    | .ok s' => perform b s' rest
    | .error e => (s, some e)

/-- Steps that all succeed hand their final state on to the steps after them. -/
theorem perform_append_ok (b : Backend) (s s' : Run) (xs ys : List Step)
    (h : perform b s xs = (s', none)) : perform b s (xs ++ ys) = perform b s' ys := by
  induction xs generalizing s with
  | nil => simp [perform] at h; subst h; rfl
  | cons x xs ih =>
    simp only [perform, List.cons_append] at h ⊢
    split at h
    · rename_i s₁ _
      exact ih s₁ h
    · simp at h

/-- A failure stops the run: the steps after it are not taken. -/
theorem perform_append_error (b : Backend) (s s' : Run) (e : PlanError) (xs ys : List Step)
    (h : perform b s xs = (s', some e)) : perform b s (xs ++ ys) = (s', some e) := by
  induction xs generalizing s with
  | nil => simp [perform] at h
  | cons x xs ih =>
    simp only [perform, List.cons_append] at h ⊢
    split at h
    · rename_i s₁ _
      exact ih s₁ h
    · exact h

end Run

end QueryCompiler
