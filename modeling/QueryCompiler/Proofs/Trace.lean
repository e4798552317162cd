import QueryCompiler.Plan.Session

/-!
# Runs that stop at their first failure

Whether a step fails does not depend on the state it is taken in: a builder call fails exactly
when the backend refuses its kind, and an operation's own failure always fails
(`Step.fault`). A step that goes through changes the state in a way that does not depend on
the backend either (`Run.apply`). So a run is decided by its steps alone:

* if every step goes through, the run applies them all (`perform_of_passes`);
* otherwise it applies the steps before the first failing one and reports that step's failure
  (`perform_of_first_fault`); every list of steps is one case or the other
  (`passes_or_first_fault`).

The calls a run sends to its backend are the calls of the steps it applies, then the refused
call if a refused call stopped it (`Run.sent`). Executing a request sends nothing when
validation turns the request away (`Adapter.sent`).

A part of the state that no step of a list writes is the same after the run (`perform_frame`);
the query after applying steps replays their calls (`query_foldl_apply`).
-/

namespace QueryCompiler

/-- A list has one first element that fails a test: two splits of it at a first failing
element are the same split. -/
theorem first_split_unique {β : Type} {p : β → Prop} {pre pre' post post' : List β} {x x' : β}
    (h : pre ++ x :: post = pre' ++ x' :: post') (hpre : ∀ y ∈ pre, p y) (hx : ¬p x)
    (hpre' : ∀ y ∈ pre', p y) (hx' : ¬p x') : pre = pre' ∧ x = x' ∧ post = post' := by
  induction pre generalizing pre' with
  | nil =>
    cases pre' with
    | nil => simpa using h
    | cons y ys =>
      obtain ⟨rfl, -⟩ := List.cons.inj h
      exact absurd (hpre' x (List.mem_cons_self ..)) hx
  | cons y ys ih =>
    cases pre' with
    | nil =>
      obtain ⟨rfl, -⟩ := List.cons.inj h
      exact absurd (hpre y (List.mem_cons_self ..)) hx'
    | cons y' ys' =>
      obtain ⟨rfl, htail⟩ := List.cons.inj h
      obtain ⟨rfl, rfl, rfl⟩ := ih htail (fun z hz => hpre z (List.mem_cons_of_mem _ hz))
        (fun z hz => hpre' z (List.mem_cons_of_mem _ hz))
      exact ⟨rfl, rfl, rfl⟩

namespace Step

/-- The failure a step meets on a backend, in whatever state it is taken. -/
def fault (b : Backend) : Step → Option PlanError
  | .act (.call c) => if b.refused.contains c.method then some (Backend.refusal c.method) else none
  | .act (.fail e) => some e
  | .setSort _ | .setWindow _ _ | .relate _ => none

/-- Whether a step goes through on a backend. -/
def passes (b : Backend) (st : Step) : Prop := st.fault b = none

/-- The builder call a step makes, if it makes one. -/
def call? : Step → Option Call
  | .act (.call c) => some c
  | .act (.fail _) | .setSort _ | .setWindow _ _ | .relate _ => none

end Step

namespace Run

/-- What a step that goes through does to the state. -/
def apply (s : Run) : Step → Run
  | .act (.call c) => { s with query := s.query.record c }
  | .act (.fail _) => s
  | .setSort ks => { s with request := { s.request with sort := ks } }
  | .setWindow p z => { s with request := { s.request with page := some p, size := some z } }
  | .relate r => { s with relations := s.relations ++ [r] }

/-- One step fails with its fault, or else applies. -/
theorem step_eq (b : Backend) (s : Run) (st : Step) :
    s.step b st = match st.fault b with
      | some e => .error e
      | none => .ok (s.apply st) := by
  rcases st with ⟨c | e⟩ | ks | ⟨p, z⟩ | r
  · by_cases h : c.method ∈ b.refused
    · simp [step, Step.fault, Backend.send, h, Except.map]
    · simp [step, Step.fault, Backend.send, h, Except.map, apply]
  all_goals rfl

/-- A step that goes through on the backend applies. -/
theorem step_of_passes {b : Backend} {s : Run} {st : Step} (h : st.passes b) :
    s.step b st = .ok (s.apply st) := by
  rw [step_eq, show st.fault b = none from h]

/-- A run whose steps all go through applies them all. -/
theorem perform_of_passes {b : Backend} (s : Run) {steps : List Step}
    (h : ∀ st ∈ steps, st.passes b) : perform b s steps = (steps.foldl apply s, none) := by
  induction steps generalizing s with
  | nil => rfl
  | cons st rest ih =>
    have hst : st.passes b := h st (List.mem_cons_self ..)
    simp only [perform, step_of_passes hst, List.foldl_cons]
    exact ih _ fun x hx => h x (List.mem_cons_of_mem _ hx)

/-- A run stops at its first failing step: it applies the steps before it and reports that
step's failure. -/
theorem perform_of_first_fault {b : Backend} (s : Run) {pre post : List Step} {st : Step}
    {e : PlanError} (hpre : ∀ x ∈ pre, x.passes b) (hst : st.fault b = some e) :
    perform b s (pre ++ st :: post) = (pre.foldl apply s, some e) := by
  rw [perform_append_ok b s _ pre _ (perform_of_passes s hpre)]
  simp [perform, step_eq, hst]

/-- Either every step goes through, or some step is the first to fail. -/
theorem passes_or_first_fault (b : Backend) (steps : List Step) :
    (∀ st ∈ steps, st.passes b) ∨
      ∃ pre st post e, steps = pre ++ st :: post ∧ (∀ x ∈ pre, x.passes b) ∧
        st.fault b = some e := by
  induction steps with
  | nil => simp
  | cons st rest ih =>
    cases h : st.fault b with
    | some e => exact .inr ⟨[], st, rest, e, rfl, by simp, h⟩
    | none =>
      rcases ih with hall | ⟨pre, x, post, e, rfl, hpre, hx⟩
      · left
        intro y hy
        rcases List.mem_cons.mp hy with rfl | hy
        · exact h
        · exact hall y hy
      · right
        refine ⟨st :: pre, x, post, e, rfl, ?_, hx⟩
        intro y hy
        rcases List.mem_cons.mp hy with rfl | hy
        · exact h
        · exact hpre y hy

/-- A part of the state that no step of the list writes is the same after the run, whether
or not it fails. -/
theorem perform_frame {X : Type} (view : Run → X) {b : Backend} (s : Run) {steps : List Step}
    (h : ∀ st ∈ steps, ∀ t : Run, view (t.apply st) = view t) :
    view (perform b s steps).1 = view s := by
  induction steps generalizing s with
  | nil => rfl
  | cons st rest ih =>
    have hrest : ∀ x ∈ rest, ∀ t : Run, view (t.apply x) = view t :=
      fun x hx => h x (List.mem_cons_of_mem _ hx)
    simp only [perform, step_eq]
    cases st.fault b with
    | some e => rfl
    | none => rw [ih _ hrest, h st (List.mem_cons_self ..)]

/-- The query after applying steps replays their calls. -/
theorem query_foldl_apply (s : Run) (steps : List Step) :
    (steps.foldl apply s).query = s.query.replay (steps.filterMap Step.call?) := by
  induction steps generalizing s with
  | nil => rfl
  | cons st rest ih =>
    rcases st with ⟨c | e⟩ | ks | ⟨p, z⟩ | r <;>
      simp [ih, apply, Step.call?, Select.replay, List.filterMap_cons]

/-- The calls a run sends to its backend: the call of each step it takes, until a step fails; a
refused call is sent too. -/
def sent (b : Backend) : List Step → List Call
  | [] => []
  | st :: rest =>
    match st.fault b with
    | some _ => st.call?.toList
    | none => st.call?.toList ++ sent b rest

/-- A run whose steps all go through sends all their calls. -/
theorem sent_of_passes {b : Backend} {steps : List Step} (h : ∀ st ∈ steps, st.passes b) :
    sent b steps = steps.filterMap Step.call? := by
  induction steps with
  | nil => rfl
  | cons st rest ih =>
    have hst : st.fault b = none := h st (List.mem_cons_self ..)
    have hrest := ih fun x hx => h x (List.mem_cons_of_mem _ hx)
    simp only [sent, hst, hrest, List.filterMap_cons]
    cases st.call? <;> rfl

end Run

namespace Adapter

/-- The calls executing a request sends to the backend: none when validation turns the request
away. -/
def sent (b : Backend) (a : Adapter) (r : Request) : List Call :=
  match a.validate r with
  | .error _ => []
  | .ok () => Run.sent b (a.steps r)

end Adapter

end QueryCompiler
