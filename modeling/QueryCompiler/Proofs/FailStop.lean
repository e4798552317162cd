import QueryCompiler.Proofs.Trace

/-!
# A failure stops the build where it happens

Take a request that passes validation, and the calls `T` that executing it sends to a backend
that refuses nothing. On a backend that refuses some kinds of call, the build goes exactly as
far as the first call of `T` of a refused kind (or as far as an operation's own failure, if no
such call comes first):

1. it sends the calls of `T` up to that one, and reports that call's refusal, or else whatever
   the run reports when nothing is refused;
2. the query replays the calls of `T` before that one;
3. the relations are those of the include stage if that stage was entered and loading is not
   refused, and none otherwise: the include stage records a relation only after loading it,
   and a refused load is the first call of that stage;
4. the request carries the default sort iff the sort stage was entered, and the page and size
   iff the window stage was entered: each stage writes the request before its first call, so
   a refused window still leaves the page and size written.

A stage is entered when every step of the stages before it goes through (`Run.Enters`).
Items 1 and 2 hold of any list of steps (`Run.perform_refusing`). Items 3 and 4 are read off
the stages one at a time: each stage's effect on the request and on the relations does not
depend on where in it the run stops (`Run.perform_sorts`, `Run.perform_includes`,
`Run.perform_window`), and sequencing (`Run.perform_append_fst`) picks the stages entered.

Only the include stage records relations: a caller's operation that loads a relation itself
sends the load, but nothing records it.
-/

namespace QueryCompiler

namespace Step

/-- The relation a step records as loaded, if it records one. -/
def relation? : Step → Option String
  | .relate r => some r
  | .act _ | .setSort _ | .setWindow _ _ => none

end Step

namespace Run

/-- Every step of `pre` goes through on the backend, so a run enters what follows them. -/
def Enters (b : Backend) (pre : List Step) : Prop :=
  ∀ st ∈ pre, st.passes b

instance (b : Backend) (pre : List Step) : Decidable (Enters b pre) :=
  inferInstanceAs (Decidable (∀ st ∈ pre, st.fault b = none))

theorem enters_append (b : Backend) (xs ys : List Step) :
    Enters b (xs ++ ys) ↔ Enters b xs ∧ Enters b ys := by
  simp [Enters, or_imp, forall_and]

/-- A run succeeds exactly when it enters what follows its steps. -/
theorem perform_snd_eq_none_iff (b : Backend) (s : Run) (steps : List Step) :
    (perform b s steps).2 = none ↔ Enters b steps := by
  rcases passes_or_first_fault b steps with hall | ⟨pre, st, post, e, rfl, hpre, hst⟩
  · simpa [perform_of_passes s hall, Enters] using hall
  · rw [perform_of_first_fault s hpre hst]
    simp only [reduceCtorEq, false_iff, Enters]
    intro hall
    have := hall st (by simp)
    simp [Step.passes, hst] at this

/-- Sequencing: a run of two lists of steps runs the second from where the first ended, if the
first succeeded, and otherwise stops where the first stopped. -/
theorem perform_append_eq (b : Backend) (s : Run) (xs ys : List Step) :
    perform b s (xs ++ ys) =
      if (perform b s xs).2 = none then perform b (perform b s xs).1 ys else perform b s xs := by
  cases h : perform b s xs with
  | mk t e =>
    cases e with
    | none => simp [perform_append_ok b s t xs ys h]
    | some e => simp [perform_append_error b s t e xs ys h]

/-- The state a run of two lists of steps reaches: the second list runs only if the first
one's steps all go through. -/
theorem perform_append_fst (b : Backend) (s : Run) (xs ys : List Step) :
    (perform b s (xs ++ ys)).1 =
      if Enters b xs then (perform b (perform b s xs).1 ys).1 else (perform b s xs).1 := by
  rw [perform_append_eq]
  by_cases h : Enters b xs
  · simp [(perform_snd_eq_none_iff b s xs).mpr h, h]
  · simp [mt (perform_snd_eq_none_iff b s xs).mp h, h]

/-- A part of the state that a list of steps leaves as it found it, from any state, is what
the steps before them left. -/
theorem perform_append_frame {X : Type} (view : Run → X) (b : Backend) (s : Run)
    (xs ys : List Step) (h : ∀ t, view (perform b t ys).1 = view t) :
    view (perform b s (xs ++ ys)).1 = view (perform b s xs).1 := by
  rw [perform_append_fst]
  split
  · exact h _
  · rfl

theorem perform_cons_of_passes {b : Backend} {s : Run} {st : Step} (rest : List Step)
    (h : st.passes b) : perform b s (st :: rest) = perform b (s.apply st) rest := by
  simp only [perform, step_of_passes h]

/-- A backend that refuses some kinds of call stops a run at the first call of a refused kind
among the calls it sends when nothing is refused: it sends the calls up to and including that
one, reports its refusal, and its query replays the calls before it. When no such call comes,
the run fails or succeeds as it does when nothing is refused. -/
theorem perform_refusing (b : Backend) (s : Run) (steps : List Step) :
    sent b steps = (sent .accepting steps).take
        ((sent .accepting steps).findIdx (fun c => b.refused.contains c.method) + 1) ∧
      (perform b s steps).2 =
        (if h : (sent .accepting steps).findIdx (fun c => b.refused.contains c.method) <
            (sent .accepting steps).length then
          some (Backend.refusal ((sent .accepting steps)[(sent .accepting steps).findIdx
            (fun c => b.refused.contains c.method)]).method)
         else (perform .accepting s steps).2) ∧
      (perform b s steps).1.query = s.query.replay ((sent .accepting steps).take
        ((sent .accepting steps).findIdx (fun c => b.refused.contains c.method))) := by
  induction steps generalizing s with
  | nil => simp [sent, perform, Select.replay]
  | cons st rest ih =>
    rcases st with ⟨c | e⟩ | ks | ⟨p, z⟩ | rel
    · have hT : sent .accepting (.act (.call c) :: rest) = c :: sent .accepting rest := by
        simp [sent, Step.fault, Step.call?, Backend.accepting]
      rw [hT]
      by_cases hc : c.method ∈ b.refused
      · -- the first call is refused: it is the only call sent
        have hn : (c :: sent .accepting rest).findIdx (fun c => b.refused.contains c.method) = 0 := by
          simp [List.findIdx_cons, hc]
        rw [hn]
        simp [sent, perform, step_eq, Step.fault, Step.call?, hc, Select.replay]
      · -- the first call goes through: the rest runs from the state it leaves
        have hn : (c :: sent .accepting rest).findIdx (fun c => b.refused.contains c.method) =
            (sent .accepting rest).findIdx (fun c => b.refused.contains c.method) + 1 := by
          simp [List.findIdx_cons, hc]
        have hf : (Step.act (.call c)).fault b = none := by simp [Step.fault, hc]
        have hfa : (Step.act (.call c)).fault .accepting = none := by
          simp [Step.fault, Backend.accepting]
        rw [hn]
        obtain ⟨h1, h2, h3⟩ := ih (s.apply (.act (.call c)))
        refine ⟨?_, ?_, ?_⟩
        · simp [sent, Step.fault, Step.call?, hc, h1]
        · simp only [perform, step_eq, hf, hfa, h2, List.length_cons, Nat.add_lt_add_iff_right,
            List.getElem_cons_succ]
        · simp only [perform, step_eq, hf, h3, List.take_succ_cons]
          simp [apply, Select.replay]
    · -- an operation's own failure stops both runs before they send anything
      simp [sent, perform, step_eq, Step.fault, Step.call?, Select.replay]
    all_goals
      -- a write to the request or the relations goes through and sends nothing
      obtain ⟨h1, h2, h3⟩ := ih (s.apply _)
      refine ⟨by simpa [sent, Step.fault, Step.call?] using h1, ?_, ?_⟩
      · simpa only [perform, step_eq, Step.fault, sent, Step.call?, Option.toList_none,
          List.nil_append] using h2
      · simpa only [perform, step_eq, Step.fault, sent, Step.call?, Option.toList_none,
          List.nil_append, apply] using h3

end Run

/-! ## The stages, one at a time -/

namespace Stages

/-- Steps that are all actions of the builder or of operations. -/
def ActsOnly (steps : List Step) : Prop :=
  ∀ st ∈ steps, ∃ x, st = .act x

/-- The filter stage only acts. -/
theorem filters_actsOnly (allow : AllowList FilterRule) (r : Request) :
    ActsOnly (filters allow r) := by
  intro st hst
  simp only [filters, List.mem_flatMap] at hst
  obtain ⟨⟨k, v⟩, -, hst⟩ := hst
  split at hst
  · simp only [List.mem_singleton] at hst
    exact ⟨_, hst⟩
  · obtain ⟨e, -, hst⟩ := List.mem_flatMap.mp hst
    rcases e with c | o <;> dsimp only at hst
    · split at hst
      · simp only [List.mem_singleton] at hst
        exact ⟨_, hst⟩
      · simp at hst
    · split at hst
      · obtain ⟨x, -, rfl⟩ := List.mem_map.mp hst
        exact ⟨x, rfl⟩
      · simp at hst

/-- The free-text stage only acts. -/
theorem search_actsOnly (allow : AllowList FilterRule) (r : Request) :
    ActsOnly (search allow r) := by
  intro st hst
  unfold search at hst
  split at hst
  · simp at hst
  · split at hst
    · simp at hst
    · dsimp only at hst
      split at hst
      · simp at hst
      · simp only [List.mem_singleton] at hst
        exact ⟨_, hst⟩

/-- The sort stage, past its write-back, only acts. -/
theorem sortBody_actsOnly (allow : AllowList SortRule) (keys : List SortKey) :
    ActsOnly (if allow.isEmpty then orderColumns keys
      else sortActions allow keys ++ orderColumns (sharedColumns allow keys)) := by
  have hcols : ∀ ks : List SortKey, ActsOnly (orderColumns ks) := by
    intro ks st hst
    unfold orderColumns at hst
    split at hst
    · simp at hst
    · simp only [List.mem_singleton] at hst
      exact ⟨_, hst⟩
  intro st hst
  split at hst
  · exact hcols _ st hst
  · rcases List.mem_append.mp hst with hst | hst
    · simp only [sortActions, List.mem_flatMap] at hst
      obtain ⟨x, -, e, -, hst⟩ := hst
      rcases e with c | o <;> dsimp only at hst
      · simp at hst
      · split at hst
        · obtain ⟨y, -, rfl⟩ := List.mem_map.mp hst
          exact ⟨y, rfl⟩
        · simp at hst
    · exact hcols _ st hst

/-- Loading a relation, then recording it as loaded. -/
def loadAndRecord (x : String) : List Step := [.act (.call (.eagerLoad x)), .relate x]

/-- The include stage loads and records, one relation after another, the relations it
records. -/
theorem includes_eq (allow : AllowList String) (r : Request) :
    includes allow r = ((includes allow r).filterMap Step.relation?).flatMap loadAndRecord := by
  unfold includes
  generalize r.includes = raws
  induction raws with
  | nil => rfl
  | cons raw rest ih =>
    simp only [List.flatMap_cons, List.filterMap_append, List.flatMap_append]
    rw [← ih]
    congr 1
    split
    · rfl
    · split <;> rfl

/-- Writing back the sort keys in effect only when the request has none and there is a
default leaves the request with the sort keys in effect. -/
theorem sortKeys_of_writeBack (d : Option SortKey) (r : Request) :
    (if r.sort.isEmpty && d.isSome then sortKeys d r else r.sort) = sortKeys d r := by
  unfold sortKeys
  cases d <;> cases r.sort <;> simp
end Stages

namespace Run

/-- Actions leave the request and the relations as they were. -/
theorem perform_acts (b : Backend) (s : Run) {steps : List Step} (h : Stages.ActsOnly steps) :
    (perform b s steps).1.request = s.request ∧ (perform b s steps).1.relations = s.relations := by
  constructor
  · refine perform_frame (·.request) s fun st hst t => ?_
    obtain ⟨x, rfl⟩ := h st hst
    cases x <;> rfl
  · refine perform_frame (·.relations) s fun st hst t => ?_
    obtain ⟨x, rfl⟩ := h st hst
    cases x <;> rfl

/-- Loading and recording relations: on a backend that refuses loads the first load stops the
run and nothing is recorded; otherwise every relation is recorded. -/
theorem perform_loads (b : Backend) (s : Run) (xs : List String) :
    (perform b s (xs.flatMap Stages.loadAndRecord)).1.request = s.request ∧
      (perform b s (xs.flatMap Stages.loadAndRecord)).1.relations =
        (if .eagerLoad ∈ b.refused then s.relations else s.relations ++ xs) := by
  induction xs generalizing s with
  | nil => simp [perform]
  | cons x xs ih =>
    by_cases hl : Method.eagerLoad ∈ b.refused
    · have hf : (Step.act (.call (.eagerLoad x))).fault b = some (Backend.refusal .eagerLoad) := by
        simp [Step.fault, Call.method, hl]
      simp [Stages.loadAndRecord, perform, step_eq, hf, hl]
    · have hf : (Step.act (.call (.eagerLoad x))).fault b = none := by
        simp [Step.fault, Call.method, hl]
      have hr : (Step.relate x).fault b = none := rfl
      obtain ⟨h1, h2⟩ := ih ((s.apply (.act (.call (.eagerLoad x)))).apply (.relate x))
      simp only [List.flatMap_cons, Stages.loadAndRecord, List.cons_append, List.nil_append,
        perform, step_eq, hf, hr]
      exact ⟨by simpa [apply] using h1, by simpa [apply, hl] using h2⟩

/-- The include stage records its relations unless loading is refused. -/
theorem perform_includes (b : Backend) (t : Run) (allow : AllowList String) (r : Request) :
    (perform b t (Stages.includes allow r)).1.request = t.request ∧
      (perform b t (Stages.includes allow r)).1.relations =
        (if .eagerLoad ∈ b.refused then t.relations
          else t.relations ++ (Stages.includes allow r).filterMap Step.relation?) := by
  have h := perform_loads b t ((Stages.includes allow r).filterMap Step.relation?)
  rwa [← Stages.includes_eq] at h

/-- The sort stage writes the sort keys in effect back to a request that has none, before any
call it makes, so whatever its calls do. -/
theorem perform_sorts (b : Backend) (t : Run) (allow : AllowList SortRule)
    (d : Option SortKey) (r : Request) :
    (perform b t (Stages.sorts allow d r)).1.request =
        { t.request with
          sort := if r.sort.isEmpty && d.isSome then Stages.sortKeys d r else t.request.sort } ∧
      (perform b t (Stages.sorts allow d r)).1.relations = t.relations := by
  have hbody := Stages.sortBody_actsOnly allow (Stages.sortKeys d r)
  unfold Stages.sorts
  dsimp only
  split
  · obtain ⟨h1, h2⟩ := perform_acts b (t.apply (.setSort (Stages.sortKeys d r))) hbody
    simp only [List.singleton_append, perform, step_eq, Step.fault]
    exact ⟨by simpa [apply] using h1, by simpa [apply] using h2⟩
  · obtain ⟨h1, h2⟩ := perform_acts b t hbody
    simpa using ⟨h1, h2⟩

/-- The window stage writes the page and size to the request before it sets the offset, so
whether or not setting it is refused. -/
theorem perform_window (b : Backend) (t : Run) (d : Option PageDefaults) (r : Request) :
    (perform b t (Stages.window d r)).1.request =
        (match r.size.or (d.map PageDefaults.size) with
          | none => t.request
          | some z => { t.request with
              page := some ((r.page.or (d.map PageDefaults.page)).getD 1), size := some z }) ∧
      (perform b t (Stages.window d r)).1.relations = t.relations := by
  unfold Stages.window
  cases h : r.size.or (d.map PageDefaults.size) with
  | none => exact ⟨rfl, rfl⟩
  | some z =>
    dsimp only
    -- the window is written before the offset is set, which may be refused
    rw [perform_cons_of_passes _ (show Step.passes b (.setWindow _ z) from rfl)]
    have hset : Stages.ActsOnly [.act (.call (.offsetLimit
        (Stages.offsetOf ((r.page.or (d.map PageDefaults.page)).getD 1) z) z))] := by
      simp [Stages.ActsOnly]
    obtain ⟨h1, h2⟩ := perform_acts b
      (t.apply (.setWindow ((r.page.or (d.map PageDefaults.page)).getD 1) z)) hset
    exact ⟨by simpa [apply] using h1, by simpa [apply] using h2⟩

end Run

/-! ## Executing a request -/

namespace Adapter

/-- The steps before the sort stage: the filter and free-text stages. -/
def beforeSorts (a : Adapter) (r : Request) : List Step :=
  Stages.filters a.filters r ++ Stages.search a.filters r

/-- The steps before the include stage. -/
def beforeIncludes (a : Adapter) (r : Request) : List Step :=
  a.beforeSorts r ++ Stages.sorts a.sorts a.defaultSort r

/-- The steps before the window stage. -/
def beforeWindow (a : Adapter) (r : Request) : List Step :=
  a.beforeIncludes r ++ Stages.includes a.includes r

/-- The relations the include stage loads, in order. -/
def included (a : Adapter) (r : Request) : List String :=
  (Stages.includes a.includes r).filterMap Step.relation?

section Effects

variable (a : Adapter) (r : Request)

theorem steps_eq_beforeWindow : a.steps r = a.beforeWindow r ++ Stages.window a.pagination r :=
  rfl

theorem beforeSorts_actsOnly : Stages.ActsOnly (a.beforeSorts r) := by
  intro st hst
  rcases List.mem_append.mp hst with h | h
  · exact Stages.filters_actsOnly _ r st h
  · exact Stages.search_actsOnly _ r st h

/-- The relations a run records: the include stage's, if the run enters it and loads are not
refused. -/
theorem relations_perform (b : Backend) (s : Run) :
    (Run.perform b s (a.steps r)).1.relations =
      s.relations ++
        if Run.Enters b (a.beforeIncludes r) ∧ .eagerLoad ∉ b.refused then a.included r else [] := by
  have hpre : (Run.perform b s (a.beforeIncludes r)).1.relations = s.relations := by
    unfold beforeIncludes
    rw [Run.perform_append_frame (·.relations) b s _ _ fun t => (Run.perform_sorts b t _ _ r).2]
    exact (Run.perform_acts b s (beforeSorts_actsOnly a r)).2
  rw [steps_eq_beforeWindow,
    Run.perform_append_frame (·.relations) b s _ _ fun t => (Run.perform_window b t _ r).2,
    beforeWindow, Run.perform_append_fst]
  split
  · rw [(Run.perform_includes b _ _ r).2, hpre]
    by_cases hl : Method.eagerLoad ∈ b.refused <;> simp [*, included]
  · simp [*]

/-- The request a run leaves: the sort keys in effect once the sort stage is entered, the page
and size once the window stage is entered. -/
theorem request_perform (b : Backend) (q : Select) :
    (Run.perform b { query := q, request := r } (a.steps r)).1.request =
      { r with
        sort := if Run.Enters b (a.beforeSorts r) then Stages.sortKeys a.defaultSort r else r.sort
        page := if Run.Enters b (a.beforeWindow r) ∧
            (r.size.or (a.pagination.map PageDefaults.size)).isSome then
          some ((r.page.or (a.pagination.map PageDefaults.page)).getD 1) else r.page
        size := if Run.Enters b (a.beforeWindow r) then
          r.size.or (a.pagination.map PageDefaults.size) else r.size } := by
  have h1 : (Run.perform b { query := q, request := r } (a.beforeSorts r)).1.request = r :=
    (Run.perform_acts b _ (beforeSorts_actsOnly a r)).1
  have h2 : (Run.perform b { query := q, request := r } (a.beforeWindow r)).1.request =
      { r with sort := if Run.Enters b (a.beforeSorts r) then
        Stages.sortKeys a.defaultSort r else r.sort } := by
    rw [beforeWindow,
      Run.perform_append_frame (·.request) b _ _ _ fun t => (Run.perform_includes b t _ r).1,
      beforeIncludes, Run.perform_append_fst]
    split
    · rw [(Run.perform_sorts b _ _ _ r).1, h1, Stages.sortKeys_of_writeBack]
    · simp [*]
  rw [steps_eq_beforeWindow, Run.perform_append_fst]
  split
  · next hw =>
    have hs : Run.Enters b (a.beforeSorts r) :=
      ((Run.enters_append b _ _).mp ((Run.enters_append b _ _).mp hw).1).1
    rw [(Run.perform_window b _ _ r).1, h2]
    cases hz : r.size.or (a.pagination.map PageDefaults.size) with
    | none =>
      have hr : r.size = none := (Option.or_eq_none_iff.mp hz).1
      simp [hs, hw, hr]
    | some z => simp [hs, hw]
  · next hw =>
    rw [h2]
    simp [hw]

end Effects

/-- Executing a request that passes validation on a backend that refuses some kinds of call:
the calls sent, the failure, the query, the relations and the request are those of the run on
a backend that refuses nothing, cut at its first call of a refused kind. -/
theorem execute_stops_at_first_refusal (b : Backend) (a : Adapter) (q : Select) (r : Request)
    (hv : a.validate r = .ok ()) :
    let T := a.sent .accepting r
    let n := T.findIdx fun c => b.refused.contains c.method
    a.sent b r = T.take (n + 1) ∧
      (a.execute b q r).2 =
        (if h : n < T.length then some (Backend.refusal T[n].method)
          else (a.execute .accepting q r).2) ∧
      (a.execute b q r).1.query = q.replay (T.take n) ∧
      (a.execute b q r).1.relations =
        (if Run.Enters b (a.beforeIncludes r) ∧ .eagerLoad ∉ b.refused then a.included r
          else []) ∧
      (a.execute b q r).1.request =
        { r with
          sort := if Run.Enters b (a.beforeSorts r) then Stages.sortKeys a.defaultSort r
            else r.sort
          page := if Run.Enters b (a.beforeWindow r) ∧
              (r.size.or (a.pagination.map PageDefaults.size)).isSome then
            some ((r.page.or (a.pagination.map PageDefaults.page)).getD 1) else r.page
          size := if Run.Enters b (a.beforeWindow r) then
            r.size.or (a.pagination.map PageDefaults.size) else r.size } := by
  have hx : ∀ b', a.execute b' q r = Run.perform b' { query := q, request := r } (a.steps r) := by
    intro b'
    simp [execute, hv]
  have hs : ∀ b', a.sent b' r = Run.sent b' (a.steps r) := by
    intro b'
    simp [sent, hv]
  obtain ⟨h1, h2, h3⟩ := Run.perform_refusing b { query := q, request := r } (a.steps r)
  dsimp only
  simp only [hx, hs]
  exact ⟨h1, h2, h3, by simpa using relations_perform a r b { query := q, request := r },
    request_perform a r b q⟩

/-- Filtering by name and ordering by id, on a backend that refuses every ordering: the
predicate is sent, then the refused ordering, and the build stops there. -/
theorem execute_stops_at_refused_ordering :
    ({} : Adapter).validate
        { filters := (∅ : NameMap Scalar).insert "name" (.str "bob"), sort := [⟨"id", true⟩] } =
      .ok () ∧
      ({} : Adapter).sent ⟨[.orderBy]⟩
          { filters := (∅ : NameMap Scalar).insert "name" (.str "bob"), sort := [⟨"id", true⟩] } =
        [.addPredicate (.contains "name" (.str "bob")), .orderBy (.columns [⟨"id", true⟩])] ∧
      (({} : Adapter).execute ⟨[.orderBy]⟩ { table := "records" }
          { filters := (∅ : NameMap Scalar).insert "name" (.str "bob"), sort := [⟨"id", true⟩] }).2 =
        some (Backend.refusal .orderBy) := by
  obtain ⟨h1, h2, -⟩ := execute_stops_at_first_refusal ⟨[.orderBy]⟩ {} { table := "records" }
    { filters := (∅ : NameMap Scalar).insert "name" (.str "bob"), sort := [⟨"id", true⟩] } rfl
  refine ⟨rfl, ?_, ?_⟩
  · rw [h1]
    decide
  · rw [h2]
    decide

/-- A filter operation of the caller's that loads a relation itself: the load goes through,
but only the include stage records the relations it loads. -/
theorem filter_load_is_not_recorded :
    (Adapter.execute .accepting
        { filters := .new [.op (.custom ["with"] fun _ => [.call (.eagerLoad "wallet")])] }
        { table := "records" } { filters := (∅ : NameMap Scalar).insert "with" (.str "wallet") }).2 =
      none ∧
      Call.eagerLoad "wallet" ∈ Adapter.sent .accepting
        { filters := .new [.op (.custom ["with"] fun _ => [.call (.eagerLoad "wallet")])] }
        { filters := (∅ : NameMap Scalar).insert "with" (.str "wallet") } ∧
      (Adapter.execute .accepting
        { filters := .new [.op (.custom ["with"] fun _ => [.call (.eagerLoad "wallet")])] }
        { table := "records" } { filters := (∅ : NameMap Scalar).insert "with" (.str "wallet") }).1.relations =
      [] := by
  refine ⟨rfl, ?_, rfl⟩
  decide

end Adapter

end QueryCompiler
