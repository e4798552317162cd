import QueryCompiler.Proofs.Trace

/-!
# Calls on one session

A session serves request after request. What a caller sees of one call is its `Outcome`: the
builder calls it sent, the state it reached (the query, the request with what it wrote back,
the relations it loaded), its failure if any, and the relations the session reports right
after it.

None of that reads the relations an earlier call left, since each execution replaces them
(`Session.Command.outcome_perform`). The one thing a call leaves to the next is the pagination
defaults: a paginated execution on an adapter without defaults sets the standard ones for good
(`Session.Command.adapter_perform`). So every call reports what it reports alone on a fresh
session of the adapter, with the standard defaults set once an earlier call paginated
(`Session.performAll_eq_alone`). A later plain execution then gets a window it would not get
alone (`Session.paginate_windows_later_executions`).
-/

namespace QueryCompiler

namespace Adapter

@[simp]
theorem paginating_paginating (a : Adapter) : a.paginating.paginating = a.paginating := by
  unfold paginating
  cases hp : a.pagination <;> simp [hp]

theorem paginating_of_isSome {a : Adapter} (h : a.pagination.isSome) : a.paginating = a := by
  unfold paginating
  cases hp : a.pagination with
  | none => simp [hp] at h
  | some _ => rfl

end Adapter

namespace Session

/-- A call made on a session: a plain or a paginated execution. -/
inductive Command where
  | execute (b : Backend) (q : Select) (r : Request)
  | paginate (b : Backend) (q : Select) (r : Request)

/-- What a caller sees of one call. -/
structure Outcome where
  /-- The builder calls sent, a refused one included. -/
  sent : List Call
  /-- The state reached: the query, the request with its write-backs, the relations loaded. -/
  run : Run
  /-- The failure, if any. -/
  error : Option PlanError
  /-- The relations the session reports right after the call. -/
  relations : List String

namespace Command

/-- Whether the call paginates. -/
def paginates : Command → Bool
  | .execute .. => false
  | .paginate .. => true

/-- Make the call on a session: the session after it, and what the call reports. -/
def perform (s : Session) : Command → Session × Outcome
  | .execute b q r =>
    let o := s.execute b q r
    (o.1, ⟨s.adapter.sent b r, o.2.1, o.2.2, o.1.relations⟩)
  | .paginate b q r =>
    let o := s.paginate b q r
    (o.1, ⟨s.adapter.paginating.sent b r, o.2.1, o.2.2, o.1.relations⟩)

/-- The adapter a call leaves behind: a paginated call keeps the defaults it used. -/
theorem adapter_perform (s : Session) (c : Command) :
    (c.perform s).1.adapter = if c.paginates then s.adapter.paginating else s.adapter := by
  cases c <;> rfl

/-- What a call reports depends on the session's adapter alone, not on the relations an earlier
call left. -/
theorem outcome_perform (s : Session) (c : Command) :
    (c.perform s).2 = (c.perform { adapter := s.adapter }).2 := by
  cases c <;> rfl

/-- A paginated call reports the same whether or not the adapter already paginates. -/
theorem outcome_perform_paginating (a : Adapter) (c : Command) (hc : c.paginates = true) :
    (c.perform { adapter := a.paginating }).2 = (c.perform { adapter := a }).2 := by
  cases c with
  | execute => simp [paginates] at hc
  | paginate b q r => simp [perform, Session.paginate]

end Command

/-- Make the calls one after another on one session, collecting what each reports. -/
def performAll : Session → List Command → List Outcome
  | _, [] => []
  | s, c :: cs => (c.perform s).2 :: performAll (c.perform s).1 cs

/-- The adapter after some calls: with the standard pagination defaults set once one of them
paginated and the adapter had none. -/
def adapterAfter (a : Adapter) (cs : List Command) : Adapter :=
  if cs.any Command.paginates then a.paginating else a

@[simp]
theorem adapterAfter_nil (a : Adapter) : adapterAfter a [] = a := rfl

theorem adapterAfter_cons (a : Adapter) (c : Command) (cs : List Command) :
    adapterAfter a (c :: cs) = adapterAfter (adapterAfter a [c]) cs := by
  unfold adapterAfter
  rw [List.any_cons, List.any_cons, List.any_nil, Bool.or_false]
  cases c.paginates <;> cases cs.any Command.paginates <;> simp

theorem adapter_perform_eq_adapterAfter (s : Session) (c : Command) :
    (c.perform s).1.adapter = adapterAfter s.adapter [c] := by
  rw [Command.adapter_perform]
  simp [adapterAfter]

/-- What a call reports after others is what it reports alone on the adapter itself when the
adapter has pagination defaults, when the call paginates, or when no earlier call paginated. -/
theorem outcome_adapterAfter (a : Adapter) (xs : List Command) (c : Command)
    (h : a.pagination.isSome ∨ c.paginates ∨ xs.any Command.paginates = false) :
    (c.perform { adapter := adapterAfter a xs }).2 = (c.perform { adapter := a }).2 := by
  unfold adapterAfter
  rcases h with hp | hc | hx
  · rw [Adapter.paginating_of_isSome hp, ite_self]
  · split
    · exact Command.outcome_perform_paginating a c hc
    · rfl
  · rw [hx, if_neg Bool.false_ne_true]

/-- The calls on one session, one after another: the call at each position reports what it
reports alone on a fresh session of the adapter reached by the calls before it. -/
theorem performAll_eq_mapIdx (s : Session) (cs : List Command) :
    performAll s cs =
      cs.mapIdx fun i c => (c.perform { adapter := adapterAfter s.adapter (cs.take i) }).2 := by
  -- induction on the calls, the session generalized: the tail runs on the session the head left
  induction cs generalizing s with
  | nil => rfl
  | cons c cs ih =>
    have htail : ∀ i, adapterAfter (c.perform s).1.adapter (cs.take i) =
        adapterAfter s.adapter ((c :: cs).take (i + 1)) := by
      intro i
      rw [adapter_perform_eq_adapterAfter, List.take_succ_cons, ← adapterAfter_cons]
    rw [performAll, ih, List.mapIdx_cons, Command.outcome_perform]
    simp only [htail, List.take_zero, adapterAfter_nil]

/-- Calls on one session influence each other only through the pagination defaults. Each call
reports (builder calls, state reached, failure, relations read right after) what it reports
alone on a fresh session of the adapter, with the standard pagination defaults set once an
earlier call paginated. That is what it reports alone on the adapter itself when the adapter
has pagination defaults of its own, when the call paginates, or when no earlier call
paginated. -/
theorem performAll_eq_alone (a : Adapter) (cs : List Command) :
    performAll { adapter := a } cs =
        cs.mapIdx (fun i c => (c.perform { adapter := adapterAfter a (cs.take i) }).2) ∧
      ∀ i c, cs[i]? = some c →
        (a.pagination.isSome ∨ c.paginates ∨ (cs.take i).any Command.paginates = false) →
        (performAll { adapter := a } cs)[i]? = some (c.perform { adapter := a }).2 := by
  refine ⟨performAll_eq_mapIdx _ cs, fun i c hc h => ?_⟩
  rw [performAll_eq_mapIdx, List.getElem?_mapIdx, hc, Option.map_some]
  exact congrArg some (outcome_adapterAfter a _ c h)

/-- With pagination defaults of its own, an adapter runs a plain execution after a paginated
one as it runs it alone. -/
theorem configured_pagination_isolates :
    (performAll { adapter := { pagination := some ⟨1, 10⟩ } }
        [.paginate .accepting { table := "records" } {},
          .execute .accepting { table := "records" } {}])[1]? =
      some ((Command.execute .accepting { table := "records" } {}).perform
        { adapter := { pagination := some ⟨1, 10⟩ } }).2 :=
  (performAll_eq_alone { pagination := some ⟨1, 10⟩ }
    [.paginate .accepting { table := "records" } {},
      .execute .accepting { table := "records" } {}]).2 1 _ rfl (.inl rfl)

/-- On an adapter without pagination defaults, a paginated call leaves the standard ones to the
calls after it: a plain execution that alone sends nothing is then windowed to 30 rows. -/
theorem paginate_windows_later_executions :
    ((Command.execute .accepting { table := "records" } {}).perform { adapter := {} }).2.sent =
        [] ∧
      (performAll { adapter := {} }
          [.paginate .accepting { table := "records" } {},
            .execute .accepting { table := "records" } {}]).map Outcome.sent =
        [[.offsetLimit 0 30], [.offsetLimit 0 30]] :=
  ⟨rfl, rfl⟩

end Session

end QueryCompiler
