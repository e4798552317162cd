import QueryCompiler.Proofs.Enforcement
import QueryCompiler.Proofs.Replay
import Mathlib

/-!
# What the filter, free-text and sort stages emit

The stages are nested walks: over the supplied filters in ascending order of keys, or over the
sort keys in effect, and inside each over the allow-list's entries in declared order. What they
owe a request is stated here event by event, in the words of their contract (`FilterEvent`,
`SortEvent`): a predicate the stage builds itself, a run of the operation at a position of the
allow-list, an ordering. An entry does at most one thing for a key, so an operation that lists a
key twice still runs once for it, and one that lists `m` of the supplied keys runs `m` times
(`Stages.count_run_filterEvents`).

* `Stages.filter_stages_emit`: the filter and free-text stages take exactly the steps of their
  events, and when operations only make builder calls a backend that refuses nothing receives
  exactly their calls.
* `Stages.sort_stage_emit`: the sort stage writes back the keys in effect and takes exactly the
  steps of its events. Operations order the query as the walk reaches them and the shared column
  list comes after the walk, so whatever the request's order the query's orderings end with the
  operations' orderings and then the shared columns.

Both rest on `flatMap_filterMap_zipIdx`: walking the entries with their positions and expanding
each thing done is expanding each entry in place.
-/

namespace QueryCompiler

/-! ## Runs of builder calls -/

/-- Each element of a list, with its position, does at most one thing; taking the things done in
order and expanding each is expanding each element in order, when an element's expansion is what
its thing expands to. -/
theorem flatMap_filterMap_zipIdx {α β γ : Type} (l : List α) (f : α → Nat → Option β)
    (g : β → List γ) (h : α → List γ) (H : ∀ i e, l[i]? = some e → ((f e i).map g).getD [] = h e) :
    (l.zipIdx.filterMap fun p => f p.1 p.2).flatMap g = l.flatMap h := by
  have hexpand : ∀ L : List (α × Nat),
      (L.filterMap fun p => f p.1 p.2).flatMap g = L.flatMap fun p => ((f p.1 p.2).map g).getD [] := by
    intro L
    induction L with
    | nil => rfl
    | cons p L ih =>
      cases hp : f p.1 p.2 <;> simp [hp, ih]
  have hpos : l.flatMap h = l.zipIdx.flatMap fun p => h p.1 := by
    conv_lhs => rw [← List.zipIdx_map_fst 0 l]
    rw [List.flatMap_map]
  rw [hexpand, hpos]
  exact List.flatMap_congr fun p hp => H p.2 p.1 (List.mem_zipIdx_iff_getElem?.mp hp)
  

namespace Run

/-- Steps that only make builder calls go through on a backend that refuses nothing: the run sends
their calls, replays them onto the query and changes nothing else. -/
theorem perform_calls (t : Run) {steps : List Step} (h : ∀ st ∈ steps, ∃ c, st = .act (.call c)) :
    sent .accepting steps = steps.filterMap Step.call? ∧
      perform .accepting t steps =
        ({ t with query := t.query.replay (steps.filterMap Step.call?) }, none) := by
  have hpass : ∀ st ∈ steps, st.passes .accepting := by
    intro st hst
    obtain ⟨c, rfl⟩ := h st hst
    simp [Step.passes, Step.fault, Backend.accepting]
  refine ⟨sent_of_passes hpass, ?_⟩
  rw [perform_of_passes t hpass]
  congr 1
  induction steps generalizing t with
  | nil => rfl
  | cons st rest ih =>
    obtain ⟨c, rfl⟩ := h st (List.mem_cons_self ..)
    rw [List.foldl_cons, ih _ (fun x hx => h x (List.mem_cons_of_mem _ hx))
      (fun x hx => hpass x (List.mem_cons_of_mem _ hx))]
    rfl

end Run

/-- The ordering a call adds, if it adds one. -/
def Call.order? : Call → Option Order
  | .orderBy o => some o
  | _ => none

/-- Replaying calls adds their orderings, in order, after those of the query. -/
theorem Select.orders_replay (q : Select) (cs : List Call) :
    (q.replay cs).orders = q.orders ++ cs.filterMap Call.order? := by
  induction cs generalizing q with
  | nil => simp [Select.replay]
  | cons c cs ih =>
    have hstep : (q.replay (c :: cs)) = (q.record c).replay cs := rfl
    rw [hstep, ih]
    cases c with
    | orderBy o => simp [Select.record, Call.order?]
    | addAnyOf ps => cases ps <;> simp [Select.record, Call.order?, List.filterMap_cons]
    | _ => simp [Select.record, Call.order?, List.filterMap_cons]

/-! ## Filters and free text -/

/-- What the filter and free-text stages do, one event at a time. -/
inductive FilterEvent where
  /-- Add a predicate the stage builds itself. -/
  | add (p : Predicate)
  /-- Run the operation of the allow-list entry at this position. -/
  | run (entry : Nat)
  /-- Add the group of alternatives of the free text. -/
  | anyOf (ps : List Predicate)
  deriving DecidableEq, Repr

namespace FilterRule

/-- The column of a plain-name entry. -/
def name? : FilterRule → Option String
  | .name c => some c
  | .op _ => none

/-- What the entry at position `i` of a non-empty allow-list does for the supplied filter
`k = v`: a plain name equal to `k` adds the substring match on it, an operation listing `k` runs,
once however often it lists `k`. -/
def eventFor (k : String) (v : Scalar) (i : Nat) : FilterRule → Option FilterEvent
  | .name c => if c = k then some (.add ⟨k, .like, .str ("%" ++ v.display ++ "%")⟩) else none
  | .op o => if k ∈ o.keys then some (.run i) else none

end FilterRule

namespace FilterEvent

/-- The steps an event takes: the call adding a predicate or a group, or the actions of the
operation at the entry's position. -/
def steps (allow : AllowList FilterRule) (r : Request) : FilterEvent → List Step
  | .add p => [.act (.call (.addPredicate p))]
  | .run i =>
    match allow.entries[i]? with
    | some (.op o) => (o.actions r).map .act
    | _ => []
  | .anyOf ps => [.act (.call (.addAnyOf ps))]

end FilterEvent

namespace Stages

section Filters

/-- The events the filter and free-text stages owe a request. For each supplied filter `k = v`,
in ascending order of keys: with no allow-list, the substring match of `v` on `k`; else what each
entry does for it, in declared order. Then, if a free text `t` is given and the allow-list has
plain names, one group of the substring matches of `t` on them, in declared order. -/
def filterEvents (allow : AllowList FilterRule) (r : Request) : List FilterEvent :=
  (r.filters.toList.flatMap fun (k, v) =>
    if allow.entries = [] then [.add ⟨k, .like, .str ("%" ++ v.display ++ "%")⟩]
    else allow.entries.zipIdx.filterMap fun p => p.1.eventFor k v p.2) ++
  match r.query with
  | none => []
  | some t =>
    let names := allow.entries.filterMap FilterRule.name?
    if names = [] then [] else [.anyOf (names.map fun c => ⟨c, .like, .str ("%" ++ t ++ "%")⟩)]

variable (allow : AllowList FilterRule) (r : Request)

/-- The entry at a position takes, through its event, the steps the filter stage compiles from
it. -/
theorem steps_eventFor {i : Nat} {e : FilterRule} (he : allow.entries[i]? = some e) (k : String)
    (v : Scalar) : (((e.eventFor k v i).map (FilterEvent.steps allow r)).getD []) = e.compile r k v := by
  cases e with
  | name c =>
    by_cases hc : c = k
    · subst hc
      simp [FilterRule.eventFor, FilterRule.compile, FilterEvent.steps, addPredicate,
        Predicate.contains, Scalar.pattern]
    · simp [FilterRule.eventFor, FilterRule.compile, hc]
  | op o =>
    by_cases hk : k ∈ o.keys
    · simp [FilterRule.eventFor, FilterRule.compile, hk, FilterEvent.steps, he]
    · simp [FilterRule.eventFor, FilterRule.compile, hk]

theorem filters_eq_events :
    filters allow r =
      (r.filters.toList.flatMap fun (k, v) =>
        if allow.entries = [] then [FilterEvent.add ⟨k, .like, .str ("%" ++ v.display ++ "%")⟩]
        else allow.entries.zipIdx.filterMap fun p => p.1.eventFor k v p.2).flatMap
        (FilterEvent.steps allow r) := by
  rw [List.flatMap_assoc]
  by_cases hne : allow.entries = []
  · have hempty : allow.isEmpty = true := by simp [AllowList.isEmpty, hne]
    simp only [filters, hempty, hne, if_true, List.flatMap_singleton]
    rfl
  · rw [filters_eq allow r hne]
    refine List.flatMap_congr fun kv _ => ?_
    obtain ⟨k, v⟩ := kv
    simp only [hne, if_false]
    exact (flatMap_filterMap_zipIdx _ _ _ _ fun i e he => steps_eventFor allow r he k v).symm

/-- The free-text group holds the substring match of the text on each plain-name column. -/
theorem searchGroup_eq (text : String) :
    searchGroup allow text =
      (allow.entries.filterMap FilterRule.name?).map fun c => ⟨c, .like, .str ("%" ++ text ++ "%")⟩ := by
  rw [List.map_filterMap]
  refine List.filterMap_congr fun e _ => ?_
  cases e <;> rfl

theorem search_eq_events :
    search allow r =
      (match r.query with
        | none => []
        | some t =>
          if allow.entries.filterMap FilterRule.name? = [] then []
          else [FilterEvent.anyOf ((allow.entries.filterMap FilterRule.name?).map fun c =>
            ⟨c, .like, .str ("%" ++ t ++ "%")⟩)]).flatMap (FilterEvent.steps allow r) := by
  unfold search
  cases r.query with
  | none => rfl
  | some t =>
    dsimp only
    rw [searchGroup_eq]
    by_cases hnames : allow.entries.filterMap FilterRule.name? = []
    · -- no plain name: no group, also when the allow-list is empty
      simp [hnames]
    · have hne : allow.isEmpty = false := by
        rw [AllowList.isEmpty_eq_false_iff]
        rintro h
        simp [h] at hnames
      simp [hnames, hne, FilterEvent.steps]

/-- The filter and free-text stages take the steps of their events, in order. -/
theorem filters_search_eq_events :
    filters allow r ++ search allow r = (filterEvents allow r).flatMap (FilterEvent.steps allow r) := by
  rw [filterEvents, List.flatMap_append, filters_eq_events, search_eq_events]

/-- Among the events of one supplied filter, the operation at position `i` runs once if it lists
the key, however often, and not at all otherwise. -/
theorem count_run_eventFor {i : Nat} {o : FilterOp} (ho : allow.entries[i]? = some (.op o))
    (k : String) (v : Scalar) :
    (allow.entries.zipIdx.filterMap fun p => p.1.eventFor k v p.2).count (.run i) =
      if k ∈ o.keys then 1 else 0 := by
  rw [List.count_filterMap]
  -- an entry's event is the run at `i` only at position `i`, where the entry is `o`
  have hpred : ∀ p ∈ allow.entries.zipIdx,
      (p.1.eventFor k v p.2 == some (.run i)) = (p.2 == i && decide (k ∈ o.keys)) := by
    rintro ⟨e, j⟩ hp
    have hj : allow.entries[j]? = some e := List.mem_zipIdx_iff_getElem?.mp hp
    by_cases hji : j = i
    · subst hji
      rw [ho, Option.some.injEq] at hj
      subst hj
      by_cases hk : k ∈ o.keys <;> simp [FilterRule.eventFor, hk]
    · rw [Bool.eq_iff_iff]
      cases e with
      | name c => by_cases hc : c = k <;> simp [FilterRule.eventFor, hc, hji]
      | op o' => by_cases hk : k ∈ o'.keys <;> simp [FilterRule.eventFor, hk, hji]
  rw [List.countP_congr fun p hp => by rw [hpred p hp]]
  have hi : i < allow.entries.length := (List.getElem?_eq_some_iff.mp ho).1
  by_cases hk : k ∈ o.keys
  · have hcount : allow.entries.zipIdx.countP (fun p => p.2 == i) = 1 := by
      calc allow.entries.zipIdx.countP (fun p => p.2 == i)
          = (allow.entries.zipIdx.map Prod.snd).count i := by rw [List.count, List.countP_map]; rfl
        _ = 1 := by rw [List.zipIdx_map_snd, List.count_range_1']; simp [hi]
    simpa [hk] using hcount
  · simp [hk]

/-- An operation entry runs once for each supplied key it lists, however often it lists it. -/
theorem count_run_filterEvents {i : Nat} {o : FilterOp} (ho : allow.entries[i]? = some (.op o)) :
    (filterEvents allow r).count (.run i) = r.filters.keys.countP (· ∈ o.keys) := by
  have hne : allow.entries ≠ [] := by
    rintro h
    simp [h] at ho
  -- the free-text group is no run
  have hsearch : (match r.query with
      | none => []
      | some t =>
        if allow.entries.filterMap FilterRule.name? = [] then []
        else [FilterEvent.anyOf ((allow.entries.filterMap FilterRule.name?).map fun c =>
          ⟨c, .like, .str ("%" ++ t ++ "%")⟩)]).count (FilterEvent.run i) = 0 := by
    cases r.query with
    | none => rfl
    | some t =>
      dsimp only
      split <;> simp
  rw [filterEvents, List.count_append, hsearch, Nat.add_zero, NameMap.keys]
  generalize r.filters.toList = pairs
  induction pairs with
  | nil => rfl
  | cons p pairs ih =>
    obtain ⟨k, v⟩ := p
    rw [List.flatMap_cons, List.count_append, ih, List.map_cons, List.countP_cons]
    simp only [hne, if_false, count_run_eventFor allow ho k v]
    by_cases hk : k ∈ o.keys <;> simp [hk, Nat.add_comm]

/-- The built-in operations, run for a supplied key they are declared for, match on that key's
column: the exact match with the value, the substring match with its display. -/
theorem steps_run_builtin {i : Nat} {k : String} {v : Scalar} (hkv : (k, v) ∈ r.filters.toList) :
    (allow.entries[i]? = some (.op (.exact k)) →
      (FilterEvent.run i).steps allow r = [.act (.call (.addPredicate ⟨k, .eq, v⟩))]) ∧
    (allow.entries[i]? = some (.op (.search k)) →
      (FilterEvent.run i).steps allow r =
        [.act (.call (.addPredicate ⟨k, .like, .str ("%" ++ v.display ++ "%")⟩))]) := by
  have hget : r.filters.get? k = some v := NameMap.get?_eq_some_of_mem hkv
  constructor
  · intro he
    simp [FilterEvent.steps, he, FilterOp.actions, hget, Predicate.eq]
  · intro he
    simp [FilterEvent.steps, he, FilterOp.actions, hget, Predicate.contains, Scalar.pattern]

/-- With operations that only make builder calls, every step of the events is a builder call. -/
theorem calls_of_filterEvents
    (hops : ∀ o, FilterRule.op o ∈ allow.entries → ∀ x ∈ o.actions r, ∃ c, x = .call c) :
    ∀ st ∈ (filterEvents allow r).flatMap (FilterEvent.steps allow r), ∃ c, st = .act (.call c) := by
  intro st hst
  obtain ⟨ev, -, hst⟩ := List.mem_flatMap.mp hst
  cases ev with
  | add p => exact ⟨_, List.mem_singleton.mp hst⟩
  | anyOf ps => exact ⟨_, List.mem_singleton.mp hst⟩
  | run i =>
    simp only [FilterEvent.steps] at hst
    split at hst
    · next o ho =>
      obtain ⟨x, hx, rfl⟩ := List.mem_map.mp hst
      obtain ⟨c, rfl⟩ := hops o (List.mem_of_getElem? ho) x hx
      exact ⟨c, rfl⟩
    · simp at hst

end Filters

/-- The filter and free-text stages emit, from any state, exactly the events they owe the
request: for each supplied filter in ascending order of keys, the substring match on its own
column when there is no allow-list, and else what each entry does for it in declared order; then
the free-text group, when there are plain names. With operations that only make builder calls, a
backend that refuses nothing receives exactly the calls of these events and the query replays
them. An operation entry runs once for each supplied key it lists, however often it lists it, and
the built-in operations match on their key's column: exactly with the value, or as a substring
with its display. -/
theorem filter_stages_emit (allow : AllowList FilterRule) (r : Request) (t : Run)
    (hops : ∀ o, FilterRule.op o ∈ allow.entries → ∀ x ∈ o.actions r, ∃ c, x = .call c) :
    let emitted := (filterEvents allow r).flatMap (FilterEvent.steps allow r)
    r.filters.keys.Pairwise (· < ·) ∧
      filters allow r ++ search allow r = emitted ∧
      Run.sent .accepting (filters allow r ++ search allow r) = emitted.filterMap Step.call? ∧
      Run.perform .accepting t (filters allow r ++ search allow r) =
        ({ t with query := t.query.replay (emitted.filterMap Step.call?) }, none) ∧
      (∀ i o, allow.entries[i]? = some (.op o) →
        (filterEvents allow r).count (.run i) = r.filters.keys.countP (· ∈ o.keys)) ∧
      (∀ i k v, (k, v) ∈ r.filters.toList →
        (allow.entries[i]? = some (.op (.exact k)) →
          (FilterEvent.run i).steps allow r = [.act (.call (.addPredicate ⟨k, .eq, v⟩))]) ∧
        (allow.entries[i]? = some (.op (.search k)) →
          (FilterEvent.run i).steps allow r =
            [.act (.call (.addPredicate ⟨k, .like, .str ("%" ++ v.display ++ "%")⟩))])) := by
  intro emitted
  have heq : filters allow r ++ search allow r = emitted := filters_search_eq_events allow r
  obtain ⟨hsent, hperf⟩ := Run.perform_calls t (calls_of_filterEvents allow r hops)
  exact ⟨r.filters.keys_ascending, heq, by rw [heq]; exact hsent, by rw [heq]; exact hperf,
    fun _ _ ho => count_run_filterEvents allow r ho, fun _ _ _ hkv => steps_run_builtin allow r hkv⟩

/-- A caller's operation listing `a` twice and `b` once, with both filters supplied and a plain
name for `a` before it: it runs twice, once per supplied key, after the plain name's match. -/
theorem operation_runs_once_per_key :
    (∀ o, FilterRule.op o ∈ [FilterRule.name "a",
        .op (.custom ["a", "a", "b"] fun _ => [.call (.addPredicate ⟨"ab", .eq, .int 1⟩)])] →
      ∀ x ∈ o.actions { filters := ((∅ : NameMap Scalar).insert "a" (.int 1)).insert "b" (.int 2) },
        ∃ c, x = .call c) ∧
      (filterEvents (.new [.name "a", .op (.custom ["a", "a", "b"] fun _ =>
          [.call (.addPredicate ⟨"ab", .eq, .int 1⟩)])])
        { filters := ((∅ : NameMap Scalar).insert "a" (.int 1)).insert "b" (.int 2) }).count
          (.run 1) = 2 ∧
      Run.sent .accepting
          (filters (.new [.name "a", .op (.custom ["a", "a", "b"] fun _ =>
              [.call (.addPredicate ⟨"ab", .eq, .int 1⟩)])])
            { filters := ((∅ : NameMap Scalar).insert "a" (.int 1)).insert "b" (.int 2) } ++
          search (.new [.name "a", .op (.custom ["a", "a", "b"] fun _ =>
              [.call (.addPredicate ⟨"ab", .eq, .int 1⟩)])])
            { filters := ((∅ : NameMap Scalar).insert "a" (.int 1)).insert "b" (.int 2) }) =
        [.addPredicate ⟨"a", .like, .str "%1%"⟩, .addPredicate ⟨"ab", .eq, .int 1⟩,
          .addPredicate ⟨"ab", .eq, .int 1⟩] := by
  have hops : ∀ o, FilterRule.op o ∈ [FilterRule.name "a",
      .op (.custom ["a", "a", "b"] fun _ => [.call (.addPredicate ⟨"ab", .eq, .int 1⟩)])] →
      ∀ x ∈ o.actions { filters := ((∅ : NameMap Scalar).insert "a" (.int 1)).insert "b" (.int 2) },
        ∃ c, x = .call c := by
    intro o ho x hx
    simp only [List.mem_cons, reduceCtorEq, FilterRule.op.injEq, List.not_mem_nil, or_false,
      false_or] at ho
    subst ho
    simp only [FilterOp.actions, List.mem_singleton] at hx
    exact ⟨_, hx⟩
  obtain ⟨-, -, hsent, -, hcount, -⟩ := filter_stages_emit (.new [.name "a",
    .op (.custom ["a", "a", "b"] fun _ => [.call (.addPredicate ⟨"ab", .eq, .int 1⟩)])])
    { filters := ((∅ : NameMap Scalar).insert "a" (.int 1)).insert "b" (.int 2) }
    { query := { table := "records" }, request := {} } hops
  refine ⟨hops, ?_, ?_⟩
  · rw [hcount 1 _ rfl]
    decide
  · rw [hsent]
    decide

end Stages

/-! ## Sorts -/

/-- What the sort stage does, one event at a time. -/
inductive SortEvent where
  /-- Run the operation of the allow-list entry at this position for a sort key. -/
  | run (entry : Nat) (key : SortKey)
  /-- Add an ordering. -/
  | orderBy (o : Order)
  deriving DecidableEq, Repr

namespace SortRule

/-- The column of a plain-name entry. -/
def name? : SortRule → Option String
  | .name c => some c
  | .op _ => none

/-- What the entry at position `i` runs for the sort key `x`: an operation declaring the key's
name runs for it, once. -/
def runFor (x : SortKey) (i : Nat) : SortRule → Option SortEvent
  | .name _ => none
  | .op o => if x.name ∈ o.names then some (.run i x) else none

end SortRule

namespace SortEvent

/-- The steps an event takes: the actions of the operation at the entry's position, or the call
adding the ordering. -/
def steps (allow : AllowList SortRule) : SortEvent → List Step
  | .run i x =>
    match allow.entries[i]? with
    | some (.op o) => (o.run x.ascending x.name).map .act
    | _ => []
  | .orderBy o => [.act (.call (.orderBy o))]

end SortEvent

namespace Stages

section Sorts

variable (allow : AllowList SortRule)

/-- The runs of the sort operations for the keys in effect: for each key in order and each entry
in declared order, a run of each operation declaring the key's name. -/
def sortRuns (keys : List SortKey) : List SortEvent :=
  keys.flatMap fun x => allow.entries.zipIdx.filterMap fun p => p.1.runFor x p.2

/-- The shared column list: each key in order, once for each plain-name entry equal to its
name. -/
def sharedKeys (keys : List SortKey) : List SortKey :=
  keys.flatMap fun x => List.replicate (allow.entries.countP (·.name? == some x.name)) x

/-- The events the sort stage owes the keys in effect: with no allow-list, one ordering by all of
them if there are any; otherwise the operations' runs, then one ordering by the shared columns if
there are any. -/
def sortEvents (keys : List SortKey) : List SortEvent :=
  if allow.entries = [] then (if keys = [] then [] else [.orderBy (.columns keys)])
  else
    sortRuns allow keys ++
      if sharedKeys allow keys = [] then [] else [.orderBy (.columns (sharedKeys allow keys))]

/-- The plain names equal to a key's name give it once each. -/
theorem sharedColumns_eq_sharedKeys (keys : List SortKey) :
    sharedColumns allow keys = sharedKeys allow keys := by
  refine List.flatMap_congr fun x _ => ?_
  induction allow.entries with
  | nil => rfl
  | cons e es ih =>
    rw [List.flatMap_cons, ih, List.countP_cons]
    cases e with
    | name c =>
      by_cases hc : c = x.name
      · simp [hc, SortRule.name?, List.replicate_succ]
      · simp [hc, SortRule.name?]
    | op o => simp [SortRule.name?]

/-- The operations' actions are the steps of their runs. -/
theorem sortActions_eq_sortRuns (keys : List SortKey) :
    sortActions allow keys = (sortRuns allow keys).flatMap (SortEvent.steps allow) := by
  rw [sortRuns, List.flatMap_assoc]
  refine List.flatMap_congr fun x _ => ?_
  refine (flatMap_filterMap_zipIdx allow.entries (fun e i => e.runFor x i) _ _
    fun i e he => ?_).symm
  cases e with
  | name c => rfl
  | op o =>
    by_cases hk : x.name ∈ o.names
    · simp [SortRule.runFor, hk, SortEvent.steps, he]
    · simp [SortRule.runFor, hk]

/-- An ordering by columns is the step of its event, if there are columns. -/
theorem orderColumns_eq (keys : List SortKey) :
    orderColumns keys =
      (if keys = [] then [] else [SortEvent.orderBy (.columns keys)]).flatMap
        (SortEvent.steps allow) := by
  unfold orderColumns
  by_cases h : keys = [] <;> simp [h, SortEvent.steps]

/-- The sort stage writes back the default it takes, then takes the steps of its events. -/
theorem sorts_eq_events (d : Option SortKey) (r : Request) :
    sorts allow d r =
      (if r.sort.isEmpty && d.isSome then [.setSort (sortKeys d r)] else []) ++
        (sortEvents allow (sortKeys d r)).flatMap (SortEvent.steps allow) := by
  rw [sorts_eq_sortBody, sortBody, sortEvents]
  congr 1
  by_cases hne : allow.entries = []
  · have hempty : allow.isEmpty = true := by simp [AllowList.isEmpty, hne]
    simp only [hempty, hne, if_true]
    exact orderColumns_eq allow _
  · have hempty : allow.isEmpty = false := (AllowList.isEmpty_eq_false_iff allow).mpr hne
    simp only [hempty, hne, Bool.false_eq_true, if_false, List.flatMap_append]
    rw [sortActions_eq_sortRuns, sharedColumns_eq_sharedKeys, orderColumns_eq]

/-- Every run the sort stage emits is for a key in effect. -/
theorem mem_of_run_mem_sortEvents {keys : List SortKey} {i : Nat} {x : SortKey}
    (hev : SortEvent.run i x ∈ sortEvents allow keys) : x ∈ keys := by
  unfold sortEvents at hev
  split at hev
  · split at hev <;> simp at hev
  · rcases List.mem_append.mp hev with hev | hev
    · obtain ⟨y, hy, hev⟩ := List.mem_flatMap.mp hev
      obtain ⟨⟨e, j⟩, -, he⟩ := List.mem_filterMap.mp hev
      cases e with
      | name c => simp [SortRule.runFor] at he
      | op o =>
        by_cases hk : y.name ∈ o.names
        · simp only [SortRule.runFor, hk, if_true, Option.some.injEq, SortEvent.run.injEq] at he
          exact he.2 ▸ hy
        · simp [SortRule.runFor, hk] at he
    · split at hev <;> simp at hev

/-- With sort operations that only make builder calls for the keys in effect, every step of the
events is a builder call. -/
theorem calls_of_sortEvents (keys : List SortKey)
    (hops : ∀ o, SortRule.op o ∈ allow.entries → ∀ x ∈ keys,
      ∀ y ∈ o.run x.ascending x.name, ∃ c, y = .call c) :
    ∀ st ∈ (sortEvents allow keys).flatMap (SortEvent.steps allow), ∃ c, st = .act (.call c) := by
  intro st hst
  obtain ⟨ev, hev, hst⟩ := List.mem_flatMap.mp hst
  cases ev with
  | orderBy o => exact ⟨_, List.mem_singleton.mp hst⟩
  | run i x =>
    have hx : x ∈ keys := mem_of_run_mem_sortEvents allow hev
    simp only [SortEvent.steps] at hst
    split at hst
    · next o ho =>
      obtain ⟨y, hy, rfl⟩ := List.mem_map.mp hst
      obtain ⟨c, rfl⟩ := hops o (List.mem_of_getElem? ho) x hx y hy
      exact ⟨c, rfl⟩
    · simp at hst

end Sorts

/-- On a backend that refuses nothing, the sort stage with operations that only make builder
calls sends the calls of its events and replays them, with the keys in effect written back. -/
theorem perform_sorts_replays (allow : AllowList SortRule) (d : Option SortKey) (t : Run)
    (hops : ∀ o, SortRule.op o ∈ allow.entries → ∀ x ∈ sortKeys d t.request,
      ∀ y ∈ o.run x.ascending x.name, ∃ c, y = .call c) :
    let keys := sortKeys d t.request
    let emitted := (sortEvents allow keys).flatMap (SortEvent.steps allow)
    Run.sent .accepting (sorts allow d t.request) = emitted.filterMap Step.call? ∧
      Run.perform .accepting t (sorts allow d t.request) =
        ({ t with
            request := { t.request with sort := keys }
            query := t.query.replay (emitted.filterMap Step.call?) }, none) := by
  intro keys emitted
  obtain ⟨hsent, hperf⟩ := Run.perform_calls { t with request := { t.request with sort := keys } }
    (calls_of_sortEvents allow keys hops)
  rw [sorts_eq_events allow d t.request]
  -- the write-back goes through and sends nothing; without it the keys in effect are the request's
  by_cases hwb : (t.request.sort.isEmpty && d.isSome) = true
  · simp only [hwb, if_true, List.singleton_append]
    refine ⟨?_, ?_⟩
    · simpa [Run.sent, Step.fault, Step.call?] using hsent
    · rw [Run.perform_cons_of_passes _ (show Step.passes .accepting (.setSort keys) from rfl)]
      exact hperf
  · have hkeys : keys = t.request.sort := by
      have := Stages.sortKeys_of_writeBack d t.request
      simp only [hwb, Bool.false_eq_true, if_false] at this
      exact this.symm
    have hreq : { t.request with sort := keys } = t.request := by rw [hkeys]
    simp only [hwb, Bool.false_eq_true, if_false, List.nil_append]
    rw [hreq] at hperf ⊢
    exact ⟨hsent, hperf⟩

/-- The sort stage, from any state, writes back the sort keys in effect (the request's, or else
the default) and emits exactly the events it owes them: with no allow-list one ordering by all of
them, if any; otherwise, for each key in order and each entry in declared order, a run of each
operation declaring the key's name, then one ordering by the shared columns (each key once per
plain-name entry equal to its name), if any. With operations that only make builder calls, a
backend that refuses nothing receives exactly the calls of these events, and the query's orderings
end with what the operations ordered by and then the shared columns, whatever the request's
order. -/
theorem sort_stage_emit (allow : AllowList SortRule) (d : Option SortKey) (t : Run)
    (hops : ∀ o, SortRule.op o ∈ allow.entries → ∀ x ∈ sortKeys d t.request,
      ∀ y ∈ o.run x.ascending x.name, ∃ c, y = .call c) :
    let keys := sortKeys d t.request
    let emitted := (sortEvents allow keys).flatMap (SortEvent.steps allow)
    sorts allow d t.request =
        (if t.request.sort.isEmpty && d.isSome then [.setSort keys] else []) ++ emitted ∧
      Run.sent .accepting (sorts allow d t.request) = emitted.filterMap Step.call? ∧
      Run.perform .accepting t (sorts allow d t.request) =
        ({ t with
            request := { t.request with sort := keys }
            query := t.query.replay (emitted.filterMap Step.call?) }, none) ∧
      (allow.entries ≠ [] →
        (Run.perform .accepting t (sorts allow d t.request)).1.query.orders =
          t.query.orders ++
            (((sortRuns allow keys).flatMap (SortEvent.steps allow)).filterMap Step.call?).filterMap
              Call.order? ++
            if sharedKeys allow keys = [] then [] else [.columns (sharedKeys allow keys)]) := by
  intro keys emitted
  have heq := sorts_eq_events allow d t.request
  have hrun := perform_sorts_replays allow d t hops
  refine ⟨heq, hrun.1, hrun.2, fun hne => ?_⟩
  rw [hrun.2, Select.orders_replay, List.append_assoc]
  congr 1
  simp only [sortEvents, hne, if_false, List.flatMap_append, List.filterMap_append]
  congr 1
  split <;> simp [SortEvent.steps, Step.call?, Call.order?, keys]

/-- Ordering by a plain column and by a caller's operation, asked for in that order: the
operation's ordering comes first and the shared column list last. -/
theorem custom_ordering_precedes_shared :
    (∀ o, SortRule.op o ∈ [SortRule.name "created_at",
        .op ⟨["name_length"], fun asc _ =>
          [.call (.orderBy (.raw (if asc then "LENGTH(name) ASC" else "LENGTH(name) DESC")))]⟩] →
      ∀ x ∈ sortKeys none { sort := [⟨"created_at", true⟩, ⟨"name_length", false⟩] },
        ∀ y ∈ o.run x.ascending x.name, ∃ c, y = .call c) ∧
      (Run.perform .accepting
          ⟨{ table := "users" }, { sort := [⟨"created_at", true⟩, ⟨"name_length", false⟩] }, []⟩
        (sorts (.new [.name "created_at", .op ⟨["name_length"], fun asc _ =>
            [.call (.orderBy (.raw (if asc then "LENGTH(name) ASC" else "LENGTH(name) DESC")))]⟩])
          none { sort := [⟨"created_at", true⟩, ⟨"name_length", false⟩] })).1.query.orders =
        [.raw "LENGTH(name) DESC", .columns [⟨"created_at", true⟩]] := by
  have hops : ∀ o, SortRule.op o ∈ [SortRule.name "created_at",
      .op ⟨["name_length"], fun asc _ =>
        [.call (.orderBy (.raw (if asc then "LENGTH(name) ASC" else "LENGTH(name) DESC")))]⟩] →
      ∀ x ∈ sortKeys none { sort := [⟨"created_at", true⟩, ⟨"name_length", false⟩] },
        ∀ y ∈ o.run x.ascending x.name, ∃ c, y = .call c := by
    intro o ho x _ y hy
    simp only [List.mem_cons, reduceCtorEq, SortRule.op.injEq, List.not_mem_nil, or_false,
      false_or] at ho
    subst ho
    exact ⟨_, List.mem_singleton.mp hy⟩
  obtain ⟨-, -, -, horders⟩ := sort_stage_emit (.new [.name "created_at", .op ⟨["name_length"],
    fun asc _ => [.call (.orderBy (.raw (if asc then "LENGTH(name) ASC" else "LENGTH(name) DESC")))]⟩])
    none ⟨{ table := "users" }, { sort := [⟨"created_at", true⟩, ⟨"name_length", false⟩] }, []⟩ hops
  refine ⟨hops, ?_⟩
  rw [horders (by simp)]
  decide

end Stages


end QueryCompiler
