import QueryCompiler.Proofs.FailStop
import QueryCompiler.Proofs.Validation
import Mathlib.Data.List.Basic

/-!
# Executing the request a run wrote back

A successful execution writes into the request the defaults it used: the sort keys in effect,
and the page and size in effect when there is a window (`Adapter.settle`). Executing that
request again takes the same steps without the write-backs: no stage reads what an earlier
stage wrote, the settled request already carries the keys and window in effect, and filter
operations see the same filters (`Adapter.steps_settle`). So the rerun makes the same calls,
loads the same relations and leaves the request as it found it.

One thing can stop it: validation sees the written-back default as a requested key, and a
restricting sort allow-list that does not declare the default turns the rerun away
(`Adapter.DefaultDeclared`). The first run let the default through unchecked, since
validation looks only at the keys the request asks for (`Adapter.execute_written_back`,
`Adapter.undeclared_default_refused_on_rerun`).
-/

namespace QueryCompiler

/-- A filter operation that reads nothing of a request but its filters. -/
def FilterOp.ReadsFilters (o : FilterOp) : Prop :=
  ∀ r r' : Request, r.filters = r'.filters → o.actions r = o.actions r'

namespace Stages

/-- What the sort stage does past its write-back. -/
def sortBody (allow : AllowList SortRule) (keys : List SortKey) : List Step :=
  if allow.isEmpty then orderColumns keys
  else sortActions allow keys ++ orderColumns (sharedColumns allow keys)

theorem sorts_eq_sortBody (allow : AllowList SortRule) (d : Option SortKey) (r : Request) :
    sorts allow d r =
      (if r.sort.isEmpty && d.isSome then [.setSort (sortKeys d r)] else []) ++
        sortBody allow (sortKeys d r) :=
  rfl

/-- A request whose sort keys are those in effect for another request has the same keys in
effect. -/
theorem sortKeys_of_sort {d : Option SortKey} {r r' : Request} (h : r'.sort = sortKeys d r) :
    sortKeys d r' = sortKeys d r := by
  unfold sortKeys at h ⊢
  rw [h]
  cases d <;> cases r.sort <;> simp

/-- Filters that read only the filters compile the same for requests with the same filters. -/
theorem filters_congr {allow : AllowList FilterRule}
    (hops : ∀ o, FilterRule.op o ∈ allow.entries → o.ReadsFilters) {r r' : Request}
    (h : r'.filters = r.filters) : filters allow r' = filters allow r := by
  unfold filters
  rw [h]
  refine List.flatMap_congr fun ⟨k, v⟩ _ => ?_
  dsimp only
  split
  · rfl
  · refine List.flatMap_congr fun e he => ?_
    cases e with
    | name c => rfl
    | op o => simp only [hops o he r' r h]

end Stages

namespace Adapter

/-- Every filter operation of the adapter reads only the filters. -/
def FilterOpsReadFilters (a : Adapter) : Prop :=
  ∀ o, FilterRule.op o ∈ a.filters.entries → o.ReadsFilters

/-- The request as a successful execution leaves it: the sort keys in effect, and the page and
size in effect when a window is set. -/
def settle (a : Adapter) (r : Request) : Request :=
  { r with
    sort := Stages.sortKeys a.defaultSort r
    page := if (r.size.or (a.pagination.map PageDefaults.size)).isSome then
      some ((r.page.or (a.pagination.map PageDefaults.page)).getD 1) else r.page
    size := r.size.or (a.pagination.map PageDefaults.size) }

/-- When a request without sort keys takes the default, a restricting sort allow-list declares
it. -/
def DefaultDeclared (a : Adapter) (r : Request) : Prop :=
  r.sort = [] → a.sorts.entries ≠ [] → ∀ d ∈ a.defaultSort, a.sorts.Declared d.name

section Settle

variable (a : Adapter) (r : Request)

theorem settle_sort : (a.settle r).sort = Stages.sortKeys a.defaultSort r := rfl

theorem size_settle :
    (a.settle r).size.or (a.pagination.map PageDefaults.size) =
      r.size.or (a.pagination.map PageDefaults.size) := by
  simp [settle, Option.or_assoc]

theorem window_settle : Stages.window a.pagination (a.settle r) = Stages.window a.pagination r := by
  unfold Stages.window
  rw [size_settle]
  cases hz : r.size.or (a.pagination.map PageDefaults.size) with
  | none => rfl
  | some z => simp [settle, hz]

theorem settle_settle : a.settle (a.settle r) = a.settle r := by
  have hsort := Stages.sortKeys_of_sort (settle_sort a r)
  have hsize := size_settle a r
  rw [settle, hsort, hsize]
  cases hz : r.size.or (a.pagination.map PageDefaults.size) <;> simp [settle, hz]

/-- The settled request takes the steps of the request without the sort write-back. -/
theorem steps_settle (hops : a.FilterOpsReadFilters) :
    a.steps (a.settle r) =
      Stages.filters a.filters r ++ Stages.search a.filters r ++
        Stages.sortBody a.sorts (Stages.sortKeys a.defaultSort r) ++
        Stages.includes a.includes r ++ Stages.window a.pagination r := by
  have hwrite : ((a.settle r).sort.isEmpty && a.defaultSort.isSome) = false := by
    rw [settle_sort]
    unfold Stages.sortKeys
    cases a.defaultSort <;> cases r.sort <;> simp
  have hfilters : Stages.filters a.filters (a.settle r) = Stages.filters a.filters r :=
    Stages.filters_congr hops rfl
  unfold steps
  rw [hfilters, window_settle, Stages.sorts_eq_sortBody, hwrite,
    Stages.sortKeys_of_sort (settle_sort a r)]
  rfl

theorem steps_eq_writeBack :
    a.steps r =
      Stages.filters a.filters r ++ Stages.search a.filters r ++
        ((if r.sort.isEmpty && a.defaultSort.isSome then
            [.setSort (Stages.sortKeys a.defaultSort r)] else []) ++
          Stages.sortBody a.sorts (Stages.sortKeys a.defaultSort r)) ++
        Stages.includes a.includes r ++ Stages.window a.pagination r :=
  rfl

/-- Rerunning takes no step the run did not take, and makes the same calls in the same order:
the write-back it leaves out makes no call. -/
theorem steps_settle_sub (hops : a.FilterOpsReadFilters) :
    (∀ st ∈ a.steps (a.settle r), st ∈ a.steps r) ∧
      (a.steps (a.settle r)).filterMap Step.call? = (a.steps r).filterMap Step.call? := by
  rw [steps_settle a r hops, steps_eq_writeBack]
  constructor
  · intro st hst
    simp only [List.mem_append] at hst ⊢
    tauto
  · have hwb : (if r.sort.isEmpty && a.defaultSort.isSome then
        [Step.setSort (Stages.sortKeys a.defaultSort r)] else []).filterMap Step.call? = [] := by
      split <;> rfl
    simp only [List.filterMap_append, hwb, List.nil_append]

end Settle

/-! ## A run that succeeds -/

section Success

variable {b : Backend} {a : Adapter} {q : Select} {r : Request}

theorem validate_of_execute (h : (a.execute b q r).2 = none) : a.validate r = .ok () := by
  unfold execute at h
  cases hv : a.validate r with
  | error e => simp [hv] at h
  | ok u => rfl

theorem execute_of_validate (hv : a.validate r = .ok ()) :
    a.execute b q r = Run.perform b { query := q, request := r } (a.steps r) := by
  simp [execute, hv]

theorem sent_of_validate (hv : a.validate r = .ok ()) : a.sent b r = Run.sent b (a.steps r) := by
  simp [sent, hv]

/-- A run that succeeds took every step. -/
theorem enters_of_execute (h : (a.execute b q r).2 = none) : Run.Enters b (a.steps r) := by
  rw [execute_of_validate (validate_of_execute h)] at h
  exact (Run.perform_snd_eq_none_iff b _ _).mp h

/-- A run that takes every step enters every stage. -/
theorem enters_stages (hall : Run.Enters b (a.steps r)) :
    Run.Enters b (a.beforeWindow r) ∧ Run.Enters b (a.beforeIncludes r) ∧
      Run.Enters b (a.beforeSorts r) := by
  have hw := ((Run.enters_append b _ _).mp hall).1
  have hi := ((Run.enters_append b _ _).mp hw).1
  exact ⟨hw, hi, ((Run.enters_append b _ _).mp hi).1⟩

/-- A run that succeeds leaves the request settled. -/
theorem request_of_execute (h : (a.execute b q r).2 = none) :
    (a.execute b q r).1.request = a.settle r := by
  obtain ⟨hw, -, hs⟩ := enters_stages (enters_of_execute h)
  rw [execute_of_validate (validate_of_execute h), request_perform a r b q]
  simp only [hs, hw, true_and, if_true]
  rfl

/-- A run that succeeds sends the calls of its steps, and its query replays them. -/
theorem query_of_execute (h : (a.execute b q r).2 = none) :
    (a.execute b q r).1.query = q.replay (a.sent b r) ∧
      a.sent b r = (a.steps r).filterMap Step.call? := by
  have hall := enters_of_execute h
  have hv := validate_of_execute h
  rw [execute_of_validate hv, sent_of_validate hv, Run.perform_of_passes _ hall,
    Run.sent_of_passes hall, Run.query_foldl_apply]
  exact ⟨rfl, rfl⟩

end Success

/-! ## Validating the settled request -/

/-- The settled request passes validation when the default it may carry is declared. -/
theorem validate_settle {a : Adapter} {r : Request} (hv : a.validate r = .ok ())
    (hdef : a.DefaultDeclared r) : a.validate (a.settle r) = .ok () := by
  obtain ⟨hf, hs⟩ := (validate_eq_ok_iff a r).mp hv
  -- the filters are the request's own; the sort keys are its own, or else the default
  refine (validate_eq_ok_iff a _).mpr ⟨hf, ?_⟩
  by_cases he : a.sorts.entries = []
  · exact .inl he
  · obtain ⟨hwf, hdecl⟩ := hs.resolve_left he
    refine .inr ⟨hwf, fun x hx => ?_⟩
    rw [settle_sort] at hx
    unfold Stages.sortKeys at hx
    by_cases hr : r.sort = []
    · simp only [hr, List.isEmpty_nil, if_true, Option.mem_toList] at hx
      exact hdef hr he x hx
    · simp only [List.isEmpty_iff, hr, if_false] at hx
      exact hdecl x hx

/-- The settled request is turned away when it carries a default that a restricting sort
allow-list does not declare: the default is reported. -/
theorem validate_settle_of_undeclared {a : Adapter} {r : Request} (hv : a.validate r = .ok ())
    (hdef : ¬a.DefaultDeclared r) :
    ∃ d, a.defaultSort = some d ∧ a.validate (a.settle r) = .error (.invalidSort d.name) := by
  unfold DefaultDeclared at hdef
  push Not at hdef
  obtain ⟨hr, he, d, hd, hnd⟩ := hdef
  obtain ⟨hf, hs⟩ := (validate_eq_ok_iff a r).mp hv
  have hwf : a.sorts.WellFormed := (hs.resolve_left he).1
  have hsort : (a.settle r).sort = [] ++ d :: [] := by
    rw [settle_sort]
    unfold Stages.sortKeys
    simp [hr, Option.mem_def.mp hd]
  exact ⟨d, hd, validate_of_rejects
    (@Rejects.undeclaredSort a (a.settle r) [] [] d hf he hwf hsort nofun hnd)⟩

/-! ## The rerun -/

/-- Rerunning a settled request that passes validation: it takes every step, makes the calls
of the run, leaves the request settled and loads what the run loaded. -/
theorem execute_settle_of_validate {b : Backend} {a : Adapter} (hops : a.FilterOpsReadFilters)
    {q q' : Select} {r : Request} (h : (a.execute b q r).2 = none)
    (hv' : a.validate (a.settle r) = .ok ()) :
    (a.execute b q' (a.settle r)).2 = none ∧
      (a.execute b q' (a.settle r)).1.query = q'.replay (a.sent b r) ∧
      a.sent b (a.settle r) = a.sent b r ∧
      (a.execute b q' (a.settle r)).1.request = a.settle r ∧
      (a.execute b q' (a.settle r)).1.relations = (a.execute b q r).1.relations := by
  have hall := enters_of_execute h
  obtain ⟨hsub, hcalls⟩ := steps_settle_sub a r hops
  have hall' : Run.Enters b (a.steps (a.settle r)) := fun st hst => hall st (hsub st hst)
  have hok' : (a.execute b q' (a.settle r)).2 = none := by
    rw [execute_of_validate hv']
    exact (Run.perform_snd_eq_none_iff b _ _).mpr hall'
  obtain ⟨hquery', hsent'⟩ := query_of_execute hok'
  have hsent : a.sent b (a.settle r) = a.sent b r := by
    rw [hsent', hcalls, (query_of_execute h).2]
  -- both runs enter the include stage and load the same includes
  have hinc := (enters_stages hall).2.1
  have hinc' := (enters_stages hall').2.1
  have hrel : (a.execute b q' (a.settle r)).1.relations = (a.execute b q r).1.relations := by
    rw [execute_of_validate hv', execute_of_validate (validate_of_execute h),
      relations_perform, relations_perform]
    simp only [hinc, hinc', true_and]
    rfl
  refine ⟨hok', ?_, hsent, ?_, hrel⟩
  · rw [hquery', hsent]
  · rw [request_of_execute hok', settle_settle]

/-- Executing again the request a successful execution wrote back. The first run leaves the
request settled. If the default it may carry is declared (or nothing restricts the sort keys),
the rerun succeeds, makes the calls of the first run, so that its query replays them, leaves
the request as it is and loads the same relations. Otherwise validation turns the rerun away
with the default as an invalid sort key, and nothing is sent. -/
theorem execute_written_back (b : Backend) (a : Adapter) (hops : a.FilterOpsReadFilters)
    (q q' : Select) (r : Request) (h : (a.execute b q r).2 = none) :
    (a.execute b q r).1.request = a.settle r ∧
      (a.execute b q r).1.query = q.replay (a.sent b r) ∧
      (a.DefaultDeclared r →
        (a.execute b q' (a.settle r)).2 = none ∧
          (a.execute b q' (a.settle r)).1.query = q'.replay (a.sent b r) ∧
          a.sent b (a.settle r) = a.sent b r ∧
          (a.execute b q' (a.settle r)).1.request = a.settle r ∧
          (a.execute b q' (a.settle r)).1.relations = (a.execute b q r).1.relations) ∧
      (¬a.DefaultDeclared r → ∃ d, a.defaultSort = some d ∧
        a.execute b q' (a.settle r) =
          ({ query := q', request := a.settle r }, some (.invalidSort d.name)) ∧
        a.sent b (a.settle r) = []) := by
  have hv := validate_of_execute h
  refine ⟨request_of_execute h, (query_of_execute h).1,
    fun hdef => execute_settle_of_validate hops h (validate_settle hv hdef), fun hdef => ?_⟩
  obtain ⟨d, hd, hv'⟩ := validate_settle_of_undeclared hv hdef
  exact ⟨d, hd, execute_of_validate_error b a q' _ _ hv', by simp [sent, hv']⟩

/-- A default the sort allow-list declares, and a window from the pagination defaults: the
request written back carries both, and executing it again makes the calls of the first run. -/
theorem declared_default_reruns_alike :
    (({ sorts := .new [.name "created_at"], defaultSort := some ⟨"created_at", false⟩,
        pagination := some ⟨1, 30⟩ } : Adapter).execute .accepting { table := "records" } {}).1.request =
      { page := some 1, size := some 30, sort := [⟨"created_at", false⟩] } ∧
      (({ sorts := .new [.name "created_at"], defaultSort := some ⟨"created_at", false⟩,
          pagination := some ⟨1, 30⟩ } : Adapter).execute .accepting { table := "records" }
          { page := some 1, size := some 30, sort := [⟨"created_at", false⟩] }).2 = none ∧
      Adapter.sent .accepting
          { sorts := .new [.name "created_at"], defaultSort := some ⟨"created_at", false⟩,
            pagination := some ⟨1, 30⟩ }
          { page := some 1, size := some 30, sort := [⟨"created_at", false⟩] } =
        Adapter.sent .accepting
          { sorts := .new [.name "created_at"], defaultSort := some ⟨"created_at", false⟩,
            pagination := some ⟨1, 30⟩ } {} := by
  have hdecl : DefaultDeclared
      { sorts := .new [.name "created_at"], defaultSort := some ⟨"created_at", false⟩,
        pagination := some ⟨1, 30⟩ } {} := by
    rintro - - d hd
    obtain rfl := (Option.some.inj hd).symm
    exact ⟨.name "created_at", List.mem_singleton_self _, List.mem_singleton_self _⟩
  obtain ⟨hreq, -, hrerun, -⟩ := execute_written_back .accepting
    { sorts := .new [.name "created_at"], defaultSort := some ⟨"created_at", false⟩,
      pagination := some ⟨1, 30⟩ } nofun { table := "records" } { table := "records" } {} rfl
  obtain ⟨hok, -, hsent, -⟩ := hrerun hdecl
  exact ⟨hreq, hok, hsent⟩

/-- A default sort key that the sort allow-list does not declare: the first run applies nothing
for it and succeeds, but the written-back key is turned away when the request is executed
again. -/
theorem undeclared_default_refused_on_rerun :
    ({ sorts := .new [.name "id"], defaultSort := some ⟨"created_at", true⟩ } : Adapter).execute
        .accepting { table := "records" } {} =
      ({ query := { table := "records" }, request := { sort := [⟨"created_at", true⟩] } }, none) ∧
      (({ sorts := .new [.name "id"], defaultSort := some ⟨"created_at", true⟩ } : Adapter).execute
        .accepting { table := "records" } { sort := [⟨"created_at", true⟩] }).2 =
        some (.invalidSort "created_at") := by
  exact ⟨rfl, rfl⟩

end Adapter

end QueryCompiler
