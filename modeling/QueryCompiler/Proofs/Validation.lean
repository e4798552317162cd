import QueryCompiler.Proofs.AllowIndex

/-!
# Validation

Validation decides, before anything is built, whether a request is turned away and with which
error. Its checks run in a fixed order and the first failure is reported:

1. a non-empty filter allow-list holding a malformed entry: the first such entry, by position;
2. a filter key that no entry declares: the least such key;
3. a non-empty sort allow-list holding a malformed entry: the first such entry;
4. a requested sort key whose name no entry declares: the first in request order. A default
   sort is not requested, and is not checked.

An empty allow-list accepts every request, unchecked. `Adapter.Rejects` states these rules
without the validator, and `validate_eq_error_iff` shows the validator follows them. A request
turned away leaves the query, the request and the session's relations as they were, and the
backend receives no call (`Session.validation_rejects_iff`).
-/

namespace QueryCompiler

namespace Adapter

/-- The filters pass validation: the filter allow-list is empty, or it is well formed and
declares every filter key. -/
def FiltersPass (a : Adapter) (r : Request) : Prop :=
  a.filters.entries = [] ∨ (a.filters.WellFormed ∧ ∀ k ∈ r.filters.keys, a.filters.Declared k)

/-- The requested sort keys pass validation: the sort allow-list is empty, or it is well formed
and declares the name of every requested key. -/
def SortsPass (a : Adapter) (r : Request) : Prop :=
  a.sorts.entries = [] ∨ (a.sorts.WellFormed ∧ ∀ x ∈ r.sort, a.sorts.Declared x.name)

/-- Why validation turns a request away, and the error it reports; the cases are checked in
this order. -/
inductive Rejects (a : Adapter) (r : Request) : PlanError → Prop
  /-- The filter allow-list holds a malformed entry; the first is named. -/
  | malformedFilters {i : Nat} {why : String} :
      a.filters.entries ≠ [] → a.filters.FirstMalformed i why →
      Rejects a r (.configuration ("allow-list entry #" ++ toString i ++ " " ++ why))
  /-- A filter key that no entry declares; the least is reported. -/
  | undeclaredFilter {k : String} :
      a.filters.entries ≠ [] → a.filters.WellFormed → k ∈ r.filters.keys →
      ¬a.filters.Declared k → (∀ k' ∈ r.filters.keys, k' < k → a.filters.Declared k') →
      Rejects a r (.invalidFilter k)
  /-- The filters pass, and the sort allow-list holds a malformed entry; the first is named. -/
  | malformedSorts {i : Nat} {why : String} :
      a.FiltersPass r → a.sorts.entries ≠ [] → a.sorts.FirstMalformed i why →
      Rejects a r (.configuration ("allow-list entry #" ++ toString i ++ " " ++ why))
  /-- The filters pass, and a requested sort key names what no entry declares; the first such
  key is reported. -/
  | undeclaredSort {pre post : List SortKey} {x : SortKey} :
      a.FiltersPass r → a.sorts.entries ≠ [] → a.sorts.WellFormed → r.sort = pre ++ x :: post →
      (∀ y ∈ pre, a.sorts.Declared y.name) → ¬a.sorts.Declared x.name →
      Rejects a r (.invalidSort x.name)

/-- The filter check passes exactly when the filters pass. -/
theorem validateFilters_eq_ok_iff (a : Adapter) (r : Request) :
    validateFilters a.filters r = .ok () ↔ a.FiltersPass r := by
  unfold validateFilters FiltersPass
  by_cases he : a.filters.entries = []
  · simp [AllowList.isEmpty, he]
  · rw [(AllowList.isEmpty_eq_false_iff _).mpr he]
    cases hc : a.filters.checkStructure with
    | error e =>
      have hwf : ¬a.filters.WellFormed := fun hwf => by
        rw [(AllowList.checkStructure_eq_ok_iff _).mpr hwf] at hc
        cases hc
      simp [bind, Except.bind, he, hwf]
    | ok u =>
      have hwf := (AllowList.checkStructure_eq_ok_iff _).mp hc
      cases hf : r.filters.keys.find? (fun k => !a.filters.contains k) with
      | none =>
        have hall := List.find?_eq_none.mp hf
        simp [bind, Except.bind, he, hwf, AllowList.contains_eq_true_iff] at hall ⊢
        exact hall
      | some k =>
        obtain ⟨hk, hnk, -⟩ := (NameMap.find?_keys_eq_some_iff _ _ _).mp hf
        have hnd : ¬a.filters.Declared k := by
          rw [← AllowList.contains_eq_true_iff]
          simpa using hnk
        simp [bind, Except.bind, he]
        intro _
        exact ⟨k, hk, hnd⟩

/-- The sort check passes exactly when the requested sort keys pass. -/
theorem validateSorts_eq_ok_iff (a : Adapter) (r : Request) :
    validateSorts a.sorts r = .ok () ↔ a.SortsPass r := by
  unfold validateSorts SortsPass
  by_cases he : a.sorts.entries = []
  · simp [AllowList.isEmpty, he]
  · rw [(AllowList.isEmpty_eq_false_iff _).mpr he]
    cases hc : a.sorts.checkStructure with
    | error e =>
      have hwf : ¬a.sorts.WellFormed := fun hwf => by
        rw [(AllowList.checkStructure_eq_ok_iff _).mpr hwf] at hc
        cases hc
      simp [bind, Except.bind, he, hwf]
    | ok u =>
      have hwf := (AllowList.checkStructure_eq_ok_iff _).mp hc
      cases hf : r.sort.find? (fun x => !a.sorts.contains x.name) with
      | none =>
        have hall := List.find?_eq_none.mp hf
        simp [bind, Except.bind, he, hwf, AllowList.contains_eq_true_iff] at hall ⊢
        exact hall
      | some x =>
        obtain ⟨hnx, -⟩ := List.find?_eq_some_iff_append.mp hf
        have hnd : ¬a.sorts.Declared x.name := by
          rw [← AllowList.contains_eq_true_iff]
          simpa using hnx
        simp [bind, Except.bind, he]
        intro _
        exact ⟨x, List.mem_of_find?_eq_some hf, hnd⟩

/-- A failing filter check is one of the two filter rejections. -/
theorem rejects_of_validateFilters {a : Adapter} {r : Request} {e : PlanError}
    (h : validateFilters a.filters r = .error e) : a.Rejects r e := by
  unfold validateFilters at h
  by_cases he : a.filters.entries = []
  · simp [AllowList.isEmpty, he] at h
  · rw [(AllowList.isEmpty_eq_false_iff _).mpr he] at h
    cases hc : a.filters.checkStructure with
    | error e' =>
      simp only [hc, bind, Except.bind, Bool.false_eq_true, if_false] at h
      obtain ⟨i, why, hfirst, rfl⟩ := (AllowList.checkStructure_eq_error_iff _ _).mp hc
      cases h
      exact .malformedFilters he hfirst
    | ok u =>
      have hwf := (AllowList.checkStructure_eq_ok_iff _).mp hc
      cases hf : r.filters.keys.find? (fun k => !a.filters.contains k) with
      | none => simp [hc, hf, bind, Except.bind] at h
      | some k =>
        simp only [hc, hf, bind, Except.bind, Bool.false_eq_true, if_false,
          Except.error.injEq] at h
        subst h
        obtain ⟨hk, hnk, hleast⟩ := (NameMap.find?_keys_eq_some_iff _ _ _).mp hf
        refine .undeclaredFilter he hwf hk ?_ fun k' hk' hlt => ?_
        · rw [← AllowList.contains_eq_true_iff]
          simpa using hnk
        · rw [← AllowList.contains_eq_true_iff]
          simpa using hleast k' hk' hlt

/-- A failing sort check, after the filters pass, is one of the two sort rejections. -/
theorem rejects_of_validateSorts {a : Adapter} {r : Request} {e : PlanError}
    (hpass : a.FiltersPass r) (h : validateSorts a.sorts r = .error e) : a.Rejects r e := by
  unfold validateSorts at h
  by_cases he : a.sorts.entries = []
  · simp [AllowList.isEmpty, he] at h
  · rw [(AllowList.isEmpty_eq_false_iff _).mpr he] at h
    cases hc : a.sorts.checkStructure with
    | error e' =>
      simp only [hc, bind, Except.bind, Bool.false_eq_true, if_false] at h
      obtain ⟨i, why, hfirst, rfl⟩ := (AllowList.checkStructure_eq_error_iff _ _).mp hc
      cases h
      exact .malformedSorts hpass he hfirst
    | ok u =>
      have hwf := (AllowList.checkStructure_eq_ok_iff _).mp hc
      cases hf : r.sort.find? (fun x => !a.sorts.contains x.name) with
      | none => simp [hc, hf, bind, Except.bind] at h
      | some x =>
        simp only [hc, hf, bind, Except.bind, Bool.false_eq_true, if_false,
          Except.error.injEq] at h
        subst h
        obtain ⟨hnx, pre, post, hsplit, hpre⟩ := List.find?_eq_some_iff_append.mp hf
        refine .undeclaredSort hpass he hwf hsplit (fun y hy => ?_) ?_
        · rw [← AllowList.contains_eq_true_iff]
          simpa using hpre y hy
        · rw [← AllowList.contains_eq_true_iff]
          simpa using hnx

/-- Each rejection is what the validator reports. -/
theorem validate_of_rejects {a : Adapter} {r : Request} {e : PlanError} (h : a.Rejects r e) :
    a.validate r = .error e := by
  cases h with
  | malformedFilters he hfirst =>
    have hc := (AllowList.checkStructure_eq_error_iff a.filters _).mpr ⟨_, _, hfirst, rfl⟩
    simp [validate, validateFilters, (AllowList.isEmpty_eq_false_iff _).mpr he, hc,
      bind, Except.bind]
  | @undeclaredFilter k he hwf hk hnd hleast =>
    have hc := (AllowList.checkStructure_eq_ok_iff a.filters).mpr hwf
    have hf : r.filters.keys.find? (fun k => !a.filters.contains k) = some k := by
      refine (NameMap.find?_keys_eq_some_iff _ _ _).mpr ⟨hk, ?_, fun k' hk' hlt => ?_⟩
      · have : a.filters.contains k ≠ true := fun h => hnd ((AllowList.contains_eq_true_iff _ _).mp h)
        simpa using this
      · simpa [AllowList.contains_eq_true_iff] using hleast k' hk' hlt
    simp [validate, validateFilters, (AllowList.isEmpty_eq_false_iff _).mpr he, hc, hf,
      bind, Except.bind]
  | malformedSorts hpass he hfirst =>
    have hfilters := (validateFilters_eq_ok_iff a r).mpr hpass
    have hc := (AllowList.checkStructure_eq_error_iff a.sorts _).mpr ⟨_, _, hfirst, rfl⟩
    simp [validate, hfilters, validateSorts, (AllowList.isEmpty_eq_false_iff _).mpr he, hc,
      bind, Except.bind]
  | @undeclaredSort pre post x hpass he hwf hsplit hpre hnd =>
    have hfilters := (validateFilters_eq_ok_iff a r).mpr hpass
    have hc := (AllowList.checkStructure_eq_ok_iff a.sorts).mpr hwf
    have hf : r.sort.find? (fun x => !a.sorts.contains x.name) = some x := by
      refine List.find?_eq_some_iff_append.mpr ⟨?_, _, _, hsplit, fun y hy => ?_⟩
      · have : a.sorts.contains x.name ≠ true := fun h =>
          hnd ((AllowList.contains_eq_true_iff _ _).mp h)
        simpa using this
      · simpa [AllowList.contains_eq_true_iff] using hpre y hy
    simp [validate, hfilters, validateSorts, (AllowList.isEmpty_eq_false_iff _).mpr he, hc, hf,
      bind, Except.bind]

/-- Validation turns a request away with an error exactly in the four cases of `Rejects`. -/
theorem validate_eq_error_iff (a : Adapter) (r : Request) (e : PlanError) :
    a.validate r = .error e ↔ a.Rejects r e := by
  refine ⟨fun h => ?_, validate_of_rejects⟩
  cases hf : validateFilters a.filters r with
  | error e' =>
    have : e' = e := by simpa [validate, hf, bind, Except.bind] using h
    subst this
    exact rejects_of_validateFilters hf
  | ok u =>
    have hpass := (validateFilters_eq_ok_iff a r).mp hf
    cases hs : validateSorts a.sorts r with
    | error e' =>
      have : e' = e := by simpa [validate, hf, hs, bind, Except.bind] using h
      subst this
      exact rejects_of_validateSorts hpass hs
    | ok v => simp [validate, hf, hs, bind, Except.bind] at h

/-- Validation lets a request through exactly when its filters and its requested sort keys
pass. -/
theorem validate_eq_ok_iff (a : Adapter) (r : Request) :
    a.validate r = .ok () ↔ a.FiltersPass r ∧ a.SortsPass r := by
  rw [← validateFilters_eq_ok_iff, ← validateSorts_eq_ok_iff]
  simp only [validate, bind, Except.bind]
  cases validateFilters a.filters r <;> cases validateSorts a.sorts r <;> simp

end Adapter

namespace Session

/-- Validation turns a request away exactly in the four cases of `Adapter.Rejects`, with the
error they give. A request turned away reaches no builder: the backend receives no call, the
query and the request are as they were, and the session holds no relations, not even those of
its last execution. -/
theorem validation_rejects_iff (s : Session) (b : Backend) (q : Select) (r : Request)
    (e : PlanError) :
    (s.adapter.validate r = .error e ↔ s.adapter.Rejects r e) ∧
      (s.adapter.Rejects r e →
        s.execute b q r = ({ s with relations := [] }, { query := q, request := r }, some e) ∧
          s.adapter.sent b r = []) := by
  refine ⟨Adapter.validate_eq_error_iff _ _ _, fun h => ?_⟩
  have hv := Adapter.validate_of_rejects h
  refine ⟨?_, by simp [Adapter.sent, hv]⟩
  simp [execute, Adapter.execute_of_validate_error b _ q r e hv]

/-- A filter key missing from a one-name allow-list turns the request away before anything is
built, and clears the relations an earlier execution left. -/
theorem validation_rejects_unknown_filter :
    Adapter.Rejects { filters := .new [.name "status"] }
        { filters := (∅ : NameMap Scalar).insert "active" (.int 1) } (.invalidFilter "active") ∧
      Session.execute { adapter := { filters := .new [.name "status"] }, relations := ["Wallet"] }
          .accepting { table := "users" }
          { filters := (∅ : NameMap Scalar).insert "active" (.int 1) } =
        ({ adapter := { filters := .new [.name "status"] }, relations := [] },
          { query := { table := "users" },
            request := { filters := (∅ : NameMap Scalar).insert "active" (.int 1) } },
          some (.invalidFilter "active")) := by
  have h := validation_rejects_iff
    { adapter := { filters := .new [.name "status"] }, relations := ["Wallet"] } .accepting
    { table := "users" } { filters := (∅ : NameMap Scalar).insert "active" (.int 1) }
    (.invalidFilter "active")
  have hr := h.1.mp rfl
  exact ⟨hr, (h.2 hr).1⟩

end Session

end QueryCompiler
