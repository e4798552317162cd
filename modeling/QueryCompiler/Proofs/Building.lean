import QueryCompiler.Config.Decode
import QueryCompiler.Config.Registry
import QueryCompiler.Proofs.Validation

/-!
# Building adapters from configurations

Two checks look at the entries of a configuration. `Config.build` resolves them against a
registry of operations: a handle the registry does not hold is refused, and so is an exact or
substring entry among the sorts. `AllowList.checkStructure` later refuses an allow-list entry
that declares no name, or the empty name.

The two agree. A loaded configuration has no empty entry names (`Config.names_of_ofText`), so
once its entries resolve against a registry whose operations all declare names, none of them
empty, the allow-lists built are well formed (`Config.wellFormed_of_build`), and validation
never refuses a request of the built adapter for its structure. The build itself succeeds
exactly when every entry resolves, and otherwise fails on the first entry that does not,
the filters all checked before the sorts (`Config.build_agrees_with_checkStructure`).
-/

namespace QueryCompiler

namespace Registry

/-- Every registered operation declares at least one name, and no empty name. -/
def Sound (reg : Registry) : Prop :=
  (∀ h o, reg.filters.get? h = some o → o.keys ≠ [] ∧ "" ∉ o.keys) ∧
    ∀ h o, reg.sorts.get? h = some o → o.names ≠ [] ∧ "" ∉ o.names

end Registry

namespace Config

/-! ## Resolving a list of entries -/

section MapM

variable {α β ε : Type} {f : α → Except ε β}

theorem exists_eq_ok_of_isOk {x : Except ε β} (h : x.isOk = true) : ∃ b, x = .ok b := by
  cases x with
  | ok b => exact ⟨b, rfl⟩
  | error e => simp [Except.isOk, Except.toBool] at h

theorem eq_ok_of_toOption {x : Except ε β} {b : β} (h : x.toOption = some b) : x = .ok b := by
  cases x <;> simp_all [Except.toOption]

/-- A traversal fails with the error of the first element that fails. -/
theorem mapM_error_of_first {pre post : List α} {x : α} {e : ε}
    (hpre : ∀ y ∈ pre, (f y).isOk = true) (hx : f x = .error e) :
    (pre ++ x :: post).mapM f = .error e := by
  induction pre with
  | nil => simp [List.mapM_cons, hx, bind, Except.bind]
  | cons y ys ih =>
    obtain ⟨b, hb⟩ := exists_eq_ok_of_isOk (hpre y (List.mem_cons_self ..))
    rw [List.cons_append, List.mapM_cons, hb, ih fun z hz => hpre z (List.mem_cons_of_mem _ hz)]
    rfl

/-- A traversal succeeds exactly when every element does. -/
theorem mapM_isOk_iff (xs : List α) : (xs.mapM f).isOk = true ↔ ∀ x ∈ xs, (f x).isOk = true := by
  induction xs with
  | nil => simp [List.mapM_nil, pure, Except.pure, Except.isOk, Except.toBool]
  | cons x xs ih =>
    rw [List.mapM_cons, List.forall_mem_cons, ← ih]
    cases f x <;> cases xs.mapM f <;> simp [bind, Except.bind, pure, Except.pure, Except.isOk,
      Except.toBool]

/-- Each result of a successful traversal is the result of some element. -/
theorem exists_of_mem_mapM {xs : List α} {ys : List β} (h : xs.mapM f = .ok ys) :
    ∀ y ∈ ys, ∃ x ∈ xs, f x = .ok y := by
  induction xs generalizing ys with
  | nil =>
    simp only [List.mapM_nil, pure, Except.pure, Except.ok.injEq] at h
    simp [← h]
  | cons x xs ih =>
    rw [List.mapM_cons] at h
    cases hx : f x with
    | error e => simp [hx, bind, Except.bind] at h
    | ok b =>
      cases hxs : xs.mapM f with
      | error e => simp [hx, hxs, bind, Except.bind] at h
      | ok bs =>
        simp only [hx, hxs, bind, Except.bind, pure, Except.pure, Except.ok.injEq] at h
        subst h
        intro y hy
        rcases List.mem_cons.mp hy with rfl | hy
        · exact ⟨x, List.mem_cons_self .., hx⟩
        · obtain ⟨z, hz, hfz⟩ := ih hxs y hy
          exact ⟨z, List.mem_cons_of_mem _ hz, hfz⟩

end MapM

/-! ## Entries that do not resolve -/

namespace Entry

/-- A filter entry naming a handle under which the registry holds no filter operation. -/
def UnknownFilter (reg : Registry) : Entry → Prop
  | .custom h => reg.filters.get? h = none
  | _ => False

/-- A sort entry the registry cannot resolve: a handle under which it holds no sort
operation, or an exact or substring entry. -/
def BadSort (reg : Registry) : Entry → Prop
  | .name _ => False
  | .custom h => reg.sorts.get? h = none
  | .exact _ | .search _ => True

/-- Why a sort entry that does not resolve is refused. -/
def sortRefusal : Entry → String
  | .custom h => "unknown custom sort \x27" ++ h ++ "\x27"
  | .name s | .exact s | .search s =>
    "sort entry \x27" ++ s ++ "\x27 must be a column name or a custom operation"

end Entry

variable {reg : Registry}

theorem filterRule_isOk_iff (x : Entry) : (filterRule reg x).isOk = true ↔ ¬x.UnknownFilter reg := by
  cases x with
  | custom h =>
    cases hh : reg.filters.get? h <;>
      simp [filterRule, Entry.UnknownFilter, hh, Except.isOk, Except.toBool]
  | _ => simp [filterRule, Entry.UnknownFilter, Except.isOk, Except.toBool]

theorem filterRule_of_unknown {x : Entry} (hx : x.UnknownFilter reg) :
    filterRule reg x = .error (.configuration ("unknown custom filter \x27" ++ x.text ++ "\x27")) := by
  cases x with
  | custom h => simp only [Entry.UnknownFilter] at hx; simp [filterRule, hx, Entry.text]
  | _ => exact hx.elim

theorem sortRule_isOk_iff (x : Entry) : (sortRule reg x).isOk = true ↔ ¬x.BadSort reg := by
  cases x with
  | custom h =>
    cases hh : reg.sorts.get? h <;>
      simp [sortRule, Entry.BadSort, hh, Except.isOk, Except.toBool]
  | _ => simp [sortRule, Entry.BadSort, Except.isOk, Except.toBool]

theorem sortRule_of_bad {x : Entry} (hx : x.BadSort reg) :
    sortRule reg x = .error (.configuration x.sortRefusal) := by
  cases x with
  | name s => exact hx.elim
  | custom h =>
    simp only [Entry.BadSort] at hx
    simp only [sortRule, hx]
    rfl
  | exact s | search s => rfl

/-! ## Resolved entries are well formed -/

/-- An allow-list entry that declares names, none of them empty, is sound. -/
theorem entryFault_eq_none {α : Type} [Declares α] {e : α}
    (h : Declares.declared e ≠ [] ∧ "" ∉ Declares.declared e) : AllowList.entryFault e = none := by
  simp [AllowList.entryFault, h.1, h.2]

/-- An entry with a name resolves to a filter rule that declares names, none empty. -/
theorem entryFault_filterRule (hreg : reg.Sound) {x : Entry} (hx : x.text ≠ "")
    {rule : FilterRule} (h : filterRule reg x = .ok rule) : AllowList.entryFault rule = none := by
  cases x with
  | name s | exact s | search s =>
    simp only [filterRule, Except.ok.injEq] at h
    subst h
    simpa [AllowList.entryFault, Declares.declared, FilterOp.keys, Entry.text, eq_comm] using hx
  | custom hd =>
    cases ho : reg.filters.get? hd with
    | none => simp [filterRule, ho] at h
    | some o =>
      simp only [filterRule, ho, Except.ok.injEq] at h
      subst h
      exact entryFault_eq_none (hreg.1 hd o ho)

/-- An entry with a name resolves to a sort rule that declares names, none empty. -/
theorem entryFault_sortRule (hreg : reg.Sound) {x : Entry} (hx : x.text ≠ "")
    {rule : SortRule} (h : sortRule reg x = .ok rule) : AllowList.entryFault rule = none := by
  cases x with
  | name s =>
    simp only [sortRule, Except.ok.injEq] at h
    subst h
    simpa [AllowList.entryFault, Declares.declared, Entry.text, eq_comm] using hx
  | custom hd =>
    cases ho : reg.sorts.get? hd with
    | none => simp [sortRule, ho] at h
    | some o =>
      simp only [sortRule, ho, Except.ok.injEq] at h
      subst h
      exact entryFault_eq_none (hreg.2 hd o ho)
  | _ => simp [sortRule] at h

/-- A configuration that passes its own checks names every filter and sort entry. -/
theorem names_of_validate {c : Config} (hv : c.validate = .ok ()) :
    (∀ x ∈ c.filters, x.text ≠ "") ∧ ∀ x ∈ c.sorts, x.text ≠ "" := by
  unfold validate at hv
  cases hf : firstIndex? (fun e => e.text.isEmpty) c.filters with
  | some i => simp [hf, throw, throwThe, MonadExceptOf.throw, bind, Except.bind] at hv
  | none =>
    cases hs : firstIndex? (fun e => e.text.isEmpty) c.sorts with
    | some i => simp [hf, hs, throw, throwThe, MonadExceptOf.throw, bind, Except.bind] at hv
    | none =>
      simp only [firstIndex?, List.findIdx?_eq_none_iff] at hf hs
      exact ⟨fun x hx => by simpa using hf x hx, fun x hx => by simpa using hs x hx⟩

/-- A configuration read from a text names every filter and sort entry. -/
theorem names_of_ofText {t : String} {c : Config} (h : ofText t = .ok c) :
    (∀ x ∈ c.filters, x.text ≠ "") ∧ ∀ x ∈ c.sorts, x.text ≠ "" := by
  unfold ofText at h
  cases hp : Json.parse t with
  | none => simp [hp, throw, throwThe, MonadExceptOf.throw] at h
  | some v =>
    cases hj : ofJson? v with
    | none => simp [hp, hj, throw, throwThe, MonadExceptOf.throw] at h
    | some c' =>
      cases hv : c'.validate with
      | error e => simp [hp, hj, hv, bind, Except.bind] at h
      | ok u =>
        simp only [hp, hj, hv, bind, Except.bind, pure, Except.pure, Except.ok.injEq] at h
        subst h
        exact names_of_validate hv

/-- What a successful build makes of the configuration. -/
theorem build_eq_ok {c : Config} {a : Adapter} (h : c.build reg = .ok a) :
    ∃ fs ss, c.filters.mapM (filterRule reg) = .ok fs ∧ c.sorts.mapM (sortRule reg) = .ok ss ∧
      a.filters = .new fs ∧ a.sorts = .new ss := by
  unfold build at h
  cases hf : c.filters.mapM (filterRule reg) with
  | error e => simp [hf, bind, Except.bind] at h
  | ok fs =>
    cases hs : c.sorts.mapM (sortRule reg) with
    | error e => simp [hf, hs, bind, Except.bind] at h
    | ok ss =>
      simp only [hf, hs, bind, Except.bind, pure, Except.pure, Except.ok.injEq] at h
      exact ⟨fs, ss, rfl, rfl, by rw [← h], by rw [← h]⟩

/-- The allow-lists built from a loaded configuration are well formed. -/
theorem wellFormed_of_build (hreg : reg.Sound) {t : String} {c : Config} (ht : ofText t = .ok c)
    {a : Adapter} (h : c.build reg = .ok a) : a.filters.WellFormed ∧ a.sorts.WellFormed := by
  obtain ⟨hnf, hns⟩ := names_of_ofText ht
  obtain ⟨fs, ss, hfs, hss, haf, has⟩ := build_eq_ok h
  rw [haf, has]
  constructor
  · intro rule hrule
    obtain ⟨x, hx, hxr⟩ := exists_of_mem_mapM hfs rule hrule
    exact entryFault_filterRule hreg (hnf x hx) hxr
  · intro rule hrule
    obtain ⟨x, hx, hxr⟩ := exists_of_mem_mapM hss rule hrule
    exact entryFault_sortRule hreg (hns x hx) hxr

/-! ## The build -/

/-- The conditions on the entries, as a reader states them, say that every entry resolves. -/
theorem entries_resolve_iff (c : Config) :
    ((∀ h, .custom h ∈ c.filters → (reg.filters.get? h).isSome) ∧
        (∀ h, .custom h ∈ c.sorts → (reg.sorts.get? h).isSome) ∧
        ∀ s, .exact s ∉ c.sorts ∧ .search s ∉ c.sorts) ↔
      (∀ x ∈ c.filters, ¬x.UnknownFilter reg) ∧ ∀ x ∈ c.sorts, ¬x.BadSort reg := by
  constructor
  · rintro ⟨hf, hs, hes⟩
    refine ⟨fun x hx => ?_, fun x hx => ?_⟩
    · cases x with
      | custom h => simpa [Entry.UnknownFilter, Option.isSome_iff_ne_none] using hf h hx
      | _ => exact id
    · cases x with
      | name _ => exact id
      | custom h => simpa [Entry.BadSort, Option.isSome_iff_ne_none] using hs h hx
      | exact s => exact absurd hx (hes s).1
      | search s => exact absurd hx (hes s).2
  · rintro ⟨hf, hs⟩
    refine ⟨fun h hh => ?_, fun h hh => ?_, fun s => ⟨fun hx => hs _ hx trivial,
      fun hx => hs _ hx trivial⟩⟩
    · simpa [Entry.UnknownFilter, Option.isSome_iff_ne_none] using hf _ hh
    · simpa [Entry.BadSort, Option.isSome_iff_ne_none] using hs _ hh

theorem isOk_build (c : Config) :
    (c.build reg).isOk =
      ((c.filters.mapM (filterRule reg)).isOk && (c.sorts.mapM (sortRule reg)).isOk) := by
  unfold build
  cases c.filters.mapM (filterRule reg) <;> cases c.sorts.mapM (sortRule reg) <;> rfl

/-- The build succeeds exactly when every entry resolves. -/
theorem build_isOk_iff (c : Config) :
    (c.build reg).isOk = true ↔
      (∀ x ∈ c.filters, ¬x.UnknownFilter reg) ∧ ∀ x ∈ c.sorts, ¬x.BadSort reg := by
  rw [isOk_build, Bool.and_eq_true, mapM_isOk_iff, mapM_isOk_iff]
  simp only [filterRule_isOk_iff, sortRule_isOk_iff]

/-- The build fails on the first filter entry that does not resolve. -/
theorem build_of_unknownFilter {c : Config} {pre post : List Entry} {x : Entry}
    (hc : c.filters = pre ++ x :: post) (hpre : ∀ y ∈ pre, ¬y.UnknownFilter reg)
    (hx : x.UnknownFilter reg) :
    c.build reg = .error (.configuration ("unknown custom filter \x27" ++ x.text ++ "\x27")) := by
  have hpre' : ∀ y ∈ pre, (filterRule reg y).isOk = true :=
    fun y hy => (filterRule_isOk_iff y).mpr (hpre y hy)
  unfold build
  rw [hc, mapM_error_of_first hpre' (filterRule_of_unknown hx)]
  rfl

/-- Once every filter entry resolves, the build fails on the first sort entry that does not. -/
theorem build_of_badSort {c : Config} (hf : ∀ y ∈ c.filters, ¬y.UnknownFilter reg)
    {pre post : List Entry} {x : Entry} (hc : c.sorts = pre ++ x :: post)
    (hpre : ∀ y ∈ pre, ¬y.BadSort reg) (hx : x.BadSort reg) :
    c.build reg = .error (.configuration x.sortRefusal) := by
  have hpre' : ∀ y ∈ pre, (sortRule reg y).isOk = true :=
    fun y hy => (sortRule_isOk_iff y).mpr (hpre y hy)
  obtain ⟨fs, hfs⟩ := exists_eq_ok_of_isOk
    ((mapM_isOk_iff c.filters).mpr fun y hy => (filterRule_isOk_iff y).mpr (hf y hy))
  unfold build
  rw [hfs, hc, mapM_error_of_first hpre' (sortRule_of_bad hx)]
  rfl

end Config

namespace Adapter

/-- An adapter with well-formed allow-lists is refused only for an undeclared filter key or
sort key, never for its structure. -/
theorem validate_error_of_wellFormed {a : Adapter} (hf : a.filters.WellFormed)
    (hs : a.sorts.WellFormed) {r : Request} {e : PlanError} (h : a.validate r = .error e) :
    ∃ k, e = .invalidFilter k ∨ e = .invalidSort k := by
  cases (validate_eq_error_iff a r e).mp h with
  | malformedFilters _ hm =>
    obtain ⟨pre, x, post, hl, -, -, hx⟩ := hm
    simp [hf x (by simp [hl])] at hx
  | undeclaredFilter => exact ⟨_, .inl rfl⟩
  | malformedSorts _ _ hm =>
    obtain ⟨pre, x, post, hl, -, -, hx⟩ := hm
    simp [hs x (by simp [hl])] at hx
  | undeclaredSort => exact ⟨_, .inr rfl⟩

end Adapter

namespace Config

/-- Building an adapter from a loaded configuration, with a registry whose operations all
declare names, none empty. The build succeeds exactly when every custom filter handle is
registered as a filter, every custom sort handle as a sort, and no sort entry is an exact or
substring entry. Otherwise it fails on the first filter entry that does not resolve, and only
when all filter entries resolve, on the first sort entry that does not. The adapter built has
well-formed allow-lists, so validation refuses its requests only for undeclared keys, never
with the configuration error of the structure check. -/
theorem build_agrees_with_checkStructure (t : String) (c : Config) (reg : Registry)
    (ht : ofText t = .ok c) (hreg : reg.Sound) :
    ((c.build reg).isOk = true ↔
        (∀ h, .custom h ∈ c.filters → (reg.filters.get? h).isSome) ∧
          (∀ h, .custom h ∈ c.sorts → (reg.sorts.get? h).isSome) ∧
          ∀ s, .exact s ∉ c.sorts ∧ .search s ∉ c.sorts) ∧
      (∀ pre x post, c.filters = pre ++ x :: post → (∀ y ∈ pre, ¬y.UnknownFilter reg) →
        x.UnknownFilter reg →
        c.build reg = .error (.configuration ("unknown custom filter \x27" ++ x.text ++ "\x27"))) ∧
      ((∀ y ∈ c.filters, ¬y.UnknownFilter reg) →
        ∀ pre x post, c.sorts = pre ++ x :: post → (∀ y ∈ pre, ¬y.BadSort reg) →
        x.BadSort reg → c.build reg = .error (.configuration x.sortRefusal)) ∧
      ∀ a, c.build reg = .ok a → a.filters.WellFormed ∧ a.sorts.WellFormed ∧
        ∀ r e, a.validate r = .error e → ∃ k, e = .invalidFilter k ∨ e = .invalidSort k := by
  refine ⟨(build_isOk_iff c).trans (entries_resolve_iff c).symm,
    fun _ _ _ hc hpre hx => build_of_unknownFilter hc hpre hx,
    fun hf _ _ _ hc hpre hx => build_of_badSort hf hc hpre hx, fun a ha => ?_⟩
  obtain ⟨hwf, hws⟩ := wellFormed_of_build hreg ht ha
  exact ⟨hwf, hws, fun r e => Adapter.validate_error_of_wellFormed hwf hws⟩

/-- A configuration with a registered custom filter and a substring entry among its sorts:
the filter resolves, and the build fails on the sort entry. -/
theorem search_sort_entry_refused :
    ofText "\x7b\"filters\": [\x7b\"custom\": \"age_range\"\x7d], \"sorts\": [\x7b\"search\": \"name\"\x7d]\x7d" =
        .ok { filters := [.custom "age_range"], sorts := [.search "name"] } ∧
      build { filters := [.custom "age_range"], sorts := [.search "name"] }
          (({} : Registry).addFilter "age_range" (.custom ["age_min", "age_max"] fun _ => [])) =
        .error (.configuration (Entry.search "name").sortRefusal) := by
  have ht : ofText "\x7b\"filters\": [\x7b\"custom\": \"age_range\"\x7d], \"sorts\": [\x7b\"search\": \"name\"\x7d]\x7d" =
      .ok { filters := [.custom "age_range"], sorts := [.search "name"] } :=
    eq_ok_of_toOption (by decide +kernel)
  have hreg : Registry.Sound
      (({} : Registry).addFilter "age_range" (.custom ["age_min", "age_max"] fun _ => [])) := by
    refine ⟨fun h o ho => ?_, fun h o ho => by simp [Registry.addFilter] at ho⟩
    by_cases hh : "age_range" = h
    · subst hh
      simp only [Registry.addFilter, NameMap.get?_insert_self, Option.some.injEq] at ho
      subst ho
      exact ⟨by decide, by decide⟩
    · simp [Registry.addFilter, NameMap.get?_insert_ne _ _ hh] at ho
  have hf : ∀ y ∈ [Entry.custom "age_range"], ¬y.UnknownFilter
      (({} : Registry).addFilter "age_range" (.custom ["age_min", "age_max"] fun _ => [])) := by
    simp [Entry.UnknownFilter, Registry.addFilter]
  exact ⟨ht, (build_agrees_with_checkStructure _ _ _ ht hreg).2.2.1 hf [] (.search "name") [] rfl
    nofun trivial⟩

end Config

end QueryCompiler
