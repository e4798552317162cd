import QueryCompiler.Proofs.Validation

/-!
# The allow-lists are enforced

A non-empty allow-list is enforced twice: validation checks the request's names against the
list's name index (`AllowList.contains`), which holds the names the entries declare
(`AllowList.names_eq`), and the stages scan the entries themselves, each with its own test (a plain name equal to the key, an operation listing it). The two agree, so
a request that passes validation loses nothing in the scan, and nothing reaches the builder
from the stages that the allow-lists do not account for:

* filters: every supplied key is served by an entry that declares it, and each step of the
  filter and free-text stages comes from a supplied key and an entry declaring it
  (`FilterSource`): a plain name's substring match on its own column, an exact or substring
  operation's match on its column, a caller's operation for a key it declares, or the free
  text matched on plain-name columns;
* sorts: every requested key is served by an entry that declares its name, and each step of
  the sort stage is the write-back of the keys in effect, an operation's run for a key whose
  name it declares, or one ordering by keys that plain names declare (`SortSource`), the
  default key included although validation never checks it;
* includes: every relation loaded and recorded is read from an include the allow-list names
  (`IncludeSource`).

What a caller's operation does when it runs is its own: it may order by any column or load any
relation.
-/

namespace QueryCompiler

/-! ## Filters -/

/-- Where a step of the filter and free-text stages comes from. -/
inductive FilterSource (allow : AllowList FilterRule) (r : Request) : Step → Prop
  /-- A supplied filter on a plain-name column, matched as a substring. -/
  | plain {k : String} {v : Scalar} :
      (k, v) ∈ r.filters.toList → .name k ∈ allow.entries →
      FilterSource allow r (Stages.addPredicate (.contains k v))
  /-- An exact-match operation on its column, for the supplied filter of that column. -/
  | exact {c : String} {v : Scalar} :
      .op (.exact c) ∈ allow.entries → r.filters.get? c = some v →
      FilterSource allow r (Stages.addPredicate (.eq c v))
  /-- A substring operation on its column, for the supplied filter of that column. -/
  | search {c : String} {v : Scalar} :
      .op (.search c) ∈ allow.entries → r.filters.get? c = some v →
      FilterSource allow r (Stages.addPredicate (.contains c v))
  /-- A caller's operation, run for a supplied key it declares. -/
  | custom {ks : List String} {run : Request → List Action} {k : String} {x : Action} :
      .op (.custom ks run) ∈ allow.entries → k ∈ r.filters.keys → k ∈ ks → x ∈ run r →
      FilterSource allow r (.act x)
  /-- The free text as a substring of plain-name columns, at least one. -/
  | anyOf {text : String} {ps : List Predicate} :
      r.query = some text → ps ≠ [] →
      (∀ p ∈ ps, ∃ c, .name c ∈ allow.entries ∧ p = .contains c (.str text)) →
      FilterSource allow r (.act (.call (.addAnyOf ps)))

namespace FilterRule

/-- What the filter stage compiles from one entry of a non-empty allow-list for the supplied
filter `k = v`: the entry's test is whether it declares `k`. -/
def compile (r : Request) (k : String) (v : Scalar) : FilterRule → List Step
  | .name c => if c = k then [Stages.addPredicate (.contains k v)] else []
  | .op o => if o.keys.contains k then (o.actions r).map .act else []

/-- The entry serves the supplied filter `k = v` in a stage's steps: it declares `k`, and what
it compiles for `k` is among the steps. -/
def Serves (steps : List Step) (r : Request) (k : String) (v : Scalar) : FilterRule → Prop
  | .name c => c = k ∧ Stages.addPredicate (.contains k v) ∈ steps
  | .op o => k ∈ o.keys ∧ ∀ x ∈ o.actions r, .act x ∈ steps

/-- An entry that declares the key serves it wherever its compiled steps are. -/
theorem serves_of_subset {steps : List Step} {r : Request} {k : String} {v : Scalar}
    {e : FilterRule} (hk : k ∈ Declares.declared e) (hsub : e.compile r k v ⊆ steps) :
    e.Serves steps r k v := by
  cases e with
  | name c =>
    have hc : c = k := by simpa [Declares.declared, eq_comm] using hk
    exact ⟨hc, hsub (by simp [compile, hc])⟩
  | op o =>
    have hk' : k ∈ o.keys := hk
    exact ⟨hk', fun x hx => hsub (by simpa [compile, hk'] using hx)⟩

end FilterRule

namespace Stages

variable (allow : AllowList FilterRule) (r : Request)

/-- The filter stage of a non-empty allow-list compiles, for each supplied filter in key order,
each entry in declared order. -/
theorem filters_eq (hne : allow.entries ≠ []) :
    filters allow r = r.filters.toList.flatMap fun p => allow.entries.flatMap (·.compile r p.1 p.2) := by
  have hempty : allow.isEmpty = false := (AllowList.isEmpty_eq_false_iff allow).mpr hne
  simp only [filters, hempty, Bool.false_eq_true, ↓reduceIte]
  rfl

/-- A supplied filter is served by every entry that declares its key. -/
theorem filters_serve (hne : allow.entries ≠ []) {k : String} {v : Scalar}
    (hkv : (k, v) ∈ r.filters.toList) {e : FilterRule} (he : e ∈ allow.entries)
    (hk : k ∈ Declares.declared e) : e.Serves (filters allow r) r k v := by
  refine FilterRule.serves_of_subset hk fun st hst => ?_
  rw [filters_eq allow r hne, List.mem_flatMap]
  exact ⟨(k, v), hkv, List.mem_flatMap.mpr ⟨e, he, hst⟩⟩

/-- A step of the filter stage of a non-empty allow-list comes from a supplied key and an entry
that declares it. -/
theorem filters_sound (hne : allow.entries ≠ []) :
    ∀ st ∈ filters allow r, FilterSource allow r st := by
  intro st hst
  rw [filters_eq allow r hne] at hst
  simp only [List.mem_flatMap] at hst
  obtain ⟨⟨k, v⟩, hkv, e, he, hst⟩ := hst
  have hk : k ∈ r.filters.keys := List.mem_map_of_mem (f := Prod.fst) hkv
  cases e with
  | name c =>
    by_cases hc : c = k
    · subst hc
      have : st = addPredicate (.contains c v) := by simpa [FilterRule.compile] using hst
      exact this ▸ .plain hkv he
    · simp [FilterRule.compile, hc] at hst
  | op o =>
    obtain ⟨hko, x, hx, hst⟩ : k ∈ o.keys ∧ ∃ x ∈ o.actions r, Step.act x = st := by
      simpa [FilterRule.compile] using hst
    subst hst
    -- the built-in operations match on their own column, and only when it is supplied
    cases o with
    | exact c =>
      cases hg : r.filters.get? c with
      | none => simp [FilterOp.actions, hg] at hx
      | some w =>
        have : x = .call (.addPredicate (.eq c w)) := by simpa [FilterOp.actions, hg] using hx
        exact this ▸ .exact he hg
    | search c =>
      cases hg : r.filters.get? c with
      | none => simp [FilterOp.actions, hg] at hx
      | some w =>
        have : x = .call (.addPredicate (.contains c w)) := by
          simpa [FilterOp.actions, hg] using hx
        exact this ▸ .search he hg
    | custom ks run => exact .custom he hk hko hx

/-- The free-text group holds the substring match of the text on each plain-name column. -/
theorem mem_searchGroup (text : String) (p : Predicate) :
    p ∈ searchGroup allow text ↔ ∃ c, .name c ∈ allow.entries ∧ p = .contains c (.str text) := by
  simp only [searchGroup, List.mem_filterMap]
  constructor
  · rintro ⟨e, he, hp⟩
    cases e with
    | name c => exact ⟨c, he, (Option.some.inj hp).symm⟩
    | op o => cases hp
  · rintro ⟨c, hc, rfl⟩
    exact ⟨.name c, hc, rfl⟩

/-- A step of the free-text stage is one group of substring matches on plain-name columns. -/
theorem search_sound : ∀ st ∈ search allow r, FilterSource allow r st := by
  intro st hst
  cases hq : r.query with
  | none => simp [search, hq] at hst
  | some text =>
    obtain ⟨-, hne, hst⟩ : allow.isEmpty = false ∧ searchGroup allow text ≠ [] ∧
        st = .act (.call (.addAnyOf (searchGroup allow text))) := by
      simpa [search, hq] using hst
    exact hst ▸ .anyOf hq hne fun p hp => (mem_searchGroup allow text p).mp hp

end Stages

/-! ## Sorts -/

/-- Where a step of the sort stage comes from, for the sort keys in effect. -/
inductive SortSource (allow : AllowList SortRule) (keys : List SortKey) : Step → Prop
  /-- The keys in effect, written back to the request. -/
  | writeBack : SortSource allow keys (.setSort keys)
  /-- One ordering by keys in effect whose names are plain-name entries, at least one. -/
  | columns {ks : List SortKey} :
      ks ≠ [] → (∀ x ∈ ks, x ∈ keys ∧ .name x.name ∈ allow.entries) →
      SortSource allow keys (.act (.call (.orderBy (.columns ks))))
  /-- An operation, run for a key in effect whose name it declares. -/
  | op {o : SortOp} {x : SortKey} {y : Action} :
      .op o ∈ allow.entries → x ∈ keys → x.name ∈ o.names → y ∈ o.run x.ascending x.name →
      SortSource allow keys (.act y)

namespace SortRule

/-- The entry serves the sort key in a stage's steps: it declares the key's name, and the key
is ordered by, among the shared columns for a plain name, by the operation's run otherwise. -/
def Serves (steps : List Step) (x : SortKey) : SortRule → Prop
  | .name c => c = x.name ∧ ∃ ks, x ∈ ks ∧ .act (.call (.orderBy (.columns ks))) ∈ steps
  | .op o => x.name ∈ o.names ∧ ∀ y ∈ o.run x.ascending x.name, .act y ∈ steps

end SortRule

namespace Stages

variable (allow : AllowList SortRule) (d : Option SortKey) (r : Request)

/-- The shared columns are the keys whose names are plain-name entries. -/
theorem mem_sharedColumns (keys : List SortKey) (x : SortKey) :
    x ∈ sharedColumns allow keys ↔ x ∈ keys ∧ .name x.name ∈ allow.entries := by
  simp only [sharedColumns, List.mem_flatMap]
  constructor
  · rintro ⟨y, hy, e, he, hx⟩
    cases e with
    | name c =>
      by_cases hc : c = y.name
      · obtain rfl : x = y := by simpa [hc] using hx
        exact ⟨hy, hc ▸ he⟩
      · simp [hc] at hx
    | op o => simp at hx
  · rintro ⟨hx, he⟩
    exact ⟨x, hx, .name x.name, he, by simp⟩

/-- A requested sort key is in effect. -/
theorem mem_sortKeys_of_mem {x : SortKey} (hx : x ∈ r.sort) : x ∈ sortKeys d r := by
  have hne : r.sort.isEmpty = false := by
    cases h : r.sort with
    | nil => simp [h] at hx
    | cons _ _ => rfl
  simpa [sortKeys, hne] using hx

/-- The body of the sort stage of a non-empty allow-list: the operations' runs, then one
ordering by the shared columns. -/
theorem sorts_eq (hne : allow.entries ≠ []) :
    sorts allow d r =
      (if r.sort.isEmpty && d.isSome then [.setSort (sortKeys d r)] else []) ++
        (sortActions allow (sortKeys d r) ++
          orderColumns (sharedColumns allow (sortKeys d r))) := by
  have hempty : allow.isEmpty = false := (AllowList.isEmpty_eq_false_iff allow).mpr hne
  simp only [sorts, hempty, Bool.false_eq_true, ↓reduceIte]

/-- A step of the sort stage of a non-empty allow-list is the write-back, an operation's run
for a key whose name it declares, or the ordering by the keys that plain names declare. -/
theorem sorts_sound (hne : allow.entries ≠ []) :
    ∀ st ∈ sorts allow d r, SortSource allow (sortKeys d r) st := by
  intro st hst
  rw [sorts_eq allow d r hne] at hst
  simp only [List.mem_append] at hst
  rcases hst with hw | hact | hcol
  · obtain ⟨-, rfl⟩ : (r.sort.isEmpty && d.isSome) = true ∧ st = .setSort (sortKeys d r) := by
      simpa using hw
    exact .writeBack
  · simp only [sortActions, List.mem_flatMap] at hact
    obtain ⟨x, hx, e, he, hst⟩ := hact
    cases e with
    | name c => simp at hst
    | op o =>
      obtain ⟨ho, y, hy, rfl⟩ : x.name ∈ o.names ∧ ∃ y ∈ o.run x.ascending x.name, .act y = st := by
        simpa using hst
      exact .op he hx ho hy
  · obtain ⟨hks, rfl⟩ : sharedColumns allow (sortKeys d r) ≠ [] ∧
        st = .act (.call (.orderBy (.columns (sharedColumns allow (sortKeys d r))))) := by
      simpa [orderColumns] using hcol
    exact .columns hks fun x hx => (mem_sharedColumns allow _ x).mp hx

/-- A sort key in effect is served by every entry that declares its name. -/
theorem sorts_serve (hne : allow.entries ≠ []) {x : SortKey} (hx : x ∈ sortKeys d r)
    {e : SortRule} (he : e ∈ allow.entries) (hk : x.name ∈ Declares.declared e) :
    e.Serves (sorts allow d r) x := by
  rw [sorts_eq allow d r hne]
  cases e with
  | name c =>
    have hc : c = x.name := by simpa [Declares.declared, eq_comm] using hk
    have hshared : x ∈ sharedColumns allow (sortKeys d r) :=
      (mem_sharedColumns allow _ x).mpr ⟨hx, hc ▸ he⟩
    have hks : sharedColumns allow (sortKeys d r) ≠ [] := List.ne_nil_of_mem hshared
    refine ⟨hc, _, hshared, ?_⟩
    simp [orderColumns, hks]
  | op o =>
    have ho : x.name ∈ o.names := hk
    refine ⟨ho, fun y hy => ?_⟩
    simp only [List.mem_append, sortActions, List.mem_flatMap]
    exact .inr (.inl ⟨x, hx, .op o, he, by simpa [ho] using hy⟩)

end Stages

/-! ## Includes -/

/-- Where a step of the include stage comes from: a requested include that the allow-list
names, read as a relation that is not empty. -/
inductive IncludeSource (allow : AllowList String) (r : Request) : Step → Prop
  /-- The relation is loaded. -/
  | load {raw : String} :
      raw ∈ r.includes → raw ∈ allow.entries → Relation.ofInclude raw ≠ "" →
      IncludeSource allow r (.act (.call (.eagerLoad (Relation.ofInclude raw))))
  /-- The relation is recorded as loaded. -/
  | record {raw : String} :
      raw ∈ r.includes → raw ∈ allow.entries → Relation.ofInclude raw ≠ "" →
      IncludeSource allow r (.relate (Relation.ofInclude raw))

/-- A step of the include stage of a non-empty allow-list loads or records a relation read from
a requested include that the allow-list names. -/
theorem Stages.includes_sound (allow : AllowList String) (r : Request) (hne : allow.entries ≠ []) :
    ∀ st ∈ Stages.includes allow r, IncludeSource allow r st := by
  have hempty : allow.isEmpty = false := (AllowList.isEmpty_eq_false_iff allow).mpr hne
  intro st hst
  simp only [Stages.includes, List.mem_flatMap] at hst
  obtain ⟨raw, hraw, hst⟩ := hst
  -- an include the allow-list does not name is skipped, and so is one naming no relation
  by_cases hc : allow.contains raw = true
  · have hallow : raw ∈ allow.entries := by
      obtain ⟨e, he, hmem⟩ := (AllowList.contains_eq_true_iff allow raw).mp hc
      have : raw = e := by simpa [Declares.declared] using hmem
      exact this ▸ he
    obtain ⟨hrel, rfl | rfl⟩ : Relation.ofInclude raw ≠ "" ∧
        (st = .act (.call (.eagerLoad (Relation.ofInclude raw))) ∨
          st = .relate (Relation.ofInclude raw)) := by
      simpa [hempty, hc] using hst
    · exact .load hraw hallow hrel
    · exact .record hraw hallow hrel
  · simp [hempty, hc] at hst

/-! ## Executing a request -/

/-- On a request that passes validation, each non-empty allow-list is enforced: every filter
key is served by an entry that declares it, and every requested sort key likewise, and every
step of the filter, free-text, sort and include stages comes from the request and an entry that
accounts for it. -/
theorem Adapter.allow_lists_enforced (a : Adapter) (r : Request) (hv : a.validate r = .ok ()) :
    (a.filters.entries ≠ [] →
      (∀ k v, (k, v) ∈ r.filters.toList →
        ∃ e ∈ a.filters.entries, e.Serves (Stages.filters a.filters r) r k v) ∧
      ∀ st ∈ Stages.filters a.filters r ++ Stages.search a.filters r,
        FilterSource a.filters r st) ∧
    (a.sorts.entries ≠ [] →
      (∀ x ∈ r.sort, ∃ e ∈ a.sorts.entries, e.Serves (Stages.sorts a.sorts a.defaultSort r) x) ∧
      ∀ st ∈ Stages.sorts a.sorts a.defaultSort r,
        SortSource a.sorts (Stages.sortKeys a.defaultSort r) st) ∧
    (a.includes.entries ≠ [] →
      ∀ st ∈ Stages.includes a.includes r, IncludeSource a.includes r st) := by
  obtain ⟨hf, hs⟩ := (Adapter.validate_eq_ok_iff a r).mp hv
  refine ⟨fun hne => ⟨fun k v hkv => ?_, fun st hst => ?_⟩, fun hne => ⟨fun x hx => ?_, ?_⟩,
    Stages.includes_sound a.includes r⟩
  · -- validation found an entry declaring the key, and the scan compiles it
    have hk : k ∈ r.filters.keys := List.mem_map_of_mem (f := Prod.fst) hkv
    obtain ⟨e, he, hd⟩ := (hf.resolve_left hne).2 k hk
    exact ⟨e, he, Stages.filters_serve a.filters r hne hkv he hd⟩
  · rcases List.mem_append.mp hst with h | h
    · exact Stages.filters_sound a.filters r hne st h
    · exact Stages.search_sound a.filters r st h
  · obtain ⟨e, he, hd⟩ := (hs.resolve_left hne).2 x hx
    exact ⟨e, he, Stages.sorts_serve a.sorts _ r hne (Stages.mem_sortKeys_of_mem _ r hx) he hd⟩
  · exact Stages.sorts_sound a.sorts _ r hne

/-- A filter on a plain-name column passes validation and is served by that entry: the
substring match on the column is a step of the filter stage. -/
theorem Adapter.allow_lists_enforced_on_name :
    Adapter.validate { filters := .new [.name "name", .op (.exact "status")] }
        { filters := (∅ : NameMap Scalar).insert "name" (.str "bob") } = .ok () ∧
      ∃ e ∈ [FilterRule.name "name", .op (.exact "status")],
        e.Serves (Stages.filters (.new [.name "name", .op (.exact "status")])
            { filters := (∅ : NameMap Scalar).insert "name" (.str "bob") })
          { filters := (∅ : NameMap Scalar).insert "name" (.str "bob") } "name" (.str "bob") :=
  ⟨rfl, ((Adapter.allow_lists_enforced { filters := .new [.name "name", .op (.exact "status")] }
    { filters := (∅ : NameMap Scalar).insert "name" (.str "bob") } rfl).1 (by simp)).1
      "name" (.str "bob") (by decide)⟩

/-- A caller's sort operation, run for a requested key it declares, orders by a column that no
plain name of the allow-list declares. -/
theorem Adapter.custom_sort_orders_by_any_column :
    Adapter.validate
        { sorts := .new [.name "id",
          .op ⟨["recent"], fun asc _ => [.call (.orderBy (.columns [⟨"created_at", !asc⟩]))]⟩] }
        { sort := [⟨"recent", true⟩] } = .ok () ∧
      Call.orderBy (.columns [⟨"created_at", false⟩]) ∈ Adapter.sent .accepting
        { sorts := .new [.name "id",
          .op ⟨["recent"], fun asc _ => [.call (.orderBy (.columns [⟨"created_at", !asc⟩]))]⟩] }
        { sort := [⟨"recent", true⟩] } ∧
      SortRule.name "created_at" ∉ [.name "id",
        .op ⟨["recent"], fun asc _ => [.call (.orderBy (.columns [⟨"created_at", !asc⟩]))]⟩] := by
  refine ⟨rfl, by decide, ?_⟩
  simp

end QueryCompiler
