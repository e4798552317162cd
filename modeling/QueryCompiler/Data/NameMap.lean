/-!
# Maps keyed by name

A `NameMap` holds at most one value per name, with the names in ascending order (the order of
their code points, which is also the order of their UTF-8 bytes). It is a list of pairs that
carries the proof that its names strictly ascend, so a listing of the map is the list itself
and no map can hold a name twice.

* `alter` rewrites the value of a name from what was there before, adding the name in its
  place when it is new;
* `insert` is `alter` that ignores the value before, so it replaces the value of a name
  already present.

Two maps with the same values by name are the same map (`ext_get?`).
-/

namespace QueryCompiler

/-- Values by name, in ascending order of names, one per name. -/
structure NameMap (α : Type) where
  /-- The pairs, in ascending order of names. -/
  toList : List (String × α)
  /-- Each name is below every name after it. -/
  ascending : toList.Pairwise (fun a b => a.1 < b.1)
  deriving Repr

namespace NameMap

variable {α : Type}

/-- The map with no names. -/
def empty : NameMap α := ⟨[], List.Pairwise.nil⟩

instance : EmptyCollection (NameMap α) := ⟨empty⟩

instance : Inhabited (NameMap α) := ⟨empty⟩

/-! ## Pairs -/

/-- Set the value of `k` in a list of pairs to `f` of its value before, `none` if it had none;
a new name goes before the first name above it. -/
def alterPairs (k : String) (f : Option α → α) : List (String × α) → List (String × α)
  | [] => [(k, f none)]
  | (k', v') :: rest =>
    if k < k' then (k, f none) :: (k', v') :: rest
    else if k = k' then (k, f (some v')) :: rest
    else (k', v') :: alterPairs k f rest

/-- Every name after `alterPairs k f` is `k` or a name that was there before. -/
theorem fst_mem_alterPairs {k : String} {f : Option α → α} {l : List (String × α)}
    {p : String × α} (h : p ∈ alterPairs k f l) : p.1 = k ∨ ∃ q ∈ l, q.1 = p.1 := by
  induction l with
  | nil => simp_all [alterPairs]
  | cons q rest ih =>
    obtain ⟨k', v'⟩ := q
    unfold alterPairs at h
    split at h
    · grind
    · split at h <;> grind

private theorem lt_of_not_lt_of_ne {a b : String} (h₁ : ¬a < b) (h₂ : a ≠ b) : b < a := by
  rcases Std.lt_trichotomy a b with h | h | h
  · exact absurd h h₁
  · exact absurd h h₂
  · exact h

/-- `alterPairs` keeps the names ascending. -/
theorem ascending_alterPairs (k : String) (f : Option α → α) {l : List (String × α)}
    (h : l.Pairwise (fun a b => a.1 < b.1)) :
    (alterPairs k f l).Pairwise (fun a b => a.1 < b.1) := by
  induction l with
  | nil => simp [alterPairs]
  | cons q rest ih =>
    obtain ⟨k', v'⟩ := q
    have ⟨hhead, hrest⟩ := List.pairwise_cons.mp h
    unfold alterPairs
    split
    · next hlt =>
      refine List.Pairwise.cons ?_ h
      intro b hb
      rcases List.mem_cons.mp hb with rfl | hb
      · exact hlt
      · exact String.lt_trans hlt (hhead b hb)
    · split
      · next heq =>
        subst heq
        exact List.Pairwise.cons hhead hrest
      · next hlt hne =>
        refine List.Pairwise.cons ?_ (ih hrest)
        intro b hb
        rcases fst_mem_alterPairs hb with hk | ⟨c, hc, hcb⟩
        · rw [hk]
          exact lt_of_not_lt_of_ne hlt hne
        · rw [← hcb]
          exact hhead c hc

/-- A name below every name of a list is not there. -/
theorem lookup_eq_none_of_lt {k : String} {l : List (String × α)} (h : ∀ q ∈ l, k < q.1) :
    l.lookup k = none :=
  List.lookup_eq_none_iff.mpr fun q hq => by simpa using String.ne_of_lt (h q hq)

private theorem lookup_cons_of_ne {a k : String} {b : α} {l : List (String × α)} (h : a ≠ k) :
    ((k, b) :: l).lookup a = l.lookup a := by
  rw [List.lookup_cons, beq_false_of_ne h]

/-- After `alterPairs k f` on an ascending list, `k` holds `f` of what it held before. -/
theorem lookup_alterPairs_self (k : String) (f : Option α → α) {l : List (String × α)}
    (h : l.Pairwise (fun a b => a.1 < b.1)) :
    (alterPairs k f l).lookup k = some (f (l.lookup k)) := by
  induction l with
  | nil => simp [alterPairs]
  | cons q rest ih =>
    obtain ⟨k', v'⟩ := q
    unfold alterPairs
    by_cases hlt : k < k'
    · have hnone : ((k', v') :: rest).lookup k = none := by
        refine lookup_eq_none_of_lt fun q hq => ?_
        rcases List.mem_cons.mp hq with rfl | hq
        · exact hlt
        · exact String.lt_trans hlt ((List.pairwise_cons.mp h).1 q hq)
      rw [if_pos hlt, List.lookup_cons_self, hnone]
    · by_cases heq : k = k'
      · subst heq
        simp
      · rw [if_neg hlt, if_neg heq, lookup_cons_of_ne heq, lookup_cons_of_ne heq]
        exact ih (List.pairwise_cons.mp h).2

/-- `alterPairs k f` leaves every other name as it was. -/
theorem lookup_alterPairs_ne {k n : String} (f : Option α → α) (l : List (String × α))
    (h : k ≠ n) : (alterPairs k f l).lookup n = l.lookup n := by
  induction l with
  | nil => simp [alterPairs, lookup_cons_of_ne (Ne.symm h)]
  | cons q rest ih =>
    obtain ⟨k', v'⟩ := q
    unfold alterPairs
    split
    · rw [lookup_cons_of_ne (Ne.symm h)]
    · split
      · next heq =>
        subst heq
        rw [lookup_cons_of_ne (Ne.symm h), lookup_cons_of_ne (Ne.symm h)]
      · by_cases hn : n = k'
        · subst hn
          simp
        · rw [lookup_cons_of_ne hn, lookup_cons_of_ne hn, ih]

/-! ## Maps -/

/-- Set the value of `k` to `f` of its value before, `none` if it had none. -/
def alter (k : String) (f : Option α → α) (m : NameMap α) : NameMap α :=
  ⟨alterPairs k f m.toList, ascending_alterPairs k f m.ascending⟩

/-- Set the value of `k`, replacing any value it had. -/
def insert (k : String) (v : α) (m : NameMap α) : NameMap α :=
  m.alter k fun _ => v

/-- The value of `k`. -/
def get? (m : NameMap α) (k : String) : Option α :=
  m.toList.lookup k

/-- The names, in order. -/
def keys (m : NameMap α) : List String :=
  m.toList.map Prod.fst

@[simp] theorem get?_empty (k : String) : (∅ : NameMap α).get? k = none := rfl

/-- After `alter k f`, the value of `k` is `f` of its value before. -/
@[simp] theorem get?_alter_self (k : String) (f : Option α → α) (m : NameMap α) :
    (m.alter k f).get? k = some (f (m.get? k)) :=
  lookup_alterPairs_self k f m.ascending

/-- `alter k f` leaves the value of every other name as it was. -/
theorem get?_alter_ne {k n : String} (f : Option α → α) (m : NameMap α) (h : k ≠ n) :
    (m.alter k f).get? n = m.get? n :=
  lookup_alterPairs_ne f m.toList h

/-- After `insert k v`, the value of `k` is `v`. -/
@[simp] theorem get?_insert_self (k : String) (v : α) (m : NameMap α) :
    (m.insert k v).get? k = some v :=
  get?_alter_self k _ m

/-- `insert k v` leaves the value of every other name as it was. -/
theorem get?_insert_ne {k n : String} (v : α) (m : NameMap α) (h : k ≠ n) :
    (m.insert k v).get? n = m.get? n :=
  get?_alter_ne _ m h

/-- A name is listed exactly when it has a value. -/
theorem mem_keys_iff (m : NameMap α) (k : String) : k ∈ m.keys ↔ (m.get? k).isSome := by
  simp only [keys, get?, List.mem_map, List.lookup_isSome_iff, beq_iff_eq]
  exact ⟨fun ⟨p, hp, h⟩ => ⟨p, hp, h.symm⟩, fun ⟨p, hp, h⟩ => ⟨p, hp, h.symm⟩⟩

/-- A pair of a map holds the value of its name. -/
theorem get?_eq_some_of_mem {m : NameMap α} {k : String} {v : α} (h : (k, v) ∈ m.toList) :
    m.get? k = some v := by
  obtain ⟨l, hl⟩ := m
  simp only [get?]
  induction l with
  | nil => simp at h
  | cons p rest ih =>
    obtain ⟨hhead, hrest⟩ := List.pairwise_cons.mp hl
    rcases List.mem_cons.mp h with rfl | h
    · simp
    · -- a later pair's name is above the first, so the look-up passes the first
      have hne : p.1 ≠ k := String.ne_of_lt (hhead (k, v) h)
      rw [lookup_cons_of_ne (Ne.symm hne)]
      exact ih hrest h

/-- The names of a map ascend. -/
theorem keys_ascending (m : NameMap α) : m.keys.Pairwise (· < ·) :=
  List.pairwise_map.mpr m.ascending

/-- In an ascending list, the first name with a property is the least name with it. -/
private theorem find?_eq_some_iff_least {l : List String} (h : l.Pairwise (· < ·))
    (p : String → Bool) (k : String) :
    l.find? p = some k ↔ k ∈ l ∧ p k ∧ ∀ k' ∈ l, k' < k → p k' = false := by
  induction l with
  | nil => simp
  | cons a rest ih =>
    have ⟨ha, hrest⟩ := List.pairwise_cons.mp h
    by_cases hp : p a
    · rw [List.find?_cons_of_pos hp, Option.some.injEq]
      constructor
      · rintro rfl
        refine ⟨List.mem_cons_self .., hp, fun k' hk' hlt => ?_⟩
        rcases List.mem_cons.mp hk' with rfl | hk'
        · exact absurd hlt (String.lt_irrefl _)
        · exact absurd hlt (String.lt_asymm (ha k' hk'))
      · rintro ⟨hk, -, hleast⟩
        rcases List.mem_cons.mp hk with rfl | hk
        · rfl
        · simp [hleast a (List.mem_cons_self ..) (ha k hk)] at hp
    · rw [List.find?_cons_of_neg hp, ih hrest]
      constructor
      · rintro ⟨hk, hpk, hleast⟩
        refine ⟨List.mem_cons_of_mem _ hk, hpk, fun k' hk' hlt => ?_⟩
        rcases List.mem_cons.mp hk' with rfl | hk'
        · simpa using hp
        · exact hleast k' hk' hlt
      · rintro ⟨hk, hpk, hleast⟩
        rcases List.mem_cons.mp hk with rfl | hk
        · exact absurd hpk hp
        · exact ⟨hk, hpk, fun k' hk' hlt => hleast k' (List.mem_cons_of_mem _ hk') hlt⟩

/-- The first name of a map with a property is its least name with it. -/
theorem find?_keys_eq_some_iff (m : NameMap α) (p : String → Bool) (k : String) :
    m.keys.find? p = some k ↔ k ∈ m.keys ∧ p k ∧ ∀ k' ∈ m.keys, k' < k → p k' = false :=
  find?_eq_some_iff_least m.keys_ascending p k

/-- Two ascending lists with the same value for every name are equal. -/
private theorem eq_of_lookup_eq {l l' : List (String × α)}
    (hl : l.Pairwise (fun a b => a.1 < b.1)) (hl' : l'.Pairwise (fun a b => a.1 < b.1))
    (h : ∀ k, l.lookup k = l'.lookup k) : l = l' := by
  induction l generalizing l' with
  | nil =>
    cases l' with
    | nil => rfl
    | cons q rest' =>
      obtain ⟨k', v'⟩ := q
      simpa using h k'
  | cons p rest ih =>
    obtain ⟨k, v⟩ := p
    cases l' with
    | nil => simpa using h k
    | cons q rest' =>
      obtain ⟨k', v'⟩ := q
      have ⟨hp, hrest⟩ := List.pairwise_cons.mp hl
      have ⟨hq, hrest'⟩ := List.pairwise_cons.mp hl'
      -- the first names agree: the smaller one would be missing from the other list
      have hkk : k = k' := by
        rcases Std.lt_trichotomy k k' with hlt | heq | hgt
        · have hnone : ((k', v') :: rest').lookup k = none := lookup_eq_none_of_lt fun r hr => by
            rcases List.mem_cons.mp hr with rfl | hr
            · exact hlt
            · exact String.lt_trans hlt (hq r hr)
          simpa [hnone] using h k
        · exact heq
        · have hnone : ((k, v) :: rest).lookup k' = none := lookup_eq_none_of_lt fun r hr => by
            rcases List.mem_cons.mp hr with rfl | hr
            · exact hgt
            · exact String.lt_trans hgt (hp r hr)
          simpa [hnone] using (h k').symm
      subst hkk
      have hv : v = v' := by simpa using h k
      have hrest_eq : ∀ n, rest.lookup n = rest'.lookup n := by
        intro n
        by_cases hn : n = k
        · subst hn
          rw [lookup_eq_none_of_lt hp, lookup_eq_none_of_lt hq]
        · simpa [lookup_cons_of_ne hn] using h n
      rw [ih hrest hrest' hrest_eq, hv]

/-- A map is known by its values: two maps with the same value for every name are equal. -/
theorem ext_get? {m m' : NameMap α} (h : ∀ k, m.get? k = m'.get? k) : m = m' := by
  obtain ⟨l, hl⟩ := m
  obtain ⟨l', hl'⟩ := m'
  have heq : l = l' := eq_of_lookup_eq hl hl' h
  subst heq
  rfl

end NameMap

end QueryCompiler
