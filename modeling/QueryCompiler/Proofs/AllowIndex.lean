import QueryCompiler.Proofs.Trace

/-!
# What an allow-list's index holds

An allow-list keeps, beside its entries, the name index and the reason it is malformed that one
pass over the entries gathers (`AllowList.Index.of`). This module proves what that pass
computes, for a pass started anywhere (`foldl_add`): the name index is every name the entries
declare, in order (`names_eq`), and the reason is the first malformed entry's, numbered by its
position (`malformed_eq`, with `faultFrom` the scan for it). Every list carries the proof that
its index is the pass's, so both hold of every list, however it was built.

From them the list's answers are read off its entries: `contains` is `Declared`, the structure
check passes exactly on a `WellFormed` list and otherwise names its first malformed entry
(`checkStructure_eq_error_iff`). `new_answers` gathers the answers of the list built from a given
list of entries.
-/

namespace QueryCompiler

namespace AllowList

variable {α : Type} [Declares α]

/-- The scan for the first malformed entry among `es`, numbered from `i`, reported in the words
of the structure check. -/
def faultFrom (i : Nat) : List α → Option String
  | [] => none
  | e :: es =>
    match entryFault e with
    | some why => some ("allow-list entry #" ++ toString i ++ " " ++ why)
    | none => faultFrom (i + 1) es

/-- The scan looks at the head, then at the rest one position on. -/
theorem faultFrom_cons (i : Nat) (e : α) (es : List α) :
    faultFrom i (e :: es) = (faultFrom i [e]).or (faultFrom (i + 1) es) := by
  cases h : entryFault e <;> simp [faultFrom, h]

/-- One step of the pass: the entry's names are appended, and its own fault is recorded at its
position unless a reason is recorded already. -/
theorem Index.add_eq (idx : Index) (e : α) (i : Nat) :
    idx.add e i =
      { names := idx.names ++ Declares.declared e, malformed := idx.malformed.or (faultFrom i [e]) } := by
  cases h : idx.malformed <;> cases hf : entryFault e <;> simp [Index.add, faultFrom, h, hf]

/-- The pass over `es`, numbered from `k`, continuing from the index `idx`: it appends every name
the entries declare and keeps a recorded reason, or else records the first fault among `es`. -/
theorem foldl_add (es : List α) (k : Nat) (idx : Index) :
    (es.zipIdx k).foldl (fun idx p => idx.add p.1 p.2) idx =
      { names := idx.names ++ es.flatMap Declares.declared,
        malformed := idx.malformed.or (faultFrom k es) } := by
  -- induction on the entries, the start and the index gathered so far both generalised
  induction es generalizing k idx with
  | nil => simp [faultFrom]
  | cons e es ih =>
    rw [List.zipIdx_cons, List.foldl_cons, ih, Index.add_eq, faultFrom_cons k e es]
    simp [List.append_assoc, Option.or_assoc]

/-- The pass from nothing: every declared name, and the first fault from position 0. -/
theorem index_of (es : List α) :
    Index.of es = { names := es.flatMap Declares.declared, malformed := faultFrom 0 es } := by
  simpa [Index.of] using foldl_add es 0 {}

/-- Every list keeps what the pass over its entries gathers. -/
theorem index_eq (l : AllowList α) :
    (⟨l.names, l.malformed⟩ : Index) =
      { names := l.entries.flatMap Declares.declared, malformed := faultFrom 0 l.entries } := by
  rw [← l.indexed, index_of]

/-- Every list's name index holds the names its entries declare. -/
theorem names_eq (l : AllowList α) : l.names = l.entries.flatMap Declares.declared :=
  (Index.mk.inj (index_eq l)).1

/-- Every list records the first fault among its entries. -/
theorem malformed_eq (l : AllowList α) : l.malformed = faultFrom 0 l.entries :=
  (Index.mk.inj (index_eq l)).2

/-- Some entry declares the name. -/
def Declared (l : AllowList α) (name : String) : Prop :=
  ∃ e ∈ l.entries, name ∈ Declares.declared e

/-- No entry is malformed. -/
def WellFormed (l : AllowList α) : Prop :=
  ∀ e ∈ l.entries, entryFault e = none

/-- The entry at position `i` is the first malformed one, and `why` says what is wrong with it. -/
def FirstMalformed (l : AllowList α) (i : Nat) (why : String) : Prop :=
  ∃ pre e post, l.entries = pre ++ e :: post ∧ pre.length = i ∧
    (∀ x ∈ pre, entryFault x = none) ∧ entryFault e = some why

/-- The scan for a malformed entry finds none exactly when every entry is sound. -/
theorem faultFrom_eq_none_iff (i : Nat) (es : List α) :
    faultFrom i es = none ↔ ∀ e ∈ es, entryFault e = none := by
  induction es generalizing i with
  | nil => simp [faultFrom]
  | cons x xs ih =>
    cases hx : entryFault x with
    | some why => simp [faultFrom, hx]
    | none => simp [faultFrom, hx, ih]

/-- The scan for a malformed entry reports the first one, numbered from `i`. -/
theorem faultFrom_eq_some_iff (i : Nat) (es : List α) (msg : String) :
    faultFrom i es = some msg ↔ ∃ pre e post why, es = pre ++ e :: post ∧
      (∀ x ∈ pre, entryFault x = none) ∧ entryFault e = some why ∧
      msg = "allow-list entry #" ++ toString (i + pre.length) ++ " " ++ why := by
  induction es generalizing i with
  | nil => simp [faultFrom]
  | cons x xs ih =>
    simp only [List.cons_eq_append_iff]
    cases hx : entryFault x with
    | some w =>
      simp only [faultFrom, hx, Option.some.injEq]
      constructor
      · rintro rfl
        exact ⟨[], x, xs, w, .inl ⟨rfl, rfl⟩, nofun, hx, by simp⟩
      · rintro ⟨pre, e, post, why, ⟨rfl, h⟩ | ⟨tail, rfl, -⟩, hpre, he, rfl⟩
        · obtain ⟨rfl, -⟩ := List.cons.inj h
          rw [hx, Option.some.injEq] at he
          simp [he]
        · have := hpre x (List.mem_cons_self ..)
          simp [hx] at this
    | none =>
      simp only [faultFrom, hx, ih]
      constructor
      · rintro ⟨pre, e, post, why, rfl, hpre, he, rfl⟩
        refine ⟨x :: pre, e, post, why, .inr ⟨pre, rfl, rfl⟩, ?_, he, ?_⟩
        · intro y hy
          rcases List.mem_cons.mp hy with rfl | hy
          · exact hx
          · exact hpre y hy
        · simp [Nat.add_assoc, Nat.add_comm 1]
      · rintro ⟨pre, e, post, why, ⟨rfl, h⟩ | ⟨tail, rfl, rfl⟩, hpre, he, rfl⟩
        · obtain ⟨rfl, -⟩ := List.cons.inj h
          simp [hx] at he
        · refine ⟨tail, e, post, why, rfl, fun y hy => hpre y (List.mem_cons_of_mem _ hy), he, ?_⟩
          simp [Nat.add_assoc, Nat.add_comm 1]

/-- The structure check passes exactly on a list with no malformed entry. -/
theorem checkStructure_eq_ok_iff (l : AllowList α) : l.checkStructure = .ok () ↔ l.WellFormed := by
  unfold checkStructure WellFormed
  rw [malformed_eq]
  cases h : faultFrom 0 l.entries with
  | none => simpa using (faultFrom_eq_none_iff 0 l.entries).mp h
  | some why =>
    have hne : ¬∀ e ∈ l.entries, entryFault e = none := fun hall => by
      rw [(faultFrom_eq_none_iff 0 l.entries).mpr hall] at h
      cases h
    simpa using hne

/-- The structure check fails by naming the first malformed entry. -/
theorem checkStructure_eq_error_iff (l : AllowList α) (e : PlanError) :
    l.checkStructure = .error e ↔ ∃ i why, l.FirstMalformed i why ∧
      e = .configuration ("allow-list entry #" ++ toString i ++ " " ++ why) := by
  unfold checkStructure FirstMalformed
  rw [malformed_eq]
  cases h : faultFrom 0 l.entries with
  | none =>
    have hall := (faultFrom_eq_none_iff 0 l.entries).mp h
    simp only [reduceCtorEq, false_iff, not_exists, not_and]
    rintro i why ⟨pre, x, post, hl, -, -, hx⟩ -
    simp [hall x (by simp [hl])] at hx
  | some msg =>
    obtain ⟨pre, x, post, why, hl, hpre, hx, rfl⟩ := (faultFrom_eq_some_iff 0 l.entries msg).mp h
    simp only [Except.error.injEq]
    constructor
    · rintro rfl
      exact ⟨pre.length, why, ⟨pre, x, post, hl, rfl, hpre, hx⟩, by simp⟩
    · rintro ⟨i, why', ⟨pre', x', post', hl', rfl, hpre', hx'⟩, rfl⟩
      -- both decompositions stop at the first malformed entry, so they are the same
      have hne : ∀ {y : α} {w : String}, entryFault y = some w → ¬entryFault y = none :=
        fun hy hn => by simp [hn] at hy
      obtain ⟨rfl, rfl, -⟩ := first_split_unique (hl.symm.trans hl') hpre (hne hx) hpre' (hne hx')
      rw [hx, Option.some.injEq] at hx'
      simp [hx']

/-- `contains`, which reads the name index, is `Declared`, which reads the entries. -/
theorem contains_eq_true_iff (l : AllowList α) (name : String) :
    l.contains name = true ↔ l.Declared name := by
  simp [contains, Declared, names_eq]

/-- A list restricts something exactly when it has entries. -/
theorem isEmpty_eq_false_iff (l : AllowList α) : l.isEmpty = false ↔ l.entries ≠ [] := by
  simp [isEmpty]

/-! ## The answers of a list built from its entries -/

/-- An entry is malformed when it declares no name, or declares the empty name. -/
def Malformed (e : α) : Prop :=
  Declares.declared e = [] ∨ "" ∈ Declares.declared e

/-- What is wrong with an entry, in the words of the structure check: a missing name is
reported before an empty one. -/
def faultText (e : α) : String :=
  if Declares.declared e = [] then "declares no names" else "declares an empty name"

/-- An entry passes the structure check exactly when it is not malformed. -/
theorem entryFault_eq_none_iff (e : α) : entryFault e = none ↔ ¬Malformed e := by
  by_cases hnil : Declares.declared e = []
  · simp [entryFault, Malformed, hnil]
  · by_cases hempty : "" ∈ Declares.declared e <;> simp [entryFault, Malformed, hnil, hempty]

/-- A malformed entry is reported in the words of `faultText`. -/
theorem entryFault_eq_some_iff (e : α) (why : String) :
    entryFault e = some why ↔ Malformed e ∧ faultText e = why := by
  by_cases hnil : Declares.declared e = []
  · simp [entryFault, Malformed, faultText, hnil]
  · by_cases hempty : "" ∈ Declares.declared e <;>
      simp [entryFault, Malformed, faultText, hnil, hempty]

omit [Declares α] in
/-- A check with nothing to return fails exactly when it does not pass. -/
theorem exists_error_iff_ne_ok {ε : Type} (x : Except ε Unit) :
    (∃ err, x = .error err) ↔ x ≠ .ok () := by
  cases x <;> simp

/-- The three answers of the list built from the entries `E`, each read from what the pass over
`E` gathered, agree with the entries. A name is admitted when some entry declares it; the list
restricts nothing only when it has no entries, whatever names they declare; the structure check
fails exactly when some entry is malformed, and then names the first malformed entry by its
position from 0, saying whether it declares no names or an empty name. -/
theorem new_answers (E : List α) :
    (∀ n, (new E).contains n = true ↔ ∃ e ∈ E, n ∈ Declares.declared e) ∧
    ((new E).isEmpty = true ↔ E = []) ∧
    ((∃ err, (new E).checkStructure = .error err) ↔ ∃ e ∈ E, Malformed e) ∧
    (∀ err, (new E).checkStructure = .error err ↔
      ∃ pre e post, E = pre ++ e :: post ∧ (∀ x ∈ pre, ¬Malformed x) ∧ Malformed e ∧
        err = .configuration ("allow-list entry #" ++ toString pre.length ++ " " ++ faultText e)) := by
  refine ⟨fun n => contains_eq_true_iff (new E) n, by simp [isEmpty], ?_, ?_⟩
  · -- failing is not passing, and passing is every entry being sound
    rw [exists_error_iff_ne_ok, Ne, checkStructure_eq_ok_iff, WellFormed]
    simp [entryFault_eq_none_iff]
  · intro err
    rw [checkStructure_eq_error_iff]
    constructor
    · rintro ⟨i, why, ⟨pre, e, post, hE, rfl, hpre, he⟩, rfl⟩
      obtain ⟨hbad, rfl⟩ := (entryFault_eq_some_iff e why).mp he
      exact ⟨pre, e, post, hE, fun x hx => (entryFault_eq_none_iff x).mp (hpre x hx), hbad, rfl⟩
    · rintro ⟨pre, e, post, hE, hpre, hbad, rfl⟩
      exact ⟨pre.length, faultText e, ⟨pre, e, post, hE, rfl,
        fun x hx => (entryFault_eq_none_iff x).mpr (hpre x hx),
        (entryFault_eq_some_iff e _).mpr ⟨hbad, rfl⟩⟩, rfl⟩

end AllowList

end QueryCompiler
