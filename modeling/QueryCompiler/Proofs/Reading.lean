import QueryCompiler.Request.Basic

/-!
# Reading a request from its pairs

`Request.ofPairs` reads the request's fields with three occurrence policies over one list of
pairs: the first value of a key (`q`, `page`, `size`, `sort`, `include`), the last value of a
key (each `filter[<name>]`), and all values of a key in order (each `fields[<name>]`). Here each
field is given by the values of its own key alone (`valuesOf`), so the other keys and how they
interleave with it do not matter:

* `firstValue_eq_head` — the first value of a key is the head of its values;
* `bracketName?_eq_some_iff` — the name read from a key `pre[<name>]` is exactly the non-empty
  `<name>` that builds the key, so each name has one key;
* `filtersOf_get?` and `fieldsOf_get?` — the last value of a filter's key, coerced, and the
  pieces of all values of a field selection's key, in order; so both maps are the same for
  any two lists of pairs that give each key the same values (`filtersOf_congr`,
  `fieldsOf_congr`);
* `ofPairs_eq_reference` — the whole request.
-/

namespace QueryCompiler

namespace Request

/-- The values of the pairs whose key is `key`, in order. -/
def valuesOf (pairs : List (String × String)) (key : String) : List String :=
  (pairs.filter (·.1 = key)).map Prod.snd

@[simp] theorem valuesOf_nil (key : String) : valuesOf [] key = [] := rfl

theorem valuesOf_cons (p : String × String) (pairs : List (String × String)) (key : String) :
    valuesOf (p :: pairs) key =
      if p.1 = key then p.2 :: valuesOf pairs key else valuesOf pairs key := by
  by_cases h : p.1 = key <;> simp [valuesOf, h]

theorem valuesOf_append_singleton (pairs : List (String × String)) (p : String × String)
    (key : String) :
    valuesOf (pairs ++ [p]) key =
      if p.1 = key then valuesOf pairs key ++ [p.2] else valuesOf pairs key := by
  by_cases h : p.1 = key <;> simp [valuesOf, List.filter_append, h]

/-- The first value of a key is the first of its values. -/
theorem firstValue_eq_head (pairs : List (String × String)) (key : String) :
    firstValue? pairs key = (valuesOf pairs key).head? := by
  induction pairs with
  | nil => rfl
  | cons p rest ih =>
    by_cases h : p.1 = key
    · simp [firstValue?, valuesOf_cons, h]
    · simpa [firstValue?, List.find?_cons, valuesOf_cons, h] using ih

/-- A value is filled when it is not empty. -/
theorem not_isEmpty_eq (v : String) : (!v.isEmpty) = decide (v ≠ "") := by
  by_cases h : v = "" <;> simp [h, String.isEmpty_iff]

/-- The first filled value of a key is the first of its values, if that one is not empty. -/
theorem firstFilled_eq_head (pairs : List (String × String)) (key : String) :
    firstFilled? pairs key = (valuesOf pairs key).head?.filter (· ≠ "") := by
  simp only [firstFilled?, firstValue_eq_head, not_isEmpty_eq]

/-! ## Bracketed keys -/

/-- `dropPrefix?` takes off exactly the prefix. -/
theorem dropPrefix?_eq_some_iff (pre cs rest : List Char) :
    dropPrefix? pre cs = some rest ↔ cs = pre ++ rest := by
  induction pre generalizing cs with
  | nil => simp [dropPrefix?, eq_comm]
  | cons p ps ih =>
    cases cs with
    | nil => simp [dropPrefix?]
    | cons c cs =>
      by_cases h : p = c
      · subst h
        simp [dropPrefix?, ih]
      · simp [dropPrefix?, h, Ne.symm h]

/-- A list ends in `c` after a non-empty body exactly when it is that body and `c`. -/
theorem getLast_dropLast_iff (rest body : List Char) (c : Char) :
    (rest.getLast? = some c ∧ rest.dropLast ≠ [] ∧ rest.dropLast = body) ↔
      (body ≠ [] ∧ rest = body ++ [c]) := by
  constructor
  · rintro ⟨hl, hne, rfl⟩
    obtain ⟨ys, rfl⟩ := List.getLast?_eq_some_iff.mp hl
    simpa using hne
  · rintro ⟨hne, rfl⟩
    simp [hne]

/-- The name read from a key `pre[<name>]` is exactly the non-empty name that builds the key. -/
theorem bracketName?_eq_some_iff (pre key n : String) :
    bracketName? pre key = some n ↔ n ≠ "" ∧ key = pre ++ "[" ++ n ++ "]" := by
  have hkey : key = pre ++ "[" ++ n ++ "]" ↔ key.toList = pre.toList ++ ['['] ++ (n.toList ++ [']']) := by
    rw [← String.toList_inj]
    simp [String.toList_append]
  have hnil : n.toList = [] ↔ n = "" := by rw [← String.toList_empty, String.toList_inj]
  unfold bracketName?
  cases hd : dropPrefix? (pre.toList ++ ['[']) key.toList with
  | none =>
    -- a key built from the name starts with the prefix
    simp only [reduceCtorEq, false_iff, not_and]
    intro _ hk
    have := (dropPrefix?_eq_some_iff (pre.toList ++ ['[']) key.toList (n.toList ++ [']'])).mpr
      (by rw [hkey.mp hk])
    rw [hd] at this
    cases this
  | some rest =>
    have hk : key.toList = pre.toList ++ ['['] ++ rest := (dropPrefix?_eq_some_iff _ _ _).mp hd
    rw [hkey, hk, List.append_cancel_left_eq]
    dsimp only
    constructor
    · intro h
      split at h
      · next hlast =>
        have hbody : rest.dropLast = n.toList := by
          rw [← Option.some.inj h, String.toList_ofList]
        obtain ⟨hne, hr⟩ := (getLast_dropLast_iff rest n.toList ']').mp ⟨hlast.1, hlast.2, hbody⟩
        exact ⟨fun h0 => hne (hnil.mpr h0), hr⟩
      · cases h
    · rintro ⟨hn, hr⟩
      obtain ⟨h1, h2, h3⟩ :=
        (getLast_dropLast_iff rest n.toList ']').mpr ⟨fun h0 => hn (hnil.mp h0), hr⟩
      rw [if_pos ⟨h1, h2⟩, h3, String.ofList_toList]

example : bracketName? "filter" "filter[a][b]" = some "a][b" := by decide

/-- For a non-empty name, a key is the name's bracketed key exactly when the name is read
from it. -/
theorem eq_bracketKey_iff {pre key n : String} (hn : n ≠ "") :
    key = pre ++ "[" ++ n ++ "]" ↔ bracketName? pre key = some n := by
  rw [bracketName?_eq_some_iff]
  exact ⟨fun h => ⟨hn, h⟩, And.right⟩

/-- A pair whose key names no filter leaves the filters as they were. -/
theorem filtersOf_append_of_none {pairs : List (String × String)} {p : String × String}
    (h : bracketName? "filter" p.1 = none) : filtersOf (pairs ++ [p]) = filtersOf pairs := by
  unfold filtersOf
  rw [List.foldl_append]
  simp only [List.foldl_cons, List.foldl_nil, h]

/-- A pair whose key names a filter sets that filter to its value, coerced. -/
theorem filtersOf_append_of_some {pairs : List (String × String)} {p : String × String}
    {name : String} (h : bracketName? "filter" p.1 = some name) :
    filtersOf (pairs ++ [p]) = (filtersOf pairs).insert name (Scalar.coerce p.2) := by
  unfold filtersOf
  rw [List.foldl_append]
  simp only [List.foldl_cons, List.foldl_nil, h]

/-- Each filter is set by the last value of its key, coerced. -/
theorem filtersOf_get? (pairs : List (String × String)) (n : String) :
    (filtersOf pairs).get? n =
      if n = "" then none
      else ((valuesOf pairs ("filter[" ++ n ++ "]")).getLast?).map Scalar.coerce := by
  -- a pair's key is the filter's key exactly when the filter's name is read from it
  have hkey : ∀ key, n ≠ "" → (key = "filter[" ++ n ++ "]" ↔ bracketName? "filter" key = some n) :=
    fun key hn => by rw [show ("filter[" : String) = "filter" ++ "[" by simp]; exact eq_bracketKey_iff hn
  -- the last value wins: induct on the pairs from the right
  rw [← List.reverse_reverse pairs]
  generalize pairs.reverse = rev
  induction rev with
  | nil => simp [filtersOf]
  | cons p rest ih =>
    rw [List.reverse_cons]
    generalize rest.reverse = pairs at ih ⊢
    rw [valuesOf_append_singleton]
    by_cases hn : n = ""
    · -- no key names the empty filter
      subst hn
      cases h : bracketName? "filter" p.1 with
      | none => simpa [filtersOf_append_of_none h] using ih
      | some name =>
        have hname : name ≠ "" := ((bracketName?_eq_some_iff _ _ _).mp h).1
        simpa [filtersOf_append_of_some h, NameMap.get?_insert_ne _ _ hname] using ih
    · cases h : bracketName? "filter" p.1 with
      | none =>
        have hp : ¬p.1 = "filter[" ++ n ++ "]" := fun hp => by
          rw [(hkey p.1 hn).mp hp] at h
          cases h
        simpa [filtersOf_append_of_none h, hn, hp] using ih
      | some name =>
        by_cases hname : name = n
        · subst hname
          simp [filtersOf_append_of_some h, hn, (hkey p.1 hn).mpr h]
        · have hp : ¬p.1 = "filter[" ++ n ++ "]" := fun hp =>
            hname (Option.some.inj (h.symm.trans ((hkey p.1 hn).mp hp)))
          simpa [filtersOf_append_of_some h, NameMap.get?_insert_ne _ _ hname, hn, hp] using ih

/-- The filters depend on the values of each key alone, not on how the keys interleave. -/
theorem filtersOf_congr {pairs pairs' : List (String × String)}
    (h : ∀ key, valuesOf pairs key = valuesOf pairs' key) : filtersOf pairs = filtersOf pairs' :=
  NameMap.ext_get? fun n => by rw [filtersOf_get?, filtersOf_get?, h]

/-- A pair whose key names no field selection leaves the selections as they were. -/
theorem fieldsOf_append_of_none {pairs : List (String × String)} {p : String × String}
    (h : bracketName? "fields" p.1 = none) : fieldsOf (pairs ++ [p]) = fieldsOf pairs := by
  unfold fieldsOf
  rw [List.foldl_append]
  simp only [List.foldl_cons, List.foldl_nil, h]

/-- A pair whose key names a field selection appends the pieces of its value to it. -/
theorem fieldsOf_append_of_some {pairs : List (String × String)} {p : String × String}
    {name : String} (h : bracketName? "fields" p.1 = some name) :
    fieldsOf (pairs ++ [p]) =
      (fieldsOf pairs).alter name fun old => old.getD [] ++ Text.splitText ',' p.2 := by
  unfold fieldsOf
  rw [List.foldl_append]
  simp only [List.foldl_cons, List.foldl_nil, h]

/-- Each field selection is the pieces of all values of its key, in order. -/
theorem fieldsOf_get? (pairs : List (String × String)) (n : String) :
    (fieldsOf pairs).get? n =
      if n = "" ∨ valuesOf pairs ("fields[" ++ n ++ "]") = [] then none
      else some ((valuesOf pairs ("fields[" ++ n ++ "]")).flatMap (Text.splitText ',')) := by
  have hkey : ∀ key, n ≠ "" → (key = "fields[" ++ n ++ "]" ↔ bracketName? "fields" key = some n) :=
    fun key hn => by rw [show ("fields[" : String) = "fields" ++ "[" by simp]; exact eq_bracketKey_iff hn
  -- every value is appended in turn: induct on the pairs from the right
  rw [← List.reverse_reverse pairs]
  generalize pairs.reverse = rev
  induction rev with
  | nil => simp [fieldsOf]
  | cons p rest ih =>
    rw [List.reverse_cons]
    generalize rest.reverse = pairs at ih ⊢
    rw [valuesOf_append_singleton]
    by_cases hn : n = ""
    · -- no key names the empty selection
      subst hn
      cases h : bracketName? "fields" p.1 with
      | none => simpa [fieldsOf_append_of_none h] using ih
      | some name =>
        have hname : name ≠ "" := ((bracketName?_eq_some_iff _ _ _).mp h).1
        simpa [fieldsOf_append_of_some h, NameMap.get?_alter_ne _ _ hname] using ih
    · cases h : bracketName? "fields" p.1 with
      | none =>
        have hp : ¬p.1 = "fields[" ++ n ++ "]" := fun hp => by
          rw [(hkey p.1 hn).mp hp] at h
          cases h
        simpa [fieldsOf_append_of_none h, hn, hp] using ih
      | some name =>
        by_cases hname : name = n
        · subst hname
          -- the pieces so far, then this value's
          have hold : ((fieldsOf pairs).get? name).getD [] =
              (valuesOf pairs ("fields[" ++ name ++ "]")).flatMap (Text.splitText ',') := by
            by_cases hv : valuesOf pairs ("fields[" ++ name ++ "]") = [] <;> simp [ih, hn, hv]
          simp [fieldsOf_append_of_some h, hold, hn, (hkey p.1 hn).mpr h]
        · have hp : ¬p.1 = "fields[" ++ n ++ "]" := fun hp =>
            hname (Option.some.inj (h.symm.trans ((hkey p.1 hn).mp hp)))
          simpa [fieldsOf_append_of_some h, NameMap.get?_alter_ne _ _ hname, hn, hp] using ih

/-- The field selections depend on the values of each key alone. -/
theorem fieldsOf_congr {pairs pairs' : List (String × String)}
    (h : ∀ key, valuesOf pairs key = valuesOf pairs' key) : fieldsOf pairs = fieldsOf pairs' :=
  NameMap.ext_get? fun n => by rw [fieldsOf_get?, fieldsOf_get?, h]

end Request

namespace SortKey

/-- A token with a leading `-` sorts the rest of it descending; only one `-` is taken off. -/
theorem ofToken_neg (n : String) : ofToken ("-" ++ n) = ⟨n, false⟩ := by
  have h : ("-" ++ n).toList = '-' :: n.toList := by simp [String.toList_append]
  simp [ofToken, h, String.ofList_toList]

end SortKey

namespace Request

/-- The request read from a list of pairs, field by field, in terms of the values of each key:
the first value of `q`, `sort`, `include`, `page` and `size` (unless empty, but for `sort`),
the last value of each `filter[<name>]`, and all values of each `fields[<name>]`. A sort token
with a leading `-` is descending, with that one `-` taken off. -/
theorem ofPairs_eq_reference (pairs : List (String × String)) :
    (ofPairs pairs).query = (valuesOf pairs "q").head?.filter (· ≠ "") ∧
    (ofPairs pairs).sort = ((valuesOf pairs "sort").head?.map fun v =>
        ((Text.splitText ',' v).filter (· ≠ "")).map SortKey.ofToken).getD [] ∧
    (∀ n, SortKey.ofToken ("-" ++ n) = ⟨n, false⟩) ∧
    (∀ t : String, t.toList.head? ≠ some '-' → SortKey.ofToken t = ⟨t, true⟩) ∧
    (ofPairs pairs).includes =
      (((valuesOf pairs "include").head?.filter (· ≠ "")).map (Text.splitText ',')).getD [] ∧
    (∀ n, (ofPairs pairs).filters.get? n =
      if n = "" then none
      else ((valuesOf pairs ("filter[" ++ n ++ "]")).getLast?).map Scalar.coerce) ∧
    (∀ n, (ofPairs pairs).fields.get? n =
      if n = "" ∨ valuesOf pairs ("fields[" ++ n ++ "]") = [] then none
      else some ((valuesOf pairs ("fields[" ++ n ++ "]")).flatMap (Text.splitText ','))) ∧
    (ofPairs pairs).page =
      (readParam .page ((valuesOf pairs "page").head?.filter (· ≠ ""))).1.map (max · 1) ∧
    (ofPairs pairs).size = (readParam .size ((valuesOf pairs "size").head?.filter (· ≠ ""))).1 ∧
    (ofPairs pairs).errors =
      (readParam .page ((valuesOf pairs "page").head?.filter (· ≠ ""))).2 ++
        (readParam .size ((valuesOf pairs "size").head?.filter (· ≠ ""))).2 := by
  -- a token is kept when it is not empty
  have hsort : SortKey.listOf = fun v => ((Text.splitText ',' v).filter (· ≠ "")).map SortKey.ofToken := by
    funext v
    simp only [SortKey.listOf, not_isEmpty_eq]
  refine ⟨firstFilled_eq_head pairs "q", ?_, SortKey.ofToken_neg, fun t h => SortKey.ofToken_of_head_ne h,
    ?_, filtersOf_get? pairs, fieldsOf_get? pairs, ?_, ?_, ?_⟩
  · simp only [ofPairs, firstValue_eq_head, hsort]
  · simp only [ofPairs, firstFilled_eq_head]
  · simp only [ofPairs, firstFilled_eq_head]
  · simp only [ofPairs, firstFilled_eq_head]
  · simp only [ofPairs, firstFilled_eq_head]

end Request

end QueryCompiler
