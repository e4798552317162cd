/-!
# Splitting text on a separator

A text split on a separator character gives the pieces between separators, empty pieces
included: `a,,b` gives `a`, ``, `b`, and the empty text gives one empty piece. Joining the
pieces with the separator gives the text back (`joinOn_splitOn`), and splitting pieces that do
not hold the separator, joined, gives the pieces back (`splitOn_joinOn`).
-/

namespace QueryCompiler

namespace Text

/-- The pieces of a character list between occurrences of `sep`. -/
def splitOn (sep : Char) : List Char → List (List Char)
  | [] => [[]]
  | c :: cs =>
    if c = sep then [] :: splitOn sep cs
    else
      match splitOn sep cs with
      | p :: ps => (c :: p) :: ps
      | [] => [[c]]

/-- The pieces joined again, with `sep` between neighbours. -/
def joinOn (sep : Char) : List (List Char) → List Char
  | [] => []
  | [p] => p
  | p :: ps => p ++ sep :: joinOn sep ps

/-- Splitting never gives an empty list of pieces. -/
theorem splitOn_ne_nil (sep : Char) (cs : List Char) : splitOn sep cs ≠ [] := by
  cases cs with
  | nil => simp [splitOn]
  | cons c cs =>
    unfold splitOn
    split
    · simp
    · split <;> simp

/-- Joining the pieces of a split gives the text back. -/
theorem joinOn_splitOn (sep : Char) (cs : List Char) : joinOn sep (splitOn sep cs) = cs := by
  induction cs with
  | nil => rfl
  | cons c cs ih =>
    unfold splitOn
    by_cases h : c = sep
    · simp only [h, if_true]
      cases hs : splitOn sep cs with
      | nil => exact absurd hs (splitOn_ne_nil sep cs)
      | cons p ps => rw [hs] at ih; simp [joinOn, ih]
    · simp only [h, if_false]
      cases hs : splitOn sep cs with
      | nil => exact absurd hs (splitOn_ne_nil sep cs)
      | cons p ps =>
        rw [hs] at ih
        cases ps with
        | nil => simp_all [joinOn]
        | cons q qs => simp_all [joinOn]

/-- The pieces of a string between occurrences of `sep`, as strings. -/
def splitText (sep : Char) (s : String) : List String :=
  (splitOn sep s.toList).map String.ofList

/-! ## Splitting what was joined -/

/-- A character of a piece is a character of the text, and not the separator. -/
theorem mem_of_mem_splitOn {sep x : Char} {cs p : List Char} (hp : p ∈ splitOn sep cs)
    (hx : x ∈ p) : x ∈ cs ∧ x ≠ sep := by
  induction cs generalizing p with
  | nil => simp_all [splitOn]
  | cons c cs ih =>
    unfold splitOn at hp
    split at hp
    · rcases List.mem_cons.mp hp with rfl | hp
      · simp at hx
      · exact ⟨List.mem_cons_of_mem _ (ih hp hx).1, (ih hp hx).2⟩
    · next hc =>
      -- the first piece gains `c`; the others are pieces of the rest
      split at hp
      · next q qs hs =>
        rcases List.mem_cons.mp hp with rfl | hp
        · rcases List.mem_cons.mp hx with rfl | hx
          · exact ⟨List.mem_cons_self .., hc⟩
          · have := ih (hs ▸ List.mem_cons_self ..) hx
            exact ⟨List.mem_cons_of_mem _ this.1, this.2⟩
        · have := ih (hs ▸ List.mem_cons_of_mem _ hp) hx
          exact ⟨List.mem_cons_of_mem _ this.1, this.2⟩
      · next hs => exact absurd hs (splitOn_ne_nil sep cs)

/-- A text without the separator is one piece. -/
theorem splitOn_of_not_mem {sep : Char} {cs : List Char} (h : sep ∉ cs) : splitOn sep cs = [cs] := by
  induction cs with
  | nil => rfl
  | cons c cs ih =>
    have hc : c ≠ sep := fun hc => h (hc ▸ List.mem_cons_self ..)
    have hrest : splitOn sep cs = [cs] := ih (fun hs => h (List.mem_cons_of_mem _ hs))
    simp [splitOn, hc, hrest]

/-- A piece without the separator, then the separator, splits off as the first piece. -/
theorem splitOn_append_cons {sep : Char} {p : List Char} (h : sep ∉ p) (rest : List Char) :
    splitOn sep (p ++ sep :: rest) = p :: splitOn sep rest := by
  induction p with
  | nil => simp [splitOn]
  | cons c p ih =>
    have hc : c ≠ sep := fun hc => h (hc ▸ List.mem_cons_self ..)
    have hrest := ih (fun hs => h (List.mem_cons_of_mem _ hs))
    simp [splitOn, hc, hrest]

/-- Splitting the joined pieces gives them back, as long as none holds the separator. -/
theorem splitOn_joinOn {sep : Char} {ps : List (List Char)} (hne : ps ≠ [])
    (h : ∀ p ∈ ps, sep ∉ p) : splitOn sep (joinOn sep ps) = ps := by
  induction ps with
  | nil => exact absurd rfl hne
  | cons p ps ih =>
    cases ps with
    | nil => exact splitOn_of_not_mem (h p (List.mem_cons_self ..))
    | cons q qs =>
      show splitOn sep (p ++ sep :: joinOn sep (q :: qs)) = _
      rw [splitOn_append_cons (h p (List.mem_cons_self ..)),
        ih (List.cons_ne_nil _ _) (fun r hr => h r (List.mem_cons_of_mem _ hr))]

/-- Joining with a separator is intercalating it. -/
theorem joinOn_eq_intercalate (sep : Char) (ps : List (List Char)) :
    joinOn sep ps = [sep].intercalate ps := by
  induction ps with
  | nil => rfl
  | cons p ps ih =>
    cases ps with
    | nil => simp [joinOn]
    | cons q qs => simp [joinOn, ih, List.intercalate_cons_cons]

/-- A piece of a split holds no separator. -/
theorem not_mem_of_mem_splitText {sep : Char} {s t : String} (hs : s ∈ splitText sep t) :
    sep ∉ s.toList := by
  obtain ⟨p, hp, rfl⟩ := List.mem_map.mp hs
  rw [String.toList_ofList]
  exact fun hsep => (mem_of_mem_splitOn hp hsep).2 rfl

/-- Splitting a text joined with the separator gives the parts back, as long as there is one
and none holds the separator. -/
theorem splitText_intercalate {sep : Char} {ss : List String} (hne : ss ≠ [])
    (h : ∀ s ∈ ss, sep ∉ s.toList) : splitText sep ((String.singleton sep).intercalate ss) = ss := by
  have hparts : ∀ p ∈ ss.map String.toList, sep ∉ p := by
    simpa using h
  rw [splitText, String.toList_intercalate, String.toList_singleton, ← joinOn_eq_intercalate,
    splitOn_joinOn (by simpa using hne) hparts, List.map_map]
  simp

/-- Joining the parts of a split with the separator gives the text back. -/
theorem intercalate_splitText (sep : Char) (s : String) :
    (String.singleton sep).intercalate (splitText sep s) = s := by
  apply String.ext
  rw [splitText, String.toList_intercalate, String.toList_singleton, ← joinOn_eq_intercalate,
    List.map_map]
  simp [joinOn_splitOn]

end Text

end QueryCompiler
