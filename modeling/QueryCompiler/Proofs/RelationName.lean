import Mathlib
import QueryCompiler.Plan.Relation

/-!
# Normal forms of relation names

An include path is normalised by cutting it at `.`, reading `-` as `_`, cutting each segment at
`_` and capitalising the pieces. Case mapping never writes a `.`, `_` or `-` of its own: the
Unicode tables shift no run of characters onto one and expand no character into one
(`Text.upper_avoidsSeparators`, `Text.lower_avoidsSeparators`). So a normal form is its dotted
segments, each non-empty and free of separators (`Relation.segmentsOf_wellFormed`).

Normalising such a name again cuts it into the same segments and, as no segment has a `_` or `-`
left, only capitalises each once more (`Relation.ofInclude_ofInclude`). A name is therefore its
own normal form exactly when capitalising fixes each segment (`Relation.ofInclude_idempotent_iff`).
That fails where the first pass ran pieces together into a camel-cased word: `a_b` names `AB`,
which is no camel case, so a second pass lowers its tail and names `Ab`.
-/

namespace QueryCompiler

namespace Text

/-! ## Separators under case mapping -/

/-- The code points of the characters that cut an include path: `.`, `_` and `-`. -/
def separatorCodes : List Nat := [0x2E, 0x5F, 0x2D]

/-- Whether a character cuts an include path into parts. -/
def Separator (c : Char) : Prop := c.toNat ∈ separatorCodes

instance : DecidablePred Separator := fun c => inferInstanceAs (Decidable (c.toNat ∈ separatorCodes))

/-- A table of shifts and expansions that never maps a character onto a separator. -/
def AvoidsSeparators (shifts : List Shift) (expansions : List (Nat × List Nat)) : Prop :=
  (∀ s ∈ shifts, ∀ t ∈ separatorCodes,
    ¬ ((s.start : Int) ≤ t - s.delta ∧ (t : Int) - s.delta < s.start + s.count * s.step)) ∧
  ∀ e ∈ expansions, e.2 ≠ [] ∧ ∀ n ∈ e.2, n ∉ separatorCodes

instance (shifts : List Shift) (expansions : List (Nat × List Nat)) :
    Decidable (AvoidsSeparators shifts expansions) :=
  inferInstanceAs (Decidable (_ ∧ _))

set_option maxRecDepth 4000 in
theorem upper_avoidsSeparators : AvoidsSeparators upperShifts upperExpansions := by
  decide

set_option maxRecDepth 4000 in
theorem lower_avoidsSeparators : AvoidsSeparators lowerShifts lowerExpansions := by
  decide

/-- A character made from a code point is that code point, or the null character. -/
theorem toNat_ofNat_eq (n : Nat) : (Char.ofNat n).toNat = n ∨ (Char.ofNat n).toNat = 0 := by
  unfold Char.ofNat
  split
  · exact .inl rfl
  · exact .inr rfl

/-- The shift found for a code point is that of a run holding it. -/
theorem shiftOf?_eq_some {n : Nat} {shifts : List Shift} {d : Int} (h : shiftOf? n shifts = some d) :
    ∃ s ∈ shifts, s.delta = d ∧ s.start ≤ n ∧ n < s.start + s.count * s.step := by
  induction shifts with
  | nil => simp [shiftOf?] at h
  | cons s rest ih =>
    unfold shiftOf? at h
    split at h
    · simp at h
    · split at h
      · next hlt hin =>
        simp only [Bool.and_eq_true, decide_eq_true_eq] at hin
        exact ⟨s, List.mem_cons_self .., Option.some.inj h, by omega, hin.1⟩
      · obtain ⟨s', hs', hrest⟩ := ih h
        exact ⟨s', List.mem_cons_of_mem _ hs', hrest⟩

/-- A table that avoids separators maps a character onto a separator only by leaving it as it
is. -/
theorem eq_of_separator_mem_mapChar {shifts : List Shift} {expansions : List (Nat × List Nat)}
    (havoid : AvoidsSeparators shifts expansions) {c x : Char}
    (hx : x ∈ mapChar shifts expansions c) (hsep : Separator x) : x = c := by
  have hzero : (0 : Nat) ∉ separatorCodes := by decide
  unfold mapChar at hx
  split at hx
  · next cs hcs =>
    -- an expansion: its code points avoid the separators
    obtain ⟨n, hn, rfl⟩ := List.mem_map.mp hx
    obtain ⟨l₁, l₂, hl, -⟩ := List.lookup_eq_some_iff.mp hcs
    have hmem : (c.toNat, cs) ∈ expansions := by simp [hl]
    have hnot := (havoid.2 _ hmem).2 n hn
    unfold Separator at hsep
    rcases toNat_ofNat_eq n with h | h <;> rw [h] at hsep
    · exact absurd hsep hnot
    · exact absurd hsep hzero
  · split at hx
    · next d hd =>
      -- a shift: the run holding `c` is not shifted onto a separator
      obtain ⟨s, hs, rfl, hlo, hhi⟩ := shiftOf?_eq_some hd
      have hx' : x = Char.ofNat (c.toNat + s.delta).toNat := List.mem_singleton.mp hx
      unfold Separator at hsep
      rw [hx'] at hsep
      rcases toNat_ofNat_eq (c.toNat + s.delta).toNat with h | h <;> rw [h] at hsep
      · have hpos : 0 < (c.toNat + s.delta).toNat := by
          simp only [separatorCodes, List.mem_cons, List.not_mem_nil, or_false] at hsep
          omega
        exact absurd ⟨by omega, by omega⟩ (havoid.1 s hs _ hsep)
      · exact absurd hsep hzero
    · exact List.mem_singleton.mp hx

/-- A table that avoids separators maps every character to at least one. -/
theorem mapChar_ne_nil {shifts : List Shift} {expansions : List (Nat × List Nat)}
    (havoid : AvoidsSeparators shifts expansions) (c : Char) : mapChar shifts expansions c ≠ [] := by
  unfold mapChar
  split
  · next cs hcs =>
    obtain ⟨l₁, l₂, hl, -⟩ := List.lookup_eq_some_iff.mp hcs
    have hmem : (c.toNat, cs) ∈ expansions := by simp [hl]
    simpa using (havoid.2 _ hmem).1
  · split <;> simp

theorem eq_of_separator_mem_upperChars {c x : Char} (hx : x ∈ upperChars c) (hsep : Separator x) :
    x = c :=
  eq_of_separator_mem_mapChar upper_avoidsSeparators hx hsep

theorem eq_of_separator_mem_lowerChars {c x : Char} (hx : x ∈ lowerChars c) (hsep : Separator x) :
    x = c :=
  eq_of_separator_mem_mapChar lower_avoidsSeparators hx hsep

/-- Lowercasing a text writes a separator only where the text has it. -/
theorem mem_of_separator_mem_lowerList {before cs : List Char} {x : Char}
    (hx : x ∈ lowerList before cs) (hsep : Separator x) : x ∈ cs := by
  induction cs generalizing before with
  | nil => simp [lowerList] at hx
  | cons c cs ih =>
    simp only [lowerList, List.mem_append] at hx
    rcases hx with hx | hx
    · split at hx
      · -- a capital sigma becomes a small sigma, which is no separator
        have hsig : x = 'ς' ∨ x = 'σ' := by
          simp only [lowerSigma, List.mem_singleton] at hx
          split at hx <;> simp [hx]
        rcases hsig with rfl | rfl <;> exact absurd hsep (by decide)
      · exact List.mem_cons.mpr (.inl (eq_of_separator_mem_lowerChars hx hsep))
    · exact List.mem_cons_of_mem _ (ih hx)

theorem upperChars_ne_nil (c : Char) : upperChars c ≠ [] :=
  mapChar_ne_nil upper_avoidsSeparators c

/-- The separators are `.`, `_` and `-`. -/
theorem separator_cases {c : Char} (h : Separator c) : c = '.' ∨ c = '_' ∨ c = '-' := by
  simp only [Separator, separatorCodes, List.mem_cons, List.not_mem_nil, or_false] at h
  rw [← Char.ofNat_toNat c]
  rcases h with h | h | h <;> rw [h] <;> simp

end Text

namespace Relation

open Text

/-- The characters of a capitalised piece: its first character uppercased, then the rest as
written in camel case and lowercased otherwise. -/
theorem toList_capitalize_of_cons {piece : String} {c : Char} {rest : List Char}
    (h : piece.toList = c :: rest) :
    (capitalize piece).toList =
      upperChars c ++ if isCamelCased (c :: rest) then rest else lowerList [] rest := by
  unfold capitalize
  simp only [h]
  split <;> simp [toLower]

/-- Capitalising writes a separator only where the piece has it. -/
theorem mem_of_separator_mem_capitalize {piece : String} {x : Char}
    (hx : x ∈ (capitalize piece).toList) (hsep : Separator x) : x ∈ piece.toList := by
  cases h : piece.toList with
  | nil => simp [String.toList_eq_nil_iff.mp h, show capitalize "" = "" from rfl] at hx
  | cons c rest =>
    rw [toList_capitalize_of_cons h] at hx
    rcases List.mem_append.mp hx with hx | hx
    · exact List.mem_cons.mpr (.inl (eq_of_separator_mem_upperChars hx hsep))
    · split at hx
      · exact List.mem_cons_of_mem _ hx
      · exact List.mem_cons_of_mem _ (mem_of_separator_mem_lowerList hx hsep)

theorem capitalize_ne_empty {piece : String} (h : piece ≠ "") : capitalize piece ≠ "" := by
  cases hp : piece.toList with
  | nil => exact absurd (String.toList_eq_nil_iff.mp hp) h
  | cons c rest =>
    intro hc
    have hnil := congrArg String.toList hc
    rw [toList_capitalize_of_cons hp] at hnil
    simp [upperChars_ne_nil] at hnil

/-- A segment in Pascal case has a separator only where the segment has it, and never `_` or
`-`. -/
theorem mem_of_separator_mem_pascalCase {segment : String} {x : Char}
    (hx : x ∈ (pascalCase segment).toList) (hsep : Separator x) :
    x ∈ segment.toList ∧ x ≠ '_' ∧ x ≠ '-' := by
  simp only [pascalCase, splitText, String.toList_join, List.map_map, List.mem_flatMap,
    List.mem_map, Function.comp_apply, String.toList_ofList] at hx
  obtain ⟨_, ⟨p, hp, rfl⟩, hx⟩ := hx
  -- the character stands in a piece between underscores of the segment with `-` read as `_`
  have hpiece := mem_of_separator_mem_capitalize hx hsep
  rw [String.toList_ofList] at hpiece
  obtain ⟨hmapped, hne⟩ := mem_of_mem_splitOn hp hpiece
  obtain ⟨y, hy, hyx⟩ := List.mem_map.mp hmapped
  by_cases hdash : y = '-'
  · rw [if_pos hdash] at hyx
    exact absurd hyx.symm hne
  · rw [if_neg hdash] at hyx
    subst hyx
    exact ⟨hy, hne, hdash⟩

/-- A segment without separators is one piece: Pascal case only capitalises it. -/
theorem pascalCase_of_forall_not_separator {segment : String}
    (h : ∀ x ∈ segment.toList, ¬ Separator x) : pascalCase segment = capitalize segment := by
  have hkeep : segment.toList.map (fun c => if c = '-' then '_' else c) = segment.toList := by
    refine (List.map_congr_left fun c hc => ?_).trans (List.map_id segment.toList)
    have hdash : c ≠ '-' := fun hd => h c hc (hd ▸ by decide)
    simp [hdash]
  have hunder : '_' ∉ segment.toList := fun hu => h '_' hu (by decide)
  simp [pascalCase, splitText, hkeep, splitOn_of_not_mem hunder]

/-! ## The normal form and a second pass -/

/-- The non-empty dotted segments, in Pascal case, of the relation an include path names. -/
def segmentsOf (raw : String) : List String :=
  (((splitText '.' raw).filter (fun s => !s.isEmpty)).map pascalCase).filter (fun s => !s.isEmpty)

theorem ofInclude_eq_intercalate (raw : String) :
    ofInclude raw = ".".intercalate (segmentsOf raw) := rfl

/-- Every segment of a relation name is non-empty and free of separators. -/
theorem segmentsOf_wellFormed {raw s : String} (hs : s ∈ segmentsOf raw) :
    s ≠ "" ∧ ∀ x ∈ s.toList, ¬ Separator x := by
  simp only [segmentsOf, List.mem_filter, List.mem_map, Bool.not_eq_true',
    String.isEmpty_eq_false_iff] at hs
  obtain ⟨⟨seg, ⟨hseg, -⟩, rfl⟩, hne⟩ := hs
  refine ⟨hne, fun x hx hsep => ?_⟩
  obtain ⟨hmem, hunder, hdash⟩ := mem_of_separator_mem_pascalCase hx hsep
  -- a segment of the path holds no `.`, and Pascal case writes no `_` or `-`
  have hdot : '.' ∉ seg.toList := not_mem_of_mem_splitText hseg
  rcases separator_cases hsep with rfl | rfl | rfl
  · exact hdot hmem
  · exact hunder rfl
  · exact hdash rfl

/-- Normalising a relation name once more capitalises each of its dotted segments again. -/
theorem ofInclude_ofInclude (raw : String) :
    ofInclude (ofInclude raw) = ".".intercalate ((splitText '.' (ofInclude raw)).map capitalize) := by
  by_cases hnil : segmentsOf raw = []
  · -- nothing is left of the path: the name is empty, and so is its normal form
    rw [ofInclude_eq_intercalate raw, hnil]
    decide
  · have hsplit : splitText '.' (ofInclude raw) = segmentsOf raw :=
      splitText_intercalate hnil fun s hs hdot => (segmentsOf_wellFormed hs).2 '.' hdot (by decide)
    have hkeep : (segmentsOf raw).filter (fun s => !s.isEmpty) = segmentsOf raw :=
      List.filter_eq_self.mpr fun s hs => by simpa using (segmentsOf_wellFormed hs).1
    have hpascal : (segmentsOf raw).map pascalCase = (segmentsOf raw).map capitalize :=
      List.map_congr_left fun s hs => pascalCase_of_forall_not_separator (segmentsOf_wellFormed hs).2
    have hcap : ((segmentsOf raw).map capitalize).filter (fun s => !s.isEmpty) =
        (segmentsOf raw).map capitalize :=
      List.filter_eq_self.mpr fun s hs => by
        obtain ⟨t, ht, rfl⟩ := List.mem_map.mp hs
        simpa using capitalize_ne_empty (segmentsOf_wellFormed ht).1
    rw [ofInclude_eq_intercalate (ofInclude raw)]
    unfold segmentsOf
    rw [hsplit, hkeep, hpascal, hcap]

/-- A relation name is its own normal form exactly when capitalising leaves each of its dotted
segments as it is. -/
theorem ofInclude_idempotent_iff (raw : String) :
    ofInclude (ofInclude raw) = ofInclude raw ↔
      ∀ s ∈ splitText '.' (ofInclude raw), capitalize s = s := by
  have hjoin : ".".intercalate (splitText '.' (ofInclude raw)) = ofInclude raw :=
    intercalate_splitText '.' (ofInclude raw)
  rw [ofInclude_ofInclude]
  constructor
  · intro h
    -- split both sides again: capitalising kept the segments free of `.`, so they come back
    have hdots : ∀ s ∈ (splitText '.' (ofInclude raw)).map capitalize, '.' ∉ s.toList := by
      intro s hs hdot
      obtain ⟨t, ht, rfl⟩ := List.mem_map.mp hs
      exact not_mem_of_mem_splitText ht (mem_of_separator_mem_capitalize hdot (by decide))
    have hne : (splitText '.' (ofInclude raw)).map capitalize ≠ [] := by
      simp [splitText, splitOn_ne_nil]
    have hsame := congrArg (splitText '.') h
    rw [show "." = String.singleton '.' from rfl, splitText_intercalate hne hdots] at hsame
    simpa using List.map_eq_map_iff.mp (hsame.trans (List.map_id _).symm)
  · intro h
    rw [List.map_congr_left h, List.map_id', hjoin]

/-- Normalising is not idempotent: `a_b` names `AB`, which read as a path names `Ab`. -/
theorem ofInclude_second_pass_differs :
    ofInclude "a_b" = "AB" ∧ ofInclude (ofInclude "a_b") = "Ab" := by
  decide

end Relation

end QueryCompiler
