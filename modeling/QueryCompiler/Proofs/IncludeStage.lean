import Mathlib
import QueryCompiler.Proofs.FailStop
import QueryCompiler.Proofs.Validation
import QueryCompiler.Proofs.RelationName

/-!
# What the include stage loads

The include stage walks the requested includes in order. It skips an include that a non-empty
allow-list does not hold as written, normalises the rest into relation names, skips an empty
name, and loads and records each other one.

Which names come out empty is a fact about the text alone: an include names no relation
exactly when it holds nothing but `.`, `-` and `_` (`Relation.ofInclude_eq_empty_iff`). Each
`.`-segment becomes the capitalised pieces between its `_` and `-`, and case mapping never
turns a character into nothing (`Text.upperChars_ne_nil`), so a piece vanishes only when it is
empty, a segment only when it is separators, and the name only when every segment does.

So on a backend that loads every relation the stage loads the relation of each admitted
include that holds another character, in request order and with repeats, fails on none of
the others, and records exactly the relations it loads; an execution's registry is that list,
or empty when an earlier stage stops the build (`Stages.include_stage_loads`).
-/

namespace QueryCompiler

namespace Text

/-! ## Pieces that are all separators -/

/-- A character of joined pieces is the separator or a character of one of the pieces. -/
theorem mem_joinOn {sep c : Char} :
    ∀ {ps : List (List Char)}, c ∈ joinOn sep ps → c = sep ∨ ∃ p ∈ ps, c ∈ p
  | [], h => by simp [joinOn] at h
  | [p], h => .inr ⟨p, List.mem_singleton_self p, h⟩
  | p :: q :: qs, h => by
    have h' : c ∈ p ++ sep :: joinOn sep (q :: qs) := h
    simp only [List.mem_append, List.mem_cons] at h'
    rcases h' with h' | rfl | h'
    · exact .inr ⟨p, List.mem_cons_self .., h'⟩
    · exact .inl rfl
    · rcases mem_joinOn h' with hsep | ⟨r, hr, hc⟩
      · exact .inl hsep
      · exact .inr ⟨r, List.mem_cons_of_mem _ hr, hc⟩

/-- A character of a text other than the separator stands in one of its pieces. -/
theorem exists_mem_splitOn {sep c : Char} {cs : List Char} (hc : c ∈ cs) (hne : c ≠ sep) :
    ∃ p ∈ splitOn sep cs, c ∈ p := by
  rw [← joinOn_splitOn sep cs] at hc
  exact (mem_joinOn hc).resolve_left hne

/-- Every piece of a split is empty exactly when the text is separators only. -/
theorem forall_splitOn_eq_nil_iff (sep : Char) (cs : List Char) :
    (∀ p ∈ splitOn sep cs, p = []) ↔ ∀ c ∈ cs, c = sep := by
  constructor
  · intro h c hc
    refine Classical.byContradiction fun hne => ?_
    obtain ⟨p, hp, hcp⟩ := exists_mem_splitOn hc hne
    simp [h p hp] at hcp
  · intro h p hp
    rw [List.eq_nil_iff_forall_not_mem]
    intro x hx
    exact (mem_of_mem_splitOn hp hx).2 (h x (mem_of_mem_splitOn hp hx).1)

end Text

namespace Relation

open Text

/-! ## Includes that name no relation -/

/-- Capitalising empties only the empty piece. -/
theorem capitalize_eq_empty_iff (piece : String) : capitalize piece = "" ↔ piece = "" :=
  ⟨fun h => Classical.byContradiction fun hne => capitalize_ne_empty hne h, by rintro rfl; rfl⟩

/-- A segment vanishes in Pascal case exactly when it holds only `_` and `-`. -/
theorem pascalCase_eq_empty_iff (segment : String) :
    pascalCase segment = "" ↔ ∀ c ∈ segment.toList, c = '_' ∨ c = '-' := by
  -- the capitalised pieces run together are empty exactly when every piece is
  have hpieces : pascalCase segment = "" ↔
      ∀ p ∈ splitOn '_' (segment.toList.map fun c => if c = '-' then '_' else c), p = [] := by
    rw [← String.toList_inj]
    simp [pascalCase, splitText, String.toList_join, capitalize_eq_empty_iff]
  rw [hpieces, forall_splitOn_eq_nil_iff]
  simp only [List.mem_map, forall_exists_index, and_imp, forall_apply_eq_imp_iff₂]
  refine forall₂_congr fun c _ => ?_
  by_cases hdash : c = '-' <;> simp [hdash]

/-- An include names no relation exactly when it holds only `.`, `-` and `_`. -/
theorem ofInclude_eq_empty_iff (raw : String) :
    ofInclude raw = "" ↔ ∀ c ∈ raw.toList, c = '.' ∨ c = '-' ∨ c = '_' := by
  -- the name is empty exactly when no segment is left
  have hsegments : ofInclude raw = "" ↔ segmentsOf raw = [] := by
    by_cases hnil : segmentsOf raw = []
    · simp [ofInclude_eq_intercalate, hnil]
    · have hsplit : splitText '.' (ofInclude raw) = segmentsOf raw :=
        splitText_intercalate hnil fun s hs hdot => (segmentsOf_wellFormed hs).2 '.' hdot (by decide)
      refine ⟨fun h => ?_, fun h => absurd h hnil⟩
      -- an empty name splits into one empty segment, and no segment is empty
      have hempty : "" ∈ segmentsOf raw := by
        rw [← hsplit, h]
        decide
      exact absurd rfl (segmentsOf_wellFormed hempty).1
  -- no segment is left exactly when every segment is `_` and `-` only
  have hleft : segmentsOf raw = [] ↔
      ∀ seg ∈ splitText '.' raw, ∀ c ∈ seg.toList, c = '_' ∨ c = '-' := by
    have hvanish (seg : String) :
        (seg ≠ "" → pascalCase seg = "") ↔ ∀ c ∈ seg.toList, c = '_' ∨ c = '-' := by
      by_cases hseg : seg = ""
      · simp [hseg]
      · simp [hseg, pascalCase_eq_empty_iff]
    simp only [segmentsOf, List.filter_eq_nil_iff, List.forall_mem_map, List.mem_filter, and_imp,
      Bool.not_eq_true', String.isEmpty_eq_false_iff, Classical.not_not]
    exact forall₂_congr fun seg _ => hvanish seg
  rw [hsegments, hleft]
  constructor
  · intro h c hc
    by_cases hdot : c = '.'
    · exact .inl hdot
    · -- a character other than `.` stands in some segment
      obtain ⟨p, hp, hcp⟩ := exists_mem_splitOn hc hdot
      have hseg : String.ofList p ∈ splitText '.' raw := List.mem_map_of_mem hp
      rcases h _ hseg c (by simpa using hcp) with h | h
      · exact .inr (.inr h)
      · exact .inr (.inl h)
  · intro h seg hseg c hc
    obtain ⟨p, hp, rfl⟩ := List.mem_map.mp hseg
    rw [String.toList_ofList] at hc
    obtain ⟨hraw, hdot⟩ := mem_of_mem_splitOn hp hc
    rcases h c hraw with h | h | h
    · exact absurd h hdot
    · exact .inr h
    · exact .inl h

end Relation

namespace Stages

/-! ## The include stage -/

/-- The includes the include stage owes a load, by its contract: those that the allow-list is
empty or holds as written, and that hold a character other than `.`, `-` and `_`; in request
order, with repeats. -/
def admittedIncludes (allow : AllowList String) (r : Request) : List String :=
  r.includes.filter fun raw => (allow.entries = [] ∨ raw ∈ allow.entries) ∧
    ∃ c ∈ raw.toList, c ≠ '.' ∧ c ≠ '-' ∧ c ≠ '_'

/-- A list of plain names holds a name exactly when one of its entries is that name. -/
theorem contains_name_iff (allow : AllowList String) (raw : String) :
    allow.contains raw = true ↔ raw ∈ allow.entries := by
  rw [AllowList.contains_eq_true_iff]
  simp [AllowList.Declared, Declares.declared]

/-- An include names a relation exactly when it holds a character other than `.`, `-` and `_`. -/
theorem ofInclude_ne_empty_iff (raw : String) :
    Relation.ofInclude raw ≠ "" ↔ ∃ c ∈ raw.toList, c ≠ '.' ∧ c ≠ '-' ∧ c ≠ '_' := by
  simp [Relation.ofInclude_eq_empty_iff]

/-- The relations the include stage records are the names of the admitted includes. -/
theorem includes_relations (allow : AllowList String) (r : Request) :
    (includes allow r).filterMap Step.relation? = (admittedIncludes allow r).map Relation.ofInclude := by
  unfold includes admittedIncludes
  generalize r.includes = raws
  induction raws with
  | nil => rfl
  | cons raw rest ih =>
    simp only [List.flatMap_cons, List.filterMap_append, ih, List.filter_cons]
    -- the include is skipped when the list does not admit it, or when it names nothing
    by_cases hadmit : allow.entries = [] ∨ raw ∈ allow.entries
    · have hpass : (!allow.isEmpty && !allow.contains raw) = false := by
        rcases hadmit with h | h
        · simp [AllowList.isEmpty, h]
        · simp [(contains_name_iff allow raw).mpr h]
      by_cases hname : ∃ c ∈ raw.toList, c ≠ '.' ∧ c ≠ '-' ∧ c ≠ '_'
      · have hne : (Relation.ofInclude raw).isEmpty = false := by
          simpa using (ofInclude_ne_empty_iff raw).mpr hname
        simp [hpass, hne, hadmit, hname, Step.relation?, List.filterMap_cons]
      · have hempty : (Relation.ofInclude raw).isEmpty = true := by
          have h : Relation.ofInclude raw = "" :=
            Classical.byContradiction fun h => hname ((ofInclude_ne_empty_iff raw).mp h)
          simp [h]
        simp [hpass, hempty, hadmit, hname]
    · have hskip : (!allow.isEmpty && !allow.contains raw) = true := by
        simp only [not_or] at hadmit
        have hout : allow.contains raw = false :=
          Bool.eq_false_iff.mpr fun h => hadmit.2 ((contains_name_iff allow raw).mp h)
        simp [AllowList.isEmpty, hadmit.1, hout]
      simp [hskip, hadmit]

/-- The include stage loads and records the relation of each admitted include in turn. -/
theorem includes_eq_admitted (allow : AllowList String) (r : Request) :
    includes allow r = ((admittedIncludes allow r).map Relation.ofInclude).flatMap loadAndRecord := by
  rw [includes_eq, includes_relations]

/-- Loading and recording relations asks for each relation in turn. -/
theorem calls_loadAndRecord (xs : List String) :
    (xs.flatMap loadAndRecord).filterMap Step.call? = xs.map .eagerLoad := by
  induction xs with
  | nil => rfl
  | cons x xs ih =>
    simp only [List.flatMap_cons, loadAndRecord, List.cons_append, List.nil_append,
      List.filterMap_cons, Step.call?, ih, List.map_cons]

/-- Loading and recording relations loads each into the query and records it. -/
theorem foldl_apply_loadAndRecord (t : Run) (xs : List String) :
    (xs.flatMap loadAndRecord).foldl Run.apply t =
      { t with query := t.query.replay (xs.map .eagerLoad), relations := t.relations ++ xs } := by
  induction xs generalizing t with
  | nil => simp [Select.replay]
  | cons x xs ih =>
    simp only [List.flatMap_cons, loadAndRecord, List.cons_append, List.nil_append, List.foldl_cons,
      ih]
    simp [Run.apply, Select.replay]

/-- Loading and recording relations on a backend that loads every relation: every load is
sent, and the relations are recorded in the order loaded. -/
theorem perform_loadAndRecord {b : Backend} (hload : .eagerLoad ∉ b.refused) (t : Run)
    (xs : List String) :
    Run.sent b (xs.flatMap loadAndRecord) = xs.map .eagerLoad ∧
      Run.perform b t (xs.flatMap loadAndRecord) =
        ({ t with query := t.query.replay (xs.map .eagerLoad), relations := t.relations ++ xs },
          none) := by
  have hpass : ∀ st ∈ xs.flatMap loadAndRecord, st.passes b := by
    intro st hst
    obtain ⟨x, -, hx⟩ := List.mem_flatMap.mp hst
    simp only [loadAndRecord, List.mem_cons, List.not_mem_nil, or_false] at hx
    rcases hx with rfl | rfl <;> simp [Step.passes, Step.fault, Call.method, hload]
  rw [Run.sent_of_passes hpass, calls_loadAndRecord, Run.perform_of_passes t hpass,
    foldl_apply_loadAndRecord]
  exact ⟨rfl, rfl⟩

/-- The include stage on a backend that loads every relation. An include names a relation
exactly when it holds a character other than `.`, `-` and `_`. The stage sends exactly one load
for each include that the allow-list is empty or holds as written (case-sensitively, before
normalising) and that names a relation, with that relation, in request order and with repeats;
it fails on none of the others, and records exactly the relations it loads. So the relations an
execution records are the relations its include stage loads, when validation passes and the
stages before it go through, and none otherwise. -/
theorem include_stage_loads (a : Adapter) (r : Request) (b : Backend)
    (hload : .eagerLoad ∉ b.refused) :
    (∀ raw, Relation.ofInclude raw ≠ "" ↔ ∃ c ∈ raw.toList, c ≠ '.' ∧ c ≠ '-' ∧ c ≠ '_') ∧
    (∀ t : Run,
      Run.sent b (includes a.includes r) =
          (admittedIncludes a.includes r).map (fun raw => .eagerLoad (Relation.ofInclude raw)) ∧
        Run.perform b t (includes a.includes r) =
          ({ t with
              query := t.query.replay (Run.sent b (includes a.includes r))
              relations := t.relations ++ (admittedIncludes a.includes r).map Relation.ofInclude },
            none)) ∧
    ∀ q, (a.execute b q r).1.relations =
      if (a.validate r).isOk ∧ Run.Enters b (a.beforeIncludes r) then
        (admittedIncludes a.includes r).map Relation.ofInclude
      else [] := by
  refine ⟨ofInclude_ne_empty_iff, fun t => ?_, fun q => ?_⟩
  · obtain ⟨hsent, hrun⟩ := perform_loadAndRecord hload t
      ((admittedIncludes a.includes r).map Relation.ofInclude)
    rw [← includes_eq_admitted, List.map_map] at hsent
    rw [← includes_eq_admitted] at hrun
    refine ⟨hsent, ?_⟩
    rw [hrun, hsent, List.map_map]
  · -- a request turned away by validation records nothing; otherwise the run records what the
    -- include stage loads, if the run gets that far
    unfold Adapter.execute
    cases hv : a.validate r with
    | error e => simp [Except.isOk, Except.toBool]
    | ok u =>
      rw [Adapter.relations_perform, ← includes_relations]
      simp [hload, Adapter.included, Except.isOk, Except.toBool]

/-- With `wallet` and `__` allowed: `Wallet` (another case) and `secrets` (not listed) are
skipped, and so is `__`, which names no relation; `wallet` is loaded as `Wallet` each time it is
asked for. -/
theorem unlisted_and_separator_includes_skipped :
    Run.sent .accepting
        (includes (.new ["wallet", "__"]) { includes := ["Wallet", "secrets", "wallet", "__", "wallet"] }) =
      [.eagerLoad "Wallet", .eagerLoad "Wallet"] := by
  have h := ((include_stage_loads { includes := .new ["wallet", "__"] }
    { includes := ["Wallet", "secrets", "wallet", "__", "wallet"] } .accepting (by decide)).2.1
      { query := { table := "users" }, request := {} }).1
  have hadmitted : admittedIncludes (.new ["wallet", "__"])
      { includes := ["Wallet", "secrets", "wallet", "__", "wallet"] } = ["wallet", "wallet"] := by
    simp [admittedIncludes]
  have hname : Relation.ofInclude "wallet" = "Wallet" := by decide
  rw [h, hadmitted]
  simp [hname]

end Stages

end QueryCompiler
