import QueryCompiler.Plan.Select

/-!
# String values as SQL literals

A text value is written into the SQL of a query as a single-quoted literal with each quote
doubled (`sqlLiteral`). This module reads it back with the lexer of standard SQL: inside a
literal a quote closes it, unless the next character is a quote too, and then the pair stands
for one quote. The lexer is the state machine `Sql.lexFrom`, with a state for the body of the
literal and one for a quote just read.

* `Sql.lexFrom_body_sqlEscape` (the run lemma): the lexer crosses an escaped text, one character
  at a time, and ends up in the body having read the text itself. Runs of quotes, and quotes at
  either end of the text, are each one step of the same kind.
* `Sql.lexLiteral_sqlLiteral_append`: what follows a literal is never taken into it, unless it
  starts with a quote.
* `Select.string_values_lex_exactly`: the rendering of a text is one literal that spans the
  whole of it and denotes the text, so distinct texts render to distinct literals; and in the
  SQL of any query, each text value of a condition, read from its opening quote, is read back
  and ends where its own rendering ends, since the query never writes a quote right after a
  predicate.
-/

namespace QueryCompiler

namespace Sql

/-- Where the lexer of a single-quoted literal stands once past the opening quote. -/
inductive LitState where
  /-- Inside the literal; `text` is what it denotes so far. -/
  | body (text : List Char)
  /-- Just after a quote inside the literal: it closes the literal unless a quote follows. -/
  | quote (text : List Char)
  deriving DecidableEq, Repr

/-- The lexer run from a state: what the literal denotes and the input after its closing quote,
or `none` when the input ends inside the literal. -/
def lexFrom : LitState → List Char → Option (List Char × List Char)
  | .body _, [] => none
  | .body t, c :: cs => if c = '\x27' then lexFrom (.quote t) cs else lexFrom (.body (t ++ [c])) cs
  | .quote t, [] => some (t, [])
  | .quote t, c :: cs => if c = '\x27' then lexFrom (.body (t ++ [c])) cs else some (t, c :: cs)

/-- Read one single-quoted literal at the front of the input: what it denotes, and the input
after it. -/
def lexLiteral : List Char → Option (List Char × List Char)
  | c :: cs => if c = '\x27' then lexFrom (.body []) cs else none
  | [] => none

/-- Text that cannot extend a literal standing before it: it does not start with a quote. -/
def Clear (s : String) : Prop := s.toList.head? ≠ some '\x27'

/-! ## Reading a literal back -/

/-- One character of the text, escaped, takes the lexer from the body to the body, one
character further. -/
theorem lexFrom_body_escape_cons (t : List Char) (c : Char) (cs rest : List Char) :
    lexFrom (.body t) (sqlEscape (c :: cs) ++ rest) = lexFrom (.body (t ++ [c])) (sqlEscape cs ++ rest) := by
  by_cases hc : c = '\x27'
  · subst hc
    simp [sqlEscape, lexFrom]
  · simp [sqlEscape, lexFrom, hc]

/-- The lexer crosses a whole escaped text and stays in the body, having read the text. -/
theorem lexFrom_body_sqlEscape (t cs rest : List Char) :
    lexFrom (.body t) (sqlEscape cs ++ rest) = lexFrom (.body (t ++ cs)) rest := by
  induction cs generalizing t with
  | nil => simp [sqlEscape]
  | cons c cs ih => rw [lexFrom_body_escape_cons, ih]; simp

/-- A quote in the body that no quote follows closes the literal. -/
theorem lexFrom_body_close (t rest : List Char) (h : rest.head? ≠ some '\x27') :
    lexFrom (.body t) ('\x27' :: rest) = some (t, rest) := by
  cases rest with
  | nil => simp [lexFrom]
  | cons c cs =>
    have hc : c ≠ '\x27' := by simpa using h
    simp [lexFrom, hc]

/-- A literal is read back as its text, and what follows it is left alone unless it starts with
a quote. -/
theorem lexLiteral_sqlLiteral_append (s : String) (rest : String) (h : Clear rest) :
    lexLiteral ((sqlLiteral s).toList ++ rest.toList) = some (s.toList, rest.toList) := by
  simp only [sqlLiteral, String.toList_ofList, List.cons_append, List.append_assoc, lexLiteral,
    if_pos, lexFrom_body_sqlEscape, List.nil_append]
  exact lexFrom_body_close _ _ h

/-! ## Text that cannot extend a literal -/

theorem clear_empty : Clear "" := by simp [Clear]

/-- Text that starts with a character other than a quote cannot extend a literal, whatever
comes after it. -/
theorem Clear.append_right {a : String} (b : String) (ha : Clear a) (hne : a ≠ "") :
    Clear (a ++ b) := by
  have hcons : a.toList ≠ [] := by simpa [String.toList_eq_nil_iff] using hne
  obtain ⟨c, cs, hc⟩ := List.exists_cons_of_ne_nil hcons
  simpa [Clear, String.toList_append, hc] using ha

theorem Clear.append {a b : String} (ha : Clear a) (hb : Clear b) : Clear (a ++ b) := by
  by_cases hne : a = ""
  · simpa [hne] using hb
  · exact ha.append_right b hne

/-- In a join by a separator that cannot extend a literal, whatever follows one of the joined
texts cannot either. -/
theorem exists_intercalate_eq_of_mem (sep : String) {x : String} {xs : List String} (hsep : Clear sep)
    (hne : sep ≠ "") (hx : x ∈ xs) :
    ∃ pre post, sep.intercalate xs = pre ++ x ++ post ∧ Clear post := by
  induction xs with
  | nil => cases hx
  | cons y ys ih =>
    cases ys with
    | nil =>
      obtain rfl : x = y := List.mem_singleton.mp hx
      exact ⟨"", "", by simp, clear_empty⟩
    | cons z zs =>
      rw [String.intercalate_cons_cons]
      rcases List.mem_cons.mp hx with rfl | hx
      · exact ⟨"", sep ++ sep.intercalate (z :: zs), by simp [String.append_assoc],
          hsep.append_right _ hne⟩
      · obtain ⟨pre, post, heq, hpost⟩ := ih hx
        exact ⟨y ++ sep ++ pre, post, by simp [heq, String.append_assoc], hpost⟩

end Sql

/-- The predicates a condition is made of. -/
def Condition.predicates : Condition → List Predicate
  | .all p => [p]
  | .any ps => ps

/-! ## Literals in the SQL of a query -/

/-- In the SQL of a condition, what follows one of its predicates cannot extend a literal. -/
theorem Condition.exists_sql_eq_of_mem {c : Condition} {p : Predicate} (hp : p ∈ c.predicates) :
    ∃ pre post, c.sql = pre ++ p.sql ++ post ∧ Sql.Clear post := by
  cases c with
  | all p' =>
    obtain rfl : p = p' := List.mem_singleton.mp hp
    exact ⟨"", "", by simp [Condition.sql], Sql.clear_empty⟩
  | any ps =>
    rcases ps with _ | ⟨p₁, _ | ⟨p₂, rest⟩⟩
    · cases hp
    · obtain rfl : p = p₁ := List.mem_singleton.mp hp
      exact ⟨"", "", by simp [Condition.sql], Sql.clear_empty⟩
    · -- a group of two or more is joined by ` OR ` inside parentheses
      have hmem : p.sql ∈ (p₁ :: p₂ :: rest).map Predicate.sql := List.mem_map_of_mem hp
      obtain ⟨pre, post, heq, hpost⟩ :=
        Sql.exists_intercalate_eq_of_mem " OR " (by simp [Sql.Clear]) (by decide) hmem
      refine ⟨"(" ++ pre, post ++ ")", ?_, hpost.append (by simp [Sql.Clear])⟩
      simp only [Condition.sql, heq, String.append_assoc]

/-- In the SQL of a query, what follows a predicate of one of its conditions cannot extend a
literal: it is the end of the text, or it starts with a blank or a closing parenthesis. -/
theorem Select.exists_sql_eq_of_mem {q : Select} {c : Condition} (hc : c ∈ q.conditions)
    {p : Predicate} (hp : p ∈ c.predicates) :
    ∃ pre post, q.sql = pre ++ p.sql ++ post ∧ Sql.Clear post := by
  have hne : q.conditions ≠ [] := List.ne_nil_of_mem hc
  have hmem : c.sql ∈ q.conditions.map Condition.sql := List.mem_map_of_mem hc
  obtain ⟨preW, postW, hW, hpostW⟩ :=
    Sql.exists_intercalate_eq_of_mem " AND " (by simp [Sql.Clear]) (by decide) hmem
  obtain ⟨preC, postC, hC, hpostC⟩ := Condition.exists_sql_eq_of_mem hp
  -- the orderings, the limit and the offset each start with a blank when present
  have horders : Sql.Clear (if q.orders.isEmpty then ""
      else " ORDER BY " ++ ", ".intercalate (q.orders.map Order.sql)) := by
    split
    · exact Sql.clear_empty
    · exact Sql.Clear.append_right _ (by simp [Sql.Clear]) (by decide)
  have hlimit : Sql.Clear ((q.limit.map fun n => " LIMIT " ++ toString n).getD "") := by
    cases q.limit with
    | none => exact Sql.clear_empty
    | some n => exact Sql.Clear.append_right _ (by simp [Sql.Clear]) (by decide)
  have hoffset : Sql.Clear ((q.offset.map fun n => " OFFSET " ++ toString n).getD "") := by
    cases q.offset with
    | none => exact Sql.clear_empty
    | some n => exact Sql.Clear.append_right _ (by simp [Sql.Clear]) (by decide)
  have hsql : q.sql = ("SELECT * FROM " ++ sqlName q.table ++ " WHERE " ++ preW ++ preC) ++
      p.sql ++ (postC ++ postW ++ (if q.orders.isEmpty then ""
        else " ORDER BY " ++ ", ".intercalate (q.orders.map Order.sql)) ++
        (q.limit.map fun n => " LIMIT " ++ toString n).getD "" ++
        (q.offset.map fun n => " OFFSET " ++ toString n).getD "") := by
    unfold Select.sql
    rw [if_neg (by simp [hne]), hW, hC]
    simp only [String.append_assoc]
  exact ⟨_, _, hsql, (((hpostC.append hpostW).append horders).append hlimit).append hoffset⟩

/-- A text value is written as one SQL literal that spans its whole rendering and denotes the
text, so two texts render alike only when they are equal. In the SQL of a query, each text value
of a condition stands right after its predicate's column and operator, and the lexer, reading
from the value's opening quote, reads the text back and stops where the rendering stops. -/
theorem Select.string_values_lex_exactly :
    (∀ s : String, Sql.lexLiteral (Scalar.str s).sql.toList = some (s.toList, [])) ∧
    (∀ s t : String, (Scalar.str s).sql = (Scalar.str t).sql → s = t) ∧
    (∀ q : Select, ∀ c ∈ q.conditions, ∀ p ∈ c.predicates, ∀ s : String, p.value = .str s →
      ∃ pre post, q.sql.toList = pre ++ (Scalar.str s).sql.toList ++ post ∧
        (sqlName p.column ++ " " ++ p.operator.sql ++ " ").toList <:+ pre ∧
        Sql.lexLiteral ((Scalar.str s).sql.toList ++ post) = some (s.toList, post)) := by
  have hwhole : ∀ s : String, Sql.lexLiteral (Scalar.str s).sql.toList = some (s.toList, []) := by
    intro s
    simpa [Scalar.sql] using Sql.lexLiteral_sqlLiteral_append s "" Sql.clear_empty
  refine ⟨hwhole, ?_, ?_⟩
  · -- two texts with one rendering are read back from it alike
    intro s t hst
    have hread := hwhole t
    rw [← hst, hwhole s] at hread
    exact String.toList_injective (by simpa using hread)
  · intro q c hc p hp s hs
    obtain ⟨pre, post, hq, hpost⟩ := Select.exists_sql_eq_of_mem hc hp
    refine ⟨pre.toList ++ (sqlName p.column ++ " " ++ p.operator.sql ++ " ").toList, post.toList,
      ?_, List.suffix_append _ _, Sql.lexLiteral_sqlLiteral_append s post hpost⟩
    simp [hq, Predicate.sql, hs, String.toList_append]

/-- The quote inside a surname is doubled in the query, and reads back as one quote. -/
theorem Select.quoted_surname_reads_back :
    ∃ pre post, ({ table := "users", conditions := [.all (.eq "name" (.str "o\x27neil"))] } :
        Select).sql.toList = pre ++ (Scalar.str "o\x27neil").sql.toList ++ post ∧
      (sqlName "name" ++ " " ++ Operator.eq.sql ++ " ").toList <:+ pre ∧
      Sql.lexLiteral ((Scalar.str "o\x27neil").sql.toList ++ post) = some ("o\x27neil".toList, post) :=
  Select.string_values_lex_exactly.2.2
    { table := "users", conditions := [.all (.eq "name" (.str "o\x27neil"))] }
    (.all (.eq "name" (.str "o\x27neil"))) (List.mem_singleton_self _)
    (.eq "name" (.str "o\x27neil")) (List.mem_singleton_self _) "o\x27neil" rfl

end QueryCompiler
