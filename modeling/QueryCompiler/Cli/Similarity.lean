/-!
# Similar words

How close a mistyped word is to a known one, by the Jaro similarity, so that a command line
can suggest what was meant.

Two characters match when they are equal and their positions differ by less than half the
longer word's length (at most `max / 2 - 1`); each character of the second word matches at
most once, taken left to right. With `m` matches, of which `t` pairs stand in a different
order (half the matched characters that differ when both words' matches are read in order),
the similarity of words of lengths `a` and `b` is `(m / a + m / b + (m - t) / m) / 3`: 1 for
two empty words, 0 when one is empty or nothing matches.

A word is suggested when its similarity is above `0.7`. Similarities are exact fractions here.
-/

namespace QueryCompiler

namespace Cli

/-- A similarity as a fraction `num / den`, `den` positive. -/
structure Similarity where
  num : Nat
  den : Nat
  deriving DecidableEq, Repr

namespace Similarity

/-- Whether `s` is at most `t`. -/
def le (s t : Similarity) : Bool := s.num * t.den ≤ t.num * s.den

/-- Whether the similarity is above seven tenths. -/
def suggests (s : Similarity) : Bool := 7 * s.den < 10 * s.num

end Similarity

/-- Mark the next character of the first word: the first unmatched equal character of `b`
inside the window around position `i`. -/
def matchNext (b : List Char) (window : Nat) (state : List Bool × List Bool) (ic : Nat × Char) :
    List Bool × List Bool :=
  let (i, c) := ic
  let lo := i - window
  let hi := min b.length (i + window + 1)
  let free (j : Nat) : Bool := b[j]? == some c && state.2[j]? == some false
  match (List.range' lo (hi - lo)).find? free with
  | some j => (state.1 ++ [true], state.2.set j true)
  | none => (state.1 ++ [false], state.2)

/-- The characters whose mark is set, in order. -/
def marked (cs : List Char) (marks : List Bool) : List Char :=
  (cs.zip marks).filterMap fun p => if p.2 then some p.1 else none

/-- The Jaro similarity of two words. -/
def jaro (a b : String) : Similarity :=
  let as := a.toList
  let bs := b.toList
  let la := as.length
  let lb := bs.length
  if la = 0 ∧ lb = 0 then ⟨1, 1⟩
  else if la = 0 ∨ lb = 0 then ⟨0, 1⟩
  else
    let window := max la lb / 2 - 1
    let (am, bm) := (as.zipIdx.map fun p => (p.2, p.1)).foldl (matchNext bs window)
      ([], List.replicate lb false)
    let ma := marked as am
    let mb := marked bs bm
    let m := ma.length
    let t := ((ma.zip mb).filter fun p => p.1 ≠ p.2).length / 2
    if m = 0 then ⟨0, 1⟩
    else ⟨m * m * lb + m * m * la + (m - t) * la * lb, 3 * la * lb * m⟩

-- two empty words are as similar as words can be
example : jaro "" "" = ⟨1, 1⟩ := by decide

/-- The candidates similar to a word, least similar first (ties in the order given). -/
def similar (word : String) (candidates : List String) : List String :=
  let scored := (candidates.map fun c => (jaro word c, c)).filter fun p => p.1.suggests
  (scored.mergeSort fun p q => p.1.le q.1).map Prod.snd

end Cli

end QueryCompiler
