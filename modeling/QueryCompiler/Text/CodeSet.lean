/-!
# Sets and shifts of code points

Unicode property tables are long but regular: letters and their case partners come in blocks
where every character, or every other character, has the property or the same case shift. A
table is therefore kept as a list of runs `start, start + step, …` of `count` code points, in
increasing order of `start`, and a look-up walks the runs until it passes the code point.
-/

namespace QueryCompiler

namespace Text

/-- The code points `start, start + step, …`, `count` of them. -/
structure Run where
  start : Nat
  count : Nat
  step : Nat
  deriving Repr

/-- Whether a run holds the code point `n`. -/
def Run.contains (r : Run) (n : Nat) : Bool :=
  r.start ≤ n && n < r.start + r.count * r.step && (n - r.start) % r.step == 0

/-- A set of code points, as runs in increasing order of their start. -/
structure CodeSet where
  runs : List Run

/-- A set from its runs. -/
def CodeSet.ofRuns (runs : List Run) : CodeSet := ⟨runs⟩

/-- Whether some run from the list holds `n`; runs starting after `n` end the search. -/
def runsContain (n : Nat) : List Run → Bool
  | [] => false
  | r :: rs => if n < r.start then false else r.contains n || runsContain n rs

/-- Whether the set holds the character. -/
def CodeSet.contains (s : CodeSet) (c : Char) : Bool :=
  runsContain c.toNat s.runs

/-- A run of code points that a mapping moves by the same amount. -/
structure Shift where
  start : Nat
  count : Nat
  step : Nat
  delta : Int
  deriving Repr

/-- The shift that applies to `n`, if a run from the list holds it. -/
def shiftOf? (n : Nat) : List Shift → Option Int
  | [] => none
  | s :: ss =>
    if n < s.start then none
    else if n < s.start + s.count * s.step && (n - s.start) % s.step == 0 then some s.delta
    else shiftOf? n ss

/-- Map a character through a table of shifts and a table of expansions: an expansion wins,
then a shift, and a character found in neither maps to itself. -/
def mapChar (shifts : List Shift) (expansions : List (Nat × List Nat)) (c : Char) : List Char :=
  match expansions.lookup c.toNat with
  | some cs => cs.map Char.ofNat
  | none =>
    match shiftOf? c.toNat shifts with
    | some d => [Char.ofNat (c.toNat + d).toNat]
    | none => [c]

end Text

end QueryCompiler
