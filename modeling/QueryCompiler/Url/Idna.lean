import QueryCompiler.Url.IdnaTables
import QueryCompiler.Url.Punycode
import QueryCompiler.Text.Case
import QueryCompiler.Text.Marks
import QueryCompiler.Text.BidiTables
import QueryCompiler.Text.Split

/-!
# Domain names to ASCII

UTS #46 processing of a host name, non-transitional, with hyphens unchecked, joiners and
bidirectional rules checked, and no length limits, followed by the URL rule on forbidden
characters:

1. Each character is mapped by the table: ASCII capitals to small letters, other characters as
   their row says. A disallowed character (and U+FFFD, which stands for bytes that were not
   UTF-8) makes the name invalid.
2. The result splits into labels at `.`. A label starting with `xn--` must be ASCII and decode
   as Punycode to a non-empty label that is not all ASCII and whose characters are all kept
   as they are by the mapping.
3. No label begins with a combining mark; a zero-width joiner or non-joiner must follow a
   virama.
4. If some label holds a right-to-left character (bidirectional class R, AL or AN), every label
   must satisfy the bidirectional rule for domain names.
5. No label holds a control character, space, DEL, or one of `% # / : < > ? @ [ \ ] ^ |`.

The ASCII form writes each label that is not ASCII as `xn--` and its Punycode.
-/

namespace QueryCompiler

namespace Url

/-! ## Table look-up -/

/-- The payload of the last row that starts at or before `n`, searching rows `lo … hi - 1`,
where row `lo` is known to start at or before `n`. -/
def lastRowAtOrBefore {α : Type} (rows : Array (Nat × α)) (n lo hi : Nat) : Option α :=
  if lo + 1 < hi then
    let mid := (lo + hi) / 2
    match rows[mid]? with
    | some (start, _) =>
      if start ≤ n then lastRowAtOrBefore rows n mid hi else lastRowAtOrBefore rows n lo mid
    | none => none
  else (rows[lo]?).map Prod.snd
termination_by hi - lo

/-- The row of a table of runs that applies to `n`. -/
def rowFor? {α : Type} (rows : Array (Nat × α)) (n : Nat) : Option α :=
  match rows[0]? with
  | some (start, _) => if start ≤ n then lastRowAtOrBefore rows n 0 rows.size else none
  | none => none

/-- How the mapping treats a character. -/
def treatment (c : Char) : Treatment :=
  if c.toNat < 0x80 then
    if 'A' ≤ c ∧ c ≤ 'Z' then .shift 32 else .keep
  else (rowFor? idnaRows c.toNat).getD .disallowed

/-- The bidirectional class of a character. -/
def bidiClass (c : Char) : Text.BidiClass :=
  (rowFor? Text.bidiRuns c.toNat).getD .l

/-! ## Mapping -/

/-- What one character maps to, or `none` if it is disallowed. A mapping to text without
ASCII is represented by the character's lowercase, which has the same bearing on the checks. -/
def mapDomainChar (c : Char) : Option (List Char) :=
  match treatment c with
  | .keep => some [c]
  | .mapped => some (Text.lowerChars c)
  | .ignored => some []
  | .disallowed => none
  | .shift d => some [Char.ofNat (c.toNat + d).toNat]
  | .text t => some t.toList

/-- Whether the mapping keeps a character as it is. -/
def keptAsIs (c : Char) : Bool :=
  match treatment c with
  | .keep => true
  | _ => false

/-- The characters a URL host may not hold after mapping. -/
def isForbiddenDomainChar (c : Char) : Bool :=
  c.toNat ≤ 0x20 || c.toNat = 0x7F ||
    ['%', '#', '/', ':', '<', '>', '?', '@', '[', '\\', ']', '^', '|'].contains c

/-! ## Labels -/

/-- Whether text is all ASCII. -/
def isAscii (cs : List Char) : Bool := cs.all (·.toNat < 0x80)

/-- The Unicode form of a label, or `none` if the label is invalid by rules 2, 3 and 5. -/
def labelForm? (label : List Char) : Option (List Char) := do
  let form ← match label with
    | 'x' :: 'n' :: '-' :: '-' :: body =>
      if !isAscii body then none
      else
        match Punycode.decode body with
        | some decoded =>
          if decoded.isEmpty || isAscii decoded || !decoded.all keptAsIs then none
          else some decoded
        | none => none
    | _ => some label
  if form.head?.any Text.isMark then none
  if form.any isForbiddenDomainChar then none
  if !joinersAllowed form then none
  pure form
where
  /-- A joiner must follow a virama. -/
  joinersAllowed (cs : List Char) : Bool :=
    (List.zip (none :: cs.map some) cs).all fun (prev, c) =>
      if c.toNat = 0x200C || c.toNat = 0x200D then
        prev.any (fun p => Text.viramas.contains p.toNat)
      else true

/-- Whether a label holds a right-to-left character. -/
def isRightToLeft (label : List Char) : Bool :=
  label.any fun c => bidiClass c == .r || bidiClass c == .al || bidiClass c == .an

/-- The classes of a label with its trailing non-spacing marks dropped, last first. -/
def classesBeforeMarks (label : List Char) : List Text.BidiClass :=
  (label.reverse.map bidiClass).dropWhile (· == .nsm)

/-- The bidirectional rule for one label. -/
def satisfiesBidiRule (label : List Char) : Bool :=
  match label with
  | [] => true
  | first :: _ =>
    let classes := label.map bidiClass
    let last := (classesBeforeMarks label).head?
    match bidiClass first with
    | .l =>
      classes.all (fun k => [.l, .en, .es, .cs, .et, .on, .bn, .nsm].contains k) &&
        last.any (fun k => k == .l || k == .en)
    | .r | .al =>
      classes.all (fun k => [.r, .al, .an, .en, .es, .cs, .et, .on, .bn, .nsm].contains k) &&
        last.any (fun k => [.r, .al, .en, .an].contains k) &&
        !(classes.contains .en && classes.contains .an)
    | _ => false

/-! ## Whole names -/

/-- The Unicode forms of the labels of a host name, or `none` if it is invalid. -/
def domainLabels? (name : List Char) : Option (List (List Char)) := do
  let mapped ← name.flatMapM mapDomainChar
  let forms ← (Text.splitOn '.' mapped).mapM labelForm?
  if forms.any isRightToLeft && !forms.all satisfiesBidiRule then none
  pure forms

/-- The ASCII form of a label. -/
def asciiLabel (form : List Char) : List Char :=
  if isAscii form then form else ['x', 'n', '-', '-'] ++ Punycode.encode form

/-- The ASCII form of a host name, or `none` if it is invalid. -/
def domainToAscii (name : List Char) : Option (List Char) :=
  (domainLabels? name).map fun forms => ['.'].intercalate (forms.map asciiLabel)

end Url

end QueryCompiler
