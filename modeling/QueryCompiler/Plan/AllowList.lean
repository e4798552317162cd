import QueryCompiler.Plan.Error

/-!
# Allow-lists

An allow-list is an ordered list of entries, each declaring the names it accepts. The empty
list restricts nothing.

A list is built from its entries in one pass over them (`AllowList.Index.of`). The pass gathers
every declared name into a name index, and records why the list is malformed: the first entry,
by position from 0, that declares no name or declares the empty name gives the reason, and a
later one does not replace it. The list keeps the entries, the names and the reason, and answers
from what it keeps:

* a name is admitted when the name index holds it (`contains`);
* the list restricts nothing when it has no entries, whatever its names (`isEmpty`);
* the structure check fails with the recorded reason (`checkStructure`).
-/

namespace QueryCompiler

/-- Entries that declare the names they accept. -/
class Declares (α : Type) where
  declared : α → List String

/-- A plain name declares itself. -/
instance : Declares String where
  declared s := [s]

namespace AllowList

variable {α : Type} [Declares α]

/-- What is wrong with one entry, if anything. -/
def entryFault (e : α) : Option String :=
  let names := Declares.declared e
  if names.isEmpty then some "declares no names"
  else if names.contains "" then some "declares an empty name"
  else none

/-- What the pass over the entries gathers: the names they declare, of which only membership is
read, and the reason the list is malformed, if an entry made it so. -/
structure Index where
  names : List String := []
  malformed : Option String := none
  deriving DecidableEq, Repr

/-- One step of the pass: the entry at position `i` adds its names to the index, and gives the
reason the list is malformed unless an earlier entry already did. -/
def Index.add (idx : Index) (e : α) (i : Nat) : Index where
  names := idx.names ++ Declares.declared e
  malformed :=
    match idx.malformed with
    | some why => some why
    | none => (entryFault e).map fun why => "allow-list entry #" ++ toString i ++ " " ++ why

/-- The pass over the entries, each with its position from 0. -/
def Index.of (entries : List α) : Index :=
  entries.zipIdx.foldl (fun idx p => idx.add p.1 p.2) {}

end AllowList

/-- An ordered list of entries, with the names and the reason the pass over them gathered; empty
means unrestricted. `indexed` keeps the two in step with the entries. -/
structure AllowList (α : Type) [Declares α] where
  entries : List α := []
  names : List String := (AllowList.Index.of entries).names
  malformed : Option String := (AllowList.Index.of entries).malformed
  indexed : AllowList.Index.of entries = ⟨names, malformed⟩ := by rfl

namespace AllowList

variable {α : Type} [Declares α]

/-- The list built from its entries. -/
def new (entries : List α) : AllowList α := { entries }

@[simp] theorem new_entries (entries : List α) : (new entries).entries = entries := rfl

/-- Whether the list has no entries, and so restricts nothing. -/
def isEmpty (l : AllowList α) : Bool := l.entries.isEmpty

/-- The number of entries. -/
def size (l : AllowList α) : Nat := l.entries.length

/-- Whether the name index holds `name`. -/
def contains (l : AllowList α) (name : String) : Bool :=
  l.names.contains name

/-- Reject a list that holds an entry declaring nothing usable, with the reason the pass
recorded. -/
def checkStructure (l : AllowList α) : Except PlanError Unit :=
  match l.malformed with
  | some why => .error (.configuration why)
  | none => .ok ()

end AllowList

end QueryCompiler
