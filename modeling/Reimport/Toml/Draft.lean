import Reimport.Toml.Reader

/-!
# Tables in the making

While a document is read its tables are still open, and how a table came to be
decides what may be added to it.  A table under a header of its own is declared
once.  A table that stands only in longer headers is implied, and may still be
declared or extended.  A table that comes from the dots of a key belongs to the
section of that key: other keys of the section may extend it, and no header may
declare it nor a later section extend it.  A value that was written out, an inline
table or array among them, is fixed.  Each item of an array of tables is a table
of its own, and only the last one can still be added to.
-/
namespace Reimport.Toml

/-- How a table came to be. -/
inductive Origin where
  /-- By longer headers. -/
  | implied
  /-- By a header of its own. -/
  | declared
  /-- By the dots of a key in the section with this number. -/
  | dotted (number : Nat)
  deriving DecidableEq, Repr

/-- What stands under a name while a document is read. -/
inductive Draft where
  /-- A value that was written out. -/
  | fixed (value : Value)
  /-- A table. -/
  | table (origin : Origin) (entries : List (Text × Draft))
  /-- An array of tables: those that are complete, and the last one. -/
  | tables (complete : List (List (Text × Draft))) (last : List (Text × Draft))

/-- A table in the making. -/
abbrev Draft.Entries := List (Text × Draft)

namespace Draft

/-- The entries with the entry `name` changed, or added at the end if there is
none.  The change sees what stands under the name. -/
def change (name : Text) (f : Option Draft → Option Draft) : Entries → Option Entries
  | [] => (f none).map fun draft => [(name, draft)]
  | (other, draft) :: rest =>
    if other = name then (f (some draft)).map fun draft => (other, draft) :: rest
    else (change name f rest).map fun rest => (other, draft) :: rest

/-- Changes the table that a row of names leads to.  `enter` decides on each table
on the way: it is given the table's origin, or none if the table is not there yet,
and answers with the origin that the table is to have or refuses to go on.  An
array of tables leads to its last item. -/
def descend (enter : Option Origin → Option Origin) (f : Entries → Option Entries) :
    List Text → Entries → Option Entries
  | [], entries => f entries
  | name :: names, entries =>
    change name (fun draft =>
      match draft with
      | none => do
        let origin ← enter none
        return .table origin (← descend enter f names [])
      | some (.table origin below) => do
        let origin ← enter (some origin)
        return .table origin (← descend enter f names below)
      | some (.tables complete last) => do
        let _ ← enter (some .declared)
        return .tables complete (← descend enter f names last)
      | some (.fixed _) => none) entries

/-- What a header's names lead through. -/
def passHeader (origin : Option Origin) : Option Origin := some (origin.getD .implied)

/-- What the dots of a key in a section lead through. -/
def passDots (number : Nat) : Option Origin → Option Origin
  | none | some .implied => some (.dotted number)
  | some .declared => none
  | some (.dotted other) => if other = number then some (.dotted number) else none

/-- Puts a value under a name that has none. -/
def put (name : Text) (value : Value) (entries : Entries) : Option Entries :=
  change name (fun draft => match draft with
    | none => some (.fixed value)
    | some _ => none) entries

/-- Declares a table. -/
def declare (name : Text) (entries : Entries) : Option Entries :=
  change name (fun draft => match draft with
    | none => some (.table .declared [])
    | some (.table .implied below) => some (.table .declared below)
    | some _ => none) entries

/-- Adds an item to an array of tables, or begins one. -/
def addItem (name : Text) (entries : Entries) : Option Entries :=
  change name (fun draft => match draft with
    | none => some (.tables [] [])
    | some (.tables complete last) => some (.tables (complete ++ [last]) [])
    | some _ => none) entries

mutual

/-- The value that a draft has become. -/
def finished : Draft → Value
  | .fixed value => value
  | .table _ entries => .table (finishedEntries entries)
  | .tables complete last => .array (finishedItems complete ++ [.table (finishedEntries last)])

/-- The table that entries have become. -/
def finishedEntries : List (Text × Draft) → Table
  | [] => []
  | (name, draft) :: rest => (name, finished draft) :: finishedEntries rest

/-- The items that tables have become. -/
def finishedItems : List (List (Text × Draft)) → List Value
  | [] => []
  | entries :: rest => .table (finishedEntries entries) :: finishedItems rest

end

end Draft
end Reimport.Toml
