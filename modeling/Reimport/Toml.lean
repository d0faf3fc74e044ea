import Reimport.Toml.Statement

/-!
# TOML documents

A document is the table that its statements build, each in its turn: a key adds a
value to the table of the header above it, and a header declares a table or adds
an item to an array of tables.  A document whose statements contradict each other
is malformed, like one that cannot be read to its end.
-/
namespace Reimport.Toml

/-- A document while it is read. -/
structure Document where
  /-- How many headers there were. -/
  number : Nat
  /-- The names of the table that keys are added to. -/
  header : List Text
  /-- What was stated so far. -/
  entries : Draft.Entries

namespace Document

/-- The document before its first line. -/
def empty : Document := ⟨0, [], []⟩

/-- The document after a header. -/
def enter (document : Document) (key : Key) (f : Text → Draft.Entries → Option Draft.Entries) :
    Option Document :=
  (Draft.descend Draft.passHeader (f key.name) key.tables document.entries).map fun entries =>
    ⟨document.number + 1, key.names, entries⟩

/-- The document after one more statement, unless the statement contradicts it. -/
def add (document : Document) : Statement → Option Document
  | .pair key value =>
    let addPair := Draft.descend (Draft.passDots document.number) (Draft.put key.name value) key.tables
    (Draft.descend Draft.passHeader addPair document.header document.entries).map fun entries =>
      { document with entries := entries }
  | .table key => document.enter key Draft.declare
  | .item key => document.enter key Draft.addItem

/-- The document that statements build. -/
def ofStatements? (statements : List Statement) : Option Document :=
  statements.foldlM add empty

end Document

/-- Reads a document. -/
def parse (text : Text) : Except Fault Table :=
  let statements := Statements.ofText (unifyLineEnds text)
  match Document.ofStatements? statements.list, statements.fault? with
  | none, _ => .error .malformed
  | some _, some fault => .error fault
  | some document, none => .ok (Draft.finishedEntries document.entries)

end Reimport.Toml
