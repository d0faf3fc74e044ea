import Reimport.Text.Blank
import Reimport.Text.Lines

/-!
# Sections of a marked text

A corpus file may hold several sources.  Each begins after a line that starts
with `==== Source:` and names it, and reaches to the next such line:

    ==== Source: a.sol ====
    contract A {}
    ==== Source: lib/b.sol ====
    contract B {}

A line ends at a line feed and nowhere else, so that no other character of a
source can begin a section, and a section's body is the rest of its lines
unchanged.  `Section.written` writes a section the way a corpus file has it.
-/
namespace Reimport

/-- One source of a corpus file. -/
structure Section where
  /-- The name of the source. -/
  name : Text
  /-- The source itself. -/
  body : Text
  deriving DecidableEq, Repr

namespace Section

/-- What a line that begins a section starts with. -/
def marker : Text := "==== Source:"

/-- What may close a marker line. -/
def markerEnd : Text := "===="

/-- Whether a line begins a section. -/
def isMarker (line : Text) : Bool := marker.isPrefixOf line

/-- The name on a marker line: what follows the marker, without the blanks
around it, one closing `====` and the blanks before that. -/
def nameOf (line : Text) : Text :=
  let name := Text.strip (line.drop marker.length)
  if markerEnd.isSuffixOf name then
    Text.stripRight (name.take (name.length - markerEnd.length))
  else name

/-- The sections of some lines; lines before the first marker belong to none. -/
def ofLines : List Text → List Section
  | [] => []
  | line :: rest =>
    if isMarker line then
      ⟨nameOf line, (rest.takeWhile (!isMarker ·)).flatten⟩ :: ofLines rest
    else ofLines rest

/-- The sections of a text, if it begins with a marker line. -/
def ofText? (text : Text) : Option (List Section) :=
  match Text.lines text with
  | [] => none
  | first :: rest => if isMarker first then some (ofLines (first :: rest)) else none

/-- A section as a corpus file has it. -/
def written (source : Section) : Text :=
  .join [marker, " ", source.name, " ", markerEnd, "\n", source.body]

end Section
end Reimport
