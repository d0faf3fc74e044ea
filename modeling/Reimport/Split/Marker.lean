import Reimport.Split.Section
import Reimport.Split.Splitter

/-!
# Splitting by markers

An entry whose text begins with a marker line is written to the working
directory section by section.  Sections of one name are written one after the
other to the same file, bodies byte for byte.  A name has to lead to a place
properly inside the working directory at the time it is written; the first that
does not ends the splitting.  An entry that is no UTF-8 is reported as such, and
any other entry is a single source.
-/
namespace Reimport.MarkerSplit

/-- The report on an entry that is no UTF-8. -/
def undecodable (entry : Entry) (fault : Utf8.Fault) : SplitResult :=
  .undecodable <| .join ["UnicodeDecodeError in '", entry.text, "': ", fault.message,
    "\nThis is expected for some tests containing invalid utf8 sequences. ",
    "Exception will be ignored."]

/-- Writes one section below the working directory `root`. -/
def writeSection (entry : Entry) (root : Path) (source : Section) : Act Unit := do
  let target ← Act.ask fun tree cwd => tree.canonical cwd (root.under (Path.parse source.name))
  if source.name = [] || !(root.parts.isPrefixOf target.parts && root ≠ target) then
    throw (.abort (.splitter (.invalidName entry source.name)))
  Act.change fun cwd => FileTree.makePath cwd target.parent
  Act.change fun cwd => FileTree.write cwd .append target (Utf8.encode source.body)

/-- Writes sections below the working directory `root`, in order. -/
def writeSections (entry : Entry) (root : Path) (sources : List Section) : Act Unit :=
  sources.forM (writeSection entry root)

/-- Splits an entry by its markers. -/
def split (entry : Entry) (workdir : Path) : Act SplitResult := do
  let content ← Act.ask fun tree cwd => tree.read cwd entry.path
  match Utf8.decode content with
  | .error fault => return undecodable entry fault
  | .ok text =>
    match Section.ofText? text with
    | none => return .single entry.path
    | some sources =>
      let root ← Act.ask fun tree cwd => tree.canonical cwd workdir
      writeSections entry root sources
      return .multiple ((sources.map Section.name).eraseDups.map Path.parse)

/-- The splitter that goes by markers. -/
def splitter : Splitter := ⟨split⟩

end Reimport.MarkerSplit
