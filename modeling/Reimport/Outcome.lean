import Reimport.Machine

/-!
# Entries and outcomes

An entry is one source file of a corpus.  Splitting an entry says which files
the compiler is given, and the round trip through the compiler, export, import
and export again, has one of five outcomes.  The three that somebody may want to
look into carry what is needed to repeat them by hand.
-/
namespace Reimport

/-- One source file of a corpus. -/
structure Entry where
  /-- Where the file is. -/
  path : Path
  deriving DecidableEq, Repr

namespace Entry

/-- The file's name. -/
def name (entry : Entry) : Name := entry.path.name

/-- The entry as messages show it. -/
def text (entry : Entry) : Text := entry.path.text

end Entry

/-- Which files an entry stands for. -/
inductive SplitResult where
  /-- The entry is one source, compiled as it is. -/
  | single (path : Path)
  /-- The entry holds several sources, written to the working directory. -/
  | multiple (paths : List Path)
  /-- The entry could not be read as text. -/
  | undecodable (diagnostic : Text)
  /-- The splitter's answer is none of these. -/
  | unknown
  deriving DecidableEq, Repr

/-- What is needed to repeat a round trip by hand. -/
structure Reproduction where
  /-- The command of the export. -/
  exportCommand : Command
  /-- The command of the import. -/
  importCommand : Command
  /-- The directory both were run in. -/
  workdir : Path
  deriving DecidableEq, Repr

/-- A compiler call of a round trip that failed. -/
structure Breakdown where
  /-- The entry under test. -/
  entry : Entry
  /-- How to repeat it. -/
  reproduction : Reproduction
  /-- What the compiler wrote to its standard error. -/
  stderr : Text
  /-- What the compiler wrote to its standard output. -/
  stdout : Text
  deriving DecidableEq, Repr

/-- What came of one entry. -/
inductive Outcome where
  /-- Both exports are equal. -/
  | passed (entry : Entry)
  /-- The compiler rejects the sources. -/
  | uncompilable (entry : Entry)
  /-- The second export differs from the first. -/
  | mismatched (entry : Entry) (reproduction : Reproduction) (diff : Text)
  /-- The first export failed. -/
  | exportFailed (breakdown : Breakdown)
  /-- The import failed, or the export after it. -/
  | importFailed (breakdown : Breakdown)
  deriving DecidableEq, Repr

namespace Outcome

/-- The entry an outcome belongs to. -/
def entry : Outcome → Entry
  | .passed entry => entry
  | .uncompilable entry => entry
  | .mismatched entry _ _ => entry
  | .exportFailed breakdown => breakdown.entry
  | .importFailed breakdown => breakdown.entry

/-- Whether the outcome is a mismatch. -/
def isMismatch : Outcome → Bool
  | .mismatched _ _ _ => true
  | _ => false

end Outcome
end Reimport
