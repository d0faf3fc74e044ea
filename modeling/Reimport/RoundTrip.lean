import Reimport.Compiler
import Reimport.Diff

/-!
# The round trip

One entry is put to the test in three steps: its files are exported, the export
is imported and exported again, and the two texts are compared character by
character.  Failing to export and failing to import are told apart, since the
one is a defect of the serializer and the other of the importer.  Both exports
stay in the working directory, where the reported commands can be repeated.
-/
namespace Reimport.RoundTrip

/-- The name under which the second export is kept in the working directory. -/
def obtainedName : Name := "obtained.json"

/-- Keeps an export in the working directory. -/
def keep (workdir : Path) (name : Name) (content : Text) : Act Unit :=
  Act.change fun cwd => FileTree.write cwd .replace (workdir.child name) (Utf8.encode content)

/-- How the round trip of some files is repeated. -/
def reproduction (compiler : Compiler) (files : List Path) (workdir : Path) : Reproduction :=
  ⟨compiler.exportCommand files, compiler.importCommand ++ [exportedName], workdir⟩

/-- Exports, imports, exports again and compares. -/
def compare (compiler : Compiler) (entry : Entry) (files : List Path) (workdir : Path) :
    Act Outcome := do
  let reproduction := reproduction compiler files workdir
  let exported ← compiler.exportFiles files workdir
  keep workdir exportedName exported.stdout
  if !exported.success then
    return .exportFailed ⟨entry, reproduction, exported.stderr, exported.stdout⟩
  let reexported ← compiler.reexport exported.stdout workdir
  keep workdir obtainedName reexported.stdout
  if !reexported.success then
    return .importFailed ⟨entry, reproduction, reexported.stderr, reexported.stdout⟩
  let difference := Diff.compare exported.stdout reexported.stdout exportedName obtainedName
  if difference.changed then return .mismatched entry reproduction difference.diff
  else return .passed entry

/-- Tries the compiler on the files and, if it accepts them, makes the round
trip. -/
def check (compiler : Compiler) (entry : Entry) (files : List Path) (workdir : Path) :
    Act Outcome := do
  if ← compiler.accepts files workdir then compare compiler entry files workdir
  else return .uncompilable entry

end Reimport.RoundTrip
