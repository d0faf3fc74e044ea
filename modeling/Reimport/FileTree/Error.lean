import Reimport.Path
import Reimport.Text.Quoted

/-!
# File system errors

Why the system refuses an operation on a path.  An error keeps the path as it
was used in the call, relative if it was relative.
-/
namespace Reimport

/-- A reason of the system for refusing an operation. -/
inductive SystemError where
  /-- A name on the way is not there. -/
  | noEntry
  /-- The place is taken already. -/
  | alreadyExists
  /-- A name on the way belongs to no directory. -/
  | notDirectory
  /-- A directory stands where a file is needed. -/
  | isDirectory
  /-- A name or the whole path is longer than the system allows. -/
  | nameTooLong
  /-- Following links does not come to an end. -/
  | tooManyLinks
  deriving DecidableEq, Repr

namespace SystemError

/-- The number of the error. -/
def number : SystemError → Int
  | .noEntry => 2
  | .alreadyExists => 17
  | .notDirectory => 20
  | .isDirectory => 21
  | .nameTooLong => 36
  | .tooManyLinks => 40

/-- The wording of the error. -/
def wording : SystemError → Text
  | .noEntry => "No such file or directory"
  | .alreadyExists => "File exists"
  | .notDirectory => "Not a directory"
  | .isDirectory => "Is a directory"
  | .nameTooLong => "File name too long"
  | .tooManyLinks => "Too many levels of symbolic links"

end SystemError

/-- Why an operation on a path failed. -/
inductive FileError where
  /-- The system refused it. -/
  | system (cause : SystemError) (path : Text)
  /-- The path holds a NUL, which no path of the system can. -/
  | embeddedNul
  /-- Following the links of the path leads in a circle. -/
  | linkCycle (path : Text)
  deriving DecidableEq, Repr

/-- The wording of a failure. -/
def FileError.message : FileError → Text
  | .system cause path =>
    .join ["[Errno ", Text.decimal cause.number, "] ", cause.wording, ": ", Text.quoted path]
  | .embeddedNul => "embedded null byte"
  | .linkCycle path => .join ["Symlink loop from ", Text.quoted path]

end Reimport
