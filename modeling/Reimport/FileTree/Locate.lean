import Reimport.FileTree.Basic
import Reimport.FileTree.Error

/-!
# Following a path

`locate` is how the system follows a path, name by name: every name but the last
has to lead to a directory, `..` leads to the directory above the one reached so
far, and a link is replaced by its target, at most forty times.  The last name
need not be there, and whether a link at the last name is followed is up to the
operation.

`canonical` resolves a path without asking that anything on it exists: links are
followed where they are found, names that are not there are kept, and `..` takes
the last resolved name away.
-/
namespace Reimport.FileTree

/-- The most bytes that one name may have. -/
def nameLimit : Nat := 255

/-- The number of bytes that a whole path has to stay below. -/
def pathLimit : Nat := 4096

/-- The number of links that are followed on one path. -/
def linkLimit : Nat := 40

/-- The names that a link's target leads along.  A slash at the end asks for a
directory, as the name `.` does. -/
def targetNames (target : Text) : List Name :=
  let asksDirectory := match (Text.splitAt '/' target).getLast? with
    | some last => last = [] || last = Path.dot
    | none => false
  Path.partsOf target ++ if asksDirectory then [Path.dot] else []

/-- The directory from which a link's target is followed. -/
def targetBase (target : Text) (here : Place) : Place :=
  if Path.rootOf target = .none then here else []

/-- Follows names from the place `here` on, with `links` links left to follow.
The place reached may be empty, but its directory is there. -/
def locate (tree : FileTree) (followLast : Bool) (links : Nat) (here : Place) :
    List Name → Except SystemError Place
  | [] => .ok here
  | name :: rest =>
    match tree.node? here with
    | some .directory =>
      if name = Path.dot then locate tree followLast links here rest
      else if name = Path.dotDot then locate tree followLast links here.dropLast rest
      else if Utf8.size name > nameLimit then .error .nameTooLong
      else
        let next := here ++ [name]
        match tree.node? next with
        | none => if rest = [] then .ok next else .error .noEntry
        | some (.link target) =>
          if rest = [] && !followLast then .ok next
          else match links with
            | 0 => .error .tooManyLinks
            | links + 1 =>
              locate tree followLast links (targetBase target here) (targetNames target ++ rest)
        | some _ => locate tree followLast links next rest
    | some _ => .error .notDirectory
    | none => .error .noEntry
termination_by names => (links, names.length)

/-- The place that a path leads to, from the working directory `cwd`. -/
def placeOf (tree : FileTree) (cwd : Place) (followLast : Bool) (path : Path) :
    Except FileError Place :=
  if path.text.contains '\x00' then .error .embeddedNul
  else if Utf8.size path.text ≥ pathLimit then .error (.system .nameTooLong path.text)
  else
    match locate tree followLast linkLimit (if path.isAbsolute then [] else cwd) path.parts with
    | .ok place => .ok place
    | .error cause => .error (.system cause path.text)

/-- A place reached while links are resolved, and whether that came to its end. -/
structure Resolved where
  /-- The place reached, with the names that were left if a circle was met. -/
  place : Place
  /-- Whether no circle of links was met. -/
  complete : Bool
  deriving DecidableEq, Repr

/-- Appends names to a place, `..` taking the last one away. -/
def climb (place : Place) (names : List Name) : Place :=
  names.foldl (fun place name => if name = Path.dotDot then place.dropLast else place ++ [name])
    place

/-- Resolves the links on the way along the names from `here` on.  `following` are
the links whose targets are being followed; meeting one of them again is a
circle.  At most `depth` links are followed inside one another. -/
def resolveFrom (tree : FileTree) (depth : Nat) (following : List Place) (here : Place) :
    List Name → Resolved
  | [] => ⟨here, true⟩
  | name :: rest =>
    if name = Path.dotDot then resolveFrom tree depth following here.dropLast rest
    else
      let next := here ++ [name]
      match tree.linkTarget? next with
      | none => resolveFrom tree depth following next rest
      | some target =>
        if next ∈ following then ⟨climb next rest, false⟩
        else match depth with
          | 0 => ⟨climb next rest, false⟩
          | depth + 1 =>
            let reached :=
              resolveFrom tree depth (next :: following) (targetBase target here) (Path.partsOf target)
            if reached.complete then resolveFrom tree (depth + 1) following reached.place rest
            else ⟨climb reached.place rest, false⟩
termination_by names => (depth, names.length)

/-- The place that a path leads to once its links are resolved, whether or not
anything is there.  No more links can be open than the tree has entries. -/
def canonicalPlace (tree : FileTree) (cwd : Place) (path : Path) : Except FileError Place :=
  if path.text.contains '\x00' then .error .embeddedNul
  else
    let resolved := resolveFrom tree tree.entries.length []
      (if path.isAbsolute then [] else cwd) path.parts
    if resolved.complete then .ok resolved.place
    else
      match locate tree true linkLimit [] resolved.place with
      | .error .tooManyLinks => .error (.linkCycle (Path.ofPlace resolved.place).text)
      | _ => .ok resolved.place

/-- The absolute path without links that a path leads to. -/
def canonical (tree : FileTree) (cwd : Place) (path : Path) : Except FileError Path :=
  (canonicalPlace tree cwd path).map Path.ofPlace

end Reimport.FileTree
