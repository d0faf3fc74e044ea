import Reimport.FileTree.Files
import Reimport.Settings.Given
import Reimport.Toml

/-!
# Searching for a settings table

Settings are kept in a table of a project file.  The search goes from a directory
upwards and ends at the first project file that states the table.  A project file
that is malformed ends it as well, without a result; one that is well-formed and
does not state the table, or is no regular file, is passed over.  So no project
file above the one at which the search ends is ever looked at.
-/
namespace Reimport.Settings

/-- Why no settings can be had. -/
inductive Error where
  /-- Some of them are given values that they cannot have. -/
  | invalid (faults : List Fault)
  /-- A project file is no UTF-8. -/
  | undecodable (fault : Utf8.Fault)
  /-- A project file has a numeral with more digits than are read. -/
  | numeralTooLong (digits : Nat)
  /-- What a project file states about its tools is no table. -/
  | toolsNotTable
  /-- What stands in the place of the settings table has no names. -/
  | settingsNotTable
  /-- What stands in the place of the settings table cannot be searched for a name,
  or not be asked for what it has under the name. -/
  | settingsNotSearchable
  /-- A path is given in a project file by something other than a text. -/
  | pathNotText (field : Field)
  /-- A path cannot be followed. -/
  | file (error : FileError)
  deriving DecidableEq, Repr

/-- The wording of an error. -/
def Error.message : Error → Text
  | .invalid faults => .intercalate ['\n'] (faults.map Fault.message)
  | .undecodable fault => fault.message
  | .numeralTooLong digits =>
    .join ["Exceeds the limit (", Text.decimalNat Toml.digitLimit,
      " digits) for integer string conversion: value has ", Text.decimalNat digits,
      " digits; use sys.set_int_max_str_digits() to increase the limit"]
  | .toolsNotTable => "The tools of the project file are no table"
  | .settingsNotTable => "The settings of the project file are no table"
  | .settingsNotSearchable => "The settings of the project file cannot be searched"
  | .pathNotText field => .join ["The path ", field.name, " of the project file is no text"]
  | .file error => error.message

/-- The name of a project file. -/
def projectFileName : Name := "pyproject.toml"

/-- The name of the table of tools in a project file. -/
def toolsName : Text := "tool"

/-- The name of the settings table among the tools. -/
def tableName : Text := "ast_roundtrip"

/-- What a project file contributes to the search. -/
inductive Contribution where
  /-- There is no such file. -/
  | absent
  /-- The file is malformed or cannot be opened. -/
  | unusable
  /-- The file does not state the table. -/
  | silent
  /-- The file states the table, or something in its place. -/
  | stated (table : Toml.Value)
  deriving Repr

/-- Whether one of the values is a given text. -/
def mentions (name : Text) (items : List Toml.Value) : Bool :=
  items.any fun item => match item with
    | .text words => words = name
    | _ => false

/-- What a document contributes.  Tools that are given as a text or an array are
searched for the name, which cannot lead to anything there. -/
def ofDocument (document : Toml.Table) : Except Error Contribution :=
  match document.get? toolsName with
  | none => .ok .silent
  | some (.table tools) =>
    match Toml.Table.get? tools tableName with
    | none => .ok .silent
    | some table => .ok (.stated table)
  | some (.text words) =>
    if Text.occursIn tableName words then .error .toolsNotTable else .ok .silent
  | some (.array items) => if mentions tableName items then .error .toolsNotTable else .ok .silent
  | some _ => .error .toolsNotTable

/-- What the content of a project file contributes. -/
def ofContent (content : Bytes) : Except Error Contribution :=
  match Utf8.decode content with
  | .error fault => .error (.undecodable fault)
  | .ok text =>
    match Toml.parse text with
    | .error .malformed => .ok .unusable
    | .error (.numeralTooLong digits) => .error (.numeralTooLong digits)
    | .ok document => ofDocument document

/-- What the project file of a directory contributes. -/
def contribution (tree : FileTree) (cwd : Place) (directory : Path) :
    Except Error Contribution :=
  let path := directory.child projectFileName
  match tree.isFile cwd path with
  | .error error => .error (.file error)
  | .ok false => .ok .absent
  | .ok true =>
    match tree.read cwd path with
    | .error _ => .ok .unusable
    | .ok content => ofContent content

/-- A settings table and the directory whose project file states it. -/
structure Found where
  /-- The table, or what is stated in its place. -/
  table : Toml.Value
  /-- The directory. -/
  directory : Path
  deriving Repr

/-- The settings table of the first of some directories that states one, unless a
malformed project file comes before it. -/
def firstFound (tree : FileTree) (cwd : Place) : List Path → Except Error (Option Found)
  | [] => .ok none
  | directory :: above =>
    match contribution tree cwd directory with
    | .error error => .error error
    | .ok .absent => firstFound tree cwd above
    | .ok .silent => firstFound tree cwd above
    | .ok .unusable => .ok none
    | .ok (.stated table) => .ok (some ⟨table, directory⟩)

/-- The settings table that applies to a directory. -/
def search (tree : FileTree) (cwd : Place) (directory : Path) : Except Error (Option Found) :=
  firstFound tree cwd directory.withParents

end Reimport.Settings
