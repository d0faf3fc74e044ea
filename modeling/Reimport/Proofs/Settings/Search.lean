import Reimport.Proofs.Settings.Sources

/-!
# Where the search for a table ends

The search goes from a directory upwards.  What it makes of a project file is told by the file
alone: it shows something (`Shows`), or it is in trouble (`Troubles`), where the system does not
say whether there is one, it is no UTF-8, it has an overlong numeral, or what it states about
the tools is no table.  Files that are missing or do not state the table are passed over, and
the first other one decides.  So the search comes to the files up to there and to no other
(`Reaches`), and it has a result iff none of these is in trouble.
-/
namespace Reimport

namespace FileTree
variable {tree : FileTree} {cwd : Place} {path : Path}

/-- What is a file can be read. -/
theorem read_of_isFile (h : tree.isFile cwd path = .ok true) :
    ∃ content, tree.read cwd path = .ok content := by
  rw [isFile, ask] at h
  cases hs : tree.status cwd path with
  | error e =>
    rw [hs] at h
    dsimp only at h
    split at h
    · exact absurd (Except.ok.inj h) Bool.false_ne_true
    · cases h
  | ok node =>
    rw [hs] at h
    cases node with
    | file content => exact ⟨content, by rw [read, hs]; rfl⟩
    | _ => exact absurd (Except.ok.inj h) Bool.false_ne_true

end FileTree

namespace Settings
variable {tree other : FileTree} {cwd : Place} {directory above : Path} {directories : List Path}

/-! ## Project files -/

/-- The project file of a directory is a file with some content. -/
def Holds (tree : FileTree) (cwd : Place) (directory : Path) (content : Bytes) : Prop :=
  tree.isFile cwd (directory.child projectFileName) = .ok true ∧
    tree.read cwd (directory.child projectFileName) = .ok content

/-- The project file of a directory is a document in UTF-8 that is read with some result. -/
def Reads (tree : FileTree) (cwd : Place) (directory : Path)
    (result : Except Toml.Fault Toml.Table) : Prop :=
  ∃ content text, Holds tree cwd directory content ∧ Utf8.decode content = .ok text ∧
    Toml.parse text = result

/-- Tools that are no table can be searched for the name of the settings table, and it does not
occur in them. -/
def isMute : Toml.Value → Bool
  | .text words => !Text.occursIn tableName words
  | .array items => !mentions tableName items
  | _ => false

/-- What the project file of a directory shows to the search. -/
inductive Shows (tree : FileTree) (cwd : Place) (directory : Path) : Contribution → Prop where
  /-- There is none, or what is there is no regular file. -/
  | absent : tree.isFile cwd (directory.child projectFileName) = .ok false →
    Shows tree cwd directory .absent
  /-- It is malformed. -/
  | malformed : Reads tree cwd directory (.error .malformed) → Shows tree cwd directory .unusable
  /-- It does not mention any tools. -/
  | toolless {document : Toml.Table} : Reads tree cwd directory (.ok document) →
    document.get? toolsName = none → Shows tree cwd directory .silent
  /-- The settings table is not among its tools. -/
  | tableless {document tools : Toml.Table} : Reads tree cwd directory (.ok document) →
    document.get? toolsName = some (.table tools) → tools.get? tableName = none →
    Shows tree cwd directory .silent
  /-- Its tools are no table, and it does not show. -/
  | mute {document : Toml.Table} {tools : Toml.Value} : Reads tree cwd directory (.ok document) →
    document.get? toolsName = some tools → isMute tools = true → Shows tree cwd directory .silent
  /-- It states the table, or something in its place. -/
  | stated {document tools : Toml.Table} {table : Toml.Value} :
    Reads tree cwd directory (.ok document) → document.get? toolsName = some (.table tools) →
    tools.get? tableName = some table → Shows tree cwd directory (.stated table)

/-- The trouble that the search has with the project file of a directory. -/
inductive Troubles (tree : FileTree) (cwd : Place) (directory : Path) : Error → Prop where
  /-- The system does not say whether it is a file. -/
  | unanswered {error : FileError} :
    tree.isFile cwd (directory.child projectFileName) = .error error →
    Troubles tree cwd directory (.file error)
  /-- It is no UTF-8. -/
  | undecodable {content : Bytes} {fault : Utf8.Fault} : Holds tree cwd directory content →
    Utf8.decode content = .error fault → Troubles tree cwd directory (.undecodable fault)
  /-- It has an overlong numeral. -/
  | overlong {digits : Nat} : Reads tree cwd directory (.error (.numeralTooLong digits)) →
    Troubles tree cwd directory (.numeralTooLong digits)
  /-- Its tools are no table, and it shows. -/
  | untabled {document : Toml.Table} {tools : Toml.Value} :
    Reads tree cwd directory (.ok document) → document.get? toolsName = some tools →
    (∀ entries, tools ≠ .table entries) → isMute tools = false →
    Troubles tree cwd directory .toolsNotTable

theorem contribution_of_holds {content : Bytes} (h : Holds tree cwd directory content) :
    contribution tree cwd directory = ofContent content := by
  rw [contribution, h.1]
  dsimp only
  rw [h.2]

/-- What the project file contributes that is read with a result. -/
def ofParsed : Except Toml.Fault Toml.Table → Except Error Contribution
  | .error .malformed => .ok .unusable
  | .error (.numeralTooLong digits) => .error (.numeralTooLong digits)
  | .ok document => ofDocument document

theorem contribution_of_reads {result : Except Toml.Fault Toml.Table}
    (h : Reads tree cwd directory result) :
    contribution tree cwd directory = ofParsed result := by
  obtain ⟨content, text, holds, decoded, rfl⟩ := h
  rw [contribution_of_holds holds, ofContent, decoded]
  rfl

theorem contribution_of_shows {shown : Contribution} (h : Shows tree cwd directory shown) :
    contribution tree cwd directory = .ok shown := by
  cases h with
  | absent isFile => rw [contribution, isFile]
  | malformed reads => exact contribution_of_reads reads
  | toolless reads tools => simp only [contribution_of_reads reads, ofParsed, ofDocument, tools]
  | tableless reads tools table =>
    simp only [contribution_of_reads reads, ofParsed, ofDocument, tools, table]
  | @mute _ tools reads stated mute =>
    simp only [contribution_of_reads reads, ofParsed, ofDocument, stated]
    cases tools <;> simp_all [isMute]
  | stated reads tools table =>
    simp only [contribution_of_reads reads, ofParsed, ofDocument, tools, table]

theorem contribution_of_troubles {trouble : Error} (h : Troubles tree cwd directory trouble) :
    contribution tree cwd directory = .error trouble := by
  cases h with
  | unanswered unanswered => rw [contribution, unanswered]
  | undecodable holds fault => rw [contribution_of_holds holds, ofContent, fault]
  | overlong reads => exact contribution_of_reads reads
  | @untabled _ tools reads stated untabled mute =>
    simp only [contribution_of_reads reads, ofParsed, ofDocument, stated]
    cases tools <;> simp_all [isMute]

/-- What a document with tools that are no table is made of. -/
theorem tells_ofDocument {document : Toml.Table} (reads : Reads tree cwd directory (.ok document)) :
    (∃ shown, Shows tree cwd directory shown) ∨ ∃ trouble, Troubles tree cwd directory trouble := by
  cases stated : document.get? toolsName with
  | none => exact .inl ⟨_, .toolless reads stated⟩
  | some tools =>
    by_cases tabled : ∃ entries, tools = .table entries
    · obtain ⟨entries, rfl⟩ := tabled
      cases table : Toml.Table.get? entries tableName with
      | none => exact .inl ⟨_, .tableless reads stated table⟩
      | some table => exact .inl ⟨_, .stated reads stated ‹_›⟩
    · cases mute : isMute tools with
      | true => exact .inl ⟨_, .mute reads stated mute⟩
      | false => exact .inr ⟨_, .untabled reads stated (fun _ h => tabled ⟨_, h⟩) mute⟩

/-- A project file shows something, or it is in trouble. -/
theorem shows_or_troubles (tree : FileTree) (cwd : Place) (directory : Path) :
    (∃ shown, Shows tree cwd directory shown) ∨ ∃ trouble, Troubles tree cwd directory trouble := by
  cases isFile : tree.isFile cwd (directory.child projectFileName) with
  | error error => exact .inr ⟨_, .unanswered isFile⟩
  | ok there =>
    cases there with
    | false => exact .inl ⟨_, .absent isFile⟩
    | true =>
      obtain ⟨content, read⟩ := FileTree.read_of_isFile isFile
      cases decoded : Utf8.decode content with
      | error fault => exact .inr ⟨_, .undecodable ⟨isFile, read⟩ decoded⟩
      | ok text =>
        have reads : Reads tree cwd directory (Toml.parse text) :=
          ⟨content, text, ⟨isFile, read⟩, decoded, rfl⟩
        cases parsed : Toml.parse text with
        | ok document => exact tells_ofDocument (parsed ▸ reads)
        | error fault =>
          cases fault with
          | malformed => exact .inl ⟨_, .malformed (parsed ▸ reads)⟩
          | numeralTooLong digits => exact .inr ⟨_, .overlong (parsed ▸ reads)⟩

theorem shows_iff {shown : Contribution} :
    Shows tree cwd directory shown ↔ contribution tree cwd directory = .ok shown := by
  refine ⟨contribution_of_shows, fun h => ?_⟩
  obtain ⟨other, shows⟩ | ⟨trouble, troubles⟩ := shows_or_troubles tree cwd directory
  · rw [contribution_of_shows shows] at h
    exact Except.ok.inj h ▸ shows
  · rw [contribution_of_troubles troubles] at h
    cases h

theorem troubles_iff {trouble : Error} :
    Troubles tree cwd directory trouble ↔ contribution tree cwd directory = .error trouble := by
  refine ⟨contribution_of_troubles, fun h => ?_⟩
  obtain ⟨shown, shows⟩ | ⟨other, troubles⟩ := shows_or_troubles tree cwd directory
  · rw [contribution_of_shows shows] at h
    cases h
  · rw [contribution_of_troubles troubles] at h
    exact Except.error.inj h ▸ troubles

/-! ## Where the search comes to -/

/-- The search passes over the project file of a directory. -/
def PassedOver (tree : FileTree) (cwd : Place) (directory : Path) : Prop :=
  Shows tree cwd directory .absent ∨ Shows tree cwd directory .silent

/-- The search through some directories comes to one of them: it passes over all that are
nearer. -/
def Reaches (tree : FileTree) (cwd : Place) (directories : List Path) (directory : Path) : Prop :=
  ∃ nearer farther, directories = nearer ++ directory :: farther ∧
    ∀ passed ∈ nearer, PassedOver tree cwd passed

theorem reaches_self : Reaches tree cwd (directory :: directories) directory :=
  ⟨[], directories, rfl, fun _ hm => absurd hm List.not_mem_nil⟩

theorem Reaches.over (h : Reaches tree cwd directories above)
    (passed : PassedOver tree cwd directory) : Reaches tree cwd (directory :: directories) above := by
  obtain ⟨nearer, farther, rfl, others⟩ := h
  exact ⟨directory :: nearer, farther, rfl, List.forall_mem_cons.2 ⟨passed, others⟩⟩

/-- The search comes to a directory further up iff it passes over the nearest one. -/
theorem reaches_cons_iff : Reaches tree cwd (directory :: directories) above ↔
    above = directory ∨ PassedOver tree cwd directory ∧ Reaches tree cwd directories above := by
  constructor
  · rintro ⟨nearer, farther, he, others⟩
    cases nearer with
    | nil => exact .inl (List.cons.inj he).1.symm
    | cons nearest rest =>
      obtain ⟨rfl, rfl⟩ := List.cons.inj he
      exact .inr ⟨others _ List.mem_cons_self, rest, farther, rfl,
        fun passed hm => others passed (List.mem_cons_of_mem _ hm)⟩
  · rintro (rfl | ⟨passed, reaches⟩)
    · exact reaches_self
    · exact reaches.over passed

theorem Reaches.mem (h : Reaches tree cwd directories directory) : directory ∈ directories := by
  obtain ⟨nearer, farther, rfl, -⟩ := h
  simp

theorem firstFound_of_passed (h : PassedOver tree cwd directory) :
    firstFound tree cwd (directory :: directories) = firstFound tree cwd directories := by
  rw [firstFound]
  rcases h with absent | silent
  · rw [shows_iff.1 absent]
  · rw [shows_iff.1 silent]

/-- The search goes on from the directory that it comes to. -/
theorem firstFound_of_reaches (h : Reaches tree cwd directories directory) :
    ∃ farther, firstFound tree cwd directories = firstFound tree cwd (directory :: farther) := by
  obtain ⟨nearer, farther, rfl, others⟩ := h
  refine ⟨farther, ?_⟩
  induction nearer with
  | nil => rfl
  | cons nearest rest ih =>
    rw [List.cons_append, firstFound_of_passed (others nearest List.mem_cons_self)]
    exact ih fun passed hm => others passed (List.mem_cons_of_mem _ hm)

section Ends
variable {table : Toml.Value} {trouble : Error} (h : Reaches tree cwd directories directory)
include h

theorem firstFound_of_stated (shows : Shows tree cwd directory (.stated table)) :
    firstFound tree cwd directories = .ok (some ⟨table, directory⟩) := by
  obtain ⟨farther, same⟩ := firstFound_of_reaches h
  rw [same, firstFound, shows_iff.1 shows]

theorem firstFound_of_malformed (shows : Shows tree cwd directory .unusable) :
    firstFound tree cwd directories = .ok none := by
  obtain ⟨farther, same⟩ := firstFound_of_reaches h
  rw [same, firstFound, shows_iff.1 shows]

theorem firstFound_of_troubles (troubles : Troubles tree cwd directory trouble) :
    firstFound tree cwd directories = .error trouble := by
  obtain ⟨farther, same⟩ := firstFound_of_reaches h
  rw [same, firstFound, troubles_iff.1 troubles]

end Ends

theorem firstFound_of_exhausted (h : ∀ directory ∈ directories, PassedOver tree cwd directory) :
    firstFound tree cwd directories = .ok none := by
  induction directories with
  | nil => rfl
  | cons directory rest ih =>
    rw [firstFound_of_passed (h directory List.mem_cons_self)]
    exact ih fun passed hm => h passed (List.mem_cons_of_mem _ hm)

/-- How a search ends. -/
inductive Ends (tree : FileTree) (cwd : Place) (directories : List Path) : Prop where
  /-- All project files are passed over. -/
  | exhausted : (∀ directory ∈ directories, PassedOver tree cwd directory) →
    Ends tree cwd directories
  /-- It comes to a malformed one. -/
  | malformed {directory : Path} : Reaches tree cwd directories directory →
    Shows tree cwd directory .unusable → Ends tree cwd directories
  /-- It comes to one that states the table. -/
  | stated {directory : Path} {table : Toml.Value} : Reaches tree cwd directories directory →
    Shows tree cwd directory (.stated table) → Ends tree cwd directories
  /-- It comes to one that is in trouble. -/
  | troubled {directory : Path} {trouble : Error} : Reaches tree cwd directories directory →
    Troubles tree cwd directory trouble → Ends tree cwd directories

theorem Ends.over (h : Ends tree cwd directories) (passed : PassedOver tree cwd directory) :
    Ends tree cwd (directory :: directories) := by
  cases h with
  | exhausted others => exact .exhausted (List.forall_mem_cons.2 ⟨passed, others⟩)
  | malformed reaches shows => exact .malformed (reaches.over passed) shows
  | stated reaches shows => exact .stated (reaches.over passed) shows
  | troubled reaches troubles => exact .troubled (reaches.over passed) troubles

/-- Every search ends in one of these ways. -/
theorem ends (tree : FileTree) (cwd : Place) (directories : List Path) :
    Ends tree cwd directories := by
  induction directories with
  | nil => exact .exhausted fun _ hm => absurd hm List.not_mem_nil
  | cons directory rest ih =>
    obtain ⟨shown, shows⟩ | ⟨trouble, troubles⟩ := shows_or_troubles tree cwd directory
    · cases shown with
      | absent => exact ih.over (.inl shows)
      | silent => exact ih.over (.inr shows)
      | unusable => exact .malformed reaches_self shows
      | stated table => exact .stated reaches_self shows
    · exact .troubled reaches_self troubles

/-- **A table is found** iff the search comes to a project file that states it. -/
theorem firstFound_eq_some_iff {found : Found} :
    firstFound tree cwd directories = .ok (some found) ↔
      Reaches tree cwd directories found.directory ∧
        Shows tree cwd found.directory (.stated found.table) := by
  refine ⟨fun h => ?_, fun ⟨reaches, shows⟩ => firstFound_of_stated reaches shows⟩
  cases ends tree cwd directories with
  | exhausted others => rw [firstFound_of_exhausted others] at h; cases h
  | malformed reaches shows => rw [firstFound_of_malformed reaches shows] at h; cases h
  | stated reaches shows =>
    rw [firstFound_of_stated reaches shows] at h
    cases h
    exact ⟨reaches, shows⟩
  | troubled reaches troubles => rw [firstFound_of_troubles reaches troubles] at h; cases h

/-- **There is no table** iff the search passes over all project files or comes to a malformed
one. -/
theorem firstFound_eq_none_iff :
    firstFound tree cwd directories = .ok none ↔
      (∀ directory ∈ directories, PassedOver tree cwd directory) ∨
        ∃ directory, Reaches tree cwd directories directory ∧
          Shows tree cwd directory .unusable := by
  refine ⟨fun h => ?_, ?_⟩
  · cases ends tree cwd directories with
    | exhausted others => exact .inl others
    | malformed reaches shows => exact .inr ⟨_, reaches, shows⟩
    | stated reaches shows => rw [firstFound_of_stated reaches shows] at h; cases h
    | troubled reaches troubles => rw [firstFound_of_troubles reaches troubles] at h; cases h
  · rintro (others | ⟨directory, reaches, shows⟩)
    · exact firstFound_of_exhausted others
    · exact firstFound_of_malformed reaches shows

/-- **The search fails** iff it comes to a project file that is in trouble. -/
theorem firstFound_eq_error_iff {trouble : Error} :
    firstFound tree cwd directories = .error trouble ↔
      ∃ directory, Reaches tree cwd directories directory ∧
        Troubles tree cwd directory trouble := by
  refine ⟨fun h => ?_, fun ⟨_, reaches, troubles⟩ => firstFound_of_troubles reaches troubles⟩
  cases ends tree cwd directories with
  | exhausted others => rw [firstFound_of_exhausted others] at h; cases h
  | malformed reaches shows => rw [firstFound_of_malformed reaches shows] at h; cases h
  | stated reaches shows => rw [firstFound_of_stated reaches shows] at h; cases h
  | troubled reaches troubles =>
    rw [firstFound_of_troubles reaches troubles] at h
    cases h
    exact ⟨_, reaches, troubles⟩

/-- **Only the project files that the search comes to have a say in its result.** -/
theorem firstFound_congr
    (alike : ∀ directory, Reaches tree cwd directories directory →
      contribution tree cwd directory = contribution other cwd directory) :
    firstFound tree cwd directories = firstFound other cwd directories := by
  induction directories with
  | nil => rfl
  | cons directory rest ih =>
    have further : PassedOver tree cwd directory →
        firstFound tree cwd rest = firstFound other cwd rest :=
      fun passed => ih fun above reaches => alike above (reaches.over passed)
    rw [firstFound, firstFound, ← alike directory reaches_self]
    split
    · rfl
    · exact further (.inl (shows_iff.2 ‹_›))
    · exact further (.inr (shows_iff.2 ‹_›))
    · rfl
    · rfl

end Settings
end Reimport
