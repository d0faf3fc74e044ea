import Reimport.Proofs.Settings.Asking

/-!
# Project files beyond the end of the search

The directories above the one where a search begins are places without links, so the project
file of each of them stands right there.  Unless the search begins below a directory that is
named like a project file, none of these files is on the way to another.  A tree in which only
those differ to which the search does not come gives the same answers (`sameAnswers`), and
loading comes to the same.
-/
namespace Reimport.Settings
open FileTree
variable {tree other : FileTree} {cwd : Place} {overrides : Overrides} {environment : Environment}
  {searchFrom : Option Path} {directory start : Path}

/-- The place of the project file of a place. -/
def projectPlace (place : Place) : Place := place ++ [projectFileName]

/-- Two trees differ at most in project files to which the search does not come, and no project
file is a link. -/
structure DifferFarther (tree other : FileTree) (cwd : Place) (start : Path) : Prop where
  same : ∀ place, (∀ directory ∈ start.withParents, Reaches tree cwd start.withParents directory ∨
    place ≠ projectPlace directory.parts) → tree.node? place = other.node? place
  unlinked : ∀ directory ∈ start.withParents,
    tree.linkTarget? (projectPlace directory.parts) = none ∧
      other.linkTarget? (projectPlace directory.parts) = none

namespace DifferFarther

theorem linkTarget?_eq (differ : DifferFarther tree other cwd start) (place : Place) :
    tree.linkTarget? place = other.linkTarget? place := by
  by_cases project : ∃ directory ∈ start.withParents, place = projectPlace directory.parts
  · obtain ⟨directory, high, rfl⟩ := project
    obtain ⟨here, there⟩ := differ.unlinked directory high
    rw [here, there]
  · exact linkTarget?_of_node? (differ.same place fun directory high =>
      .inr fun he => project ⟨directory, high, he⟩)

variable {way : Place} (differ : DifferFarther tree other cwd (Path.ofPlace way))
  (straight : tree.IsStraight way) (unnamed : projectFileName ∉ way) {above : Place}
  (high : above <+: way)
include differ unnamed high

/-- Above the beginning of the search the trees hold the same. -/
theorem node?_eq : tree.node? above = other.node? above := by
  refine differ.same above fun directory _ => .inr ?_
  rintro rfl
  exact unnamed (high.subset (by simp [projectPlace]))

include straight

/-- The search finds the same project file in both trees if it comes to it. -/
theorem status_eq
    (reaches : Reaches tree cwd (Path.ofPlace way).withParents (Path.ofPlace above)) :
    tree.status cwd (Path.ofPlace (projectPlace above)) =
      other.status cwd (Path.ofPlace (projectPlace above)) := by
  obtain ⟨unlinked, unlinked'⟩ := differ.unlinked _ reaches.mem
  refine status_ofPlace ⟨?_, ?_, ?_, unlinked'⟩ (differ.same _ fun directory hm => ?_)
  · exact proper_child (fun name hm => straight.proper name (high.subset hm)) ⟨by decide, by decide⟩
  · intro first hp hne
    obtain he | hp := List.prefix_concat_iff.1 hp
    · exact absurd he hne
    · exact differ.node?_eq unnamed (hp.trans high)
  · intro first hp
    obtain he | hp := List.prefix_concat_iff.1 hp
    · rw [List.nil_append, he]
      exact unlinked
    · exact straight.unlinked first (hp.trans high)
  · -- The project files of two directories stand at two places.
    obtain ⟨depth, -, rfl⟩ := List.mem_map.1 hm
    by_cases same : way.take depth = above
    · exact .inl (same ▸ reaches)
    · exact .inr fun he => same (List.append_inj_left' he rfl).symm

end DifferFarther

/-- **Project files to which the search does not come do not change an answer**, if no circle of
links is met. -/
theorem sameAnswers (fit : Fit cwd tree) (plain : Path.dot ∉ (beginning cwd searchFrom).parts)
    (circleless : ∀ path, Asked tree cwd overrides environment searchFrom path →
      tree.MeetsNoCircle cwd path)
    (begun : tree.canonical cwd (beginning cwd searchFrom) = .ok start)
    (unnamed : projectFileName ∉ start.parts) (differ : DifferFarther tree other cwd start) :
    SameAnswers tree other cwd overrides environment searchFrom := by
  refine ⟨fun path asked => canonical_of_sameLinks differ.linkTarget?_eq (circleless path asked),
    fun start' directory begun' reaches => ?_⟩
  rw [begun] at begun'
  cases begun'
  obtain ⟨way, rfl, straight, -⟩ :=
    isStraight_of_canonical fit plain (circleless _ .beginning) begun
  obtain ⟨depth, -, rfl⟩ := List.mem_map.1 reaches.mem
  exact differ.status_eq straight unnamed (List.take_prefix depth way) reaches

/-- **The search ends at the nearest project file that states the table or is malformed.**  It
finds a table iff it comes to a project file that states it, it finds none iff it passes over
all project files or comes to a malformed one, and it fails iff it comes to one that is in
trouble; a project file that is not in trouble shows something.  Loading comes to the same in a
tree that gives the same answers to what is asked, as every tree does that differs in project
files only to which the search does not come. -/
theorem search_ends_at_nearest (tree : FileTree) (cwd : Place) (overrides : Overrides)
    (environment : Environment) (searchFrom : Option Path) :
    (∀ start found, search tree cwd start = .ok (some found) ↔
      Reaches tree cwd start.withParents found.directory ∧
        Shows tree cwd found.directory (.stated found.table)) ∧
    (∀ start, search tree cwd start = .ok none ↔
      (∀ directory ∈ start.withParents, PassedOver tree cwd directory) ∨
        ∃ directory, Reaches tree cwd start.withParents directory ∧
          Shows tree cwd directory .unusable) ∧
    (∀ start trouble, search tree cwd start = .error trouble ↔
      ∃ directory, Reaches tree cwd start.withParents directory ∧
        Troubles tree cwd directory trouble) ∧
    (∀ directory, (∃ shown, Shows tree cwd directory shown) ∨
      ∃ trouble, Troubles tree cwd directory trouble) ∧
    (∀ other, SameAnswers tree other cwd overrides environment searchFrom →
      load other cwd overrides environment searchFrom =
        load tree cwd overrides environment searchFrom) ∧
    (∀ other start, Fit cwd tree → Path.dot ∉ (beginning cwd searchFrom).parts →
      (∀ path, Asked tree cwd overrides environment searchFrom path →
        tree.MeetsNoCircle cwd path) →
      tree.canonical cwd (beginning cwd searchFrom) = .ok start → projectFileName ∉ start.parts →
      DifferFarther tree other cwd start →
        load other cwd overrides environment searchFrom =
          load tree cwd overrides environment searchFrom) := by
  refine ⟨fun _ _ => firstFound_eq_some_iff, fun _ => firstFound_eq_none_iff,
    fun _ _ => firstFound_eq_error_iff, shows_or_troubles tree cwd,
    fun _ same => (load_congr same).symm, ?_⟩
  intro other start fit plain circleless begun unnamed differ
  exact (load_congr (sameAnswers fit plain circleless begun unnamed differ)).symm

/-- A directory whose project file states an indentation, and what else is in the tree. -/
def nestedTree (farther : List (Place × Node)) : FileTree :=
  ⟨(["p"], .directory) :: (projectPlace ["p"],
    .file (Utf8.encode "[tool.ast_roundtrip]\njson_indent = 2\n")) :: farther⟩

/-- The project file of the directory above is no UTF-8. -/
def overshadowed : List (Place × Node) := [(projectPlace [], .file [255])]

theorem resolve_nestedTree :
    resolve (nestedTree []) ["p"] (Path.ofPlace ["p"]) = .ok (Path.ofPlace ["p"]) := by
  cbv

theorem search_nestedTree : search (nestedTree []) ["p"] (Path.ofPlace ["p"]) =
    .ok (some ⟨.table [("json_indent", .integer 2)], Path.ofPlace ["p"]⟩) := by
  cbv

theorem base_nestedTree : base (nestedTree []) ["p"] none =
    .ok ⟨.table [("json_indent", .integer 2)], Path.ofPlace ["p"]⟩ :=
  except_bind_ok.2 ⟨_, resolve_nestedTree, except_bind_ok.2 ⟨_, search_nestedTree, rfl⟩⟩

theorem load_nestedTree : ∃ settings,
    load (nestedTree []) ["p"] noOverrides [] none = .ok settings ∧ settings.jsonIndent = 2 := by
  have root : loadRoot (nestedTree []) ["p"] noOverrides
      ⟨.table [("json_indent", .integer 2)], Path.ofPlace ["p"]⟩ = .ok (Path.ofPlace ["p"]) :=
    except_bind_ok.2 ⟨_, rfl, resolve_nestedTree⟩
  exact ⟨_, except_bind_ok.2 ⟨_, base_nestedTree, except_bind_ok.2
    ⟨_, except_bind_ok.2 ⟨_, root, rfl⟩, rfl⟩⟩, rfl⟩

/-- Nothing is asked for but where the search begins. -/
theorem asked_nestedTree {path : Path} (h : Asked (nestedTree []) ["p"] noOverrides [] none path) :
    path = Path.ofPlace ["p"] := by
  have unstated : ∀ found, base (nestedTree []) ["p"] none = .ok found →
      found.directory = Path.ofPlace ["p"] ∧
        ∀ field path, stated? found.table field ≠ some path := by
    intro found hb
    rw [base_nestedTree] at hb
    cases hb
    exact ⟨rfl, fun field path stated => by cases field <;> cases stated⟩
  cases h with
  | beginning => rfl
  | given named => cases named
  | default _ hb => exact (unstated _ hb).1
  | relative _ hb stated => exact absurd stated ((unstated _ hb).2 _ _)
  | anchored _ hb stated => exact absurd stated ((unstated _ hb).2 _ _)
  | below hb _ _ _ stated => exact absurd stated ((unstated _ hb).2 _ _)

theorem differFarther_overshadowed :
    DifferFarther (nestedTree []) (nestedTree overshadowed) ["p"] (Path.ofPlace ["p"]) := by
  have above : Path.ofPlace [] ∈ (Path.ofPlace ["p"]).withParents := by decide
  refine ⟨fun place elsewhere => ?_, by decide⟩
  have apart : place ≠ projectPlace [] := by
    refine (elsewhere _ above).resolve_left fun reaches => ?_
    -- The nearest project file states the table, so the search does not go on.
    obtain he | ⟨passed, -⟩ := reaches_cons_iff.1 reaches
    · exact absurd he (by decide)
    · have found : search (nestedTree []) ["p"] (Path.ofPlace ["p"]) =
          firstFound (nestedTree []) ["p"] [Path.ofPlace []] := firstFound_of_passed passed
      have unfound : firstFound (nestedTree []) ["p"] [Path.ofPlace []] = .ok none := by cbv
      cases search_nestedTree.symm.trans (found.trans unfound)
  rw [node?, node?]
  split
  · rfl
  · show List.lookup place ((nestedTree []).entries) =
      List.lookup place ((nestedTree []).entries ++ overshadowed)
    rw [List.lookup_append, overshadowed, List.lookup_cons, beq_false_of_ne apart, List.lookup_nil,
      Option.or_none]

/-- The search ends at the project file of the directory, so what is above it is not even found
to be no UTF-8. -/
theorem search_ends_at_nearest_overshadowed : ∃ settings,
    load (nestedTree []) ["p"] noOverrides [] none = .ok settings ∧ settings.jsonIndent = 2 ∧
      load (nestedTree overshadowed) ["p"] noOverrides [] none = .ok settings ∧
      search (nestedTree overshadowed) ["p"] (Path.ofPlace []) =
        .error (.undecodable ⟨0, 1, 255, .invalidStart⟩) := by
  obtain ⟨settings, loaded, indented⟩ := load_nestedTree
  obtain ⟨-, -, -, -, -, farther⟩ :=
    search_ends_at_nearest (nestedTree []) ["p"] noOverrides [] none
  have home : (nestedTree []).Stands ["p"] :=
    ((stands_nil _).child ⟨by decide, by decide⟩).stands (by cbv)
  have fit : Fit ["p"] (nestedTree []) :=
    ⟨wellFormed_of_entries (by simp only [Path.IsProper]; decide), home,
      nulFree_of_entries (List.forall_mem_cons.2 ⟨⟨by decide, fun _ h => by cases h⟩,
        List.forall_mem_cons.2 ⟨⟨by decide, fun _ h => by cases h⟩,
          fun _ h => absurd h List.not_mem_nil⟩⟩)⟩
  have same := farther (nestedTree overshadowed) (Path.ofPlace ["p"]) fit (by decide)
    (fun path asked => by rw [asked_nestedTree asked, MeetsNoCircle]; cbv) (by cbv) (by decide)
    differFarther_overshadowed
  exact ⟨settings, loaded, indented, same.trans loaded, by cbv⟩

theorem holds_projectTree (content : Text) :
    Holds (projectTree content) [] (Path.ofPlace []) (Utf8.encode content) :=
  ⟨by cbv, by cbv⟩

/-- A project file with a whole number of 4301 digits. -/
def numerousText : Text := "big = ".toList ++ List.replicate 4301 '9' ++ ['\n']

set_option maxRecDepth 20000 in
/-- A numeral with more digits than are read ends the search with an error, although the project
file states nothing about any tools. -/
theorem search_numerous : search (projectTree numerousText) [] (Path.ofPlace []) =
    .error (.numeralTooLong 4301) := by
  have parsed : Toml.parse numerousText = .error (.numeralTooLong 4301) := rfl
  exact firstFound_eq_error_iff.2 ⟨_, reaches_self,
    .overlong ⟨_, _, holds_projectTree _, Utf8.decode_encode _, parsed⟩⟩

end Reimport.Settings
