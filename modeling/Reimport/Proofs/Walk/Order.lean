import Reimport.Proofs.FileTree.Agreement
import Reimport.Proofs.Text.Decimal
import Reimport.Proofs.Walk.Frame

/-!
# Entries do not influence each other

The work on an entry depends on the files and on nothing else that other entries leave: not
on what was launched or said before, and not on the order in which the files came to be
(`uniform_attempt`).  Where no artifacts are kept, every visit is begun with the files of the
first one (`Course.starts_agree`), so the outcome of an entry is the one it has by itself
(`outcomeOf_agrees`), and a run over the same entries in another order comes to the same
counters (`run_perm`).

A program that puts a link where an export is kept lets one entry change another
(`order_matters_through_link`).
-/
namespace Reimport

/-! ## Worlds with the same files -/

/-- Two worlds hold the same files; what was launched and said in them may differ. -/
structure World.Agrees (world other : World) : Prop where
  cwd : world.cwd = other.cwd
  tree : world.tree.Agrees other.tree

theorem World.Agrees.trans {world other third : World} (h : world.Agrees other)
    (h' : other.Agrees third) : world.Agrees third :=
  ⟨h.cwd.trans h'.cwd, h.tree.trans h'.tree⟩

/-- What the programs of a machine answer and do depends on how they are called and on the
files, and on nothing else. -/
structure Machine.Functional (machine : Machine) : Prop where
  answers : ∀ history history' launch tree other, tree.Agrees other →
    (machine.respond history launch tree).1 = (machine.respond history' launch other).1
  leaves : ∀ history history' launch tree other, tree.Agrees other →
    (machine.respond history launch tree).2.Agrees (machine.respond history' launch other).2

namespace Uniform
variable {α : Type}

theorem ask {question : FileTree → Place → Except FileError α}
    (h : ∀ tree other cwd, tree.Agrees other → question tree cwd = question other cwd) :
    Uniform World.Agrees (Act.ask question) := by
  intro world other agrees
  rw [Act.ask, Act.ask, agrees.cwd, h _ _ _ agrees.tree]
  split
  · exact .ok rfl agrees
  · exact .error agrees

theorem change {change : Place → FileTree.Change α}
    (h : ∀ cwd, Uniform FileTree.Agrees (change cwd)) :
    Uniform World.Agrees (Act.change change) := by
  intro world other agrees
  have changed := h other.cwd world.tree other.tree agrees.tree
  rw [Act.change, Act.change, agrees.cwd]
  generalize change other.cwd world.tree = result, change other.cwd other.tree = result' at changed
  cases changed with
  | ok hv tree => exact .ok hv ⟨rfl, tree⟩
  | error tree => exact .error ⟨rfl, tree⟩

theorem emit (text : Text) : Uniform World.Agrees (Act.emit text) :=
  fun _ _ agrees => .ok rfl ⟨agrees.cwd, agrees.tree⟩

theorem launch {machine : Machine} (functional : machine.Functional) (command : Command)
    (directory : Option Path) : Uniform World.Agrees (Act.launch machine command directory) :=
  fun _ _ agrees => .ok (functional.answers _ _ _ _ _ agrees.tree)
    ⟨agrees.cwd, functional.leaves _ _ _ _ _ agrees.tree⟩

/-! ## The work on an entry -/

theorem writeSections (entry : Entry) (root : Path) (sources : List Section) :
    Uniform World.Agrees (MarkerSplit.writeSections entry root sources) := by
  induction sources with
  | nil => exact .pure _
  | cons source rest ih =>
    refine .bind ?_ fun _ => ih
    refine .bind (.ask fun _ _ _ agrees => agrees.canonical _) fun target => ?_
    have written : Uniform World.Agrees (do
        Act.change fun cwd => FileTree.makePath cwd target.parent
        Act.change fun cwd => FileTree.write cwd .append target (Utf8.encode source.body)) :=
      .bind (.change fun _ => FileTree.uniform_makePath _) fun _ =>
        .change fun _ => FileTree.uniform_write _ _ _
    split
    · exact .bind (.throw _) fun _ => written
    · exact written

theorem split (entry : Entry) (workdir : Path) :
    Uniform World.Agrees (MarkerSplit.split entry workdir) := by
  refine .bind (.ask fun _ _ _ agrees => agrees.read _) fun content => ?_
  split
  · exact .pure _
  split
  · exact .pure _
  · exact .bind (.ask fun _ _ _ agrees => agrees.canonical _) fun root =>
      .bind (writeSections entry root _) fun _ => .pure _

section Programs
variable {machine : Machine} (functional : machine.Functional)
include functional

theorem run (command : Command) (directory : Option Path) :
    Uniform World.Agrees (Solc.run machine command directory) :=
  .bind (.launch functional _ _) fun _ => .pure _

theorem check (solc : Solc) (entry : Entry) (files : List Path) (workdir : Path) :
    Uniform World.Agrees (RoundTrip.check (solc.compiler machine) entry files workdir) := by
  have keep : ∀ name content, Uniform World.Agrees (RoundTrip.keep workdir name content) :=
    fun name content => .change fun _ => FileTree.uniform_write _ _ _
  refine .bind (.bind (run functional _ _) fun _ => .pure _) fun accepted => ?_
  split
  · refine .bind (run functional _ _) fun exported => .bind (keep _ _) fun _ => ?_
    split
    · exact .pure _
    refine .bind (.bind (keep _ _) fun _ => run functional _ _) fun reexported =>
      .bind (keep _ _) fun _ => ?_
    split
    · exact .pure _
    · simp only
      split <;> exact .pure _
  · exact .pure _

end Programs
end Uniform

/-! ## Tallies -/

/-- Outcomes can be counted in any order. -/
theorem Tally.after_comm (tally : Tally) (first second : Outcome) :
    (tally.after first).after second = (tally.after second).after first := by
  cases first <;> cases second <;> simp [Tally.after, Tally.abort, Bool.or_comm]

theorem Tally.afterAll_perm {outcomes others : List Outcome} (perm : outcomes.Perm others)
    (tally : Tally) : tally.afterAll outcomes = tally.afterAll others :=
  perm.foldl_eq' (fun first _ second _ tally => Tally.after_comm tally first second) tally

/-! ## New directories -/

namespace Walk
variable {tree other : FileTree} {cwd : Place} {parent : Path}

/-- Nothing usable is at the path of the directory with a number. -/
def IsFree (tree : FileTree) (cwd : Place) (parent : Path) (number : Nat) : Prop :=
  ∃ error, tree.status cwd (scratchPath parent number) = .error error

/-- The path of a number that is not free leads on from where that of its directory leads, to
an entry of the tree. -/
theorem entry_of_taken {number : Nat} (h : ¬ IsFree tree cwd parent number) :
    ∃ here, tree.Reaches cwd parent here ∧
      here ++ [scratchStem ++ Text.decimalNat number] ∈ tree.entries.map Prod.fst := by
  cases hs : tree.status cwd (scratchPath parent number) with
  | error e => exact absurd ⟨e, hs⟩ h
  | ok node =>
    obtain ⟨place, hp, hn⟩ := except_bind_ok.1 hs
    obtain ⟨count, leads⟩ := FileTree.leads_of_locate (FileTree.placeOf_eq_ok hp).2
    obtain ⟨here, before, after, hb, ha⟩ := leads.split
    refine ⟨here, ⟨before, hb⟩, ?_⟩
    cases ha with
    | down _ _ more =>
      cases more
      have stored : tree.node? (here ++ [scratchStem ++ Text.decimalNat number]) = some node := by
        split at hn <;> simp_all
      exact List.mem_map_of_mem (FileTree.mem_entries_of_node? stored (by simp))
    | through _ hl _ _ => exact FileTree.mem_entries_of_linkTarget? hl

/-- **Of more numbers than the tree has entries, one is free.** -/
theorem exists_free (tree : FileTree) (cwd : Place) (parent : Path) :
    ∃ number ≤ tree.entries.length, IsFree tree cwd parent number := by
  by_contra taken
  push Not at taken
  obtain ⟨here, reaches, -⟩ := entry_of_taken (taken 0 (Nat.zero_le _))
  have listed : (List.range (tree.entries.length + 1)).map
      (fun number => here ++ [scratchStem ++ Text.decimalNat number]) ⊆
        tree.entries.map Prod.fst := by
    intro place hm
    obtain ⟨number, hr, rfl⟩ := List.mem_map.1 hm
    obtain ⟨here', reaches', hm⟩ := entry_of_taken
      (taken number (Nat.le_of_lt_succ (List.mem_range.1 hr)))
    rwa [reaches'.unique reaches] at hm
  have different : ((List.range (tree.entries.length + 1)).map
      (fun number => here ++ [scratchStem ++ Text.decimalNat number])).Nodup := by
    refine List.nodup_range.map fun first second he => ?_
    have he := congrArg Text.ofDecimalDigits
      (List.append_cancel_left (List.singleton_inj.1 (List.append_cancel_left he)))
    rwa [Text.ofDecimalDigits_decimalNat, Text.ofDecimalDigits_decimalNat] at he
  have := List.Nodup.length_le_of_subset different listed
  simp at this

/-- The number of a new directory is the lowest one that is free. -/
theorem freshNumber_least (tree : FileTree) (cwd : Place) (parent : Path) :
    IsFree tree cwd parent (freshNumber tree cwd parent) ∧
      ∀ number < freshNumber tree cwd parent, ¬ IsFree tree cwd parent number := by
  have free : ∀ number, (!(tree.status cwd (scratchPath parent number)).isOk) = true ↔
      IsFree tree cwd parent number := by
    intro number
    rw [IsFree]
    cases tree.status cwd (scratchPath parent number) <;> simp [Except.isOk, Except.toBool]
  have fresh : freshNumber tree cwd parent = ((List.range (tree.entries.length + 1)).find?
      fun number => !(tree.status cwd (scratchPath parent number)).isOk).getD 0 := by
    refine congrArg (·.getD 0) (congrArg (List.find? · _) (funext fun number => ?_))
    cases tree.status cwd (scratchPath parent number) <;> rfl
  obtain ⟨number, hn, hf⟩ := exists_free tree cwd parent
  cases hfind : (List.range (tree.entries.length + 1)).find?
      fun number => !(tree.status cwd (scratchPath parent number)).isOk with
  | none =>
    rw [List.find?_eq_none] at hfind
    exact absurd ((free number).2 hf) (hfind number (List.mem_range.2 (Nat.lt_succ_of_le hn)))
  | some first =>
    have least : freshNumber tree cwd parent = first := by rw [fresh, hfind, Option.getD_some]
    rw [List.find?_range_eq_some] at hfind
    rw [least]
    refine ⟨(free first).1 hfind.1, fun number hl hf => ?_⟩
    have taken := hfind.2.2 number hl
    rw [(free number).2 hf] at taken
    cases taken

theorem freshNumber_congr
    (same : ∀ number, IsFree tree cwd parent number ↔ IsFree other cwd parent number) :
    freshNumber tree cwd parent = freshNumber other cwd parent := by
  obtain ⟨free, least⟩ := freshNumber_least tree cwd parent
  obtain ⟨free', least'⟩ := freshNumber_least other cwd parent
  rcases Nat.lt_trichotomy (freshNumber tree cwd parent) (freshNumber other cwd parent) with h | h | h
  · exact absurd ((same _).1 free) (least' _ h)
  · exact h
  · exact absurd ((same _).2 free') (least _ h)

theorem freshNumber_agrees (agrees : tree.Agrees other) :
    freshNumber tree cwd parent = freshNumber other cwd parent := by
  refine freshNumber_congr fun number => ?_
  rw [IsFree, IsFree, agrees.status]

theorem uniform_makeScratch (parent : Path) : Uniform World.Agrees (makeScratch parent) := by
  intro world other agrees
  have made : Alike Eq FileTree.Agrees
      (FileTree.makeDirectory other.cwd
        (scratchPath parent (freshNumber other.tree other.cwd parent)) world.tree)
      (FileTree.makeDirectory other.cwd
        (scratchPath parent (freshNumber other.tree other.cwd parent)) other.tree) :=
    FileTree.uniform_makeDirectory _ _ _ agrees.tree
  simp only [makeScratch, agrees.cwd, freshNumber_agrees agrees.tree]
  generalize FileTree.makeDirectory other.cwd _ world.tree = result,
    FileTree.makeDirectory other.cwd _ other.tree = result' at made
  cases made with
  | ok _ tree => exact .ok rfl ⟨rfl, tree⟩
  | error tree => exact .error ⟨rfl, tree⟩

/-- **The work on an entry cannot tell worlds with the same files apart.** -/
theorem uniform_attempt {machine : Machine} (functional : machine.Functional) (solc : Solc)
    (artifacts : Option Path) (scratchParent : Path) (entry : Entry) :
    Uniform World.Agrees ((byMarkers solc machine artifacts scratchParent).attempt entry) := by
  refine .bind (uniform_makeScratch _) fun workdir => .bind (.split entry workdir) fun result =>
    .bind ?_ fun sources => .check functional solc entry sources workdir
  cases result with
  | multiple _ => exact .pure _
  | single _ => exact .pure _
  | undecodable _ => exact .bind (.emit _) fun _ => .pure _
  | unknown => exact .throw _

/-! ## The visits -/

/-- Where links could be that lead an export out of the directory it is kept in. -/
def exportPlaces (names : List Name) : Prop :=
  names = [exportedName] ∨ names = [RoundTrip.obtainedName]

section Visits
variable {walk : Walk} {free : List Name → Prop} {index : Nat} {corpus : List Entry}
  {session : Session} {visits : List Visit} {result : EStateM.Result Failure Session Unit}

/-- Where no artifacts are kept, a visit leaves the files as they were. -/
theorem agrees_ending (contained : walk.Contained cwd free)
    (plain : Path.dot ∉ walk.scratchParent.parts) (kept : walk.artifacts = none) {visit : Visit}
    {result : EStateM.Result Failure Session Bool} (ending : visit.ending walk = result)
    (hcwd : visit.start.world.cwd = cwd) (wellFormed : visit.start.world.tree.WellFormed)
    (home : visit.start.world.tree.Stands cwd) :
    visit.start.world.Agrees (reached result).world := by
  subst ending
  obtain ⟨hafter, ⟨failure, hm, he⟩ | ⟨workdir, made, root, hm, cleared⟩⟩ :=
    ending_leaves contained plain hcwd wellFormed home
  · rw [he]
    exact ⟨rfl, fun _ => rfl⟩
  · obtain ⟨scratch, tree, built, working, unkept, he⟩ := cleared
    have same : built.Agrees tree := by
      intro place
      rcases unkept.added place with he | ⟨⟨_, ⟨_, hm, _⟩, _⟩, _⟩ | ⟨⟨_, ⟨_, hm, _⟩, _⟩, _⟩
      · exact he
      · rw [kept] at hm
        cases hm
      · rw [kept] at hm
        cases hm
    refine ⟨hcwd.trans hafter.symm, fun place => ?_⟩
    rw [he, same.removeBelow root place, scratch.removed working]

/-- **Every visit is begun with the files of the first one.** -/
theorem Course.starts_agree (h : Course walk index corpus session visits result)
    (contained : walk.Contained session.world.cwd free)
    (plain : Path.dot ∉ walk.scratchParent.parts) (kept : walk.artifacts = none)
    (wellFormed : session.world.tree.WellFormed)
    (home : session.world.tree.Stands session.world.cwd) :
    ∀ visit ∈ visits, session.world.Agrees visit.start.world := by
  induction h with
  | done _ _ => exact fun _ hm => (nomatch hm)
  | @goesOn index entry rest session after visits result ending more ih =>
    have agrees := agrees_ending contained plain kept ending rfl wellFormed home
    have same : session.world.cwd = after.world.cwd := agrees.cwd
    intro visit hm
    rcases List.mem_cons.1 hm with rfl | hm
    · exact ⟨rfl, fun _ => rfl⟩
    · exact agrees.trans (ih (same ▸ contained) (agrees.tree.wellFormed wellFormed)
        (same ▸ agrees.tree.stands home) visit hm)
  | halts _ =>
    intro visit hm
    rw [List.mem_singleton.1 hm]
    exact ⟨rfl, fun _ => rfl⟩
  | fails _ =>
    intro visit hm
    rw [List.mem_singleton.1 hm]
    exact ⟨rfl, fun _ => rfl⟩

/-- An entry comes to the same outcome in worlds with the same files. -/
theorem outcomeOf_agrees {entry : Entry} (uniform : Uniform World.Agrees (walk.attempt entry))
    {world other : World} (agrees : world.Agrees other) :
    outcomeOf (walk.attempt entry world) = outcomeOf (walk.attempt entry other) := by
  have alike := uniform world other agrees
  generalize walk.attempt entry world = result, walk.attempt entry other = result' at alike
  cases alike with
  | ok hv _ => rw [outcomeOf, outcomeOf, hv]
  | error _ => rfl

/-- Where no artifacts are kept, a visit that comes to an outcome ends well, unless that is a
breakdown. -/
theorem ending_of_whole (kept : walk.artifacts = none) {visit : Visit} {outcome : Outcome}
    (ho : visit.outcome? walk = some outcome) (whole : outcome.isBreakdown = false) :
    ∃ stop after, visit.ending walk = .ok stop after := by
  rw [Visit.outcome?, attempt_eq] at ho
  cases hm : makeScratch walk.scratchParent visit.start.world with
  | error failure after =>
    rw [bind_of_error hm] at ho
    cases ho
  | ok workdir made =>
    rw [bind_of_ok hm] at ho
    cases hp : walk.process visit.entry workdir made with
    | error failure after =>
      rw [hp] at ho
      cases ho
    | ok other after =>
      rw [hp] at ho
      cases ho
      rw [Visit.ending, take_eq, withScratch_of_ok (begun visit.start) hm, step_of_ok hp]
      obtain ⟨last, hr⟩ := Session.record_eq outcome { begun visit.start with world := after }
      rw [Outcome.finding?_eq_none_iff.2 whole] at hr
      rw [hr]
      simp only [settleOutcome, keepArtifacts, kept]
      split <;> exact ⟨_, _, rfl⟩

/-- A course whose visits all end well has visited all entries and counted their outcomes, if
it does not halt on a mismatch. -/
theorem Course.complete (h : Course walk 0 corpus session visits result)
    (ht : session.tally = openTally corpus false)
    (goes : ∀ visit ∈ visits, ∃ stop after, visit.ending walk = .ok stop after) :
    visits.map Visit.entry = corpus ∧ ∃ after, result = .ok () after ∧
      after.tally = (openTally corpus false).afterAll (walk.outcomes visits) := by
  cases result with
  | ok _ after =>
    rcases h.account_returns ht with ⟨hall, -⟩ | ⟨halts, -⟩
    · exact ⟨hall, after, rfl, ht ▸ h.tally_of_ok⟩
    · cases halts
  | error failure after =>
    obtain ⟨earlier, last, rfl, hlast⟩ := h.failsLast
    obtain ⟨stop, other, he⟩ := goes last (by simp)
    rw [hlast] at he
    cases he

/-- Visits whose outcomes are a matter of their entries, as pairs and as outcomes. -/
theorem outcomes_of_own {own : Entry → Option Outcome}
    (owned : ∀ visit ∈ visits, visit.outcome? walk = own visit.entry) :
    (visits.map fun visit => (visit.entry, visit.outcome? walk)) =
        (visits.map Visit.entry).map (fun entry => (entry, own entry)) ∧
      walk.outcomes visits = (visits.map Visit.entry).filterMap own := by
  rw [outcomes, List.map_map, List.filterMap_map]
  exact ⟨List.map_congr_left fun visit hm => by rw [owned visit hm]; rfl,
    List.filterMap_congr fun visit hm => owned visit hm⟩

end Visits

/-! ## Runs over the same entries -/

/-- **Two runs over the same entries** agree on what they come to. -/
structure SameFindings (walk : Walk) (corpus others : List Entry) (label : Text)
    (session : Session) : Prop where
  /-- Every entry that is visited comes to an outcome, and in the other run to the same one. -/
  outcomes : ((walk.runVisits corpus label session).map fun visit =>
      (visit.entry, visit.outcome? walk)).Perm
    ((walk.runVisits others label session).map fun visit => (visit.entry, visit.outcome? walk))
  found : ∀ visit ∈ walk.runVisits corpus label session, (visit.outcome? walk).isSome = true
  /-- No visit of the other run fails either. -/
  goes : ∀ visit ∈ walk.runVisits others label session,
    ∃ stop after, visit.ending walk = .ok stop after
  /-- The tallies at the end are equal. -/
  tally : (reached (walk.run others label session)).tally =
    (reached (walk.run corpus label session)).tally
  /-- Unless their opening line cannot be shown, all entries are visited and both runs return
  the same counters. -/
  returns : ∀ line, Console.styled (openingLine corpus label) Console.newline = .ok line →
    (walk.runVisits corpus label session).map Visit.entry = corpus ∧
      ∃ statistics after after', walk.run corpus label session = .ok statistics after ∧
        walk.run others label session = .ok statistics after'

section Findings
variable {walk : Walk} {corpus others : List Entry} {label line : Text} {world : World}
  {stdout : Text} {visits further : List Visit}
  {result result' : EStateM.Result Failure Session Unit}

/-- If no visit to some entries fails and outcomes are a matter of their entries, no visit to
the same entries fails. -/
theorem goes_of_own {own : Entry → Option Outcome} (kept : walk.artifacts = none)
    (goes : ∀ visit ∈ visits, ∃ stop after, visit.ending walk = .ok stop after)
    (owned : ∀ visit ∈ visits, visit.outcome? walk = own visit.entry)
    (owned' : ∀ visit ∈ further, visit.outcome? walk = own visit.entry)
    (listed : ∀ visit ∈ further, visit.entry ∈ visits.map Visit.entry) :
    ∀ visit ∈ further, ∃ stop after, visit.ending walk = .ok stop after := by
  intro visit hm
  obtain ⟨first, hf, he⟩ := List.mem_map.1 (listed visit hm)
  obtain ⟨_, _, hend⟩ := goes first hf
  obtain ⟨outcome, ho, whole, -⟩ := ending_ok hend
  rw [owned first hf, he, ← owned' visit hm] at ho
  exact ending_of_whole kept ho whole

/-- Two runs that end at their opening line. -/
theorem sameFindings_of_unopened {fault fault' : Markup.Fault} {session : Session}
    (perm : corpus.Perm others)
    (hl : Console.styled (openingLine corpus label) Console.newline = .error fault)
    (visited : walk.runVisits corpus label session = [])
    (run : walk.run corpus label session = .error (.markup fault) (withSources corpus session))
    (visited' : walk.runVisits others label session = [])
    (run' : walk.run others label session =
      .error (.markup fault') (withSources others session)) :
    SameFindings walk corpus others label session := by
  refine ⟨by rw [visited, visited'], fun _ hm => ?_, fun _ hm => ?_, ?_, fun _ hs => ?_⟩
  · rw [visited] at hm
    cases hm
  · rw [visited'] at hm
    cases hm
  · rw [run, run', reached_error, reached_error, withSources, withSources, perm.length_eq]
  · rw [hl] at hs
    cases hs

/-- Two runs in which outcomes are a matter of their entries. -/
theorem sameFindings_of_courses (own : Entry → Option Outcome) (perm : corpus.Perm others)
    (kept : walk.artifacts = none)
    (owned : ∀ {corpus : List Entry} {visits : List Visit}
      {result : EStateM.Result Failure Session Unit},
      Course walk 0 corpus (opened corpus line (freshSession world stdout false)) visits result →
      ∀ visit ∈ visits, visit.outcome? walk = own visit.entry)
    (course : Course walk 0 corpus (opened corpus line (freshSession world stdout false))
      (walk.runVisits corpus label (freshSession world stdout false)) result)
    (run : walk.run corpus label (freshSession world stdout false) = finished result)
    (course' : Course walk 0 others (opened others line (freshSession world stdout false))
      (walk.runVisits others label (freshSession world stdout false)) result')
    (run' : walk.run others label (freshSession world stdout false) = finished result')
    (goes : ∀ visit ∈ walk.runVisits corpus label (freshSession world stdout false),
      ∃ stop after, visit.ending walk = .ok stop after) :
    SameFindings walk corpus others label (freshSession world stdout false) := by
  obtain ⟨hall, after, rfl, htally⟩ := course.complete rfl goes
  have goes' := goes_of_own kept goes (owned course) (owned course') fun visit hm => by
    rw [hall]
    exact perm.mem_iff.2 (course'.entries_prefix.subset (List.mem_map_of_mem hm))
  obtain ⟨hall', after', rfl, htally'⟩ := course'.complete rfl goes'
  have found := outcomes_of_own (owned course)
  have found' := outcomes_of_own (owned course')
  rw [hall] at found
  rw [hall'] at found'
  have tally : after'.tally = after.tally := by
    rw [htally, htally', found.2, found'.2, openTally, openTally, perm.length_eq,
      Tally.afterAll_perm (perm.filterMap own)]
  refine ⟨?_, fun visit hm => ?_, goes', ?_, fun _ _ => ⟨hall, after.tally.statistics, _,
    { after' with stdout := after'.stdout ++ Console.newline }, run, ?_⟩⟩
  · rw [found.1, found'.1]
    exact perm.map _
  · obtain ⟨_, _, hend⟩ := goes visit hm
    obtain ⟨outcome, ho, -⟩ := ending_ok hend
    rw [ho]
    rfl
  · rw [run, run']
    exact tally
  · rw [← tally]
    exact run'

end Findings

/-- **The order of the entries does not matter** to what they come to, if no visit fails and no
program puts a link where an export is kept. -/
theorem run_perm {machine : Machine} {scratchParent : Path} (world : World)
    (functional : machine.Functional) (confined : machine.Confined world.cwd exportPlaces)
    (plain : Path.dot ∉ scratchParent.parts) (wellFormed : world.tree.WellFormed)
    (home : world.tree.Stands world.cwd) (solc : Solc) {corpus others : List Entry}
    (perm : corpus.Perm others) (label stdout : Text)
    (goes : ∀ visit ∈ (byMarkers solc machine none scratchParent).runVisits corpus label
        (freshSession world stdout false), ∃ stop after,
      visit.ending (byMarkers solc machine none scratchParent) = .ok stop after) :
    SameFindings (byMarkers solc machine none scratchParent) corpus others label
      (freshSession world stdout false) := by
  have contained := contained_byMarkers confined (.inl rfl) (.inr rfl) solc none scratchParent
  have uniform := uniform_attempt functional solc none scratchParent
  generalize hwalk : byMarkers solc machine none scratchParent = walk at *
  have kept : walk.artifacts = none := by rw [← hwalk]; rfl
  have hparent : walk.scratchParent = scratchParent := by rw [← hwalk]; rfl
  -- The outcome of an entry is the one that it has by itself in the world of the run.
  have owned : ∀ {corpus : List Entry} {line : Text} {visits : List Visit}
      {result : EStateM.Result Failure Session Unit},
      Course walk 0 corpus (opened corpus line (freshSession world stdout false)) visits result →
      ∀ visit ∈ visits, visit.outcome? walk = outcomeOf (walk.attempt visit.entry world) :=
    fun course visit hm => (outcomeOf_agrees (uniform _) (course.starts_agree contained
      (hparent ▸ plain) kept wellFormed home visit hm)).symm
  have line : openingLine others label = openingLine corpus label := by
    rw [openingLine, openingLine, perm.length_eq]
  rcases walk.run_cases corpus label (freshSession world stdout false) with
      ⟨fault, hl, hv, hr⟩ | ⟨shown, result, hl, course, hr⟩ <;>
    rcases walk.run_cases others label (freshSession world stdout false) with
      ⟨fault', hl', hv', hr'⟩ | ⟨shown', result', hl', course', hr'⟩ <;>
    rw [line, hl] at hl' <;> cases hl'
  · exact sameFindings_of_unopened perm hl hv hr hv' hr'
  · exact sameFindings_of_courses (fun entry => outcomeOf (walk.attempt entry world)) perm kept
      owned course hr course' hr' goes

/-- The visits of a run that returns all end well. -/
theorem goes_of_run_ok {walk : Walk} {corpus : List Entry} {label : Text} {session after : Session}
    {statistics : Statistics} (h : walk.run corpus label session = .ok statistics after) :
    ∀ visit ∈ walk.runVisits corpus label session,
      ∃ stop after, visit.ending walk = .ok stop after := by
  rcases walk.run_cases corpus label session with ⟨fault, _, _, hr⟩ | ⟨line, result, _, course, hr⟩
  · rw [h] at hr
    cases hr
  · cases result with
    | ok _ _ => exact course.returns.1
    | error _ _ =>
      rw [h] at hr
      cases hr

/-- The entries `/a` and `/b`. -/
def pair : List Entry := [⟨Path.ofPlace [['a']]⟩, ⟨Path.ofPlace [['b']]⟩]

/-- A session over these entries, both empty. -/
def pairSession : Session :=
  freshSession ⟨⟨[([['a']], .file []), ([['b']], .file [])]⟩, [], [], []⟩ [] false

/-- The walk over them, with a compiler of a given machine. -/
def pairWalk (machine : Machine) : Walk := byMarkers rootSolc machine none (Path.ofPlace [])

/-- The counters that a run over entries returns, if it returns. -/
def statistics? (machine : Machine) (corpus : List Entry) : Option Statistics :=
  match (pairWalk machine).run corpus ".sol" pairSession with
  | .ok statistics _ => some statistics
  | .error _ _ => none

theorem run_of_statistics? {machine : Machine} {corpus : List Entry} {statistics : Statistics}
    (h : statistics? machine corpus = some statistics) :
    ∃ after, (pairWalk machine).run corpus ".sol" pairSession = .ok statistics after := by
  rw [statistics?] at h
  split at h
  · rename_i after hr
    cases h
    exact ⟨after, hr⟩
  · cases h

/-- A compiler that rejects `/b` and gives an empty export for everything else. -/
def pickyMachine : Machine :=
  ⟨fun _ launch tree =>
    (.finished (if launch.command.contains "/b" then 1 else 0) [] [], tree)⟩

theorem run_perm_pair :
    SameFindings (pairWalk pickyMachine) pair pair.reverse ".sol" pairSession ∧
      ∃ after, (pairWalk pickyMachine).run pair ".sol" pairSession =
        .ok ⟨1, 0, 1, 2, false, false⟩ after := by
  have functional : pickyMachine.Functional := ⟨fun _ _ _ _ _ _ => rfl, fun _ _ _ _ _ h => h⟩
  have confined : pickyMachine.Confined [] exportPlaces :=
    ⟨fun _ _ _ h => h, fun _ _ _ _ _ _ _ _ => rfl, fun _ _ _ _ _ _ _ _ h => h⟩
  have wellFormed : pairSession.world.tree.WellFormed :=
    FileTree.wellFormed_of_entries (by simp only [Path.IsProper]; decide)
  have returned : statistics? pickyMachine pair = some ⟨1, 0, 1, 2, false, false⟩ := by cbv
  obtain ⟨after, hr⟩ := run_of_statistics? returned
  have same : SameFindings (pairWalk pickyMachine) pair pair.reverse ".sol" pairSession :=
    run_perm pairSession.world functional confined (by decide) wellFormed
      (FileTree.stands_nil _) rootSolc (List.reverse_perm pair).symm ".sol" [] (goes_of_run_ok hr)
  exact ⟨same, after, hr⟩

/-- The tree with a link to `/c` where an export will be kept in a directory, if nothing is
there yet. -/
def plant (tree : FileTree) : Option Path → FileTree
  | none => tree
  | some directory =>
    match tree.placeOf [] true directory with
    | .error _ => tree
    | .ok root =>
      match tree.node? root, tree.node? (root ++ [exportedName]) with
      | some .directory, none => tree.put (root ++ [exportedName]) (.link "/c")
      | _, _ => tree

/-- A compiler that rejects `/b` if `/c` is there, and that puts a link to `/c` in its working
directory when it works on `/a`. -/
def plantingMachine : Machine :=
  ⟨fun _ launch tree =>
    (.finished (if launch.command.contains "/b" && (tree.node? [['c']]).isSome then 1 else 0) [] [],
      if launch.command.contains "/a" then plant tree launch.directory else tree)⟩

theorem agrees_plant {tree other : FileTree} (agrees : tree.Agrees other)
    (directory : Option Path) : (plant tree directory).Agrees (plant other directory) := by
  cases directory with
  | none => exact agrees
  | some directory =>
    rw [plant, plant, agrees.placeOf]
    cases other.placeOf [] true directory with
    | error _ => exact agrees
    | ok root =>
      simp only [agrees _]
      split
      · exact agrees.put (by simp) _
      · exact agrees

theorem functional_planting : plantingMachine.Functional := by
  refine ⟨fun _ _ launch tree other agrees => ?_, fun _ _ launch tree other agrees => ?_⟩
  · simp only [plantingMachine, agrees _]
  · simp only [plantingMachine]
    split
    · exact agrees_plant agrees _
    · exact agrees

/-- Its programs change nothing outside of the directory they are started in. -/
theorem confined_planting : plantingMachine.Confined [] fun _ => False := by
  have planted : ∀ (tree : FileTree) directory,
      (tree.WellFormed → (plant tree (some directory)).WellFormed) ∧
      ∀ root, tree.placeOf [] true directory = .ok root → ∀ place, ¬ Below root place →
        (plant tree (some directory)).node? place = tree.node? place := by
    intro tree directory
    rw [plant]
    cases hp : tree.placeOf [] true directory with
    | error _ => exact ⟨id, fun _ h => nomatch h⟩
    | ok root =>
      simp only
      split
      · rename_i hd hn
        have stands := (FileTree.reached_of_placeOf (FileTree.stands_nil tree) hp).stands hd
        refine ⟨fun wellFormed => (FileTree.vacant_of_none hn).wellFormed_put wellFormed
          (stands.child ⟨by decide, by decide⟩), fun other ho place outside => ?_⟩
        cases ho
        rw [FileTree.node?_put _ (by simp), if_neg]
        rintro rfl
        exact outside ⟨List.prefix_append _ _, by simp⟩
      · exact ⟨id, fun _ _ _ _ => rfl⟩
  refine ⟨fun _ launch tree h => ?_, fun _ command directory tree root hp place outside => ?_,
    fun _ _ _ _ _ _ _ hf => hf.elim⟩
  · simp only [plantingMachine]
    split
    · cases launch.directory with
      | none => exact h
      | some directory => exact (planted tree directory).1 h
    · exact h
  · simp only [plantingMachine]
    split
    · exact (planted tree directory).2 root hp place outside
    · rfl

/-- **A link in the scratch directory lets one entry change another**: after `/a` the compiler
rejects `/b`, although its programs write nothing outside of their working directory and
depend on nothing but their arguments and the files. -/
theorem order_matters_through_link :
    plantingMachine.Functional ∧ plantingMachine.Confined [] (fun _ => False) ∧
      pairSession.world.tree.WellFormed ∧ pair.Perm pair.reverse ∧
      (∃ after, (pairWalk plantingMachine).run pair ".sol" pairSession =
        .ok ⟨1, 0, 1, 2, false, false⟩ after) ∧
      ∃ after, (pairWalk plantingMachine).run pair.reverse ".sol" pairSession =
        .ok ⟨2, 0, 0, 2, false, false⟩ after := by
  refine ⟨functional_planting, confined_planting,
    FileTree.wellFormed_of_entries (by simp only [Path.IsProper]; decide),
    (List.reverse_perm pair).symm, run_of_statistics? ?_, run_of_statistics? ?_⟩ <;> cbv

end Walk

end Reimport
