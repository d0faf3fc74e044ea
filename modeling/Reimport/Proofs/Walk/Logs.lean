import Reimport.CommandLine.Check
import Reimport.Proofs.Walk.Frame

/-!
# What a run launches and says only grows

What was launched and what was said is never taken back.  This is so for every action of the
splitters and of the compiler (`Walk.logging_check`), so it is for what a visit does
(`extends_ending`), and from any visit of a run on to its end (`Course.extends_from`).
-/
namespace Reimport

/-! ## Logs that grow -/

/-- The logs of a world go on from given ones. -/
def Logged (launches : List Launch) (stderr : Text) (world : World) : Prop :=
  launches <+: world.launches ∧ stderr <+: world.stderr

theorem lasting_logged (launches : List Launch) (stderr : Text) :
    Lasting (Logged launches stderr) :=
  fun _ _ h => ⟨h.1, h.2.trans (List.prefix_append _ _)⟩

/-- An action adds to the logs and takes nothing away from them. -/
def Act.Grows {α : Type} (action : Act α) : Prop :=
  ∀ launches stderr, Maintains (Logged launches stderr) action

namespace Act.Grows
variable {α β : Type}

theorem pure (value : α) : Grows (pure value) := fun _ _ => .pure value

theorem throw (failure : Failure) : Grows (throw failure : Act α) := fun _ _ => .throw failure

theorem bind {first : Act α} {next : α → Act β} (hf : Grows first) (hn : ∀ a, Grows (next a)) :
    Grows (first >>= next) := fun launches stderr =>
  .bind (hf launches stderr) fun a => hn a launches stderr

theorem ask (question : FileTree → Place → Except FileError α) : Grows (Act.ask question) :=
  fun _ _ => .ask question

theorem change (change : Place → FileTree.Change α) : Grows (Act.change change) := by
  intro launches stderr world h
  rw [Act.change]
  split <;> exact h

theorem launch (machine : Machine) (command : Command) (directory : Option Path) :
    Grows (Act.launch machine command directory) :=
  fun _ _ _ h => ⟨h.1.trans (List.prefix_append _ _), h.2⟩

theorem emit (text : Text) : Grows (Act.emit text) :=
  fun _ _ => .emit (lasting_logged _ _) text

theorem writeSections (entry : Entry) (root : Path) (sources : List Section) :
    Grows (MarkerSplit.writeSections entry root sources) := by
  induction sources with
  | nil => exact .pure _
  | cons source rest ih =>
    refine .bind (.bind (.ask _) fun target => ?_) fun _ => ih
    split
    · exact .bind (.throw _) fun _ => .bind (.change _) fun _ => .change _
    · exact .bind (.change _) fun _ => .change _

theorem split (entry : Entry) (workdir : Path) : Grows (MarkerSplit.split entry workdir) := by
  refine .bind (.ask _) fun content => ?_
  split
  · exact .pure _
  split
  · exact .pure _
  · exact .bind (.ask _) fun root => .bind (writeSections entry root _) fun _ => .pure _

theorem script (splitter : SplitScript) (machine : Machine) (entry : Entry) (workdir : Path) :
    Grows (splitter.split machine entry workdir) := by
  refine .bind (.launch _ _ _) fun response => ?_
  cases response with
  | refused _ => exact .throw _
  | finished status stdout stderr =>
    simp only
    generalize SplitResult.ofStatus entry status stdout = answer
    cases answer with
    | ok result =>
      split
      · exact .bind (.emit _) fun _ => .pure result
      · exact .pure result
    | error fault =>
      split
      · exact .bind (.emit _) fun _ => .throw _
      · exact .throw _

theorem run (machine : Machine) (command : Command) (directory : Option Path) :
    Grows (Solc.run machine command directory) :=
  .bind (.launch _ _ _) fun _ => .pure _

theorem makeScratch (parent : Path) : Grows (Walk.makeScratch parent) := by
  intro launches stderr world h
  simp only [Walk.makeScratch]
  split <;> exact h

theorem keepArtifacts (walk : Walk) (index : Nat) (entry : Entry) (workdir : Path) :
    Grows (walk.keepArtifacts index entry workdir) := by
  intro launches stderr world h
  have said : ∀ tree level message, Logged launches stderr
      (reached (Act.log level message { world with tree := tree })) :=
    fun tree level message => Maintains.log (lasting_logged _ _) level message _ h
  cases given : walk.artifacts with
  | none =>
    rw [Walk.keepArtifacts_of_none given]
    exact h
  | some artifacts =>
    obtain ⟨_, _, -, ends, keeps⟩ := Walk.keeps given index entry workdir world
    rw [ends]
    cases keeps with
    | whole tree => exact said tree _ _
    | incomplete fault faults tree => exact said tree _ _
    | refused cause path tree => exact said tree _ _
    | mishap other tree => exact h

end Act.Grows

/-- One session goes on from another: nothing that was launched or said is taken back. -/
structure Session.Extends (session other : Session) : Prop where
  launches : session.world.launches <+: other.world.launches
  stderr : session.world.stderr <+: other.world.stderr
  stdout : session.stdout <+: other.stdout

namespace Session.Extends
variable {first second third : Session}

theorem refl (session : Session) : session.Extends session :=
  ⟨List.prefix_rfl, List.prefix_rfl, List.prefix_rfl⟩

theorem trans (h : first.Extends second) (h' : second.Extends third) : first.Extends third :=
  ⟨h.launches.trans h'.launches, h.stderr.trans h'.stderr, h.stdout.trans h'.stdout⟩

end Session.Extends

namespace Walk

/-- A walk whose splitter and compiler only add to the logs. -/
structure Logging (walk : Walk) : Prop where
  split : ∀ entry workdir, (walk.splitter.split entry workdir).Grows
  accepts : ∀ files workdir, (walk.compiler.accepts files workdir).Grows
  exportFiles : ∀ files workdir, (walk.compiler.exportFiles files workdir).Grows
  reexport : ∀ exported workdir, (walk.compiler.reexport exported workdir).Grows

theorem logging_of_split {splitter : Splitter}
    (split : ∀ entry workdir, (splitter.split entry workdir).Grows) (solc : Solc) (machine : Machine)
    (artifacts : Option Path) (scratchParent : Path) :
    (⟨splitter, solc.compiler machine, artifacts, scratchParent⟩ : Walk).Logging where
  split := split
  accepts _ _ := .bind (.run _ _ _) fun _ => .pure _
  exportFiles _ _ := .run _ _ _
  reexport _ _ := .bind (.change _) fun _ => .run _ _ _

/-- **Every walk of the command is one**, whatever its settings are. -/
theorem logging_check (host : CommandLine.Host) (settings : Settings) :
    (CommandLine.Check.walk host settings).Logging := by
  refine logging_of_split (fun entry workdir => ?_) _ _ _ _
  rw [CommandLine.Check.splitter]
  split
  · exact .script _ _ entry workdir
  · exact .split entry workdir

variable {walk : Walk}

/-! ## What is launched and said from a visit on -/

section Logs
variable {launches : List Launch} {stderr : Text}

theorem logged_removeScratch (path : Path) {world : World} (h : Logged launches stderr world) :
    Logged launches stderr (removeScratch path world) := by
  rw [removeScratch]
  split <;> exact h

variable (logging : walk.Logging)
include logging

/-- The work on an entry only adds to the logs. -/
theorem grows_process (entry : Entry) (workdir : Path) : (walk.process entry workdir).Grows := by
  have keep : ∀ name content, (RoundTrip.keep workdir name content).Grows := fun _ _ => .change _
  refine .bind (logging.split entry workdir) fun result => .bind ?_ fun sources =>
    .bind (logging.accepts sources workdir) fun accepted => ?_
  · cases result with
    | multiple _ => exact .pure _
    | single _ => exact .pure _
    | undecodable _ => exact .bind (.emit _) fun _ => .pure _
    | unknown => exact .throw _
  split
  · refine .bind (logging.exportFiles sources workdir) fun exported => .bind (keep _ _) fun _ => ?_
    split
    · exact .pure _
    refine .bind (logging.reexport exported.stdout workdir) fun reexported =>
      .bind (keep _ _) fun _ => ?_
    split
    · exact .pure _
    · simp only
      split <;> exact .pure _
  · exact .pure _

theorem logged_step (index : Nat) (entry : Entry) (workdir : Path) {session : Session}
    (h : Logged launches stderr session.world) :
    Logged launches stderr (reached (walk.step index entry workdir session)).world :=
  of_step (lasting_logged _ _) (fun _ h => h)
    (Act.Grows.keepArtifacts walk index entry workdir launches stderr)
    (grows_process logging entry workdir launches stderr session.world h)

/-- A visit only adds to what was launched and said. -/
theorem extends_ending {visit : Visit} {result : EStateM.Result Failure Session Bool}
    (ending : visit.ending walk = result) : visit.start.Extends (reached result) := by
  subst ending
  have logged : Logged visit.start.world.launches visit.start.world.stderr
      (reached (visit.ending walk)).world := by
    have made := Act.Grows.makeScratch walk.scratchParent _ _ visit.start.world
      ⟨List.prefix_rfl, List.prefix_rfl⟩
    rw [Visit.ending, take_eq]
    cases hm : makeScratch walk.scratchParent visit.start.world with
    | error failure world =>
      rw [hm] at made
      rw [withScratch_of_error (begun visit.start) hm]
      exact made
    | ok workdir world =>
      rw [hm] at made
      rw [withScratch_of_ok (begun visit.start) hm, world_cleared]
      exact logged_removeScratch workdir (logged_step logging visit.index visit.entry workdir made)
  exact ⟨logged.1, logged.2, ending_stdout walk visit ▸ List.prefix_append _ _⟩

end Logs

section Courses
variable {index : Nat} {corpus : List Entry} {session : Session} {visits : List Visit}
  {result : EStateM.Result Failure Session Unit}

/-- Visits only add to what was launched and said. -/
theorem Course.extends (logging : walk.Logging)
    (h : Course walk index corpus session visits result) : session.Extends (reached result) := by
  induction h with
  | done _ session => exact .refl session
  | goesOn ending _ ih => exact (extends_ending logging ending).trans ih
  | halts ending => exact extends_ending logging ending
  | fails ending => exact extends_ending logging ending

/-- From any of its visits on, a walk only adds to what was launched and said. -/
theorem Course.extends_from (logging : walk.Logging)
    (h : Course walk index corpus session visits result) {visit : Visit} (hm : visit ∈ visits) :
    (reached (visit.ending walk)).Extends (reached result) := by
  induction h with
  | done _ _ => cases hm
  | goesOn ending more ih =>
    rcases List.mem_cons.1 hm with rfl | hm
    · rw [ending]
      exact more.extends logging
    · exact ih hm
  | halts ending =>
    rw [List.mem_singleton.1 hm, ending]
    exact .refl _
  | fails ending =>
    rw [List.mem_singleton.1 hm, ending]
    exact .refl _

end Courses

end Walk
end Reimport
