import Reimport.Proofs.Recording
import Reimport.Walk

/-!
# The visits of a walk

A walk *is* a row of visits: it begins an entry, works on it in a scratch
directory of its own, records what came of it and goes on to the next one or
ends.  `Walk.visits` reads that row off the walk, each visit with the session in
which it was begun, and `Visit.outcome?` says what the entry came to, before
anything is counted or printed.

What a visit can do to the session is said once, in `Walk.Taken`: which marks
it prints, what it makes of the tally, and whether the walk goes on.  A run as a
whole is a `Walk.Course` of visits, and what holds of every run is proved by
induction on that.
-/
namespace Reimport

/-! ## What one visit can do -/

namespace Walk

theorem mild_makeScratch (parent : Path) : (makeScratch parent).Mild := by
  intro world failure after h
  simp only [makeScratch] at h
  split at h
  · cases h
  · cases h
    rfl

/-- How keeping artifacts goes, by how copying them to `target` has ended. -/
inductive Keeps (entry : Entry) (target : Path) (world : World) :
    EStateM.Result FileError FileTree (List FileTree.CopyFault) →
      EStateM.Result Failure World Unit → Prop where
  /-- They are all copied. -/
  | whole (tree : FileTree) :
    Keeps entry target world (.ok [] tree)
      (Act.log .info (.join ["Artifacts for ", Markup.escape entry.name, " preserved in [path]",
        Markup.escape target.text, "[/path]"]) { world with tree := tree })
  /-- Some of them cannot be copied. -/
  | incomplete (fault : FileTree.CopyFault) (faults : List FileTree.CopyFault) (tree : FileTree) :
    Keeps entry target world (.ok (fault :: faults) tree)
      (notKept entry (FileTree.CopyFault.report (fault :: faults)) { world with tree := tree })
  /-- The system refuses the copy. -/
  | refused (cause : SystemError) (path : Text) (tree : FileTree) :
    Keeps entry target world (.error (.system cause path) tree)
      (notKept entry (FileError.system cause path).message { world with tree := tree })
  /-- It ends with another mishap. -/
  | mishap {error : FileError} (other : ∀ cause path, error ≠ .system cause path)
    (tree : FileTree) :
    Keeps entry target world (.error error tree) (.error (.file error) { world with tree := tree })

/-- **Keeping artifacts goes by the copy of them.** -/
theorem keeps {walk : Walk} {artifacts : Path} (given : walk.artifacts = some artifacts)
    (index : Nat) (entry : Entry) (workdir : Path) (world : World) :
    ∃ copied kept,
      FileTree.copyTree world.cwd FileTree.pathLimit workdir (artifactPath artifacts index entry)
        world.tree = copied ∧
      walk.keepArtifacts index entry workdir world = kept ∧
      Keeps entry (artifactPath artifacts index entry) world copied kept := by
  refine ⟨_, _, rfl, rfl, ?_⟩
  rw [keepArtifacts, given]
  simp only
  cases FileTree.copyTree world.cwd FileTree.pathLimit workdir (artifactPath artifacts index entry)
      world.tree with
  | ok faults tree =>
    cases faults with
    | nil => exact .whole tree
    | cons fault faults => exact .incomplete fault faults tree
  | error error tree =>
    cases error with
    | system cause path => exact .refused cause path tree
    | embeddedNul => exact .mishap (by simp) tree
    | linkCycle path => exact .mishap (by simp) tree

theorem keepArtifacts_of_none {walk : Walk} (none : walk.artifacts = none) (index : Nat)
    (entry : Entry) (workdir : Path) : walk.keepArtifacts index entry workdir = pure () := by
  rw [keepArtifacts, none]

theorem mild_keepArtifacts (walk : Walk) (index : Nat) (entry : Entry) (workdir : Path) :
    (walk.keepArtifacts index entry workdir).Mild := by
  cases given : walk.artifacts with
  | none =>
    rw [keepArtifacts_of_none given]
    exact fun _ _ _ h => nomatch h
  | some artifacts =>
    intro world failure after h
    obtain ⟨_, _, -, ends, keeps⟩ := keeps given index entry workdir world
    rw [ends] at h
    cases keeps with
    | whole tree => exact Act.Mild.log _ _ _ failure after h
    | incomplete fault faults tree => exact Act.Mild.log _ _ _ failure after h
    | refused cause path tree => exact Act.Mild.log _ _ _ failure after h
    | mishap other tree =>
      cases h
      rfl

/-- Sends an entry on its round trip inside a new scratch directory, and counts
nothing. -/
def attempt (walk : Walk) (entry : Entry) : Act Outcome := do
  let workdir ← makeScratch walk.scratchParent
  walk.process entry workdir

/-- Begins an entry and takes it through a scratch directory of its own. -/
def take (walk : Walk) (index : Nat) (entry : Entry) : Step Bool := do
  Session.print progressMark []
  withScratch walk.scratchParent (walk.step index entry)

theorem print_progressMark (session : Session) :
    Session.print progressMark [] session =
      .ok () { session with stdout := session.stdout ++ progressMark } := rfl

/-- The marks on the standard output for an entry with a given outcome, or none. -/
def marks (outcome? : Option Outcome) : Text :=
  progressMark ++ outcome?.elim [] Session.recordMark

/-- The tally after an entry with a given outcome, or none. -/
def tallyAfter (tally : Tally) (outcome? : Option Outcome) : Tally :=
  outcome?.elim tally tally.after

@[simp] theorem marks_none : marks none = progressMark := rfl

theorem marks_some (outcome : Outcome) :
    marks (some outcome) = progressMark ++ Session.recordMark outcome := rfl

theorem marks_eq (outcome? : Option Outcome) :
    marks outcome? =
      progressMark ++ if outcome?.any Outcome.isPass then Session.passMark else [] := by
  cases outcome? <;> rfl

@[simp] theorem tallyAfter_none (tally : Tally) : tallyAfter tally none = tally := rfl

@[simp] theorem tallyAfter_some (tally : Tally) (outcome : Outcome) :
    tallyAfter tally (some outcome) = tally.after outcome := rfl

/-- What taking an entry does to a session, by the outcome that the entry came to,
if it came to one. -/
inductive Taken (session : Session) : Option Outcome → EStateM.Result Failure Session Bool → Prop
  /-- The outcome is recorded, and the walk goes on unless that halts it. -/
  | recorded {outcome : Outcome} {world : World} (whole : outcome.isBreakdown = false) :
    Taken session (some outcome) (.ok (session.tally.after outcome).halted
      ⟨world, session.stdout ++ marks (some outcome), session.tally.after outcome⟩)
  /-- A finding about the tools ends the walk: the entry broke down, or it had no
  outcome at all. -/
  | aborted {outcome? : Option Outcome} {failure : Failure} {world : World}
    (finding : failure.isAbort = true) (broken : ∀ o ∈ outcome?, o.isBreakdown = true) :
    Taken session outcome? (.error failure
      ⟨world, session.stdout ++ marks outcome?, session.tally.abort⟩)
  /-- A mishap in the work ends the walk. -/
  | lost {outcome? : Option Outcome} {failure : Failure} {world : World} {tally : Tally}
    (mishap : failure.isAbort = false)
    (tally_eq : tally = tallyAfter session.tally outcome? ∨
      tally = (tallyAfter session.tally outcome?).abort) :
    Taken session outcome? (.error failure ⟨world, session.stdout ++ marks outcome?, tally⟩)

/-- The outcome of an attempt, if it came to one. -/
def outcomeOf : EStateM.Result Failure World Outcome → Option Outcome
  | .ok outcome _ => some outcome
  | .error _ _ => none

/-- Where nothing is counted but a breakdown, giving the run up makes the same of the
tally before and after. -/
theorem abort_tallyAfter {outcome? : Option Outcome}
    (broken : ∀ o ∈ outcome?, o.isBreakdown = true) (tally : Tally) :
    (tallyAfter tally outcome?).abort = tally.abort := by
  cases outcome? with
  | none => rfl
  | some outcome =>
    have := broken outcome rfl
    cases outcome with
    | exportFailed _ => rfl
    | importFailed _ => rfl
    | passed _ => cases this
    | uncompilable _ => cases this
    | mismatched _ _ _ => cases this

/-- Gives the run up over a failure and keeps the artifacts. -/
def abandon (walk : Walk) (index : Nat) (entry : Entry) (workdir : Path) (failure : Failure) :
    Step Bool := do
  Session.giveUp
  Session.act (walk.keepArtifacts index entry workdir)
  throw failure

/-- Giving the run up over a failure ends with that failure, unless keeping the
artifacts meets a mishap. -/
theorem abandon_cases (walk : Walk) (index : Nat) (entry : Entry) (workdir : Path)
    (failure : Failure) (session : Session) :
    ∃ other world, (other = failure ∨ other.isAbort = false) ∧
      walk.abandon index entry workdir failure session =
        .error other ⟨world, session.stdout, session.tally.abort⟩ := by
  have given : walk.abandon index entry workdir failure session =
      (do Session.act (walk.keepArtifacts index entry workdir); throw failure)
        { session with tally := session.tally.abort } := rfl
  rw [given]
  rcases Session.act_cases (walk.keepArtifacts index entry workdir)
      { session with tally := session.tally.abort } with
    ⟨_, world, _, hr⟩ | ⟨other, world, hw, hr⟩
  · exact ⟨failure, world, .inl rfl, bind_of_ok hr⟩
  · exact ⟨other, world, .inr (mild_keepArtifacts walk index entry workdir _ _ _ hw),
      bind_of_error hr⟩

/-- The end of the work on an entry whose failure may be a finding about the
tools. -/
def settleFailure (walk : Walk) (index : Nat) (entry : Entry) (workdir : Path)
    (failure : Failure) : Step Bool := fun session =>
  if failure.isAbort then walk.abandon index entry workdir failure session
  else .error failure session

/-- The end of the work on an entry whose outcome is recorded. -/
def settleOutcome (walk : Walk) (index : Nat) (entry : Entry) (workdir : Path)
    (outcome : Outcome) (stop : Bool) : Step Bool := fun session =>
  if outcome.isMismatch then
    (do Session.act (walk.keepArtifacts index entry workdir); return stop) session
  else .ok stop session

theorem step_eq (walk : Walk) (index : Nat) (entry : Entry) (workdir : Path) (session : Session) :
    walk.step index entry workdir session =
      match (do
          let outcome ← Session.act (walk.process entry workdir)
          let stop ← Session.record (.outcome outcome)
          return (outcome, stop) : Step (Outcome × Bool)) session with
      | .ok (outcome, stop) session =>
        walk.settleOutcome index entry workdir outcome stop session
      | .error failure session => walk.settleFailure index entry workdir failure session := rfl

/-- The work on an entry that comes to an outcome. -/
theorem step_of_ok {walk : Walk} {index : Nat} {entry : Entry} {workdir : Path}
    {session : Session} {outcome : Outcome} {world : World}
    (h : walk.process entry workdir session.world = .ok outcome world) :
    walk.step index entry workdir session =
      match Session.record (.outcome outcome) { session with world := world } with
      | .ok stop session => walk.settleOutcome index entry workdir outcome stop session
      | .error failure session => walk.settleFailure index entry workdir failure session := by
  rw [step_eq, bind_of_ok (Session.act_of_ok h), bind_eq]
  cases Session.record (.outcome outcome) { session with world := world } <;> rfl

/-- The work on an entry that comes to no outcome. -/
theorem step_of_error {walk : Walk} {index : Nat} {entry : Entry} {workdir : Path}
    {session : Session} {failure : Failure} {world : World}
    (h : walk.process entry workdir session.world = .error failure world) :
    walk.step index entry workdir session =
      walk.settleFailure index entry workdir failure { session with world := world } := by
  rw [step_eq, bind_of_error (Session.act_of_error h)]

/-- The result of a step whose scratch directory is removed afterwards. -/
def cleared (path : Path) :
    EStateM.Result Failure Session Bool → EStateM.Result Failure Session Bool
  | .ok stop session => .ok stop { session with world := removeScratch path session.world }
  | .error failure session =>
    .error failure { session with world := removeScratch path session.world }

theorem Taken.cleared {session : Session} {outcome? : Option Outcome}
    {result : EStateM.Result Failure Session Bool} (h : Taken session outcome? result)
    (path : Path) : Taken session outcome? (Walk.cleared path result) := by
  cases h with
  | recorded whole => exact .recorded whole
  | aborted finding broken => exact .aborted finding broken
  | lost mishap tally_eq => exact .lost mishap tally_eq

theorem taken_settleFailure (walk : Walk) (index : Nat) (entry : Entry) (workdir : Path)
    {failure : Failure} {session : Session} {world : World} (outcome? : Option Outcome)
    (broken : failure.isAbort = true → ∀ o ∈ outcome?, o.isBreakdown = true) :
    Taken session outcome? (walk.settleFailure index entry workdir failure
      ⟨world, session.stdout ++ marks outcome?, tallyAfter session.tally outcome?⟩) := by
  unfold settleFailure
  by_cases ha : failure.isAbort = true
  · rw [if_pos ha]
    obtain ⟨other, after, ho, hr⟩ := walk.abandon_cases index entry workdir failure
      ⟨world, session.stdout ++ marks outcome?, tallyAfter session.tally outcome?⟩
    rw [hr]
    rcases ho with rfl | ho
    · simp only [abort_tallyAfter (broken ha)]
      exact .aborted ha (broken ha)
    · exact .lost ho (.inr rfl)
  · rw [if_neg ha]
    exact .lost (by simpa using ha) (.inl rfl)

/-- What the work on an entry does to a session in which its mark is printed. -/
theorem taken_step (walk : Walk) (index : Nat) (entry : Entry) (workdir : Path) (world : World)
    (session : Session) :
    Taken session (outcomeOf (walk.process entry workdir world))
      (walk.step index entry workdir ⟨world, session.stdout ++ progressMark, session.tally⟩) := by
  cases h : walk.process entry workdir world with
  | error failure after =>
    rw [step_of_error h]
    exact walk.taken_settleFailure index entry workdir none fun _ outcome ho => nomatch ho
  | ok outcome after =>
    rw [step_of_ok h]
    obtain ⟨last, hr⟩ := Session.record_eq outcome
      ⟨after, session.stdout ++ progressMark, session.tally⟩
    cases hf : outcome.finding? with
    | none =>
      have whole := Outcome.finding?_eq_none_iff.1 hf
      simp only [hr, hf, outcomeOf, settleOutcome, List.append_assoc, ← marks_some]
      split
      · rcases Session.act_cases (walk.keepArtifacts index entry workdir)
            ⟨last, session.stdout ++ marks (some outcome), session.tally.after outcome⟩ with
          ⟨_, kept, _, hk⟩ | ⟨failure, kept, hw, hk⟩
        · rw [bind_of_ok hk]
          exact .recorded whole
        · rw [bind_of_error hk]
          exact .lost (mild_keepArtifacts walk index entry workdir _ _ _ hw) (.inl rfl)
      · exact .recorded whole
    | some finding =>
      -- A breakdown is counted before it is explained, but prints no mark of its own.
      have broken := Outcome.isBreakdown_of_finding? hf
      have hm : session.stdout ++ progressMark = session.stdout ++ marks (some outcome) := by
        rw [marks_some, Session.recordMark_of_breakdown broken, List.append_nil]
      simp only [hr, hf, outcomeOf]
      rw [hm]
      exact walk.taken_settleFailure index entry workdir (some outcome)
        fun _ o ho => by cases ho; exact broken

theorem withScratch_of_ok {parent : Path} {body : Path → Step Bool} (session : Session)
    {path : Path} {world : World} (h : makeScratch parent session.world = .ok path world) :
    withScratch parent body session = cleared path (body path { session with world := world }) := by
  unfold withScratch
  rw [Session.act_of_ok h]
  simp only
  cases body path { session with world := world } <;> rfl

theorem withScratch_of_error {parent : Path} {body : Path → Step Bool} (session : Session)
    {failure : Failure} {world : World}
    (h : makeScratch parent session.world = .error failure world) :
    withScratch parent body session = .error failure { session with world := world } := by
  unfold withScratch
  rw [Session.act_of_error h]

/-- The session in which the mark of an entry is printed. -/
def begun (session : Session) : Session :=
  { session with stdout := session.stdout ++ progressMark }

theorem take_eq (walk : Walk) (index : Nat) (entry : Entry) (session : Session) :
    walk.take index entry session =
      withScratch walk.scratchParent (walk.step index entry) (begun session) := rfl

theorem attempt_eq (walk : Walk) (entry : Entry) (world : World) :
    walk.attempt entry world =
      (makeScratch walk.scratchParent >>= fun workdir => walk.process entry workdir) world := rfl

/-- **What one visit can do.**  Taking an entry does one of the things that
`Taken` lists, by the outcome of the attempt. -/
theorem taken (walk : Walk) (index : Nat) (entry : Entry) (session : Session) :
    Taken session (outcomeOf (walk.attempt entry session.world))
      (walk.take index entry session) := by
  rw [take_eq, attempt_eq]
  cases hs : makeScratch walk.scratchParent session.world with
  | ok workdir world =>
    rw [withScratch_of_ok (begun session) hs, bind_of_ok hs]
    exact (walk.taken_step index entry workdir world session).cleared workdir
  | error failure world =>
    rw [withScratch_of_error (begun session) hs, bind_of_error hs]
    exact Taken.lost (mild_makeScratch _ _ _ _ hs) (.inl (tallyAfter_none _).symm)

/-- A mishap that keeps an entry from an outcome ends the walk. -/
theorem take_of_mishap {walk : Walk} {entry : Entry} {session : Session} {failure : Failure}
    {world : World} (h : walk.attempt entry session.world = .error failure world)
    (mishap : failure.isAbort = false) (index : Nat) :
    ∃ after, walk.take index entry session = .error failure after := by
  rw [attempt_eq] at h
  rw [take_eq]
  rcases bind_error.1 h with hs | ⟨workdir, made, hs, hp⟩
  · rw [withScratch_of_error (begun session) hs]
    exact ⟨_, rfl⟩
  · have stepped : walk.step index entry workdir { begun session with world := made } =
        .error failure { begun session with world := world } := by
      rw [step_of_error hp, settleFailure, if_neg (by simp [mishap])]
    rw [withScratch_of_ok (begun session) hs, stepped]
    exact ⟨_, rfl⟩

/-! ## The row of visits -/

end Walk

/-- One entry that a walk has begun. -/
structure Visit where
  /-- The number of the entry in its corpus. -/
  index : Nat
  /-- The entry. -/
  entry : Entry
  /-- The session in which it was begun. -/
  start : Session

namespace Visit

/-- The outcome that the entry came to, if it came to one. -/
def outcome? (walk : Walk) (visit : Visit) : Option Outcome :=
  Walk.outcomeOf (walk.attempt visit.entry visit.start.world)

/-- The end of the visit. -/
def ending (walk : Walk) (visit : Visit) : EStateM.Result Failure Session Bool :=
  walk.take visit.index visit.entry visit.start

theorem taken (walk : Walk) (visit : Visit) :
    Walk.Taken visit.start (visit.outcome? walk) (visit.ending walk) :=
  Walk.taken walk visit.index visit.entry visit.start

end Visit

namespace Walk

/-- The visits of a walk over a corpus, counted from `index` on: as long as an entry
does not stop the walk, the next one is begun where it has left the session. -/
def visits (walk : Walk) (index : Nat) : List Entry → Session → List Visit
  | [], _ => []
  | entry :: rest, session =>
    ⟨index, entry, session⟩ ::
      match walk.take index entry session with
      | .ok false after => walk.visits (index + 1) rest after
      | _ => []

/-- A walk over a corpus from a session on, with its visits and its end. -/
inductive Course (walk : Walk) :
    Nat → List Entry → Session → List Visit → EStateM.Result Failure Session Unit → Prop
  /-- Nothing is left to visit. -/
  | done (index : Nat) (session : Session) : Course walk index [] session [] (.ok () session)
  /-- The entry does not stop the walk. -/
  | goesOn {index : Nat} {entry : Entry} {rest : List Entry} {session after : Session}
    {visits : List Visit} {result : EStateM.Result Failure Session Unit}
    (ending : (⟨index, entry, session⟩ : Visit).ending walk = .ok false after)
    (more : Course walk (index + 1) rest after visits result) :
    Course walk index (entry :: rest) session (⟨index, entry, session⟩ :: visits) result
  /-- The entry halts the walk. -/
  | halts {index : Nat} {entry : Entry} {rest : List Entry} {session after : Session}
    (ending : (⟨index, entry, session⟩ : Visit).ending walk = .ok true after) :
    Course walk index (entry :: rest) session [⟨index, entry, session⟩] (.ok () after)
  /-- The entry ends the walk by a failure. -/
  | fails {index : Nat} {entry : Entry} {rest : List Entry} {session after : Session}
    {failure : Failure}
    (ending : (⟨index, entry, session⟩ : Visit).ending walk = .error failure after) :
    Course walk index (entry :: rest) session [⟨index, entry, session⟩] (.error failure after)

theorem entries_cons (walk : Walk) (index : Nat) (entry : Entry) (rest : List Entry)
    (session : Session) :
    walk.entries index (entry :: rest) session =
      (walk.take index entry >>= fun stop =>
        if stop then pure () else walk.entries (index + 1) rest) session := by
  rw [entries, bind_of_ok (print_progressMark session), bind_eq, bind_eq, take_eq]
  rfl

/-- **A walk is its row of visits.** -/
theorem course (walk : Walk) (corpus : List Entry) (index : Nat) (session : Session) :
    Course walk index corpus session (walk.visits index corpus session)
      (walk.entries index corpus session) := by
  induction corpus generalizing index session with
  | nil => exact .done index session
  | cons entry rest ih =>
    rw [entries_cons, visits]
    cases ht : walk.take index entry session with
    | ok stop after =>
      rw [bind_of_ok ht]
      cases stop with
      | true => exact .halts ht
      | false => exact .goesOn ht (ih (index + 1) after)
    | error failure after =>
      rw [bind_of_error ht]
      exact .fails ht

end Walk
end Reimport
