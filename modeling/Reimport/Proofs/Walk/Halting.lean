import Reimport.Proofs.RoundTrip.Calls
import Reimport.Proofs.Walk.Artifacts
import Reimport.Proofs.Walk.Logs
import Reimport.Proofs.Walk.Order

/-!
# Halting on the first mismatch

A run that is told to halt on a mismatch goes like one that is not: what an entry comes to does
not depend on the counters, and the counters differ in their flags alone, until an entry
mismatches (`ending_told`).  If none does, the two runs are the same throughout
(`Course.told`).  Otherwise the one is halted where the other meets its first mismatch
(`Course.told_of_first`), and since the other one only adds to what has been launched and said
until then, the logs of the first are a part of its logs (`run_halting`).

Keeping the artifacts of the entry that mismatched may still fail, over a path that holds a NUL
(`halting_run_fails`).
-/
namespace Reimport

/-! ## Counters with another flag -/

/-- The counters of a run that is told to halt on a mismatch, and has been if `stopped`. -/
def Statistics.told (stopped : Bool) (statistics : Statistics) : Statistics :=
  { statistics with
    exitOnFirstFailure := true
    haltedEarly := statistics.haltedEarly || stopped }

namespace Tally

/-- The tally of a run that is told to halt on a mismatch, and has been if `stopped`. -/
def told (stopped : Bool) (tally : Tally) : Tally :=
  { tally with statistics := tally.statistics.told stopped }

/-- Only a mismatch halts what is told to halt on it. -/
theorem told_after (tally : Tally) (outcome : Outcome) :
    (tally.told false).after outcome = (tally.after outcome).told outcome.isMismatch := by
  cases outcome <;> simp [told, Statistics.told, after, abort, Outcome.isMismatch]

end Tally

/-- The session of a run that is told to halt on a mismatch, and has been if `stopped`. -/
def Session.told (stopped : Bool) (session : Session) : Session :=
  { session with tally := session.tally.told stopped }

/-- The visit of a run that is told to halt on a mismatch. -/
def Visit.told (visit : Visit) : Visit := { visit with start := visit.start.told false }

/-- One session is that of a run that is told to halt. -/
def Told (stopped : Bool) (session other : Session) : Prop := other = session.told stopped

/-- One of two answers is that of a run that may have been halted. -/
def Stops (stopped stop other : Bool) : Prop := other = (stop || stopped)

/-! ## One visit of both runs -/

/-- What touches the world alone cannot tell the two runs apart. -/
theorem uniform_act {α : Type} (stopped : Bool) (action : Act α) :
    Uniform (Told stopped) (Session.act action) := by
  rintro session _ rfl
  rw [Session.act, Session.act, show (session.told stopped).world = session.world from rfl]
  cases action session.world with
  | ok value world => exact .ok rfl rfl
  | error failure world => exact .error rfl

theorem record_told (outcome : Outcome) (session : Session) :
    Alike (Stops outcome.isMismatch) (Told outcome.isMismatch)
      (Session.record (.outcome outcome) session)
      (Session.record (.outcome outcome) (session.told false)) := by
  have counted : Told outcome.isMismatch (session.counted outcome)
      ((session.told false).counted outcome) :=
    congrArg (Session.mk session.world session.stdout) (Tally.told_after session.tally outcome)
  cases outcome with
  | passed entry => exact .ok rfl (congrArg (Session.mk session.world _)
      (Tally.told_after session.tally (.passed entry)))
  | uncompilable _ => exact .ok rfl counted
  | mismatched entry reproduction diff =>
    rw [Session.record_mismatched, Session.record_mismatched]
    exact (uniform_act true _ _ _ counted).bind fun _ _ session _ _ hr => hr ▸ .ok rfl rfl
  | exportFailed breakdown =>
    rw [Session.record_exportFailed, Session.record_exportFailed]
    exact (uniform_act false _ _ _ counted).bind fun _ _ session _ _ hr => hr ▸ .error rfl
  | importFailed breakdown =>
    rw [Session.record_importFailed, Session.record_importFailed]
    exact (uniform_act false _ _ _ counted).bind fun _ _ session _ _ hr => hr ▸ .error rfl

namespace Walk
variable {walk : Walk}

theorem settleFailure_told (stopped : Bool) (index : Nat) (entry : Entry) (workdir : Path)
    (failure : Failure) (session : Session) :
    Alike (Stops stopped) (Told stopped)
      (walk.settleFailure index entry workdir failure session)
      (walk.settleFailure index entry workdir failure (session.told stopped)) := by
  rw [settleFailure, settleFailure]
  split
  · have given : Told stopped { session with tally := session.tally.abort }
        { session.told stopped with tally := (session.told stopped).tally.abort } := rfl
    exact (uniform_act stopped (walk.keepArtifacts index entry workdir) _ _ given).bind
      fun _ _ session _ _ hr => .error hr
  · exact .error rfl

theorem settleOutcome_told {stopped stop other : Bool} (hs : Stops stopped stop other) (index : Nat)
    (entry : Entry) (workdir : Path) (outcome : Outcome) (session : Session) :
    Alike (Stops stopped) (Told stopped)
      (walk.settleOutcome index entry workdir outcome stop session)
      (walk.settleOutcome index entry workdir outcome other (session.told stopped)) := by
  rw [settleOutcome, settleOutcome]
  split
  · exact (uniform_act stopped (walk.keepArtifacts index entry workdir) _ _ rfl).bind
      fun _ _ session _ _ hr => .ok hs hr
  · exact .ok hs rfl

theorem step_told (index : Nat) (entry : Entry) (workdir : Path) (session : Session) :
    Alike (Stops ((outcomeOf (walk.process entry workdir session.world)).any Outcome.isMismatch))
      (Told ((outcomeOf (walk.process entry workdir session.world)).any Outcome.isMismatch))
      (walk.step index entry workdir session)
      (walk.step index entry workdir (session.told false)) := by
  cases hp : walk.process entry workdir session.world with
  | error failure world =>
    have told : walk.process entry workdir (session.told false).world = .error failure world := hp
    rw [step_of_error hp, step_of_error told]
    exact settleFailure_told false index entry workdir failure { session with world := world }
  | ok outcome world =>
    have recorded := record_told outcome { session with world := world }
    have told : walk.process entry workdir (session.told false).world = .ok outcome world := hp
    rw [step_of_ok hp, step_of_ok told]
    rw [show { session.told false with world := world } =
      Session.told false { session with world := world } from rfl]
    generalize Session.record (.outcome outcome) { session with world := world } = result,
      Session.record (.outcome outcome) (Session.told false { session with world := world }) =
        result' at recorded
    cases recorded with
    | ok hs hr => exact hr ▸ settleOutcome_told hs index entry workdir outcome _
    | error hr => exact hr ▸ settleFailure_told _ index entry workdir _ _

theorem cleared_told {stopped : Bool} {result result' : EStateM.Result Failure Session Bool}
    (h : Alike (Stops stopped) (Told stopped) result result') (path : Path) :
    Alike (Stops stopped) (Told stopped) (cleared path result) (cleared path result') := by
  cases h with
  | ok hs hr =>
    cases hr
    exact .ok hs rfl
  | error hr =>
    cases hr
    exact .error rfl

/-- **What a visit does in both runs.**  It ends alike, but that a mismatch halts the run that is
told to halt. -/
theorem ending_told (walk : Walk) (visit : Visit) :
    Alike (Stops (walk.mismatchedIn visit)) (Told (walk.mismatchedIn visit))
      (visit.ending walk) (visit.told.ending walk) := by
  rw [mismatchedIn, Visit.outcome?, attempt_eq, Visit.ending, Visit.ending, take_eq, take_eq]
  cases hm : makeScratch walk.scratchParent visit.start.world with
  | error failure world =>
    rw [withScratch_of_error (begun visit.start) hm,
      withScratch_of_error (begun visit.told.start) hm, bind_of_error hm]
    exact .error rfl
  | ok workdir world =>
    rw [withScratch_of_ok (begun visit.start) hm, withScratch_of_ok (begun visit.told.start) hm,
      bind_of_ok hm]
    exact cleared_told (step_told visit.index visit.entry workdir
      { begun visit.start with world := world }) workdir

/-! ## A row of visits of both runs -/

section Courses
variable {index : Nat} {corpus : List Entry} {session : Session} {visits : List Visit}
  {result : EStateM.Result Failure Session Unit}

/-- A walk over a corpus has one row of visits and one end. -/
theorem Course.eq_visits (h : Course walk index corpus session visits result) :
    visits = walk.visits index corpus session ∧ result = walk.entries index corpus session := by
  induction h with
  | done _ _ => exact ⟨rfl, rfl⟩
  | goesOn ending _ ih =>
    have taken : walk.take _ _ _ = _ := ending
    rw [entries_cons, bind_of_ok taken, Walk.visits, taken]
    exact ⟨congrArg _ ih.1, ih.2⟩
  | halts ending =>
    have taken : walk.take _ _ _ = _ := ending
    rw [entries_cons, bind_of_ok taken, Walk.visits, taken]
    exact ⟨rfl, rfl⟩
  | fails ending =>
    have taken : walk.take _ _ _ = _ := ending
    rw [entries_cons, bind_of_error taken, Walk.visits, taken]
    exact ⟨rfl, rfl⟩

theorem Course.unique {others : List Visit} {result' : EStateM.Result Failure Session Unit}
    (h : Course walk index corpus session visits result)
    (h' : Course walk index corpus session others result') : others = visits ∧ result' = result :=
  ⟨h'.eq_visits.1.trans h.eq_visits.1.symm, h'.eq_visits.2.trans h.eq_visits.2.symm⟩

/-- The end of a row of visits, in a run that is told to halt. -/
def toldEnd {α β : Type} (stopped : Bool) (value : α → β) :
    EStateM.Result Failure Session α → EStateM.Result Failure Session β
  | .ok a session => .ok (value a) (session.told stopped)
  | .error failure session => .error failure (session.told stopped)

/-- The end of a visit that does not mismatch, in both runs. -/
theorem ending_told_of_unmismatched {visit : Visit} (h : walk.mismatchedIn visit = false) :
    visit.told.ending walk = toldEnd false id (visit.ending walk) := by
  have alike := ending_told walk visit
  rw [h] at alike
  generalize visit.ending walk = result, visit.told.ending walk = result' at alike
  cases alike with
  | ok hs hr => rw [hs, hr, Bool.or_false]; rfl
  | error hr => rw [hr]; rfl

/-- The end of a visit that mismatches, in the run that is told to halt. -/
theorem ending_told_of_mismatched {visit : Visit} (h : walk.mismatchedIn visit = true) :
    visit.told.ending walk = toldEnd true (fun _ => true) (visit.ending walk) := by
  have alike := ending_told walk visit
  rw [h] at alike
  generalize visit.ending walk = result, visit.told.ending walk = result' at alike
  cases alike with
  | ok hs hr => rw [hs, hr, Bool.or_true]; rfl
  | error hr => rw [hr]; rfl

/-- **Without a mismatch both runs are the same**, by induction on the visits. -/
theorem Course.told (h : Course walk index corpus session visits result)
    (unmismatched : ∀ visit ∈ visits, walk.mismatchedIn visit = false) :
    Course walk index corpus (session.told false) (visits.map Visit.told)
      (toldEnd false id result) := by
  induction h with
  | done index session => exact .done index _
  | goesOn ending _ ih =>
    have told := ending_told_of_unmismatched (unmismatched _ List.mem_cons_self)
    rw [ending] at told
    exact .goesOn told (ih fun visit hm => unmismatched visit (List.mem_cons_of_mem _ hm))
  | halts ending =>
    have told := ending_told_of_unmismatched (unmismatched _ List.mem_cons_self)
    rw [ending] at told
    exact .halts told
  | fails ending =>
    have told := ending_told_of_unmismatched (unmismatched _ List.mem_cons_self)
    rw [ending] at told
    exact .fails told

/-- **The first mismatch is the end of the run that is told to halt.** -/
theorem Course.told_of_first (h : Course walk index corpus session visits result)
    {earlier later : List Visit} {first : Visit} (hv : visits = earlier ++ first :: later)
    (unmismatched : ∀ visit ∈ earlier, walk.mismatchedIn visit = false)
    (mismatched : walk.mismatchedIn first = true) :
    Course walk index corpus (session.told false) ((earlier ++ [first]).map Visit.told)
      (toldEnd true (fun _ => ()) (first.ending walk)) := by
  induction h generalizing earlier with
  | done _ _ => simp at hv
  | @goesOn index entry rest session after visits result ending more ih =>
    cases earlier with
    | nil =>
      obtain ⟨rfl, rfl⟩ := List.cons_eq_cons.1 hv
      have told := ending_told_of_mismatched mismatched
      rw [ending] at told ⊢
      exact .halts told
    | cons visit earlier =>
      obtain ⟨rfl, hmore⟩ := List.cons_eq_cons.1 hv
      have told := ending_told_of_unmismatched (unmismatched _ List.mem_cons_self)
      rw [ending] at told
      exact .goesOn told (ih hmore fun visit hm => unmismatched visit (List.mem_cons_of_mem _ hm))
  | halts ending =>
    obtain ⟨rfl, he⟩ | ⟨-, he⟩ := List.singleton_eq_append_iff.1 hv
    · obtain ⟨rfl, -⟩ := List.cons_eq_cons.1 he
      have told := ending_told_of_mismatched mismatched
      rw [ending] at told ⊢
      exact .halts told
    · cases he
  | fails ending =>
    obtain ⟨rfl, he⟩ | ⟨-, he⟩ := List.singleton_eq_append_iff.1 hv
    · obtain ⟨rfl, -⟩ := List.cons_eq_cons.1 he
      have told := ending_told_of_mismatched mismatched
      rw [ending] at told ⊢
      exact .fails told
    · cases he

end Courses

/-! ## The end of an entry that mismatches -/

/-- The outcomes of a kind are those of the visits that come to one of it. -/
theorem countP_outcomes (walk : Walk) (kind : Outcome → Bool) (visits : List Visit) :
    (walk.outcomes visits).countP kind =
      visits.countP fun visit => (visit.outcome? walk).any kind := by
  rw [outcomes, List.countP_filterMap]
  refine List.countP_congr fun visit _ => ?_
  cases visit.outcome? walk <;> rfl

section Ends
variable {visit : Visit}

/-- A visit that mismatches tries to keep the artifacts, once the mismatch is explained. -/
theorem ending_of_mismatch {workdir : Path} {made after : World} {outcome : Outcome}
    (hm : makeScratch walk.scratchParent visit.start.world = .ok workdir made)
    (hp : walk.process visit.entry workdir made = .ok outcome after)
    (mismatch : outcome.isMismatch = true) :
    ∃ session, session.world.cwd = after.cwd ∧ session.world.tree = after.tree ∧
      visit.ending walk = cleared workdir
        ((Session.act (walk.keepArtifacts visit.index visit.entry workdir) >>= fun _ =>
          pure (visit.start.tally.after outcome).halted) session) := by
  have files := Maintains.record (lasting_onFiles after.cwd (· = after.tree)) outcome
    { begun visit.start with world := after } ⟨rfl, rfl⟩
  obtain ⟨said, hr⟩ := Session.record_eq outcome { begun visit.start with world := after }
  have whole : outcome.finding? = none := by
    cases outcome with
    | mismatched _ _ _ => rfl
    | _ => cases mismatch
  rw [whole] at hr
  replace hr : Session.record (.outcome outcome) { begun visit.start with world := after } =
    .ok _ _ := hr
  rw [hr] at files
  refine ⟨_, files.1, files.2, ?_⟩
  rw [Visit.ending, take_eq, withScratch_of_ok (begun visit.start) hm,
    step_of_ok hp, hr]
  simp only [settleOutcome, mismatch, if_true]
  rfl

/-- **Nothing but a NUL in a path of the artifacts keeps a visit that mismatches from ending
well.** -/
theorem error_of_mismatched {failure : Failure} {after : Session}
    (mismatched : walk.mismatchedIn visit = true)
    (h : visit.ending walk = .error failure after) :
    walk.artifacts ≠ none ∧ failure = .file .embeddedNul := by
  rw [mismatchedIn, Visit.outcome?, attempt_eq] at mismatched
  cases hm : makeScratch walk.scratchParent visit.start.world with
  | error failure world =>
    rw [bind_of_error hm] at mismatched
    cases mismatched
  | ok workdir made =>
    rw [bind_of_ok hm] at mismatched
    cases hp : walk.process visit.entry workdir made with
    | error failure world =>
      rw [hp] at mismatched
      cases mismatched
    | ok outcome world =>
      rw [hp] at mismatched
      obtain ⟨session, -, -, hend⟩ := ending_of_mismatch hm hp mismatched
      rw [hend] at h
      rcases Session.act_cases (walk.keepArtifacts visit.index visit.entry workdir) session with
        ⟨_, kept, -, hk⟩ | ⟨failure, kept, hw, hk⟩
      · rw [bind_of_ok hk] at h
        cases h
      · rw [bind_of_error hk] at h
        cases h
        exact keepArtifacts_error hw

/-- A NUL in a path of the artifacts is the end of keeping them. -/
theorem keepArtifacts_of_nul {index : Nat} {entry : Entry} {workdir artifacts : Path} {world : World}
    {tree : FileTree} (ha : walk.artifacts = some artifacts)
    (hc : FileTree.copyTree world.cwd FileTree.pathLimit workdir
      (artifactPath artifacts index entry) world.tree = .error .embeddedNul tree) :
    walk.keepArtifacts index entry workdir world =
      .error (.file .embeddedNul) { world with tree := tree } := by
  rw [keepArtifacts, ha]
  simp only [hc]

end Ends

/-! ## Both runs -/

/-- A visit that fails is the end of its run. -/
theorem run_of_error {corpus : List Entry} {label : Text} {session after : Session} {visit : Visit}
    {failure : Failure} (hm : visit ∈ walk.runVisits corpus label session)
    (he : visit.ending walk = .error failure after) :
    walk.run corpus label session = .error failure after := by
  rcases walk.run_cases corpus label session with ⟨fault, _, hv, _⟩ | ⟨line, result, _, course, hr⟩
  · rw [hv] at hm
    cases hm
  · rw [hr, course.result_of_error hm he]
    rfl

/-- **How a run that is told to halt on a mismatch ends** where the other run, with given visits
before it, meets its first mismatch. -/
structure HaltsAt (walk : Walk) (corpus : List Entry) (label : Text) (world : World)
    (stdout : Text) (earlier : List Visit) (first : Visit) : Prop where
  /-- It visits the same entries up to that one and no more. -/
  visits : walk.runVisits corpus label (freshSession world stdout true) =
    (earlier ++ [first]).map Visit.told
  /-- They come to the same outcomes. -/
  outcomes : (walk.runVisits corpus label (freshSession world stdout true)).map
      (fun visit => (visit.entry, visit.outcome? walk)) =
    (earlier ++ [first]).map fun visit => (visit.entry, visit.outcome? walk)
  /-- It has counted one failure. -/
  failed : (reached (walk.run corpus label
    (freshSession world stdout true))).tally.statistics.failed = 1
  /-- The other one goes on from there. -/
  goesOn : (reached (first.ending walk)).Extends
    (reached (walk.run corpus label (freshSession world stdout false)))
  /-- It returns the counters of the other run after that entry, as a run that has been halted,
  and closes the line.  But if the artifacts are kept along a path that holds a NUL, then both
  runs end there over that. -/
  ends :
    (∃ stop after, first.ending walk = .ok stop after ∧
      walk.run corpus label (freshSession world stdout true) =
        .ok (after.tally.statistics.told true)
          ⟨after.world, after.stdout ++ Console.newline, after.tally.told true⟩) ∨
    walk.artifacts ≠ none ∧ ∃ after, first.ending walk = .error (.file .embeddedNul) after ∧
      walk.run corpus label (freshSession world stdout true) =
        .error (.file .embeddedNul) (after.told true) ∧
      walk.run corpus label (freshSession world stdout false) = .error (.file .embeddedNul) after

/-- **A run that is told to halt on a mismatch and one that is not**, over the same entries in
the same world. -/
structure Halting (walk : Walk) (corpus : List Entry) (label : Text) (world : World)
    (stdout : Text) : Prop where
  /-- Without a mismatch they are the same, except for what they were told. -/
  same : (∀ visit ∈ walk.runVisits corpus label (freshSession world stdout false),
      walk.mismatchedIn visit = false) →
    walk.runVisits corpus label (freshSession world stdout true) =
        (walk.runVisits corpus label (freshSession world stdout false)).map Visit.told ∧
      walk.run corpus label (freshSession world stdout true) =
        toldEnd false (Statistics.told false)
          (walk.run corpus label (freshSession world stdout false))
  /-- The first mismatch is the end of the one. -/
  halts : ∀ earlier first later,
    walk.runVisits corpus label (freshSession world stdout false) = earlier ++ first :: later →
    (∀ visit ∈ earlier, walk.mismatchedIn visit = false) → walk.mismatchedIn first = true →
    HaltsAt walk corpus label world stdout earlier first

/-- What follows from a course of visits of either run. -/
theorem haltsAt_of_courses {corpus : List Entry} {label line : Text} {world : World} {stdout : Text}
    (logging : walk.Logging) {result told : EStateM.Result Failure Session Unit}
    (course : Course walk 0 corpus (opened corpus line (freshSession world stdout false))
      (walk.runVisits corpus label (freshSession world stdout false)) result)
    (run : walk.run corpus label (freshSession world stdout false) = finished result)
    (toldCourse : Course walk 0 corpus (opened corpus line (freshSession world stdout true))
      (walk.runVisits corpus label (freshSession world stdout true)) told)
    (toldRun : walk.run corpus label (freshSession world stdout true) = finished told)
    {earlier later : List Visit} {first : Visit}
    (hv : walk.runVisits corpus label (freshSession world stdout false) = earlier ++ first :: later)
    (unmismatched : ∀ visit ∈ earlier, walk.mismatchedIn visit = false)
    (mismatched : walk.mismatchedIn first = true) :
    HaltsAt walk corpus label world stdout earlier first := by
  obtain ⟨visits, rfl⟩ :=
    (course.told_of_first hv unmismatched mismatched).unique toldCourse
  have listed : first ∈ walk.runVisits corpus label (freshSession world stdout false) := by
    rw [hv]
    simp
  have closed : ∀ result : EStateM.Result Failure Session Unit,
      (reached result).Extends (reached (finished result)) := by
    rintro (_ | _)
    · exact ⟨List.prefix_rfl, List.prefix_rfl, List.prefix_append _ _⟩
    · exact .refl _
  refine ⟨visits, ?_, ?_, ?_, ?_⟩
  · rw [visits, List.map_map]
    rfl
  -- of the visits up to the first mismatch that one alone is counted as failed
  · rw [(account_run walk corpus label world stdout true).failed, countP_outcomes, visits,
      List.countP_map]
    show ((earlier ++ [first]).countP walk.mismatchedIn : Int) = 1
    rw [List.countP_append, List.countP_eq_zero.2 fun visit hm => by rw [unmismatched visit hm]; nofun,
      List.countP_singleton, if_pos mismatched]
    rfl
  -- the other run goes on from there and takes nothing back
  · rw [run]
    exact (course.extends_from logging listed).trans (closed result)
  -- it may end there as well, if its artifacts cannot be kept
  · cases he : first.ending walk with
    | ok stop after =>
      rw [he] at toldRun
      exact .inl ⟨stop, after, rfl, toldRun⟩
    | error failure after =>
      obtain ⟨kept, rfl⟩ := error_of_mismatched mismatched he
      rw [he] at toldRun
      exact .inr ⟨kept, after, rfl, toldRun, run_of_error listed he⟩

/-- **A run that is told to halt on a mismatch goes like one that is not up to the first
mismatch**, and ends there. -/
theorem run_halting (logging : walk.Logging) (corpus : List Entry) (label : Text) (world : World)
    (stdout : Text) : Halting walk corpus label world stdout := by
  rcases walk.run_cases corpus label (freshSession world stdout false) with
      ⟨fault, hl, hv, hr⟩ | ⟨line, result, hl, course, hr⟩ <;>
    rcases walk.run_cases corpus label (freshSession world stdout true) with
      ⟨fault', hl', hv', hr'⟩ | ⟨line', result', hl', course', hr'⟩ <;>
    rw [hl] at hl' <;> cases hl'
  · refine ⟨fun _ => ⟨by rw [hv, hv']; rfl, by rw [hr, hr']; rfl⟩, fun earlier _ _ hs => ?_⟩
    rw [hv] at hs
    simp at hs
  · refine ⟨fun unmismatched => ?_,
      fun _ _ _ => haltsAt_of_courses logging course hr course' hr'⟩
    obtain ⟨visits, rfl⟩ := (course.told unmismatched).unique course'
    refine ⟨visits, ?_⟩
    rw [hr, hr']
    cases result <;> rfl

/-! ### A mismatch over two entries -/

/-- A compiler that prints `x` when it imports, and nothing else. -/
def differingMachine : Machine :=
  ⟨fun _ launch tree =>
    (.finished 0 (if launch.command[1]? = some ("--import-ast" : Text) then ['x'] else []) [], tree)⟩

/-- The walk with that compiler. -/
def differingWalk (artifacts : Option Path) : Walk :=
  byMarkers rootSolc differingMachine artifacts (Path.ofPlace [])

/-- The first visit of a run over the entries `/a` and `/b`. -/
def firstOfPair (haltsOnFailure : Bool) : Visit :=
  ⟨0, ⟨Path.ofPlace [['a']]⟩,
    ⟨pairSession.world, "Looking at 2 .sol files...\n", openTally pair haltsOnFailure⟩⟩

theorem announce_pair (haltsOnFailure : Bool) :
    announce pair ".sol" (freshSession pairSession.world [] haltsOnFailure) =
      .ok () (firstOfPair haltsOnFailure).start := by
  rw [announce]
  refine bind_ok.2 ⟨_, _, rfl, ?_⟩
  cbv

theorem runVisits_pair (walk : Walk) (haltsOnFailure : Bool) :
    ∃ later, walk.runVisits pair ".sol" (freshSession pairSession.world [] haltsOnFailure) =
      firstOfPair haltsOnFailure :: later := by
  rw [runVisits, announce_pair]
  exact ⟨_, rfl⟩

/-- The world while that visit goes on, with what its scratch directory holds. -/
def underway (held : List (Place × Node)) (launches : List Launch) : World :=
  ⟨⟨pairSession.world.tree.entries ++ (firstScratch, .directory) :: held⟩, [], launches, []⟩

theorem made_pair (artifacts : Option Path) (haltsOnFailure : Bool) :
    makeScratch (differingWalk artifacts).scratchParent (firstOfPair haltsOnFailure).start.world =
      .ok (Path.ofPlace firstScratch) (underway [] []) := by
  cbv

/-- The exports that the scratch directory holds after a mismatch. -/
def bothExports : List (Place × Node) :=
  [(firstScratch ++ [exportedName], .file []), (firstScratch ++ [RoundTrip.obtainedName], .file [120])]

/-- The round trip of `/a` with that compiler. -/
def differingTrial : RoundTrip.Trial :=
  ⟨rootSolc, differingMachine, [Path.ofPlace [['a']]], Path.ofPlace firstScratch⟩

/-- The outcome of that. -/
def differingOutcome : Outcome :=
  .mismatched ⟨Path.ofPlace [['a']]⟩ differingTrial.reproduction
    (Diff.compare [] ['x'] exportedName RoundTrip.obtainedName).diff

/-- The world when the round trip is over, if the programs have left some files of their own. -/
def differingEnd (spilled : List (Place × Node)) : World :=
  underway (spilled ++ bothExports) [differingTrial.launch .probing,
    differingTrial.launch .exporting, differingTrial.launch .importing]

/-- Programs answer like that compiler in the scratch directory, and the first of them leaves some
files there. -/
structure Spills (machine : Machine) (spilled : List (Place × Node)) : Prop where
  answers : ∀ command held launches,
    held = [] ∨ held = spilled ∨ held = spilled ++ bothExports.take 1 →
    Solc.run machine command (some (Path.ofPlace firstScratch)) (underway held launches) =
      .ok ⟨command, 0, if command[1]? = some ("--import-ast" : Text) then ['x'] else [], []⟩
        (underway (if held = [] then spilled else held)
          (launches ++ [⟨command, some (Path.ofPlace firstScratch)⟩]))
  keeps : ∀ held launches, held = spilled ∨ held = spilled ++ bothExports.take 1 →
    RoundTrip.keep (Path.ofPlace firstScratch) exportedName [] (underway held launches) =
      .ok () (underway (spilled ++ bothExports.take 1) launches)
  keepsObtained : ∀ launches,
    RoundTrip.keep (Path.ofPlace firstScratch) RoundTrip.obtainedName ['x']
      (underway (spilled ++ bothExports.take 1) launches) =
        .ok () (underway (spilled ++ bothExports) launches)

/-- The work on `/a` with such programs. -/
theorem Spills.process {machine : Machine} {spilled : List (Place × Node)}
    (spills : Spills machine spilled) (artifacts : Option Path) :
    (byMarkers rootSolc machine artifacts (Path.ofPlace [])).process ⟨Path.ofPlace [['a']]⟩
      (Path.ofPlace firstScratch) (underway [] []) =
        .ok differingOutcome (differingEnd spilled) := by
  have split : MarkerSplit.split ⟨Path.ofPlace [['a']]⟩ (Path.ofPlace firstScratch) (underway [] []) =
      .ok (.single (Path.ofPlace [['a']])) (underway [] []) := by
    cbv
  have spilt : (if spilled = [] then spilled else spilled) = spilled := ite_self _
  have held : (if spilled ++ bothExports.take 1 = [] then spilled
      else spilled ++ bothExports.take 1) = spilled ++ bothExports.take 1 :=
    if_neg (by simp [bothExports])
  have probed := spills.answers (differingTrial.launch .probing).command [] [] (.inl rfl)
  have exported := fun launches =>
    spills.answers (differingTrial.launch .exporting).command spilled launches (.inr (.inl rfl))
  have imported := fun launches =>
    spills.answers (differingTrial.launch .importing).command _ launches (.inr (.inr rfl))
  simp only [spilt] at exported
  simp only [held] at imported
  refine bind_ok.2 ⟨_, _, split, bind_ok.2 ⟨_, _, rfl, bind_ok.2 ⟨true, _,
    bind_ok.2 ⟨_, _, probed, rfl⟩, ?_⟩⟩⟩
  refine bind_ok.2 ⟨_, _, exported _, bind_ok.2 ⟨_, _, spills.keeps _ _ (.inl rfl), ?_⟩⟩
  exact bind_ok.2 ⟨_, _, bind_ok.2 ⟨_, _, spills.keeps _ _ (.inr rfl), imported _⟩,
    bind_ok.2 ⟨_, _, spills.keepsObtained _, rfl⟩⟩

theorem spills_differing : Spills differingMachine [] := by
  refine ⟨fun command held launches _ => ?_, fun held launches h => ?_, fun launches => by cbv⟩
  · have left : (if held = [] then [] else held) = held := by
      split
      · exact Eq.symm ‹held = []›
      · rfl
    rw [left]
    rfl
  · rcases h with rfl | rfl <;> cbv

theorem process_pair (artifacts : Option Path) :
    (differingWalk artifacts).process ⟨Path.ofPlace [['a']]⟩ (Path.ofPlace firstScratch)
      (underway [] []) = .ok differingOutcome (differingEnd []) :=
  spills_differing.process artifacts

theorem mismatchedIn_firstOfPair (artifacts : Option Path) (haltsOnFailure : Bool) :
    (differingWalk artifacts).mismatchedIn (firstOfPair haltsOnFailure) = true := by
  rw [mismatchedIn, Visit.outcome?, attempt_eq, bind_of_ok (made_pair artifacts haltsOnFailure)]
  show (outcomeOf ((differingWalk artifacts).process _ _ _)).any Outcome.isMismatch = true
  rw [show (firstOfPair haltsOnFailure).entry = ⟨Path.ofPlace [['a']]⟩ from rfl, process_pair]
  rfl

theorem run_halting_pair :
    Halting (differingWalk none) pair ".sol" pairSession.world [] ∧
      ∃ statistics after, (differingWalk none).run pair ".sol"
          (freshSession pairSession.world [] true) = .ok statistics after ∧
        statistics.failed = 1 ∧ statistics.haltedEarly = true := by
  have halting : Halting (differingWalk none) pair ".sol" pairSession.world [] :=
    run_halting (logging_of_split .split _ _ _ _) pair ".sol" pairSession.world []
  obtain ⟨later, hv⟩ := runVisits_pair (differingWalk none) false
  have halts := halting.halts [] _ later hv (fun _ hm => nomatch hm)
    (mismatchedIn_firstOfPair none false)
  refine ⟨halting, ?_⟩
  rcases halts.ends with ⟨stop, after, -, hr⟩ | ⟨kept, -⟩
  · have failed := halts.failed
    rw [hr] at failed
    exact ⟨_, _, hr, failed, Bool.or_true _⟩
  · exact absurd rfl kept

/-- A path with a NUL in it. -/
def nulPath : Path := Path.ofPlace [['k', '\x00']]

/-- **Keeping the artifacts of the entry that mismatched may still fail**, although the programs
are confined and depend on nothing but their arguments and the files. -/
theorem halting_run_fails :
    differingMachine.Functional ∧ differingMachine.Confined [] (fun _ => True) ∧
      (∃ later, (differingWalk (some nulPath)).runVisits pair ".sol"
        (freshSession pairSession.world [] false) = firstOfPair false :: later) ∧
      (differingWalk (some nulPath)).mismatchedIn (firstOfPair false) = true ∧
      ∃ after, (differingWalk (some nulPath)).run pair ".sol"
        (freshSession pairSession.world [] true) = .error (.file .embeddedNul) after := by
  refine ⟨⟨fun _ _ _ _ _ _ => rfl, fun _ _ _ _ _ h => h⟩,
    ⟨fun _ _ _ h => h, fun _ _ _ _ _ _ _ _ => rfl, fun _ _ _ _ _ _ _ _ h => h⟩,
    runVisits_pair _ false, mismatchedIn_firstOfPair _ false, ?_⟩
  obtain ⟨session, cwd, tree, hend⟩ := ending_of_mismatch (made_pair (some nulPath) true)
    (process_pair _) rfl
  have copied : FileTree.copyTree session.world.cwd FileTree.pathLimit (Path.ofPlace firstScratch)
      (artifactPath nulPath (firstOfPair true).index (firstOfPair true).entry) session.world.tree =
        .error .embeddedNul session.world.tree := by
    rw [cwd, tree]
    cbv
  have given : (differingWalk (some nulPath)).artifacts = some nulPath := rfl
  have unkept := Session.act_of_error (keepArtifacts_of_nul given copied)
  obtain ⟨later, hv⟩ := runVisits_pair (differingWalk (some nulPath)) true
  rw [bind_of_error unkept] at hend
  exact ⟨_, run_of_error (hv ▸ List.mem_cons_self) hend⟩

end Walk

end Reimport
