import Reimport.Proofs.RoundTrip.Calls
import Reimport.Proofs.Walk.GivenUp

/-!
# Compiler calls that the system refuses

The system may refuse to start the compiler.  Such a call has the answer of one that
failed, and what the call was for decides what is made of it (`Trial.check_of_refused`): a
refused probe passes for a compiler that rejects the files, a refused export or import
for a breakdown.

In a run this is the difference between an entry that is counted as uncompilable while the
run goes on, and the end of the run (`refused_call`).  A machine on which the compiler
cannot be started at all never gets past its probes, and every run on it that returns has
succeeded (`succeeds_without_compiler`).
-/
namespace Reimport

namespace RoundTrip

/-- A text that is not kept is a matter of its file. -/
theorem keep_error {workdir : Path} {name : Name} {content : Text} {world after : World}
    {failure : Failure} (h : keep workdir name content world = .error failure after) :
    ∃ error, failure = .file error := by
  rw [keep, Act.change] at h
  split at h
  · cases h
  · cases h
    exact ⟨_, rfl⟩

namespace Trial
variable {trial : Trial} {world after : World} {call : Call} {reason : Text}

/-- What a refused call makes of an entry. -/
def refusedOutcome (trial : Trial) (entry : Entry) (reason : Text) : Phase → Outcome
  | .probing => .uncompilable entry
  | .exporting => .exportFailed ⟨entry, trial.reproduction, reason, []⟩
  | .importing => .importFailed ⟨entry, trial.reproduction, reason, []⟩

theorem answer_of_refused (refused : trial.response call = .refused reason) :
    trial.answer call = ⟨trial.command call.phase, Invocation.refusedStatus, [], reason⟩ := by
  rw [answer, refused, Invocation.ofResponse]

/-- A refused call counts as one that failed. -/
theorem success_of_refused (refused : trial.response call = .refused reason) :
    (trial.answer call).success = false := by
  rw [answer_of_refused refused]
  rfl

/-- A refused call of a comparison is its last one, and the comparison breaks down unless
an export cannot be kept. -/
theorem compare_of_refused (entry : Entry) (hc : call ∈ trial.comparisonCalls world)
    (refused : trial.response call = .refused reason) :
    call.phase ≠ .probing ∧ (∃ earlier, trial.comparisonCalls world = earlier ++ [call]) ∧
      ((∃ after, compare trial.compiler entry trial.files trial.workdir world =
          .ok (trial.refusedOutcome entry reason call.phase) after) ∨
        ∃ error after, compare trial.compiler entry trial.files trial.workdir world =
          .error (.file error) after) := by
  have fails := success_of_refused refused
  have answered := answer_of_refused refused
  have h := trial.compares entry world
  generalize trial.comparisonCalls world = calls at h hc ⊢
  generalize compare trial.compiler entry trial.files trial.workdir world = result at h ⊢
  cases h with
  | unkept keeps =>
    cases List.mem_singleton.1 hc
    obtain ⟨error, rfl⟩ := keep_error keeps
    exact ⟨nofun, ⟨[], rfl⟩, .inr ⟨error, _, rfl⟩⟩
  | failed _ keeps =>
    cases List.mem_singleton.1 hc
    rw [answered]
    exact ⟨nofun, ⟨[], rfl⟩, .inl ⟨_, rfl⟩⟩
  | unsupplied exports supplies =>
    cases List.mem_singleton.1 hc
    cases exports.symm.trans fails
  | unobtained exports supplies keeps =>
    rcases List.mem_cons.1 hc with rfl | hc
    · cases exports.symm.trans fails
    cases List.mem_singleton.1 hc
    obtain ⟨error, rfl⟩ := keep_error keeps
    exact ⟨nofun, ⟨[_], rfl⟩, .inr ⟨error, _, rfl⟩⟩
  | concluded exports supplies keeps =>
    rcases List.mem_cons.1 hc with rfl | hc
    · cases exports.symm.trans fails
    cases List.mem_singleton.1 hc
    rw [conclude, if_neg (by rw [fails]; exact Bool.false_ne_true), answered]
    exact ⟨nofun, ⟨[_], rfl⟩, .inl ⟨_, rfl⟩⟩

/-- **What comes of a refused call.**  It is the last one of its round trip.  A refused
probe passes for a rejection; a refused export or import is a breakdown unless an export
cannot be kept. -/
theorem check_of_refused (entry : Entry) (hc : call ∈ trial.calls world)
    (refused : trial.response call = .refused reason) :
    (∃ earlier, trial.calls world = earlier ++ [call]) ∧
      ((∃ after, check trial.compiler entry trial.files trial.workdir world =
          .ok (trial.refusedOutcome entry reason call.phase) after) ∨
        call.phase ≠ .probing ∧
          ∃ error after, check trial.compiler entry trial.files trial.workdir world =
            .error (.file error) after) := by
  have fails := success_of_refused refused
  rw [check_eq]
  rw [calls] at hc ⊢
  rcases List.mem_cons.1 hc with rfl | hc
  · rw [if_neg (by rw [fails]; exact Bool.false_ne_true),
      if_neg (by rw [fails]; exact Bool.false_ne_true)]
    exact ⟨⟨[], rfl⟩, .inl ⟨_, rfl⟩⟩
  · split at hc
    · rename_i accepts
      obtain ⟨later, ⟨earlier, hl⟩, h⟩ := compare_of_refused entry hc refused
      rw [if_pos accepts, if_pos accepts, hl]
      exact ⟨⟨_ :: earlier, rfl⟩, h.imp_right (⟨later, ·⟩)⟩
    · cases hc

end Trial
end RoundTrip

open RoundTrip (Trial Call)

namespace Walk

/-- Makes the scratch directory of an entry and finds what its round trip works with. -/
def prepare (walk : Walk) (solc : Solc) (machine : Machine) (entry : Entry) : Act Trial := do
  let workdir ← makeScratch walk.scratchParent
  let result ← walk.splitter.split entry workdir
  let sources ← files entry result
  return ⟨solc, machine, sources, workdir⟩

end Walk

/-- The compiler calls of a visit, each with its trial. -/
def Visit.calls (walk : Walk) (solc : Solc) (machine : Machine) (visit : Visit) :
    List (Trial × Call) :=
  match walk.prepare solc machine visit.entry visit.start.world with
  | .ok trial start => (trial.calls start).map (trial, ·)
  | .error _ _ => []

namespace Walk

/-! ## One visit -/

section Outcomes
variable {walk : Walk} {visit : Visit} {outcome : Outcome} {world : World}

/-- The work on an entry that came to an outcome is ended by the finding of a breakdown
and by nothing else. -/
theorem fault?_of_outcome (h : walk.attempt visit.entry visit.start.world = .ok outcome world) :
    visit.fault? walk = outcome.finding?.map .abort := by
  rw [attempt_eq] at h
  obtain ⟨workdir, made, hm, hp⟩ := bind_ok.1 h
  have hm : makeScratch walk.scratchParent (begun visit.start).world = .ok workdir made := hm
  obtain ⟨left, hw⟩ : ∃ left, walk.work visit.entry workdir { begun visit.start with world := made } = _ :=
    work_of_ok hp
  rw [Visit.fault?, Session.act_of_ok hm]
  simp only [hw]
  cases outcome.finding? <;> rfl

/-- The work on an entry that has a scratch directory but comes to no outcome is ended by
the failure of that. -/
theorem fault?_of_failure {workdir : Path} {made : World} {failure : Failure}
    (hm : makeScratch walk.scratchParent visit.start.world = .ok workdir made)
    (h : walk.attempt visit.entry visit.start.world = .error failure world) :
    visit.fault? walk = some failure := by
  rw [attempt_eq, bind_of_ok hm] at h
  have hm : makeScratch walk.scratchParent (begun visit.start).world = .ok workdir made := hm
  rw [Visit.fault?, Session.act_of_ok hm]
  have hw : walk.work visit.entry workdir { begun visit.start with world := made } = .error failure _ :=
    work_of_error h
  simp only [hw]

/-- An entry that the compiler rejects does not end the walk. -/
theorem ending_of_uncompilable {entry : Entry}
    (h : walk.attempt visit.entry visit.start.world = .ok (.uncompilable entry) world) :
    ∃ stop after, visit.ending walk = .ok stop after := by
  rw [attempt_eq] at h
  obtain ⟨workdir, made, hm, hp⟩ := bind_ok.1 h
  have hm : makeScratch walk.scratchParent (begun visit.start).world = .ok workdir made := hm
  rw [Visit.ending, take_eq, withScratch_of_ok (begun visit.start) hm, step_of_ok hp]
  exact ⟨_, _, rfl⟩

end Outcomes

section Calls
variable {walk : Walk} {solc : Solc} {machine : Machine} {visit : Visit} {trial : Trial}
  {call : Call} {reason : Text}

/-- The compiler calls of a visit are those of the trial that it prepares. -/
theorem calls_of_mem (hc : (trial, call) ∈ visit.calls walk solc machine) :
    ∃ start, walk.prepare solc machine visit.entry visit.start.world = .ok trial start ∧
      visit.calls walk solc machine = (trial.calls start).map (trial, ·) ∧
      call ∈ trial.calls start := by
  rw [Visit.calls] at hc ⊢
  cases hp : walk.prepare solc machine visit.entry visit.start.world with
  | error failure left =>
    rw [hp] at hc
    cases hc
  | ok other start =>
    rw [hp] at hc
    obtain ⟨_, hm, he⟩ := List.mem_map.1 hc
    cases he
    exact ⟨start, rfl, rfl, hm⟩

/-- A scratch directory was made for a trial that is prepared. -/
theorem makeScratch_of_prepare {entry : Entry} {world start : World}
    (h : walk.prepare solc machine entry world = .ok trial start) :
    ∃ workdir made, makeScratch walk.scratchParent world = .ok workdir made := by
  obtain ⟨workdir, made, hm, _⟩ := bind_ok.1 h
  exact ⟨workdir, made, hm⟩

variable (uses : walk.compiler = solc.compiler machine)
include uses

theorem attempt_eq_check (entry : Entry) :
    walk.attempt entry =
      walk.prepare solc machine entry >>= fun trial =>
        RoundTrip.check trial.compiler entry trial.files trial.workdir := by
  simp only [attempt, process, prepare, bind_assoc, pure_bind, uses]

/-- The compiler calls of a visit are what its attempt launches once the files are found. -/
theorem launches_attempt (visit : Visit) :
    (reached (walk.attempt visit.entry visit.start.world)).launches =
      (reached (walk.prepare solc machine visit.entry visit.start.world)).launches ++
        (visit.calls walk solc machine).map fun made => made.1.launch made.2.phase := by
  rw [attempt_eq_check uses, Visit.calls]
  cases hp : walk.prepare solc machine visit.entry visit.start.world with
  | error failure left =>
    rw [bind_of_error hp]
    exact (List.append_nil _).symm
  | ok trial start =>
    rw [bind_of_ok hp, Trial.launches_check, List.map_map]
    rfl

/-- A refused call is the last one of its visit. -/
theorem calls_of_refused (hc : (trial, call) ∈ visit.calls walk solc machine)
    (refused : trial.response call = .refused reason) :
    (∃ earlier, visit.calls walk solc machine = earlier ++ [(trial, call)]) ∧
      ((∃ world, walk.attempt visit.entry visit.start.world =
          .ok (trial.refusedOutcome visit.entry reason call.phase) world) ∨
        call.phase ≠ .probing ∧ ∃ error world,
          walk.attempt visit.entry visit.start.world = .error (.file error) world ∧
          visit.fault? walk = some (.file error)) := by
  obtain ⟨start, hp, hcalls, hc⟩ := calls_of_mem hc
  obtain ⟨⟨earlier, hl⟩, h⟩ := Trial.check_of_refused visit.entry hc refused
  have hattempt := attempt_eq_check uses visit.entry
  refine ⟨⟨earlier.map (trial, ·), by rw [hcalls, hl, List.map_append]; rfl⟩, ?_⟩
  rw [hattempt, bind_of_ok hp]
  refine h.imp_right fun ⟨later, error, world, he⟩ => ⟨later, error, world, he, ?_⟩
  obtain ⟨workdir, made, hm⟩ := makeScratch_of_prepare hp
  exact fault?_of_failure hm (by rw [hattempt, bind_of_ok hp]; exact he)

end Calls

/-! ## The run -/

/-- What a refused call does to a run, by what the call was for. -/
inductive Refusal (walk : Walk) (visit : Visit) (trial : Trial) (reason : Text)
    (result : EStateM.Result Failure Session Statistics) : RoundTrip.Phase → Prop
  /-- The compiler passes for one that rejects the files: the entry is counted as
  uncompilable, and the run goes on. -/
  | counted {after : Session}
    (outcome_eq : visit.outcome? walk = some (.uncompilable visit.entry))
    (ending_eq : visit.ending walk = .ok false after)
    (tally_eq : after.tally = visit.start.tally.after (.uncompilable visit.entry)) :
    Refusal walk visit trial reason result .probing
  /-- The run ends with the breakdown, and the entry is not counted. -/
  | ended {phase : RoundTrip.Phase} {finding : Abort} {failure : Failure} {after : Session}
    (outcome_eq : visit.outcome? walk = some (trial.refusedOutcome visit.entry reason phase))
    (finding_eq : (trial.refusedOutcome visit.entry reason phase).finding? = some finding)
    (result_eq : result = .error failure after)
    (failure_eq : failure = .abort finding ∨ walk.artifacts ≠ none ∧ failure.isAbort = false)
    (tally_eq : after.tally = visit.start.tally.abort) :
    Refusal walk visit trial reason result phase
  /-- An export cannot be kept, which ends the run before the refusal is seen; the entry is
  not counted. -/
  | lost {phase : RoundTrip.Phase} {error : FileError} {after : Session}
    (later : phase ≠ .probing)
    (outcome_eq : visit.outcome? walk = none)
    (result_eq : result = .error (.file error) after)
    (tally_eq : after.tally = visit.start.tally) :
    Refusal walk visit trial reason result phase

section Courses
variable {walk : Walk} {solc : Solc} {machine : Machine} {corpus : List Entry}
  {haltsOnFailure : Bool} {session : Session} {visits : List Visit}
  {result : EStateM.Result Failure Session Unit} {visit : Visit} {trial : Trial} {call : Call}
  {reason : Text} {world : World}

/-- An entry that the compiler rejects is counted, and the run goes on. -/
theorem Course.goesOn_of_uncompilable (h : Course walk 0 corpus session visits result)
    (ht : session.tally = openTally corpus haltsOnFailure) (hm : visit ∈ visits)
    (ha : walk.attempt visit.entry visit.start.world = .ok (.uncompilable visit.entry) world) :
    visit.outcome? walk = some (.uncompilable visit.entry) ∧
      ∃ after, visit.ending walk = .ok false after ∧
        after.tally = visit.start.tally.after (.uncompilable visit.entry) := by
  have ho : visit.outcome? walk = some (.uncompilable visit.entry) := congrArg outcomeOf ha
  obtain ⟨stop, after, he⟩ := ending_of_uncompilable ha
  obtain ⟨outcome, ho', _, _, htally⟩ := ending_ok he
  cases ho.symm.trans ho'
  have hstop : stop = false := by
    rw [h.stop_eq ht hm he, mismatchedIn, ho]
    rfl
  exact ⟨ho, after, by rw [he, hstop], htally⟩

/-- What a refused call does to a course of visits. -/
theorem Course.refusal (h : Course walk 0 corpus session visits result)
    (ht : session.tally = openTally corpus haltsOnFailure) (hm : visit ∈ visits)
    (uses : walk.compiler = solc.compiler machine)
    (hc : (trial, call) ∈ visit.calls walk solc machine)
    (refused : trial.response call = .refused reason) :
    Refusal walk visit trial reason (finished result) call.phase := by
  obtain ⟨-, ⟨world, ha⟩ | ⟨later, error, world, ha, hf⟩⟩ := calls_of_refused uses hc refused
  · have ends {finding : Abort} (hfinding :
        (trial.refusedOutcome visit.entry reason call.phase).finding? = some finding) :
        Refusal walk visit trial reason (finished result) call.phase := by
      have hf : visit.fault? walk = some (.abort finding) := by
        rw [fault?_of_outcome ha, hfinding]
        rfl
      obtain ⟨failure, after, he, hfailure, htally⟩ := ending_of_fault hf
      exact .ended (congrArg outcomeOf ha) hfinding
        (congrArg finished (h.result_of_error hm he))
        (hfailure.imp_right fun ⟨kept, _, mishap⟩ => ⟨kept, mishap⟩) htally
    cases hphase : call.phase with
    | probing =>
      rw [hphase] at ha
      obtain ⟨houtcome, after, he, htally⟩ := h.goesOn_of_uncompilable ht hm ha
      exact .counted houtcome he htally
    | exporting =>
      rw [hphase] at ends
      exact ends rfl
    | importing =>
      rw [hphase] at ends
      exact ends rfl
  · obtain ⟨failure, after, he, rfl | ⟨_, finding, _⟩, htally⟩ := ending_of_fault hf
    · exact .lost later (congrArg outcomeOf ha) (congrArg finished (h.result_of_error hm he)) htally
    · cases finding

end Courses

/-- **A refused call in a run.**  It is the last one of its entry.  If it was a probe, the
entry is counted as uncompilable and the run goes on, as if the compiler had rejected the
files; otherwise the run ends at the entry and does not count it. -/
theorem refused_call (walk : Walk) (solc : Solc) (machine : Machine)
    (uses : walk.compiler = solc.compiler machine) (corpus : List Entry) (label : Text)
    (world : World) (stdout : Text) (haltsOnFailure : Bool) {visit : Visit} {trial : Trial}
    {call : Call} {reason : Text}
    (hm : visit ∈ walk.runVisits corpus label (freshSession world stdout haltsOnFailure))
    (hc : (trial, call) ∈ visit.calls walk solc machine)
    (refused : trial.response call = .refused reason) :
    (∃ earlier, visit.calls walk solc machine = earlier ++ [(trial, call)]) ∧
      Refusal walk visit trial reason
        (walk.run corpus label (freshSession world stdout haltsOnFailure)) call.phase := by
  refine ⟨(calls_of_refused uses hc refused).1, ?_⟩
  rcases walk.run_cases corpus label (freshSession world stdout haltsOnFailure) with
    ⟨_, _, hv, _⟩ | ⟨line, result, _, hcourse, hr⟩
  · rw [hv] at hm
    cases hm
  · rw [hr]
    have ht : (opened corpus line (freshSession world stdout haltsOnFailure)).tally =
        openTally corpus haltsOnFailure := rfl
    exact hcourse.refusal ht hm uses hc refused

/-- A machine on which the compiler is gone after its first launch. -/
def vanishingMachine : Machine :=
  ⟨fun history _ tree =>
    (if history = [] then .finished 0 [] [] else .refused "vanished", tree)⟩

/-- The trial of the sole entry with the compiler of a machine. -/
def soleTrial (machine : Machine) : Trial :=
  ⟨rootSolc, machine, [soleEntry.path], Path.ofPlace ["ast-roundtrip-0"]⟩

/-- The world in which that trial begins. -/
def soleStart : World :=
  ⟨⟨[([['e']], .file []), (["ast-roundtrip-0"], .directory)]⟩, [], [], []⟩

theorem calls_vanishing :
    (soleVisit []).calls (markerWalk vanishingMachine) rootSolc vanishingMachine =
      [(soleTrial vanishingMachine, ⟨.probing, soleStart⟩),
        (soleTrial vanishingMachine,
          ⟨.exporting, (soleTrial vanishingMachine).after ⟨.probing, soleStart⟩⟩)] := by
  cbv

theorem refused_call_vanishing :
    ∃ after, (markerWalk vanishingMachine).run [soleEntry] ".sol" (soleSession []) =
        .error (.abort (.exportFailed
          ⟨soleEntry, (soleTrial vanishingMachine).reproduction, "vanished", []⟩)) after ∧
      after.tally.halted = true ∧ after.tally.succeeded = false ∧
      after.tally.statistics.uncompilable = 0 := by
  have made : (soleTrial vanishingMachine,
      (⟨.exporting, (soleTrial vanishingMachine).after ⟨.probing, soleStart⟩⟩ : Call)) ∈
      (soleVisit []).calls (markerWalk vanishingMachine) rootSolc vanishingMachine := by
    rw [calls_vanishing]
    exact List.mem_cons_of_mem _ List.mem_cons_self
  have refused : (soleTrial vanishingMachine).response
      ⟨.exporting, (soleTrial vanishingMachine).after ⟨.probing, soleStart⟩⟩ =
        .refused "vanished" := by
    cbv
  have broken : ((soleVisit []).outcome? (markerWalk vanishingMachine)).isSome = true := by cbv
  obtain ⟨-, h⟩ := refused_call (markerWalk vanishingMachine) rootSolc vanishingMachine rfl
    [soleEntry] ".sol" (soleWorld []) [] false (soleVisit_mem _ []) made refused
  cases h with
  | ended _ finding_eq result_eq failure_eq tally_eq =>
    cases finding_eq
    rcases failure_eq with rfl | ⟨kept, _⟩
    · exact ⟨_, result_eq, by rw [tally_eq]; rfl, by rw [tally_eq]; rfl, by rw [tally_eq]; rfl⟩
    · exact absurd rfl kept
  | lost _ outcome_eq _ _ =>
    rw [outcome_eq] at broken
    cases broken

/-! ### Runs without a compiler -/

section WithoutCompiler
variable {walk : Walk} {solc : Solc} {machine : Machine}
  (uses : walk.compiler = solc.compiler machine)
  (refuses : ∀ history launch tree, ∃ reason,
    (machine.respond history launch tree).1 = .refused reason)

/-- A trial is prepared for the machine of the walk. -/
theorem machine_of_prepare {entry : Entry} {world start : World} {trial : Trial}
    (h : walk.prepare solc machine entry world = .ok trial start) : trial.machine = machine := by
  obtain ⟨workdir, _, _, h⟩ := bind_ok.1 h
  obtain ⟨split, _, _, h⟩ := bind_ok.1 h
  obtain ⟨sources, _, _, h⟩ := bind_ok.1 h
  cases h
  rfl

include uses refuses

/-- Without a compiler every outcome is that the compiler rejects the files. -/
theorem outcome_without_compiler {visit : Visit} {outcome : Outcome}
    (ho : visit.outcome? walk = some outcome) : outcome = .uncompilable visit.entry := by
  rw [Visit.outcome?, attempt_eq_check uses] at ho
  cases hp : walk.prepare solc machine visit.entry visit.start.world with
  | error failure left =>
    rw [bind_of_error hp] at ho
    cases ho
  | ok trial start =>
    obtain ⟨reason, hr⟩ := refuses start.launches (trial.launch .probing) start.tree
    have refused : trial.response ⟨.probing, start⟩ = .refused reason := by
      rw [Trial.response, machine_of_prepare hp, hr]
    have fails := Trial.success_of_refused refused
    rw [bind_of_ok hp, Trial.check_eq, if_neg (by rw [fails]; exact Bool.false_ne_true)] at ho
    cases ho
    rfl

/-- **A run without a compiler succeeds.**  On a machine that cannot start the compiler,
every run that returns has counted the whole corpus as uncompilable and has succeeded. -/
theorem succeeds_without_compiler (corpus : List Entry) (label : Text) (world : World)
    (stdout : Text) (haltsOnFailure : Bool) {statistics : Statistics} {after : Session}
    (h : walk.run corpus label (freshSession world stdout haltsOnFailure) =
      .ok statistics after) :
    after.tally.succeeded = true ∧ statistics.tested = 0 ∧
      statistics.uncompilable = corpus.length := by
  rcases walk.run_cases corpus label (freshSession world stdout haltsOnFailure) with
    ⟨_, _, _, hr⟩ | ⟨line, result, _, hcourse, hr⟩
  · rw [hr] at h
    cases h
  rw [hr] at h
  cases result with
  | error failure last => cases h
  | ok _ last =>
    cases h
    have ht : (opened corpus line (freshSession world stdout haltsOnFailure)).tally =
        openTally corpus haltsOnFailure := rfl
    generalize walk.runVisits corpus label (freshSession world stdout haltsOnFailure) = visits
      at hcourse
    -- without a compiler every outcome is that of an entry that does not compile
    have only : ∀ outcome ∈ walk.outcomes visits, ∃ entry, outcome = .uncompilable entry := by
      intro outcome ho
      obtain ⟨visit, _, hv⟩ := List.mem_filterMap.1 ho
      exact ⟨_, outcome_without_compiler uses refuses hv⟩
    obtain ⟨htested, hfailed, _, htotal⟩ := hcourse.counters ht
    have untested : (walk.outcomes visits).countP Outcome.isTested = 0 :=
      List.countP_eq_zero.2 fun outcome ho => by
        obtain ⟨entry, rfl⟩ := only outcome ho
        exact Bool.false_ne_true
    have unfailed : (walk.outcomes visits).countP Outcome.isMismatch = 0 :=
      Nat.le_zero.1 (untested ▸ Outcome.countP_isMismatch_le _)
    rw [untested] at htested
    rw [unfailed] at hfailed
    have kept : last.tally.aborted = false := by
      rw [hcourse.tally_of_ok, Tally.aborted_afterAll _, ht]
      · rfl
      · intro outcome ho
        obtain ⟨entry, rfl⟩ := only outcome ho
        rfl
    refine ⟨Tally.succeeded_iff.2 ⟨hfailed, kept⟩, htested, ?_⟩
    rcases hcourse.account_returns ht with ⟨_, hsum⟩ | ⟨_, _, _, _, _, hlast, _⟩
    · rw [reached_ok] at htested htotal
      omega
    · rw [mismatchedIn, Option.any_eq_true] at hlast
      obtain ⟨outcome, ho, hmismatch⟩ := hlast
      rw [outcome_without_compiler uses refuses ho] at hmismatch
      cases hmismatch

end WithoutCompiler

/-- A run whose one entry is never compiled, because the compiler cannot be started, counts
it as uncompilable and succeeds. -/
theorem refused_probe_passes_for_rejection :
    ∃ call statistics after,
      (soleTrial refusingMachine, call) ∈
        (soleVisit []).calls (markerWalk refusingMachine) rootSolc refusingMachine ∧
      (soleTrial refusingMachine).response call = .refused "absent" ∧
      (markerWalk refusingMachine).run [soleEntry] ".sol" (soleSession []) =
        .ok statistics after ∧
      statistics.uncompilable = 1 ∧ after.tally.succeeded = true := by
  have calls : (soleVisit []).calls (markerWalk refusingMachine) rootSolc refusingMachine =
      [(soleTrial refusingMachine, ⟨.probing, soleStart⟩)] := by
    cbv
  refine ⟨⟨.probing, soleStart⟩, _, ⟨⟨(soleWorld []).tree, [],
      [(soleTrial refusingMachine).launch .probing], []⟩, "Looking at 1 .sol files...\n·\n",
      ⟨⟨0, 0, 1, 1, false, false⟩, false⟩⟩, ?_, by cbv, by cbv, rfl, rfl⟩
  rw [calls]
  exact List.mem_cons_self

end Walk
end Reimport
