import Mathlib
import Reimport.Proofs.Walk.Account
import Reimport.Split.Marker

/-!
# When a run is given up

An entry is worked on in three steps: it is split, sent on its round trip and recorded.
What ends these steps is the `fault?` of the visit.  A fault that is a finding about the
tools gives the run up, and any other fault passes through; either way the entry is not
counted (`ending_of_fault`).

From that the flags of a run that ends by a fault are known exactly
(`flags_of_fault`): a run that is given up is halted and has not succeeded, and one that
is not given up is taken for one that succeeded unless an entry mismatched.
-/
namespace Reimport

namespace Walk

/-- Splits an entry, sends it on its round trip and records what came of it. -/
def work (walk : Walk) (entry : Entry) (workdir : Path) : Step (Outcome × Bool) := do
  let outcome ← Session.act (walk.process entry workdir)
  let stop ← Session.record (.outcome outcome)
  return (outcome, stop)

end Walk

/-- What the work on the entry was ended by, if it was not done. -/
def Visit.fault? (walk : Walk) (visit : Visit) : Option Failure :=
  match Session.act (Walk.makeScratch walk.scratchParent) (Walk.begun visit.start) with
  | .error _ _ => none
  | .ok workdir session =>
    match walk.work visit.entry workdir session with
    | .ok _ _ => none
    | .error fault _ => some fault

namespace Walk

/-! ## One visit -/

section Faults
variable {walk : Walk} {entry : Entry} {workdir : Path} {session left : Session} {fault : Failure}

/-- Work on an entry that comes to no outcome ends with the failure of that. -/
theorem work_of_error {world : World}
    (h : walk.process entry workdir session.world = .error fault world) :
    walk.work entry workdir session = .error fault { session with world := world } :=
  bind_of_error (Session.act_of_error h)

/-- Work on an entry that comes to an outcome is not done iff that is a breakdown. -/
theorem work_of_ok {outcome : Outcome} {world : World}
    (h : walk.process entry workdir session.world = .ok outcome world) :
    ∃ left, walk.work entry workdir session =
      match outcome.finding? with
      | none => .ok (outcome, (session.tally.after outcome).halted)
          ⟨left, session.stdout ++ Session.recordMark outcome, session.tally.after outcome⟩
      | some finding => .error (.abort finding)
          ⟨left, session.stdout, session.tally.after outcome⟩ := by
  obtain ⟨left, hr⟩ := Session.record_eq outcome { session with world := world }
  refine ⟨left, ?_⟩
  rw [work, bind_of_ok (Session.act_of_ok h), bind_eq, hr]
  cases outcome.finding? <;> rfl

/-- Work that is not done counts nothing, but a breakdown has given the run up already. -/
theorem work_error (h : walk.work entry workdir session = .error fault left) :
    left.tally = session.tally ∨ fault.isAbort = true ∧ left.tally = session.tally.abort := by
  cases hp : walk.process entry workdir session.world with
  | error failure world =>
    rw [work_of_error hp] at h
    cases h
    exact .inl rfl
  | ok outcome world =>
    obtain ⟨last, hw⟩ := work_of_ok hp
    rw [hw] at h
    cases outcome with
    | exportFailed _ =>
      cases h
      exact .inr ⟨rfl, rfl⟩
    | importFailed _ =>
      cases h
      exact .inr ⟨rfl, rfl⟩
    | passed _ => cases h
    | uncompilable _ => cases h
    | mismatched _ _ _ => cases h

/-- The end of a step whose work was not done. -/
theorem step_of_fault (index : Nat) (h : walk.work entry workdir session = .error fault left) :
    walk.step index entry workdir session =
      walk.settleFailure index entry workdir fault left := by
  have := walk.step_eq index entry workdir session
  rw [this]
  unfold work at h
  rw [h]

/-- The tally that a fault leaves, from the one before the entry. -/
def settledTally (fault : Failure) (tally : Tally) : Tally :=
  if fault.isAbort then tally.abort else tally

/-- Settling a fault ends with it, unless artifacts are to be kept and a mishap takes its
place there. -/
theorem settleFailure_cases (walk : Walk) (index : Nat) (entry : Entry) (workdir : Path)
    (fault : Failure) (session : Session) :
    ∃ failure after, walk.settleFailure index entry workdir fault session = .error failure after ∧
      (failure = fault ∨
        walk.artifacts ≠ none ∧ fault.isAbort = true ∧ failure.isAbort = false) ∧
      after.tally = settledTally fault session.tally := by
  unfold settleFailure settledTally
  by_cases ha : fault.isAbort = true
  · rw [if_pos ha, if_pos ha]
    cases hk : walk.artifacts with
    | none =>
      refine ⟨fault, { session with tally := session.tally.abort }, ?_, .inl rfl, rfl⟩
      rw [abandon, keepArtifacts_of_none hk]
      rfl
    | some artifacts =>
      obtain ⟨other, world, ho, hr⟩ := walk.abandon_cases index entry workdir fault session
      exact ⟨other, _, hr, ho.imp_right (⟨nofun, ha, ·⟩), rfl⟩
  · rw [if_neg ha, if_neg ha]
    exact ⟨fault, session, rfl, .inl rfl, rfl⟩

/-- **How a visit ends by a fault.**  The entry is not counted. -/
theorem ending_of_fault {visit : Visit} (hf : visit.fault? walk = some fault) :
    ∃ failure after, visit.ending walk = .error failure after ∧
      (failure = fault ∨
        walk.artifacts ≠ none ∧ fault.isAbort = true ∧ failure.isAbort = false) ∧
      after.tally = settledTally fault visit.start.tally := by
  rw [Visit.fault?] at hf
  cases hm : makeScratch walk.scratchParent (begun visit.start).world with
  | error failure world =>
    rw [Session.act_of_error hm] at hf
    cases hf
  | ok workdir made =>
    rw [Session.act_of_ok hm] at hf
    simp only at hf
    cases hw : walk.work visit.entry workdir { begun visit.start with world := made } with
    | ok done left =>
      rw [hw] at hf
      cases hf
    | error other left =>
      rw [hw] at hf
      cases hf
      obtain ⟨failure, after, hs, hfailure, hafter⟩ :=
        walk.settleFailure_cases visit.index visit.entry workdir fault left
      refine ⟨failure, { after with world := removeScratch workdir after.world }, ?_, hfailure, ?_⟩
      · rw [Visit.ending, take_eq, withScratch_of_ok (begun visit.start) hm,
          step_of_fault visit.index hw, hs, cleared]
      · show after.tally = _
        rw [hafter]
        rcases work_error hw with ht | ⟨ha, ht⟩
        · rw [ht]
          rfl
        · rw [ht, settledTally, settledTally, if_pos ha, if_pos ha]
          rfl

end Faults

/-! ## The run -/

section Courses
variable {walk : Walk} {corpus : List Entry} {haltsOnFailure : Bool} {session : Session}
  {visits : List Visit} {result : EStateM.Result Failure Session Unit}

/-- A visit that fails is the last one. -/
theorem Course.last_of_error (h : Course walk 0 corpus session visits result) {visit : Visit}
    (hm : visit ∈ visits) {failure : Failure} {after : Session}
    (he : visit.ending walk = .error failure after) :
    ∃ earlier, visits = earlier ++ [visit] := by
  have hr := h.result_of_error hm he
  rw [hr] at h
  obtain ⟨earlier, last, hv, _⟩ := h.failsLast
  rw [hv] at hm
  rcases List.mem_append.1 hm with hearlier | hlast
  · obtain ⟨next, hnext⟩ := (h.last hv).1 visit hearlier
    rw [he] at hnext
    cases hnext
  · exact ⟨earlier, by rw [hv, List.mem_singleton.1 hlast]⟩

/-- The last visit is begun in a run that was not given up and is not halted. -/
theorem Course.start_of_last (h : Course walk 0 corpus session visits result)
    (ht : session.tally = openTally corpus haltsOnFailure) {earlier : List Visit} {last : Visit}
    (hv : visits = earlier ++ [last]) :
    last.start.tally.aborted = false ∧ last.start.tally.halted = false := by
  have hk : visits[earlier.length]? = some last := by
    rw [hv, List.getElem?_append_right (Nat.le_refl _), Nat.sub_self]
    rfl
  refine ⟨?_, h.start_not_halted ht hk⟩
  have whole : ∀ outcome ∈ walk.outcomes earlier, outcome.isBreakdown = false :=
    (outcomes_of_ok fun visit hm => ⟨false, (h.last hv).1 visit hm⟩).2
  have htake : visits.take earlier.length = earlier := by rw [hv, List.take_left']; rfl
  rw [(h.start hk).2.1, htake, Tally.aborted_afterAll whole, ht]
  rfl

/-- No visit mismatched iff none of the outcomes is a mismatch. -/
theorem failed_eq_zero_iff (h : Course walk 0 corpus session visits result)
    (ht : session.tally = openTally corpus haltsOnFailure) :
    (reached result).tally.statistics.failed = 0 ↔
      ∀ visit ∈ visits, walk.mismatchedIn visit = false := by
  rw [(h.counters ht).2.1, Int.natCast_eq_zero, List.countP_eq_zero]
  constructor
  · intro none visit hm
    rw [mismatchedIn, Option.any_eq_false]
    intro outcome ho
    simpa using none outcome (List.mem_filterMap.2 ⟨visit, hm, ho⟩)
  · intro none outcome ho
    obtain ⟨visit, hm, hv⟩ := List.mem_filterMap.1 ho
    have := none visit hm
    rw [mismatchedIn, hv] at this
    simpa using this

/-- The flags at the end of a course that ends by a fault. -/
theorem Course.flags_at_fault (h : Course walk 0 corpus session visits result)
    (ht : session.tally = openTally corpus haltsOnFailure) {visit : Visit} (hm : visit ∈ visits)
    {fault : Failure} (hf : visit.fault? walk = some fault) :
    ∃ failure after, result = .error failure after ∧
      (failure = fault ∨
        walk.artifacts ≠ none ∧ fault.isAbort = true ∧ failure.isAbort = false) ∧
      after.tally.aborted = fault.isAbort ∧ after.tally.halted = fault.isAbort := by
  obtain ⟨failure, after, he, hfailure, htally⟩ := ending_of_fault hf
  obtain ⟨earlier, hv⟩ := h.last_of_error hm he
  obtain ⟨going, running⟩ := h.start_of_last ht hv
  refine ⟨failure, after, h.result_of_error hm he, hfailure, ?_⟩
  rw [htally, settledTally]
  cases fault.isAbort with
  | true => exact ⟨rfl, rfl⟩
  | false => exact ⟨going, running⟩

end Courses

/-- **The flags of a run that ends by a fault.**  The run is halted over findings about
the tools and over nothing else, and it has succeeded, by its flags, unless there was such
a finding or an entry mismatched. -/
theorem flags_of_fault (walk : Walk) (corpus : List Entry) (label : Text) (world : World)
    (stdout : Text) (haltsOnFailure : Bool) {visit : Visit} {fault : Failure}
    (hm : visit ∈ walk.runVisits corpus label (freshSession world stdout haltsOnFailure))
    (hf : visit.fault? walk = some fault) :
    ∃ failure after,
      walk.run corpus label (freshSession world stdout haltsOnFailure) = .error failure after ∧
      (failure = fault ∨
        walk.artifacts ≠ none ∧ fault.isAbort = true ∧ failure.isAbort = false) ∧
      after.tally.halted = fault.isAbort ∧
      (after.tally.succeeded = true ↔
        fault.isAbort = false ∧
          ∀ other ∈ walk.runVisits corpus label (freshSession world stdout haltsOnFailure),
            walk.mismatchedIn other = false) := by
  rcases walk.run_cases corpus label (freshSession world stdout haltsOnFailure) with
    ⟨_, _, hv, _⟩ | ⟨line, result, _, hcourse, hr⟩
  · rw [hv] at hm
    cases hm
  · have ht : (opened corpus line (freshSession world stdout haltsOnFailure)).tally =
        openTally corpus haltsOnFailure := rfl
    obtain ⟨failure, after, rfl, hfailure, haborted, hhalted⟩ := hcourse.flags_at_fault ht hm hf
    have hfailed := failed_eq_zero_iff hcourse ht
    rw [reached_error] at hfailed
    refine ⟨failure, after, hr, hfailure, hhalted, ?_⟩
    rw [Tally.succeeded_iff, hfailed, haborted, and_comm]

/-! ### Sources that are in each other's way -/

/-- The compiler `/solc`. -/
def rootSolc : Solc := ⟨Path.ofPlace ["solc"], 4⟩

/-- A walk that goes by markers, with scratch directories below the root directory. -/
def markerWalk (machine : Machine) : Walk :=
  ⟨MarkerSplit.splitter, rootSolc.compiler machine, none, Path.ofPlace []⟩

/-- A machine that starts nothing. -/
def refusingMachine : Machine := ⟨fun _ _ tree => (.refused "absent", tree)⟩

/-- The entry `/e`. -/
def soleEntry : Entry := ⟨Path.ofPlace [['e']]⟩

/-- A world that holds that entry alone. -/
def soleWorld (content : Text) : World :=
  ⟨⟨[([['e']], .file (Utf8.encode content))]⟩, [], [], []⟩

/-- A session over that entry. -/
def soleSession (content : Text) : Session := freshSession (soleWorld content) [] false

/-- The one visit of a walk over that entry. -/
def soleVisit (content : Text) : Visit :=
  ⟨0, soleEntry, ⟨soleWorld content, "Looking at 1 .sol files...\n", openTally [soleEntry] false⟩⟩

/-- The name of the first source leads out of the working directory. -/
def escaping : Text := "==== Source: ../a ====\n"

/-- The second source is to be below the first one. -/
def nested : Text := "==== Source: a ====\n==== Source: a/b ====\n"

/-- The one visit of a walk over one entry. -/
theorem runVisits_single (walk : Walk) (entry : Entry) (world : World) :
    walk.runVisits [entry] ".sol" (freshSession world [] false) =
      [⟨0, entry, ⟨world, "Looking at 1 .sol files...\n", openTally [entry] false⟩⟩] := by
  have announced : announce [entry] ".sol" (freshSession world [] false) =
      .ok () ⟨world, "Looking at 1 .sol files...\n", openTally [entry] false⟩ := by
    rw [announce]
    refine bind_ok.2 ⟨_, _, rfl, ?_⟩
    cbv
  rw [runVisits, announced]
  simp only [visits]
  split <;> rfl

theorem runVisits_soleEntry (walk : Walk) (world : World) :
    walk.runVisits [soleEntry] ".sol" (freshSession world [] false) =
      [⟨0, soleEntry, ⟨world, "Looking at 1 .sol files...\n", openTally [soleEntry] false⟩⟩] :=
  walk.runVisits_single soleEntry world

theorem runVisits_sole (walk : Walk) (content : Text) :
    walk.runVisits [soleEntry] ".sol" (soleSession content) = [soleVisit content] :=
  walk.runVisits_soleEntry (soleWorld content)

theorem soleVisit_mem (walk : Walk) (content : Text) :
    soleVisit content ∈ walk.runVisits [soleEntry] ".sol" (soleSession content) := by
  rw [runVisits_sole]
  exact List.mem_cons_self

theorem flags_of_fault_escaping :
    ∃ failure after,
      (markerWalk refusingMachine).run [soleEntry] ".sol" (soleSession escaping) =
        .error failure after ∧
      after.tally.halted = true ∧ after.tally.succeeded = false := by
  have ended : (soleVisit escaping).fault? (markerWalk refusingMachine) =
      some (.abort (.splitter (.invalidName soleEntry "../a"))) := by
    cbv
  obtain ⟨failure, after, hr, -, hhalted, hsucceeded⟩ :=
    flags_of_fault (markerWalk refusingMachine) [soleEntry] ".sol" (soleWorld escaping) [] false
      (soleVisit_mem _ escaping) ended
  refine ⟨failure, after, hr, hhalted, ?_⟩
  rw [← Bool.not_eq_true, hsucceeded]
  exact fun h => Bool.noConfusion h.1

/-- A run that a system error ends in the middle of a split is taken for one that
succeeded, and it is not halted. -/
theorem nested_sources_pass_for_success :
    ∃ visit fault after,
      visit ∈ (markerWalk refusingMachine).runVisits [soleEntry] ".sol" (soleSession nested) ∧
      visit.fault? (markerWalk refusingMachine) = some fault ∧
      (markerWalk refusingMachine).run [soleEntry] ".sol" (soleSession nested) =
        .error fault after ∧
      after.tally.halted = false ∧ after.tally.succeeded = true :=
  ⟨soleVisit nested, .file (.system .alreadyExists "/ast-roundtrip-0/a"),
    ⟨soleWorld nested, "Looking at 1 .sol files...\n·", openTally [soleEntry] false⟩,
    soleVisit_mem _ nested, by cbv, by cbv, rfl, rfl⟩

end Walk
end Reimport
