import Reimport.Proofs.Walk.GivenUp

/-!
# Running a walk again

A walk can be run more than once on the same counters.  Each run counts its own corpus as the
sources, but adds its outcomes to those of the runs before it (`tallyAfterCall_eq`), and it asks
whether the run is halted only when an outcome is recorded.  So the counters of a row of runs are
the numbers of all outcomes, while the sources are those of the last run alone, and a run that is
called when the counters are halted takes its first entry all the same, and no other
(`counters_of_calls`).  Neither bound on the counters nor the halt is lost in a first run
(`Walk.account_run`); two more runs lose both (`calls_go_on_when_halted`).
-/
namespace Reimport

namespace Tally

/-- What is halted stays halted. -/
theorem halted_after_of_halted {tally : Tally} (h : tally.halted = true) (outcome : Outcome) :
    (tally.after outcome).halted = true := by
  cases outcome with
  | passed _ => exact h
  | uncompilable _ => exact h
  | mismatched _ _ _ =>
    show (tally.statistics.haltedEarly || tally.statistics.exitOnFirstFailure) = true
    rw [show tally.statistics.haltedEarly = true from h, Bool.true_or]
  | exportFailed _ => rfl
  | importFailed _ => rfl

theorem halted_afterAll_of_halted {tally : Tally} (h : tally.halted = true)
    (outcomes : List Outcome) : (tally.afterAll outcomes).halted = true := by
  induction outcomes generalizing tally with
  | nil => exact h
  | cons outcome rest ih => exact ih (halted_after_of_halted h outcome)

end Tally

/-- One call of a run, with the files and the standard output as they are then. -/
structure RunCall where
  /-- The entries to be processed. -/
  corpus : List Entry
  /-- What kind of files they are. -/
  label : Text
  /-- The world at that time. -/
  world : World
  /-- What has been printed by then. -/
  stdout : Text

namespace RunCall

/-- The session in which a run is called on given counters. -/
def session (call : RunCall) (tally : Tally) : Session := ⟨call.world, call.stdout, tally⟩

end RunCall

namespace Walk

/-- The counters after one more call, however it ends. -/
def tallyAfterCall (walk : Walk) (tally : Tally) (call : RunCall) : Tally :=
  (reached (walk.run call.corpus call.label (call.session tally))).tally

/-- The counters after calls in order. -/
def tallyAfterCalls (walk : Walk) (tally : Tally) (calls : List RunCall) : Tally :=
  calls.foldl walk.tallyAfterCall tally

/-- The visits of a call on given counters. -/
def visitsOfCall (walk : Walk) (tally : Tally) (call : RunCall) : List Visit :=
  walk.runVisits call.corpus call.label (call.session tally)

/-- The visits of calls in order. -/
def visitsOfCalls (walk : Walk) : Tally → List RunCall → List Visit
  | _, [] => []
  | tally, call :: rest =>
    walk.visitsOfCall tally call ++ walk.visitsOfCalls (walk.tallyAfterCall tally call) rest

@[simp] theorem tallyAfterCalls_nil (walk : Walk) (tally : Tally) :
    walk.tallyAfterCalls tally [] = tally := rfl

@[simp] theorem tallyAfterCalls_cons (walk : Walk) (tally : Tally) (call : RunCall)
    (rest : List RunCall) :
    walk.tallyAfterCalls tally (call :: rest) =
      walk.tallyAfterCalls (walk.tallyAfterCall tally call) rest := rfl

theorem tallyAfterCalls_append (walk : Walk) (tally : Tally) (earlier later : List RunCall) :
    walk.tallyAfterCalls tally (earlier ++ later) =
      walk.tallyAfterCalls (walk.tallyAfterCalls tally earlier) later :=
  List.foldl_append

theorem outcomes_append (walk : Walk) (visits more : List Visit) :
    walk.outcomes (visits ++ more) = walk.outcomes visits ++ walk.outcomes more :=
  List.filterMap_append

/-! ## One call -/

section OneCall
variable (walk : Walk) (tally : Tally) (call : RunCall)

/-- The counters in which a call has counted its sources. -/
def tallyOnCall : Tally := (withSources call.corpus (call.session tally)).tally

/-- **What one call makes of the counters.**  It counts its own sources, adds the outcomes of its
visits, and may be given up. -/
theorem tallyAfterCall_eq :
    walk.tallyAfterCall tally call =
        (tallyOnCall tally call).afterAll (walk.outcomes (walk.visitsOfCall tally call)) ∨
      walk.tallyAfterCall tally call =
        ((tallyOnCall tally call).afterAll (walk.outcomes (walk.visitsOfCall tally call))).abort := by
  rw [tallyAfterCall, visitsOfCall]
  rcases walk.run_cases call.corpus call.label (call.session tally) with
    ⟨fault, _, hv, hr⟩ | ⟨line, result, _, course, hr⟩
  · rw [hv, hr]
    exact .inl rfl
  · rw [hr, tally_finished]
    exact course.tally

theorem counters_afterCall :
    (walk.tallyAfterCall tally call).statistics.tested = tally.statistics.tested +
        (walk.outcomes (walk.visitsOfCall tally call)).countP Outcome.isTested ∧
      (walk.tallyAfterCall tally call).statistics.failed = tally.statistics.failed +
        (walk.outcomes (walk.visitsOfCall tally call)).countP Outcome.isMismatch ∧
      (walk.tallyAfterCall tally call).statistics.uncompilable = tally.statistics.uncompilable +
        (walk.outcomes (walk.visitsOfCall tally call)).countP Outcome.isUncompilable := by
  have counted := (tallyOnCall tally call).counters_afterAll
    (walk.outcomes (walk.visitsOfCall tally call))
  rcases walk.tallyAfterCall_eq tally call with h | h
  · rw [h]
    exact counted
  · rw [h]
    exact counted

theorem totalSources_afterCall :
    (walk.tallyAfterCall tally call).statistics.totalSources = call.corpus.length := by
  have kept := (tallyOnCall tally call).totalSources_afterAll
    (walk.outcomes (walk.visitsOfCall tally call))
  rcases walk.tallyAfterCall_eq tally call with h | h
  · rw [h]
    exact kept
  · rw [h]
    exact kept

theorem halted_afterCall (halted : tally.halted = true) :
    (walk.tallyAfterCall tally call).halted = true := by
  rcases walk.tallyAfterCall_eq tally call with h | h
  · rw [h]
    exact Tally.halted_afterAll_of_halted (show (tallyOnCall tally call).halted = true from halted) _
  · rw [h]
    rfl

/-- The entries of a call are visited from the first one on. -/
theorem entries_of_call : (walk.visitsOfCall tally call).map Visit.entry <+: call.corpus := by
  rw [visitsOfCall]
  rcases walk.run_cases call.corpus call.label (call.session tally) with
    ⟨fault, _, hv, _⟩ | ⟨line, result, _, course, _⟩
  · rw [hv]
    exact List.nil_prefix
  · exact course.entries_prefix

/-- No call has more outcomes than entries. -/
theorem outcomes_of_call_le :
    (walk.outcomes (walk.visitsOfCall tally call)).length ≤ call.corpus.length := by
  have visited := (entries_of_call walk tally call).length_le
  rw [List.length_map] at visited
  exact (outcomes_length_le walk _).trans visited

/-- A visit that is begun halted is the first one of a call on halted counters. -/
theorem halted_of_start {k : Nat} {visit : Visit}
    (hk : (walk.visitsOfCall tally call)[k]? = some visit)
    (halted : visit.start.tally.halted = true) : k = 0 ∧ tally.halted = true := by
  rw [visitsOfCall] at hk
  rcases walk.run_cases call.corpus call.label (call.session tally) with
    ⟨fault, _, hv, _⟩ | ⟨line, result, _, course, _⟩
  · rw [hv] at hk
    cases hk
  · obtain ⟨_, started, _, first | going⟩ := course.start hk
    · subst first
      rw [started] at halted
      exact ⟨rfl, halted⟩
    · rw [halted] at going
      cases going

end OneCall

/-- On halted counters a course ends with its first visit. -/
theorem Course.entries_of_halted {walk : Walk} {index : Nat} {corpus : List Entry}
    {session : Session} {visits : List Visit} {result : EStateM.Result Failure Session Unit}
    (h : Course walk index corpus session visits result) (halted : session.tally.halted = true) :
    visits.map Visit.entry = corpus.take 1 := by
  cases h with
  | done _ _ => rfl
  | goesOn ending _ =>
    obtain ⟨outcome, _, _, going, _⟩ := ending_ok ending
    rw [Tally.halted_after_of_halted halted] at going
    cases going
  | halts _ => rfl
  | fails _ => rfl

/-- **A call on halted counters takes its first entry all the same**, and no other. -/
theorem entries_of_halted_call {walk : Walk} {tally : Tally} {call : RunCall} {line : Text}
    (shown : Console.styled (openingLine call.corpus call.label) Console.newline = .ok line)
    (halted : tally.halted = true) :
    (walk.visitsOfCall tally call).map Visit.entry = call.corpus.take 1 := by
  rw [visitsOfCall]
  rcases walk.run_cases call.corpus call.label (call.session tally) with
    ⟨fault, unshown, _, _⟩ | ⟨_, result, _, course, _⟩
  · rw [shown] at unshown
    cases unshown
  · exact course.entries_of_halted halted

/-! ## A row of calls -/

section Calls
variable (walk : Walk) (tally : Tally) (calls : List RunCall)

/-- The counters of a row of calls add up the outcomes of all of them. -/
theorem counters_afterCalls :
    (walk.tallyAfterCalls tally calls).statistics.tested = tally.statistics.tested +
        (walk.outcomes (walk.visitsOfCalls tally calls)).countP Outcome.isTested ∧
      (walk.tallyAfterCalls tally calls).statistics.failed = tally.statistics.failed +
        (walk.outcomes (walk.visitsOfCalls tally calls)).countP Outcome.isMismatch ∧
      (walk.tallyAfterCalls tally calls).statistics.uncompilable =
        tally.statistics.uncompilable +
          (walk.outcomes (walk.visitsOfCalls tally calls)).countP Outcome.isUncompilable := by
  induction calls generalizing tally with
  | nil => simp [visitsOfCalls]
  | cons call rest ih =>
    obtain ⟨tested, failed, uncompilable⟩ := walk.counters_afterCall tally call
    obtain ⟨testedLater, failedLater, uncompilableLater⟩ := ih (walk.tallyAfterCall tally call)
    simp only [tallyAfterCalls_cons, visitsOfCalls, outcomes_append, List.countP_append]
    push_cast
    refine ⟨?_, ?_, ?_⟩
    · omega
    · omega
    · omega

theorem outcomes_of_calls_le :
    (walk.outcomes (walk.visitsOfCalls tally calls)).length ≤
      (calls.map fun call => call.corpus.length).sum := by
  induction calls generalizing tally with
  | nil => exact Nat.le_refl 0
  | cons call rest ih =>
    have here := walk.outcomes_of_call_le tally call
    have later := ih (walk.tallyAfterCall tally call)
    simp only [visitsOfCalls, outcomes_append, List.length_append, List.map_cons, List.sum_cons]
    omega

theorem halted_afterCalls {tally : Tally} (halted : tally.halted = true) :
    (walk.tallyAfterCalls tally calls).halted = true := by
  induction calls generalizing tally with
  | nil => exact halted
  | cons call rest ih => exact ih (walk.halted_afterCall tally call halted)

end Calls

/-- The counters before the first call. -/
def freshTally (haltsOnFailure : Bool) : Tally := .ofStatistics (.fresh haltsOnFailure)

/-- **What a row of calls makes of fresh counters.** -/
structure Recounted (walk : Walk) (haltsOnFailure : Bool) (calls : List RunCall) (tally : Tally)
    (outcomes : List Outcome) : Prop where
  /-- The tested entries are those of all calls that passed or mismatched. -/
  tested : tally.statistics.tested = outcomes.countP Outcome.isTested
  /-- The failed entries are those of all calls that mismatched. -/
  failed : tally.statistics.failed = outcomes.countP Outcome.isMismatch
  /-- The uncompilable entries are those of all calls that the compiler rejects. -/
  uncompilable : tally.statistics.uncompilable = outcomes.countP Outcome.isUncompilable
  /-- No entry failed that was not tested. -/
  failed_le : 0 ≤ tally.statistics.failed ∧ tally.statistics.failed ≤ tally.statistics.tested
  /-- No more entries are counted than all calls together have been given. -/
  processed_le : tally.statistics.tested + tally.statistics.uncompilable ≤
    (calls.map fun call => call.corpus.length).sum
  /-- The sources are those of the last call. -/
  totalSources : ∀ earlier last, calls = earlier ++ [last] →
    tally.statistics.totalSources = last.corpus.length
  /-- Where no call but the last one has counted an entry, no more entries are counted than
  there are sources. -/
  within : ∀ earlier last, calls = earlier ++ [last] →
    (walk.tallyAfterCalls (freshTally haltsOnFailure) earlier).statistics.processed = 0 →
    tally.statistics.tested + tally.statistics.uncompilable ≤ tally.statistics.totalSources
  /-- A call on halted counters visits its first entry, once its opening line is shown, and no
  other one, and the counters stay halted. -/
  goesOn : ∀ earlier call later, calls = earlier ++ call :: later →
    (walk.tallyAfterCalls (freshTally haltsOnFailure) earlier).halted = true →
      (∀ line, Console.styled (openingLine call.corpus call.label) Console.newline = .ok line →
        (walk.visitsOfCall (walk.tallyAfterCalls (freshTally haltsOnFailure) earlier) call).map
          Visit.entry = call.corpus.take 1) ∧
      tally.halted = true
  /-- No other visit is begun halted. -/
  elsewhere : ∀ earlier call later, calls = earlier ++ call :: later →
    ∀ (k : Nat) (visit : Visit),
      (walk.visitsOfCall (walk.tallyAfterCalls (freshTally haltsOnFailure) earlier) call)[k]? =
        some visit →
      visit.start.tally.halted = true →
        k = 0 ∧ (walk.tallyAfterCalls (freshTally haltsOnFailure) earlier).halted = true

/-- **Every row of runs adds up its outcomes**, whatever their corpora and however they end: it
keeps the bounds on what has failed and on what is counted in all, and past a halt it takes one
entry a call. -/
theorem counters_of_calls (walk : Walk) (haltsOnFailure : Bool) (calls : List RunCall) :
    Recounted walk haltsOnFailure calls
      (walk.tallyAfterCalls (freshTally haltsOnFailure) calls)
      (walk.outcomes (walk.visitsOfCalls (freshTally haltsOnFailure) calls)) := by
  have fresh : (freshTally haltsOnFailure).statistics.tested = 0 ∧
      (freshTally haltsOnFailure).statistics.failed = 0 ∧
      (freshTally haltsOnFailure).statistics.uncompilable = 0 := ⟨rfl, rfl, rfl⟩
  obtain ⟨tested, failed, uncompilable⟩ :=
    walk.counters_afterCalls (freshTally haltsOnFailure) calls
  rw [fresh.1, Int.zero_add] at tested
  rw [fresh.2.1, Int.zero_add] at failed
  rw [fresh.2.2, Int.zero_add] at uncompilable
  have mismatches := Outcome.countP_isMismatch_le
    (walk.outcomes (walk.visitsOfCalls (freshTally haltsOnFailure) calls))
  have counted := Outcome.countP_add_le
    (walk.outcomes (walk.visitsOfCalls (freshTally haltsOnFailure) calls))
  have given := walk.outcomes_of_calls_le (freshTally haltsOnFailure) calls
  refine ⟨tested, failed, uncompilable, by omega, by omega, ?_, ?_, ?_, ?_⟩
  · rintro earlier last rfl
    rw [tallyAfterCalls_append]
    exact walk.totalSources_afterCall _ last
  · rintro earlier last rfl uncounted
    rw [tallyAfterCalls_append, tallyAfterCalls_cons, tallyAfterCalls_nil]
    obtain ⟨testedLast, _, uncompilableLast⟩ := walk.counters_afterCall
      (walk.tallyAfterCalls (freshTally haltsOnFailure) earlier) last
    have sources := walk.totalSources_afterCall
      (walk.tallyAfterCalls (freshTally haltsOnFailure) earlier) last
    have countedLast := Outcome.countP_add_le (walk.outcomes
      (walk.visitsOfCall (walk.tallyAfterCalls (freshTally haltsOnFailure) earlier) last))
    have givenLast := walk.outcomes_of_call_le
      (walk.tallyAfterCalls (freshTally haltsOnFailure) earlier) last
    rw [Statistics.processed] at uncounted
    omega
  · rintro earlier call later rfl halted
    refine ⟨fun line shown => entries_of_halted_call shown halted, ?_⟩
    rw [tallyAfterCalls_append]
    exact walk.halted_afterCalls (call :: later) halted
  · rintro earlier call later rfl k visit hk halted
    exact walk.halted_of_start _ call hk halted

/-! ### Runs after a halt -/

/-- The run over the entry `/e` with a given content. -/
def soleCall (content : Text) : RunCall := ⟨[soleEntry], ".sol", soleWorld content, []⟩

/-- The counters of a run that a finding about the tools has ended, after `rejected` more entries
that the compiler rejects. -/
def haltedTally (rejected : Int) : Tally := ⟨⟨0, 0, rejected, 1, false, true⟩, true⟩

theorem tallyAfterCall_escaping :
    (markerWalk refusingMachine).tallyAfterCall (freshTally false) (soleCall escaping) =
      haltedTally 0 := by
  cbv

theorem tallyAfterCall_rejected :
    (markerWalk refusingMachine).tallyAfterCall (haltedTally 0) (soleCall []) = haltedTally 1 ∧
      (markerWalk refusingMachine).tallyAfterCall (haltedTally 1) (soleCall []) =
        haltedTally 2 := by
  constructor
  · cbv
  · cbv

/-- **Runs go on after a halt.**  The first of three runs over one entry each halts the counters,
the other two visit their entries, and in the end more entries are counted than there are
sources. -/
theorem calls_go_on_when_halted :
    ((markerWalk refusingMachine).tallyAfterCalls (freshTally false)
        [soleCall escaping]).halted = true ∧
      ((markerWalk refusingMachine).visitsOfCall ((markerWalk refusingMachine).tallyAfterCalls
        (freshTally false) [soleCall escaping]) (soleCall [])).map Visit.entry = [soleEntry] ∧
      ∃ statistics,
        ((markerWalk refusingMachine).tallyAfterCalls (freshTally false)
          [soleCall escaping, soleCall [], soleCall []]).statistics = statistics ∧
        ¬ statistics.tested + statistics.uncompilable ≤ statistics.totalSources := by
  have announced : Console.styled (openingLine [soleEntry] ".sol") Console.newline =
      .ok "Looking at 1 .sol files...\n" := by
    cbv
  simp only [tallyAfterCalls_cons, tallyAfterCalls_nil, tallyAfterCall_escaping,
    tallyAfterCall_rejected]
  exact ⟨rfl, entries_of_halted_call announced rfl, _, rfl, by decide⟩

end Walk
end Reimport
