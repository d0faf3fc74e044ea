import Reimport.Proofs.Walk.Visits

/-!
# The account of a run

A run that begins with fresh counters keeps account of its entries at every step:
the counters after `k` visits are the numbers of the outcomes of these visits, no
entry is begun once the run is halted, and the marks on the standard output are
those of the visits, one for one.  At the end either all entries were visited, or
a mismatch halted the run as it was told to, or a failure ended it; a finding
about the tools leaves the counters as they were before the entry that gave it.

Everything is proved of a `Walk.Course` from any tally on, by induction on its
visits, and then read off for the fresh one.
-/
namespace Reimport

namespace Tally

@[simp] theorem exitOnFirstFailure_after (tally : Tally) (outcome : Outcome) :
    (tally.after outcome).statistics.exitOnFirstFailure = tally.statistics.exitOnFirstFailure := by
  cases outcome <;> rfl

@[simp] theorem totalSources_after (tally : Tally) (outcome : Outcome) :
    (tally.after outcome).statistics.totalSources = tally.statistics.totalSources := by
  cases outcome <;> rfl

@[simp] theorem succeeded_abort (tally : Tally) : tally.abort.succeeded = false :=
  Bool.and_false _

theorem succeeded_iff {tally : Tally} :
    tally.succeeded = true ↔ tally.statistics.failed = 0 ∧ tally.aborted = false := by
  simp [succeeded]

/-- An outcome that is no breakdown halts a run only as a mismatch of a run that is
told to halt on one. -/
theorem halted_after {outcome : Outcome} (whole : outcome.isBreakdown = false) (tally : Tally) :
    (tally.after outcome).halted =
      (tally.halted || (outcome.isMismatch && tally.statistics.exitOnFirstFailure)) := by
  cases outcome with
  | passed _ => simp [after, halted, Outcome.isMismatch]
  | uncompilable _ => simp [after, halted, Outcome.isMismatch]
  | mismatched _ _ _ => simp [after, halted, Outcome.isMismatch]
  | exportFailed _ => cases whole
  | importFailed _ => cases whole

/-- The tally after outcomes in order. -/
def afterAll (tally : Tally) (outcomes : List Outcome) : Tally := outcomes.foldl after tally

@[simp] theorem afterAll_nil (tally : Tally) : tally.afterAll [] = tally := rfl

@[simp] theorem afterAll_cons (tally : Tally) (outcome : Outcome) (rest : List Outcome) :
    tally.afterAll (outcome :: rest) = (tally.after outcome).afterAll rest := rfl

end Tally

namespace Outcome

/-- Whether an entry with this outcome was put to the test. -/
def isTested (outcome : Outcome) : Bool := outcome.isPass || outcome.isMismatch

theorem countP_isMismatch_le (outcomes : List Outcome) :
    outcomes.countP isMismatch ≤ outcomes.countP isTested :=
  List.countP_mono_left fun outcome _ h => by rw [isTested, h, Bool.or_true]

/-- No outcome is counted twice. -/
theorem countP_add_le (outcomes : List Outcome) :
    outcomes.countP isTested + outcomes.countP isUncompilable ≤ outcomes.length := by
  induction outcomes with
  | nil => simp
  | cons outcome rest ih =>
    rw [List.countP_cons, List.countP_cons, List.length_cons]
    cases outcome <;> simp [isTested, isPass, isMismatch, isUncompilable] <;> omega

/-- Every outcome but a breakdown is counted. -/
theorem countP_add_eq {outcomes : List Outcome} (h : ∀ o ∈ outcomes, o.isBreakdown = false) :
    outcomes.countP isTested + outcomes.countP isUncompilable = outcomes.length := by
  induction outcomes with
  | nil => simp
  | cons outcome rest ih =>
    have hr := ih fun o ho => h o (List.mem_cons_of_mem _ ho)
    have ho := h outcome List.mem_cons_self
    rw [List.countP_cons, List.countP_cons, List.length_cons]
    cases outcome with
    | exportFailed _ => cases ho
    | importFailed _ => cases ho
    | passed _ | uncompilable _ | mismatched _ _ _ =>
      simp [isTested, isPass, isMismatch, isUncompilable]
      omega

end Outcome

namespace Statistics

/-- The counters agree with `visited` visits of a corpus of `size` entries. -/
structure Consistent (s : Statistics) (visited size : Nat) : Prop where
  failed_nonneg : 0 ≤ s.failed
  failed_le_tested : s.failed ≤ s.tested
  processed_le_visited : s.tested + s.uncompilable ≤ visited
  visited_le_size : visited ≤ size
  totalSources_eq : s.totalSources = size

end Statistics

namespace Tally

theorem tested_after (tally : Tally) (outcome : Outcome) :
    (tally.after outcome).statistics.tested =
      tally.statistics.tested + if outcome.isTested then 1 else 0 := by
  cases outcome <;> simp [after, abort, Outcome.isTested, Outcome.isPass, Outcome.isMismatch]

theorem failed_after (tally : Tally) (outcome : Outcome) :
    (tally.after outcome).statistics.failed =
      tally.statistics.failed + if outcome.isMismatch then 1 else 0 := by
  cases outcome <;> simp [after, abort, Outcome.isMismatch]

theorem uncompilable_after (tally : Tally) (outcome : Outcome) :
    (tally.after outcome).statistics.uncompilable =
      tally.statistics.uncompilable + if outcome.isUncompilable then 1 else 0 := by
  cases outcome <;> simp [after, abort, Outcome.isUncompilable]

/-- **The counters are the numbers of outcomes**, on top of what they began with. -/
theorem counters_afterAll (tally : Tally) (outcomes : List Outcome) :
    (tally.afterAll outcomes).statistics.tested =
        tally.statistics.tested + outcomes.countP Outcome.isTested ∧
      (tally.afterAll outcomes).statistics.failed =
        tally.statistics.failed + outcomes.countP Outcome.isMismatch ∧
      (tally.afterAll outcomes).statistics.uncompilable =
        tally.statistics.uncompilable + outcomes.countP Outcome.isUncompilable := by
  induction outcomes generalizing tally with
  | nil => simp
  | cons outcome rest ih =>
    obtain ⟨ht, hf, hu⟩ := ih (tally.after outcome)
    rw [tested_after] at ht
    rw [failed_after] at hf
    rw [uncompilable_after] at hu
    refine ⟨?_, ?_, ?_⟩
    · rw [afterAll_cons, ht, List.countP_cons]
      split <;> simp
      omega
    · rw [afterAll_cons, hf, List.countP_cons]
      split <;> simp
      omega
    · rw [afterAll_cons, hu, List.countP_cons]
      split <;> simp
      omega

@[simp] theorem totalSources_afterAll (tally : Tally) (outcomes : List Outcome) :
    (tally.afterAll outcomes).statistics.totalSources = tally.statistics.totalSources := by
  induction outcomes generalizing tally with
  | nil => rfl
  | cons outcome rest ih => rw [afterAll_cons, ih, totalSources_after]

/-- Outcomes that are no breakdowns do not give a run up. -/
theorem aborted_afterAll {outcomes : List Outcome} (h : ∀ o ∈ outcomes, o.isBreakdown = false)
    (tally : Tally) : (tally.afterAll outcomes).aborted = tally.aborted := by
  induction outcomes generalizing tally with
  | nil => rfl
  | cons outcome rest ih =>
    have whole := h outcome List.mem_cons_self
    rw [afterAll_cons, ih fun o ho => h o (List.mem_cons_of_mem _ ho)]
    cases outcome with
    | exportFailed _ => cases whole
    | importFailed _ => cases whole
    | passed _ => rfl
    | uncompilable _ => rfl
    | mismatched _ _ _ => rfl

end Tally

namespace Walk

/-- The outcomes of visits, in order. -/
def outcomes (walk : Walk) (visits : List Visit) : List Outcome :=
  visits.filterMap (Visit.outcome? walk)

@[simp] theorem outcomes_nil (walk : Walk) : walk.outcomes [] = [] := rfl

theorem outcomes_cons (walk : Walk) (visit : Visit) (rest : List Visit) :
    walk.outcomes (visit :: rest) = (visit.outcome? walk).toList ++ walk.outcomes rest := by
  rw [outcomes, outcomes, List.filterMap_cons]
  cases visit.outcome? walk <;> rfl

/-- Whether the entry of a visit mismatched. -/
def mismatchedIn (walk : Walk) (visit : Visit) : Bool :=
  (visit.outcome? walk).any Outcome.isMismatch

/-! ## What one visit shows of its end -/

section Endings
variable {walk : Walk} {visit : Visit} {stop : Bool} {failure : Failure} {after : Session}

/-- A visit that ends well has an outcome that is no breakdown, and that outcome is
counted. -/
theorem ending_ok (h : visit.ending walk = .ok stop after) :
    ∃ outcome, visit.outcome? walk = some outcome ∧ outcome.isBreakdown = false ∧
      stop = (visit.start.tally.after outcome).halted ∧
      after.tally = visit.start.tally.after outcome := by
  have ht := visit.taken walk
  rw [h] at ht
  generalize ho : visit.outcome? walk = outcome? at ht
  cases ht with
  | recorded whole => exact ⟨_, rfl, whole, rfl, rfl⟩

/-- A visit that ends with a finding about the tools has no outcome that is
counted. -/
theorem ending_abort (h : visit.ending walk = .error failure after)
    (finding : failure.isAbort = true) :
    after.tally = visit.start.tally.abort ∧
      ∀ outcome ∈ visit.outcome? walk, outcome.isBreakdown = true := by
  have ht := visit.taken walk
  rw [h] at ht
  generalize visit.outcome? walk = outcome? at ht ⊢
  cases ht with
  | aborted _ broken => exact ⟨rfl, broken⟩
  | lost mishap _ => rw [finding] at mishap; cases mishap

/-- However a visit ends, its outcome is counted, and the run may be given up. -/
theorem ending_tally (walk : Walk) (visit : Visit) :
    (reached (visit.ending walk)).tally = tallyAfter visit.start.tally (visit.outcome? walk) ∨
      (reached (visit.ending walk)).tally =
        (tallyAfter visit.start.tally (visit.outcome? walk)).abort := by
  have ht := visit.taken walk
  generalize visit.outcome? walk = outcome? at ht ⊢
  generalize visit.ending walk = result at ht ⊢
  cases ht with
  | recorded _ => exact .inl rfl
  | aborted _ broken => exact .inr (abort_tallyAfter broken _).symm
  | lost _ tally_eq => exact tally_eq

/-- However a visit ends, its marks are printed and nothing else. -/
theorem ending_stdout (walk : Walk) (visit : Visit) :
    (reached (visit.ending walk)).stdout = visit.start.stdout ++ marks (visit.outcome? walk) := by
  have ht := visit.taken walk
  generalize visit.outcome? walk = outcome? at ht ⊢
  generalize visit.ending walk = result at ht ⊢
  cases ht <;> rfl

end Endings

/-! ## What a course of visits keeps -/

section Courses
variable {walk : Walk} {index : Nat} {corpus : List Entry} {session : Session}
  {visits : List Visit} {result : EStateM.Result Failure Session Unit}

/-- The entries are visited in order from the first one on, under their numbers. -/
theorem Course.entries_prefix (h : Course walk index corpus session visits result) :
    visits.map Visit.entry <+: corpus := by
  induction h with
  | done _ _ => exact List.nil_prefix
  | goesOn _ _ ih => exact (List.cons_prefix_cons).mpr ⟨rfl, ih⟩
  | halts _ => exact (List.cons_prefix_cons).mpr ⟨rfl, List.nil_prefix⟩
  | fails _ => exact (List.cons_prefix_cons).mpr ⟨rfl, List.nil_prefix⟩

/-- Every visit is begun with the outcomes of the visits before it counted, each of
which had one and did not halt the run. -/
theorem Course.start (h : Course walk index corpus session visits result) {k : Nat}
    {visit : Visit} (hk : visits[k]? = some visit) :
    visit.index = index + k ∧
      visit.start.tally = session.tally.afterAll (walk.outcomes (visits.take k)) ∧
      (walk.outcomes (visits.take k)).length = k ∧
      (k = 0 ∨ visit.start.tally.halted = false) := by
  induction h generalizing k with
  | done _ _ => cases hk
  | @goesOn index entry rest session after visits result ending more ih =>
    obtain ⟨outcome, ho, _, hs, ha⟩ := ending_ok ending
    cases k with
    | zero =>
      cases hk
      exact ⟨rfl, rfl, rfl, .inl rfl⟩
    | succ k =>
      -- what is counted before a later visit is the outcome of this one and what comes between
      obtain ⟨hi, ht, hl, hh⟩ := ih hk
      rw [List.take_succ_cons, outcomes_cons, ho]
      refine ⟨by omega, ?_, by simp [hl], .inr ?_⟩
      · rw [ht, ha]
        rfl
      · rcases hh with rfl | hh
        · rw [ht, ha]
          exact hs.symm
        · exact hh
  | halts _ =>
    cases k with
    | zero =>
      cases hk
      exact ⟨rfl, rfl, rfl, .inl rfl⟩
    | succ k => cases hk
  | fails _ =>
    cases k with
    | zero =>
      cases hk
      exact ⟨rfl, rfl, rfl, .inl rfl⟩
    | succ k => cases hk

/-- At the end the outcomes of all visits are counted, and the run may have been
given up. -/
theorem Course.tally (h : Course walk index corpus session visits result) :
    (reached result).tally = session.tally.afterAll (walk.outcomes visits) ∨
      (reached result).tally = (session.tally.afterAll (walk.outcomes visits)).abort := by
  induction h with
  | done _ _ => exact .inl rfl
  | goesOn ending _ ih =>
    obtain ⟨outcome, ho, _, _, ha⟩ := ending_ok ending
    rw [outcomes_cons, ho]
    rw [ha] at ih
    exact ih
  | halts ending =>
    obtain ⟨outcome, ho, _, _, ha⟩ := ending_ok ending
    rw [outcomes_cons, ho]
    exact .inl ha
  | @fails index entry rest session after failure ending =>
    have ht := ending_tally walk ⟨index, entry, session⟩
    rw [ending] at ht
    rw [outcomes_cons, outcomes_nil, List.append_nil]
    cases ho : (⟨index, entry, session⟩ : Visit).outcome? walk <;> rw [ho] at ht <;> exact ht

/-- A course that ends well is not given up. -/
theorem Course.tally_of_ok {after : Session}
    (h : Course walk index corpus session visits (.ok () after)) :
    after.tally = session.tally.afterAll (walk.outcomes visits) := by
  generalize hr : (EStateM.Result.ok () after : EStateM.Result Failure Session Unit) = result at h
  induction h with
  | done _ _ =>
    cases hr
    rfl
  | goesOn ending _ ih =>
    obtain ⟨outcome, ho, _, _, ha⟩ := ending_ok ending
    rw [outcomes_cons, ho, ih hr, ha]
    rfl
  | halts ending =>
    obtain ⟨outcome, ho, _, _, ha⟩ := ending_ok ending
    cases hr
    rw [outcomes_cons, ho, ha]
    rfl
  | fails _ => cases hr

/-- The standard output grows by the marks of the visits. -/
theorem Course.stdout (h : Course walk index corpus session visits result) :
    (reached result).stdout =
      session.stdout ++ visits.flatMap fun visit => marks (visit.outcome? walk) := by
  induction h with
  | done _ _ => exact (List.append_nil _).symm
  | @goesOn index entry rest session after visits result ending _ ih =>
    have hs := ending_stdout walk ⟨index, entry, session⟩
    rw [ending] at hs
    rw [ih, List.flatMap_cons, ← List.append_assoc]
    exact congrArg (· ++ _) hs
  | @halts index entry rest session after ending =>
    have hs := ending_stdout walk ⟨index, entry, session⟩
    rw [ending] at hs
    simpa using hs
  | @fails index entry rest session after failure ending =>
    have hs := ending_stdout walk ⟨index, entry, session⟩
    rw [ending] at hs
    simpa using hs

/-- Every visit but the last goes on, and the course ends as its last visit does. -/
theorem Course.last (h : Course walk index corpus session visits result) {earlier : List Visit}
    {last : Visit} (hv : visits = earlier ++ [last]) :
    (∀ visit ∈ earlier, ∃ after, visit.ending walk = .ok false after) ∧
      reached result = reached (last.ending walk) := by
  induction h generalizing earlier with
  | done _ _ => simp at hv
  | @goesOn index entry rest session after visits result ending more ih =>
    cases earlier with
    | nil =>
      obtain ⟨rfl, rfl⟩ : (⟨index, entry, session⟩ : Visit) = last ∧ visits = [] := by
        simpa using hv
      refine ⟨fun _ hm => (nomatch hm), ?_⟩
      rw [ending]
      cases more
      rfl
    | cons first earlier =>
      obtain ⟨rfl, hrest⟩ :
          (⟨index, entry, session⟩ : Visit) = first ∧ visits = earlier ++ [last] := by
        simpa using hv
      obtain ⟨hall, hr⟩ := ih hrest
      refine ⟨?_, hr⟩
      intro visit hm
      rcases List.mem_cons.mp hm with rfl | hm
      · exact ⟨after, ending⟩
      · exact hall visit hm
  | @halts index entry rest session after ending =>
    obtain ⟨rfl, rfl⟩ : earlier = [] ∧ last = ⟨index, entry, session⟩ := by
      simpa [List.singleton_eq_append_iff] using hv
    exact ⟨fun _ hm => (nomatch hm), by rw [ending]; rfl⟩
  | @fails index entry rest session after failure ending =>
    obtain ⟨rfl, rfl⟩ : earlier = [] ∧ last = ⟨index, entry, session⟩ := by
      simpa [List.singleton_eq_append_iff] using hv
    exact ⟨fun _ hm => (nomatch hm), by rw [ending]; rfl⟩

/-- The first visit is begun where the course is, and each further one where the visit
before it has left the session. -/
theorem Course.linked (h : Course walk index corpus session visits result) :
    (∀ visit ∈ visits.head?, visit.start = session) ∧
      ∀ (k : Nat) (visit next : Visit), visits[k]? = some visit → visits[k + 1]? = some next →
        visit.ending walk = .ok false next.start := by
  induction h with
  | done _ _ => exact ⟨fun _ hm => (nomatch hm), fun _ _ _ hk => (nomatch hk)⟩
  | @goesOn index entry rest session after visits result ending more ih =>
    obtain ⟨hfirst, hnext⟩ := ih
    refine ⟨fun _ hm => by cases hm; rfl, ?_⟩
    intro k visit next hk hk'
    cases k with
    | zero =>
      cases hk
      rw [List.getElem?_cons_succ, ← List.head?_eq_getElem?] at hk'
      rw [hfirst next hk']
      exact ending
    | succ k => exact hnext k visit next hk hk'
  | halts _ => exact ⟨fun _ hm => by cases hm; rfl, fun _ _ _ _ hk' => (nomatch hk')⟩
  | fails _ => exact ⟨fun _ hm => by cases hm; rfl, fun _ _ _ _ hk' => (nomatch hk')⟩

/-- A course that ends well has visited all entries, or its last visit has halted it. -/
theorem Course.returns {after : Session}
    (h : Course walk index corpus session visits (.ok () after)) :
    (∀ visit ∈ visits, ∃ stop after, visit.ending walk = .ok stop after) ∧
      (visits.map Visit.entry = corpus ∨
        ∃ earlier last, visits = earlier ++ [last] ∧ last.ending walk = .ok true after) := by
  generalize hr : (EStateM.Result.ok () after : EStateM.Result Failure Session Unit) = result at h
  induction h with
  | done _ _ => exact ⟨fun _ hm => (nomatch hm), .inl rfl⟩
  | @goesOn index entry rest session next visits result ending more ih =>
    obtain ⟨hall, hend⟩ := ih hr
    refine ⟨?_, ?_⟩
    · intro visit hm
      rcases List.mem_cons.mp hm with rfl | hm
      · exact ⟨false, next, ending⟩
      · exact hall visit hm
    · rcases hend with hend | ⟨earlier, last, rfl, hlast⟩
      · exact .inl (congrArg (entry :: ·) hend)
      · exact .inr ⟨_ :: earlier, last, rfl, hlast⟩
  | @halts index entry rest session next ending =>
    cases hr
    refine ⟨?_, .inr ⟨[], _, rfl, ending⟩⟩
    intro visit hm
    rw [List.mem_singleton.mp hm]
    exact ⟨true, after, ending⟩
  | fails _ => cases hr

/-- A visit that fails ends its course. -/
theorem Course.result_of_error (h : Course walk index corpus session visits result)
    {visit : Visit} (hm : visit ∈ visits) {failure : Failure} {after : Session}
    (he : visit.ending walk = .error failure after) : result = .error failure after := by
  induction h with
  | done _ _ => cases hm
  | goesOn ending _ ih =>
    rcases List.mem_cons.1 hm with rfl | hm
    · cases ending.symm.trans he
    · exact ih hm
  | halts ending =>
    rw [List.mem_singleton.1 hm] at he
    cases ending.symm.trans he
  | fails ending =>
    rw [List.mem_singleton.1 hm] at he
    cases ending.symm.trans he
    rfl

/-- A course that ends with a failure ends with that of its last visit. -/
theorem Course.failsLast {after : Session} {failure : Failure}
    (h : Course walk index corpus session visits (.error failure after)) :
    ∃ earlier last, visits = earlier ++ [last] ∧ last.ending walk = .error failure after := by
  generalize hr : (EStateM.Result.error failure after : EStateM.Result Failure Session Unit) =
    result at h
  induction h with
  | done _ _ => cases hr
  | goesOn _ _ ih =>
    obtain ⟨earlier, last, rfl, hlast⟩ := ih hr
    exact ⟨_ :: earlier, last, rfl, hlast⟩
  | halts _ => cases hr
  | fails ending =>
    cases hr
    exact ⟨[], _, rfl, ending⟩

end Courses

/-! ## Runs -/

/-- The line that opens a run. -/
def openingLine (corpus : List Entry) (label : Text) : Text :=
  .join ["Looking at ", Text.decimalNat corpus.length, " ", label, " files..."]

/-- A session in which the sources of a run are counted. -/
def withSources (corpus : List Entry) (session : Session) : Session :=
  { session with tally := { session.tally with
      statistics := { session.tally.statistics with totalSources := corpus.length } } }

/-- A session in which a run has been opened with a line. -/
def opened (corpus : List Entry) (line : Text) (session : Session) : Session :=
  { withSources corpus session with stdout := session.stdout ++ line }

/-- Counts the sources and prints the opening line. -/
def announce (corpus : List Entry) (label : Text) : Step Unit := do
  Session.count fun tally =>
    { tally with statistics := { tally.statistics with totalSources := corpus.length } }
  Session.print (openingLine corpus label) Console.newline

/-- The visits of a run; there are none if its opening line cannot be shown. -/
def runVisits (walk : Walk) (corpus : List Entry) (label : Text) (session : Session) :
    List Visit :=
  match announce corpus label session with
  | .ok _ opened => walk.visits 0 corpus opened
  | .error _ _ => []

/-- The end of a run after the end of its visits. -/
def finished : EStateM.Result Failure Session Unit → EStateM.Result Failure Session Statistics
  | .ok _ after =>
    .ok after.tally.statistics { after with stdout := after.stdout ++ Console.newline }
  | .error failure after => .error failure after

/-- The closing line feed changes neither the tally nor the world. -/
theorem world_finished (result : EStateM.Result Failure Session Unit) :
    (reached (finished result)).world = (reached result).world := by
  cases result <;> rfl

theorem tally_finished (result : EStateM.Result Failure Session Unit) :
    (reached (finished result)).tally = (reached result).tally := by
  cases result <;> rfl

theorem run_eq (walk : Walk) (corpus : List Entry) (label : Text) (session : Session) :
    walk.run corpus label session =
      (announce corpus label >>= fun _ => walk.entries 0 corpus >>= fun _ =>
        Session.print [] Console.newline >>= fun _ => do return (← get).tally.statistics)
        session := rfl

/-- A run ends at its opening line, or it is a course of visits between the opening
line and a line feed. -/
theorem run_cases (walk : Walk) (corpus : List Entry) (label : Text) (session : Session) :
    (∃ fault, Console.styled (openingLine corpus label) Console.newline = .error fault ∧
        walk.runVisits corpus label session = [] ∧
        walk.run corpus label session = .error (.markup fault) (withSources corpus session)) ∨
      ∃ line result, Console.styled (openingLine corpus label) Console.newline = .ok line ∧
        Course walk 0 corpus (opened corpus line session)
          (walk.runVisits corpus label session) result ∧
        walk.run corpus label session = finished result := by
  have ha : announce corpus label session =
      Session.print (openingLine corpus label) Console.newline (withSources corpus session) := rfl
  rw [run_eq, runVisits]
  cases hl : Console.styled (openingLine corpus label) Console.newline with
  | error fault =>
    rw [Session.print, hl] at ha
    exact .inl ⟨fault, rfl, by rw [ha], bind_of_error ha⟩
  | ok line =>
    rw [Session.print, hl] at ha
    refine .inr ⟨line, walk.entries 0 corpus (opened corpus line session), rfl, ?_, ?_⟩
    · rw [ha]
      exact walk.course corpus 0 (opened corpus line session)
    · rw [bind_of_ok ha]
      cases he : walk.entries 0 corpus (opened corpus line session) with
      | ok _ after => exact bind_of_ok he
      | error failure after => exact bind_of_error he

/-- A session that begins with fresh counters. -/
def freshSession (world : World) (stdout : Text) (haltsOnFailure : Bool) : Session :=
  ⟨world, stdout, .ofStatistics (.fresh haltsOnFailure)⟩

/-- The tally of a run with fresh counters, once it is opened. -/
def openTally (corpus : List Entry) (haltsOnFailure : Bool) : Tally :=
  .ofStatistics { Statistics.fresh haltsOnFailure with totalSources := corpus.length }

/-- Counting outcomes on top of fresh counters gives their numbers. -/
theorem openTally_afterAll (corpus : List Entry) (haltsOnFailure : Bool)
    (outcomes : List Outcome) :
    ((openTally corpus haltsOnFailure).afterAll outcomes).statistics.tested =
        outcomes.countP Outcome.isTested ∧
      ((openTally corpus haltsOnFailure).afterAll outcomes).statistics.failed =
        outcomes.countP Outcome.isMismatch ∧
      ((openTally corpus haltsOnFailure).afterAll outcomes).statistics.uncompilable =
        outcomes.countP Outcome.isUncompilable ∧
      ((openTally corpus haltsOnFailure).afterAll outcomes).statistics.totalSources =
        corpus.length := by
  obtain ⟨ht, hf, hu⟩ := (openTally corpus haltsOnFailure).counters_afterAll outcomes
  refine ⟨ht.trans (Int.zero_add _), hf.trans (Int.zero_add _), hu.trans (Int.zero_add _), ?_⟩
  rw [Tally.totalSources_afterAll]
  rfl

/-- **The account of a run** over a corpus, by its visits and its end. -/
structure Account (walk : Walk) (corpus : List Entry) (label : Text) (world : World)
    (stdout : Text) (haltsOnFailure : Bool) (visits : List Visit)
    (result : EStateM.Result Failure Session Statistics) : Prop where
  /-- The entries are visited in their order, from the first one on. -/
  in_order : visits.map Visit.entry <+: corpus
  /-- Before each visit the counters agree with the visits so far, and the run is not
  halted: once it is, nothing is visited any more. -/
  before : ∀ (k : Nat) (visit : Visit), visits[k]? = some visit →
    visit.index = k ∧ visit.start.tally.statistics.Consistent k corpus.length ∧
      visit.start.tally.halted = false
  /-- At the end they agree with all visits. -/
  after : (reached result).tally.statistics.Consistent visits.length corpus.length
  /-- The first visit is begun in the world of the run, and each further one in the
  session that the visit before it has left. -/
  linked : (∀ visit ∈ visits.head?, visit.start.world = world) ∧
    ∀ (k : Nat) (visit next : Visit), visits[k]? = some visit → visits[k + 1]? = some next →
      visit.ending walk = .ok false next.start
  /-- The run leaves the world as its last visit does. -/
  leaves : (visits = [] → (reached result).world = world) ∧
    ∀ earlier last, visits = earlier ++ [last] →
      (reached result).world = (reached (last.ending walk)).world
  /-- The tested entries are those that passed or mismatched. -/
  tested : (reached result).tally.statistics.tested =
    (walk.outcomes visits).countP fun outcome => outcome.isPass || outcome.isMismatch
  /-- The failed entries are those that mismatched. -/
  failed : (reached result).tally.statistics.failed =
    (walk.outcomes visits).countP Outcome.isMismatch
  /-- The uncompilable entries are those that the compiler rejects. -/
  uncompilable : (reached result).tally.statistics.uncompilable =
    (walk.outcomes visits).countP Outcome.isUncompilable
  /-- A run that ends well has visited every entry and counted each, or it was told to
  halt on a mismatch and its last visit was the only one. -/
  returns : ∀ statistics session, result = .ok statistics session →
    statistics = session.tally.statistics ∧
      (visits.map Visit.entry = corpus ∧
          statistics.tested + statistics.uncompilable = statistics.totalSources ∨
        haltsOnFailure = true ∧ statistics.haltedEarly = true ∧
          ∃ earlier last, visits = earlier ++ [last] ∧ walk.mismatchedIn last = true ∧
            ∀ visit ∈ earlier, walk.mismatchedIn visit = false)
  /-- A finding about the tools is that of the last visit, whose entry is not counted,
  and gives the run up. -/
  aborts : ∀ failure session, result = .error failure session → failure.isAbort = true →
    session.tally.halted = true ∧ session.tally.succeeded = false ∧
      ∃ earlier last, visits = earlier ++ [last] ∧
        last.ending walk = .error failure session ∧ session.tally = last.start.tally.abort
  /-- After the opening line each visit prints one progress mark, with a mark after it
  if the entry passed, and a run that ends well closes the line. -/
  prints : ∀ line, Console.styled (openingLine corpus label) Console.newline = .ok line →
    (reached result).stdout = stdout ++ line ++
      (visits.flatMap fun visit => progressMark ++
        if (visit.outcome? walk).any Outcome.isPass then Session.passMark else []) ++
      match result with
      | .ok _ _ => Console.newline
      | .error _ _ => []

section FreshCourses
variable {walk : Walk} {corpus : List Entry} {haltsOnFailure : Bool} {session : Session}
  {visits : List Visit} {result : EStateM.Result Failure Session Unit}

theorem outcomes_length_le (walk : Walk) (visits : List Visit) :
    (walk.outcomes visits).length ≤ visits.length :=
  List.length_filterMap_le _ _

theorem exitOnFirstFailure_afterAll (tally : Tally) (outcomes : List Outcome) :
    (tally.afterAll outcomes).statistics.exitOnFirstFailure =
      tally.statistics.exitOnFirstFailure := by
  induction outcomes generalizing tally with
  | nil => rfl
  | cons outcome rest ih => rw [Tally.afterAll_cons, ih, Tally.exitOnFirstFailure_after]

/-- The run is not halted before any visit. -/
theorem Course.start_not_halted (h : Course walk 0 corpus session visits result)
    (ht : session.tally = openTally corpus haltsOnFailure) {k : Nat} {visit : Visit}
    (hk : visits[k]? = some visit) : visit.start.tally.halted = false := by
  obtain ⟨_, hs, hl, hh⟩ := h.start hk
  rcases hh with rfl | hh
  · rw [hs, ht, List.length_eq_zero_iff.mp hl]
    rfl
  · exact hh

/-- A visit that ends well halts the run iff it mismatched and the run is told to
halt on that. -/
theorem Course.stop_eq (h : Course walk 0 corpus session visits result)
    (ht : session.tally = openTally corpus haltsOnFailure) {visit : Visit} (hm : visit ∈ visits)
    {stop : Bool} {after : Session} (he : visit.ending walk = .ok stop after) :
    stop = (walk.mismatchedIn visit && haltsOnFailure) := by
  obtain ⟨k, hk⟩ := List.mem_iff_getElem?.mp hm
  obtain ⟨outcome, ho, whole, hstop, _⟩ := ending_ok he
  have hflag : visit.start.tally.statistics.exitOnFirstFailure = haltsOnFailure := by
    rw [(h.start hk).2.1, exitOnFirstFailure_afterAll, ht]
    rfl
  rw [hstop, Tally.halted_after whole, h.start_not_halted ht hk, hflag, mismatchedIn, ho]
  rfl

/-- Visits that all end well have one outcome each, and no breakdown among them. -/
theorem outcomes_of_ok (h : ∀ visit ∈ visits, ∃ stop after, visit.ending walk = .ok stop after) :
    (walk.outcomes visits).length = visits.length ∧
      ∀ outcome ∈ walk.outcomes visits, outcome.isBreakdown = false := by
  induction visits with
  | nil => exact ⟨rfl, fun _ hm => (nomatch hm)⟩
  | cons visit rest ih =>
    obtain ⟨hl, hw⟩ := ih fun v hv => h v (List.mem_cons_of_mem _ hv)
    obtain ⟨stop, after, he⟩ := h visit List.mem_cons_self
    obtain ⟨outcome, ho, whole, _, _⟩ := ending_ok he
    rw [outcomes_cons, ho]
    refine ⟨congrArg (· + 1) hl, ?_⟩
    intro other hm
    rcases List.mem_cons.mp hm with rfl | hm
    · exact whole
    · exact hw other hm

/-- At the end of a course from fresh counters on, the counters are the numbers of
the outcomes. -/
theorem Course.counters (h : Course walk 0 corpus session visits result)
    (ht : session.tally = openTally corpus haltsOnFailure) :
    (reached result).tally.statistics.tested =
        (walk.outcomes visits).countP Outcome.isTested ∧
      (reached result).tally.statistics.failed =
        (walk.outcomes visits).countP Outcome.isMismatch ∧
      (reached result).tally.statistics.uncompilable =
        (walk.outcomes visits).countP Outcome.isUncompilable ∧
      (reached result).tally.statistics.totalSources = corpus.length := by
  have hc := openTally_afterAll corpus haltsOnFailure (walk.outcomes visits)
  rcases h.tally with hr | hr
  · rw [hr, ht]
    exact hc
  · rw [hr, ht]
    exact hc

/-- The counters of outcomes agree with any number of visits not below theirs. -/
theorem consistent_of_counters {statistics : Statistics} {outcomes : List Outcome}
    {visited size : Nat}
    (h : statistics.tested = outcomes.countP Outcome.isTested ∧
      statistics.failed = outcomes.countP Outcome.isMismatch ∧
      statistics.uncompilable = outcomes.countP Outcome.isUncompilable ∧
      statistics.totalSources = size)
    (hv : outcomes.length ≤ visited) (hs : visited ≤ size) :
    statistics.Consistent visited size := by
  obtain ⟨ht, hf, hu, htotal⟩ := h
  have hle := Outcome.countP_isMismatch_le outcomes
  have hadd := Outcome.countP_add_le outcomes
  exact ⟨by omega, by omega, by omega, hs, htotal⟩

/-- How a course from fresh counters on ends if it ends well. -/
theorem Course.account_returns {after : Session}
    (h : Course walk 0 corpus session visits (.ok () after))
    (ht : session.tally = openTally corpus haltsOnFailure) :
    visits.map Visit.entry = corpus ∧
        after.tally.statistics.tested + after.tally.statistics.uncompilable =
          after.tally.statistics.totalSources ∨
      haltsOnFailure = true ∧ after.tally.statistics.haltedEarly = true ∧
        ∃ earlier last, visits = earlier ++ [last] ∧ walk.mismatchedIn last = true ∧
          ∀ visit ∈ earlier, walk.mismatchedIn visit = false := by
  obtain ⟨hall, hentries | ⟨earlier, last, rfl, hlast⟩⟩ := h.returns
  -- All entries are visited: each has one outcome, and no breakdown is among them.
  · obtain ⟨hl, whole⟩ := outcomes_of_ok hall
    have hcount := Outcome.countP_add_eq whole
    have hlen : visits.length = corpus.length := by rw [← hentries, List.length_map]
    obtain ⟨htested, _, huncompilable, htotal⟩ := h.counters ht
    rw [reached_ok] at htested huncompilable htotal
    exact .inl ⟨hentries, by omega⟩
  -- The last visit has halted the walk, and no earlier one did.
  · obtain ⟨hgo, hend⟩ := h.last rfl
    have hstop := h.stop_eq ht (List.mem_append_right earlier List.mem_cons_self) hlast
    obtain ⟨hm, rfl⟩ : walk.mismatchedIn last = true ∧ haltsOnFailure = true := by
      simpa using hstop.symm
    refine .inr ⟨rfl, ?_, earlier, last, rfl, hm, ?_⟩
    · obtain ⟨outcome, _, _, hhalt, hafter⟩ := ending_ok hlast
      rw [hlast, reached_ok, reached_ok] at hend
      rw [hend, hafter]
      exact hhalt.symm
    · intro visit hv
      obtain ⟨next, he⟩ := hgo visit hv
      have := h.stop_eq ht (List.mem_append_left [last] hv) he
      simpa using this.symm

end FreshCourses

/-- The account of a run that ends at its opening line. -/
theorem account_unopened (walk : Walk) (corpus : List Entry) (label : Text) (world : World)
    (stdout : Text) (haltsOnFailure : Bool) {fault : Markup.Fault}
    (hl : Console.styled (openingLine corpus label) Console.newline = .error fault) :
    Account walk corpus label world stdout haltsOnFailure []
      (.error (.markup fault) (withSources corpus (freshSession world stdout haltsOnFailure))) where
  in_order := List.nil_prefix
  before := fun _ _ hk => (nomatch hk)
  after := ⟨Int.le_refl 0, Int.le_refl 0, Int.le_refl 0, Nat.zero_le _, rfl⟩
  linked := ⟨fun _ hm => (nomatch hm), fun _ _ _ hk => (nomatch hk)⟩
  leaves := ⟨fun _ => rfl, fun _ _ hv => by simp at hv⟩
  tested := rfl
  failed := rfl
  uncompilable := rfl
  returns := fun _ _ hr => (nomatch hr)
  aborts := fun _ _ hr ha => by cases hr; cases ha
  prints := fun line h => by rw [hl] at h; cases h

/-- The account of a run that is opened and makes a course of visits. -/
theorem account_opened {walk : Walk} {corpus : List Entry} {label line : Text} {world : World}
    {stdout : Text} {haltsOnFailure : Bool} {visits : List Visit}
    {result : EStateM.Result Failure Session Unit}
    (hl : Console.styled (openingLine corpus label) Console.newline = .ok line)
    (h : Course walk 0 corpus (opened corpus line (freshSession world stdout haltsOnFailure))
      visits result) :
    Account walk corpus label world stdout haltsOnFailure visits (finished result) := by
  have ht : (opened corpus line (freshSession world stdout haltsOnFailure)).tally =
      openTally corpus haltsOnFailure := rfl
  have hcounters := h.counters ht
  have hsize : visits.length ≤ corpus.length := by
    simpa using h.entries_prefix.length_le
  constructor
  case in_order => exact h.entries_prefix
  case before =>
    intro k visit hk
    obtain ⟨hi, hs, hlength, _⟩ := h.start hk
    have hbound : k < visits.length := (List.getElem?_eq_some_iff.mp hk).1
    refine ⟨by omega, ?_, h.start_not_halted ht hk⟩
    rw [hs, ht]
    exact consistent_of_counters (openTally_afterAll corpus haltsOnFailure _)
      (Nat.le_of_eq hlength) (by omega)
  case after =>
    rw [tally_finished]
    exact consistent_of_counters hcounters (outcomes_length_le walk visits) hsize
  case linked => exact ⟨fun visit hm => congrArg Session.world (h.linked.1 visit hm), h.linked.2⟩
  case leaves =>
    refine ⟨?_, fun earlier last hv => by rw [world_finished, (h.last hv).2]⟩
    rintro rfl
    cases h
    rfl
  case tested =>
    rw [tally_finished]
    exact hcounters.1
  case failed =>
    rw [tally_finished]
    exact hcounters.2.1
  case uncompilable =>
    rw [tally_finished]
    exact hcounters.2.2.1
  case returns =>
    intro statistics session hr
    cases result with
    | error failure after => cases hr
    | ok _ after =>
      cases hr
      exact ⟨rfl, h.account_returns ht⟩
  case aborts =>
    intro failure session hr finding
    cases result with
    | ok _ after => cases hr
    | error failure after =>
      cases hr
      obtain ⟨earlier, last, rfl, hlast⟩ := h.failsLast
      obtain ⟨habort, _⟩ := ending_abort hlast finding
      refine ⟨by rw [habort]; rfl, ?_, earlier, last, rfl, hlast, habort⟩
      rw [habort, Tally.succeeded_abort]
  case prints =>
    intro other hother
    cases hl.symm.trans hother
    have hstdout := h.stdout
    simp only [marks_eq] at hstdout
    cases result with
    | ok _ after => exact congrArg (· ++ Console.newline) hstdout
    | error failure after => exact hstdout.trans (List.append_nil _).symm

/-- **Every run keeps account.**  This holds of every corpus, splitter and compiler,
whether or not the run halts on a mismatch, and however it ends. -/
theorem account_run (walk : Walk) (corpus : List Entry) (label : Text) (world : World)
    (stdout : Text) (haltsOnFailure : Bool) :
    Account walk corpus label world stdout haltsOnFailure
      (walk.runVisits corpus label (freshSession world stdout haltsOnFailure))
      (walk.run corpus label (freshSession world stdout haltsOnFailure)) := by
  rcases walk.run_cases corpus label (freshSession world stdout haltsOnFailure) with
    ⟨fault, hl, hv, hr⟩ | ⟨line, result, hl, hcourse, hr⟩
  · rw [hv, hr]
    exact account_unopened walk corpus label world stdout haltsOnFailure hl
  · rw [hr]
    exact account_opened hl hcourse

end Walk
end Reimport
