import Reimport.CommandLine.Check
import Reimport.Proofs.RoundTrip
import Reimport.Proofs.Walk.Account

/-!
# Sound corpora

What it means that the tools and every entry of a corpus are in order is said by the
launches alone: the compiler answers for its version, every entry of the corpus is
visited and split, and the launches of its round trip show no failure (`SoundCorpus`).
No counter and no flag of the run occurs in it, so a run that is given up, halted or cut
short cannot be taken for one that succeeded.

Up to the corpus there is nothing but launches and questions (`prepare_cases`).  The walk
is a `Walk.Course`; where its visits meet no mishap, its tally at the end shows neither a
mismatch nor a breakdown iff they are sound and all entries were visited
(`succeeded_iff_of_ok`, `not_sound_of_abort`).
-/
namespace Reimport.CommandLine.Check

/-! ## Up to the corpus -/

/-- What is logged about the compiler. -/
def announcement (settings : Settings) (version : Text) : Text :=
  .join ["Using compiler [path]", Markup.escape settings.compiler.text, "[/path] (",
    Markup.escape (banner version), ")"]

/-- A compiler can be announced, whatever its path and its version are. -/
theorem render_announcement (settings : Settings) (version : Text) :
    ∃ shown, Markup.render (Console.Level.info.symbol ++ announcement settings version) =
      .ok shown := by
  have between : ∀ c ∈ (" (" : Text), Markup.isOrdinary c = true :=
    Session.plain_of_all (by decide)
  have closing : ∀ c ∈ [')'], Markup.isOrdinary c = true := Session.plain_of_all (by decide)
  have bar : Markup.Barrier [')'] := by
    constructor
    · rw [Markup.Blocks]
      decide
    · rintro _ ⟨⟩
      decide
  have shown := Markup.render_behind Markup.isNamed_path
    (Console.Level.info.symbol ++ ("Using compiler " : Text)) (Session.plain_of_all (by decide))
    settings.compiler.text " (" between (banner version) closing bar
  simpa [announcement, Text.join] using shown

/-- Asks the compiler for its version and looks for the corpus. -/
def prepare (host : Host) (settings : Settings) : Act (List Entry) := do
  let version ← (solc settings).version host.machine
  Act.log .info (announcement settings version)
  Corpus.discover settings.resolvedCorpusDirs settings.extension settings.excludedNames

/-- The compiler answers well when it is asked for its version, and after the log line
about it the corpus is found. -/
inductive Found (host : Host) (settings : Settings) (world : World) :
    List Entry → World → Prop where
  | intro {answer : Invocation} {asked found : World} {corpus : List Entry}
    (asks : Solc.run host.machine (solc settings).versionCommand none world = .ok answer asked)
    (answers : answer.status = 0)
    (discovers : Corpus.discover settings.resolvedCorpusDirs settings.extension
      settings.excludedNames
      (reached (Act.log .info (announcement settings (Text.strip answer.stdout)) asked)) =
        .ok corpus found) :
    Found host settings world corpus found

section Preparing
variable {host : Host} {settings : Settings} {world found : World} {corpus : List Entry}

theorem Found.unique {other : List Entry} {found' : World}
    (h : Found host settings world corpus found) (h' : Found host settings world other found') :
    corpus = other ∧ found = found' := by
  obtain ⟨asks, _, discovers⟩ := h
  obtain ⟨asks', _, discovers'⟩ := h'
  cases asks.symm.trans asks'
  cases discovers.symm.trans discovers'
  exact ⟨rfl, rfl⟩

/-- Preparing a check finds its corpus, or it fails; and where it fails by a finding about
the tools there is none to be found. -/
theorem prepare_cases (host : Host) (settings : Settings) (world : World) :
    (∃ corpus found, prepare host settings world = .ok corpus found ∧
        Found host settings world corpus found) ∨
      ∃ failure after, prepare host settings world = .error failure after ∧
        (failure.isAbort = true → ∀ corpus found, ¬ Found host settings world corpus found) := by
  obtain ⟨answer, asked, ha⟩ :=
    RoundTrip.run_ok host.machine (solc settings).versionCommand none world
  unfold prepare
  by_cases hs : answer.success = true
  -- a compiler that answers is announced, and then the corpus is looked for
  · have hv : (solc settings).version host.machine world =
        .ok (Text.strip answer.stdout) asked := by
      rw [Solc.version, bind_of_ok ha, if_pos hs]
      rfl
    rw [bind_of_ok hv]
    obtain ⟨_, logged, hl⟩ := Act.Sure.log
      (render_announcement settings (Text.strip answer.stdout)) asked
    rw [bind_of_ok hl]
    cases hd : Corpus.discover settings.resolvedCorpusDirs settings.extension
        settings.excludedNames logged with
    | ok corpus found =>
      refine .inl ⟨corpus, found, rfl, .intro ha (RoundTrip.success_eq_true.1 hs) ?_⟩
      rw [hl]
      exact hd
    | error failure after =>
      refine .inr ⟨failure, after, rfl, fun _ corpus found h => ?_⟩
      obtain ⟨asks, _, discovers⟩ := h
      cases ha.symm.trans asks
      rw [hl, reached_ok, hd] at discovers
      cases discovers
  -- one that does not leaves nothing to be found
  · have hv : (solc settings).version host.machine world =
        .error (.abort (.compilerUnavailable (solc settings).binary answer.stderr)) asked := by
      rw [Solc.version, bind_of_ok ha, if_neg hs]
      rfl
    refine .inr ⟨_, asked, bind_of_error hv, fun _ corpus found h => ?_⟩
    obtain ⟨asks, answers, _⟩ := h
    cases ha.symm.trans asks
    exact hs (RoundTrip.success_eq_true.2 answers)

end Preparing

/-! ## Sound entries -/

/-- The entry of a visit is split without a fault, and the launches of the round trip of
its sources show no failure.  An entry that is no text is compiled as it is. -/
inductive SoundVisit (host : Host) (settings : Settings) (visit : Visit) : Prop where
  | intro {workdir : Path} {made split given : World} {result : SplitResult}
    {sources : List Path}
    (scratch : Walk.makeScratch host.scratchParent visit.start.world = .ok workdir made)
    (splits : (splitter host settings).split visit.entry workdir made = .ok result split)
    (gives : Walk.files visit.entry result split = .ok sources given)
    (sound : RoundTrip.Sound (solc settings) host.machine sources workdir given)

/-- The visits of the walk over a corpus. -/
def visits (host : Host) (settings : Settings) (corpus : List Entry) (found : World) :
    List Visit :=
  (walk host settings).runVisits corpus settings.extension
    (Walk.freshSession found [] settings.exitOnError)

/-- The compiler answers for its version, and the entries of the corpus are all visited
and sound. -/
inductive SoundCorpus (host : Host) (settings : Settings) (world : World) : Prop where
  | intro {corpus : List Entry} {found : World} (finds : Found host settings world corpus found)
    (all : (visits host settings corpus found).map Visit.entry = corpus)
    (sound : ∀ visit ∈ visits host settings corpus found, SoundVisit host settings visit)

/-- A corpus that is found is the one that is judged. -/
theorem Found.soundCorpus_iff {host : Host} {settings : Settings} {world found : World}
    {corpus : List Entry} (finds : Found host settings world corpus found) :
    SoundCorpus host settings world ↔
      (visits host settings corpus found).map Visit.entry = corpus ∧
        ∀ visit ∈ visits host settings corpus found, SoundVisit host settings visit := by
  constructor
  · rintro ⟨finds', all, sound⟩
    obtain ⟨rfl, rfl⟩ := finds.unique finds'
    exact ⟨all, sound⟩
  · rintro ⟨all, sound⟩
    exact .intro finds all sound

section Attempts
variable {host : Host} {settings : Settings} {visit : Visit} {outcome : Outcome} {after : World}
  {failure : Failure}

/-- What an attempt that comes to an outcome has gone through. -/
theorem attempt_ok
    (h : (walk host settings).attempt visit.entry visit.start.world = .ok outcome after) :
    ∃ workdir made result split sources given,
      Walk.makeScratch host.scratchParent visit.start.world = .ok workdir made ∧
      (splitter host settings).split visit.entry workdir made = .ok result split ∧
      Walk.files visit.entry result split = .ok sources given ∧
      RoundTrip.check ((solc settings).compiler host.machine) visit.entry sources workdir given =
        .ok outcome after := by
  obtain ⟨workdir, made, hm, h⟩ := bind_ok.1 h
  obtain ⟨result, split, hs, h⟩ := bind_ok.1 h
  obtain ⟨sources, given, hf, h⟩ := bind_ok.1 h
  exact ⟨workdir, made, result, split, sources, given, hm, hs, hf, h⟩

/-- An attempt that comes to an outcome comes to one that is no failure iff the visit is
sound. -/
theorem soundVisit_iff
    (h : (walk host settings).attempt visit.entry visit.start.world = .ok outcome after) :
    SoundVisit host settings visit ↔
      outcome = .passed visit.entry ∨ outcome = .uncompilable visit.entry := by
  obtain ⟨workdir, made, result, split, sources, given, hm, hs, hf, hc⟩ := attempt_ok h
  rw [← RoundTrip.sound_iff hc]
  constructor
  · rintro ⟨scratch, splits, gives, sound⟩
    cases hm.symm.trans scratch
    cases hs.symm.trans splits
    cases hf.symm.trans gives
    exact sound
  · exact .intro hm hs hf

/-- An attempt on a sound visit that comes to no outcome meets a mishap. -/
theorem SoundVisit.mishap (sound : SoundVisit host settings visit)
    (h : (walk host settings).attempt visit.entry visit.start.world = .error failure after) :
    failure.isAbort = false := by
  obtain ⟨scratch, splits, gives, _⟩ := sound
  rcases bind_error.1 h with h | ⟨workdir, made, hm, h⟩
  · cases h.symm.trans scratch
  cases hm.symm.trans scratch
  rcases bind_error.1 h with h | ⟨result, split, hs, h⟩
  · cases h.symm.trans splits
  cases hs.symm.trans splits
  rcases bind_error.1 h with h | ⟨sources, given, hf, h⟩
  · cases h.symm.trans gives
  · exact RoundTrip.mild_check _ _ _ _ _ _ _ _ h

end Attempts

/-! ## The walk over the corpus -/

section Walks
variable {host : Host} {settings : Settings} {corpus : List Entry} {line : Text}
  {session : Session} {row : List Visit} {result : EStateM.Result Failure Session Unit}

/-- A visit of a walk that meets no mishap is sound iff its outcome is no failure. -/
theorem soundVisit_iff_outcome
    (h : Walk.Course (walk host settings) 0 corpus session row result)
    (tools : ∀ failure after, result = .error failure after → failure.isAbort = true)
    {visit : Visit} (hm : visit ∈ row) :
    SoundVisit host settings visit ↔
      ∃ outcome, visit.outcome? (walk host settings) = some outcome ∧
        outcome.isBreakdown = false ∧ outcome.isMismatch = false := by
  rw [Visit.outcome?]
  cases ha : (walk host settings).attempt visit.entry visit.start.world with
  | ok outcome after =>
    rw [soundVisit_iff ha]
    constructor
    · rintro (rfl | rfl)
      · exact ⟨_, rfl, rfl, rfl⟩
      · exact ⟨_, rfl, rfl, rfl⟩
    · rintro ⟨_, ⟨⟩, whole, matched⟩
      obtain ⟨_, _, _, _, _, _, _, _, _, hc⟩ := attempt_ok ha
      have own := RoundTrip.entry_of_check hc
      cases outcome with
      | passed entry => exact .inl (congrArg Outcome.passed own)
      | uncompilable entry => exact .inr (congrArg Outcome.uncompilable own)
      | mismatched _ _ _ => cases matched
      | exportFailed _ => cases whole
      | importFailed _ => cases whole
  | error failure after =>
    constructor
    -- Without an outcome a sound visit has met a mishap, and that would have ended the walk.
    · intro sound
      have mishap := sound.mishap ha
      obtain ⟨last, ending⟩ := Walk.take_of_mishap ha mishap visit.index
      have finding := tools _ _ (h.result_of_error hm ending)
      rw [mishap] at finding
      cases finding
    · rintro ⟨_, ho, _⟩
      cases ho

/-- **A walk that ends well has succeeded iff it has visited every entry and every visit
was sound.**  Then the counters account for all sources. -/
theorem succeeded_iff_of_ok {after : Session}
    (h : Walk.Course (walk host settings) 0 corpus session row (.ok () after))
    (ht : session.tally = Walk.openTally corpus settings.exitOnError) :
    (after.tally.succeeded = true ↔
        row.map Visit.entry = corpus ∧ ∀ visit ∈ row, SoundVisit host settings visit) ∧
      (after.tally.succeeded = true →
        after.tally.statistics.tested + after.tally.statistics.uncompilable =
          after.tally.statistics.totalSources) := by
  have sound : ∀ visit ∈ row, SoundVisit host settings visit ↔
      ∃ outcome, visit.outcome? (walk host settings) = some outcome ∧
        outcome.isBreakdown = false ∧ outcome.isMismatch = false :=
    fun visit hm => soundVisit_iff_outcome h (by simp) hm
  obtain ⟨_, whole⟩ := Walk.outcomes_of_ok h.returns.1
  have going : after.tally.aborted = false := by
    rw [h.tally_of_ok, ht, Tally.aborted_afterAll whole]
    rfl
  have failed : after.tally.statistics.failed = 0 ↔
      ∀ outcome ∈ (walk host settings).outcomes row, outcome.isMismatch = false := by
    rw [← reached_ok () after, (h.counters ht).2.1, Int.natCast_eq_zero, List.countP_eq_zero]
    simp
  have succeeded : after.tally.succeeded = true ↔
      ∀ outcome ∈ (walk host settings).outcomes row, outcome.isMismatch = false := by
    rw [Tally.succeeded_iff, failed]
    exact and_iff_left going
  -- A walk without a mismatch was not halted.
  have complete : after.tally.succeeded = true →
      row.map Visit.entry = corpus ∧
        after.tally.statistics.tested + after.tally.statistics.uncompilable =
          after.tally.statistics.totalSources := by
    intro hs
    rcases h.account_returns ht with complete | ⟨_, _, earlier, last, hrow, mismatched, _⟩
    · exact complete
    · rw [Walk.mismatchedIn, Option.any_eq_true] at mismatched
      obtain ⟨outcome, ho, differs⟩ := mismatched
      have hm : last ∈ row := hrow ▸ List.mem_append_right earlier List.mem_cons_self
      rw [succeeded.1 hs outcome (List.mem_filterMap.2 ⟨last, hm, ho⟩)] at differs
      cases differs
  refine ⟨⟨fun hs => ⟨(complete hs).1, fun visit hm => ?_⟩, ?_⟩, fun hs => (complete hs).2⟩
  -- From the outcomes to the visits, and back.
  · obtain ⟨stop, next, ending⟩ := h.returns.1 visit hm
    obtain ⟨outcome, ho, unbroken, _⟩ := Walk.ending_ok ending
    have counted := List.mem_filterMap.2 ⟨visit, hm, ho⟩
    exact (sound visit hm).2 ⟨outcome, ho, unbroken, succeeded.1 hs outcome counted⟩
  · rintro ⟨_, allSound⟩
    refine succeeded.2 fun outcome counted => ?_
    obtain ⟨visit, hm, ho⟩ := List.mem_filterMap.1 counted
    obtain ⟨other, ho', _, matched⟩ := (sound visit hm).1 (allSound visit hm)
    cases ho.symm.trans ho'
    exact matched

/-- In a walk that ends by a finding about the tools, the last visit is not sound. -/
theorem not_sound_of_abort {failure : Failure} {after : Session}
    (h : Walk.Course (walk host settings) 0 corpus session row (.error failure after))
    (finding : failure.isAbort = true) : ¬ ∀ visit ∈ row, SoundVisit host settings visit := by
  intro allSound
  obtain ⟨earlier, last, rfl, ending⟩ := h.failsLast
  have hm : last ∈ earlier ++ [last] := List.mem_append_right earlier List.mem_cons_self
  have tools : ∀ other left, (EStateM.Result.error failure after :
      EStateM.Result Failure Session Unit) = .error other left → other.isAbort = true := by
    rintro _ _ ⟨⟩
    exact finding
  obtain ⟨outcome, ho, whole, _⟩ := (soundVisit_iff_outcome h tools hm).1 (allSound last hm)
  rw [(Walk.ending_abort ending finding).2 outcome ho] at whole
  cases whole

end Walks

end Reimport.CommandLine.Check
