import Reimport.Proofs.Walk.Blind
import Reimport.Proofs.Walk.Halting
import Reimport.Proofs.Walk.Refused

/-!
# Keeping artifacts does not change a run

A run and the same run with artifacts kept are related visit by visit (`visit_beside`): both
visits come to the same outcome and end alike, and all that the second one adds is one message
about the artifacts if the entry fails.  So it is for whole courses, by induction on the visits
(`course_beside`), and for runs (`keeping_agrees`).

What can make a difference (`keeping_may_differ`) is a link that is among the artifacts already,
one that a compiler puts in its scratch directory where an export is kept, and a NUL in the path
of an entry.
-/
namespace Reimport

/-- Whether the entry of a visit mismatched or ended the run by a finding about the tools. -/
def Visit.fails (walk : Walk) (visit : Visit) : Bool :=
  walk.mismatchedIn visit || (visit.fault? walk).any Failure.isAbort

/-- What work was ended by, if it was not done. -/
def faultOf {α : Type} : EStateM.Result Failure Session α → Option Failure
  | .ok _ _ => none
  | .error fault _ => some fault

namespace Visit
variable (walk : Walk) {visit : Visit} {world : World}

/-- A visit that can make no scratch directory ends before there is any work. -/
theorem of_unmade {failure : Failure}
    (make : Walk.makeScratch walk.scratchParent visit.start.world = .error failure world) :
    visit.outcome? walk = none ∧ visit.fault? walk = none ∧
      visit.ending walk = .error failure { Walk.begun visit.start with world := world } := by
  have entered : Session.act (Walk.makeScratch walk.scratchParent) (Walk.begun visit.start) =
      .error failure { Walk.begun visit.start with world := world } := Session.act_of_error make
  refine ⟨congrArg Walk.outcomeOf (bind_of_error make), ?_, ?_⟩
  · rw [fault?, entered]
  · rw [ending, Walk.take_eq]
    exact Walk.withScratch_of_error (Walk.begun visit.start) make

/-- A visit works in the scratch directory that it makes. -/
theorem of_made {workdir : Path}
    (make : Walk.makeScratch walk.scratchParent visit.start.world = .ok workdir world) :
    visit.outcome? walk = Walk.outcomeOf (walk.process visit.entry workdir world) ∧
      visit.fault? walk =
        faultOf (walk.work visit.entry workdir { Walk.begun visit.start with world := world }) ∧
      visit.ending walk = Walk.cleared workdir
        (walk.step visit.index visit.entry workdir
          { Walk.begun visit.start with world := world }) := by
  have entered : Session.act (Walk.makeScratch walk.scratchParent) (Walk.begun visit.start) =
      .ok workdir { Walk.begun visit.start with world := world } := Session.act_of_ok make
  refine ⟨congrArg Walk.outcomeOf (bind_of_ok make), ?_, ?_⟩
  · rw [fault?, entered]
    dsimp only
    cases walk.work visit.entry workdir { Walk.begun visit.start with world := world } <;> rfl
  · rw [ending, Walk.take_eq]
    exact Walk.withScratch_of_ok (Walk.begun visit.start) make

end Visit

namespace Twins

variable {twins : Twins} {corpus : List Entry} {number : Nat} {stderr stderr' : Text}
  {world other : World} {entry : Entry}

/-! ## The work on an entry -/

section Work
variable (apart : twins.Apart) (blind : twins.Blind corpus)
include apart blind

theorem uniform_compare (entry : Entry) (files : List Path) :
    Uniform (twins.Since (some number) stderr stderr')
      (RoundTrip.compare twins.compiler entry files (twins.workdir number)) := by
  refine .bind (blind.exportFiles number _ _ files) fun exported =>
    .bind (uniform_keep apart (by simp) _) fun _ => ?_
  split
  · exact .pure _
  refine .bind (blind.reexport number _ _ exported.stdout) fun reexported =>
    .bind (uniform_keep apart (by simp) _) fun _ => ?_
  split
  · exact .pure _
  · dsimp only
    split <;> exact .pure _

theorem uniform_check (entry : Entry) (files : List Path) :
    Uniform (twins.Since (some number) stderr stderr')
      (RoundTrip.check twins.compiler entry files (twins.workdir number)) := by
  refine .bind (blind.accepts number _ _ files) fun accepted => ?_
  split
  · exact uniform_compare apart blind entry files
  · exact .pure _

/-- **An entry comes to the same outcome in both worlds**, or its work fails alike. -/
theorem process_alike (hm : entry ∈ corpus)
    (since : twins.Since (some number) stderr stderr' world other)
    (empty : EmptyWorkdir world (twins.workdir number) (twins.root number)) :
    Alike Eq (twins.Since (some number) stderr stderr')
      (twins.plain.process entry (twins.workdir number) world)
      (twins.keeping.process entry (twins.workdir number) other) := by
  refine (blind.split entry hm number _ _ world other since empty).bind ?_
  rintro result _ world other rfl since
  refine Uniform.bind ?_ (fun sources => uniform_check apart blind entry sources) world other since
  cases result with
  | multiple paths => exact .pure _
  | single path => exact .pure _
  | undecodable diagnostic =>
    exact .bind ((echoed_since _ _ _).complainVerbatim _ _) fun _ => .pure _
  | unknown => exact .throw _

theorem work_alike (hm : entry ∈ corpus) {session session' : Session}
    (abreast : Session.Abreast (twins.Since (some number) stderr stderr') session session')
    (empty : EmptyWorkdir session.world (twins.workdir number) (twins.root number)) :
    Alike Eq (Session.Abreast (twins.Since (some number) stderr stderr'))
      (twins.plain.work entry (twins.workdir number) session)
      (twins.keeping.work entry (twins.workdir number) session') := by
  refine (Alike.act abreast (process_alike apart blind hm abreast.world empty)).bind ?_
  rintro outcome _ session session' rfl abreast
  exact (Uniform.bind ((echoed_since _ _ _).record outcome) fun _ => .pure _) _ _ abreast

end Work

/-! ## What is said of the artifacts -/

/-- What is said of the artifacts of an entry that fails, and nothing of another one. -/
def Noticed (twins : Twins) (failing : Bool) (index : Nat) (entry : Entry) (text : Text) : Prop :=
  if failing then twins.Notice index entry text else text = []

/-- Whether the artifacts are kept after the work on an entry. -/
def failing : EStateM.Result Failure Session (Outcome × Bool) → Bool
  | .ok (outcome, _) _ => outcome.isMismatch
  | .error failure _ => failure.isAbort

/-- An entry fails iff its artifacts are kept. -/
theorem fails_eq (walk : Walk) {visit : Visit} {workdir : Path} {made : World}
    (make : Walk.makeScratch walk.scratchParent visit.start.world = .ok workdir made) :
    visit.fails walk =
      failing (walk.work visit.entry workdir { Walk.begun visit.start with world := made }) := by
  obtain ⟨outcome?, fault?, -⟩ := Visit.of_made walk make
  rw [Visit.fails, Walk.mismatchedIn, outcome?, fault?]
  generalize hs : ({ Walk.begun visit.start with world := made } : Session) = session
  have same : made = session.world := by rw [← hs]
  cases hp : walk.process visit.entry workdir made with
  | error failure world =>
    rw [same] at hp
    rw [Walk.work_of_error hp]
    rfl
  | ok outcome world =>
    rw [same] at hp
    obtain ⟨left, hw⟩ := Walk.work_of_ok hp
    rw [hw]
    cases outcome <;> rfl

section Settling
variable (apart : twins.Apart) (index : Nat) (named : entry.path.NulFree)
  {session session' : Session}
  (abreast : Session.Abreast (twins.Beside (some number) stderr stderr') session session')
include apart named abreast

/-- The artifacts are kept in the one run, and nothing is done in the other. -/
theorem act_keepArtifacts_beside :
    ∃ notice after, twins.Notice index entry notice ∧
      Session.act (twins.plain.keepArtifacts index entry (twins.workdir number)) session =
        .ok () session ∧
      Session.act (twins.keeping.keepArtifacts index entry (twins.workdir number)) session' =
        .ok () after ∧
      Session.Abreast (twins.Beside (some number) stderr (stderr' ++ notice)) session after := by
  obtain ⟨notice, world, said, kept, beside⟩ :=
    keepArtifacts_beside apart index named abreast.world
  exact ⟨notice, { session' with world := world }, said, rfl, Session.act_of_ok kept, beside,
    abreast.stdout, abreast.tally⟩

theorem settleOutcome_beside (outcome : Outcome) (stop : Bool) :
    ∃ notice, twins.Noticed outcome.isMismatch index entry notice ∧
      Alike Eq (Session.Abreast (twins.Beside (some number) stderr (stderr' ++ notice)))
        (twins.plain.settleOutcome index entry (twins.workdir number) outcome stop session)
        (twins.keeping.settleOutcome index entry (twins.workdir number) outcome stop session') := by
  rw [Walk.settleOutcome, Walk.settleOutcome]
  cases outcome.isMismatch with
  | false => exact ⟨[], rfl, .ok rfl (by simpa using abreast)⟩
  | true =>
    obtain ⟨notice, after, said, plain, keeping, abreast⟩ :=
      act_keepArtifacts_beside apart index named abreast
    rw [if_pos rfl, if_pos rfl, bind_of_ok plain, bind_of_ok keeping]
    exact ⟨notice, said, .ok rfl abreast⟩

theorem settleFailure_beside (failure : Failure) :
    ∃ notice, twins.Noticed failure.isAbort index entry notice ∧
      Alike Eq (Session.Abreast (twins.Beside (some number) stderr (stderr' ++ notice)))
        (twins.plain.settleFailure index entry (twins.workdir number) failure session)
        (twins.keeping.settleFailure index entry (twins.workdir number) failure session') := by
  rw [Walk.settleFailure, Walk.settleFailure]
  cases failure.isAbort with
  | false => exact ⟨[], rfl, .error (by simpa using abreast)⟩
  | true =>
    have given : Session.Abreast (twins.Beside (some number) stderr stderr')
        { session with tally := session.tally.abort }
        { session' with tally := session'.tally.abort } :=
      ⟨abreast.world, abreast.stdout, congrArg Tally.abort abreast.tally⟩
    obtain ⟨notice, after, said, plain, keeping, abreast⟩ :=
      act_keepArtifacts_beside apart index named given
    have gives : ∀ session, Session.giveUp session =
      .ok () { session with tally := session.tally.abort } := fun _ => rfl
    rw [if_pos rfl, if_pos rfl, Walk.abandon, Walk.abandon, bind_of_ok (gives session),
      bind_of_ok (gives session'), bind_of_ok plain, bind_of_ok keeping]
    exact ⟨notice, said, .error abreast⟩

end Settling

/-! ## Visits -/

theorem step_work (walk : Walk) (index : Nat) (entry : Entry) (workdir : Path)
    (session : Session) :
    walk.step index entry workdir session =
      match walk.work entry workdir session with
      | .ok (outcome, stop) session => walk.settleOutcome index entry workdir outcome stop session
      | .error failure session => walk.settleFailure index entry workdir failure session := rfl

theorem Beside.abreast_since {session session' : Session}
    (abreast : Session.Abreast (twins.Beside (some number) stderr stderr') session session') :
    Session.Abreast (twins.Since (some number) stderr stderr') session session' :=
  ⟨abreast.world.since, abreast.stdout, abreast.tally⟩

/-- **The work on an entry ends alike**, with one more message if the entry fails. -/
theorem step_beside (apart : twins.Apart) (blind : twins.Blind corpus) (hm : entry ∈ corpus)
    (named : entry.path.NulFree) (index : Nat) {session session' : Session}
    (abreast : Session.Abreast (twins.Beside (some number) stderr stderr') session session')
    (empty : EmptyWorkdir session.world (twins.workdir number) (twins.root number)) :
    ∃ said notice,
      twins.Noticed (failing (twins.plain.work entry (twins.workdir number) session)) index entry
        notice ∧
      Alike Eq
        (Session.Abreast (twins.Beside (some number) (stderr ++ said) (stderr' ++ said ++ notice)))
        (twins.plain.step index entry (twins.workdir number) session)
        (twins.keeping.step index entry (twins.workdir number) session') := by
  have alike := work_alike apart blind hm (Beside.abreast_since abreast) empty
  rw [step_work, step_work]
  generalize twins.plain.work entry (twins.workdir number) session = result,
    twins.keeping.work entry (twins.workdir number) session' = result' at alike
  cases alike with
  | @ok done done' left left' same since =>
    subst same
    obtain ⟨outcome, stop⟩ := done
    obtain ⟨⟨said, beside⟩, stdout, tally⟩ := since
    obtain ⟨notice, noticed, settled⟩ :=
      settleOutcome_beside apart index named ⟨beside, stdout, tally⟩ outcome stop
    exact ⟨said, notice, noticed, settled⟩
  | @error failure left left' since =>
    obtain ⟨⟨said, beside⟩, stdout, tally⟩ := since
    obtain ⟨notice, noticed, settled⟩ :=
      settleFailure_beside apart index named ⟨beside, stdout, tally⟩ failure
    exact ⟨said, notice, noticed, settled⟩

/-- The visits of one entry in the two runs come to the same. -/
structure Paired (twins : Twins) (visit visit' : Visit) : Prop where
  index : visit.index = visit'.index
  entry : visit.entry = visit'.entry
  outcome : visit.outcome? twins.plain = visit'.outcome? twins.keeping
  fault : visit.fault? twins.plain = visit'.fault? twins.keeping

theorem cleared_beside (apart : twins.Apart) {start start' : FileTree}
    (begun : twins.Alongside none start start')
    (scratch : Scratch start twins.cwd (twins.workdir number) (twins.root number))
    {result result' : EStateM.Result Failure Session Bool}
    (alike : Alike Eq (Session.Abreast (twins.Beside (some number) stderr stderr'))
      result result') :
    Alike Eq (Session.Abreast (twins.Beside none stderr stderr'))
      (Walk.cleared (twins.workdir number) result)
      (Walk.cleared (twins.workdir number) result') := by
  have removed : ∀ {session session' : Session},
      Session.Abreast (twins.Beside (some number) stderr stderr') session session' →
      Session.Abreast (twins.Beside none stderr stderr')
        { session with world := Walk.removeScratch (twins.workdir number) session.world }
        { session' with world := Walk.removeScratch (twins.workdir number) session'.world } :=
    fun abreast => ⟨removeScratch_beside apart begun scratch abreast.world, abreast.stdout,
      abreast.tally⟩
  cases alike with
  | ok same abreast => exact .ok same (removed abreast)
  | error abreast => exact .error (removed abreast)

theorem outcomeOf_alike {R : World → World → Prop}
    {result result' : EStateM.Result Failure World Outcome} (alike : Alike Eq R result result') :
    Walk.outcomeOf result = Walk.outcomeOf result' := by
  cases alike with
  | ok same _ => exact congrArg some same
  | error _ => rfl

theorem faultOf_alike {α : Type} {R : Session → Session → Prop}
    {result result' : EStateM.Result Failure Session α} (alike : Alike Eq R result result') :
    faultOf result = faultOf result' := by
  cases alike <;> rfl

/-- **The visits of one entry come to the same and end alike** in the two runs, with one more
message if the entry fails. -/
theorem visit_beside (apart : twins.Apart) (blind : twins.Blind corpus) (visit visit' : Visit)
    (hm : visit.entry ∈ corpus) (named : visit.entry.path.NulFree)
    (index : visit.index = visit'.index) (entry : visit.entry = visit'.entry)
    (abreast : Session.Abreast (twins.Beside none stderr stderr') visit.start visit'.start) :
    twins.Paired visit visit' ∧
      ∃ said notice,
        twins.Noticed (visit.fails twins.plain) visit.index visit.entry notice ∧
        Alike Eq (Session.Abreast (twins.Beside none (stderr ++ said) (stderr' ++ said ++ notice)))
          (visit.ending twins.plain) (visit'.ending twins.keeping) := by
  have begins : ∀ {world world' : World} {now : Option Nat},
      twins.Beside now stderr stderr' world world' →
      Session.Abreast (twins.Beside now stderr stderr')
        { Walk.begun visit.start with world := world }
        { Walk.begun visit'.start with world := world' } :=
    fun beside => ⟨beside, congrArg (· ++ _) abreast.stdout, abreast.tally⟩
  rcases makeScratch_beside abreast.world apart with
    ⟨failure, make, make'⟩ | ⟨number, made, made', scratch, make, make', beside, empty⟩
  -- neither run can make a scratch directory
  · obtain ⟨outcome, fault, ending⟩ := Visit.of_unmade twins.plain make
    obtain ⟨outcome', fault', ending'⟩ := Visit.of_unmade twins.keeping make'
    refine ⟨⟨index, entry, outcome.trans outcome'.symm, fault.trans fault'.symm⟩, [], [], ?_, ?_⟩
    · rw [Visit.fails, Walk.mismatchedIn, outcome, fault]
      rfl
    · rw [ending, ending']
      exact .error (by simpa using begins abreast.world)
  -- both make the one of the same number
  · obtain ⟨outcome, fault, ending⟩ := Visit.of_made twins.plain make
    obtain ⟨outcome', fault', ending'⟩ := Visit.of_made twins.keeping make'
    have failed := fails_eq twins.plain make
    rw [← entry] at outcome' fault' ending'
    rw [← index] at ending'
    obtain ⟨said, notice, noticed, stepped⟩ :=
      step_beside apart blind hm named visit.index (begins beside) empty
    refine ⟨⟨index, entry, ?_, ?_⟩, said, notice, ?_, ?_⟩
    · rw [outcome, outcome']
      exact outcomeOf_alike (process_alike apart blind hm beside.since empty)
    · rw [fault, fault']
      exact faultOf_alike
        (work_alike apart blind hm (Beside.abreast_since (begins beside)) empty)
    · rw [failed]
      exact noticed
    · rw [ending, ending']
      exact cleared_beside apart abreast.world.trees scratch stepped

/-! ## Runs -/

/-- What is said over a row of visits without artifacts and with them: where an entry fails, one
message about its artifacts is added to what is said of it. -/
inductive Annotated (twins : Twins) : List Visit → Text → Text → Prop
  | done : Annotated twins [] [] []
  | visit {visit : Visit} {rest : List Visit} {said notice more more' : Text}
    (noticed : twins.Noticed (visit.fails twins.plain) visit.index visit.entry notice)
    (annotated : Annotated twins rest more more') :
    Annotated twins (visit :: rest) (said ++ more) (said ++ notice ++ more')

/-- **A course of visits goes alike with artifacts**, by induction on the visits. -/
theorem course_beside (apart : twins.Apart) (blind : twins.Blind corpus)
    (named : ∀ entry ∈ corpus, entry.path.NulFree) {index : Nat} {entries : List Entry}
    {session session' : Session} {visits : List Visit}
    {result : EStateM.Result Failure Session Unit}
    (course : Walk.Course twins.plain index entries session visits result)
    (all : ∀ entry ∈ entries, entry ∈ corpus)
    (abreast : Session.Abreast (twins.Beside none stderr stderr') session session') :
    ∃ visits' result' said said',
      Walk.Course twins.keeping index entries session' visits' result' ∧
      List.Forall₂ twins.Paired visits visits' ∧ twins.Annotated visits said said' ∧
      Alike Eq (Session.Abreast (twins.Beside none (stderr ++ said) (stderr' ++ said')))
        result result' := by
  induction course generalizing session' stderr stderr' with
  | done index session =>
    exact ⟨[], _, [], [], .done index session', .nil, .done, .ok rfl (by simpa using abreast)⟩
  | @goesOn index entry rest session after visits result ending more ih =>
    have hm := all entry List.mem_cons_self
    obtain ⟨paired, said, notice, noticed, alike⟩ := visit_beside apart blind
      ⟨index, entry, session⟩ ⟨index, entry, session'⟩ hm (named entry hm) rfl rfl abreast
    rw [ending] at alike
    obtain ⟨_, after', ending', rfl, abreast⟩ := alike.of_ok
    obtain ⟨visits', result', further, further', course, pairs, annotated, alike⟩ :=
      ih (fun entry hm => all entry (List.mem_cons_of_mem _ hm)) abreast
    refine ⟨_, result', said ++ further, said ++ notice ++ further', .goesOn ending' course,
      .cons paired pairs, .visit noticed annotated, ?_⟩
    simpa only [List.append_assoc] using alike
  | @halts index entry rest session after ending =>
    have hm := all entry List.mem_cons_self
    obtain ⟨paired, said, notice, noticed, alike⟩ := visit_beside apart blind
      ⟨index, entry, session⟩ ⟨index, entry, session'⟩ hm (named entry hm) rfl rfl abreast
    rw [ending] at alike
    obtain ⟨_, after', ending', rfl, abreast⟩ := alike.of_ok
    refine ⟨_, _, said ++ [], said ++ notice ++ [], .halts ending', .cons paired .nil,
      .visit noticed .done, .ok rfl ?_⟩
    simpa only [List.append_assoc, List.append_nil] using abreast
  | @fails index entry rest session after failure ending =>
    have hm := all entry List.mem_cons_self
    obtain ⟨paired, said, notice, noticed, alike⟩ := visit_beside apart blind
      ⟨index, entry, session⟩ ⟨index, entry, session'⟩ hm (named entry hm) rfl rfl abreast
    rw [ending] at alike
    obtain ⟨after', ending', abreast⟩ := alike.of_error
    refine ⟨_, _, said ++ [], said ++ notice ++ [], .fails ending', .cons paired .nil,
      .visit noticed .done, .error ?_⟩
    simpa only [List.append_assoc, List.append_nil] using abreast

/-- **Keeping artifacts does not change a run**: it ends alike, with the same launches, the same
on the standard output and the same files outside of the area, and all that it says besides is
one message for each entry that fails. -/
theorem keeping_agrees (apart : twins.Apart) (blind : twins.Blind corpus)
    (named : ∀ entry ∈ corpus, entry.path.NulFree) (label stdout : Text) (tally : Tally) :
    ∃ said said',
      List.Forall₂ twins.Paired (twins.plain.runVisits corpus label ⟨twins.world, stdout, tally⟩)
        (twins.keeping.runVisits corpus label ⟨twins.world, stdout, tally⟩) ∧
      twins.Annotated (twins.plain.runVisits corpus label ⟨twins.world, stdout, tally⟩)
        said said' ∧
      Alike Eq
        (Session.Abreast
          (twins.Beside none (twins.world.stderr ++ said) (twins.world.stderr ++ said')))
        (twins.plain.run corpus label ⟨twins.world, stdout, tally⟩)
        (twins.keeping.run corpus label ⟨twins.world, stdout, tally⟩) := by
  have begun : twins.Beside none twins.world.stderr twins.world.stderr twins.world twins.world :=
    ⟨rfl, rfl, rfl, rfl, rfl, fun _ _ => rfl, apart.tame, apart.tame⟩
  rcases twins.plain.run_cases corpus label ⟨twins.world, stdout, tally⟩ with
    ⟨fault, unshown, unvisited, ended⟩ | ⟨line, result, shown, course, ended⟩
  · rcases twins.keeping.run_cases corpus label ⟨twins.world, stdout, tally⟩ with
      ⟨fault', unshown', unvisited', ended'⟩ | ⟨line, _, shown, _⟩
    -- the opening line cannot be shown, and that is the end of both runs
    · obtain rfl := Except.error.inj (unshown.symm.trans unshown')
      rw [unvisited, unvisited', ended, ended']
      refine ⟨[], [], .nil, .done, .error ⟨?_, rfl, rfl⟩⟩
      rw [List.append_nil]
      exact begun
    · rw [unshown] at shown
      cases shown
  · rcases twins.keeping.run_cases corpus label ⟨twins.world, stdout, tally⟩ with
      ⟨fault', unshown, _⟩ | ⟨line', result', shown', course', ended'⟩
    · rw [shown] at unshown
      cases unshown
    · obtain rfl := Except.ok.inj (shown.symm.trans shown')
      obtain ⟨visits, result'', said, said', course'', paired, annotated, alike⟩ :=
        course_beside apart blind named course (fun _ hm => hm) ⟨begun, rfl, rfl⟩
      obtain ⟨rfl, rfl⟩ := course'.unique course''
      refine ⟨said, said', paired, annotated, ?_⟩
      rw [ended, ended']
      cases alike with
      | ok _ abreast =>
        exact .ok (congrArg Tally.statistics abreast.tally)
          ⟨abreast.world, congrArg (· ++ _) abreast.stdout, abreast.tally⟩
      | error abreast => exact .error abreast

/-- The runs over `/a` and `/b` with a compiler whose exports differ, and artifacts in `/k`. -/
def pairTwins : Twins :=
  ⟨MarkerSplit.splitter, Walk.rootSolc.compiler Walk.differingMachine, Path.ofPlace [], [],
    Path.ofPlace [['k']], Walk.pairSession.world⟩

/-- The two files of the beginning. -/
theorem entries_pairTwins :
    pairTwins.tree.entries = [([['a']], .file []), ([['b']], .file [])] := rfl

theorem unlinked_pairTwins (place : Place) : pairTwins.tree.linkTarget? place = none :=
  FileTree.unlinked_of_entries (by simp [entries_pairTwins]) place

/-- A place with one other name is not in or above a scratch directory. -/
theorem aside_of_ne {c : Char} {rest : Name} (hc : c ≠ 'a' ∨ rest = []) (number : Nat) :
    ¬ pairTwins.root number <+: [c :: rest] ∧ ¬ [c :: rest] <+: pairTwins.root number := by
  have differ : Walk.scratchStem ++ Text.decimalNat number ≠ c :: rest := by
    intro he
    have stem : Walk.scratchStem = 'a' :: "st-roundtrip-" := by decide
    rw [stem, List.cons_append] at he
    obtain ⟨rfl, hr⟩ := List.cons.inj he
    rcases hc with hc | rfl
    · exact hc rfl
    · cases hr
  constructor <;> intro hp
  · exact differ (List.cons_prefix_cons.1 hp).1
  · exact differ (List.cons_prefix_cons.1 hp).1.symm

theorem straight_pairTwins {c : Char} (hc : c ≠ '.') : pairTwins.tree.IsStraight [[c]] := by
  refine ⟨fun name hm => ?_, fun above _ => unlinked_pairTwins above⟩
  rw [List.mem_singleton.1 hm]
  exact ⟨by simpa using hc, by simp⟩

theorem apart_pairTwins : pairTwins.Apart :=
  apart_of_straight rfl (straight_pairTwins (by decide : 'k' ≠ '.'))
    (fun place _ => unlinked_pairTwins place)
    ⟨FileTree.wellFormed_of_entries (by rw [entries_pairTwins]; simp only [Path.IsProper]; decide),
      FileTree.stands_nil _, FileTree.nulFree_of_entries (by simp [entries_pairTwins])⟩
    (FileTree.placeOf_root _ _ _) (FileTree.node?_nil _) (fun _ => unlinked_pairTwins _) (by decide)
    (by rw [Path.NulFree]; decide) (aside_of_ne (.inl (by decide)))

theorem off_pairTwins {c : Char} (hc : c ≠ 'k') (above : Place) (hp : above <+: [[c]]) :
    ¬ pairTwins.InScratch above ∧ ¬ pairTwins.Area above := by
  have inArea : pairTwins.Area above →
      [['k']] <+: above ∨ above <+: [['k']] ∧ pairTwins.tree.node? above ≠ some .directory :=
    area_of_straight rfl (straight_pairTwins (by decide : 'k' ≠ '.')) fun place _ =>
      unlinked_pairTwins place
  rcases List.prefix_concat_iff.1 (show above <+: [] ++ [[c]] from hp) with rfl | he
  · refine ⟨fun ⟨number, hr⟩ => (aside_of_ne (.inr rfl) number).1 hr, fun area => ?_⟩
    rcases inArea area with hk | ⟨hk, -⟩
    · exact hc (by simpa using (List.cons_prefix_cons.1 hk).1.symm)
    · exact hc (by simpa using (List.cons_prefix_cons.1 hk).1)
  · obtain rfl := List.prefix_nil.1 he
    refine ⟨fun ⟨number, hr⟩ => ?_, fun area => ?_⟩
    · simpa [root] using List.prefix_nil.1 hr
    · rcases inArea area with hk | ⟨-, hk⟩
      · simpa using List.prefix_nil.1 hk
      · exact hk (FileTree.node?_nil _)

theorem blind_pairTwins : pairTwins.Blind Walk.pair := by
  refine blind_byMarkers apart_pairTwins rfl
    (show pairTwins.compiler = Walk.rootSolc.compiler Walk.differingMachine from rfl)
    (fun _ _ _ _ _ trees => ⟨rfl, trees⟩) (uncircled_of_unlinked unlinked_pairTwins) ?_
  intro entry hm
  rcases List.mem_pair.1 hm with rfl | rfl
  · exact ⟨_, rfl, straight_pairTwins (by decide), off_pairTwins (by decide)⟩
  · exact ⟨_, rfl, straight_pairTwins (by decide), off_pairTwins (by decide)⟩

/-- The session in which both runs are begun. -/
def pairStart : Session := Walk.freshSession pairTwins.world [] false

theorem keeping_agrees_pair :
    (∃ later, pairTwins.plain.runVisits Walk.pair ".sol" pairStart =
        Walk.firstOfPair false :: later) ∧
      (Walk.firstOfPair false).fails pairTwins.plain = true ∧
      ∃ said said',
        List.Forall₂ pairTwins.Paired (pairTwins.plain.runVisits Walk.pair ".sol" pairStart)
          (pairTwins.keeping.runVisits Walk.pair ".sol" pairStart) ∧
        pairTwins.Annotated (pairTwins.plain.runVisits Walk.pair ".sol" pairStart) said said' ∧
        Alike Eq
          (Session.Abreast (pairTwins.Beside none (pairTwins.world.stderr ++ said)
            (pairTwins.world.stderr ++ said')))
          (pairTwins.plain.run Walk.pair ".sol" pairStart)
          (pairTwins.keeping.run Walk.pair ".sol" pairStart) := by
  have mismatched : pairTwins.plain.mismatchedIn (Walk.firstOfPair false) = true :=
    Walk.mismatchedIn_firstOfPair none false
  have named : ∀ entry ∈ Walk.pair, entry.path.NulFree := by
    simp only [Path.NulFree]
    decide
  refine ⟨Walk.runVisits_pair pairTwins.plain false, ?_, keeping_agrees apart_pairTwins
    blind_pairTwins named ".sol" [] pairStart.tally⟩
  rw [Visit.fails, mismatched, Bool.true_or]

end Twins

namespace Walk

/-! ### A link among the artifacts -/

/-- The walk that keeps nothing, over an entry that gives the run up when one source is written. -/
def unkeepingWalk : Walk := byMarkers rootSolc refusingMachine none (Path.ofPlace [])

/-- Without artifacts such a run leaves all files as they were. -/
theorem files_unkeeping {others : List (Place × Node)}
    (wellFormed : (keepingSession others).world.tree.WellFormed) (place : Place) :
    (reached (unkeepingWalk.run [soleEntry] ".sol" (keepingSession others))).world.tree.node?
        place = (keepingSession others).world.tree.node? place := by
  have contained := contained_byMarkers (confined_refusing (keepingSession others).world.cwd
    fun _ => True) trivial trivial rootSolc none (Path.ofPlace [])
  rcases unkeepingWalk.run_cases [soleEntry] ".sol" (keepingSession others) with
    ⟨fault, _, _, ended⟩ | ⟨line, result, _, course, ended⟩
  · rw [ended]
    rfl
  · have left := course.preserved contained (by decide) rfl wellFormed (FileTree.stands_nil _)
    rw [ended, world_finished]
    exact (filesLeft_of_preserved left.1 left.2).unchanged rfl place

/-! ### A link in a scratch directory -/

/-- The second entry of the pair. -/
def laterEntry : Entry := ⟨Path.ofPlace [['b']]⟩

/-- A compiler that imports something else than it exports, and that cannot export `/b` but puts a
link to `/c` in its working directory when it is tried on it. -/
def luringCompiler : Compiler where
  exportCommand _ := []
  importCommand := []
  accepts files directory := fun world =>
    .ok true (if files = [laterEntry.path] then
      { world with tree := plant world.tree (some directory) } else world)
  exportFiles files _ := pure ⟨[], if files = [laterEntry.path] then 1 else 0, [], []⟩
  reexport _ _ := pure ⟨[], 0, ['x'], []⟩

/-- The walk with that compiler, in which every entry is one source. -/
def luringWalk (artifacts : Option Path) : Walk :=
  ⟨⟨fun entry _ => pure (.single entry.path)⟩, luringCompiler, artifacts, Path.ofPlace []⟩

/-- The two entries with further files. -/
def pairTree (further : List (Place × Node)) : FileTree :=
  ⟨pairSession.world.tree.entries ++ further⟩

/-- What is in `/c` when the artifacts of `/a` are kept there. -/
def keptInC : List (Place × Node) :=
  [([['c']], .directory), ([['c'], "00000_a"], .directory),
    ([['c'], "00000_a", exportedName], .file []),
    ([['c'], "00000_a", RoundTrip.obtainedName], .file [120])]

/-- An entry whose path holds a NUL. -/
def nulEntry : Entry := ⟨Path.ofPlace [['a', '\x00']]⟩

/-- The outcome of an entry that mismatches. -/
def luringOutcome (entry : Entry) : Outcome :=
  .mismatched entry ⟨[], [exportedName], Path.ofPlace firstScratch⟩
    (Diff.compare [] ['x'] exportedName RoundTrip.obtainedName).diff

theorem process_luring (artifacts : Option Path) {entry : Entry}
    (h : entry ∈ [⟨Path.ofPlace [['a']]⟩, nulEntry]) :
    (luringWalk artifacts).process entry (Path.ofPlace firstScratch) (underway [] []) =
      .ok (luringOutcome entry) (underway bothExports []) := by
  have exported : RoundTrip.keep (Path.ofPlace firstScratch) exportedName []
      (underway [] []) = .ok () (underway (bothExports.take 1) []) := by
    cbv
  have obtained : RoundTrip.keep (Path.ofPlace firstScratch) RoundTrip.obtainedName ['x']
      (underway (bothExports.take 1) []) = .ok () (underway bothExports []) := by
    cbv
  rcases List.mem_pair.1 h with rfl | rfl
  all_goals
    refine bind_ok.2 ⟨_, _, rfl, bind_ok.2 ⟨_, _, rfl, bind_ok.2 ⟨true, _, rfl, ?_⟩⟩⟩
    exact bind_ok.2 ⟨_, _, rfl, bind_ok.2 ⟨_, _, exported, bind_ok.2 ⟨_, _, rfl,
      bind_ok.2 ⟨_, _, obtained, rfl⟩⟩⟩⟩

/-- The visit of `/a` ends well, with what is kept of it among the files. -/
theorem ending_luring {artifacts : Option Path} {further : List (Place × Node)}
    (kept : ∀ launches stderr, ∃ after,
      (luringWalk artifacts).keepArtifacts 0 ⟨Path.ofPlace [['a']]⟩ (Path.ofPlace firstScratch)
          ⟨(underway bothExports []).tree, [], launches, stderr⟩ = .ok () after ∧
        (removeScratch (Path.ofPlace firstScratch) after).cwd = [] ∧
        (removeScratch (Path.ofPlace firstScratch) after).tree = pairTree further) :
    ∃ after, (firstOfPair false).ending (luringWalk artifacts) = .ok false after ∧
      after.world.cwd = [] ∧ after.world.tree = pairTree further := by
  have made : makeScratch (luringWalk artifacts).scratchParent (firstOfPair false).start.world =
      .ok (Path.ofPlace firstScratch) (underway [] []) := made_pair artifacts false
  obtain ⟨⟨⟨files, _, launches, stderr⟩, stdout, tally⟩, cwd, tree, ending⟩ :=
    ending_of_mismatch made (process_luring artifacts (by simp [firstOfPair])) rfl
  obtain rfl : files = _ := tree
  obtain rfl : _ = [] := cwd
  obtain ⟨after, kept, cwd, tree⟩ := kept launches stderr
  have goesOn : (Session.act ((luringWalk artifacts).keepArtifacts (firstOfPair false).index
        (firstOfPair false).entry (Path.ofPlace firstScratch)) >>= fun _ =>
      pure ((firstOfPair false).start.tally.after (luringOutcome (firstOfPair false).entry)).halted)
        ⟨⟨(underway bothExports []).tree, [], launches, stderr⟩, stdout, tally⟩ =
        .ok false ⟨after, stdout, tally⟩ :=
    bind_ok.2 ⟨(), _, Session.act_of_ok kept, rfl⟩
  rw [goesOn] at ending
  exact ⟨_, ending, cwd, tree⟩

theorem ending_luring_unkept :
    ∃ after, (firstOfPair false).ending (luringWalk none) = .ok false after ∧
      after.world.cwd = [] ∧ after.world.tree = pairTree [] := by
  refine ending_luring fun launches stderr => ⟨_, rfl, ?_⟩
  constructor <;> cbv

theorem ending_luring_kept :
    ∃ after, (firstOfPair false).ending (luringWalk (some (Path.ofPlace [['c']]))) =
        .ok false after ∧
      after.world.cwd = [] ∧ after.world.tree = pairTree keptInC := by
  refine ending_luring fun launches stderr => ?_
  have copied : FileTree.copyTree [] FileTree.pathLimit (Path.ofPlace firstScratch)
      (artifactPath (Path.ofPlace [['c']]) 0 ⟨Path.ofPlace [['a']]⟩)
      (underway bothExports []).tree =
        .ok [] ⟨(underway bothExports []).tree.entries ++ keptInC⟩ := by
    cbv
  obtain ⟨text, -, said⟩ := Twins.log_of_sure (sure_kept ⟨Path.ofPlace [['a']]⟩
      (artifactPath (Path.ofPlace [['c']]) 0 ⟨Path.ofPlace [['a']]⟩))
    ⟨⟨(underway bothExports []).tree.entries ++ keptInC⟩, [], launches, stderr⟩
  have kept : (luringWalk (some (Path.ofPlace [['c']]))).keepArtifacts 0 ⟨Path.ofPlace [['a']]⟩
      (Path.ofPlace firstScratch) ⟨(underway bothExports []).tree, [], launches, stderr⟩ =
        .ok () ⟨⟨(underway bothExports []).tree.entries ++ keptInC⟩, [], launches,
          stderr ++ text⟩ := by
    rw [keepArtifacts]
    simp only [luringWalk, copied]
    exact said
  refine ⟨_, kept, ?_⟩
  constructor <;> cbv

/-- The second entry is visited if the visit of the first one ends well. -/
theorem visited_later {walk : Walk} {after : Session}
    (goesOn : (firstOfPair false).ending walk = .ok false after) :
    (⟨1, laterEntry, after⟩ : Visit) ∈ walk.runVisits pair ".sol" pairSession := by
  have announced : announce pair ".sol" pairSession = .ok () (firstOfPair false).start :=
    announce_pair false
  replace goesOn : walk.take 0 ⟨Path.ofPlace [['a']]⟩ (firstOfPair false).start =
    .ok false after := goesOn
  rw [runVisits, announced, pair]
  simp only [visits, goesOn]
  exact List.mem_cons_of_mem _ List.mem_cons_self

/-- A run in which the work on the second entry meets a fault ends by that, if no artifacts are
kept of it. -/
theorem run_of_later {walk : Walk} {after : Session} {fault : Failure}
    (goesOn : (firstOfPair false).ending walk = .ok false after)
    (met : (⟨1, laterEntry, after⟩ : Visit).fault? walk = some fault)
    (unkept : walk.artifacts = none ∨ fault.isAbort = false) :
    ∃ left, walk.run pair ".sol" pairSession = .error fault left := by
  obtain ⟨failure, left, ending, kind, -⟩ := ending_of_fault met
  have same : failure = fault := by
    rcases kind with same | ⟨kept, aborted, -⟩
    · exact same
    · rcases unkept with unkept | mishap
      · exact absurd unkept kept
      · rw [aborted] at mishap
        cases mishap
  exact ⟨left, same ▸ run_of_error (visited_later goesOn) ending⟩

/-- The world in which a visit of the second entry is begun. -/
def laterWorld (further : List (Place × Node)) (launches : List Launch) (stderr : Text) : World :=
  ⟨pairTree further, [], launches, stderr⟩

theorem made_later {further : List (Place × Node)} (h : further = [] ∨ further = keptInC)
    {world : World} (cwd : world.cwd = []) (tree : world.tree = pairTree further) :
    makeScratch (Path.ofPlace []) world = .ok (Path.ofPlace firstScratch)
      (laterWorld (further ++ [(firstScratch, .directory)]) world.launches world.stderr) := by
  obtain ⟨files, _, launches, stderr⟩ := world
  obtain rfl : files = _ := tree
  obtain rfl : _ = [] := cwd
  rcases h with rfl | rfl <;> cbv

/-- Where nothing is in `/c` the export of `/b` is kept there, and said to have failed. -/
theorem process_later (launches : List Launch) (stderr : Text) :
    (outcomeOf ((luringWalk none).process laterEntry (Path.ofPlace firstScratch)
      (laterWorld [(firstScratch, .directory)] launches stderr))).any Outcome.isBreakdown =
        true := by
  cbv

/-- Where artifacts are in `/c` the export of `/b` cannot be kept. -/
theorem process_later_kept (artifacts : Option Path) (launches : List Launch) (stderr : Text) :
    (luringWalk artifacts).process laterEntry (Path.ofPlace firstScratch)
        (laterWorld (keptInC ++ [(firstScratch, .directory)]) launches stderr) =
      .error (.file (.system .isDirectory "/ast-roundtrip-0/expected.json"))
        (laterWorld (keptInC ++ [(firstScratch, .directory),
          (firstScratch ++ [exportedName], .link "/c")]) launches stderr) := by
  cbv

/-- The work on an entry that broke down is ended by a finding. -/
theorem fault?_of_broken {walk : Walk} {visit : Visit}
    (broken : (visit.outcome? walk).any Outcome.isBreakdown = true) :
    ∃ finding, visit.fault? walk = some (.abort finding) := by
  rw [Visit.outcome?] at broken
  cases attempted : walk.attempt visit.entry visit.start.world with
  | error fault left =>
    rw [attempted] at broken
    cases broken
  | ok outcome left =>
    rw [attempted] at broken
    replace broken : outcome.isBreakdown = true := broken
    cases found : outcome.finding? with
    | none =>
      rw [Outcome.finding?_eq_none_iff.1 found] at broken
      cases broken
    | some finding => exact ⟨finding, by rw [fault?_of_outcome attempted, found]; rfl⟩

/-- The run that keeps nothing is ended by a finding about the compiler. -/
theorem run_luring :
    ∃ finding after, (luringWalk none).run pair ".sol" pairSession =
      .error (.abort finding) after := by
  obtain ⟨after, goesOn, cwd, tree⟩ := ending_luring_unkept
  have made : makeScratch (luringWalk none).scratchParent after.world = .ok _ _ :=
    made_later (.inl rfl) cwd tree
  have broken : ((⟨1, laterEntry, after⟩ : Visit).outcome? (luringWalk none)).any
      Outcome.isBreakdown = true := by
    rw [Visit.outcome?, attempt_eq, bind_of_ok made]
    exact process_later _ _
  obtain ⟨finding, met⟩ := fault?_of_broken broken
  exact ⟨finding, run_of_later goesOn met (.inl rfl)⟩

/-- The run that keeps artifacts in `/c` is ended by an error of the file system. -/
theorem run_luring_kept :
    ∃ after, (luringWalk (some (Path.ofPlace [['c']]))).run pair ".sol" pairSession =
      .error (.file (.system .isDirectory "/ast-roundtrip-0/expected.json")) after := by
  obtain ⟨after, goesOn, cwd, tree⟩ := ending_luring_kept
  have made : makeScratch (luringWalk (some (Path.ofPlace [['c']]))).scratchParent after.world =
    .ok _ _ := made_later (.inr rfl) cwd tree
  have attempted : (luringWalk (some (Path.ofPlace [['c']]))).attempt laterEntry after.world =
      (luringWalk (some (Path.ofPlace [['c']]))).process laterEntry (Path.ofPlace firstScratch)
        (laterWorld (keptInC ++ [(firstScratch, .directory)]) after.world.launches
          after.world.stderr) := by
    rw [attempt_eq, bind_of_ok made]
  have met : (⟨1, laterEntry, after⟩ : Visit).fault? (luringWalk (some (Path.ofPlace [['c']]))) =
      some (.file (.system .isDirectory "/ast-roundtrip-0/expected.json")) :=
    fault?_of_failure made (attempted.trans (process_later_kept _ _ _))
  exact run_of_later goesOn met (.inr rfl)

/-! ### A path that holds a NUL -/

/-- The visit of that entry. -/
def nulVisit : Visit :=
  ⟨0, nulEntry,
    ⟨pairSession.world, "Looking at 1 .sol files...\n", openTally [nulEntry] false⟩⟩

theorem announce_nul : announce [nulEntry] ".sol" pairSession = .ok () nulVisit.start := by
  rw [announce]
  refine bind_ok.2 ⟨_, _, rfl, ?_⟩
  cbv

theorem ending_nul (artifacts : Option Path) :
    ∃ session, session.world.cwd = [] ∧ session.world.tree = (underway bothExports []).tree ∧
      nulVisit.ending (luringWalk artifacts) = cleared (Path.ofPlace firstScratch)
        ((Session.act ((luringWalk artifacts).keepArtifacts 0 nulEntry
            (Path.ofPlace firstScratch)) >>= fun _ => pure false) session) := by
  have begins : nulVisit.start.world = pairSession.world := rfl
  have made : makeScratch (luringWalk artifacts).scratchParent nulVisit.start.world =
      .ok (Path.ofPlace firstScratch) (underway [] []) := by
    rw [begins]
    exact made_pair artifacts false
  have goesOn : (nulVisit.start.tally.after (luringOutcome nulEntry)).halted = false :=
    Tally.halted_after rfl _
  rw [← goesOn]
  exact ending_of_mismatch made (process_luring artifacts (by simp [nulVisit])) rfl

/-- The run that keeps nothing returns. -/
theorem run_nul :
    ∃ statistics after, (luringWalk none).run [nulEntry] ".sol" pairSession =
      .ok statistics after := by
  obtain ⟨session, -, -, ending⟩ := ending_nul none
  have took : (luringWalk none).take 0 nulEntry nulVisit.start = .ok false _ := ending
  have visited : (luringWalk none).runVisits [nulEntry] ".sol" pairSession = [nulVisit] := by
    rw [runVisits, announce_nul]
    simp only [visits, took]
    rfl
  rcases (luringWalk none).run_cases [nulEntry] ".sol" pairSession with
    ⟨fault, _, unvisited, _⟩ | ⟨line, result, _, course, run⟩
  · rw [visited] at unvisited
    cases unvisited
  · rw [visited] at course
    obtain ⟨-, after, rfl, -⟩ := course.complete rfl fun visit hm => by
      rw [List.mem_singleton.1 hm]
      exact ⟨_, _, ending⟩
    exact ⟨_, _, run⟩

/-- The run that keeps artifacts fails over the NUL. -/
theorem run_nul_kept :
    ∃ after, (luringWalk (some (Path.ofPlace [['c']]))).run [nulEntry] ".sol" pairSession =
      .error (.file .embeddedNul) after := by
  obtain ⟨session, cwd, tree, ending⟩ := ending_nul (some (Path.ofPlace [['c']]))
  have copied : ∃ left, FileTree.copyTree session.world.cwd FileTree.pathLimit
      (Path.ofPlace firstScratch) (artifactPath (Path.ofPlace [['c']]) 0 nulEntry)
      session.world.tree = .error .embeddedNul left := by
    rw [cwd, tree]
    exact ⟨(underway (bothExports ++ [([['c']], .directory)]) []).tree, by cbv⟩
  obtain ⟨left, copied⟩ := copied
  have given : (luringWalk (some (Path.ofPlace [['c']]))).artifacts = some (Path.ofPlace [['c']]) :=
    rfl
  rw [bind_of_error (Session.act_of_error (keepArtifacts_of_nul given copied))] at ending
  have listed : nulVisit ∈ (luringWalk (some (Path.ofPlace [['c']]))).runVisits [nulEntry] ".sol"
      pairSession := by
    rw [runVisits, announce_nul]
    exact List.mem_cons_self
  exact ⟨_, run_of_error listed ending⟩

/-- **What keeping artifacts may change.**  A link in the directory of the artifacts lets a file
outside of it be overwritten.  One to that directory, which a compiler puts where an export is
kept, lets the run end by another error.  And the artifacts of an entry whose path holds a NUL
cannot be kept at all. -/
theorem keeping_may_differ :
    (keepingWalk = { unkeepingWalk with artifacts := some (Path.ofPlace [['k']]) } ∧
      refusingMachine.Functional ∧ refusingMachine.Confined [] (fun _ => True) ∧
      ¬ [['k']] <+: soleEntry.path.parts ∧ ¬ [['k']] <+: [['v']] ∧
      (reached (keepingWalk.run [soleEntry] ".sol" (keepingSession linkedFiles))).world.tree.node?
          [['v']] = some (.file (Utf8.encode "new\n")) ∧
      (reached (unkeepingWalk.run [soleEntry] ".sol" (keepingSession linkedFiles))).world.tree.node?
          [['v']] = some (.file (Utf8.encode "old\n")) ∧
      Utf8.encode "new\n" ≠ Utf8.encode "old\n") ∧
    (∀ entry ∈ nulEntry :: pair, ¬ [['c']] <+: entry.path.parts) ∧
    ((∃ finding after, (luringWalk none).run pair ".sol" pairSession =
        .error (.abort finding) after) ∧
      ∃ after, (luringWalk (some (Path.ofPlace [['c']]))).run pair ".sol" pairSession =
        .error (.file (.system .isDirectory "/ast-roundtrip-0/expected.json")) after) ∧
    (∃ statistics after, (luringWalk none).run [nulEntry] ".sol" pairSession =
        .ok statistics after) ∧
      ∃ after, (luringWalk (some (Path.ofPlace [['c']]))).run [nulEntry] ".sol" pairSession =
        .error (.file .embeddedNul) after := by
  refine ⟨⟨rfl, ⟨fun _ _ _ _ _ _ => rfl, fun _ _ _ _ _ h => h⟩, confined_refusing _ _, by decide,
    by decide, ?_, ?_, by decide⟩, by decide, ⟨run_luring, run_luring_kept⟩, run_nul, run_nul_kept⟩
  · rw [tree_of_keepingWalk halfDone_linkedFiles rfl (by cbv)]
    cbv
  · rw [files_unkeeping (FileTree.wellFormed_of_entries (by simp only [Path.IsProper]; decide))]
    decide

end Walk
end Reimport
