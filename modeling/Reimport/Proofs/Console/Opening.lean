import Reimport.Proofs.CommandLine.Verdict
import Reimport.Proofs.Console.Messages
import Reimport.Proofs.Corpus.Targets

/-!
# The opening line of a run

The opening line is the one message with a value that is not escaped: the label of the run.  It
is shown as it stands iff nothing in the label is read as a tag and no backslash in it stands
before a bracket (`Walk.announce_iff`).  Every other message of a run can be shown
(`Unmarked`), so a run ends over a message only at its opening line, and only if the label holds a
tag (`Walk.holdsTag_of_run`, `CommandLine.holdsTag_of_check`).
-/
namespace Reimport

/-! ## Texts that are printed as they stand -/

/-- A text that the terminal receives is printed as it stands iff that is what its markup shows. -/
theorem Console.styled_eq_self_iff {message ending : Text}
    (showable : ∀ c ∈ message, Terminal.canShow c = true) :
    styled message ending = .ok (message ++ ending) ↔ Markup.render message = .ok message := by
  rw [styled]
  constructor
  · intro whole
    cases hr : Markup.render message with
    | error fault =>
      rw [hr] at whole
      cases whole
    | ok shown =>
      rw [hr] at whole
      have same : Terminal.display shown = message :=
        List.append_cancel_right (Except.ok.inj whole)
      rw [Terminal.display_of_canShow fun c hc => showable c (Markup.mem_of_render hr hc)] at same
      rw [same]
  · intro whole
    rw [whole]
    exact congrArg (fun shown => Except.ok (shown ++ ending)) (Terminal.display_of_canShow showable)

namespace Walk
open Markup (HoldsTag HidesBackslash)
variable {corpus : List Entry} {label : Text} {session : Session}

/-- What stands in front of the label. -/
def openingLead (corpus : List Entry) : Text :=
  "Looking at " ++ (Text.decimalNat corpus.length ++ " ")

/-- What stands behind it. -/
def openingTail : Text := " files..."

theorem openingLine_eq (corpus : List Entry) (label : Text) :
    openingLine corpus label = openingLead corpus ++ (label ++ openingTail) := by
  unfold openingLine openingLead openingTail
  generalize Text.decimalNat corpus.length = number
  simp only [Text.join_cons, Text.join_nil, List.append_assoc, List.append_nil]

/-- A character that is shown whatever stands around it. -/
def isPlain (c : Char) : Bool := Markup.isOrdinary c && Terminal.canShow c

theorem isPlain_iff {c : Char} :
    isPlain c = true ↔ Markup.isOrdinary c = true ∧ Terminal.canShow c = true :=
  Bool.and_eq_true_iff

theorem isPlain_of_isDigit {c : Char} (digit : c.isDigit = true) : isPlain c = true := by
  have letters : ['\\', '[', '\x07', '\x08', '\x0b', '\x0c', '\r', '\t'].all (!·.isDigit) = true := by
    decide
  have ne : ∀ d ∈ ['\\', '[', '\x07', '\x08', '\x0b', '\x0c', '\r', '\t'], c ≠ d := fun d hd =>
    Text.ne_of_isDigit digit (by simpa using List.all_eq_true.1 letters d hd)
  simp only [List.forall_mem_cons] at ne
  simp [isPlain, Markup.isOrdinary, Terminal.canShow, Terminal.isDropped, ne]

/-- The text around the label is plain. -/
theorem plain_lead {c : Char} (h : c ∈ openingLead corpus) : isPlain c = true := by
  rcases List.mem_append.1 h with h | h
  · exact List.all_eq_true.1 (by decide) c h
  rcases List.mem_append.1 h with h | h
  · exact isPlain_of_isDigit (Text.isDigit_of_mem_decimalNat h)
  · exact List.all_eq_true.1 (by decide) c h

theorem plain_tail {c : Char} (h : c ∈ openingTail) : isPlain c = true :=
  List.all_eq_true.1 (by decide) c h

theorem ordinary_lead : ∀ c ∈ openingLead corpus, Markup.isOrdinary c = true :=
  fun _ hc => (isPlain_iff.1 (plain_lead hc)).1

theorem ordinary_tail : ∀ c ∈ openingTail, Markup.isOrdinary c = true :=
  fun _ hc => (isPlain_iff.1 (plain_tail hc)).1

theorem barrier_tail : Markup.Barrier openingTail := by
  constructor
  · rw [Markup.Blocks]
    decide
  · rintro _ ⟨⟩
    decide

theorem announce_eq (corpus : List Entry) (label : Text) (session : Session) :
    announce corpus label session =
      match Console.styled (openingLine corpus label) Console.newline with
      | .ok line => .ok () (opened corpus line session)
      | .error fault => .error (.markup fault) (withSources corpus session) := rfl

/-- **The opening line is printed as it stands** iff the label holds no tag and no backslash in it
stands before a bracket. -/
theorem announce_iff (showable : ∀ c ∈ label, Terminal.canShow c = true) :
    announce corpus label session =
        .ok () (opened corpus (openingLine corpus label ++ Console.newline) session) ↔
      ¬ HoldsTag label ∧ ¬ HidesBackslash label := by
  have received : ∀ c ∈ openingLine corpus label, Terminal.canShow c = true := by
    intro c hc
    simp only [openingLine_eq, List.mem_append] at hc
    rcases hc with hc | hc | hc
    · exact (isPlain_iff.1 (plain_lead hc)).2
    · exact showable c hc
    · exact (isPlain_iff.1 (plain_tail hc)).2
  rw [← Markup.render_bare_iff ordinary_lead ordinary_tail barrier_tail, ← openingLine_eq,
    ← Console.styled_eq_self_iff received, announce_eq]
  cases Console.styled (openingLine corpus label) Console.newline with
  | ok line => simp [opened]
  | error fault => simp

/-- It can be printed at least if the label holds no tag. -/
theorem holdsTag_of_styled {fault : Markup.Fault} {ending : Text}
    (h : Console.styled (openingLine corpus label) ending = .error fault) : HoldsTag label := by
  by_cases tagged : HoldsTag label
  · exact tagged
  have lead : ∀ c ∈ openingLead corpus, Markup.isOrdinary c = true := ordinary_lead
  have shown := Markup.render_bare lead ordinary_tail barrier_tail tagged
  rw [← openingLine_eq] at shown
  rw [Console.styled, shown] at h
  cases h

end Walk

/-! ## Work that does not end over a message -/

/-- A piece of work does not end over a message that cannot be shown. -/
def Unmarked {σ α : Type} (work : EStateM Failure σ α) : Prop :=
  ∀ start fault after, work start ≠ .error (.markup fault) after

namespace Unmarked
variable {σ α β : Type}

theorem pure (value : α) : Unmarked (pure value : EStateM Failure σ α) := by
  intro start fault after h
  cases h

theorem throw {failure : Failure} (other : ∀ fault, failure ≠ .markup fault) :
    Unmarked (throw failure : EStateM Failure σ α) := by
  rintro start fault after ⟨⟩
  exact other fault rfl

theorem abort (cause : Abort) : Unmarked (MonadExcept.throw (.abort cause) : EStateM Failure σ α) :=
  .throw fun _ h => by cases h

theorem bind {first : EStateM Failure σ α} {next : α → EStateM Failure σ β}
    (hf : Unmarked first) (hn : ∀ a, Unmarked (next a)) : Unmarked (first >>= next) := by
  intro start fault after h
  rcases bind_error.1 h with h | ⟨a, middle, -, h⟩
  · exact hf start fault after h
  · exact hn a middle fault after h

theorem ask (question : FileTree → Place → Except FileError α) : Unmarked (Act.ask question) := by
  intro world fault after h
  rw [Act.ask] at h
  split at h <;> cases h

theorem change (change : Place → FileTree.Change α) : Unmarked (Act.change change) := by
  intro world fault after h
  rw [Act.change] at h
  split at h <;> cases h

theorem launch (machine : Machine) (command : Command) (directory : Option Path) :
    Unmarked (Act.launch machine command directory) := by
  intro world fault after h
  cases h

theorem emit (text : Text) : Unmarked (Act.emit text) := by
  intro world fault after h
  cases h

theorem giveUp : Unmarked Session.giveUp := by
  intro session fault after h
  cases h

/-- What always succeeds does not end at all over a message. -/
theorem sure {action : Act α} (sure : action.Sure) : Unmarked action := by
  intro world fault after h
  obtain ⟨value, other, hs⟩ := sure world
  cases hs.symm.trans h

theorem act {action : Act α} (unmarked : Unmarked action) : Unmarked (Session.act action) := by
  intro session fault after h
  rcases Session.act_cases action session with ⟨_, world, -, hr⟩ | ⟨failure, world, hw, hr⟩
  · cases hr.symm.trans h
  · cases hr.symm.trans h
    exact unmarked _ _ _ hw

theorem foldlM {items : List α} {step : β → α → EStateM Failure σ β}
    (h : ∀ b a, Unmarked (step b a)) (start : β) : Unmarked (items.foldlM step start) := by
  induction items generalizing start with
  | nil => exact .pure start
  | cons item rest ih =>
    rw [List.foldlM_cons]
    exact .bind (h start item) ih

/-! ### Splitting and compiling -/

theorem writeSection (entry : Entry) (root : Path) (source : Section) :
    Unmarked (MarkerSplit.writeSection entry root source) := by
  refine .bind (.ask _) fun target => ?_
  split
  · exact .bind (.abort _) fun _ => .bind (.change _) fun _ => .change _
  · exact .bind (.change _) fun _ => .change _

theorem writeSections (entry : Entry) (root : Path) (sources : List Section) :
    Unmarked (MarkerSplit.writeSections entry root sources) := by
  induction sources with
  | nil => exact .pure _
  | cons source rest ih => exact .bind (writeSection entry root source) fun _ => ih

theorem split (entry : Entry) (workdir : Path) : Unmarked (MarkerSplit.split entry workdir) := by
  refine .bind (.ask _) fun content => ?_
  split
  · exact .pure _
  split
  · exact .pure _
  · exact .bind (.ask _) fun root => .bind (writeSections entry root _) fun _ => .pure _

theorem script (splitter : SplitScript) (machine : Machine) (entry : Entry) (workdir : Path) :
    Unmarked (splitter.split machine entry workdir) := by
  refine .bind (.launch _ _ _) fun response => ?_
  cases response with
  | refused _ => exact .abort _
  | finished status stdout stderr =>
    simp only
    generalize SplitResult.ofStatus entry status stdout = answer
    cases answer with
    | ok result =>
      split
      · exact .bind (.emit _) fun _ => .pure result
      · exact .pure result
    | error fault =>
      split
      · exact .bind (.emit _) fun _ => .abort _
      · exact .abort _

theorem run (machine : Machine) (command : Command) (directory : Option Path) :
    Unmarked (Solc.run machine command directory) :=
  .bind (.launch _ _ _) fun _ => .pure _

theorem version (solc : Solc) (machine : Machine) : Unmarked (solc.version machine) := by
  refine .bind (run _ _ _) fun answer => ?_
  split
  · exact .pure _
  · exact .abort _

theorem compare (solc : Solc) (machine : Machine) (entry : Entry) (files : List Path)
    (workdir : Path) :
    Unmarked (RoundTrip.compare (solc.compiler machine) entry files workdir) := by
  refine .bind (run _ _ _) fun exported => .bind (.change _) fun _ => ?_
  split
  · exact .pure _
  refine .bind (.bind (.change _) fun _ => run _ _ _) fun reexported => .bind (.change _) fun _ => ?_
  split
  · exact .pure _
  dsimp only
  split <;> exact .pure _

theorem check (solc : Solc) (machine : Machine) (entry : Entry) (files : List Path)
    (workdir : Path) : Unmarked (RoundTrip.check (solc.compiler machine) entry files workdir) := by
  refine .bind (.bind (run _ _ _) fun _ => .pure _) fun accepted => ?_
  split
  · exact compare solc machine entry files workdir
  · exact .pure _

theorem files (entry : Entry) (result : SplitResult) : Unmarked (Walk.files entry result) := by
  cases result with
  | multiple paths => exact .pure paths
  | single path => exact .pure [path]
  | undecodable diagnostic => exact .bind (.emit _) fun _ => .pure _
  | unknown => exact .throw fun _ h => by cases h

/-! ### Looking for a corpus -/

theorem gather (excluded : List Name) (found paths : List Path) :
    Unmarked (Corpus.gather excluded found paths) := by
  induction paths generalizing found with
  | nil => exact .pure found
  | cons path rest ih =>
    refine .bind (.ask _) fun file => ?_
    split
    · exact ih found
    · exact .bind (.ask _) fun place => ih _

theorem addRoot (extension : Text) (excluded : List Name) (found : List Path) (root : Path) :
    Unmarked (Corpus.addRoot extension excluded found root) := by
  refine .bind (.ask _) fun directory => ?_
  split
  · split
    · exact .throw fun _ h => by cases h
    · exact .bind (.ask _) fun paths => gather excluded found _
  · exact .bind (.sure (Corpus.sure_missing root)) fun _ => .pure found

theorem discover (roots : List Path) (extension : Text) (excluded : List Name) :
    Unmarked (Corpus.discover roots extension excluded) :=
  .bind (.foldlM (addRoot extension excluded) []) fun _ => .pure _

/-! ### Entries -/

theorem makeScratch (parent : Path) : Unmarked (Walk.makeScratch parent) := by
  intro world fault after h
  simp only [Walk.makeScratch] at h
  split at h <;> cases h

theorem keepArtifacts (walk : Walk) (index : Nat) (entry : Entry) (workdir : Path) :
    Unmarked (walk.keepArtifacts index entry workdir) := by
  intro world fault after h
  cases (Walk.keepArtifacts_error h).2

theorem settleFailure (walk : Walk) (index : Nat) (entry : Entry) (workdir : Path)
    {failure : Failure} (other : ∀ fault, failure ≠ .markup fault) :
    Unmarked (walk.settleFailure index entry workdir failure) := by
  have abandoned : Unmarked (walk.abandon index entry workdir failure) :=
    .bind .giveUp fun _ =>
      .bind (.act (keepArtifacts walk index entry workdir)) fun _ => .throw other
  intro session fault after h
  rw [Walk.settleFailure] at h
  split at h
  · exact abandoned session fault after h
  · cases h
    exact other fault rfl

theorem settleOutcome (walk : Walk) (index : Nat) (entry : Entry) (workdir : Path)
    (outcome : Outcome) (stop : Bool) :
    Unmarked (walk.settleOutcome index entry workdir outcome stop) := by
  have kept : Unmarked (do
      Session.act (walk.keepArtifacts index entry workdir)
      return stop : Step Bool) :=
    .bind (.act (keepArtifacts walk index entry workdir)) fun _ => .pure stop
  intro session fault after h
  rw [Walk.settleOutcome] at h
  split at h
  · exact kept session fault after h
  · cases h

variable {walk : Walk} (process : ∀ entry workdir, Unmarked (walk.process entry workdir))
include process

theorem step (index : Nat) (entry : Entry) (workdir : Path) :
    Unmarked (walk.step index entry workdir) := by
  intro session fault after h
  cases hp : walk.process entry workdir session.world with
  | error failure world =>
    rw [Walk.step_of_error hp] at h
    refine settleFailure walk index entry workdir (fun other => ?_) _ fault after h
    rintro rfl
    exact process entry workdir _ _ _ hp
  | ok outcome world =>
    rw [Walk.step_of_ok hp] at h
    obtain ⟨last, hr⟩ := Session.record_eq outcome { session with world := world }
    cases hf : outcome.finding? with
    | none =>
      simp only [hr, hf] at h
      exact settleOutcome walk index entry workdir outcome _ _ fault after h
    | some finding =>
      simp only [hr, hf] at h
      have other : ∀ fault, Failure.abort finding ≠ .markup fault := fun _ h => by cases h
      exact settleFailure walk index entry workdir other _ fault after h

theorem take (index : Nat) (entry : Entry) : Unmarked (walk.take index entry) := by
  intro session fault after h
  rw [Walk.take_eq] at h
  cases hs : Walk.makeScratch walk.scratchParent (Walk.begun session).world with
  | error failure world =>
    rw [Walk.withScratch_of_error _ hs] at h
    cases h
    exact makeScratch _ _ _ _ hs
  | ok path world =>
    rw [Walk.withScratch_of_ok _ hs] at h
    cases ht : walk.step index entry path { Walk.begun session with world := world } with
    | ok stop last =>
      rw [ht] at h
      cases h
    | error failure last =>
      rw [ht] at h
      cases h
      exact step process index entry path _ _ _ ht

end Unmarked

/-! ## Runs that end over a message -/

namespace Walk

/-- **A run ends over a message only at its opening line**, and only if the label holds a tag. -/
theorem holdsTag_of_run {walk : Walk} {corpus : List Entry} {label : Text}
    {session after : Session} {fault : Markup.Fault}
    (process : ∀ entry workdir, Unmarked (walk.process entry workdir))
    (h : walk.run corpus label session = .error (.markup fault) after) :
    Markup.HoldsTag label := by
  rcases walk.run_cases corpus label session with
    ⟨fault', styled, -, hr⟩ | ⟨line, result, -, course, hr⟩
  · exact holdsTag_of_styled styled
  · rw [hr] at h
    cases result with
    | ok _ last => cases h
    | error failure last =>
      cases h
      obtain ⟨_, visit, -, ending⟩ := course.failsLast
      exact absurd ending (Unmarked.take process visit.index visit.entry visit.start _ _)

end Walk

namespace CommandLine
namespace Check
variable {host : Host} {settings : Settings}

theorem unmarked_process (entry : Entry) (workdir : Path) :
    Unmarked ((walk host settings).process entry workdir) := by
  have splits : Unmarked ((splitter host settings).split entry workdir) := by
    rw [splitter]
    split
    · exact .script _ _ _ _
    · exact .split _ _
  exact .bind splits fun result => .bind (.files entry result) fun sources =>
    .check _ _ entry sources workdir

theorem unmarked_prepare : Unmarked (prepare host settings) :=
  .bind (.version _ _) fun version =>
    .bind (.sure (.log (render_announcement settings version))) fun _ => .discover _ _ _

theorem unmarked_explain (cause : Abort) : Unmarked (explain cause) := by
  have logged (wording : Text) : Unmarked (Act.log .error (Markup.escape wording)) :=
    .sure (.log (Markup.render_last _ (Session.plain_of_all (by decide)) wording))
  cases cause with
  | splitter fault =>
    refine .bind (.sure Session.sure_complain_nil) fun _ => .bind (logged _) fun _ => ?_
    split
    · exact .emit _
    · exact .pure _
  | _ => exact logged _

theorem unmarked_writeReport (path : Path) (report : Report) : Unmarked (writeReport path report) := by
  refine .bind (.change _) fun _ => .bind (.change _) fun _ => .sure (.log ?_)
  have shown := Markup.render_tagged Markup.isNamed_path
    (Console.Level.success.symbol ++ ("Round-trip report saved to " : Text))
    (Session.plain_of_all (by decide)) path.text
  simpa [Text.join] using shown

theorem holdsTag_of_work {session after : Session} {fault : Markup.Fault}
    (h : work host settings session = .error (.markup fault) after) :
    Markup.HoldsTag settings.extension := by
  rw [work_eq] at h
  rcases bind_error.1 h with h | ⟨corpus, found, -, h⟩
  · exact absurd h (Unmarked.act unmarked_prepare _ _ _)
  rcases bind_error.1 h with h | ⟨_, _, -, h⟩
  · exact Walk.holdsTag_of_run unmarked_process h
  · cases h

theorem holdsTag_of_withSettings {report : Option Path} {session after : Session}
    {fault : Markup.Fault}
    (h : withSettings host settings report session = .error (.markup fault) after) :
    Markup.HoldsTag settings.extension := by
  unfold withSettings at h
  rcases bind_error.1 h with h | ⟨_, fresh, -, h⟩
  · cases h
  -- only the opening line can meet a markup error, and it comes from the work
  rcases bind_error.1 h with h | ⟨_, worked, -, h⟩
  · rw [guarded] at h
    cases hw : work host settings fresh with
    | ok _ left =>
      rw [hw] at h
      cases h
    | error failure left =>
      rw [hw] at h
      cases failure with
      | abort cause =>
        have given : Unmarked (do Session.giveUp; Session.act (explain cause) : Step Unit) :=
          .bind .giveUp fun _ => .act (unmarked_explain cause)
        exact absurd h (given _ _ _)
      | markup other => exact holdsTag_of_work hw
      | _ => cases h
  rcases bind_error.1 h with h | ⟨_, _, -, h⟩
  · cases h
  cases report with
  | none => cases (conclude_eq _ _).symm.trans h
  | some path =>
    rcases bind_error.1 h with h | ⟨_, _, -, h⟩
    · exact absurd h (Unmarked.act (unmarked_writeReport path _) _ _ _)
    · cases (conclude_eq _ _).symm.trans h

end Check

/-- **A check ends over a message only at the opening line of its run**, and only if the extension
of its settings holds a tag. -/
theorem holdsTag_of_check {host : Host} {arguments : Arguments} {world : World}
    {settings : Settings} {session : Session} {fault : Markup.Fault}
    (loaded : Settings.load world.tree world.cwd arguments.overrides host.environment none =
      .ok settings)
    (h : check host arguments world = .error (.work (.markup fault)) session) :
    Markup.HoldsTag settings.extension := by
  simp only [check, loaded] at h
  cases hw : Check.withSettings host settings arguments.jsonReport (Check.sessionIn world) with
  | ok status last =>
    simp only [hw] at h
    cases h
  | error failure last =>
    simp only [hw] at h
    cases h
    exact Check.holdsTag_of_withSettings hw

end CommandLine
end Reimport
