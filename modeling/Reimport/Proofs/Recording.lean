import Reimport.Proofs.Text.Markup

/-!
# Outcomes are always explained

What is shown of an outcome are paths, commands and what the compiler printed.  The first
are escaped and the others printed as they are, so an explanation can always be shown
(`sure_explainBreakdown`, `sure_explainMismatch`).  Recording an outcome therefore never
meets a mishap: it ends with the finding of a breakdown and with nothing else
(`record_eq`).
-/
namespace Reimport

/-! ## Explanations are shown -/

theorem Console.styled_of_render {message : Text} (ending : Text)
    (h : ∃ shown, Markup.render message = .ok shown) :
    ∃ text, Console.styled message ending = .ok text := by
  obtain ⟨shown, h⟩ := h
  rw [Console.styled, h]
  exact ⟨_, rfl⟩

theorem Console.logged_of_render {level : Console.Level} {message : Text}
    (h : ∃ shown, Markup.render (level.symbol ++ message) = .ok shown) :
    ∃ text, Console.logged level message = .ok text := by
  obtain ⟨shown, h⟩ := h
  rw [Console.logged, h]
  exact ⟨_, rfl⟩

/-- An escaped text can be logged. -/
theorem Console.logged_escape (level : Console.Level) (value : Text) :
    ∃ text, Console.logged level (Markup.escape value) = .ok text := by
  apply logged_of_render
  apply Markup.render_last
  cases level <;> exact List.all_eq_true.1 (by decide)

/-- An action that always succeeds. -/
def Act.Sure {α : Type} (action : Act α) : Prop :=
  ∀ world, ∃ value after, action world = .ok value after

namespace Act.Sure
variable {α β : Type}

theorem bind {first : Act α} {next : α → Act β} (hf : Sure first) (hn : ∀ a, Sure (next a)) :
    Sure (first >>= next) := by
  intro world
  obtain ⟨a, middle, h⟩ := hf world
  rw [bind_of_ok h]
  exact hn a middle

theorem complainVerbatim (text ending : Text) : Sure (Act.complainVerbatim text ending) :=
  fun _ => ⟨_, _, rfl⟩

theorem complain {message : Text} (h : ∃ shown, Markup.render message = .ok shown) :
    Sure (Act.complain message) := by
  obtain ⟨text, h⟩ := Console.styled_of_render Console.newline h
  rw [Act.complain, h]
  exact fun _ => ⟨_, _, rfl⟩

theorem log {level : Console.Level} {message : Text}
    (h : ∃ shown, Markup.render (level.symbol ++ message) = .ok shown) :
    Sure (Act.log level message) := by
  obtain ⟨text, h⟩ := Console.logged_of_render h
  rw [Act.log, h]
  exact fun _ => ⟨_, _, rfl⟩

theorem ne_error {action : Act α} (sure : Sure action) {world after : World} {failure : Failure} :
    action world ≠ .error failure after := by
  obtain ⟨value, other, h⟩ := sure world
  rw [h]
  nofun

end Act.Sure

namespace Session

/-- A value in the style of errors is shown. -/
theorem sure_complain_value (lead : Text) (plain : ∀ c ∈ lead, Markup.isOrdinary c = true)
    (value : Text) :
    (Act.complain (.join [Markup.errorTag ++ lead, Markup.escape value, "[/error]"])).Sure :=
  .complain (Markup.render_error lead plain value)

/-- A fixed text in the style of errors is shown. -/
theorem sure_complain_fixed (lead : Text) (plain : ∀ c ∈ lead, Markup.isOrdinary c = true) :
    (Act.complain (.join [Markup.errorTag ++ lead, "[/error]"])).Sure := by
  have empty := sure_complain_value lead plain []
  rwa [Markup.escape_nil] at empty

/-- An empty line is shown. -/
theorem sure_complain_nil : (Act.complain []).Sure := .complain ⟨[], rfl⟩

/-- A fixed text without brackets and backslashes, found by looking at it. -/
theorem plain_of_all {lead : Text} (h : lead.all Markup.isOrdinary = true) :
    ∀ c ∈ lead, Markup.isOrdinary c = true :=
  List.all_eq_true.1 h

theorem sure_explainCommands (reproduction : Reproduction) :
    (explainCommands reproduction).Sure := by
  unfold explainCommands
  refine .bind (sure_complain_value "Working directory used for this test: "
    (plain_of_all (by decide)) _) fun _ => ?_
  refine .bind (sure_complain_fixed "Used commands for test:" (plain_of_all (by decide)))
    fun _ => ?_
  refine .bind (sure_complain_fixed "# export" (plain_of_all (by decide))) fun _ => ?_
  refine .bind (.complainVerbatim _ _) fun _ => ?_
  refine .bind (sure_complain_fixed "# import" (plain_of_all (by decide))) fun _ => ?_
  exact .complainVerbatim _ _

theorem sure_explainStreams (message stderr stdout : Text) :
    (explainStreams message stderr stdout).Sure := by
  unfold explainStreams
  refine .bind (sure_complain_value [] (plain_of_all (by decide)) message) fun _ => ?_
  refine .bind sure_complain_nil fun _ => ?_
  refine .bind (sure_complain_fixed "stderr:" (plain_of_all (by decide))) fun _ => ?_
  refine .bind (.complainVerbatim _ _) fun _ => .bind sure_complain_nil fun _ => ?_
  refine .bind (sure_complain_fixed "stdout:" (plain_of_all (by decide))) fun _ => ?_
  exact .complainVerbatim _ _

/-- A breakdown can be explained, whatever the compiler has printed. -/
theorem sure_explainBreakdown (phase : Text) (breakdown : Breakdown) :
    (explainBreakdown phase breakdown).Sure :=
  .bind (sure_explainStreams _ _ _) fun _ => sure_explainCommands _

/-- A mismatch can be explained, whatever the exports hold. -/
theorem sure_explainMismatch (entry : Entry) (reproduction : Reproduction) (diff : Text) :
    (explainMismatch entry reproduction diff).Sure := by
  have named := Markup.render_last (Console.Level.error.symbol ++
    ("AST reimport failed for " : Text)) (plain_of_all (by decide)) entry.text
  unfold explainMismatch
  refine .bind sure_complain_nil fun _ => .bind (.log ?_) fun _ => ?_
  · simpa [Text.join] using named
  · exact .bind (.complainVerbatim _ _) fun _ => sure_explainCommands _

end Session

/-! ## Outcomes are recorded -/

namespace Outcome

/-- Whether a compiler call of the round trip failed, which ends a run. -/
def isBreakdown : Outcome → Bool
  | .exportFailed _ | .importFailed _ => true
  | _ => false

/-- Whether the entry passed. -/
def isPass : Outcome → Bool
  | .passed _ => true
  | _ => false

/-- Whether the compiler rejects the entry. -/
def isUncompilable : Outcome → Bool
  | .uncompilable _ => true
  | _ => false

/-- The finding about the compiler with which an outcome ends a run, if it does. -/
def finding? : Outcome → Option Abort
  | .exportFailed breakdown => some (.exportFailed breakdown)
  | .importFailed breakdown => some (.importFailed breakdown)
  | .passed _ | .uncompilable _ | .mismatched _ _ _ => none

theorem finding?_eq_none_iff {outcome : Outcome} :
    outcome.finding? = none ↔ outcome.isBreakdown = false := by
  cases outcome <;> simp [finding?, isBreakdown]

theorem isBreakdown_of_finding? {outcome : Outcome} {finding : Abort}
    (h : outcome.finding? = some finding) : outcome.isBreakdown = true := by
  rw [← Bool.not_eq_false, ← finding?_eq_none_iff, h]
  exact Option.some_ne_none _

end Outcome

namespace Session

/-- The mark that recording an outcome prints. -/
def recordMark (outcome : Outcome) : Text := if outcome.isPass then passMark else []

theorem recordMark_of_not_pass {outcome : Outcome} (h : outcome.isPass = false) :
    recordMark outcome = [] := by
  simp [recordMark, h]

/-- A breakdown prints no mark. -/
theorem recordMark_of_breakdown {outcome : Outcome} (h : outcome.isBreakdown = true) :
    recordMark outcome = [] := by
  cases outcome with
  | passed _ => cases h
  | uncompilable _ => rfl
  | mismatched _ _ _ => rfl
  | exportFailed _ => rfl
  | importFailed _ => rfl

/-- The session after an outcome is counted. -/
def counted (session : Session) (outcome : Outcome) : Session :=
  { session with tally := session.tally.after outcome }

theorem record_mismatched (entry : Entry) (reproduction : Reproduction) (diff : Text)
    (session : Session) :
    record (.outcome (.mismatched entry reproduction diff)) session =
      (do act (explainMismatch entry reproduction diff); return (← get).tally.halted)
        (session.counted (.mismatched entry reproduction diff)) := rfl

theorem record_exportFailed (breakdown : Breakdown) (session : Session) :
    record (.outcome (.exportFailed breakdown)) session =
      (do act (explainBreakdown "export" breakdown);
          throw (Failure.abort (.exportFailed breakdown)))
        (session.counted (.exportFailed breakdown)) := rfl

theorem record_importFailed (breakdown : Breakdown) (session : Session) :
    record (.outcome (.importFailed breakdown)) session =
      (do act (explainBreakdown "import" breakdown);
          throw (Failure.abort (.importFailed breakdown)))
        (session.counted (.importFailed breakdown)) := rfl

/-- **What recording an outcome comes to.**  It is counted and explained; a breakdown
ends with its finding, and any other outcome says whether the run is halted. -/
theorem record_eq (outcome : Outcome) (session : Session) :
    ∃ world, record (.outcome outcome) session =
      match outcome.finding? with
      | none => .ok (session.tally.after outcome).halted
          ⟨world, session.stdout ++ recordMark outcome, session.tally.after outcome⟩
      | some finding => .error (.abort finding)
          ⟨world, session.stdout, session.tally.after outcome⟩ := by
  cases outcome with
  | passed entry => exact ⟨session.world, rfl⟩
  | uncompilable entry =>
    refine ⟨session.world, ?_⟩
    rw [recordMark_of_not_pass rfl, List.append_nil]
    rfl
  | mismatched entry reproduction diff =>
    obtain ⟨_, world, h⟩ := sure_explainMismatch entry reproduction diff session.world
    have explained : act (explainMismatch entry reproduction diff)
        (session.counted (.mismatched entry reproduction diff)) = .ok _ _ := act_of_ok h
    refine ⟨world, ?_⟩
    rw [record_mismatched, bind_of_ok explained, recordMark_of_not_pass rfl, List.append_nil]
    rfl
  | exportFailed breakdown =>
    obtain ⟨_, world, h⟩ := sure_explainBreakdown "export" breakdown session.world
    have explained : act (explainBreakdown "export" breakdown)
        (session.counted (.exportFailed breakdown)) = .ok _ _ := act_of_ok h
    refine ⟨world, ?_⟩
    rw [record_exportFailed, bind_of_ok explained]
    rfl
  | importFailed breakdown =>
    obtain ⟨_, world, h⟩ := sure_explainBreakdown "import" breakdown session.world
    have explained : act (explainBreakdown "import" breakdown)
        (session.counted (.importFailed breakdown)) = .ok _ _ := act_of_ok h
    refine ⟨world, ?_⟩
    rw [record_importFailed, bind_of_ok explained]
    rfl

end Session
end Reimport
