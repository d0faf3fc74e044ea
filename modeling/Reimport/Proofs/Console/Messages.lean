import Reimport.CommandLine.Check
import Reimport.Proofs.Text.Bare
import Reimport.Proofs.Text.Terminal
import Reimport.Proofs.Walk.Artifacts

/-!
# Messages about values from outside

Every message of a run that is to show a path, a name, a wording or what a program has said is
one of a few kinds (`Message`): fixed text with one or two escaped values, perhaps in a style.
Whatever the values are, short of a backslash at their end, the message is shown, with each value
as it is kept; where the terminal receives all characters of them, it shows the values themselves
iff none of them loses a backslash (`shown_of_unended`).
-/
namespace Reimport

/-- An action that ends well and does nothing but add a text to the standard error. -/
def Act.Says (action : Act Unit) (text : Text) : Prop :=
  ∀ world, action world = .ok () { world with stderr := world.stderr ++ text }

namespace Console
open Markup (Part Lays Barrier IsNamed source shownParts kept)

/-- A message about values from outside. -/
inductive Message where
  /-- A directory of the corpus is missing. -/
  | missing (root : Path)
  /-- The scratch directory of an entry was refused a place. -/
  | refused (entry : Entry) (cause : SystemError) (path : Text)
  /-- Some of it could not be copied. -/
  | incomplete (entry : Entry) (fault : FileTree.CopyFault) (faults : List FileTree.CopyFault)
  /-- It was copied. -/
  | saved (entry : Entry) (target : Path)
  /-- The round trip of an entry has changed it. -/
  | mismatch (entry : Entry)
  /-- The directory of a round trip. -/
  | directory (workdir : Path)
  /-- A call of the compiler for an entry has failed. -/
  | breakdown (phase : Text) (entry : Entry)
  /-- The compiler, and what it says it is. -/
  | compiler (binary : Path) (banner : Text)
  /-- A finding about the tools. -/
  | finding (wording : Text)
  /-- A report was written. -/
  | report (path : Path)

namespace Message

/-- The level of a message that is logged. -/
def level? : Message → Option Level
  | .missing _ | .refused .. | .incomplete .. => some .warning
  | .saved .. | .compiler .. => some .info
  | .mismatch _ | .finding _ => some .error
  | .report _ => some .success
  | .directory _ | .breakdown .. => none

/-- What is said when a scratch directory was not kept. -/
def notKeptParts (entry : Entry) (reason : Text) : List Part :=
  [.fixed "Could not preserve artifacts for ", .value entry.name, .fixed ": ", .value reason]

/-- The parts of a message. -/
def parts : Message → List Part
  | .missing root =>
    [.fixed "Corpus directory not found: ", .opens "path", .value root.text, .closes "path"]
  | .refused entry cause path => notKeptParts entry (FileError.system cause path).message
  | .incomplete entry fault faults => notKeptParts entry (FileTree.CopyFault.report (fault :: faults))
  | .saved entry target =>
    [.fixed "Artifacts for ", .value entry.name, .fixed " preserved in ", .opens "path",
      .value target.text, .closes "path"]
  | .mismatch entry => [.fixed "AST reimport failed for ", .value entry.text]
  | .directory workdir =>
    [.opens "error", .fixed "Working directory used for this test: ", .value workdir.text,
      .closes "error"]
  | .breakdown phase entry =>
    [.opens "error", .value (.join ["ERROR: AST ", phase, " failed for input file ", entry.text, "."]),
      .closes "error"]
  | .compiler binary banner =>
    [.fixed "Using compiler ", .opens "path", .value binary.text, .closes "path", .fixed " (",
      .value banner, .fixed ")"]
  | .finding wording => [.value wording]
  | .report path =>
    [.fixed "Round-trip report saved to ", .opens "path", .value path.text, .closes "path"]

/-- The values of a message. -/
def values (message : Message) : List Text := Markup.values message.parts

/-- Says a message. -/
def send (message : Message) : Act Unit :=
  match message.level? with
  | some level => Act.log level (source message.parts)
  | none => Act.complain (source message.parts)

/-- A message that is logged is logged as it is written. -/
theorem send_logged {message : Message} {level : Level} {text : Text}
    (logged : message.level? = some level) (written : source message.parts = text) :
    message.send = Act.log level text := by
  simp only [send, logged, written]

/-- What a message says if its values are shown in some way. -/
def words (how : Text → Text) (message : Message) : Text := shownParts how message.parts

/-- What a message adds to the standard error if its values are shown in some way. -/
def line (how : Text → Text) (message : Message) : Text :=
  match message.level? with
  | some level => Terminal.logEntry level.name (level.symbol ++ message.words how)
  | none => Terminal.display (message.words how) ++ newline

/-- What stands in front of a message in its line. -/
def margin (message : Message) : Text :=
  message.level?.elim [] fun level => Text.padRight 8 level.name ++ ' ' :: level.symbol

/-- No value of the message ends with a backslash. -/
def Unended (message : Message) : Prop := ∀ value ∈ message.values, value.getLast? ≠ some '\\'

/-- The terminal receives every character of the values. -/
def Showable (message : Message) : Prop :=
  ∀ value ∈ message.values, ∀ c ∈ value, Terminal.canShow c = true

/-- The lines of a message that says some words. -/
def lay (message : Message) (words : Text) : Text :=
  match message.level? with
  | some level => Terminal.underLevel level.name (Text.splitAt '\n' (level.symbol ++ words))
  | none => words ++ newline

/-- How a message is shown. -/
structure Shown (message : Message) : Prop where
  /-- It can be said, and each of its values is shown as it is kept. -/
  said : message.send.Says (message.line kept)
  /-- If the terminal receives the values at all, it receives the words of the message as they
  are. -/
  laid : message.Showable → message.line kept = message.lay (message.words kept)
  /-- These are one line unless a value holds a line feed. -/
  single : (∀ value ∈ message.values, '\n' ∉ value) →
    message.lay (message.words kept) = message.margin ++ message.words kept ++ newline
  /-- They show the values themselves iff none of these loses a backslash. -/
  whole_iff : message.words kept = message.words id ↔
    ∀ value ∈ message.values, ¬ Markup.LosesBackslash value
  /-- Every value is then found in them. -/
  within : ∀ value ∈ message.values, value <:+: message.words id

/-! ## The parts make no tags of their own -/

theorem ordinary_of_all {text : Text} (h : text.all Markup.isOrdinary = true) :
    ∀ c ∈ text, Markup.isOrdinary c = true := List.all_eq_true.1 h

theorem barrier_tag (text : Text) : Barrier ('[' :: text) :=
  .of_bracket (by rintro _ ⟨⟩; rfl)

theorem lays_notKeptParts {entry : Entry} {reason rest : Text} (bracket : reason = '[' :: rest)
    (untagged : Markup.tag? rest = none) (named : entry.name.getLast? ≠ some '\\')
    (unended : reason.getLast? ≠ some '\\') : Lays none (notKeptParts entry reason) := by
  obtain ⟨more, escaped⟩ := Markup.escape_bracket untagged
  have bar : Barrier (source [.fixed ": ", .value reason]) := by
    have written : source [.fixed ": ", .value reason] = ':' :: (" " ++ '[' :: more) := by
      rw [bracket]
      simp [source, Part.source, escaped]
    rw [written]
    exact .of_plain (by decide) (by decide) more
  exact .fixed (ordinary_of_all (by decide)) (.value named bar
    (.fixed (ordinary_of_all (by decide)) (.value unended .nil .done)))

/-- A value in a style behind fixed text. -/
theorem lays_tagged {style : Text} (named : IsNamed style) {lead value : Text}
    (plain : ∀ c ∈ lead, Markup.isOrdinary c = true) (unended : value.getLast? ≠ some '\\') :
    Lays none [.fixed lead, .opens style, .value value, .closes style] :=
  .fixed plain (.opens named (.value unended (barrier_tag _) (.closes named .done)))

/-- **No message makes a tag that is not meant.** -/
theorem lays_parts {message : Message} (unended : message.Unended) : Lays none message.parts := by
  cases message with
  | missing root =>
    exact lays_tagged Markup.isNamed_path (ordinary_of_all (by decide)) (unended _ (.head _))
  | refused entry cause path =>
    obtain ⟨rest, bracket, untagged⟩ := Walk.message_system cause path
    exact lays_notKeptParts bracket untagged (unended _ (.head _)) (unended _ (.tail _ (.head _)))
  | incomplete entry fault faults =>
    obtain ⟨rest, bracket, untagged⟩ := Walk.report_cons fault faults
    exact lays_notKeptParts bracket untagged (unended _ (.head _)) (unended _ (.tail _ (.head _)))
  | saved entry target =>
    have bar : Barrier (source [.fixed " preserved in ", .opens "path", .value target.text,
        .closes "path"]) :=
      @Barrier.of_plain ' ' "preserved in " (by decide) (by decide) _
    exact .fixed (ordinary_of_all (by decide)) (.value (unended _ (.head _)) bar
      (lays_tagged Markup.isNamed_path (ordinary_of_all (by decide))
        (unended _ (.tail _ (.head _)))))
  | mismatch entry =>
    exact .fixed (ordinary_of_all (by decide)) (.value (unended _ (.head _)) .nil .done)
  | directory workdir =>
    exact .opens Markup.isNamed_error (.fixed (ordinary_of_all (by decide))
      (.value (unended _ (.head _)) (barrier_tag _) (.closes Markup.isNamed_error .done)))
  | breakdown phase entry =>
    exact .opens Markup.isNamed_error (.value (unended _ (.head _)) (barrier_tag _)
      (.closes Markup.isNamed_error .done))
  | compiler binary banner =>
    have bar : Barrier (source [.fixed ")"]) := by
      refine ⟨?_, ?_⟩
      · rw [Markup.Blocks]
        decide
      · rintro _ ⟨⟩
        decide
    exact .fixed (ordinary_of_all (by decide)) (.opens Markup.isNamed_path
      (.value (unended _ (.head _)) (barrier_tag _) (.closes Markup.isNamed_path
        (.fixed (ordinary_of_all (by decide)) (.value (unended _ (.tail _ (.head _))) bar
          (.fixed (ordinary_of_all (by decide)) .done))))))
  | finding wording => exact .value (unended _ (.head _)) .nil .done
  | report path =>
    exact lays_tagged Markup.isNamed_path (ordinary_of_all (by decide)) (unended _ (.head _))

/-! ## What is printed -/

theorem ordinary_symbol (level : Level) : ∀ c ∈ level.symbol, Markup.isOrdinary c = true := by
  cases level <;> exact ordinary_of_all (by decide)

/-- **A message is printed with each value as it is kept.** -/
theorem says_send {message : Message} (unended : message.Unended) :
    message.send.Says (message.line kept) := by
  have laid := lays_parts unended
  intro world
  rw [send, line]
  cases message.level? with
  | none =>
    have shown : Console.styled (source message.parts) newline =
        .ok (Terminal.display (message.words kept) ++ newline) := by
      rw [Console.styled, Markup.render_parts laid]
      rfl
    simp only [Act.complain, shown]
    rfl
  | some level =>
    -- the symbol of the level stands in front of the message
    have rendered : Markup.render (source (.fixed level.symbol :: message.parts)) =
        .ok (level.symbol ++ message.words kept) :=
      Markup.render_parts (.fixed (ordinary_symbol level) laid)
    have shown : Console.logged level (source message.parts) =
        .ok (Terminal.logEntry level.name (level.symbol ++ message.words kept)) := by
      rw [Console.logged]
      exact congrArg (Except.map (Terminal.logEntry level.name)) rendered
    simp only [Act.log, shown]
    rfl

/-- A character that stays on its line. -/
def staysOnLine (c : Char) : Bool := Terminal.canShow c && c ≠ '\n'

theorem staysOnLine_iff {c : Char} : staysOnLine c = true ↔ Terminal.canShow c = true ∧ c ≠ '\n' := by
  simp [staysOnLine]

theorem symbol_stays (level : Level) : ∀ c ∈ level.symbol, staysOnLine c = true := by
  cases level <;> exact List.all_eq_true.1 (by decide)

/-- The text of the message itself. -/
def fixedWords (message : Message) : Text := message.words fun _ => []

theorem fixedWords_stay (message : Message) : ∀ c ∈ message.fixedWords, staysOnLine c = true := by
  cases message <;> exact List.all_eq_true.1 rfl

/-- A character of a message is one of its own text or of a value. -/
theorem mem_words {message : Message} {c : Char} (h : c ∈ message.words kept) :
    c ∈ message.fixedWords ∨ ∃ value ∈ message.values, c ∈ value := by
  obtain ⟨part, hp, hc⟩ := List.mem_flatMap.1 h
  cases part with
  | fixed text => exact .inl (List.mem_flatMap.2 ⟨_, hp, hc⟩)
  | value text => exact .inr ⟨text, List.mem_filterMap.2 ⟨_, hp, rfl⟩, Markup.mem_kept hc⟩
  | opens _ => cases hc
  | closes _ => cases hc

theorem canShow_words {message : Message} (showable : message.Showable) :
    ∀ c ∈ message.words kept, Terminal.canShow c = true := by
  intro c hc
  obtain hc | ⟨value, hv, hc⟩ := mem_words hc
  · exact (staysOnLine_iff.1 (message.fixedWords_stay c hc)).1
  · exact showable value hv c hc

theorem line_of_showable {message : Message} (showable : message.Showable) :
    message.line kept = message.lay (message.words kept) := by
  have words := canShow_words showable
  rw [line, lay]
  cases message.level? with
  | none =>
    show Terminal.display (message.words kept) ++ newline = _
    rw [Terminal.display_of_canShow words]
  | some level =>
    refine Terminal.logEntry_of_canShow (fun c hc => ?_) _
    rcases List.mem_append.1 hc with hc | hc
    · exact (staysOnLine_iff.1 (symbol_stays level c hc)).1
    · exact words c hc

theorem lay_of_single {message : Message} {words : Text} (single : '\n' ∉ words) :
    message.lay words = message.margin ++ words ++ newline := by
  rw [lay, margin]
  cases message.level? with
  | none => rfl
  | some level =>
    have unbroken : '\n' ∉ level.symbol ++ words := by
      rw [List.mem_append, not_or]
      exact ⟨fun hc => (staysOnLine_iff.1 (symbol_stays level _ hc)).2 rfl, single⟩
    show Terminal.underLevel _ (Text.splitAt '\n' (level.symbol ++ words)) = _
    rw [Text.splitAt_of_not_mem unbroken]
    simp [Terminal.underLevel]

theorem unbroken_words {message : Message} (unbroken : ∀ value ∈ message.values, '\n' ∉ value) :
    '\n' ∉ message.words kept := by
  intro hc
  obtain hc | ⟨value, hv, hc⟩ := mem_words hc
  · exact (staysOnLine_iff.1 (message.fixedWords_stay _ hc)).2 rfl
  · exact unbroken value hv hc

theorem words_kept_iff {message : Message} :
    message.words kept = message.words id ↔
      ∀ value ∈ message.values, ¬ Markup.LosesBackslash value := by
  rw [words, words, Markup.shownParts_kept_iff]
  exact forall₂_congr fun value _ => Markup.kept_eq_self_iff

theorem infix_words {message : Message} {value : Text} (h : value ∈ message.values) :
    value <:+: message.words id := by
  obtain ⟨part, hp, hv⟩ := List.mem_filterMap.1 h
  obtain ⟨before, after, parted⟩ := List.append_of_mem hp
  cases part with
  | value text =>
    cases hv
    refine ⟨shownParts id before, shownParts id after, ?_⟩
    rw [words, parted]
    simp [shownParts, Part.shown]
  | _ => cases hv

/-- **How a message is shown** whose values do not end with a backslash. -/
theorem shown_of_unended {message : Message} (unended : message.Unended) : message.Shown where
  said := says_send unended
  laid := line_of_showable
  single unbroken := lay_of_single (unbroken_words unbroken)
  whole_iff := words_kept_iff
  within _ := infix_words

end Message
end Console
end Reimport
