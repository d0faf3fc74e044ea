import Reimport.Proofs.Text.Decimal
import Reimport.Proofs.Text.Terminal
import Reimport.Tally

/-!
# The summary as it is shown

What is printed passes through `Terminal.display`, which takes control characters out
and fills up tabs.  The summary of a run has neither, so it is shown as it is, on one
line, and its wording is decided by whether an entry failed.
-/
namespace Reimport

namespace Terminal

/-- A character that is shown as it is and stays on its line. -/
def isPlain (c : Char) : Bool := !isDropped c && c ≠ '\t' && c ≠ '\n'

theorem isPlain_of_isDigit {c : Char} (h : c.isDigit = true) : isPlain c = true := by
  have apart : ∀ d : Char, d.isDigit = false → c ≠ d := fun _ => Text.ne_of_isDigit h
  simp [isPlain, isDropped, apart]

theorem isPlain_of_mem_decimal {n : Int} : ∀ c ∈ Text.decimal n, isPlain c = true := by
  intro c hc
  rcases Text.isDigit_of_mem_decimal hc with h | rfl
  · exact isPlain_of_isDigit h
  · decide

section Plain
variable {text : Text} (plain : ∀ c ∈ text, isPlain c = true)
include plain

/-- A plain text is shown as it is. -/
theorem display_of_plain : display text = text := by
  refine display_of_canShow fun c hc => ?_
  have := plain c hc
  simp only [isPlain, Bool.and_eq_true] at this
  simp only [canShow, Bool.and_eq_true]
  exact this.1

end Plain
end Terminal

namespace Statistics

/-- The line that says that no entry failed. -/
def successLine (s : Statistics) : Text :=
  .join ["SUCCESS: ", Text.decimal s.tested, " tests passed, ", Text.decimal s.failed,
    " failed, ", Text.decimal s.uncompilable, " could not be compiled (",
    Text.decimal s.totalSources, " sources total)."]

/-- The line that says that some entries failed. -/
def failureLine (s : Statistics) : Text :=
  .join ["FAILURE: Out of ", Text.decimal s.totalSources, " sources, ", Text.decimal s.tested,
    " tested, ", Text.decimal s.failed, " failed, (", Text.decimal s.uncompilable,
    " could not be compiled)."]

theorem summary_of_none_failed {s : Statistics} (h : s.failed = 0) : s.summary = s.successLine := by
  rw [summary, if_pos h]
  rfl

theorem summary_of_failed {s : Statistics} (h : s.failed ≠ 0) : s.summary = s.failureLine := by
  rw [summary, if_neg h]
  rfl

theorem plain_join {pieces : List Text}
    (h : ∀ piece ∈ pieces, ∀ c ∈ piece, Terminal.isPlain c = true) :
    ∀ c ∈ Text.join pieces, Terminal.isPlain c = true := by
  intro c hc
  obtain ⟨piece, hp, hc⟩ := List.mem_flatten.1 hc
  exact h piece hp c hc

/-- **A summary is one plain line.** -/
theorem plain_summary (s : Statistics) : ∀ c ∈ s.summary, Terminal.isPlain c = true := by
  have numeral := @Terminal.isPlain_of_mem_decimal
  rw [summary]
  split
  · refine plain_join ?_
    simp only [List.forall_mem_cons]
    refine ⟨?_, numeral, ?_, numeral, ?_, numeral, ?_, numeral, ?_, nofun⟩ <;>
      exact List.all_eq_true.1 (by decide)
  · refine plain_join ?_
    simp only [List.forall_mem_cons]
    refine ⟨?_, numeral, ?_, numeral, ?_, numeral, ?_, numeral, ?_, nofun⟩ <;>
      exact List.all_eq_true.1 (by decide)

end Statistics
end Reimport
