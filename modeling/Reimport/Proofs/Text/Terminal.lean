import Reimport.Proofs.Path
import Reimport.Text.Terminal

/-!
# What is lost on the way to a terminal

A terminal receives neither a tab nor a control character that is taken out
(`canShow_of_mem_display`), and a text without them is shown as it is (`display_of_canShow`).
So these characters, and no others, keep a text from being shown as it is (`display_eq_self`).
-/
namespace Reimport

namespace Text
variable {separator : Char}

theorem splitAt_of_not_mem {text : Text} (h : separator ∉ text) :
    splitAt separator text = [text] := by
  induction text with
  | nil => rfl
  | cons c rest ih =>
    have hc : c ≠ separator := fun he => h (he ▸ List.mem_cons_self)
    rw [splitAt, if_neg hc, ih fun hr => h (List.mem_cons_of_mem c hr)]

/-- No piece holds the separator at which the text was cut. -/
theorem not_mem_of_mem_splitAt {text piece : Text} (h : piece ∈ splitAt separator text) :
    separator ∉ piece := by
  induction text generalizing piece with
  | nil =>
    rw [splitAt, List.mem_singleton] at h
    simp [h]
  | cons c rest ih =>
    rw [splitAt] at h
    split at h
    · rcases List.mem_cons.1 h with rfl | h
      · exact List.not_mem_nil
      · exact ih h
    · rename_i ne
      split at h
      · rw [List.mem_singleton] at h
        subst h
        exact fun hm => ne (List.mem_singleton.1 hm).symm
      · rename_i first later cut
        rcases List.mem_cons.1 h with rfl | h
        · rintro (_ | _)
          · exact ne rfl
          · exact ih (by rw [cut]; exact List.mem_cons_self) ‹_›
        · exact ih (by rw [cut]; exact List.mem_cons_of_mem _ h)

/-- A character of a piece is one of the text that was cut. -/
theorem mem_of_mem_splitAt {c : Char} {text piece : Text} (h : piece ∈ splitAt separator text)
    (hc : c ∈ piece) : c ∈ text := by
  have ne : c ≠ separator := fun he => not_mem_of_mem_splitAt h (he ▸ hc)
  rw [← intercalate_splitAt separator text]
  exact (mem_intercalate ne _).2 ⟨piece, h, hc⟩

end Text

namespace Terminal

/-- A character that a terminal can receive: it is neither taken out nor filled up. -/
def canShow (c : Char) : Bool := !isDropped c && c ≠ '\t'

theorem canShow_iff {c : Char} : canShow c = true ↔ isDropped c = false ∧ c ≠ '\t' := by
  simp [canShow]

/-- Filling up tabs brings in nothing but blanks. -/
theorem mem_fillTabs {c : Char} {column : Nat} {parts : List Text}
    (h : c ∈ fillTabs column parts) : c = ' ' ∨ ∃ part ∈ parts, c ∈ part := by
  induction parts generalizing column with
  | nil => cases h
  | cons part rest ih =>
    cases rest with
    | nil => exact .inr ⟨part, List.mem_cons_self, h⟩
    | cons next more =>
      rw [fillTabs, List.mem_append, List.mem_append] at h
      rcases h with (h | h) | h
      · exact .inr ⟨part, List.mem_cons_self, h⟩
      · exact .inl (List.eq_of_mem_replicate h)
      · exact (ih h).imp_right fun ⟨other, ho, hc⟩ => ⟨other, List.mem_cons_of_mem _ ho, hc⟩
      · simp

/-- **Neither a tab nor a control character that is taken out is shown.** -/
theorem canShow_of_mem_display {text : Text} {c : Char} (h : c ∈ display text) :
    canShow c = true := by
  by_cases hn : c = '\n'
  · subst hn
    decide
  obtain ⟨line, hl, hc⟩ := (Text.mem_intercalate hn _).1 h
  obtain ⟨piece, hp, rfl⟩ := List.mem_map.1 hl
  rcases mem_fillTabs hc with rfl | ⟨part, there, hc⟩
  · decide
  refine canShow_iff.2 ⟨?_, ?_⟩
  · have kept := (List.mem_filter.1 (Text.mem_of_mem_splitAt hp (Text.mem_of_mem_splitAt there hc))).2
    simpa using kept
  · rintro rfl
    exact Text.not_mem_of_mem_splitAt there hc

/-- A line without tabs is shown as it is. -/
theorem expandLine_of_not_mem {line : Text} (h : '\t' ∉ line) : expandLine line = line := by
  rw [expandLine, Text.splitAt_of_not_mem h, fillTabs]

/-- The lines of a text of characters that can be shown are shown as they are. -/
theorem shownLines_of_canShow {text : Text} (h : ∀ c ∈ text, canShow c = true) :
    shownLines text = Text.splitAt '\n' text := by
  have kept : withoutControls text = text := by
    refine List.filter_eq_self.2 fun c hc => ?_
    simp [(canShow_iff.1 (h c hc)).1]
  have lines : (Text.splitAt '\n' text).map expandLine = Text.splitAt '\n' text := by
    refine (List.map_congr_left fun line hl => ?_).trans (List.map_id _)
    refine expandLine_of_not_mem fun tab => ?_
    exact (canShow_iff.1 (h _ (Text.mem_of_mem_splitAt hl tab))).2 rfl
  rw [shownLines, kept, lines]

/-- A text of characters that can be shown is shown as it is. -/
theorem display_of_canShow {text : Text} (h : ∀ c ∈ text, canShow c = true) :
    display text = text := by
  rw [display, shownLines_of_canShow h, Text.intercalate_splitAt]

/-- Lines in a log: the first one behind the name of its level, the further ones set under it. -/
def underLevel (level : Text) : List Text → Text
  | [] => Text.padRight 9 level ++ ['\n']
  | first :: more =>
    Text.padRight 8 level ++ ' ' :: (first ++ ['\n']) ++
      more.flatMap fun line => List.replicate 9 ' ' ++ line ++ ['\n']

/-- A text of characters that can be shown is logged line by line as it is. -/
theorem logEntry_of_canShow {text : Text} (h : ∀ c ∈ text, canShow c = true) (level : Text) :
    logEntry level text = underLevel level (Text.splitAt '\n' text) := by
  rw [logEntry, shownLines_of_canShow h]
  cases Text.splitAt '\n' text <;> rfl

/-- **A text is shown as it is iff it has no tab and no control character that is taken out.** -/
theorem display_eq_self {text : Text} : display text = text ↔ ∀ c ∈ text, canShow c = true :=
  ⟨fun h _ hc => canShow_of_mem_display (h ▸ hc), display_of_canShow⟩

end Terminal
end Reimport
