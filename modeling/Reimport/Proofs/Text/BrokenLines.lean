import Reimport.Text.Lines

/-!
# Reading one line at a time

Under the wide notion of a line break a line ends where the next one begins, but where
that is depends on what follows: a carriage return takes a line feed after it along.
`IsBroken` says of some pieces that they are the lines of the text they make up.  The
first of them is then the first line of whatever it begins, as long as no line feed
follows and nothing follows a line that only the end of its text ends
(`IsBroken.first`).
-/
namespace Reimport.Text

/-- A carriage return with the line feed after it is one break. -/
theorem brokenLines_crlf (rest : Text) :
    brokenLines ('\r' :: '\n' :: rest) = ['\r', '\n'] :: brokenLines rest := rfl

theorem brokenLines_cons {c : Char} {rest : Text} (h : c = '\r' → rest.head? ≠ some '\n') :
    brokenLines (c :: rest) =
      if isLineBreak c then [c] :: brokenLines rest
      else match brokenLines rest with
        | [] => [[c]]
        | line :: more => (c :: line) :: more := by
  rw [brokenLines.eq_def]
  split
  · rename_i hn
    cases hn
  · rename_i rest' he
    obtain ⟨rfl, rfl⟩ := List.cons.inj he
    exact absurd rfl (h rfl)
  · rename_i he
    obtain ⟨rfl, rfl⟩ := List.cons.inj he
    rfl

theorem eq_nil_of_brokenLines {text : Text} (h : brokenLines text = []) : text = [] := by
  rw [← flatten_brokenLines text, h, List.flatten_nil]

theorem ne_nil_of_mem_brokenLines {text line : Text} (h : line ∈ brokenLines text) :
    line ≠ [] := by
  fun_induction brokenLines text with
  | case1 => cases h
  | case2 rest ih =>
    rcases List.mem_cons.1 h with rfl | h
    · exact List.cons_ne_nil _ _
    · exact ih h
  | case3 c rest _ hc ih =>
    rcases List.mem_cons.1 h with rfl | h
    · exact List.cons_ne_nil _ _
    · exact ih h
  | case4 c rest _ hc hl ih =>
    rw [List.mem_singleton.1 h]
    exact List.cons_ne_nil _ _
  | case5 c rest _ hc first more hl ih =>
    rcases List.mem_cons.1 h with rfl | h
    · exact List.cons_ne_nil _ _
    · exact ih (hl ▸ List.mem_cons_of_mem _ h)

/-- The first line of a text is the first line of what it begins. -/
theorem brokenLines_first {line tail : Text} {more : List Text}
    (h : brokenLines (line ++ tail) = line :: more) :
    brokenLines tail = more ∧ ∀ text : Text, text.head? ≠ some '\n' → (tail = [] → text = []) →
      brokenLines (line ++ text) = line :: brokenLines text := by
  induction line generalizing more with
  | nil => exact absurd rfl (ne_nil_of_mem_brokenLines (h ▸ List.mem_cons_self))
  | cons c line ih =>
    by_cases crlf : c = '\r' ∧ (line ++ tail).head? = some '\n'
    -- the line ends with a carriage return and a line feed
    · obtain ⟨rfl, hn⟩ := crlf
      obtain ⟨rest, hr⟩ := List.head?_eq_some_iff.1 hn
      rw [List.cons_append, hr, brokenLines_crlf] at h
      obtain ⟨hl, rfl⟩ := List.cons.inj h
      obtain rfl := (List.cons.inj hl).2
      obtain rfl := (List.cons.inj hr).2
      exact ⟨rfl, fun text _ _ => brokenLines_crlf text⟩
    · rw [List.cons_append, brokenLines_cons fun hc hn => crlf ⟨hc, hn⟩] at h
      split at h
      · rename_i hb
        -- it ends with a single character
        obtain ⟨hl, rfl⟩ := List.cons.inj h
        obtain rfl := (List.cons.inj hl).2
        refine ⟨rfl, fun text hn _ => ?_⟩
        rw [List.singleton_append, brokenLines_cons fun _ => hn, if_pos hb]
      · rename_i hb
        have notReturn : c ≠ '\r' := by
          rintro rfl
          exact hb rfl
        split at h
        -- it is the last one and has no end
        · rename_i hr
          obtain ⟨hl, rfl⟩ := List.cons.inj h
          obtain rfl := (List.cons.inj hl).2
          obtain rfl := eq_nil_of_brokenLines hr
          refine ⟨rfl, fun text _ ended => ?_⟩
          rw [ended rfl, List.append_nil, brokenLines_cons fun hc => absurd hc notReturn, if_neg hb]
          rfl
        -- it goes on behind its first character
        · rename_i first others hr
          obtain ⟨hl, rfl⟩ := List.cons.inj h
          obtain rfl := (List.cons.inj hl).2
          obtain ⟨rest, next⟩ := ih hr
          refine ⟨rest, fun text hn ended => ?_⟩
          rw [List.cons_append, brokenLines_cons fun hc => absurd hc notReturn, if_neg hb,
            next text hn ended]

/-- The pieces are the lines of the text that they make up. -/
def IsBroken (pieces : List Text) : Prop := brokenLines pieces.flatten = pieces

theorem isBroken_brokenLines (text : Text) : IsBroken (brokenLines text) := by
  rw [IsBroken, flatten_brokenLines]

namespace IsBroken

variable {line : Text} {pieces more : List Text}

theorem tail (h : IsBroken (line :: pieces)) : IsBroken pieces := (brokenLines_first h).1

theorem of_append (h : IsBroken (pieces ++ more)) : IsBroken more := by
  induction pieces with
  | nil => exact h
  | cons line pieces ih => exact ih h.tail

/-- The first piece is the first line of what it begins. -/
theorem first (h : IsBroken (line :: pieces)) {text : Text} (unfed : text.head? ≠ some '\n')
    (ended : pieces = [] → text = []) :
    brokenLines (line ++ text) = line :: brokenLines text := by
  refine (brokenLines_first h).2 text unfed fun hn => ended ?_
  have := h.tail
  rw [IsBroken, hn] at this
  exact this.symm

end IsBroken

theorem brokenLines_injective {text other : Text} (h : brokenLines text = brokenLines other) :
    text = other := by
  rw [← flatten_brokenLines text, h, flatten_brokenLines]

end Reimport.Text
