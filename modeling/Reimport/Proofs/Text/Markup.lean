import Reimport.Proofs.Results

/-!
# Escaped texts in messages

A message puts values from outside between tags of its own.  Escaping makes every tag
inside such a value plain, and nothing in front of the next bracket can become a tag with
what follows it, so that reading the message finds the tags of the message and no others
(`piecesAfter_escape`).  Therefore a message with such values can be shown, whatever they
are: at its end (`render_last`, `render_reason`), or between the tags of a style
(`render_error`, `render_styled`, `render_behind`).
-/
namespace Reimport.Markup

/-- A piece that is shown as text: a character, or a tag that a backslash makes plain. -/
def Piece.isShown : Piece → Bool
  | .plain _ => true
  | .tag backslashes _ => backslashes % 2 = 1

/-- Pieces that are all shown as text. -/
def Shown (pieces : List Piece) : Prop := ∀ piece ∈ pieces, piece.isShown = true

/-- A text as it is written so that it is shown as it is, with `pending` backslashes in
front of it. -/
def written (pending : Nat) (text : Text) : Text :=
  (piecesAfter pending text).flatMap Piece.escaped

/-- A character that neither begins a piece of its own nor a tag. -/
def isOrdinary (c : Char) : Bool := c ≠ '\\' && c ≠ '['

/-- A text in which an opening bracket, if any, comes before the first closing one, so
that no tag that is begun before it ends in it. -/
def Blocks (text : Text) : Prop :=
  (text.dropWhile fun d => d ≠ ']' && d ≠ '[').head? ≠ some ']'

/-! ## Pieces that are shown -/

theorem Shown.append {first second : List Piece} (hf : Shown first) (hs : Shown second) :
    Shown (first ++ second) := by
  intro piece hm
  rcases List.mem_append.1 hm with hm | hm
  · exact hf piece hm
  · exact hs piece hm

theorem shown_plain (text : Text) : Shown (text.map .plain) := by
  intro piece hm
  obtain ⟨c, _, rfl⟩ := List.mem_map.1 hm
  rfl

theorem shown_backslashes (count : Nat) : Shown (List.replicate count (.plain '\\')) := by
  rw [← List.map_replicate]
  exact shown_plain _

theorem shown_tag {count : Nat} (odd : count % 2 = 1) (inside : Text) :
    Shown [.tag count inside] := by
  intro piece hm
  rw [List.mem_singleton.1 hm, Piece.isShown, odd]
  rfl

/-! ## Reading texts piece by piece -/

theorem piecesAfter_nil (pending : Nat) :
    piecesAfter pending [] = List.replicate pending (.plain '\\') := by
  rw [piecesAfter]

theorem piecesAfter_backslash (pending : Nat) (rest : Text) :
    piecesAfter pending ('\\' :: rest) = piecesAfter (pending + 1) rest := by
  rw [piecesAfter, if_pos rfl]

theorem piecesAfter_tag {rest inside after : Text} (h : tag? rest = some (inside, after))
    (pending : Nat) :
    piecesAfter pending ('[' :: rest) = .tag pending inside :: piecesAfter 0 after := by
  rw [piecesAfter, if_neg (by decide), if_pos rfl]
  split
  · rename_i other last ht
    cases h.symm.trans ht
    rfl
  · rename_i ht
    cases h.symm.trans ht

theorem piecesAfter_bracket {rest : Text} (h : tag? rest = none) (pending : Nat) :
    piecesAfter pending ('[' :: rest) =
      List.replicate pending (.plain '\\') ++ .plain '[' :: piecesAfter 0 rest := by
  rw [piecesAfter, if_neg (by decide), if_pos rfl]
  split
  · rename_i inside after ht
    cases h.symm.trans ht
  · rfl

theorem piecesAfter_ordinary {c : Char} (h : isOrdinary c = true) (pending : Nat) (rest : Text) :
    piecesAfter pending (c :: rest) =
      List.replicate pending (.plain '\\') ++ .plain c :: piecesAfter 0 rest := by
  simp only [isOrdinary, Bool.and_eq_true, decide_eq_true_eq] at h
  rw [piecesAfter, if_neg h.1, if_neg h.2]

theorem piecesAfter_backslashes (pending count : Nat) (rest : Text) :
    piecesAfter pending (List.replicate count '\\' ++ rest) = piecesAfter (pending + count) rest := by
  induction count generalizing pending with
  | zero => rfl
  | succ count ih =>
    rw [List.replicate_succ, List.cons_append, piecesAfter_backslash, ih]
    congr 1
    omega

theorem piecesAfter_ordinaries {text : Text} (h : ∀ c ∈ text, isOrdinary c = true) (rest : Text) :
    piecesAfter 0 (text ++ rest) = text.map .plain ++ piecesAfter 0 rest := by
  induction text with
  | nil => rfl
  | cons c text ih =>
    rw [List.cons_append, piecesAfter_ordinary (h c List.mem_cons_self),
      ih fun d hd => h d (List.mem_cons_of_mem _ hd)]
    rfl

/-! ## Reading an escaped text -/

theorem flatMap_escaped_backslashes (count : Nat) :
    (List.replicate count (.plain '\\')).flatMap Piece.escaped = List.replicate count '\\' := by
  induction count with
  | zero => rfl
  | succ count ih =>
    rw [List.replicate_succ, List.flatMap_cons, ih]
    rfl

theorem written_nil (pending : Nat) : written pending [] = List.replicate pending '\\' := by
  rw [written, piecesAfter_nil, flatMap_escaped_backslashes]

theorem written_backslash (pending : Nat) (rest : Text) :
    written pending ('\\' :: rest) = written (pending + 1) rest := by
  rw [written, written, piecesAfter_backslash]

theorem written_tag {rest inside after : Text} (h : tag? rest = some (inside, after))
    (pending : Nat) :
    written pending ('[' :: rest) =
      List.replicate (2 * pending + 1) '\\' ++ '[' :: (inside ++ ']' :: written 0 after) := by
  rw [written, piecesAfter_tag h, List.flatMap_cons, Piece.escaped, written, List.append_assoc,
    List.cons_append, List.append_assoc]
  rfl

theorem written_bracket {rest : Text} (h : tag? rest = none) (pending : Nat) :
    written pending ('[' :: rest) = List.replicate pending '\\' ++ '[' :: written 0 rest := by
  rw [written, piecesAfter_bracket h, List.flatMap_append, flatMap_escaped_backslashes]
  rfl

theorem written_ordinary {c : Char} (h : isOrdinary c = true) (pending : Nat) (rest : Text) :
    written pending (c :: rest) = List.replicate pending '\\' ++ c :: written 0 rest := by
  rw [written, piecesAfter_ordinary h, List.flatMap_append, flatMap_escaped_backslashes]
  rfl

theorem blocks_cons_of_ne {c : Char} (hc : c ≠ ']') {text : Text} (h : Blocks text) :
    Blocks (c :: text) := by
  rw [Blocks, List.dropWhile_cons]
  split
  · exact h
  · simpa using hc

theorem blocks_backslashes (count : Nat) {text : Text} (h : Blocks text) :
    Blocks (List.replicate count '\\' ++ text) := by
  induction count with
  | zero => exact h
  | succ count ih => exact blocks_cons_of_ne (by decide) ih

theorem blocks_bracket (rest : Text) : Blocks ('[' :: rest) := by
  rw [Blocks, List.dropWhile_cons, if_neg (by decide)]
  simp

theorem Blocks.of_cons {c : Char} {text : Text} (h : Blocks (c :: text)) (hc : c ≠ '[') :
    c ≠ ']' ∧ Blocks text := by
  have ho : c ≠ ']' := by
    rintro rfl
    simp [Blocks] at h
  refine ⟨ho, ?_⟩
  rw [Blocks, List.dropWhile_cons, if_pos (by simp [ho, hc])] at h
  exact h

/-- No tag ends in a text that is escaped if none ends in the text itself. -/
theorem Blocks.written {text : Text} (h : Blocks text) {suffix : Text} (hs : Blocks suffix)
    (pending : Nat) : Blocks (written pending text ++ suffix) := by
  induction pending, text using piecesAfter.induct with
  | case1 pending =>
    rw [written_nil]
    exact blocks_backslashes _ hs
  | case2 pending rest ih =>
    rw [written_backslash]
    exact ih (h.of_cons (by decide)).2
  | case3 pending rest inside after ht _ _ _ =>
    rw [written_tag ht, List.append_assoc]
    exact blocks_backslashes _ (blocks_bracket _)
  | case4 pending rest ht _ _ =>
    rw [written_bracket ht, List.append_assoc]
    exact blocks_backslashes _ (blocks_bracket _)
  | case5 pending c rest hb ho ih =>
    obtain ⟨hc, hr⟩ := h.of_cons ho
    rw [written_ordinary (by simp [isOrdinary, hb, ho]), List.append_assoc]
    exact blocks_backslashes _ (blocks_cons_of_ne hc (ih hr))

theorem tag?_cons_eq_none {c : Char} {rest : Text} :
    tag? (c :: rest) = none ↔ startsTag c = false ∨ Blocks rest := by
  rw [tag?]
  cases startsTag c with
  | false => simp
  | true =>
    simp only [if_true, Bool.true_eq_false, false_or, Blocks]
    split
    · rename_i h
      rw [h]
      exact ⟨fun hn => absurd hn (Option.some_ne_none _), fun hn => absurd rfl hn⟩
    · rename_i h
      refine ⟨fun _ hh => ?_, fun _ => rfl⟩
      obtain ⟨after, ha⟩ := List.head?_eq_some_iff.1 hh
      exact h after ha

/-- A tag is read up to its closing bracket, whatever follows. -/
theorem tag?_append {text inside after : Text} (h : tag? text = some (inside, after))
    (rest : Text) : tag? (inside ++ ']' :: rest) = some (inside, rest) := by
  cases text with
  | nil => cases h
  | cons c text =>
    rw [tag?] at h
    split at h
    · rename_i hc
      split at h
      · cases h
        have inner : ∀ d ∈ text.takeWhile fun d => d ≠ ']' && d ≠ '[',
            (d ≠ ']' && d ≠ '[') = true := List.all_eq_true.1 List.all_takeWhile
        rw [List.cons_append, tag?, if_pos hc, List.dropWhile_append_of_pos inner,
          List.takeWhile_append_of_pos inner]
        simp
      · cases h
    · cases h

theorem tag?_eq_none_of_head {text : Text} (h : ∀ c ∈ text.head?, startsTag c = false) :
    tag? text = none := by
  cases text with
  | nil => rfl
  | cons c rest => exact tag?_cons_eq_none.2 (.inl (h c rfl))

/-- A backslash in front of a text stays in front of it. -/
theorem written_succ (pending : Nat) (text : Text) :
    ∃ more, written (pending + 1) text = '\\' :: more := by
  generalize hn : pending + 1 = n
  induction n, text using piecesAfter.induct generalizing pending with
  | case1 n => exact ⟨_, by rw [written_nil, ← hn, List.replicate_succ]⟩
  | case2 n rest ih =>
    rw [written_backslash]
    exact ih n rfl
  | case3 n rest inside after ht _ _ _ => exact ⟨_, by rw [written_tag ht]; rfl⟩
  | case4 n rest ht _ _ =>
    exact ⟨_, by rw [written_bracket ht, ← hn, List.replicate_succ]; rfl⟩
  | case5 n c rest hb ho _ =>
    exact ⟨_, by rw [written_ordinary (by simp [isOrdinary, hb, ho]), ← hn, List.replicate_succ]; rfl⟩

/-- What begins no tag begins none after it is escaped. -/
theorem tag?_written {text : Text} (h : tag? text = none) {suffix : Text} (hs : Blocks suffix)
    (unstarted : ∀ c ∈ suffix.head?, startsTag c = false) :
    tag? (written 0 text ++ suffix) = none := by
  cases text with
  | nil =>
    rw [written_nil]
    exact tag?_eq_none_of_head unstarted
  | cons c rest =>
    by_cases hb : c = '\\'
    · obtain ⟨more, hm⟩ := written_succ 0 rest
      rw [hb, written_backslash, hm]
      rfl
    by_cases ho : c = '['
    · subst ho
      cases ht : tag? rest with
      | none =>
        rw [written_bracket ht]
        rfl
      | some found =>
        rw [written_tag ht]
        rfl
    rw [written_ordinary (by simp [isOrdinary, hb, ho])]
    exact tag?_cons_eq_none.2 ((tag?_cons_eq_none.1 h).imp_right (·.written hs 0))

/-- A text that neither continues nor ends a tag that is begun before it. -/
structure Barrier (text : Text) : Prop where
  blocks : Blocks text
  unstarted : ∀ c ∈ text.head?, startsTag c = false

theorem Barrier.of_bracket {text : Text} (h : ∀ c ∈ text.head?, c = '[') : Barrier text := by
  cases text with
  | nil => exact ⟨by simp [Blocks], fun _ hc => nomatch hc⟩
  | cons c rest =>
    rw [h c rfl]
    exact ⟨blocks_bracket rest, by rintro _ ⟨⟩; decide⟩

theorem Barrier.nil : Barrier [] := .of_bracket fun _ hc => nomatch hc

theorem Barrier.backslashes {text : Text} (h : Barrier text) (extra : Nat) :
    Barrier (List.replicate extra '\\' ++ text) := by
  refine ⟨blocks_backslashes extra h.blocks, ?_⟩
  cases extra with
  | zero => exact h.unstarted
  | succ extra =>
    rintro _ ⟨⟩
    decide

/-! An escaped text is read part by part: what looks like a tag has one backslash more than
twice as many as stood before it, and everything else is a run of plain characters. -/

theorem piecesAfter_written_tag {rest inside after : Text} (ht : tag? rest = some (inside, after))
    (pending : Nat) (tail : Text) :
    piecesAfter 0 (written pending ('[' :: rest) ++ tail) =
      .tag (2 * pending + 1) inside :: piecesAfter 0 (written 0 after ++ tail) := by
  rw [written_tag ht, List.append_assoc, piecesAfter_backslashes, List.cons_append,
    List.append_assoc, List.cons_append, piecesAfter_tag (tag?_append ht _), Nat.zero_add]

theorem piecesAfter_written_bracket {rest : Text} (ht : tag? rest = none) (pending : Nat)
    {tail : Text} (bar : Barrier tail) :
    piecesAfter 0 (written pending ('[' :: rest) ++ tail) =
      (List.replicate pending '\\' ++ ['[']).map .plain ++
        piecesAfter 0 (written 0 rest ++ tail) := by
  rw [written_bracket ht, List.append_assoc, piecesAfter_backslashes, List.cons_append,
    piecesAfter_bracket (tag?_written ht bar.blocks bar.unstarted), Nat.zero_add]
  simp

theorem piecesAfter_written_ordinary {c : Char} (ordinary : isOrdinary c = true) (pending : Nat)
    (rest tail : Text) :
    piecesAfter 0 (written pending (c :: rest) ++ tail) =
      (List.replicate pending '\\' ++ [c]).map .plain ++
        piecesAfter 0 (written 0 rest ++ tail) := by
  rw [written_ordinary ordinary, List.append_assoc, piecesAfter_backslashes, List.cons_append,
    piecesAfter_ordinary ordinary, Nat.zero_add]
  simp

/-- **An escaped text is read as text.**  At the end of a message or in front of a
barrier, behind any number of backslashes, the pieces of an escaped text are shown, and
some of its last backslashes may stand before the barrier. -/
theorem piecesAfter_written (pending : Nat) (text : Text) :
    ∃ inner count, Shown inner ∧
      ∀ (extra : Nat) (tail : Text), Barrier tail →
        piecesAfter 0 (written pending text ++ (List.replicate extra '\\' ++ tail)) =
          inner ++ piecesAfter (count + extra) tail := by
  induction pending, text using piecesAfter.induct with
  | case1 pending =>
    refine ⟨[], pending, shown_plain [], fun extra tail _ => ?_⟩
    rw [written_nil, piecesAfter_backslashes, piecesAfter_backslashes, Nat.zero_add]
    rfl
  | case2 pending rest ih => simpa only [written_backslash] using ih
  | case3 pending rest inside after ht _ _ ih =>
    obtain ⟨inner, count, hi, hp⟩ := ih
    have odd : (2 * pending + 1) % 2 = 1 := by omega
    refine ⟨_, count, (shown_tag odd inside).append hi, fun extra tail bar => ?_⟩
    rw [piecesAfter_written_tag ht, hp extra tail bar]
    rfl
  | case4 pending rest ht _ ih =>
    obtain ⟨inner, count, hi, hp⟩ := ih
    refine ⟨_, count, (shown_plain (List.replicate pending '\\' ++ ['['])).append hi,
      fun extra tail bar => ?_⟩
    rw [piecesAfter_written_bracket ht _ (bar.backslashes extra), hp extra tail bar,
      List.append_assoc]
  | case5 pending c rest hb ho ih =>
    obtain ⟨inner, count, hi, hp⟩ := ih
    have ordinary : isOrdinary c = true := by simp [isOrdinary, hb, ho]
    refine ⟨_, count, (shown_plain (List.replicate pending '\\' ++ [c])).append hi,
      fun extra tail bar => ?_⟩
    rw [piecesAfter_written_ordinary ordinary, hp extra tail bar, List.append_assoc]

/-- The pieces of an escaped value at the end of a message or in front of a barrier. -/
theorem piecesAfter_escape (value : Text) :
    ∃ inner count, Shown inner ∧
      ∀ tail : Text, Barrier tail →
        piecesAfter 0 (escape value ++ tail) = inner ++ piecesAfter count tail := by
  obtain ⟨inner, count, hi, hp⟩ := piecesAfter_written 0 value
  rw [show escape value = if trailingBackslashes (written 0 value) = 1
    then written 0 value ++ ['\\'] else written 0 value from rfl]
  split
  · refine ⟨inner, count + 1, hi, fun tail bar => ?_⟩
    rw [← hp 1 tail bar, List.append_assoc]
    rfl
  · exact ⟨inner, count, hi, hp 0⟩

/-! ## Showing a message with an escaped value -/

theorem renderFrom_odd {count : Nat} (odd : count % 2 = 1) (position : Nat)
    (tags : List OpenTag) (run inside : Text) (more : List Piece) :
    renderFrom position tags run (.tag count inside :: more) =
      showRun run (((renderFrom (position + count + inside.length + 2) tags [] more).map
        (('[' :: plainText (inside ++ [']'])) ++ ·)).map (List.replicate (count / 2) '\\' ++ ·)) := by
  rw [renderFrom.eq_def]
  simp only [if_pos odd]

/-- Pieces that are shown keep the open tags, so what follows them decides whether a
message can be shown. -/
theorem renderFrom_shown {inner more : List Piece} {tags : List OpenTag} (hi : Shown inner)
    (hm : ∀ position run, ∃ text, renderFrom position tags run more = .ok text)
    (position : Nat) (run : Text) :
    ∃ text, renderFrom position tags run (inner ++ more) = .ok text := by
  induction inner generalizing position run with
  | nil => exact hm position run
  | cons piece inner ih =>
    have ih := ih fun other ho => hi other (List.mem_cons_of_mem piece ho)
    cases piece with
    | plain c =>
      rw [List.cons_append, renderFrom]
      exact ih _ _
    | tag count inside =>
      have odd : count % 2 = 1 := by simpa [Piece.isShown] using hi _ List.mem_cons_self
      obtain ⟨text, ht⟩ := ih (position + count + inside.length + 2) []
      rw [List.cons_append, renderFrom_odd odd, ht]
      exact ⟨_, rfl⟩

/-- Pieces that are shown open no style. -/
theorem checkStyles_shown {inner more : List Piece} (hi : Shown inner) :
    checkStyles (inner ++ more) = checkStyles more := by
  induction inner with
  | nil => rfl
  | cons piece inner ih =>
    have ih := ih fun other ho => hi other (List.mem_cons_of_mem piece ho)
    cases piece with
    | plain c => exact ih
    | tag count inside =>
      have odd : count % 2 = 1 := by simpa [Piece.isShown] using hi _ List.mem_cons_self
      rw [List.cons_append, checkStyles, if_pos (by simp [odd])]
      exact ih

/-- A message whose pieces are shown can be shown. -/
theorem render_of_shown {message : Text} (h : Shown (pieces message)) :
    ∃ shown, render message = .ok shown := by
  rw [render]
  split
  · obtain ⟨text, ht⟩ : ∃ text, renderFrom 0 [] [] (pieces message ++ []) = .ok text :=
      renderFrom_shown h (fun position run => ⟨_, rfl⟩) 0 []
    have styles : checkStyles (pieces message ++ []) = .ok () := checkStyles_shown h
    rw [List.append_nil] at ht styles
    simp only [ht, styles]
    exact ⟨text, rfl⟩
  · exact ⟨_, rfl⟩

/-- The pieces of an escaped value at the end of a message, after a number of backslashes of
the value before it. -/
theorem shown_value (lead : Text) (plain : ∀ c ∈ lead, isOrdinary c = true) (value : Text) :
    Shown (piecesAfter 0 (lead ++ escape value)) := by
  obtain ⟨inner, count, hi, hp⟩ := piecesAfter_escape value
  have last := hp [] .nil
  rw [List.append_nil, piecesAfter_nil] at last
  rw [piecesAfter_ordinaries plain, last]
  exact (shown_plain lead).append (hi.append (shown_backslashes count))

/-- **A value at the end of a message can be shown**, whatever it is, with other text
before it. -/
theorem render_last (lead : Text) (plain : ∀ c ∈ lead, isOrdinary c = true) (value : Text) :
    ∃ shown, render (lead ++ escape value) = .ok shown :=
  render_of_shown (shown_value lead plain value)

theorem escape_nil : escape [] = [] := by
  rw [escape, pieces, piecesAfter_nil]
  rfl

/-- What follows an ordinary character does not depend on the backslashes before it. -/
theorem piecesAfter_flush {c : Char} (h : isOrdinary c = true) (pending : Nat) (rest : Text) :
    piecesAfter pending (c :: rest) =
      List.replicate pending (.plain '\\') ++ piecesAfter 0 (c :: rest) := by
  rw [piecesAfter_ordinary h, piecesAfter_ordinary h]
  rfl

/-- An escaped value is shown in front of a barrier that begins with an ordinary character. -/
theorem piecesAfter_value (lead : Text) (plain : ∀ c ∈ lead, isOrdinary c = true) (value : Text)
    {c : Char} (hc : isOrdinary c = true) {rest : Text} (bar : Barrier (c :: rest)) :
    ∃ inner, Shown inner ∧
      piecesAfter 0 (lead ++ (escape value ++ c :: rest)) = inner ++ piecesAfter 0 (c :: rest) := by
  obtain ⟨inner, count, hi, hp⟩ := piecesAfter_escape value
  refine ⟨lead.map .plain ++ (inner ++ List.replicate count (.plain '\\')),
    (shown_plain lead).append (hi.append (shown_backslashes count)), ?_⟩
  rw [piecesAfter_ordinaries plain, hp _ bar, piecesAfter_flush hc, List.append_assoc,
    List.append_assoc]

/-- A bracket that begins no tag stays in front of its text when that is escaped. -/
theorem escape_bracket {rest : Text} (h : tag? rest = none) :
    ∃ more, escape ('[' :: rest) = '[' :: more := by
  have body : written 0 ('[' :: rest) = '[' :: written 0 rest := written_bracket h 0
  rw [show escape ('[' :: rest) = if trailingBackslashes (written 0 ('[' :: rest)) = 1
    then written 0 ('[' :: rest) ++ ['\\'] else written 0 ('[' :: rest) from rfl, body]
  split
  · exact ⟨_, rfl⟩
  · exact ⟨_, rfl⟩

/-- Plain text up to a bracket lets no tag through, unless its first character begins one. -/
theorem Barrier.of_plain {c : Char} {middle : Text} (unclosed : ']' ∉ c :: middle)
    (unstarted : startsTag c = false) (rest : Text) : Barrier (c :: (middle ++ '[' :: rest)) := by
  have blocks : ∀ text : Text, ']' ∉ text → Blocks (text ++ '[' :: rest) := by
    intro text ht
    induction text with
    | nil => exact blocks_bracket rest
    | cons d text ih =>
      rw [List.mem_cons, not_or] at ht
      exact blocks_cons_of_ne (Ne.symm ht.1) (ih ht.2)
  refine ⟨blocks (c :: middle) unclosed, ?_⟩
  rintro _ ⟨⟩
  exact unstarted

/-- **Two values can be shown in one message** if the second one begins with a bracket that
begins no tag. -/
theorem render_reason (lead : Text) (plain : ∀ c ∈ lead, isOrdinary c = true) (value : Text)
    {rest : Text} (h : tag? rest = none) :
    ∃ shown, render (lead ++ (escape value ++ (": " ++ escape ('[' :: rest)))) = .ok shown := by
  obtain ⟨more, hm⟩ := escape_bracket h
  have bar : Barrier (':' :: (" " ++ escape ('[' :: rest))) := by
    rw [hm]
    exact .of_plain (by decide) (by decide) more
  have between : (": " : Text).all isOrdinary = true := by decide
  obtain ⟨inner, hi, hp⟩ := piecesAfter_value lead plain value (by decide) bar
  exact render_of_shown ((congrArg Shown hp).mpr
    (hi.append (shown_value ": " (List.all_eq_true.1 between) _)))

/-! ## Styles -/

/-- A style that is known by its name alone, which is written as it is. -/
structure IsNamed (style : Text) : Prop where
  appearance : Style.appearance? style = .ok none
  stripped : Text.strip style = style
  lower : Text.lowercase style = style
  name : tagName style = style
  closingName : tagName ('/' :: style) = '/' :: style
  parameters : tagParameters? style = none
  opens : tag? (style ++ [']']) = some (style, [])
  closes : tag? ('/' :: (style ++ [']'])) = some ('/' :: style, [])
  nonempty : style ≠ []
  unclosing : ∀ rest, style ≠ '/' :: rest

section Styled
variable {style : Text} (named : IsNamed style)
include named

theorem IsNamed.styleName : styleName style = .ok style := by
  rw [Markup.styleName, Style.normalName, named.appearance]
  simp only [bind, Except.bind, pure, Except.pure, named.stripped, named.lower]
  rfl

theorem IsNamed.ofInside : OpenTag.ofInside style = .ok ⟨style, none⟩ := by
  rw [OpenTag.ofInside, named.name, named.styleName, named.parameters]
  rfl

/-- A style is closed by its tag, or the tag is shown. -/
theorem IsNamed.renderFrom_closing {after : List Piece} (ha : Shown after) (count position : Nat)
    (run : Text) :
    ∃ text, renderFrom position [⟨style, none⟩] run (.tag count ('/' :: style) :: after) =
      .ok text := by
  have rest : ∀ tags position,
      ∃ text, renderFrom position tags [] (after ++ []) = .ok text :=
    fun tags position => renderFrom_shown ha (fun _ _ => ⟨_, rfl⟩) position []
  simp only [List.append_nil] at rest
  by_cases odd : count % 2 = 1
  · obtain ⟨text, ht⟩ := rest [⟨style, none⟩] (position + count + ('/' :: style).length + 2)
    rw [renderFrom_odd odd, ht]
    exact ⟨_, rfl⟩
  · have taken : takeTag? style [⟨style, none⟩] = some (⟨style, none⟩, []) := by
      rw [takeTag?, if_pos rfl]
    have closed : (OpenTag.mk style none).close = .ok () := by
      rw [OpenTag.close]
      split <;> simp_all
    obtain ⟨text, ht⟩ := rest [] (position + count + ('/' :: style).length + 2)
    rw [renderFrom.eq_def]
    simp only [if_neg odd, named.closingName, named.stripped, if_neg named.nonempty,
      named.styleName, bind, Except.bind, taken, closed, ht]
    exact ⟨_, rfl⟩

/-- **A message with a styled part can be shown.** -/
theorem IsNamed.render {message : Text} {before inner after : List Piece} (count : Nat)
    (hb : Shown before) (hi : Shown inner) (ha : Shown after)
    (hp : pieces message =
      before ++ .tag 0 style :: (inner ++ .tag count ('/' :: style) :: after)) :
    ∃ shown, Markup.render message = .ok shown := by
  -- behind the opening tag its style is the one that the closing tag ends
  have opened : ∀ position run, ∃ text, renderFrom position [] run
      (.tag 0 style :: (inner ++ .tag count ('/' :: style) :: after)) = .ok text := by
    intro position run
    obtain ⟨text, ht⟩ := renderFrom_shown hi
      (named.renderFrom_closing ha count) (position + 0 + style.length + 2) []
    rw [renderFrom.eq_def]
    simp only [named.name, if_neg (show ¬ 0 % 2 = 1 by decide)]
    split
    · exact absurd rfl (named.unclosing _)
    · simp only [named.ofInside, bind, Except.bind, ht]
      exact ⟨_, rfl⟩
  obtain ⟨text, ht⟩ := renderFrom_shown hb opened 0 []
  have styles : checkStyles (pieces message) = .ok () := by
    have definition : (OpenTag.mk style none).definition = style := List.append_nil style
    have last : checkStyles (.tag count ('/' :: style) :: (after ++ [])) = .ok () := by
      rw [checkStyles, if_pos (by simp), checkStyles_shown ha]
      rfl
    rw [List.append_nil] at last
    have unclosing : style.head? ≠ some '/' := by
      intro h
      obtain ⟨rest, hr⟩ := List.head?_eq_some_iff.1 h
      exact named.unclosing rest hr
    rw [hp, checkStyles_shown hb, checkStyles, if_neg (by simpa using unclosing),
      checkStyles_shown hi, last]
    refine except_bind_ok.2 ⟨_, named.ofInside, except_bind_ok.2 ⟨none, ?_, rfl⟩⟩
    rw [definition, named.appearance]
    rfl
  rw [Markup.render]
  split
  · rw [hp] at styles ⊢
    simp only [ht, styles]
    exact ⟨text, rfl⟩
  · exact ⟨_, rfl⟩

/-- The pieces of a value between the tags of a style. -/
theorem IsNamed.piecesAfter (lead : Text) (plain : ∀ c ∈ lead, isOrdinary c = true)
    (value rest : Text) :
    ∃ inner count, Shown inner ∧
      piecesAfter 0 ('[' :: (style ++ ']' :: (lead ++ (escape value ++
        '[' :: '/' :: (style ++ ']' :: rest))))) =
          .tag 0 style :: (inner ++ .tag count ('/' :: style) :: piecesAfter 0 rest) := by
  obtain ⟨inner, count, hi, hp⟩ := piecesAfter_escape value
  have closing : Markup.piecesAfter count ('[' :: '/' :: (style ++ ']' :: rest)) =
      .tag count ('/' :: style) :: Markup.piecesAfter 0 rest :=
    piecesAfter_tag (tag?_append named.closes rest) count
  refine ⟨lead.map .plain ++ inner, count, (shown_plain lead).append hi, ?_⟩
  rw [piecesAfter_tag (tag?_append named.opens _), piecesAfter_ordinaries plain,
    hp _ (.of_bracket (by rintro _ ⟨⟩; rfl)), closing, List.append_assoc]

end Styled

/-- The tag that opens the style of errors. -/
def errorTag : Text := "[error]"

theorem isNamed_error : IsNamed "error" where
  appearance := by rfl
  stripped := by decide
  lower := by decide
  name := by decide
  closingName := by decide
  parameters := by decide
  opens := by decide
  closes := by decide
  nonempty := by decide
  unclosing := fun _ h => by cases h

theorem isNamed_path : IsNamed "path" where
  appearance := by rfl
  stripped := by decide
  lower := by decide
  name := by decide
  closingName := by decide
  parameters := by decide
  opens := by decide
  closes := by decide
  nonempty := by decide
  unclosing := fun _ h => by cases h

/-- **A value between the tags of the error style can be shown**, whatever it is, with
other text before it. -/
theorem render_error (lead : Text) (plain : ∀ c ∈ lead, isOrdinary c = true) (value : Text) :
    ∃ shown, render (.join [errorTag ++ lead, escape value, "[/error]"]) = .ok shown := by
  obtain ⟨inner, count, hi, hp⟩ := isNamed_error.piecesAfter lead plain value []
  rw [piecesAfter_nil] at hp
  refine isNamed_error.render count (shown_plain []) hi (shown_backslashes 0) (Eq.trans ?_ hp)
  rw [pieces, Text.join_cons, Text.join_cons, Text.join_cons, Text.join_nil, List.append_nil,
    List.append_assoc]
  rfl

/-- **A value in a style can be shown** behind other text. -/
theorem render_tagged {style : Text} (named : IsNamed style) (lead : Text)
    (plain : ∀ c ∈ lead, isOrdinary c = true) (value : Text) :
    ∃ shown, render (lead ++ '[' :: (style ++ ']' ::
      (escape value ++ '[' :: '/' :: (style ++ [']'])))) = .ok shown := by
  obtain ⟨inner, count, hi, hp⟩ := named.piecesAfter [] (List.forall_mem_nil _) value []
  rw [piecesAfter_nil] at hp
  refine named.render count (shown_plain lead) hi (shown_backslashes 0) ?_
  rw [pieces, piecesAfter_ordinaries plain]
  exact congrArg (_ ++ ·) hp

/-- **Two values can be shown in one message** if the second one is in a style. -/
theorem render_styled {style : Text} (named : IsNamed style) (lead : Text)
    (plain : ∀ c ∈ lead, isOrdinary c = true) (first second : Text) (c : Char) (middle : Text)
    (ordinary : ∀ d ∈ c :: middle, isOrdinary d = true) (unclosed : ']' ∉ c :: middle)
    (unstarted : startsTag c = false) :
    ∃ shown, render (lead ++ (escape first ++ c :: (middle ++ '[' :: (style ++ ']' ::
      (escape second ++ '[' :: '/' :: (style ++ [']'])))))) = .ok shown := by
  obtain ⟨before, hb, hp⟩ := piecesAfter_value lead plain first (ordinary c List.mem_cons_self)
    (Barrier.of_plain unclosed unstarted (style ++ ']' :: (escape second ++ '[' :: '/' ::
      (style ++ [']']))))
  obtain ⟨inner, count, hi, hs⟩ := named.piecesAfter [] (List.forall_mem_nil _) second []
  rw [piecesAfter_nil] at hs
  have between := piecesAfter_ordinaries ordinary ('[' :: (style ++ ']' :: (escape second ++
    '[' :: '/' :: (style ++ [']']))))
  refine named.render count (hb.append (shown_plain (c :: middle))) hi (shown_backslashes 0) ?_
  rw [pieces, hp, List.append_assoc]
  exact congrArg (before ++ ·) (between.trans (congrArg (_ ++ ·) hs))

/-- **A value can be shown behind one in a style**, in front of text that is shown. -/
theorem render_behind {style : Text} (named : IsNamed style) (lead : Text)
    (plain : ∀ c ∈ lead, isOrdinary c = true) (first middle : Text)
    (between : ∀ c ∈ middle, isOrdinary c = true) (second : Text) {c : Char} {rest : Text}
    (ordinary : ∀ d ∈ c :: rest, isOrdinary d = true) (bar : Barrier (c :: rest)) :
    ∃ shown, render (lead ++ '[' :: (style ++ ']' :: (escape first ++ '[' :: '/' ::
      (style ++ ']' :: (middle ++ (escape second ++ c :: rest)))))) = .ok shown := by
  obtain ⟨inner, count, hi, hp⟩ := named.piecesAfter [] (List.forall_mem_nil _) first
    (middle ++ (escape second ++ c :: rest))
  obtain ⟨after, ha, hs⟩ :=
    piecesAfter_value middle between second (ordinary c List.mem_cons_self) bar
  have last := piecesAfter_ordinaries ordinary []
  rw [List.append_nil, piecesAfter_nil] at last
  refine named.render count (shown_plain lead) hi (ha.append (shown_plain (c :: rest))) ?_
  rw [pieces, piecesAfter_ordinaries plain]
  refine congrArg (_ ++ ·) (hp.trans ?_)
  rw [hs, last]
  simp

end Reimport.Markup
