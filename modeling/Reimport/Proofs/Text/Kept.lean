import Reimport.Proofs.Text.Markup

/-!
# What a message shows of its values

An escaped value is shown as it is but for one thing: of a backslash right before a bracket that
begins no tag nothing is left (`kept`), because escaping leaves such a bracket alone and showing
takes the backslash for one that escaping has put there.  So a value comes through whole iff it
has no such backslash (`kept_eq_self_iff`).

A message is fixed text, values and the tags of a style (`Part`).  If nothing in it begins a tag
but what is meant to (`Lays`), it is shown part by part: the fixed text as it stands, each value
as it is kept, and nothing of the tags (`render_parts`).
-/
namespace Reimport.Markup

/-! ## Values that come through -/

/-- A value as it is shown after it was escaped. -/
def kept : Text → Text
  | '\\' :: '[' :: rest =>
    if (tag? rest).isSome then '\\' :: '[' :: kept rest else '[' :: kept rest
  | c :: rest => c :: kept rest
  | [] => []

/-- A backslash stands before a bracket that begins no tag. -/
def LosesBackslash (value : Text) : Prop :=
  ∃ before rest, value = before ++ '\\' :: '[' :: rest ∧ tag? rest = none

theorem losesBackslash_cons_iff {c : Char} {rest : Text} :
    LosesBackslash (c :: rest) ↔
      (c = '\\' ∧ ∃ more, rest = '[' :: more ∧ tag? more = none) ∨ LosesBackslash rest := by
  constructor
  · rintro ⟨before, more, he, ht⟩
    cases before with
    | nil =>
      obtain ⟨rfl, rfl⟩ := List.cons.inj he
      exact .inl ⟨rfl, more, rfl, ht⟩
    | cons d before =>
      obtain ⟨rfl, rfl⟩ := List.cons.inj he
      exact .inr ⟨before, more, rfl, ht⟩
  · rintro (⟨rfl, more, rfl, ht⟩ | ⟨before, more, rfl, ht⟩)
    · exact ⟨[], more, rfl, ht⟩
    · exact ⟨c :: before, more, rfl, ht⟩

theorem length_kept_le (value : Text) : (kept value).length ≤ value.length := by
  fun_induction kept value with
  | case1 rest _ ih => simpa using ih
  | case2 rest _ ih =>
    simp only [List.length_cons]
    omega
  | case3 c rest _ ih => simpa using ih
  | case4 => exact Nat.le_refl 0

/-- **A value comes through whole** iff no backslash in it stands before a bracket that begins no
tag. -/
theorem kept_eq_self_iff {value : Text} : kept value = value ↔ ¬ LosesBackslash value := by
  fun_induction kept value with
  | case1 rest begins ih =>
    have unslashed : LosesBackslash ('[' :: rest) ↔ LosesBackslash rest := by
      rw [losesBackslash_cons_iff]
      exact or_iff_right fun h => absurd h.1 (by decide)
    rw [List.cons_inj_right, List.cons_inj_right, ih, losesBackslash_cons_iff, unslashed,
      or_iff_right]
    rintro ⟨-, more, he, ht⟩
    obtain rfl := (List.cons.inj he).2
    rw [ht] at begins
    cases begins
  | case2 rest begins ih =>
    constructor
    · intro he
      have shorter := length_kept_le rest
      have longer := congrArg List.length he
      simp only [List.length_cons] at longer
      omega
    · intro whole
      exact absurd ⟨[], rest, rfl, by simpa using begins⟩ whole
  | case3 c rest other ih =>
    rw [List.cons_inj_right, ih, losesBackslash_cons_iff, or_iff_right]
    rintro ⟨rfl, more, rfl, -⟩
    exact other more rfl rfl
  | case4 =>
    refine ⟨fun _ => ?_, fun _ => rfl⟩
    rintro ⟨before, rest, he, -⟩
    cases before <;> cases he

/-- A backslash in front of a bracket is kept iff the bracket begins a tag. -/
theorem kept_slashed (rest : Text) :
    kept ('\\' :: '[' :: rest) =
      if (tag? rest).isSome then '\\' :: '[' :: kept rest else '[' :: kept rest := rfl

/-- Anything but a backslash in front of a bracket is kept. -/
theorem kept_cons {c : Char} {rest : Text} (h : c ≠ '\\' ∨ rest.head? ≠ some '[') :
    kept (c :: rest) = c :: kept rest := by
  rw [kept]
  rintro more rfl rfl
  simp at h

theorem kept_ordinary {c : Char} (ordinary : isOrdinary c = true) (rest : Text) :
    kept (c :: rest) = c :: kept rest := by
  refine kept_cons (.inl ?_)
  rintro rfl
  cases ordinary

theorem kept_bracket (rest : Text) : kept ('[' :: rest) = '[' :: kept rest :=
  kept_cons (.inl (by decide))

/-- Backslashes are kept in front of anything but a bracket. -/
theorem kept_backslashes (count : Nat) {rest : Text} (h : rest.head? ≠ some '[') :
    kept (List.replicate count '\\' ++ rest) = List.replicate count '\\' ++ kept rest := by
  induction count with
  | zero => rfl
  | succ count ih =>
    have unbracketed : (List.replicate count '\\' ++ rest).head? ≠ some '[' := by
      cases count with
      | zero => exact h
      | succ count => simp [List.replicate_succ]
    rw [List.replicate_succ, List.cons_append, kept_cons (.inr unbracketed), ih]
    rfl

theorem backslashes_append (count : Nat) (rest : Text) :
    List.replicate count '\\' ++ '\\' :: rest = List.replicate (count + 1) '\\' ++ rest := by
  rw [List.replicate_succ', List.append_assoc]
  rfl

/-- Backslashes are kept in front of a tag. -/
theorem kept_tag (count : Nat) {rest : Text} (h : (tag? rest).isSome = true) :
    kept (List.replicate count '\\' ++ '[' :: rest) =
      List.replicate count '\\' ++ '[' :: kept rest := by
  cases count with
  | zero => exact kept_bracket rest
  | succ count =>
    rw [← backslashes_append, kept_backslashes count (by simp), kept_slashed, if_pos h, List.replicate_succ',
      List.append_assoc]
    rfl

/-- Of backslashes in front of a bracket that begins no tag the last one is lost. -/
theorem kept_untagged (count : Nat) {rest : Text} (h : tag? rest = none) :
    kept (List.replicate count '\\' ++ '[' :: rest) =
      List.replicate (count - 1) '\\' ++ '[' :: kept rest := by
  cases count with
  | zero => exact kept_bracket rest
  | succ count =>
    rw [← backslashes_append, kept_backslashes count (by simp), kept_slashed, h, if_neg (by decide),
      Nat.add_sub_cancel]

/-- The inside of a tag holds no opening bracket. -/
theorem tag?_eq_some {text inside after : Text} (h : tag? text = some (inside, after)) :
    text = inside ++ ']' :: after ∧ '[' ∉ inside := by
  cases text with
  | nil => cases h
  | cons c rest =>
    rw [tag?] at h
    split at h
    · rename_i starts
      split at h
      · rename_i later hd
        cases h
        have whole := List.takeWhile_append_dropWhile (p := fun d => d ≠ ']' && d ≠ '[') (l := rest)
        rw [hd] at whole
        refine ⟨by rw [List.cons_append, whole], fun hm => ?_⟩
        rcases List.mem_cons.1 hm with rfl | hm
        · cases starts
        · have := List.all_eq_true.1 List.all_takeWhile '[' hm
          simp at this
      · cases h
    · cases h

/-- Text without brackets is kept up to a closing one. -/
theorem kept_inside {inside : Text} (h : '[' ∉ inside) (after : Text) :
    kept (inside ++ ']' :: after) = inside ++ ']' :: kept after := by
  induction inside with
  | nil => exact kept_ordinary (by decide) after
  | cons c inside ih =>
    rw [List.mem_cons, not_or] at h
    have unbracketed : (inside ++ ']' :: after).head? ≠ some '[' := by
      cases inside with
      | nil => simp
      | cons d inside =>
        rw [List.mem_cons, not_or] at h
        simpa using Ne.symm h.2.1
    rw [List.cons_append, kept_cons (.inr unbracketed), ih h.2]
    rfl

/-! ## Runs of plain characters -/

theorem plainText_cons {c : Char} {rest : Text} (h : c ≠ '\\' ∨ rest.head? ≠ some '[') :
    plainText (c :: rest) = c :: plainText rest := by
  rw [plainText]
  rintro more rfl rfl
  simp at h

theorem plainText_of_not_mem {text : Text} (h : '[' ∉ text) : plainText text = text := by
  induction text with
  | nil => rfl
  | cons c rest ih =>
    rw [List.mem_cons, not_or] at h
    have unbracketed : rest.head? ≠ some '[' := fun hh => h.2 (List.mem_of_head? hh)
    rw [plainText_cons (.inr unbracketed), ih h.2]

/-- Two runs are shown one after the other if no backslash stands at their border. -/
theorem plainText_append {first second : Text} (h : first.getLast? ≠ some '\\') :
    plainText (first ++ second) = plainText first ++ plainText second := by
  induction first using plainText.induct with
  | case1 rest ih =>
    have : rest.getLast? ≠ some '\\' := by
      cases rest with
      | nil => simp
      | cons d rest => simpa [List.getLast?_cons_cons] using h
    rw [List.cons_append, List.cons_append, plainText, plainText, ih this]
    rfl
  | case2 c rest other ih =>
    cases rest with
    | nil =>
      have ne : c ≠ '\\' := by simpa using h
      rw [List.cons_append, List.nil_append, plainText_cons (.inl ne), plainText_cons (.inl ne)]
      rfl
    | cons d rest =>
      have border : c ≠ '\\' ∨ d ≠ '[' := by
        by_cases hc : c = '\\'
        · exact .inr fun hd => other rest hc (by rw [hd])
        · exact .inl hc
      have here : c ≠ '\\' ∨ (d :: rest).head? ≠ some '[' := border.imp_right (by simp)
      have there : c ≠ '\\' ∨ (d :: rest ++ second).head? ≠ some '[' := border.imp_right (by simp)
      rw [List.cons_append, plainText_cons there, plainText_cons here,
        ih (by simpa [List.getLast?_cons_cons] using h)]
      rfl
  | case3 => rfl

/-- Of backslashes in front of a bracket that begins no tag the last one is lost. -/
theorem plainText_bracket (count : Nat) :
    plainText (List.replicate count '\\' ++ ['[']) = List.replicate (count - 1) '\\' ++ ['['] := by
  induction count with
  | zero => rfl
  | succ count ih =>
    cases count with
    | zero => rfl
    | succ count =>
      rw [List.replicate_succ, List.cons_append, plainText_cons (.inr (by simp [List.replicate_succ])),
        ih]
      simp [List.replicate_succ]

theorem map_append (first second : Text) (shown : Except Fault Text) :
    (shown.map (second ++ ·)).map (first ++ ·) = shown.map (first ++ second ++ ·) := by
  cases shown with
  | error e => rfl
  | ok text => exact congrArg Except.ok (List.append_assoc _ _ _).symm

/-- **A run that ends with no backslash is shown by itself**, whatever comes after it. -/
theorem renderFrom_flush {lead : Text} (h : lead.getLast? ≠ some '\\') (position : Nat)
    (tags : List OpenTag) (run : Text) (more : List Piece) :
    renderFrom position tags (run ++ lead.reverse) more =
      (renderFrom position tags run more).map (plainText lead ++ ·) := by
  have flushed : ∀ shown : Except Fault Text,
      showRun (run ++ lead.reverse) shown = (showRun run shown).map (plainText lead ++ ·) := by
    intro shown
    rw [showRun, showRun, List.reverse_append, List.reverse_reverse, plainText_append h]
    exact (map_append _ _ _).symm
  induction more generalizing position tags run with
  | nil => exact flushed _
  | cons piece more ih =>
    cases piece with
    | plain c =>
      rw [renderFrom, renderFrom, ← List.cons_append]
      refine ih (position + 1) tags (c :: run) fun shown => ?_
      rw [showRun, showRun, List.reverse_append, List.reverse_reverse, plainText_append h]
      exact (map_append _ _ _).symm
    | tag count inside =>
      rw [renderFrom.eq_def, renderFrom.eq_def position tags run]
      exact flushed _

theorem map_nil (shown : Except Fault Text) : shown.map (([] : Text) ++ ·) = shown := by
  cases shown <;> rfl

/-- A run is gathered character by character. -/
theorem renderFrom_plain (text : Text) (position : Nat) (tags : List OpenTag) (run : Text)
    (more : List Piece) :
    renderFrom position tags run (text.map .plain ++ more) =
      renderFrom (position + text.length) tags (text.reverse ++ run) more := by
  induction text generalizing position run with
  | nil => rfl
  | cons c text ih =>
    rw [List.map_cons, List.cons_append, renderFrom, ih, List.reverse_cons, List.append_assoc,
      List.length_cons, Nat.add_assoc, Nat.add_comm 1]
    rfl

/-- Plain text that ends with no backslash is shown in front of what comes after it. -/
theorem renderFrom_lead {lead : Text} (h : lead.getLast? ≠ some '\\') (position : Nat)
    (tags : List OpenTag) (more : List Piece) :
    renderFrom position tags [] (lead.map .plain ++ more) =
      (renderFrom (position + lead.length) tags [] more).map (plainText lead ++ ·) := by
  rw [renderFrom_plain, ← renderFrom_flush h, List.nil_append, List.append_nil]

/-! ## What an escaped value shows -/

theorem unended_of_append {lead rest : Text} {c : Char} (h : (lead ++ rest).getLast? ≠ some c) :
    rest.getLast? ≠ some c := by
  intro hr
  exact h (by rw [List.getLast?_append, hr]; rfl)

/-- Plain characters are shown in front of a text that is shown in some way. -/
theorem renderFrom_before {lead shown : Text} (ended : lead.getLast? ≠ some '\\')
    {tags : List OpenTag} {more after : List Piece}
    (h : ∀ position, ∃ position', renderFrom position tags [] more =
      (renderFrom position' tags [] after).map (shown ++ ·)) (position : Nat) :
    ∃ position', renderFrom position tags [] (lead.map .plain ++ more) =
      (renderFrom position' tags [] after).map (plainText lead ++ shown ++ ·) := by
  obtain ⟨position', behind⟩ := h (position + lead.length)
  exact ⟨position', by rw [renderFrom_lead ended, behind, map_append]⟩

/-- **An escaped text is shown as it is kept** in front of a barrier. -/
theorem renderFrom_written (pending : Nat) (text : Text)
    (unended : (List.replicate pending '\\' ++ text).getLast? ≠ some '\\') {tail : Text}
    (bar : Barrier tail) (tags : List OpenTag) (position : Nat) :
    ∃ position', renderFrom position tags [] (piecesAfter 0 (written pending text ++ tail)) =
      (renderFrom position' tags [] (piecesAfter 0 tail)).map
        (kept (List.replicate pending '\\' ++ text) ++ ·) := by
  induction pending, text using piecesAfter.induct generalizing position with
  | case1 pending =>
    cases pending with
    | zero =>
      rw [written_nil]
      exact ⟨position, (map_nil _).symm⟩
    | succ pending =>
      rw [List.append_nil, List.replicate_succ'] at unended
      simp at unended
  | case2 pending rest ih =>
    rw [backslashes_append] at unended ⊢
    rw [written_backslash]
    exact ih unended position
  | case3 pending rest inside after ht _ _ ih =>
    obtain ⟨rfl, unbracketed⟩ := tag?_eq_some ht
    have apart : List.replicate pending '\\' ++ '[' :: (inside ++ ']' :: after) =
        (List.replicate pending '\\' ++ '[' :: (inside ++ [']'])) ++ after := by simp
    obtain ⟨position', shown⟩ := ih (unended_of_append (apart ▸ unended))
      (position + (2 * pending + 1) + inside.length + 2)
    have odd : (2 * pending + 1) % 2 = 1 := by omega
    have half : (2 * pending + 1) / 2 = pending := by omega
    have enclosed : plainText (inside ++ [']']) = inside ++ [']'] :=
      plainText_of_not_mem (by simpa using unbracketed)
    refine ⟨position', ?_⟩
    -- of the backslashes of such a tag half are shown, and the tag itself is text
    rw [piecesAfter_written_tag ht, renderFrom_odd odd, half, shown, enclosed, showRun,
      List.reverse_nil, plainText, map_nil, map_append, map_append,
      kept_tag pending (by rw [ht]; rfl), kept_inside unbracketed]
    simp only [List.append_assoc, List.cons_append, List.nil_append, List.replicate_zero]
  | case4 pending rest ht _ ih =>
    have apart := List.append_cons (List.replicate pending '\\') '[' rest
    have ended : (List.replicate pending '\\' ++ ['[']).getLast? ≠ some '\\' := by simp
    have behind := renderFrom_before ended (ih (unended_of_append (apart ▸ unended))) position
    rw [plainText_bracket] at behind
    rw [piecesAfter_written_bracket ht pending bar, kept_untagged pending ht]
    simpa using behind
  | case5 pending c rest hb ho ih =>
    have ordinary : isOrdinary c = true := by simp [isOrdinary, hb, ho]
    have apart := List.append_cons (List.replicate pending '\\') c rest
    have ended : (List.replicate pending '\\' ++ [c]).getLast? ≠ some '\\' := by simpa using hb
    have behind := renderFrom_before ended (ih (unended_of_append (apart ▸ unended))) position
    rw [plainText_of_not_mem (by simp [List.mem_replicate, Ne.symm ho])] at behind
    rw [piecesAfter_written_ordinary ordinary, kept_backslashes pending (by simpa using ho),
      kept_ordinary ordinary]
    simpa using behind

/-- An escaped text opens no style. -/
theorem checkStyles_written (pending : Nat) (text : Text)
    (unended : (List.replicate pending '\\' ++ text).getLast? ≠ some '\\') {tail : Text}
    (bar : Barrier tail) :
    checkStyles (piecesAfter 0 (written pending text ++ tail)) =
      checkStyles (piecesAfter 0 tail) := by
  induction pending, text using piecesAfter.induct with
  | case1 pending =>
    cases pending with
    | zero => rw [written_nil]; rfl
    | succ pending =>
      rw [List.append_nil, List.replicate_succ'] at unended
      simp at unended
  | case2 pending rest ih =>
    rw [written_backslash]
    exact ih (backslashes_append pending rest ▸ unended)
  | case3 pending rest inside after ht _ _ ih =>
    obtain ⟨rfl, -⟩ := tag?_eq_some ht
    have apart : List.replicate pending '\\' ++ '[' :: (inside ++ ']' :: after) =
        (List.replicate pending '\\' ++ '[' :: (inside ++ [']'])) ++ after := by simp
    have odd : (2 * pending + 1) % 2 = 1 := by omega
    rw [piecesAfter_written_tag ht, checkStyles, if_pos (by simp [odd]),
      ih (unended_of_append (apart ▸ unended))]
  | case4 pending rest ht _ ih =>
    have apart := List.append_cons (List.replicate pending '\\') '[' rest
    rw [piecesAfter_written_bracket ht pending bar, checkStyles_shown (shown_plain _),
      ih (unended_of_append (apart ▸ unended))]
  | case5 pending c rest hb ho ih =>
    have ordinary : isOrdinary c = true := by simp [isOrdinary, hb, ho]
    have apart := List.append_cons (List.replicate pending '\\') c rest
    rw [piecesAfter_written_ordinary ordinary, checkStyles_shown (shown_plain _),
      ih (unended_of_append (apart ▸ unended))]

theorem unended_append {rest : Text} {c : Char} (hc : c ≠ '\\') (h : rest.getLast? ≠ some '\\')
    (lead : Text) : (lead ++ c :: rest).getLast? ≠ some '\\' := by
  rw [List.getLast?_append, List.getLast?_cons, Option.some_or]
  cases hr : rest.getLast? with
  | none => simpa using hc
  | some d =>
    rw [hr] at h
    exact h

/-- A text that ends with no backslash does not end with one after it is escaped. -/
theorem written_unended (pending : Nat) (text : Text)
    (unended : (List.replicate pending '\\' ++ text).getLast? ≠ some '\\') :
    (written pending text).getLast? ≠ some '\\' := by
  induction pending, text using piecesAfter.induct with
  | case1 pending => rwa [written_nil, ← List.append_nil (List.replicate _ _)]
  | case2 pending rest ih =>
    rw [backslashes_append] at unended
    rw [written_backslash]
    exact ih unended
  | case3 pending rest inside after ht _ _ ih =>
    obtain ⟨rfl, -⟩ := tag?_eq_some ht
    have apart : List.replicate pending '\\' ++ '[' :: (inside ++ ']' :: after) =
        (List.replicate pending '\\' ++ '[' :: (inside ++ [']'])) ++ after := by simp
    have last := ih (unended_of_append (apart ▸ unended))
    rw [written_tag ht, ← List.cons_append, ← List.append_assoc]
    exact unended_append (by decide) last _
  | case4 pending rest ht _ ih =>
    have apart := List.append_cons (List.replicate pending '\\') '[' rest
    rw [written_bracket ht]
    exact unended_append (by decide) (ih (unended_of_append (apart ▸ unended))) _
  | case5 pending c rest hb ho ih =>
    have apart := List.append_cons (List.replicate pending '\\') c rest
    rw [written_ordinary (by simp [isOrdinary, hb, ho])]
    exact unended_append hb (ih (unended_of_append (apart ▸ unended))) _

/-- Nothing is put behind a value that ends with no backslash. -/
theorem escape_of_unended {value : Text} (h : value.getLast? ≠ some '\\') :
    escape value = written 0 value := by
  have last : (written 0 value).getLast? ≠ some '\\' := written_unended 0 value h
  have none : trailingBackslashes (written 0 value) = 0 := by
    rw [trailingBackslashes, List.getLast?_eq_head?_reverse] at *
    cases hr : (written 0 value).reverse with
    | nil => rfl
    | cons c rest =>
      rw [hr] at last
      rw [List.takeWhile_cons, if_neg (by simpa using last)]
      rfl
  show (if trailingBackslashes (written 0 value) = 1 then written 0 value ++ ['\\']
    else written 0 value) = written 0 value
  rw [none, if_neg (by decide)]

/-! ## Messages -/

/-- A part of a message. -/
inductive Part where
  /-- Text of the message itself. -/
  | fixed (text : Text)
  /-- A value, which is escaped. -/
  | value (value : Text)
  /-- The tag that opens a style. -/
  | opens (style : Text)
  /-- The tag that closes a style. -/
  | closes (style : Text)

/-- A part as it is written into the message. -/
def Part.source : Part → Text
  | .fixed text => text
  | .value text => escape text
  | .opens style => '[' :: (style ++ [']'])
  | .closes style => '[' :: '/' :: (style ++ [']'])

/-- A part as it is shown if values are shown in some way. -/
def Part.shown (how : Text → Text) : Part → Text
  | .fixed text => text
  | .value text => how text
  | .opens _ | .closes _ => []

/-- The message of some parts. -/
def source (parts : List Part) : Text := parts.flatMap Part.source

/-- What the message of some parts shows if values are shown in some way. -/
def shownParts (how : Text → Text) (parts : List Part) : Text := parts.flatMap (·.shown how)

/-- The parts of a message make no tags but those of one style at a time, which is open if it is
given, and no value ends with a backslash. -/
inductive Lays : Option Text → List Part → Prop where
  /-- All styles are closed at the end. -/
  | done : Lays none []
  /-- Text of the message itself has neither brackets nor backslashes. -/
  | fixed {style : Option Text} {text : Text} {more : List Part} :
    (∀ c ∈ text, isOrdinary c = true) → Lays style more → Lays style (.fixed text :: more)
  /-- What follows a value does not end a tag that is begun in it. -/
  | value {style : Option Text} {text : Text} {more : List Part} :
    text.getLast? ≠ some '\\' → Barrier (source more) → Lays style more →
    Lays style (.value text :: more)
  /-- A style is opened. -/
  | opens {style : Text} {more : List Part} : IsNamed style → Lays (some style) more →
    Lays none (.opens style :: more)
  /-- It is closed. -/
  | closes {style : Text} {more : List Part} : IsNamed style → Lays none more →
    Lays (some style) (.closes style :: more)

/-- The tags that are open in a style. -/
def openTags (style : Option Text) : List OpenTag := style.toList.map fun name => ⟨name, none⟩

section Tags
variable {style : Text} (named : IsNamed style)
include named

theorem IsNamed.pieces_opens (more : List Part) :
    pieces (source (.opens style :: more)) = .tag 0 style :: pieces (source more) := by
  have written : source (.opens style :: more) = '[' :: (style ++ ']' :: source more) := by
    simp [source, Part.source]
  rw [pieces, written, piecesAfter_tag (tag?_append named.opens _)]
  rfl

theorem IsNamed.pieces_closes (more : List Part) :
    pieces (source (.closes style :: more)) = .tag 0 ('/' :: style) :: pieces (source more) := by
  have written : source (.closes style :: more) = '[' :: ('/' :: style ++ ']' :: source more) := by
    simp [source, Part.source]
  rw [pieces, written, piecesAfter_tag (tag?_append named.closes _)]
  rfl

theorem IsNamed.renderFrom_opens (position : Nat) (more : List Piece) :
    Markup.renderFrom position [] [] (.tag 0 style :: more) =
      Markup.renderFrom (position + 0 + style.length + 2) [⟨style, none⟩] [] more := by
  rw [renderFrom.eq_def]
  simp only [named.name, if_neg (show ¬ 0 % 2 = 1 by decide)]
  split
  · exact absurd rfl (named.unclosing _)
  · simp only [named.ofInside, bind, Except.bind]
    exact (map_nil _).trans (map_nil _)

theorem IsNamed.renderFrom_closes (position : Nat) (more : List Piece) :
    Markup.renderFrom position [⟨style, none⟩] [] (.tag 0 ('/' :: style) :: more) =
      Markup.renderFrom (position + 0 + ('/' :: style).length + 2) [] [] more := by
  have taken : takeTag? style [⟨style, none⟩] = some (⟨style, none⟩, []) := by
    rw [takeTag?, if_pos rfl]
  have closed : (OpenTag.mk style none).close = .ok () := by
    rw [OpenTag.close]
    split <;> simp_all
  rw [renderFrom.eq_def]
  simp only [if_neg (show ¬ 0 % 2 = 1 by decide), named.closingName, named.stripped,
    if_neg named.nonempty, named.styleName, bind, Except.bind, taken, closed]
  exact (map_nil _).trans (map_nil _)

theorem IsNamed.checkStyles_opens (more : List Piece) :
    checkStyles (.tag 0 style :: more) = checkStyles more := by
  have definition : (OpenTag.mk style none).definition = style := List.append_nil style
  have unclosing : style.head? ≠ some '/' := by
    intro h
    obtain ⟨rest, hr⟩ := List.head?_eq_some_iff.1 h
    exact named.unclosing rest hr
  rw [checkStyles, if_neg (by simpa using unclosing), named.ofInside]
  simp only [bind, Except.bind, definition, named.appearance]
  rfl

end Tags

theorem pieces_fixed {text : Text} (plain : ∀ c ∈ text, isOrdinary c = true) (more : List Part) :
    pieces (source (.fixed text :: more)) = text.map .plain ++ pieces (source more) :=
  piecesAfter_ordinaries plain _

theorem checkStyles_closes (style : Text) (more : List Piece) :
    checkStyles (.tag 0 ('/' :: style) :: more) = checkStyles more := by
  rw [checkStyles, if_pos (by simp)]

theorem pieces_source_nil : pieces (source []) = [] := piecesAfter_nil 0

theorem pieces_value {text : Text} (unended : text.getLast? ≠ some '\\') (more : List Part) :
    pieces (source (.value text :: more)) = piecesAfter 0 (written 0 text ++ source more) := by
  rw [← escape_of_unended unended]
  rfl

/-- **A message is shown part by part**, from a style that is open on. -/
theorem Lays.renderFrom {style : Option Text} {parts : List Part} (h : Lays style parts)
    (position : Nat) :
    Markup.renderFrom position (openTags style) [] (pieces (source parts)) =
      .ok (shownParts kept parts) := by
  induction h generalizing position with
  | done =>
    rw [pieces_source_nil]
    rfl
  | @fixed style text more plain _ ih =>
    have unended : text.getLast? ≠ some '\\' := fun hl =>
      absurd (plain _ (List.mem_of_getLast? hl)) (by decide)
    have unbracketed : '[' ∉ text := fun hm => absurd (plain _ hm) (by decide)
    rw [pieces_fixed plain, renderFrom_lead unended, ih, plainText_of_not_mem unbracketed]
    rfl
  | @value style text more unended bar _ ih =>
    obtain ⟨position', shown⟩ :=
      renderFrom_written 0 text unended bar (openTags style) position
    rw [pieces_value unended, shown, ← pieces, ih]
    rfl
  | opens named _ ih =>
    rw [named.pieces_opens]
    exact (named.renderFrom_opens position _).trans (ih _)
  | closes named _ ih =>
    rw [named.pieces_closes]
    exact (named.renderFrom_closes position _).trans (ih _)

/-- The styles of a message can be read. -/
theorem Lays.checkStyles {style : Option Text} {parts : List Part} (h : Lays style parts) :
    Markup.checkStyles (pieces (source parts)) = .ok () := by
  induction h with
  | done =>
    rw [pieces_source_nil]
    rfl
  | fixed plain _ ih => rw [pieces_fixed plain, checkStyles_shown (shown_plain _), ih]
  | @value style text more unended bar _ ih =>
    rw [pieces_value unended, checkStyles_written 0 text unended bar]
    exact ih
  | opens named _ ih => rw [named.pieces_opens, named.checkStyles_opens, ih]
  | closes named _ ih => rw [named.pieces_closes, checkStyles_closes, ih]

theorem piecesAfter_of_not_mem {text : Text} (h : '[' ∉ text) (pending : Nat) :
    piecesAfter pending text = (List.replicate pending '\\' ++ text).map .plain := by
  induction text generalizing pending with
  | nil =>
    rw [piecesAfter_nil]
    simp
  | cons c rest ih =>
    rw [List.mem_cons, not_or] at h
    by_cases hc : c = '\\'
    · rw [hc, piecesAfter_backslash, ih h.2, backslashes_append]
    · rw [piecesAfter_ordinary (by simp [isOrdinary, hc, Ne.symm h.1]), ih h.2]
      simp

/-- A message without brackets is shown as it is. -/
theorem renderFrom_of_not_mem {message : Text} (h : '[' ∉ message) :
    renderFrom 0 [] [] (pieces message) = .ok message := by
  have gathered := renderFrom_plain message 0 [] [] []
  rw [List.append_nil, List.append_nil, renderFrom, showRun, List.reverse_reverse,
    plainText_of_not_mem h] at gathered
  rw [pieces, piecesAfter_of_not_mem h, List.replicate_zero, List.nil_append, gathered]
  exact congrArg Except.ok (List.append_nil message)

/-- **A message shows its fixed text as it stands and its values as they are kept.** -/
theorem render_parts {parts : List Part} (h : Lays none parts) :
    render (source parts) = .ok (shownParts kept parts) := by
  have shown : renderFrom 0 [] [] (pieces (source parts)) = .ok (shownParts kept parts) :=
    h.renderFrom 0
  rw [render]
  split
  · simp only [shown, h.checkStyles]
    rfl
  · rename_i unbracketed
    rw [← shown]
    exact (renderFrom_of_not_mem fun hm => unbracketed (List.contains_iff_mem.2 hm)).symm

/-! ## What is lost of values -/

section Values
variable {value : Text} {parts : List Part}

theorem mem_kept {c : Char} (h : c ∈ kept value) : c ∈ value := by
  fun_induction kept value with
  | case1 rest _ ih =>
    simp only [List.mem_cons] at h ⊢
    exact h.imp_right (·.imp_right ih)
  | case2 rest _ ih =>
    simp only [List.mem_cons] at h ⊢
    exact .inr (h.imp_right ih)
  | case3 c rest _ ih =>
    simp only [List.mem_cons] at h ⊢
    exact h.imp_right ih
  | case4 => exact h

/-- The value of a part, if it is one. -/
def Part.value? : Part → Option Text
  | .value text => some text
  | _ => none

/-- The values of a message. -/
def values (parts : List Part) : List Text := parts.filterMap Part.value?

theorem values_cons (part : Part) (parts : List Part) :
    values (part :: parts) = part.value?.toList ++ values parts := by
  cases part <;> rfl

theorem length_shown_le (part : Part) : (part.shown kept).length ≤ (part.shown id).length := by
  cases part with
  | value text => exact length_kept_le text
  | _ => exact Nat.le_refl _

theorem length_shownParts_le (parts : List Part) :
    (shownParts kept parts).length ≤ (shownParts id parts).length := by
  induction parts with
  | nil => exact Nat.le_refl 0
  | cons part parts ih =>
    have := length_shown_le part
    simp only [shownParts, List.flatMap_cons, List.length_append] at ih ⊢
    omega

/-- **A message shows its values themselves** iff they come through escaping whole. -/
theorem shownParts_kept_iff :
    shownParts kept parts = shownParts id parts ↔ ∀ value ∈ values parts, kept value = value := by
  induction parts with
  | nil => simp [shownParts, values]
  | cons part parts ih =>
    have first : part.shown kept = part.shown id ↔
        ∀ value ∈ part.value?.toList, kept value = value := by
      cases part <;> simp [Part.shown, Part.value?]
    rw [values_cons, List.forall_mem_append, ← first, ← ih]
    constructor
    · intro whole
      -- Neither of the two can make up for what the other has lost.
      have here := length_shown_le part
      have rest := length_shownParts_le parts
      have total := congrArg List.length whole
      simp only [shownParts, List.flatMap_cons, List.length_append] at whole rest total ⊢
      exact List.append_inj whole (by omega)
    · rintro ⟨here, rest⟩
      simp only [shownParts, List.flatMap_cons] at rest ⊢
      rw [here, rest]

end Values
end Reimport.Markup
