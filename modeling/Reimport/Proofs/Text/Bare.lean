import Reimport.Proofs.Text.Kept

/-!
# What an unescaped value shows

Where a message is shown as it stands, nothing in it is read as a tag and no backslash stands
before a bracket (`render_eq_self_iff`), because a tag leaves less behind than it takes up
(`renderFrom_le`).  For a value that is put into a message without being escaped that
depends on the value alone, if the text around it holds no brackets (`render_bare_iff`).
-/
namespace Reimport.Markup

/-- A bracket in the text begins a tag. -/
def HoldsTag (text : Text) : Prop :=
  ∃ before rest, text = before ++ '[' :: rest ∧ (tag? rest).isSome = true

/-- A backslash in the text stands before a bracket. -/
def HidesBackslash (text : Text) : Prop := ∃ before rest, text = before ++ '\\' :: '[' :: rest

/-! ## Plain text -/

theorem holdsTag_cons_iff {c : Char} {rest : Text} :
    HoldsTag (c :: rest) ↔ (c = '[' ∧ (tag? rest).isSome = true) ∨ HoldsTag rest := by
  constructor
  · rintro ⟨before, more, he, ht⟩
    cases before with
    | nil =>
      obtain ⟨rfl, rfl⟩ := List.cons.inj he
      exact .inl ⟨rfl, ht⟩
    | cons d before =>
      obtain ⟨rfl, rfl⟩ := List.cons.inj he
      exact .inr ⟨before, more, rfl, ht⟩
  · rintro (⟨rfl, ht⟩ | ⟨before, more, rfl, ht⟩)
    · exact ⟨[], rest, rfl, ht⟩
    · exact ⟨c :: before, more, rfl, ht⟩

theorem hidesBackslash_cons_iff {c : Char} {rest : Text} :
    HidesBackslash (c :: rest) ↔ (c = '\\' ∧ ∃ more, rest = '[' :: more) ∨ HidesBackslash rest := by
  constructor
  · rintro ⟨before, more, he⟩
    cases before with
    | nil =>
      obtain ⟨rfl, rfl⟩ := List.cons.inj he
      exact .inl ⟨rfl, more, rfl⟩
    | cons d before =>
      obtain ⟨rfl, rfl⟩ := List.cons.inj he
      exact .inr ⟨before, more, rfl⟩
  · rintro (⟨rfl, more, rfl⟩ | ⟨before, more, rfl⟩)
    · exact ⟨[], more, rfl⟩
    · exact ⟨c :: before, more, rfl⟩

theorem length_plainText_le (text : Text) : (plainText text).length ≤ text.length := by
  fun_induction plainText text with
  | case1 rest ih =>
    simp only [List.length_cons]
    omega
  | case2 c rest _ ih => simpa using ih
  | case3 => exact Nat.le_refl 0

theorem plainText_eq_self_iff {text : Text} : plainText text = text ↔ ¬ HidesBackslash text := by
  fun_induction plainText text with
  | case1 rest ih =>
    constructor
    · intro he
      have shorter := length_plainText_le rest
      have longer := congrArg List.length he
      simp only [List.length_cons] at longer
      omega
    · exact fun whole => absurd ⟨[], rest, rfl⟩ whole
  | case2 c rest other ih =>
    rw [List.cons_inj_right, ih, hidesBackslash_cons_iff, or_iff_right]
    rintro ⟨rfl, more, rfl⟩
    exact other more rfl rfl
  | case3 =>
    refine ⟨fun _ => ?_, fun _ => rfl⟩
    rintro ⟨before, rest, he⟩
    cases before <;> cases he

/-- A text without tags is read character by character. -/
theorem piecesAfter_of_untagged {text : Text} (h : ¬ HoldsTag text) (pending : Nat) :
    piecesAfter pending text = (List.replicate pending '\\' ++ text).map .plain := by
  induction text generalizing pending with
  | nil =>
    rw [piecesAfter_nil]
    simp
  | cons c rest ih =>
    rw [holdsTag_cons_iff, not_or] at h
    by_cases hc : c = '\\'
    · rw [hc, piecesAfter_backslash, ih h.2, backslashes_append]
    by_cases ho : c = '['
    · have untagged : tag? rest = none := by simpa [ho] using h.1
      rw [ho, piecesAfter_bracket untagged, ih h.2]
      simp
    · rw [piecesAfter_ordinary (by simp [isOrdinary, hc, ho]), ih h.2]
      simp

/-- A message without tags is shown as plain text. -/
theorem render_of_untagged {message : Text} (h : ¬ HoldsTag message) :
    render message = .ok (plainText message) := by
  have plain : pieces message = message.map .plain := piecesAfter_of_untagged h 0
  have gathered := renderFrom_plain message 0 [] [] []
  rw [List.append_nil, List.append_nil, renderFrom, showRun, List.reverse_reverse, ← plain]
    at gathered
  have styles : checkStyles (pieces message ++ []) = .ok () := by
    rw [plain, checkStyles_shown (shown_plain message)]
    rfl
  rw [List.append_nil] at styles
  rw [render]
  split
  · simp only [gathered, styles]
    exact congrArg Except.ok (List.append_nil _)
  · rename_i unbracketed
    rw [plainText_of_not_mem fun hm => unbracketed (List.contains_iff_mem.2 hm)]
    rfl

/-! ## Tags leave less behind than they take up -/

/-- The characters that a piece takes up. -/
def Piece.text : Piece → Text
  | .plain c => [c]
  | .tag backslashes inside => List.replicate backslashes '\\' ++ '[' :: (inside ++ [']'])

/-- A piece that is a tag. -/
def Piece.isTag : Piece → Bool
  | .plain _ => false
  | .tag _ _ => true

theorem flatMap_text_plain (text : Text) : (text.map Piece.plain).flatMap Piece.text = text := by
  induction text with
  | nil => rfl
  | cons c text ih =>
    rw [List.map_cons, List.flatMap_cons, ih]
    rfl

/-- **The pieces of a text are all of it.** -/
theorem flatMap_text_piecesAfter (pending : Nat) (text : Text) :
    (piecesAfter pending text).flatMap Piece.text = List.replicate pending '\\' ++ text := by
  induction pending, text using piecesAfter.induct with
  | case1 pending =>
    rw [piecesAfter_nil, ← List.map_replicate, flatMap_text_plain, List.append_nil]
  | case2 pending rest ih => rw [piecesAfter_backslash, ih, backslashes_append]
  | case3 pending rest inside after ht _ _ ih =>
    obtain ⟨rfl, -⟩ := tag?_eq_some ht
    rw [piecesAfter_tag ht, List.flatMap_cons, ih]
    simp [Piece.text]
  | case4 pending rest ht _ ih =>
    rw [piecesAfter_bracket ht, List.flatMap_append, ← List.map_replicate, flatMap_text_plain,
      List.flatMap_cons, ih]
    rfl
  | case5 pending c rest hb ho ih =>
    rw [piecesAfter_ordinary (by simp [isOrdinary, hb, ho]), List.flatMap_append,
      ← List.map_replicate, flatMap_text_plain, List.flatMap_cons, ih]
    rfl

theorem mem_plainText {c : Char} {text : Text} (h : c ∈ plainText text) : c ∈ text := by
  fun_induction plainText text with
  | case1 rest ih =>
    simp only [List.mem_cons] at h ⊢
    exact .inr (h.imp_right ih)
  | case2 d rest _ ih =>
    simp only [List.mem_cons] at h ⊢
    exact h.imp_right ih
  | case3 => exact h

theorem map_eq_ok {before shown : Text} {rest : Except Fault Text}
    (h : rest.map (before ++ ·) = .ok shown) :
    ∃ after, rest = .ok after ∧ shown = before ++ after := by
  cases rest with
  | error e => cases h
  | ok after => exact ⟨after, rfl, (Except.ok.inj h).symm⟩

section Tags
variable {position backslashes : Nat} {tags : List OpenTag} {run inside shown : Text}
  {more : List Piece}

/-- A tag that has an effect leaves nothing behind but backslashes that stood before it. -/
theorem renderFrom_effect (even : ¬ backslashes % 2 = 1)
    (h : renderFrom position tags run (.tag backslashes inside :: more) = .ok shown) :
    ∃ position' tags' after, renderFrom position' tags' [] more = .ok after ∧
      shown = plainText run.reverse ++ List.replicate (backslashes / 2) '\\' ++ after := by
  rw [renderFrom.eq_def] at h
  obtain ⟨behind, h, he⟩ := map_eq_ok h
  obtain ⟨after, h, hb⟩ := map_eq_ok h
  rw [if_neg even] at h
  rw [hb, ← List.append_assoc] at he
  split at h
  · dsimp only at h
    split at h
    · -- the tag closes the last style
      split at h
      · cases h
      · obtain ⟨_, -, h⟩ := except_bind_ok.1 h
        exact ⟨_, _, after, h, he⟩
    · -- the tag closes a style by its name
      obtain ⟨_, -, h⟩ := except_bind_ok.1 h
      split at h
      · obtain ⟨_, -, h⟩ := except_bind_ok.1 h
        exact ⟨_, _, after, h, he⟩
      · cases h
  · -- the tag opens a style
    obtain ⟨_, -, h⟩ := except_bind_ok.1 h
    exact ⟨_, _, after, h, he⟩

/-- A tag behind a backslash of its own is text. -/
theorem renderFrom_text (odd : backslashes % 2 = 1)
    (h : renderFrom position tags run (.tag backslashes inside :: more) = .ok shown) :
    ∃ position' after, renderFrom position' tags [] more = .ok after ∧
      shown = plainText run.reverse ++ List.replicate (backslashes / 2) '\\' ++
        '[' :: plainText (inside ++ [']']) ++ after := by
  rw [renderFrom_odd odd] at h
  obtain ⟨behind, h, he⟩ := map_eq_ok h
  obtain ⟨inner, h, hb⟩ := map_eq_ok h
  obtain ⟨after, h, hi⟩ := map_eq_ok h
  exact ⟨_, after, h, by simp [he, hb, hi]⟩

/-- What is shown in front of a tag stood there. -/
theorem mem_before_tag {c : Char}
    (hc : c ∈ plainText run.reverse ++ List.replicate (backslashes / 2) '\\') :
    c ∈ run ∨ c ∈ (Piece.tag backslashes inside).text := by
  rcases List.mem_append.1 hc with hc | hc
  · exact .inl (List.mem_reverse.1 (mem_plainText hc))
  · obtain ⟨some, rfl⟩ := List.mem_replicate.1 hc
    refine .inr (List.mem_append_left _ (List.mem_replicate.2 ⟨?_, rfl⟩))
    rintro rfl
    exact some rfl

/-- Behind a tag the rest of the message is shown, and in front of it less than the tag and the
characters before it take up. -/
theorem renderFrom_tag
    (h : renderFrom position tags run (.tag backslashes inside :: more) = .ok shown) :
    ∃ position' tags' front after, renderFrom position' tags' [] more = .ok after ∧
      shown = front ++ after ∧
      front.length < run.length + (Piece.tag backslashes inside).text.length ∧
      ∀ c ∈ front, c ∈ run ∨ c ∈ (Piece.tag backslashes inside).text := by
  have fewer := length_plainText_le run.reverse
  rw [List.length_reverse] at fewer
  have size : (Piece.tag backslashes inside).text.length = backslashes + inside.length + 2 := by
    simp only [Piece.text, List.length_append, List.length_replicate, List.length_cons,
      List.length_nil]
    omega
  by_cases odd : backslashes % 2 = 1
  · obtain ⟨position', after, ha, rfl⟩ := renderFrom_text odd h
    have enclosed := length_plainText_le (inside ++ [']'])
    refine ⟨position', tags, _, after, ha, rfl, ?_, fun c hc => ?_⟩
    · simp only [List.length_cons, List.length_append, List.length_replicate, List.length_nil]
        at enclosed ⊢
      omega
    · rcases List.mem_append.1 hc with hc | hc
      · exact mem_before_tag hc
      · refine .inr (List.mem_append_right _ ?_)
        exact List.mem_cons.2 ((List.mem_cons.1 hc).imp_right mem_plainText)
  · obtain ⟨position', tags', after, ha, rfl⟩ := renderFrom_effect odd h
    refine ⟨position', tags', _, after, ha, rfl, ?_, fun c hc => mem_before_tag hc⟩
    rw [List.length_append, List.length_replicate]
    omega

end Tags

/-- **A message is shown with fewer characters for every tag**, and all of them are its own. -/
theorem renderFrom_le {position : Nat} {tags : List OpenTag} {run shown : Text}
    {more : List Piece} (h : renderFrom position tags run more = .ok shown) :
    shown.length + more.countP Piece.isTag ≤ run.length + (more.flatMap Piece.text).length ∧
      ∀ c ∈ shown, c ∈ run ∨ c ∈ more.flatMap Piece.text := by
  induction more generalizing position tags run shown with
  | nil =>
    rw [renderFrom] at h
    obtain ⟨after, ha, rfl⟩ := map_eq_ok h
    cases ha
    have := length_plainText_le run.reverse
    rw [List.length_reverse] at this
    refine ⟨by simpa using this, fun c hc => .inl ?_⟩
    rw [List.append_nil] at hc
    exact List.mem_reverse.1 (mem_plainText hc)
  | cons piece more ih =>
    rw [List.flatMap_cons, List.length_append]
    cases piece with
    | plain c =>
      rw [renderFrom] at h
      obtain ⟨short, own⟩ := ih h
      refine ⟨?_, fun d hd => ?_⟩
      · rw [List.countP_cons_of_neg Bool.false_ne_true]
        simp only [List.length_cons, Piece.text, List.length_nil] at short ⊢
        omega
      · rcases own d hd with hd | hd
        · exact (List.mem_cons.1 hd).symm.imp_right fun hc => by simp [Piece.text, hc]
        · exact .inr (List.mem_append_right _ hd)
    | tag count inside =>
      -- of a tag fewer characters are shown than it has
      obtain ⟨position', tags', front, after, ha, rfl, shorter, lead⟩ := renderFrom_tag h
      obtain ⟨short, own⟩ := ih ha
      refine ⟨?_, fun d hd => ?_⟩
      · rw [List.countP_cons_of_pos rfl, List.length_append]
        rw [List.length_nil] at short
        omega
      · rcases List.mem_append.1 hd with hd | hd
        · exact (lead d hd).imp_right (List.mem_append_left _)
        · exact .inr (List.mem_append_right _ ((own d hd).resolve_left List.not_mem_nil))

/-- What a message shows is made of its own characters. -/
theorem mem_of_render {message shown : Text} (h : render message = .ok shown) {c : Char}
    (hc : c ∈ shown) : c ∈ message := by
  rw [render] at h
  split at h
  · obtain ⟨_, hr, h⟩ := except_bind_ok.1 h
    obtain ⟨_, -, h⟩ := except_bind_ok.1 h
    cases h
    have own := (renderFrom_le hr).2 c hc
    rw [pieces, flatMap_text_piecesAfter] at own
    exact own.resolve_left List.not_mem_nil
  · cases h
    exact hc

/-- A tag that the text holds is one of its pieces. -/
theorem exists_tag_of_holdsTag {text : Text} (h : HoldsTag text) (pending : Nat) :
    ∃ count inside, Piece.tag count inside ∈ piecesAfter pending text := by
  induction pending, text using piecesAfter.induct with
  | case1 pending =>
    obtain ⟨before, rest, he, -⟩ := h
    cases before <;> cases he
  | case2 pending rest ih =>
    rw [piecesAfter_backslash]
    exact ih ((holdsTag_cons_iff.1 h).resolve_left fun hc => absurd hc.1 (by decide))
  | case3 pending rest inside after ht _ _ _ =>
    rw [piecesAfter_tag ht]
    exact ⟨pending, inside, List.mem_cons_self⟩
  | case4 pending rest ht _ ih =>
    obtain ⟨count, inside, hm⟩ := ih ((holdsTag_cons_iff.1 h).resolve_left fun hc => by
      rw [ht] at hc
      cases hc.2)
    rw [piecesAfter_bracket ht]
    exact ⟨count, inside, List.mem_append_right _ (List.mem_cons_of_mem _ hm)⟩
  | case5 pending c rest hb ho ih =>
    obtain ⟨count, inside, hm⟩ := ih ((holdsTag_cons_iff.1 h).resolve_left fun hc => ho hc.1)
    rw [piecesAfter_ordinary (by simp [isOrdinary, hb, ho])]
    exact ⟨count, inside, List.mem_append_right _ (List.mem_cons_of_mem _ hm)⟩

/-- A message with a tag is not shown as it stands. -/
theorem render_ne_of_holdsTag {message : Text} (h : HoldsTag message) :
    render message ≠ .ok message := by
  intro whole
  obtain ⟨count, inside, hm⟩ := exists_tag_of_holdsTag h 0
  have bracketed : message.contains '[' = true := by
    obtain ⟨before, rest, rfl, -⟩ := h
    simp
  rw [render, if_pos bracketed] at whole
  obtain ⟨shown, hr, whole⟩ := except_bind_ok.1 whole
  obtain ⟨_, -, whole⟩ := except_bind_ok.1 whole
  cases whole
  have short := (renderFrom_le hr).1
  have some : 0 < (pieces message).countP Piece.isTag := List.countP_pos_iff.2 ⟨_, hm, rfl⟩
  have whole : (pieces message).flatMap Piece.text = message := flatMap_text_piecesAfter 0 message
  rw [whole, List.length_nil] at short
  omega

/-- **A message is shown as it stands** iff it holds no tag and no backslash in it stands before
a bracket. -/
theorem render_eq_self_iff {message : Text} :
    render message = .ok message ↔ ¬ HoldsTag message ∧ ¬ HidesBackslash message := by
  constructor
  · intro whole
    have untagged : ¬ HoldsTag message := fun h => render_ne_of_holdsTag h whole
    rw [render_of_untagged untagged] at whole
    exact ⟨untagged, plainText_eq_self_iff.1 (Except.ok.inj whole)⟩
  · rintro ⟨untagged, unhidden⟩
    rw [render_of_untagged untagged, plainText_eq_self_iff.2 unhidden]

/-! ## Values between plain text -/

theorem Blocks.append {text tail : Text} (h : Blocks text) (ht : Blocks tail) :
    Blocks (text ++ tail) := by
  induction text with
  | nil => exact ht
  | cons c text ih =>
    by_cases ho : c = '['
    · rw [ho]
      exact blocks_bracket _
    · obtain ⟨hc, hr⟩ := h.of_cons ho
      exact blocks_cons_of_ne hc (ih hr)

/-- What follows a text begins and ends no tag of it. -/
theorem tag?_append_barrier {text tail : Text} (bar : Barrier tail) :
    (tag? (text ++ tail)).isSome = (tag? text).isSome := by
  cases ht : tag? text with
  | some found =>
    obtain ⟨inside, after⟩ := found
    have read := tag?_append ht (after ++ tail)
    rw [(tag?_eq_some ht).1, List.append_assoc, List.cons_append, read]
    rfl
  | none =>
    cases text with
    | nil => rw [List.nil_append, tag?_eq_none_of_head bar.unstarted]
    | cons c text =>
      have untagged : tag? (c :: (text ++ tail)) = none :=
        tag?_cons_eq_none.2 ((tag?_cons_eq_none.1 ht).imp_right (·.append bar.blocks))
      rw [List.cons_append, untagged]

theorem holdsTag_of_ordinary {text : Text} (plain : ∀ c ∈ text, isOrdinary c = true) :
    ¬ HoldsTag text := by
  rintro ⟨before, rest, rfl, -⟩
  exact absurd (plain '[' (by simp)) (by decide)

theorem hidesBackslash_of_ordinary {text : Text} (plain : ∀ c ∈ text, isOrdinary c = true) :
    ¬ HidesBackslash text := by
  rintro ⟨before, rest, rfl⟩
  exact absurd (plain '[' (by simp)) (by decide)

section Between
variable {lead value tail : Text} (before : ∀ c ∈ lead, isOrdinary c = true)
  (after : ∀ c ∈ tail, isOrdinary c = true)

include before in
theorem holdsTag_lead_iff : HoldsTag (lead ++ value) ↔ HoldsTag value := by
  induction lead with
  | nil => rfl
  | cons c lead ih =>
    have ordinary := before c List.mem_cons_self
    rw [List.cons_append, holdsTag_cons_iff, ih fun d hd => before d (List.mem_cons_of_mem _ hd),
      or_iff_right]
    rintro ⟨rfl, -⟩
    cases ordinary

include before in
theorem hidesBackslash_lead_iff : HidesBackslash (lead ++ value) ↔ HidesBackslash value := by
  induction lead with
  | nil => rfl
  | cons c lead ih =>
    have ordinary := before c List.mem_cons_self
    rw [List.cons_append, hidesBackslash_cons_iff,
      ih fun d hd => before d (List.mem_cons_of_mem _ hd), or_iff_right]
    rintro ⟨rfl, -⟩
    cases ordinary

include after in
theorem holdsTag_tail_iff (bar : Barrier tail) : HoldsTag (value ++ tail) ↔ HoldsTag value := by
  induction value with
  | nil =>
    refine iff_of_false (holdsTag_of_ordinary after) ?_
    rintro ⟨before, rest, he, -⟩
    cases before <;> cases he
  | cons c value ih =>
    rw [List.cons_append, holdsTag_cons_iff, holdsTag_cons_iff, ih, tag?_append_barrier bar]

include after in
theorem hidesBackslash_tail_iff : HidesBackslash (value ++ tail) ↔ HidesBackslash value := by
  have unbracketed : tail.head? ≠ some '[' := fun hh =>
    absurd (after _ (List.mem_of_head? hh)) (by decide)
  induction value with
  | nil =>
    refine iff_of_false (hidesBackslash_of_ordinary after) ?_
    rintro ⟨before, rest, he⟩
    cases before <;> cases he
  | cons c value ih =>
    rw [List.cons_append, hidesBackslash_cons_iff, hidesBackslash_cons_iff]
    refine or_congr (and_congr_right fun _ => ?_) ih
    cases value with
    | nil =>
      refine iff_of_false ?_ (by rintro ⟨_, he⟩; cases he)
      rintro ⟨more, he⟩
      exact unbracketed (by rw [← List.nil_append tail, he]; rfl)
    | cons d value => simp [List.cons_append]

include before after

/-- **An unescaped value between plain text is shown as it is** iff it holds no tag and no
backslash in it stands before a bracket. -/
theorem render_bare_iff (bar : Barrier tail) :
    render (lead ++ (value ++ tail)) = .ok (lead ++ (value ++ tail)) ↔
      ¬ HoldsTag value ∧ ¬ HidesBackslash value := by
  rw [render_eq_self_iff, holdsTag_lead_iff before, hidesBackslash_lead_iff before,
    holdsTag_tail_iff after bar, hidesBackslash_tail_iff after]

/-- It can be shown at least if it holds no tag. -/
theorem render_bare (bar : Barrier tail) (untagged : ¬ HoldsTag value) :
    render (lead ++ (value ++ tail)) = .ok (plainText (lead ++ (value ++ tail))) :=
  render_of_untagged (by rwa [holdsTag_lead_iff before, holdsTag_tail_iff after bar])

end Between
end Reimport.Markup
