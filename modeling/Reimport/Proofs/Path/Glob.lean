import Reimport.Path.Glob

/-!
# Patterns for a suffix

An extension without `*`, `?`, `[` and `/` stands for itself in a pattern, so the pattern of a
star and the extension is one component (`components?_star`), and the names that match it are
those that end with the extension (`matchesName_star`).
-/
namespace Reimport.Glob

/-- A text without characters that mean something in a pattern. -/
def IsLiteral (text : Text) : Prop := ∀ c ∈ text, c ≠ '*' ∧ c ≠ '?' ∧ c ≠ '[' ∧ c ≠ '/'

instance (text : Text) : Decidable (IsLiteral text) :=
  List.decidableBAll (fun c => c ≠ '*' ∧ c ≠ '?' ∧ c ≠ '[' ∧ c ≠ '/') text

theorem IsLiteral.tail {c : Char} {text : Text} (h : IsLiteral (c :: text)) : IsLiteral text :=
  fun d hd => h d (List.mem_cons_of_mem _ hd)

section Literals
variable {text name extension : Text}

/-- Every character of a literal text has to match itself. -/
theorem atoms_literal (h : IsLiteral text) : atoms text = text.map .one := by
  induction text with
  | nil => rw [atoms, List.map_nil]
  | cons c rest ih =>
    obtain ⟨hstar, hany, hset, -⟩ := h c List.mem_cons_self
    rw [atoms.eq_def]
    split
    · contradiction
    · rename_i he
      exact absurd (List.cons.inj he).1 hstar
    · rename_i he
      exact absurd (List.cons.inj he).1 hany
    · rename_i he
      exact absurd (List.cons.inj he).1 hset
    · rename_i he
      obtain ⟨rfl, rfl⟩ := List.cons.inj he
      rw [ih h.tail, List.map_cons]

theorem matchAtoms_literal : matchAtoms (text.map .one) name = true ↔ name = text := by
  induction text generalizing name with
  | nil => cases name <;> simp [matchAtoms]
  | cons c rest ih =>
    cases name with
    | nil => simp [matchAtoms]
    | cons d name =>
      rw [List.map_cons, matchAtoms, Bool.and_eq_true, ih, List.cons.injEq, Atom.takes,
        decide_eq_true_eq, eq_comm]
      exact fun h => by cases h

/-- A star leaves any ending of the name to what follows it. -/
theorem matchAtoms_run {more : List Atom} :
    matchAtoms (.run :: more) name = true ↔
      ∃ ending, ending <:+ name ∧ matchAtoms more ending = true := by
  induction name with
  | nil =>
    rw [matchAtoms]
    constructor
    · intro h
      exact ⟨[], List.suffix_refl _, h⟩
    · rintro ⟨ending, hs, h⟩
      rwa [List.suffix_nil.1 hs] at h
  | cons c rest ih =>
    rw [matchAtoms, Bool.or_eq_true, ih]
    constructor
    · rintro (h | ⟨ending, hs, h⟩)
      · exact ⟨c :: rest, List.suffix_refl _, h⟩
      · exact ⟨ending, hs.trans (List.suffix_cons c rest), h⟩
    · rintro ⟨ending, hs, h⟩
      rcases List.suffix_cons_iff.1 hs with rfl | hs
      · exact .inl h
      · exact .inr ⟨ending, hs, h⟩

/-- **The names that match are those that end with the extension.** -/
theorem matchesName_star (h : IsLiteral extension) :
    matchesName ('*' :: extension) name = true ↔ extension <:+ name := by
  rw [matchesName_eq, atoms, atoms_literal h, matchAtoms_run]
  constructor
  · rintro ⟨ending, hs, he⟩
    rwa [matchAtoms_literal.1 he] at hs
  · exact fun hs => ⟨extension, hs, matchAtoms_literal.2 rfl⟩

/-- A text without a slash is one name. -/
theorem splitAt_of_not_mem {text : Text} (h : '/' ∉ text) : Text.splitAt '/' text = [text] := by
  induction text with
  | nil => rfl
  | cons c rest ih =>
    have hc : c ≠ '/' := by
      rintro rfl
      exact h List.mem_cons_self
    rw [Text.splitAt, if_neg hc, ih fun hm => h (List.mem_cons_of_mem _ hm)]

theorem hasDoubleStar_of_not_mem {text : Text} (h : '*' ∉ text) : hasDoubleStar text = false := by
  induction text with
  | nil => rfl
  | cons c rest ih =>
    rw [hasDoubleStar]
    · exact ih fun hm => h (List.mem_cons_of_mem _ hm)
    · rintro rest' rfl
      exact absurd List.mem_cons_self h

/-- A star before a literal text is no double star. -/
theorem component?_star (h : '*' ∉ extension) :
    component? ('*' :: extension) = some (.wild ('*' :: extension)) := by
  have apart : '*' :: extension ≠ ['*', '*'] := by
    intro he
    exact h ((List.cons.inj he).2 ▸ List.mem_cons_self)
  have single : hasDoubleStar ('*' :: extension) = false := by
    cases extension with
    | nil => rfl
    | cons c rest =>
      rw [hasDoubleStar]
      · exact hasDoubleStar_of_not_mem h
      · rintro rest' - he
        exact h (he ▸ List.mem_cons_self)
  rw [component?, if_neg apart, single, if_neg Bool.false_ne_true, if_pos]
  simp [isWild]

/-- **The pattern is one component.** -/
theorem components?_star (h : IsLiteral extension) :
    components? ('*' :: extension) = some [.wild ('*' :: extension)] := by
  have slash : '/' ∉ '*' :: extension := by
    intro hm
    rcases List.mem_cons.1 hm with he | hm
    · exact absurd he (by decide)
    · exact (h _ hm).2.2.2 rfl
  have star : '*' ∉ extension := fun hm => (h _ hm).1 rfl
  have parts : Path.partsOf ('*' :: extension) = ['*' :: extension] := by
    rw [Path.partsOf, splitAt_of_not_mem slash]
    simp
  have unclosed : ('*' :: extension).getLast? ≠ some '/' := fun hl =>
    slash (List.mem_of_getLast? hl)
  rw [components?, parts]
  simp [component?_star star, unclosed]

end Literals
end Reimport.Glob
