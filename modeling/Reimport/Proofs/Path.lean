import Reimport.Path

/-!
# Names and texts of paths

A path that was read holds no name `.`, and what characters the text of a path holds
can be told from its names.
-/
namespace Reimport

namespace Text

/-- The library's way of putting a separator between pieces is the same one. -/
theorem list_intercalate_eq (separator : Text) (pieces : List Text) :
    List.intercalate separator pieces = intercalate separator pieces := by
  fun_induction intercalate separator pieces with
  | case1 => rfl
  | case2 piece => simp [List.intercalate]
  | case3 piece next rest ih =>
    rw [← ih]
    simp [List.intercalate]

theorem mem_intercalate {c separator : Char} (ne : c ≠ separator) (pieces : List Text) :
    c ∈ intercalate [separator] pieces ↔ ∃ piece ∈ pieces, c ∈ piece := by
  fun_induction intercalate [separator] pieces with
  | case1 => simp
  | case2 piece => simp
  | case3 piece next rest ih =>
    rw [List.mem_append, List.mem_append, ih, List.mem_singleton]
    simp [ne]

end Text

namespace Path

/-- A path holds a character other than the dot and the slash iff one of its names does. -/
theorem mem_text {c : Char} (hdot : c ≠ '.') (hslash : c ≠ '/') (path : Path) :
    c ∈ path.text ↔ ∃ part ∈ path.parts, c ∈ part := by
  obtain ⟨root, parts⟩ := path
  have h := Text.mem_intercalate hslash parts
  cases root with
  | none =>
    cases parts with
    | nil => simp [text, hdot]
    | cons part rest => exact h
  | single =>
    show c ∈ '/' :: List.intercalate ['/'] parts ↔ _
    rw [Text.list_intercalate_eq, List.mem_cons, h]
    simp [hslash]
  | double =>
    show c ∈ '/' :: '/' :: List.intercalate ['/'] parts ↔ _
    rw [Text.list_intercalate_eq, List.mem_cons, List.mem_cons, h]
    simp [hslash]

theorem contains_nul_eq_false {path : Path} :
    path.text.contains '\x00' = false ↔ ∀ part ∈ path.parts, '\x00' ∉ part := by
  rw [← Bool.not_eq_true, List.contains_iff_mem, mem_text (by decide) (by decide)]
  simp

/-- The text of an absolute path is read as an absolute path. -/
theorem isAbsolute_parse_text {path : Path} (h : path.isAbsolute = true) :
    (parse path.text).isAbsolute = true := by
  obtain ⟨root, parts⟩ := path
  have slash : ∀ rest : Text, rootOf ('/' :: rest) ≠ .none := by
    intro rest
    unfold rootOf
    split <;> simp_all
  cases root with
  | none => exact absurd h (by simp [isAbsolute])
  | single => exact decide_eq_true (slash _)
  | double => exact decide_eq_true (slash _)

/-! ## Names -/

/-- A name that leads one directory down. -/
def IsProper (name : Name) : Prop := name ≠ dot ∧ name ≠ dotDot

theorem dot_not_mem_partsOf (text : Text) : dot ∉ partsOf text := by
  intro h
  rw [partsOf, List.mem_filter] at h
  simp at h

end Path

end Reimport
