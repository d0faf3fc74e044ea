import Mathlib
import Reimport.Corpus

/-!
# The order of a corpus

Names are compared character by character and paths name by name, which is the lexicographic
order of lists (`namesBefore_iff`).  So sorting puts any arrangement of the same paths into one
row (`sorted_eq_of_perm`).

Of things that come one after the other under ascending keys, each is kept where it comes first.
What is kept is then ordered by the least keys (`pairwise_eraseDups`).
-/
namespace Reimport

namespace Corpus

section Lexicographic
variable {α : Type} [LinearOrder α] {first second : α} {rest others : List α}

theorem nil_le (others : List α) : [] ≤ others := by
  rw [← not_lt]
  exact List.not_lt_nil others

theorem not_cons_le_nil : ¬ first :: rest ≤ [] := by
  rw [not_le]
  exact List.nil_lt_cons first rest

theorem cons_le_cons : first :: rest ≤ second :: others ↔
    first < second ∨ first = second ∧ rest ≤ others := by
  rw [le_iff_lt_or_eq, le_iff_lt_or_eq, List.cons_lt_cons_iff, List.cons.injEq, and_or_left,
    or_assoc]

end Lexicographic

section Names
variable {first second : Name} {names others : List Name}

theorem nameBefore_iff : nameBefore first second = true ↔ first ≤ second := by
  induction first generalizing second with
  | nil => exact iff_of_true (by rw [nameBefore]) (nil_le second)
  | cons c first ih =>
    cases second with
    | nil => exact iff_of_false (by rw [nameBefore]; exact Bool.false_ne_true) not_cons_le_nil
    | cons d second =>
      rw [nameBefore, Bool.or_eq_true, Bool.and_eq_true, decide_eq_true_eq, decide_eq_true_eq, ih,
        cons_le_cons]

/-- **Rows of names are compared name by name.** -/
theorem namesBefore_iff : namesBefore names others = true ↔ names ≤ others := by
  induction names generalizing others with
  | nil => exact iff_of_true (by rw [namesBefore]) (nil_le others)
  | cons name names ih =>
    cases others with
    | nil => exact iff_of_false (by rw [namesBefore]; exact Bool.false_ne_true) not_cons_le_nil
    | cons other others =>
      rw [namesBefore, cons_le_cons]
      split
      · rename_i he
        rw [ih, he]
        simp
      · rename_i ne
        rw [nameBefore_iff, le_iff_lt_or_eq]
        simp [ne]

/-- What is common at the front does not matter. -/
theorem namesBefore_append (front names others : List Name) :
    namesBefore (front ++ names) (front ++ others) = namesBefore names others := by
  induction front with
  | nil => rfl
  | cons name front ih =>
    rw [List.cons_append, List.cons_append, namesBefore, if_pos rfl, ih]

/-- Rows of names in their order. -/
def sorted (rows : List (List Name)) : List (List Name) := rows.mergeSort namesBefore

theorem mem_sorted {rows : List (List Name)} : names ∈ sorted rows ↔ names ∈ rows :=
  (List.mergeSort_perm rows namesBefore).mem_iff

theorem pairwise_sorted (rows : List (List Name)) : (sorted rows).Pairwise (· ≤ ·) := by
  have transitive : ∀ first second third, namesBefore first second = true →
      namesBefore second third = true → namesBefore first third = true := by
    intro first second third
    rw [namesBefore_iff, namesBefore_iff, namesBefore_iff]
    exact le_trans
  have total : ∀ first second, (namesBefore first second || namesBefore second first) = true := by
    intro first second
    rw [Bool.or_eq_true, namesBefore_iff, namesBefore_iff]
    exact le_total first second
  exact (List.pairwise_mergeSort transitive total rows).imp namesBefore_iff.1

/-- **However rows are arranged, they are sorted into one order.** -/
theorem sorted_eq_of_perm {rows rows' : List (List Name)} (h : rows.Perm rows') :
    sorted rows = sorted rows' := by
  refine List.Perm.eq_of_pairwise (fun _ _ _ _ => le_antisymm) (pairwise_sorted rows)
    (pairwise_sorted rows') ?_
  exact (List.mergeSort_perm rows namesBefore).trans
    (h.trans (List.mergeSort_perm rows' namesBefore).symm)

end Names

/-! ## Where something comes first -/

section Keys
variable {κ α : Type} [LinearOrder κ]

/-- The keys under which something is listed. -/
def keysOf (rows : List (κ × α)) (item : α) : Set κ := {key | (key, item) ∈ rows}

/-- Whatever is listed under ascending keys has a least one. -/
theorem exists_isLeast {rows : List (κ × α)} (ascending : rows.Pairwise (·.1 ≤ ·.1)) {item : α}
    (hm : item ∈ rows.map Prod.snd) : ∃ key, IsLeast (keysOf rows item) key := by
  induction rows with
  | nil => cases hm
  | cons row rows ih =>
    obtain ⟨before, ascending⟩ := List.pairwise_cons.1 ascending
    by_cases he : row.2 = item
    · refine ⟨row.1, ?_, ?_⟩
      · rw [← he]
        exact List.mem_cons_self
      · intro key hk
        rcases List.mem_cons.1 hk with hk | hk
        · rw [← hk]
        · exact before _ hk
    -- what the first row does not list is listed by the others alone
    · have later : item ∈ rows.map Prod.snd :=
        (List.mem_cons.1 hm).resolve_left fun he' => he he'.symm
      obtain ⟨key, hk, least⟩ := ih ascending later
      refine ⟨key, List.mem_cons_of_mem _ hk, ?_⟩
      intro other ho
      apply least
      rcases List.mem_cons.1 ho with ho | ho
      · exact absurd (congrArg Prod.snd ho).symm he
      · exact ho

omit [LinearOrder κ] in
theorem keysOf_cons_of_ne {row : κ × α} {item : α} (ne : item ≠ row.2) (rows : List (κ × α)) :
    keysOf (row :: rows) item = keysOf rows item := by
  ext key
  refine List.mem_cons.trans (or_iff_right ?_)
  exact fun he => ne (congrArg Prod.snd he)

/-- The item of the first row has a smaller key than any other, if its key lists nothing else. -/
theorem lt_of_first {row : κ × α} {rows : List (κ × α)} (before : ∀ other ∈ rows, row.1 ≤ other.1)
    (single : ∀ other ∈ rows, row.1 = other.1 → row.2 = other.2) {item : α} (ne : item ≠ row.2)
    {key key' : κ} (least : IsLeast (keysOf (row :: rows) row.2) key)
    (least' : IsLeast (keysOf (row :: rows) item) key') : key < key' := by
  have first : key ≤ row.1 := least.2 List.mem_cons_self
  have listed : (key', item) ∈ rows :=
    (List.mem_cons.1 least'.1).resolve_left fun he => ne (congrArg Prod.snd he)
  refine lt_of_le_of_ne (first.trans (before _ listed)) fun he => ne ?_
  have same : row.1 = key' := le_antisymm (before _ listed) (he ▸ first)
  exact (single _ listed same).symm

variable [BEq α] [LawfulBEq α]

omit [LinearOrder κ] in
/-- Leaving out the rows of another item leaves the keys of an item. -/
theorem keysOf_filter_ne {item dropped : α} (ne : item ≠ dropped) (rows : List (κ × α)) :
    keysOf (rows.filter fun row => !row.2 == dropped) item = keysOf rows item := by
  ext key
  refine List.mem_filter.trans (and_iff_left ?_)
  simpa using ne

/-- **What is kept where it comes first is ordered by the least keys**, if no key lists two
things.  By induction on the length: behind the first row its item is left out. -/
theorem pairwise_eraseDups {rows : List (κ × α)} (ascending : rows.Pairwise (·.1 ≤ ·.1))
    (single : ∀ row ∈ rows, ∀ other ∈ rows, row.1 = other.1 → row.2 = other.2) :
    (rows.map Prod.snd).eraseDups.Pairwise fun item other =>
      ∀ key key', IsLeast (keysOf rows item) key → IsLeast (keysOf rows other) key' →
        key < key' := by
  induction hl : rows.length using Nat.strongRecOn generalizing rows with
  | ind length shorter =>
  subst hl
  cases rows with
  | nil => exact List.Pairwise.nil
  | cons row rows =>
    obtain ⟨before, rest⟩ := List.pairwise_cons.1 ascending
    have filtered : (rows.map Prod.snd).filter (fun item => !item == row.2) =
        (rows.filter fun other => !other.2 == row.2).map Prod.snd := List.filter_map
    have others : ∀ item ∈ ((rows.filter fun other => !other.2 == row.2).map
        Prod.snd).eraseDups, item ≠ row.2 := by
      intro item hm
      obtain ⟨found, hf, rfl⟩ := List.mem_map.1 (List.mem_eraseDups.1 hm)
      simpa using (List.mem_filter.1 hf).2
    rw [List.map_cons, List.eraseDups_cons, filtered, List.pairwise_cons]
    constructor
    -- the item of the first row has the least of all keys
    · intro other ho key key' least least'
      exact lt_of_first before (fun other hm => single row List.mem_cons_self other
        (List.mem_cons_of_mem _ hm)) (others other ho) least least'
    -- another item has the same keys without the rows of that one
    · have kept := List.filter_sublist (p := fun other => !other.2 == row.2) (l := rows)
      have tail := shorter _ (Nat.lt_succ_of_le kept.length_le) (rest.sublist kept)
        (fun a ha b hb => single a (List.mem_cons_of_mem _ (kept.subset ha)) b
          (List.mem_cons_of_mem _ (kept.subset hb))) rfl
      refine tail.imp_of_mem fun {item other} hi ho h key key' least least' => ?_
      rw [keysOf_cons_of_ne (others item hi), ← keysOf_filter_ne (others item hi)] at least
      rw [keysOf_cons_of_ne (others other ho), ← keysOf_filter_ne (others other ho)] at least'
      exact h key key' least least'

end Keys

end Corpus
end Reimport
