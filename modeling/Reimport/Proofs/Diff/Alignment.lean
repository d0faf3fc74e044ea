import Reimport.Diff.Matching

/-!
# Matching blocks are an alignment

Whatever the search for blocks prefers, the blocks that it ends with align the two
sides: they come in order on both, lie inside them and hold equal lines
(`aligned_matchingBlocks`).  Nothing of this rests on the lines that take part in
the search, so leaving out frequent ones makes an alignment coarser and never
wrong.

A run of the search that ends at some line is one line longer than the run that
ends at the line before on both sides, which is all that the table of lengths
(`Ends`) has to say; the block that comes out of it stays in its window when it is
extended (`inside_longestBlock`).
-/
namespace Reimport.Diff

variable {α : Type} {left right : List α} {i j i' j' m n : Nat}

/-- The `n` lines from `i` on the left are the `n` lines from `j` on the right. -/
def Equal (left right : List α) (i j n : Nat) : Prop :=
  ∀ k < n, ∃ line, left[i + k]? = some line ∧ right[j + k]? = some line

namespace Equal

theorem none : Equal left right i j 0 := fun _ h => absurd h (Nat.not_lt_zero _)

theorem one {line : α} (hl : left[i]? = some line) (hr : right[j]? = some line) :
    Equal left right i j 1 := by
  intro k hk
  obtain rfl : k = 0 := by omega
  exact ⟨line, hl, hr⟩

theorem append (before : Equal left right i j m) (after : Equal left right (i + m) (j + m) n) :
    Equal left right i j (m + n) := by
  intro k hk
  by_cases hm : k < m
  · exact before k hm
  · obtain ⟨line, hl, hr⟩ := after (k - m) (by omega)
    refine ⟨line, ?_, ?_⟩
    · rwa [show i + m + (k - m) = i + k by omega] at hl
    · rwa [show j + m + (k - m) = j + k by omega] at hr

theorem take_drop (h : Equal left right i j n) :
    (left.drop i).take n = (right.drop j).take n := by
  refine List.ext_getElem? fun k => ?_
  rw [List.getElem?_take, List.getElem?_take, List.getElem?_drop, List.getElem?_drop]
  split
  · obtain ⟨line, hl, hr⟩ := h k ‹_›
    rw [hl, hr]
  · rfl

end Equal

/-- The blocks, in order, align lines from `i` and `j` up to `i'` and `j'`. -/
inductive Aligned (left right : List α) : Nat → Nat → List Block → Nat → Nat → Prop where
  | nil {i j i' j' : Nat} (hi : i ≤ i') (hj : j ≤ j') : Aligned left right i j [] i' j'
  | cons {i j i' j' : Nat} {block : Block} {blocks : List Block} (hi : i ≤ block.left)
      (hj : j ≤ block.right) (size : 0 < block.size)
      (equal : Equal left right block.left block.right block.size)
      (rest : Aligned left right (block.left + block.size) (block.right + block.size) blocks
        i' j') :
      Aligned left right i j (block :: blocks) i' j'

namespace Aligned

theorem append {block : Block} {before after : List Block}
    (h : Aligned left right i j before block.left block.right) (size : 0 < block.size)
    (equal : Equal left right block.left block.right block.size)
    (rest : Aligned left right (block.left + block.size) (block.right + block.size) after i' j') :
    Aligned left right i j (before ++ block :: after) i' j' := by
  generalize hl : block.left = l at h
  generalize hr : block.right = r at h
  induction h with
  | nil hi hj =>
    subst hl hr
    exact .cons hi hj size equal rest
  | cons hi hj size' equal' _ ih => exact .cons hi hj size' equal' (ih hl hr)

/-- Blocks that touch on both sides are as good as one. -/
theorem mergeBlocks {blocks : List Block} (h : Aligned left right i j blocks i' j') :
    Aligned left right i j (mergeBlocks blocks) i' j' := by
  induction h with
  | nil hi hj => exact .nil hi hj
  | @cons _ _ _ _ block blocks hi hj size equal _ ih =>
    rw [Diff.mergeBlocks]
    split
    · rename_i hm
      rw [hm] at ih
      exact .cons hi hj size equal ih
    · rename_i next more hm
      rw [hm] at ih
      split
      · rename_i touch
        obtain ⟨hl, hr⟩ := touch
        cases ih with
        | cons _ _ size' equal' rest =>
          rw [← hl, ← hr] at equal'
          rw [← hl, ← hr, Nat.add_assoc, Nat.add_assoc] at rest
          exact .cons hi hj (Nat.add_pos_left size _) (equal.append equal') rest
      · exact .cons hi hj size equal ih

end Aligned

/-- A block lies in a window. -/
structure Window.Holds (window : Window) (block : Block) : Prop where
  leftStart : window.leftStart ≤ block.left
  leftStop : block.left + block.size ≤ window.leftStop
  rightStart : window.rightStart ≤ block.right
  rightStop : block.right + block.size ≤ window.rightStop

/-- A window lies in the two lists. -/
structure Window.Of (window : Window) (left right : List α) : Prop where
  leftOrdered : window.leftStart ≤ window.leftStop
  leftStop : window.leftStop ≤ left.length
  rightOrdered : window.rightStart ≤ window.rightStop
  rightStop : window.rightStop ≤ right.length

theorem getElem?_slice {xs : List α} {start stop k : Nat} {x : α} :
    (slice xs start stop)[k]? = some x ↔ start + k < stop ∧ xs[start + k]? = some x := by
  rw [slice, List.getElem?_take]
  split
  · rw [List.getElem?_drop]
    exact ⟨fun h => ⟨by omega, h⟩, And.right⟩
  · exact ⟨fun h => (nomatch h), fun h => absurd h.1 (by omega)⟩

theorem getElem?_reverse_slice {xs : List α} {start stop k : Nat} {x : α}
    (hs : stop ≤ xs.length) (h : (slice xs start stop).reverse[k]? = some x) :
    start + k < stop ∧ xs[stop - (k + 1)]? = some x := by
  have length : (slice xs start stop).length = stop - start := by
    rw [slice, List.length_take, List.length_drop]
    omega
  have hk : k < stop - start := by
    have := (List.getElem?_eq_some_iff.1 h).1
    rwa [List.length_reverse, length] at this
  rw [List.getElem?_reverse (by rw [length]; exact hk), length] at h
  have hx := (getElem?_slice.1 h).2
  rw [show start + (stop - start - 1 - k) = stop - (k + 1) by omega] at hx
  exact ⟨by omega, hx⟩

section Table
variable {window : Window} {table : List (Nat × Nat)} {ends : List Nat}

/-- The table of the runs that end at the line before `i` on the left, by the line
on the right where they end: each is a run of equal lines inside the window. -/
def Ends (left right : List α) (window : Window) (i : Nat) (table : List (Nat × Nat)) : Prop :=
  ∀ j n, (j, n) ∈ table → n ≤ j + 1 ∧
    window.Holds ⟨i - n, j + 1 - n, n⟩ ∧ n ≤ i ∧ Equal left right (i - n) (j + 1 - n) n

/-- What the table says of the line before `j` on the right, nothing of the first one, is the length
of a run that ends before both lines. -/
theorem Ends.before (h : Ends left right window i table) (hi : window.leftStart ≤ i) {j : Nat}
    (hj : window.rightStart ≤ j) {n : Nat}
    (hn : (if j = 0 then 0 else (table.lookup (j - 1)).getD 0) = n) :
    window.leftStart + n ≤ i ∧ window.rightStart + n ≤ j ∧ Equal left right (i - n) (j - n) n := by
  by_cases zero : n = 0
  · subst zero
    exact ⟨hi, hj, .none⟩
  have pos : j ≠ 0 := fun hz => zero (hn ▸ if_pos hz)
  rw [if_neg pos] at hn
  cases found : table.lookup (j - 1) with
  | none =>
    rw [found] at hn
    exact absurd hn.symm zero
  | some size =>
    obtain rfl : size = n := by
      rw [found] at hn
      exact hn
    obtain ⟨_, _, listed, -⟩ := List.lookup_eq_some_iff.1 found
    obtain ⟨hle, ⟨onLeft, -, onRight, -⟩, hsize, equal⟩ := h (j - 1) size (by rw [listed]; simp)
    simp only at onLeft onRight
    rw [show j - 1 + 1 - size = j - size by omega] at equal
    exact ⟨by omega, by omega, equal⟩

/-- A run becomes longer by the line where it ends. -/
theorem ends_nextRuns (h : Ends left right window i table) (hi : window.leftStart ≤ i)
    (hi' : i < window.leftStop)
    (inside : ∀ j ∈ ends, window.rightStart ≤ j ∧ j < window.rightStop)
    (equal : ∀ j ∈ ends, Equal left right i j 1) :
    Ends left right window (i + 1) (nextRuns table ends) := by
  intro j n hm
  obtain ⟨j, hj, he⟩ := List.mem_map.1 hm
  obtain ⟨rfl, rfl⟩ := Prod.mk.inj he
  obtain ⟨hs, ht⟩ := inside j hj
  generalize hn : (if j = 0 then 0 else (table.lookup (j - 1)).getD 0) = n
  obtain ⟨hl, hr, he⟩ := h.before hi hs hn
  refine ⟨by omega, ⟨?_, ?_, ?_, ?_⟩, by omega, ?_⟩
  · show window.leftStart ≤ i + 1 - (n + 1)
    omega
  · show i + 1 - (n + 1) + (n + 1) ≤ window.leftStop
    omega
  · show window.rightStart ≤ j + 1 - (n + 1)
    omega
  · show j + 1 - (n + 1) + (n + 1) ≤ window.rightStop
    omega
  · rw [show i + 1 - (n + 1) = i - n by omega, show j + 1 - (n + 1) = j - n by omega]
    refine he.append ?_
    rw [Nat.sub_add_cancel (by omega), Nat.sub_add_cancel (by omega)]
    exact equal j hj

/-- A block in a window that holds equal lines. -/
def Good (left right : List α) (window : Window) (block : Block) : Prop :=
  window.Holds block ∧ Equal left right block.left block.right block.size

theorem better_induction {P : Block → Prop} {best : Block} {runs : List (Nat × Nat)}
    (h : P best)
    (each : ∀ run ∈ runs, P ⟨i + 1 - run.2, run.1 + 1 - run.2, run.2⟩) :
    P (better i best runs) := by
  induction runs generalizing best with
  | nil => exact h
  | cons run runs ih =>
    refine ih ?_ fun run hm => each run (List.mem_cons_of_mem _ hm)
    simp only
    split
    · exact each run List.mem_cons_self
    · exact h

theorem good_longestRun {best : Block} {lists : List (List Nat)}
    (hi : window.leftStart ≤ i) (h : Ends left right window i table)
    (hb : Good left right window best)
    (each : ∀ k ends, lists[k]? = some ends →
      i + k < window.leftStop ∧ ∀ j ∈ ends, Equal left right (i + k) j 1) :
    Good left right window (longestRun window i table best lists) := by
  induction lists generalizing i table best with
  | nil => exact hb
  | cons ends rest ih =>
    obtain ⟨hi', equal⟩ := each 0 ends rfl
    have next : Ends left right window (i + 1)
        (nextRuns table (ends.filter fun j => window.rightStart ≤ j && j < window.rightStop)) := by
      refine ends_nextRuns h hi hi' ?_ ?_
      · intro j hj
        have := (List.mem_filter.1 hj).2
        rwa [Bool.and_eq_true, decide_eq_true_eq, decide_eq_true_eq] at this
      · exact fun j hj => equal j ((List.mem_filter.1 hj).1)
    refine ih (Nat.le_succ_of_le hi) next ?_ ?_
    · refine better_induction hb ?_
      intro run hm
      obtain ⟨-, holds, -, equal⟩ := next run.1 run.2 hm
      exact ⟨holds, equal⟩
    · intro k ends hk
      have := each (k + 1) ends hk
      rwa [show i + (k + 1) = i + 1 + k by omega] at this

end Table

section Search
variable [DecidableEq α] {window : Window}

/-- The search went past no line that does not match. -/
theorem equal_commonLength (xs ys : List α) : Equal xs ys 0 0 (commonLength xs ys) := by
  fun_induction commonLength xs ys with
  | case1 xs y ys ih =>
    rw [Nat.add_comm]
    refine Equal.append (.one rfl rfl) ?_
    intro k hk
    obtain ⟨line, hl, hr⟩ := ih k hk
    refine ⟨line, ?_, ?_⟩
    · rw [Nat.zero_add] at hl ⊢
      rwa [Nat.add_comm, List.getElem?_cons_succ]
    · rw [Nat.zero_add] at hr ⊢
      rwa [Nat.add_comm, List.getElem?_cons_succ]
  | case2 => exact .none
  | case3 => exact .none

theorem getElem?_of_mem_positions {line : α} {start : Nat} {lines : List α}
    (h : j ∈ positions line start lines) : start ≤ j ∧ lines[j - start]? = some line := by
  induction lines generalizing start with
  | nil => cases h
  | cons other rest ih =>
    have later : j ∈ positions line (start + 1) rest →
        start ≤ j ∧ (other :: rest)[j - start]? = some line := by
      intro h
      obtain ⟨hj, hl⟩ := ih h
      refine ⟨by omega, ?_⟩
      rwa [show j - start = j - (start + 1) + 1 by omega, List.getElem?_cons_succ]
    rw [positions] at h
    split at h
    · rename_i he
      rcases List.mem_cons.1 h with rfl | h
      · exact ⟨Nat.le_refl _, by rw [Nat.sub_self, List.getElem?_cons_zero, he]⟩
      · exact later h
    · exact later h

/-- A candidate for a line on the left is the same line on the right. -/
theorem equal_of_candidates {ends : List Nat} (h : (candidates left right)[i]? = some ends)
    (hj : j ∈ ends) : Equal left right i j 1 := by
  rw [candidates, List.getElem?_map, Option.map_eq_some_iff] at h
  obtain ⟨line, hl, rfl⟩ := h
  split at hj
  · cases hj
  · exact .one hl (getElem?_of_mem_positions hj).2

/-- Lines that two ranges end with alike are equal lines. -/
theorem equal_before {start stop start' stop' : Nat} (h : start ≤ stop) (h' : start' ≤ stop')
    (hl : stop ≤ left.length) (hr : stop' ≤ right.length)
    (hm : commonLength (slice left start stop).reverse (slice right start' stop').reverse = m) :
    start + m ≤ stop ∧ start' + m ≤ stop' ∧ Equal left right (stop - m) (stop' - m) m := by
  have each : ∀ k < m, start + k < stop ∧ start' + k < stop' ∧
      ∃ line, left[stop - (k + 1)]? = some line ∧ right[stop' - (k + 1)]? = some line := by
    intro k hk
    obtain ⟨line, hx, hy⟩ := equal_commonLength _ _ k (hm ▸ hk)
    rw [Nat.zero_add] at hx hy
    obtain ⟨hkl, hx⟩ := getElem?_reverse_slice hl hx
    obtain ⟨hkr, hy⟩ := getElem?_reverse_slice hr hy
    exact ⟨hkl, hkr, line, hx, hy⟩
  have room : start + m ≤ stop ∧ start' + m ≤ stop' := by
    by_cases hz : m = 0
    · omega
    · have := each (m - 1) (by omega)
      omega
  refine ⟨room.1, room.2, ?_⟩
  intro k hk
  obtain ⟨-, -, line, hx, hy⟩ := each (m - (k + 1)) (by omega)
  refine ⟨line, ?_, ?_⟩
  · rwa [show stop - (m - (k + 1) + 1) = stop - m + k by omega] at hx
  · rwa [show stop' - (m - (k + 1) + 1) = stop' - m + k by omega] at hy

/-- Lines that two ranges begin with alike are equal lines. -/
theorem equal_after {start stop start' stop' : Nat} (h : start ≤ stop) (h' : start' ≤ stop')
    (hn : commonLength (slice left start stop) (slice right start' stop') = n) :
    start + n ≤ stop ∧ start' + n ≤ stop' ∧ Equal left right start start' n := by
  have each : ∀ k < n, start + k < stop ∧ start' + k < stop' ∧
      ∃ line, left[start + k]? = some line ∧ right[start' + k]? = some line := by
    intro k hk
    obtain ⟨line, hx, hy⟩ := equal_commonLength _ _ k (hn ▸ hk)
    rw [Nat.zero_add] at hx hy
    obtain ⟨hkl, hx⟩ := getElem?_slice.1 hx
    obtain ⟨hkr, hy⟩ := getElem?_slice.1 hy
    exact ⟨hkl, hkr, line, hx, hy⟩
  have room : start + n ≤ stop ∧ start' + n ≤ stop' := by
    by_cases hz : n = 0
    · omega
    · have := each (n - 1) (by omega)
      omega
  exact ⟨room.1, room.2, fun k hk => (each k hk).2.2⟩

/-- Extending a block by equal lines keeps it in its window. -/
theorem good_extend {block : Block} (hw : window.Of left right)
    (h : Good left right window block) :
    Good left right window (extend left right window block) := by
  obtain ⟨⟨hls, hlt, hrs, hrt⟩, equal⟩ := h
  have := hw.leftStop
  have := hw.rightStop
  rw [extend]
  generalize hm : commonLength (slice left window.leftStart block.left).reverse
    (slice right window.rightStart block.right).reverse = m
  generalize hn : commonLength (slice left (block.left + block.size) window.leftStop)
    (slice right (block.right + block.size) window.rightStop) = n
  obtain ⟨hml, hmr, before⟩ := equal_before hls hrs (by omega) (by omega) hm
  obtain ⟨hnl, hnr, after⟩ := equal_after hlt hrt hn
  refine ⟨⟨?_, ?_, ?_, ?_⟩, ?_⟩
  · show window.leftStart ≤ block.left - m
    omega
  · show block.left - m + (m + block.size + n) ≤ window.leftStop
    omega
  · show window.rightStart ≤ block.right - m
    omega
  · show block.right - m + (m + block.size + n) ≤ window.rightStop
    omega
  · refine (before.append ?_).append ?_
    · rwa [Nat.sub_add_cancel (by omega), Nat.sub_add_cancel (by omega)]
    · rwa [show block.left - m + (m + block.size) = block.left + block.size by omega,
        show block.right - m + (m + block.size) = block.right + block.size by omega]

/-- The longest block of a window lies in it and holds equal lines. -/
theorem good_longestBlock (hw : window.Of left right) :
    Good left right window (longestBlock left right (candidates left right) window) := by
  refine good_extend hw (good_longestRun (Nat.le_refl _) ?_ ⟨⟨?_, ?_, ?_, ?_⟩, .none⟩ ?_)
  · exact fun _ _ h => (nomatch h)
  · exact Nat.le_refl _
  · exact hw.leftOrdered
  · exact Nat.le_refl _
  · exact hw.rightOrdered
  · intro k ends hk
    obtain ⟨hk, he⟩ := getElem?_slice.1 hk
    exact ⟨hk, fun j hj => equal_of_candidates he hj⟩

/-- The search goes on before and after every block that it finds: no block is
refused for lying outside its window. -/
theorem blocksIn_eq (hw : window.Of left right) :
    blocksIn left right (candidates left right) window =
      let block := longestBlock left right (candidates left right) window
      if 0 < block.size then
        blocksIn left right (candidates left right)
            ⟨window.leftStart, block.left, window.rightStart, block.right⟩ ++
          block :: blocksIn left right (candidates left right)
            ⟨block.left + block.size, window.leftStop, block.right + block.size,
              window.rightStop⟩
      else [] := by
  have holds := (good_longestBlock hw).1
  rw [blocksIn]
  by_cases size : 0 < (longestBlock left right (candidates left right) window).size
  · rw [dif_pos ⟨size, holds.leftStart, holds.leftStop⟩, if_pos size]
  · rw [dif_neg (fun h => size h.1), if_neg size]

theorem aligned_blocksIn (hw : window.Of left right) :
    Aligned left right window.leftStart window.rightStart
      (blocksIn left right (candidates left right) window) window.leftStop window.rightStop := by
  -- The two windows around a block are shorter than the one that it was found in.
  generalize hk : window.leftStop - window.leftStart = k
  induction k using Nat.strongRecOn generalizing window with
  | _ k ih =>
    obtain ⟨holds, equal⟩ := good_longestBlock hw
    rw [blocksIn_eq hw]
    simp only
    generalize longestBlock left right (candidates left right) window = block at holds equal ⊢
    obtain ⟨hls, hlt, hrs, hrt⟩ := holds
    have := hw.leftStop
    have := hw.rightStop
    split
    · rename_i size
      have before : Window.Of ⟨window.leftStart, block.left, window.rightStart, block.right⟩
          left right :=
        ⟨hls, by show block.left ≤ left.length; omega, hrs, by show block.right ≤ right.length; omega⟩
      have after : Window.Of ⟨block.left + block.size, window.leftStop,
          block.right + block.size, window.rightStop⟩ left right :=
        ⟨hlt, hw.leftStop, hrt, hw.rightStop⟩
      exact (ih (block.left - window.leftStart) (by omega) before rfl).append size equal
        (ih (window.leftStop - (block.left + block.size)) (by omega) after rfl)
    · exact .nil hw.leftOrdered hw.rightOrdered

/-- **The matching blocks align the two sides**, from their first lines to their
last. -/
theorem aligned_matchingBlocks (left right : List α) :
    Aligned left right 0 0 (matchingBlocks left right) left.length right.length := by
  have whole : Window.Of ⟨0, left.length, 0, right.length⟩ left right :=
    ⟨Nat.zero_le _, Nat.le_refl _, Nat.zero_le _, Nat.le_refl _⟩
  exact (aligned_blocksIn whole).mergeBlocks

end Search

end Reimport.Diff
