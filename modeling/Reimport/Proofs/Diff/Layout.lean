import Reimport.Diff.Hunk
import Reimport.Proofs.Diff.Alignment

/-!
# The hunks of a comparison, laid over the two sides

The runs of a comparison are the two sides cut at the same places
(`old_runs`, `new_runs`), and a change never touches another change, because
between two of them lies a matching block (`separated_runs`).

Hunks leave kept lines out.  `Laid` says where they lie nevertheless: each one
after some lines that both sides share, at the line numbers it carries, and after
the last one the two sides go on alike.  That is what `laid_hunks` proves of the
hunks of any comparison, and everything that a diff shows about its sides follows
from it; that both sides can be exchanged (`Laid.flip`) is one of these facts.
-/
namespace Reimport.Diff

variable {α : Type}

namespace Run

/-- A run seen from the other side. -/
def flip : Run α → Run α
  | .kept lines => .kept lines
  | .changed removed added => .changed added removed

@[simp] theorem old_flip (run : Run α) : run.flip.old = run.new := by cases run <;> rfl

@[simp] theorem new_flip (run : Run α) : run.flip.new = run.old := by cases run <;> rfl

theorem new_eq_old {run : Run α} (h : run.isKept = true) : run.new = run.old := by
  cases run with
  | kept => rfl
  | changed => cases h

end Run

/-- The lines of runs on the left side. -/
def oldOf (runs : List (Run α)) : List α := runs.flatMap Run.old

/-- The lines of runs on the right side. -/
def newOf (runs : List (Run α)) : List α := runs.flatMap Run.new

@[simp] theorem oldOf_nil : oldOf ([] : List (Run α)) = [] := rfl

@[simp] theorem newOf_nil : newOf ([] : List (Run α)) = [] := rfl

@[simp] theorem oldOf_cons (run : Run α) (runs : List (Run α)) :
    oldOf (run :: runs) = run.old ++ oldOf runs := rfl

@[simp] theorem newOf_cons (run : Run α) (runs : List (Run α)) :
    newOf (run :: runs) = run.new ++ newOf runs := rfl

@[simp] theorem oldOf_append (runs more : List (Run α)) :
    oldOf (runs ++ more) = oldOf runs ++ oldOf more := List.flatMap_append

@[simp] theorem newOf_append (runs more : List (Run α)) :
    newOf (runs ++ more) = newOf runs ++ newOf more := List.flatMap_append

theorem newOf_eq_oldOf {runs : List (Run α)} (h : runs.all Run.isKept = true) :
    newOf runs = oldOf runs := by
  induction runs with
  | nil => rfl
  | cons run runs ih =>
    rw [List.all_cons, Bool.and_eq_true] at h
    rw [newOf_cons, oldOf_cons, Run.new_eq_old h.1, ih h.2]

theorem oldOf_map_flip (runs : List (Run α)) : oldOf (runs.map Run.flip) = newOf runs := by
  induction runs with
  | nil => rfl
  | cons run runs ih => rw [List.map_cons, oldOf_cons, newOf_cons, Run.old_flip, ih]

theorem newOf_map_flip (runs : List (Run α)) : newOf (runs.map Run.flip) = oldOf runs := by
  induction runs with
  | nil => rfl
  | cons run runs ih => rw [List.map_cons, oldOf_cons, newOf_cons, Run.new_flip, ih]

/-- Kept lines are at least one, and no change touches the next one. -/
def Separated : List (Run α) → Prop
  | [] => True
  | .kept lines :: rest => lines ≠ [] ∧ Separated rest
  | .changed _ _ :: rest => (∀ run ∈ rest.head?, run.isKept = true) ∧ Separated rest

namespace Separated

variable {run : Run α} {runs more : List (Run α)}

theorem tail (h : Separated (run :: runs)) : Separated runs := by
  cases run with
  | kept => exact h.2
  | changed => exact h.2

theorem of_append (h : Separated (runs ++ more)) : Separated runs ∧ Separated more := by
  induction runs with
  | nil => exact ⟨trivial, h⟩
  | cons run runs ih =>
    obtain ⟨hr, hm⟩ := ih h.tail
    refine ⟨?_, hm⟩
    cases run with
    | kept => exact ⟨h.1, hr⟩
    | changed =>
      refine ⟨?_, hr⟩
      intro run hrun
      cases runs with
      | nil => cases hrun
      | cons => exact h.1 run hrun

theorem append_kept {lines : List α} (h : Separated runs) (hl : lines ≠ [])
    (hm : Separated more) : Separated (runs ++ .kept lines :: more) := by
  induction runs with
  | nil => exact ⟨hl, hm⟩
  | cons run runs ih =>
    cases run with
    | kept => exact ⟨h.1, ih h.2⟩
    | changed =>
      refine ⟨?_, ih h.2⟩
      intro run hr
      cases runs with
      | nil =>
        obtain rfl := Option.some.inj hr
        rfl
      | cons => exact h.1 run hr

theorem flip (h : Separated runs) : Separated (runs.map Run.flip) := by
  induction runs with
  | nil => exact h
  | cons run runs ih =>
    cases run with
    | kept => exact ⟨h.1, ih h.2⟩
    | changed =>
      refine ⟨?_, ih h.2⟩
      intro run hr
      rw [List.head?_map] at hr
      obtain ⟨run', hr', rfl⟩ := Option.map_eq_some_iff.1 hr
      have kept := h.1 run' hr'
      cases run' with
      | kept => rfl
      | changed => cases kept

/-- Where nothing is left on the right side after a change, nothing is left. -/
theorem eq_nil {removed added : List α} (h : Separated (.changed removed added :: runs))
    (hn : newOf runs = []) : runs = [] := by
  cases runs with
  | nil => rfl
  | cons run runs =>
    have kept := h.1 run rfl
    cases run with
    | kept lines => exact absurd (List.append_eq_nil_iff.1 hn).1 h.2.1
    | changed => cases kept

end Separated

section Runs
variable {left right : List α}

theorem oldOf_changedRun (removed added : List α) : oldOf (changedRun removed added) = removed := by
  rw [changedRun]
  split
  · rename_i h
    exact h.1.symm
  · exact List.append_nil _

theorem newOf_changedRun (removed added : List α) : newOf (changedRun removed added) = added := by
  rw [changedRun]
  split
  · rename_i h
    exact h.2.symm
  · exact List.append_nil _

theorem separated_changedRun (removed added : List α) : Separated (changedRun removed added) := by
  rw [changedRun]
  split
  · trivial
  · exact ⟨fun _ h => (nomatch h), trivial⟩

/-- Along an alignment the runs are both sides, with a block between two changes. -/
theorem runsFrom_aligned {i j : Nat} {blocks : List Block}
    (h : Aligned left right i j blocks left.length right.length) :
    let runs := runsFrom i j (left.drop i) (right.drop j) blocks
    oldOf runs = left.drop i ∧ newOf runs = right.drop j ∧ Separated runs := by
  generalize hi' : left.length = i' at h
  generalize hj' : right.length = j' at h
  induction h with
  | nil => exact ⟨oldOf_changedRun _ _, newOf_changedRun _ _, separated_changedRun _ _⟩
  | @cons i j _ _ block blocks hi hj size equal _ ih =>
    obtain ⟨old, new, separated⟩ := ih hi' hj'
    have toLeft : (left.drop i).drop (block.left - i) = left.drop block.left := by
      rw [List.drop_drop, Nat.add_sub_cancel' hi]
    have toRight : (right.drop j).drop (block.right - j) = right.drop block.right := by
      rw [List.drop_drop, Nat.add_sub_cancel' hj]
    have pastRight : (right.drop j).drop (block.right - j + block.size) =
        right.drop (block.right + block.size) := by
      rw [← List.drop_drop, toRight, List.drop_drop]
    simp only [runsFrom, toLeft, pastRight, List.drop_drop]
    refine ⟨?_, ?_, ?_⟩
    · rw [oldOf_append, oldOf_changedRun, oldOf_cons, old, Run.old, ← List.drop_drop,
        List.take_append_drop, ← toLeft, List.take_append_drop]
    · rw [newOf_append, newOf_changedRun, newOf_cons, new, Run.new, equal.take_drop,
        ← List.drop_drop, List.take_append_drop, ← toRight, List.take_append_drop]
    · refine (separated_changedRun _ _).append_kept ?_ separated
      obtain ⟨line, hl, -⟩ := equal 0 size
      intro hn
      have length := congrArg List.length hn
      have := (List.getElem?_eq_some_iff.1 hl).1
      rw [List.length_take, List.length_drop, List.length_nil] at length
      omega

variable [DecidableEq α]

theorem oldOf_runs (left right : List α) : oldOf (runs left right) = left :=
  (runsFrom_aligned (aligned_matchingBlocks left right)).1

theorem newOf_runs (left right : List α) : newOf (runs left right) = right :=
  (runsFrom_aligned (aligned_matchingBlocks left right)).2.1

theorem separated_runs (left right : List α) : Separated (runs left right) :=
  (runsFrom_aligned (aligned_matchingBlocks left right)).2.2

end Runs

/-- The hunks lie over the sides `old` and `new`, which begin at the lines `i` and
`j`: lines that both sides share, then a hunk, and so on.  After a hunk that is not
the last one both sides have lines. -/
inductive Laid : Nat → Nat → List α → List α → List (Hunk α) → Prop where
  | shared (i j : Nat) (lines : List α) : Laid i j lines lines []
  | hunk {i j : Nat} (lines : List α) {runs : List (Run α)} {old new : List α}
      {hunks : List (Hunk α)} (separated : Separated runs)
      (more : hunks = [] ∨ old ≠ [] ∧ new ≠ [])
      (rest : Laid (i + lines.length + (oldOf runs).length)
        (j + lines.length + (newOf runs).length) old new hunks) :
      Laid i j (lines ++ (oldOf runs ++ old)) (lines ++ (newOf runs ++ new))
        (⟨i + lines.length, j + lines.length, runs⟩ :: hunks)

/-- A hunk seen from the other side. -/
def Hunk.flip (hunk : Hunk α) : Hunk α := ⟨hunk.newStart, hunk.oldStart, hunk.runs.map Run.flip⟩

namespace Laid

variable {i j : Nat} {old new : List α} {hunks : List (Hunk α)}

theorem flip (h : Laid i j old new hunks) : Laid j i new old (hunks.map Hunk.flip) := by
  induction h with
  | shared i j lines => exact .shared j i lines
  | @hunk i j lines runs old new hunks separated more _ ih =>
    rw [← newOf_map_flip, ← oldOf_map_flip runs] at *
    refine .hunk lines separated.flip ?_ ih
    rcases more with rfl | ⟨hold, hnew⟩
    · exact .inl rfl
    · exact .inr ⟨hnew, hold⟩

/-- Without a hunk the two sides are the same lines. -/
theorem eq_of_nil (h : Laid i j old new []) : old = new := by
  cases h
  rfl

end Laid

section Hunks

/-- What is left of runs without the end that `trimEnd` cuts off is the same lines on
both sides. -/
theorem trimEnd_spec (runs : List (Run α)) : ∃ tail : List α,
    oldOf runs = oldOf (trimEnd runs) ++ tail ∧ newOf runs = newOf (trimEnd runs) ++ tail := by
  fun_induction trimEnd runs with
  | case1 => exact ⟨[], rfl, rfl⟩
  | case2 lines =>
    refine ⟨lines.drop context, ?_, ?_⟩
    · simp [Run.old]
    · simp [Run.new]
  | case3 run rest _ ih =>
    obtain ⟨tail, old, new⟩ := ih
    exact ⟨tail, by rw [oldOf_cons, oldOf_cons, old, List.append_assoc],
      by rw [newOf_cons, newOf_cons, new, List.append_assoc]⟩

theorem separated_trimEnd {runs : List (Run α)} (h : Separated runs) :
    Separated (trimEnd runs) := by
  fun_induction trimEnd runs with
  | case1 => exact h
  | case2 lines =>
    refine ⟨?_, trivial⟩
    intro hn
    rcases List.take_eq_nil_iff.1 hn with hc | hl
    · cases hc
    · exact h.1 hl
  | case3 run rest _ ih =>
    have rest' := ih h.tail
    cases run with
    | kept => exact ⟨h.1, rest'⟩
    | changed =>
      refine ⟨?_, rest'⟩
      intro run hr
      cases rest with
      | nil => cases hr
      | cons next rest =>
        have kept := h.1 next rfl
        cases next with
        | changed => cases kept
        | kept lines =>
          cases rest with
          | nil => obtain rfl := Option.some.inj hr; rfl
          | cons => obtain rfl := Option.some.inj hr; rfl

/-- Kept lines between two hunks: those that the first ends with, those that no hunk
shows and those that the second begins with. -/
theorem cut_kept {lines : List α} (h : 2 * context < lines.length) :
    ∃ first middle last : List α, first ++ (middle ++ last) = lines ∧
      first.length = context ∧ last.length = context ∧ lines.take context = first ∧
      lines.drop (lines.length - context) = last := by
  refine ⟨lines.take context, (lines.drop context).take (lines.length - 2 * context),
    lines.drop (lines.length - context), ?_, ?_, ?_, rfl, rfl⟩
  · have last : lines.drop (lines.length - context) =
        (lines.drop context).drop (lines.length - 2 * context) := by
      rw [List.drop_drop, show context + (lines.length - 2 * context) = lines.length - context by omega]
    rw [last, List.take_append_drop, List.take_append_drop]
  · rw [List.length_take]
    omega
  · rw [List.length_drop]
    omega

variable {i j s t a b : Nat}

/-- A long run of kept lines ends one hunk and begins the next, and the lines between them
are shared. -/
theorem laid_cut {begun rest : List (Run α)} {first middle last shared tail : List α}
    {hunks : List (Hunk α)} (hf : first ≠ []) (hl : last ≠ [])
    (separated : Separated (begun ++ .kept (first ++ (middle ++ last)) :: rest))
    (behind : Laid (a + shared.length + (oldOf (begun ++ [.kept first])).length)
      (b + shared.length + (newOf (begun ++ [.kept first])).length)
      (middle ++ (oldOf ([.kept last] ++ rest) ++ tail))
      (middle ++ (newOf ([.kept last] ++ rest) ++ tail)) hunks) :
    Laid a b
      (shared ++ (oldOf (begun ++ .kept (first ++ (middle ++ last)) :: rest) ++ tail))
      (shared ++ (newOf (begun ++ .kept (first ++ (middle ++ last)) :: rest) ++ tail))
      (⟨a + shared.length, b + shared.length, begun ++ [.kept first]⟩ :: hunks) := by
  have old : oldOf (begun ++ .kept (first ++ (middle ++ last)) :: rest) ++ tail =
      oldOf (begun ++ [.kept first]) ++ (middle ++ (oldOf ([.kept last] ++ rest) ++ tail)) := by
    simp [Run.old]
  have new : newOf (begun ++ .kept (first ++ (middle ++ last)) :: rest) ++ tail =
      newOf (begun ++ [.kept first]) ++ (middle ++ (newOf ([.kept last] ++ rest) ++ tail)) := by
    simp [Run.new]
  rw [old, new]
  refine .hunk shared (separated.of_append.1.append_kept hf trivial) (.inr ⟨?_, ?_⟩) behind
  · simp [Run.old, hl]
  · simp [Run.new, hl]

/-- The hunks from some runs on, where the hunk begun lies after the lines `shared`
and `tail` follows the last run. -/
theorem laid_hunksFrom {begun rest : List (Run α)} (shared tail : List α)
    (hs : s = a + shared.length) (ht : t = b + shared.length)
    (hi : i = s + (oldOf begun).length) (hj : j = t + (newOf begun).length)
    (separated : Separated (begun ++ rest)) :
    Laid a b (shared ++ (oldOf (begun ++ rest) ++ tail)) (shared ++ (newOf (begun ++ rest) ++ tail))
      (hunksFrom i j s t begun rest) := by
  -- the runs before `rest` are in the hunk begun, so the induction is on those that are left
  induction rest generalizing begun shared i j s t a b with
  | nil =>
    rw [List.append_nil] at *
    rw [hunksFrom, hunkOf]
    split
    · rename_i kept
      rw [newOf_eq_oldOf kept]
      exact .shared a b _
    · subst hs ht
      exact .hunk shared separated (.inl rfl) (.shared _ _ tail)
  | cons run rest ih =>
    have go : ∀ (i' j' : Nat), i' = i + run.old.length → j' = j + run.new.length →
        Laid a b (shared ++ (oldOf (begun ++ run :: rest) ++ tail))
          (shared ++ (newOf (begun ++ run :: rest) ++ tail))
          (hunksFrom i' j' s t (begun ++ [run]) rest) := by
      intro i' j' hi' hj'
      rw [List.append_cons] at separated ⊢
      refine ih shared hs ht ?_ ?_ separated
      · rw [hi', hi, oldOf_append, List.length_append, oldOf_cons, oldOf_nil, List.append_nil]
        omega
      · rw [hj', hj, newOf_append, List.length_append, newOf_cons, newOf_nil, List.append_nil]
        omega
    cases run with
    | changed removed added => exact go _ _ rfl rfl
    | kept lines =>
      rw [hunksFrom]
      split
      · rename_i long
        obtain ⟨first, middle, last, rfl, hf, hl, first_eq, last_eq⟩ := cut_kept long
        rw [first_eq, last_eq]
        rw [hs, ht]
        have some : ∀ {lines : List α}, lines.length = context → lines ≠ [] := by
          rintro _ hc rfl
          cases hc
        refine laid_cut (some hf) (some hl) separated
          (ih middle ?_ ?_ ?_ ?_ ⟨some hl, separated.of_append.2.2⟩)
        all_goals
          simp only [oldOf_append, newOf_append, oldOf_cons, newOf_cons, oldOf_nil, newOf_nil,
            Run.old, Run.new, List.length_append, List.length_nil, hf, hl]
          simp only [List.length_append, hf, hl] at long
          omega
      · exact go _ _ rfl rfl

theorem laid_trimmed {begun rest : List (Run α)} (shared : List α) (hs : s = shared.length)
    (hi : i = s + (oldOf begun).length) (hj : j = s + (newOf begun).length)
    (separated : Separated (begun ++ trimEnd rest)) :
    Laid 0 0 (shared ++ oldOf (begun ++ rest)) (shared ++ newOf (begun ++ rest))
      (hunksFrom i j s s begun (trimEnd rest)) := by
  obtain ⟨tail, old, new⟩ := trimEnd_spec rest
  have hs' := hs.trans (Nat.zero_add _).symm
  have laid := laid_hunksFrom shared tail hs' hs' hi hj separated
  rwa [oldOf_append, newOf_append, List.append_assoc (oldOf begun), ← old,
    List.append_assoc (newOf begun), ← new, ← oldOf_append, ← newOf_append] at laid

/-- **The hunks of runs lie over the sides of the runs.** -/
theorem laid_hunks {runs : List (Run α)} (h : Separated runs) :
    Laid 0 0 (oldOf runs) (newOf runs) (hunks runs) := by
  rw [hunks.eq_def]
  split
  · rename_i lines rest
    split
    · exact .shared 0 0 _
    · show Laid 0 0 (lines ++ oldOf rest) (lines ++ newOf rest)
        (hunksFrom lines.length lines.length (lines.length - context) (lines.length - context)
          [.kept (lines.drop (lines.length - context))] (trimEnd rest))
      -- the first hunk begins with the last of the lines in common, those before are passed over
      have cut := List.take_append_drop (lines.length - context) lines
      generalize hf : lines.take (lines.length - context) = first at cut
      generalize lines.drop (lines.length - context) = last at cut ⊢
      have skipped : lines.length - context = first.length := by
        rw [← hf, List.length_take]
        omega
      have total : lines.length = lines.length - context + last.length := by
        rw [skipped, ← List.length_append, cut]
      have some : last ≠ [] := by
        rintro rfl
        have pos := List.length_pos_iff.2 h.1
        have : context = 3 := rfl
        rw [List.length_nil] at total
        omega
      have last_eq : (oldOf [.kept last]).length = last.length := by simp [Run.old]
      have laid : Laid 0 0 _ _ (hunksFrom lines.length lines.length (lines.length - context)
          (lines.length - context) [.kept last] (trimEnd rest)) :=
        laid_trimmed first skipped (last_eq ▸ total) (last_eq ▸ total)
          ⟨some, separated_trimEnd h.2⟩
      have whole : ∀ more : List α, lines ++ more = first ++ (last ++ more) := by
        intro more
        rw [← List.append_assoc, cut]
      rw [whole, whole]
      exact laid
  · have laid : Laid 0 0 _ _ (hunksFrom 0 0 0 0 [] (trimEnd runs)) :=
      laid_trimmed [] rfl rfl rfl (separated_trimEnd h)
    exact laid

end Hunks

end Reimport.Diff
