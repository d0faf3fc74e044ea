import Reimport.Proofs.FileTree.Following
import Reimport.Proofs.Walk.Visits

/-!
# What keeping the artifacts can meet

What is said about artifacts holds names and reasons from outside, and it can always be shown
(`sure_kept`, `sure_incomplete`, `sure_refused`).  A copy that the system refuses is reported.  So
keeping the artifacts meets one mishap and no other: a path that holds a NUL
(`keepArtifacts_error`).
-/
namespace Reimport

/-! ## Changes of files and circles of links -/

namespace FileTree
variable {α β : Type} {cwd : Place}

/-- A change of files does not look for circles of links. -/
def Change.Uncycled (action : Change α) : Prop :=
  ∀ tree e after, action tree = .error e after → ∀ path, e ≠ .linkCycle path

theorem system_ne_linkCycle (cause : SystemError) (path other : Text) :
    FileError.system cause path ≠ .linkCycle other := by
  intro h
  cases h

theorem placeOf_uncycled {tree : FileTree} {followLast : Bool} {path : Path} {e : FileError}
    (h : tree.placeOf cwd followLast path = .error e) (other : Text) : e ≠ .linkCycle other := by
  obtain ⟨-, rfl⟩ | ⟨-, cause, rfl, -⟩ := placeOf_error h
  · nofun
  · exact system_ne_linkCycle cause path.text other

namespace Change.Uncycled

theorem pure (value : α) : Uncycled (pure value : Change α) := fun _ _ _ h => nomatch h

theorem bind {first : Change α} {next : α → Change β} (hf : Uncycled first)
    (hn : ∀ a, Uncycled (next a)) : Uncycled (first >>= next) := by
  intro tree e after h
  rcases bind_error.1 h with h | ⟨a, middle, -, h⟩
  · exact hf tree e after h
  · exact hn a middle e after h

theorem foldlM {names : List α} {step : β → α → Change β} (h : ∀ b a, Uncycled (step b a))
    (start : β) : Uncycled (names.foldlM step start) := by
  induction names generalizing start with
  | nil => exact .pure start
  | cons name rest ih => exact .bind (h start name) ih

theorem makeDirectory (path : Path) : Uncycled (makeDirectory cwd path) := by
  intro tree e after h
  rw [FileTree.makeDirectory] at h
  split at h
  · rename_i hp
    cases h
    exact placeOf_uncycled hp
  · split at h
    · cases h
      nofun
    · cases h

theorem ensureDirectory (path : Path) : Uncycled (ensureDirectory cwd path) := by
  intro tree e after h
  rw [FileTree.ensureDirectory] at h
  split at h
  · cases h
  · rename_i hm
    split at h
    · cases h
    · cases h
      exact makeDirectory path tree _ _ hm

theorem makeWay (path : Path) : Uncycled (makeWay cwd path) := by
  induction hl : path.parts.length using Nat.strongRecOn generalizing path with
  | ind count shorter =>
  intro tree e after h
  rw [FileTree.makeWay] at h
  split at h
  · split at h
    · exact ensureDirectory path tree e after h
    · have fewer : path.parent.parts.length < count := by
        simp only [Path.parent, List.length_dropLast]
        omega
      split at h
      · exact ensureDirectory path _ e after h
      · rename_i hm
        cases h
        exact shorter _ fewer path.parent rfl tree _ _ hm
      · exact ensureDirectory path _ e after h
  · exact ensureDirectory path tree e after h

theorem list (source : Path) : Uncycled (inspect (·.list cwd source)) := by
  intro tree e after h
  rw [inspect] at h
  split at h
  · cases h
  · rename_i hl
    cases h
    rw [FileTree.list] at hl
    cases hp : tree.placeOf cwd true source with
    | error cause =>
      rw [hp] at hl
      cases hl
      exact placeOf_uncycled hp
    | ok place =>
      rw [hp] at hl
      simp only [Bind.bind, Except.bind] at hl
      split at hl <;> cases hl <;> exact system_ne_linkCycle _ _

theorem reporting (source target : Path) (copy : Change (List CopyFault)) :
    Uncycled (reporting source target copy) := by
  intro tree e after h
  rw [FileTree.reporting] at h
  split at h <;> cases h
  nofun

theorem copyTree (depth : Nat) (source target : Path) : Uncycled (copyTree cwd depth source target) := by
  cases depth with
  | zero =>
    intro tree e after h
    cases h
    nofun
  | succ depth =>
    exact .bind (list source) fun names => .bind (makeWay target) fun _ =>
      .foldlM (fun faults name => .bind (reporting _ _ _) fun _ => .pure _) []

end Change.Uncycled
end FileTree

/-! ## What is said about artifacts -/

namespace Walk

/-- A reason for which something was not kept begins with a bracket that begins no tag. -/
theorem sure_notKept (entry : Entry) {rest : Text} (h : Markup.tag? rest = none) :
    (notKept entry ('[' :: rest)).Sure := by
  have shown := Markup.render_reason (Console.Level.warning.symbol ++
    ("Could not preserve artifacts for " : Text)) (Session.plain_of_all (by decide)) entry.name h
  refine .log ?_
  simpa [Text.join] using shown

theorem message_system (cause : SystemError) (path : Text) :
    ∃ rest, (FileError.system cause path).message = '[' :: rest ∧ Markup.tag? rest = none :=
  ⟨_, rfl, rfl⟩

theorem report_cons (fault : FileTree.CopyFault) (faults : List FileTree.CopyFault) :
    ∃ rest, FileTree.CopyFault.report (fault :: faults) = '[' :: rest ∧ Markup.tag? rest = none := by
  cases faults <;> exact ⟨_, rfl, rfl⟩

/-- What could not be copied can be said. -/
theorem sure_incomplete (entry : Entry) (fault : FileTree.CopyFault)
    (faults : List FileTree.CopyFault) :
    (notKept entry (FileTree.CopyFault.report (fault :: faults))).Sure := by
  obtain ⟨rest, bracket, untagged⟩ := report_cons fault faults
  rw [bracket]
  exact sure_notKept entry untagged

/-- That the system refuses the copy can be said. -/
theorem sure_refused (entry : Entry) (cause : SystemError) (path : Text) :
    (notKept entry (FileError.system cause path).message).Sure := by
  obtain ⟨rest, bracket, untagged⟩ := message_system cause path
  rw [bracket]
  exact sure_notKept entry untagged

/-- Where artifacts were kept can be said. -/
theorem sure_kept (entry : Entry) (target : Path) :
    (Act.log .info (.join ["Artifacts for ", Markup.escape entry.name, " preserved in [path]",
        Markup.escape target.text, "[/path]"])).Sure := by
  have shown := Markup.render_styled Markup.isNamed_path (Console.Level.info.symbol ++ ("Artifacts for " : Text))
    (Session.plain_of_all (by decide)) entry.name target.text ' ' "preserved in "
    (Session.plain_of_all (by decide)) (by decide) (by decide)
  refine .log ?_
  simpa [Text.join] using shown

/-- **Keeping the artifacts fails over a NUL in a path and over nothing else.** -/
theorem keepArtifacts_error {walk : Walk} {index : Nat} {entry : Entry} {workdir : Path}
    {world after : World} {failure : Failure}
    (h : walk.keepArtifacts index entry workdir world = .error failure after) :
    walk.artifacts ≠ none ∧ failure = .file .embeddedNul := by
  cases given : walk.artifacts with
  | none =>
    rw [keepArtifacts_of_none given] at h
    cases h
  | some artifacts =>
    refine ⟨nofun, ?_⟩
    obtain ⟨_, _, copies, ends, keeps⟩ := keeps given index entry workdir world
    rw [h] at ends
    cases keeps with
    | whole tree => exact absurd ends.symm (sure_kept entry _).ne_error
    | incomplete fault faults tree => exact absurd ends.symm (sure_incomplete entry _ _).ne_error
    | refused cause path tree => exact absurd ends.symm (sure_refused entry _ _).ne_error
    | @mishap error other tree =>
      cases ends
      cases error with
      | embeddedNul => rfl
      | linkCycle path =>
        exact absurd rfl (FileTree.Change.Uncycled.copyTree _ _ _ _ _ _ copies path)
      | system cause path => exact absurd rfl (other cause path)

end Walk
end Reimport
