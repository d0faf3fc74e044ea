import Reimport.Proofs.FileTree.Copying
import Reimport.Proofs.Text.Decimal
import Reimport.Proofs.Walk.Keeping

/-!
# What is kept of a failing entry

The scratch directory of a failing entry is copied to a directory of its own among the artifacts,
as it was when the work on the entry ended (`Visit.leftBehind`).  The name of that directory tells
the number of the entry (`artifactName_inj`), so no other visit of the run touches it
(`Course.untouched`), and it holds at the end of the run what the copy made of it.

Copying merges.  So a directory that is said to hold the artifacts does hold the scratch directory
as it was iff all that stood there before the run fits it (`evidence_of_run`), and a file of an
earlier run stays among the evidence of this one (`stale_evidence`).
-/
namespace Reimport

/-- The files when the work on the entry has ended and nothing is kept of it yet. -/
def Visit.leftBehind (walk : Walk) (visit : Visit) : FileTree :=
  (reached (walk.attempt visit.entry visit.start.world)).tree

/-- The place where the scratch directory of the entry is kept, if artifacts are kept at `shelf`. -/
def Visit.goal (visit : Visit) (shelf : Place) : Place :=
  shelf ++ [Walk.artifactName visit.index visit.entry]

/-- The scratch directory of the visit is made at `root`. -/
structure Visit.WorksIn (walk : Walk) (visit : Visit) (workdir : Path) (root : Place) : Prop where
  make : ∃ made, Walk.makeScratch walk.scratchParent visit.start.world = .ok workdir made
  leads : visit.start.world.tree.placeOf visit.start.world.cwd false workdir = .ok root

/-- The entry fails, and its scratch directory, which was at `root`, is said to be preserved. -/
structure Visit.Reported (walk : Walk) (visit : Visit) (artifacts : Path) (root : Place) :
    Prop where
  given : walk.artifacts = some artifacts
  fails : visit.fails walk = true
  copied : ∃ workdir kept, visit.WorksIn walk workdir root ∧
    FileTree.copyTree visit.start.world.cwd FileTree.pathLimit workdir
      (Walk.artifactPath artifacts visit.index visit.entry) (visit.leftBehind walk) = .ok [] kept

theorem Visit.WorksIn.unique {walk : Walk} {visit : Visit} {workdir other : Path}
    {root place : Place} (h : visit.WorksIn walk workdir root)
    (h' : visit.WorksIn walk other place) : workdir = other ∧ root = place := by
  obtain ⟨⟨_, hm⟩, leads⟩ := h
  obtain ⟨⟨_, hm'⟩, leads'⟩ := h'
  rw [hm] at hm'
  cases hm'
  rw [leads] at leads'
  exact ⟨rfl, Except.ok.inj leads'⟩

theorem Visit.WorksIn.path {walk : Walk} {visit : Visit} {workdir : Path} {root : Place}
    (h : visit.WorksIn walk workdir root) :
    ∃ number, workdir = Walk.scratchPath walk.scratchParent number := by
  obtain ⟨⟨_, hm⟩, -⟩ := h
  simp only [Walk.makeScratch] at hm
  split at hm
  · cases hm
    exact ⟨_, rfl⟩
  · cases hm

namespace Walk

/-! ## The names of the artifacts -/

theorem takeWhile_artifactName (index : Nat) (entry : Entry) :
    (artifactName index entry).takeWhile Char.isDigit = Text.decimalPadded 5 index := by
  have apart : artifactName index entry =
      Text.decimalPadded 5 index ++ '_' :: entry.path.stem := by simp [artifactName, Text.join]
  rw [apart, List.takeWhile_append_of_pos fun _ h => Text.isDigit_of_mem_decimalPadded h,
    List.takeWhile_cons_of_neg (by decide), List.append_nil]

/-- **Different entries have different directories**, whatever their names are and however many
there are: the digits in front are the number of the entry, and an underscore ends them. -/
theorem artifactName_inj {index other : Nat} {entry next : Entry}
    (h : artifactName index entry = artifactName other next) : index = other := by
  rw [← Text.ofDecimalDigits_decimalPadded 5 index, ← Text.ofDecimalDigits_decimalPadded 5 other,
    ← takeWhile_artifactName index entry, ← takeWhile_artifactName other next, h]

/-- No directory of artifacts has the name of a scratch directory. -/
theorem artifactName_ne_scratch (index : Nat) (entry : Entry) (number : Nat) :
    artifactName index entry ≠ scratchStem ++ Text.decimalNat number := by
  intro he
  have digits := congrArg (List.takeWhile Char.isDigit) he
  have none : (scratchStem ++ Text.decimalNat number).takeWhile Char.isDigit = [] := rfl
  rw [takeWhile_artifactName, none] at digits
  obtain ⟨c, rest, hc, -⟩ := Text.decimalNat_eq_cons index
  rw [Text.decimalPadded, hc] at digits
  simp at digits

/-! ## The end of a visit -/

section Visits
variable {walk : Walk} {cwd root : Place} {artifacts workdir : Path} {visit : Visit}

/-- What is said of an outcome changes no files. -/
theorem files_work (walk : Walk) (entry : Entry) (workdir : Path) (session : Session) :
    OnFiles (reached (walk.process entry workdir session.world)).cwd
      (· = (reached (walk.process entry workdir session.world)).tree)
      (reached (walk.work entry workdir session)).world := by
  cases hp : walk.process entry workdir session.world with
  | error failure after =>
    rw [work_of_error hp]
    exact ⟨rfl, rfl⟩
  | ok outcome after =>
    rw [work, bind_of_ok (Session.act_of_ok hp)]
    have said := Maintains.bind
      (Maintains.record (lasting_onFiles after.cwd (· = after.tree)) outcome)
      (fun stop => .pure (outcome, stop))
    exact said { session with world := after } ⟨rfl, rfl⟩

/-- After the work on an entry its artifacts are kept iff it fails. -/
theorem world_step (walk : Walk) (index : Nat) (entry : Entry) (workdir : Path)
    (session : Session) :
    (reached (walk.step index entry workdir session)).world =
      if Twins.failing (walk.work entry workdir session) then
        reached (walk.keepArtifacts index entry workdir
          (reached (walk.work entry workdir session)).world)
      else (reached (walk.work entry workdir session)).world := by
  rw [Twins.step_work]
  cases walk.work entry workdir session with
  | error failure left =>
    dsimp only [reached_error]
    rw [settleFailure]
    split <;> rename_i ha
    · rw [world_abandon]
      exact (if_pos ha).symm
    · exact (if_neg ha).symm
  | ok done left =>
    obtain ⟨outcome, stop⟩ := done
    dsimp only [reached_ok]
    rw [settleOutcome]
    split <;> rename_i hm
    · rw [world_act_bind fun _ _ => rfl]
      exact (if_pos hm).symm
    · exact (if_neg hm).symm

/-- Removing the scratch directory removes all that is at its place. -/
theorem removeScratch_settled {before : FileTree} {world : World}
    (scratch : Scratch before cwd workdir root)
    (settled : OnFiles cwd (Settled walk before cwd root fun _ => True) world) :
    removeScratch workdir world = { world with tree := world.tree.removeBelow root } := by
  obtain ⟨hcwd, tree, working, built⟩ := settled
  rw [removeScratch, hcwd, built.keeps.placeOf (scratch.placeOf working false)]

/-- **How a visit ends**: it could make no scratch directory, or it removes the one in which it has
worked, of which the artifacts were kept before if the entry fails. -/
theorem ending_cases (contained : walk.Contained cwd fun _ => True)
    (plain : Path.dot ∉ walk.scratchParent.parts) (hcwd : visit.start.world.cwd = cwd)
    (wellFormed : visit.start.world.tree.WellFormed)
    (home : visit.start.world.tree.Stands cwd) :
    visit.fails walk = false ∧ (reached (visit.ending walk)).world = visit.start.world ∨
      ∃ workdir root left after, visit.WorksIn walk workdir root ∧
        Scratch visit.start.world.tree cwd workdir root ∧
        Working visit.start.world.tree root (fun _ => True) (visit.leftBehind walk) ∧
        left.cwd = cwd ∧ left.tree = visit.leftBehind walk ∧
        after = (if visit.fails walk then
          reached (walk.keepArtifacts visit.index visit.entry workdir left) else left) ∧
        (reached (visit.ending walk)).world = { after with tree := after.tree.removeBelow root } := by
  subst hcwd
  cases hm : makeScratch walk.scratchParent visit.start.world with
  | error failure after =>
    obtain rfl := makeScratch_error hm
    obtain ⟨outcome, fault, ending⟩ := Visit.of_unmade walk hm
    refine .inl ⟨?_, by rw [ending]; rfl⟩
    rw [Visit.fails, mismatchedIn, outcome, fault]
    rfl
  | ok workdir made =>
    obtain ⟨root, scratch, rfl⟩ := makeScratch_cases wellFormed home plain hm
    have fails := Twins.fails_eq walk hm
    obtain ⟨-, -, ending⟩ := Visit.of_made walk hm
    have left : visit.leftBehind walk =
        (reached (walk.process visit.entry workdir
          { visit.start.world with tree := visit.start.world.tree.put root .directory })).tree := by
      rw [Visit.leftBehind, attempt_eq, bind_of_ok hm]
    have onFiles : OnFiles visit.start.world.cwd
        (Working visit.start.world.tree root fun _ => True)
        { visit.start.world with tree := visit.start.world.tree.put root .directory } :=
      ⟨rfl, scratch.working_made _⟩
    have processed := contained scratch visit.entry onFiles
    have settled := settled_step contained scratch visit.index visit.entry { begun visit.start with
      world := { visit.start.world with tree := visit.start.world.tree.put root .directory } }
      onFiles
    have worked := files_work walk visit.entry workdir { begun visit.start with
      world := { visit.start.world with tree := visit.start.world.tree.put root .directory } }
    refine .inr ⟨workdir, root, _, _, ⟨⟨_, hm⟩, scratch.leads⟩, scratch, left ▸ processed.2,
      worked.1.trans processed.1, worked.2.trans left.symm, rfl, ?_⟩
    rw [ending, world_cleared, removeScratch_settled scratch settled, fails, world_step]

/-- A visit whose entry fails keeps the artifacts before it removes its scratch directory. -/
theorem ending_of_fails (contained : walk.Contained cwd fun _ => True)
    (plain : Path.dot ∉ walk.scratchParent.parts) (hcwd : visit.start.world.cwd = cwd)
    (wellFormed : visit.start.world.tree.WellFormed)
    (home : visit.start.world.tree.Stands cwd) (fails : visit.fails walk = true)
    (works : visit.WorksIn walk workdir root) :
    Scratch visit.start.world.tree cwd workdir root ∧
      Working visit.start.world.tree root (fun _ => True) (visit.leftBehind walk) ∧
      ∃ left kept, left.cwd = cwd ∧ left.tree = visit.leftBehind walk ∧
        kept = reached (walk.keepArtifacts visit.index visit.entry workdir left) ∧
        (reached (visit.ending walk)).world = { kept with tree := kept.tree.removeBelow root } := by
  rcases ending_cases contained plain hcwd wellFormed home with
    ⟨passes, -⟩ | ⟨workdir', root', left, after, works', scratch, working, hleft, tree, hafter, hworld⟩
  · rw [fails] at passes
    cases passes
  · obtain ⟨rfl, rfl⟩ := works.unique works'
    exact ⟨scratch, working, left, after, hleft, tree, by rw [hafter, if_pos fails], hworld⟩

end Visits

/-! ## What a visit does among the artifacts -/

/-- Artifacts are kept at `shelf`: their path leads there directly, no link is there, and it is in
no scratch directory that can come to be. -/
structure Shelved (walk : Walk) (cwd : Place) (artifacts : Path) (shelf : Place)
    (tree : FileTree) : Prop where
  wellFormed : tree.WellFormed
  home : tree.Stands cwd
  direct : tree.Direct cwd artifacts shelf
  unlinked : ∀ names, tree.linkTarget? (shelf ++ names) = none
  outside : ∀ number root, tree.Reaches cwd (scratchPath walk.scratchParent number) root →
    ¬ root <+: shelf

section Shelves
variable {walk : Walk} {cwd root shelf place : Place} {artifacts workdir : Path} {visit : Visit}

/-- No scratch directory of a visit is around the shelf. -/
theorem Shelved.apart
    (shelved : Shelved walk visit.start.world.cwd artifacts shelf visit.start.world.tree)
    (works : visit.WorksIn walk workdir root)
    (absent : visit.start.world.tree.node? root = none) : ¬ root <+: shelf := by
  obtain ⟨number, rfl⟩ := works.path
  exact shelved.outside number root
    (FileTree.reaches_of_placeOf works.leads (by rw [FileTree.linkTarget?, absent]))

section Left
variable {before tree : FileTree}
  (scratch : Scratch before cwd workdir root)
  (working : Working before root (fun _ => True) tree)
include scratch working

/-- Artifacts are kept at the same place while an entry is worked on. -/
theorem Shelved.of_working (shelved : Shelved walk cwd artifacts shelf before) :
    Shelved walk cwd artifacts shelf tree := by
  have same := scratch.links working
  refine ⟨working.wellFormed, scratch.stands_home working, shelved.direct.mono same ?_,
    fun names => (same _).trans (shelved.unlinked names), fun number root reaches =>
      shelved.outside number root (reaches.congr fun place => (same place).symm)⟩
  intro place hn
  by_cases hp : root <+: place
  · exact scratch.nothing hp
  · rwa [← working.outside place hp]

end Left

section Ends
variable (contained : walk.Contained visit.start.world.cwd fun _ => True)
  (plain : Path.dot ∉ walk.scratchParent.parts) (given : walk.artifacts = some artifacts)
  (shelved : Shelved walk visit.start.world.cwd artifacts shelf visit.start.world.tree)
include contained plain given shelved

/-- **A visit touches nothing but the place of its own artifacts**, and that only if its entry
fails, besides making the directories that are missing on the way there. -/
theorem ending_outside (hp : visit.fails walk = true → ¬ visit.goal shelf <+: place) :
    (reached (visit.ending walk)).world.tree.node? place = visit.start.world.tree.node? place ∨
      visit.start.world.tree.node? place = none ∧
        (reached (visit.ending walk)).world.tree.node? place = some .directory ∧
        place <+: shelf := by
  rcases ending_cases contained plain rfl shelved.wellFormed shelved.home with
    ⟨-, he⟩ | ⟨workdir, root, left, after, -, scratch, working, hcwd, hleft, hafter, hworld⟩
  · rw [he]
    exact .inl rfl
  rw [hworld]
  by_cases inside : root <+: place
  · rw [FileTree.node?_removeBelow_inside _ scratch.vacant.ne_nil inside, scratch.nothing inside]
    exact .inl rfl
  rw [FileTree.node?_removeBelow_outside _ inside, hafter, ← working.outside place inside]
  split
  · rename_i fails
    rw [(files_keepArtifacts given visit.index visit.entry workdir left).2, hcwd, hleft]
    have now := shelved.of_working scratch working
    have bare : ∀ names, (visit.leftBehind walk).linkTarget? (visit.goal shelf ++ names) = none := by
      intro names
      rw [Visit.goal, List.append_assoc]
      exact now.unlinked _
    have direct := now.direct.child (proper_artifactName visit.index visit.entry) (now.unlinked _)
    refine (FileTree.copyTree_outside now.wellFormed now.home direct bare (hp fails)).imp_right ?_
    rintro ⟨hn, hd, above⟩
    refine ⟨hn, hd, (List.prefix_concat_iff.1 above).resolve_left ?_⟩
    rintro rfl
    exact hp fails (List.prefix_refl _)
  · rw [hleft]
    exact .inl rfl

omit given in
/-- Artifacts are kept at the same place after a visit. -/
theorem Shelved.ending :
    (reached (visit.ending walk)).world.cwd = visit.start.world.cwd ∧
      Shelved walk visit.start.world.cwd artifacts shelf
        (reached (visit.ending walk)).world.tree := by
  obtain ⟨hcwd, preserved, wellFormed, -⟩ :=
    ending_preserved contained plain rfl rfl shelved.wellFormed shelved.home
  have keeps := FileTree.Added.keeps preserved
  refine ⟨hcwd, wellFormed, keeps.stands shelved.home, shelved.direct.mono keeps.link ?_,
    fun names => (keeps.link _).trans (shelved.unlinked names), fun number root reaches =>
      shelved.outside number root (reaches.congr fun place => (keeps.link place).symm)⟩
  intro place hn
  rcases preserved place with he | ⟨-, hn', -⟩ | ⟨-, -, new, hw⟩
  · rwa [he] at hn
  · exact hn'
  · rw [hn] at hw
    cases hw

/-- **What is kept of a failing entry** is its scratch directory as it was left iff all that stood
there before fits it. -/
theorem ending_mirrors (reported : visit.Reported walk artifacts root)
    (apart : ¬ visit.goal shelf <+: root) :
    (reached (visit.ending walk)).world.tree.Mirrors (visit.goal shelf) (visit.leftBehind walk)
        root ↔
      ∀ names node, visit.start.world.tree.node? (visit.goal shelf ++ names) = some node →
        ∃ other, (visit.leftBehind walk).node? (root ++ names) = some other ∧
          (node = .directory ↔ other = .directory) := by
  obtain ⟨-, fails, workdir, kept, works, copied⟩ := reported
  obtain ⟨scratch, working, left, after, hcwd, hleft, hafter, hworld⟩ :=
    ending_of_fails contained plain rfl shelved.wellFormed shelved.home fails works
  have htree : after.tree = kept := by
    rw [hafter, (files_keepArtifacts given visit.index visit.entry workdir left).2, hcwd, hleft,
      copied, reached_ok]
  have now := shelved.of_working scratch working
  -- The scratch directory and the place of the artifacts are apart.
  have aside : ¬ root <+: visit.goal shelf := fun hp =>
    (List.prefix_concat_iff.1 hp).elim (fun he => apart (he ▸ List.prefix_refl _))
      (shelved.apart works scratch.absent)
  have off : ∀ names, ¬ root <+: visit.goal shelf ++ names := fun names hp =>
    (List.prefix_or_prefix_of_prefix hp (List.prefix_append _ names)).elim aside apart
  have end' : ∀ names, (reached (visit.ending walk)).world.tree.node? (visit.goal shelf ++ names) =
      kept.node? (visit.goal shelf ++ names) := by
    intro names
    rw [hworld, FileTree.node?_removeBelow_outside _ (off names), htree]
  have before := fun names => working.outside (visit.goal shelf ++ names) (off names)
  have copyable : (visit.leftBehind walk).Copyable visit.start.world.cwd workdir
      (artifactPath artifacts visit.index visit.entry) root (visit.goal shelf) := by
    refine ⟨now.wellFormed, now.home, scratch.placeOf working true,
      now.direct.child (proper_artifactName _ _) (now.unlinked _),
      fun names => working.unlinked names trivial, fun names => ?_, aside, apart⟩
    rw [Visit.goal, List.append_assoc]
    exact now.unlinked _
  have holds := copyable.mirrors_iff_fits copied
  simp only [FileTree.Mirrors, FileTree.Fits, before] at holds
  simp only [FileTree.Mirrors, end']
  exact holds

end Ends
end Shelves

/-! ## A row of visits -/

section Courses
variable {walk : Walk} {cwd shelf place : Place} {artifacts : Path} {index : Nat}
  {corpus : List Entry} {session : Session} {visits : List Visit} {visit other : Visit}
  {result : EStateM.Result Failure Session Unit}

/-- Only the visits of one number have a place in common where they keep artifacts. -/
theorem index_eq_of_goal (h : visit.goal shelf <+: place) (h' : other.goal shelf <+: place) :
    visit.index = other.index := by
  have same : visit.goal shelf = other.goal shelf :=
    (List.prefix_of_prefix_length_le h h' (by simp [Visit.goal])).eq_of_length (by simp [Visit.goal])
  have name := (List.append_inj' same rfl).2
  exact artifactName_inj (List.cons.inj name).1

theorem not_prefix_shelf (h : visit.goal shelf <+: place) : ¬ place <+: shelf := by
  intro hp
  have := (h.trans hp).length_le
  simp [Visit.goal] at this

theorem Course.index_le (h : Course walk index corpus session visits result)
    (hm : visit ∈ visits) : index ≤ visit.index := by
  obtain ⟨k, hk⟩ := List.mem_iff_getElem?.1 hm
  have := (h.start hk).1
  omega

/-- No later visit has a place in common with this one where they keep artifacts. -/
theorem Course.off_of_later (later : Course walk (index + 1) corpus session visits result)
    (hm : other ∈ visits) (now : visit.index = index) (h : visit.goal shelf <+: place) :
    ¬ other.goal shelf <+: place := by
  intro h'
  have le := later.index_le hm
  have same := index_eq_of_goal h h'
  omega

section Kept
variable (contained : walk.Contained cwd fun _ => True)
  (plain : Path.dot ∉ walk.scratchParent.parts) (given : walk.artifacts = some artifacts)
include contained plain given

/-- **What no visit keeps there is left as it was**, by induction on the visits. -/
theorem Course.untouched (h : Course walk index corpus session visits result)
    (hcwd : session.world.cwd = cwd)
    (shelved : Shelved walk cwd artifacts shelf session.world.tree) (below : ¬ place <+: shelf)
    (off : ∀ visit ∈ visits, visit.fails walk = true → ¬ visit.goal shelf <+: place) :
    (reached result).world.tree.node? place = session.world.tree.node? place := by
  have one : ∀ {visit : Visit}, visit.start.world.cwd = cwd →
      Shelved walk cwd artifacts shelf visit.start.world.tree →
      (visit.fails walk = true → ¬ visit.goal shelf <+: place) →
      (reached (visit.ending walk)).world.tree.node? place =
        visit.start.world.tree.node? place := by
    rintro visit rfl shelved off
    exact (ending_outside contained plain given shelved off).resolve_right fun h => below h.2.2
  induction h with
  | done index session => rfl
  | @goesOn index entry rest session after visits result ending _ ih =>
    subst hcwd
    have first := one rfl shelved (off ⟨index, entry, session⟩ List.mem_cons_self)
    have ends := @Shelved.ending walk shelf artifacts ⟨index, entry, session⟩ contained plain shelved
    rw [ending] at first ends
    obtain ⟨hafter, shelved'⟩ := ends
    exact (ih hafter shelved' fun visit hm => off visit (List.mem_cons_of_mem _ hm)).trans first
  | halts ending =>
    have only := one hcwd shelved (off _ List.mem_cons_self)
    rwa [ending] at only
  | fails ending =>
    have only := one hcwd shelved (off _ List.mem_cons_self)
    rwa [ending] at only

/-- **Each visit finds the place of its artifacts as it was before the course, and what it leaves
there stays**, by induction on the visits. -/
theorem Course.keeps (h : Course walk index corpus session visits result)
    (hcwd : session.world.cwd = cwd)
    (shelved : Shelved walk cwd artifacts shelf session.world.tree) (hm : visit ∈ visits) :
    visit.start.world.cwd = cwd ∧
      Shelved walk cwd artifacts shelf visit.start.world.tree ∧
      ∀ place, visit.goal shelf <+: place →
        visit.start.world.tree.node? place = session.world.tree.node? place ∧
          (reached result).world.tree.node? place =
            (reached (visit.ending walk)).world.tree.node? place := by
  induction h with
  | done index session => cases hm
  | @goesOn index entry rest session after visits result ending more ih =>
    subst hcwd
    obtain ⟨hafter, shelved'⟩ :=
      @Shelved.ending walk shelf artifacts ⟨index, entry, session⟩ contained plain shelved
    have outside : ∀ place, _ := fun place => @ending_outside walk shelf place artifacts
      ⟨index, entry, session⟩ contained plain given shelved
    rcases List.mem_cons.1 hm with rfl | hm
    -- this visit: no later one comes to its place
    · refine ⟨rfl, shelved, fun place hp => ⟨rfl, ?_⟩⟩
      rw [ending] at hafter shelved' ⊢
      exact more.untouched contained plain given hafter shelved' (not_prefix_shelf hp)
        fun _ hl _ => more.off_of_later hl rfl hp
    -- a later one: this visit leaves its place as it was
    · rw [ending] at hafter shelved' outside
      obtain ⟨hvisit, now, kept⟩ := ih hafter shelved' hm
      refine ⟨hvisit, now, fun place hp => ⟨?_, (kept place hp).2⟩⟩
      rw [(kept place hp).1]
      have off : ¬ Visit.goal ⟨index, entry, session⟩ shelf <+: place :=
        fun h => more.off_of_later hm rfl h hp
      exact (outside place fun _ => off).resolve_right fun h => not_prefix_shelf hp h.2.2
  | halts ending =>
    rw [List.mem_singleton.1 hm, ending]
    exact ⟨hcwd, shelved, fun _ _ => ⟨rfl, rfl⟩⟩
  | fails ending =>
    rw [List.mem_singleton.1 hm, ending]
    exact ⟨hcwd, shelved, fun _ _ => ⟨rfl, rfl⟩⟩

end Kept
end Courses

/-! ## Runs -/

/-- That the artifacts of a visit were kept is the last that it says. -/
theorem said_of_reported {walk : Walk} {visit : Visit} {artifacts : Path} {root : Place}
    (contained : walk.Contained visit.start.world.cwd fun _ => True)
    (plain : Path.dot ∉ walk.scratchParent.parts)
    (wellFormed : visit.start.world.tree.WellFormed)
    (home : visit.start.world.tree.Stands visit.start.world.cwd)
    (reported : visit.Reported walk artifacts root) :
    ∃ said text, Console.logged .info (.join ["Artifacts for ", Markup.escape visit.entry.name,
        " preserved in [path]",
        Markup.escape (artifactPath artifacts visit.index visit.entry).text, "[/path]"]) =
          .ok text ∧
      (reached (visit.ending walk)).world.stderr = said ++ text := by
  obtain ⟨given, fails, workdir, kept, works, copied⟩ := reported
  obtain ⟨-, -, left, after, hcwd, hleft, hafter, hworld⟩ :=
    ending_of_fails contained plain rfl wellFormed home fails works
  obtain ⟨text, shown, logged⟩ :=
    Twins.log_of_sure (sure_kept visit.entry (artifactPath artifacts visit.index visit.entry))
      { left with tree := kept }
  refine ⟨left.stderr, text, shown, ?_⟩
  have keeps : walk.keepArtifacts visit.index visit.entry workdir left =
      .ok () { left with tree := kept, stderr := left.stderr ++ text } := by
    rw [← hcwd, ← hleft] at copied
    rw [keepArtifacts, given]
    simp only [copied]
    exact logged
  rw [hworld, hafter, keeps, reached_ok]

/-- What there is at the end of a run where a visit is said to have kept its scratch directory,
which was at `root`. -/
structure Kept (walk : Walk) (visit : Visit) (root goal : Place) (before after : FileTree) :
    Prop where
  /-- The entry was worked on in a directory. -/
  worked : (visit.leftBehind walk).node? root = some .directory
  /-- What is kept is just what that directory held iff whatever stood there before the run is
  among that, a directory as a directory and a file as a file. -/
  exact : after.Mirrors goal (visit.leftBehind walk) root ↔
    ∀ names node, before.node? (goal ++ names) = some node →
      ∃ other, (visit.leftBehind walk).node? (root ++ names) = some other ∧
        (node = .directory ↔ other = .directory)
  /-- Nothing that stood there goes away. -/
  older : ∀ names node, before.node? (goal ++ names) = some node →
    ∃ other, after.node? (goal ++ names) = some other ∧ (node = .directory ↔ other = .directory)

theorem kept_of_course {walk : Walk} {cwd root shelf : Place} {artifacts : Path} {index : Nat}
    {corpus : List Entry} {session : Session} {visits : List Visit} {visit : Visit}
    {result : EStateM.Result Failure Session Unit}
    (course : Course walk index corpus session visits result)
    (contained : walk.Contained cwd fun _ => True) (plain : Path.dot ∉ walk.scratchParent.parts)
    (hcwd : session.world.cwd = cwd)
    (shelved : Shelved walk cwd artifacts shelf session.world.tree) (hm : visit ∈ visits)
    (reported : visit.Reported walk artifacts root) (apart : ¬ visit.goal shelf <+: root) :
    Kept walk visit root (visit.goal shelf) session.world.tree (reached result).world.tree := by
  obtain ⟨rfl, now, same⟩ := course.keeps contained plain reported.given hcwd shelved hm
  have before := fun names => (same (visit.goal shelf ++ names) (List.prefix_append _ _)).1
  have after := fun names => (same (visit.goal shelf ++ names) (List.prefix_append _ _)).2
  refine ⟨?_, ?_, fun names node hn => ?_⟩
  · obtain ⟨-, fails, workdir, kept, works, copied⟩ := reported
    exact (ending_of_fails contained plain rfl now.wellFormed now.home fails works).2.1.directory
  · have exact := ending_mirrors contained plain reported.given now reported apart
    simp only [FileTree.Mirrors, before] at exact
    simp only [FileTree.Mirrors, after]
    exact exact
  · obtain ⟨preserved, -⟩ :=
      course.preserved contained plain hcwd shelved.wellFormed shelved.home
    rcases preserved (visit.goal shelf ++ names) with he | ⟨-, hn', -⟩ | ⟨-, hn', new, hw⟩
    · exact ⟨node, he.trans hn, Iff.rfl⟩
    · rw [hn'] at hn
      cases hn
    · refine ⟨.file new, hw, ?_⟩
      rcases hn' with hn' | ⟨old, hn'⟩ <;> rw [hn'] at hn <;> cases hn
      simp

/-- **What is kept of a failing entry** that is said to be preserved, at the end of the run: its
scratch directory as it was left, iff what an earlier run has left there fits. -/
theorem evidence_of_run {walk : Walk} {session : Session} {artifacts : Path} {shelf root : Place}
    {corpus : List Entry} {label : Text} {visit : Visit}
    (contained : walk.Contained session.world.cwd fun _ => True)
    (plain : Path.dot ∉ walk.scratchParent.parts)
    (shelved : Shelved walk session.world.cwd artifacts shelf session.world.tree)
    (hm : visit ∈ walk.runVisits corpus label session)
    (reported : visit.Reported walk artifacts root) (apart : ¬ visit.goal shelf <+: root) :
    Kept walk visit root (visit.goal shelf) session.world.tree
        (reached (walk.run corpus label session)).world.tree ∧
      ∃ said text, Console.logged .info (.join ["Artifacts for ",
          Markup.escape visit.entry.name, " preserved in [path]",
          Markup.escape (artifactPath artifacts visit.index visit.entry).text, "[/path]"]) =
            .ok text ∧
        (reached (visit.ending walk)).world.stderr = said ++ text := by
  rcases walk.run_cases corpus label session with ⟨_, _, hv, _⟩ | ⟨line, result, _, course, hr⟩
  · rw [hv] at hm
    cases hm
  obtain ⟨hcwd, now, -⟩ := course.keeps contained plain reported.given rfl shelved hm
  have kept := kept_of_course course contained plain rfl shelved hm reported apart
  rw [hr, world_finished]
  exact ⟨kept, said_of_reported (hcwd ▸ contained) plain now.wellFormed (hcwd ▸ now.home) reported⟩

/-! ### A directory that an earlier run has left -/

/-- Artifacts in `/k` are kept there, if no link is in the files. -/
theorem shelved_keepingWalk {others : List (Place × Node)}
    (wellFormed : (keepingSession others).world.tree.WellFormed)
    (unlinked : ∀ place, (keepingSession others).world.tree.linkTarget? place = none) :
    Shelved keepingWalk [] (Path.ofPlace [['k']]) [['k']] (keepingSession others).world.tree := by
  have straight : ∀ way : Place, (∀ name ∈ way, Path.IsProper name) →
      (keepingSession others).world.tree.IsStraight way :=
    fun way proper => ⟨proper, fun place _ => unlinked place⟩
  have proper : ∀ name ∈ ([['k']] : Place), Path.IsProper name := by
    simp only [Path.IsProper]
    decide
  have leads : (keepingSession others).world.tree.Reaches [] (Path.ofPlace [['k']]) [['k']] :=
    ⟨0, FileTree.leads_of_isStraight (straight ([] ++ [['k']]) proper)⟩
  refine ⟨wellFormed, FileTree.stands_nil _, leads.direct wellFormed proper, fun _ => unlinked _, ?_⟩
  intro number root reaches inside
  have scratch : (keepingSession others).world.tree.IsStraight
      [scratchStem ++ Text.decimalNat number] := by
    refine straight _ fun name hm => ?_
    rw [List.mem_singleton.1 hm]
    exact proper_scratch number
  obtain rfl := scratch.reaches_eq reaches
  obtain ⟨_, he⟩ := inside
  have first : some 'a' = some 'k' := congrArg List.head? (List.cons.inj he).1
  exact absurd first (by decide)

/-- The one visit of such a session. -/
def keepingVisit (others : List (Place × Node)) : Visit :=
  ⟨0, soleEntry, ⟨(keepingSession others).world, "Looking at 1 .sol files...\n",
    openTally [soleEntry] false⟩⟩

theorem runVisits_keeping (walk : Walk) (others : List (Place × Node)) :
    walk.runVisits [soleEntry] ".sol" (keepingSession others) = [keepingVisit others] :=
  runVisits_soleEntry _ _

theorem keepingVisit_mem (others : List (Place × Node)) :
    keepingVisit others ∈ keepingWalk.runVisits [soleEntry] ".sol" (keepingSession others) := by
  rw [runVisits_keeping]
  exact List.mem_cons_self

theorem goal_keepingVisit (others : List (Place × Node)) :
    (keepingVisit others).goal [['k']] = [['k'], "00000_e"] := by
  rw [Visit.goal, keepingVisit]
  cbv

theorem contained_keepingWalk (cwd : Place) : keepingWalk.Contained cwd fun _ => True :=
  contained_byMarkers (confined_refusing _ _) trivial trivial _ _ _

theorem reported_keepingVisit {others : List (Place × Node)} {artifacts : Path} {kept : FileTree}
    (done : HalfDone others)
    (copied : FileTree.copyTree [] FileTree.pathLimit (Path.ofPlace firstScratch)
      (artifactPath artifacts 0 soleEntry) (halfSplit others heldSource).tree = .ok [] kept) :
    (keepingVisit others).Reported (keepingAt artifacts) artifacts firstScratch ∧
      (keepingVisit others).leftBehind (keepingAt artifacts) =
        (halfSplit others heldSource).tree := by
  have make : makeScratch (keepingAt artifacts).scratchParent (keepingVisit others).start.world =
      .ok (Path.ofPlace firstScratch) (halfSplit others []) := done.made
  have left : (keepingVisit others).leftBehind (keepingAt artifacts) =
      (halfSplit others heldSource).tree := by
    rw [Visit.leftBehind, attempt_eq, bind_of_ok make]
    exact congrArg (fun result => (reached result).tree) (process_keepingWalk done)
  refine ⟨⟨rfl, ?_, _, kept, ⟨⟨_, make⟩, done.leads⟩, left ▸ copied⟩, left⟩
  rw [Twins.fails_eq _ make]
  have worked : (keepingAt artifacts).work soleEntry (Path.ofPlace firstScratch)
      { begun (keepingVisit others).start with world := halfSplit others [] } = _ :=
    work_of_error (process_keepingWalk done)
  exact (congrArg Twins.failing worked).trans rfl

/-- The visit finds the place of the artifacts free, and what it has made is kept there. -/
theorem reported_fresh :
    Shelved keepingWalk [] (Path.ofPlace [['k']]) [['k']] (keepingSession []).world.tree ∧
      (keepingVisit []).Reported keepingWalk (Path.ofPlace [['k']]) firstScratch := by
  have entries : ∀ entry ∈ (keepingSession []).world.tree.entries,
      (∀ name ∈ entry.1, Path.IsProper name) ∧
        (keepingSession []).world.tree.node? entry.1.dropLast = some .directory := by
    simp only [Path.IsProper]
    decide
  have unlinked : ∀ entry ∈ (keepingSession []).world.tree.entries,
      ∀ target, entry.2 ≠ .link target := by
    simp [keepingSession, freshSession]
  have copied : FileTree.copyTree [] FileTree.pathLimit (Path.ofPlace firstScratch)
      (artifactPath (Path.ofPlace [['k']]) 0 soleEntry) (halfSplit [] heldSource).tree =
      .ok [] ⟨(halfSplit [] heldSource).tree.entries ++ [([['k']], .directory),
        ([['k'], "00000_e"], .directory),
        ([['k'], "00000_e", ['x']], .file (Utf8.encode "new\n"))]⟩ := by
    cbv
  exact ⟨shelved_keepingWalk (FileTree.wellFormed_of_entries entries)
      (FileTree.unlinked_of_entries unlinked),
    (reported_keepingVisit halfDone_nil copied).1⟩

theorem evidence_of_run_keeping :
    ∃ visit root,
      visit ∈ keepingWalk.runVisits [soleEntry] ".sol" (keepingSession []) ∧
      visit.Reported keepingWalk (Path.ofPlace [['k']]) root ∧
      Kept keepingWalk visit root (visit.goal [['k']]) (keepingSession []).world.tree
        (reached (keepingWalk.run [soleEntry] ".sol" (keepingSession []))).world.tree := by
  obtain ⟨shelved, reported⟩ := reported_fresh
  have apart : ¬ (keepingVisit []).goal [['k']] <+: firstScratch := by
    rw [goal_keepingVisit]
    decide
  exact ⟨_, _, keepingVisit_mem [], reported, (evidence_of_run
    (contained_keepingWalk (keepingSession []).world.cwd) (by decide) shelved
    (keepingVisit_mem []) reported apart).1⟩

/-- A file that an earlier run has left where the artifacts of the entry are kept. -/
def staleFiles : List (Place × Node) :=
  [([['k']], .directory), ([['k'], "00000_e"], .directory),
    ([['k'], "00000_e", "old"], .file (Utf8.encode "old\n"))]

theorem halfDone_staleFiles : HalfDone staleFiles := ⟨by cbv, by cbv, by cbv, by cbv, by cbv⟩

/-- **What an earlier run has left stays among the artifacts of this one**, although the scratch
directory did not hold it, and the artifacts are said to be preserved. -/
theorem stale_evidence :
    ∃ visit root,
      visit ∈ keepingWalk.runVisits [soleEntry] ".sol" (keepingSession staleFiles) ∧
      visit.Reported keepingWalk (Path.ofPlace [['k']]) root ∧
      visit.goal [['k']] = [['k'], "00000_e"] ∧
      (visit.leftBehind keepingWalk).node? (root ++ [("old" : Name)]) = none ∧
      (reached (keepingWalk.run [soleEntry] ".sol" (keepingSession staleFiles))).world.tree.node?
        [['k'], "00000_e", "old"] = some (.file (Utf8.encode "old\n")) ∧
      (reached (keepingWalk.run [soleEntry] ".sol" (keepingSession []))).world.tree.node?
        [['k'], "00000_e", "old"] = none := by
  have copied : FileTree.copyTree [] FileTree.pathLimit (Path.ofPlace firstScratch)
      (artifactPath (Path.ofPlace [['k']]) 0 soleEntry) (halfSplit staleFiles heldSource).tree =
      .ok [] ⟨(halfSplit staleFiles heldSource).tree.entries ++
        [([['k'], "00000_e", ['x']], .file (Utf8.encode "new\n"))]⟩ := by
    cbv
  obtain ⟨reported, left⟩ := reported_keepingVisit halfDone_staleFiles copied
  rw [show keepingAt (Path.ofPlace [['k']]) = keepingWalk from rfl] at reported left
  refine ⟨_, _, keepingVisit_mem staleFiles, reported, goal_keepingVisit _, ?_, ?_, ?_⟩
  · rw [left]
    decide
  · rw [tree_of_keepingWalk halfDone_staleFiles rfl (by cbv)]
    cbv
  · rw [tree_of_keepingWalk halfDone_nil rfl (by cbv)]
    cbv

end Walk
end Reimport
