import Reimport.Proofs.Results
import Reimport.RoundTrip

/-!
# What a round trip comes to

A round trip launches the compiler up to three times, and the statuses and outputs of
these launches decide its outcome.  `Sound` says of the launches alone when an entry is
in order: its sources are rejected, or they are exported and imported well and both
exports are the same text.  A round trip that comes to an outcome comes to one that is
no failure iff the launches are sound (`sound_iff`); where it comes to none, a file
could not be written, which is no finding about the compiler (`mild_check`).
-/
namespace Reimport.RoundTrip

/-- The world in which an export is imported: the export is in the working directory,
where the comparison puts it for whoever repeats the round trip and the compiler for
the import. -/
def supplied (workdir : Path) (exported : Text) (world : World) : World :=
  reached ((do keep workdir exportedName exported; keep workdir exportedName exported) world)

/-- The launches of a round trip in a world show no failure of the compiler. -/
inductive Sound (solc : Solc) (machine : Machine) (files : List Path) (workdir : Path)
    (world : World) : Prop where
  /-- Trying the compiler on the files does not end with the status 0. -/
  | rejected {probe : Invocation} {probed : World}
    (tried : Solc.run machine (solc.probeCommand files) (some workdir) world = .ok probe probed)
    (rejects : probe.status ≠ 0)
  /-- The compiler accepts the files, and their export and its import both end with the
  status 0 and with the same output. -/
  | agreeing {probe exported imported : Invocation} {probed written left : World}
    (tried : Solc.run machine (solc.probeCommand files) (some workdir) world = .ok probe probed)
    (accepts : probe.status = 0)
    (exports : Solc.run machine (solc.exportCommand files) (some workdir) probed =
      .ok exported written)
    (exportsWell : exported.status = 0)
    (imports : Solc.run machine (solc.importCommand ++ [exportedName]) (some workdir)
      (supplied workdir exported.stdout written) = .ok imported left)
    (importsWell : imported.status = 0)
    (equal : imported.stdout = exported.stdout)

section Launches
variable {solc : Solc} {machine : Machine} {entry : Entry} {files : List Path} {workdir : Path}
  {world after : World} {outcome : Outcome}

/-- Launching the compiler always gives an answer. -/
theorem run_ok (machine : Machine) (command : Command) (directory : Option Path)
    (world : World) : ∃ answer after, Solc.run machine command directory world = .ok answer after :=
  ⟨_, _, rfl⟩

theorem success_eq_true {invocation : Invocation} :
    invocation.success = true ↔ invocation.status = 0 := decide_eq_true_iff

theorem mild_run (machine : Machine) (command : Command) (directory : Option Path) :
    (Solc.run machine command directory).Mild :=
  .bind (.launch _ _ _) fun _ => .pure _

theorem mild_keep (workdir : Path) (name : Name) (content : Text) :
    (keep workdir name content).Mild :=
  .change _

theorem mild_compare (solc : Solc) (machine : Machine) (entry : Entry) (files : List Path)
    (workdir : Path) : (compare (solc.compiler machine) entry files workdir).Mild := by
  unfold compare
  refine .bind (mild_run _ _ _) fun exported => .bind (mild_keep _ _ _) fun _ => ?_
  split
  · exact .pure _
  refine .bind (.bind (.change _) fun _ => mild_run _ _ _) fun imported => ?_
  refine .bind (mild_keep _ _ _) fun _ => ?_
  split
  · exact .pure _
  · simp only
    split <;> exact .pure _

/-- Where a round trip comes to no outcome, that is no finding about the compiler. -/
theorem mild_check (solc : Solc) (machine : Machine) (entry : Entry) (files : List Path)
    (workdir : Path) : (check (solc.compiler machine) entry files workdir).Mild := by
  unfold check
  refine .bind (.bind (mild_run _ _ _) fun _ => .pure _) fun accepted => ?_
  split
  · exact mild_compare _ _ _ _ _
  · exact .pure _

/-- How a comparison comes to its outcome: each of its two launches fails, or the exports
differ, or they are equal. -/
theorem compare_cases
    (h : compare (solc.compiler machine) entry files workdir world = .ok outcome after) :
    ∃ exported written,
      Solc.run machine (solc.exportCommand files) (some workdir) world = .ok exported written ∧
      (exported.status ≠ 0 ∧
          outcome = .exportFailed ⟨entry, reproduction (solc.compiler machine) files workdir,
            exported.stderr, exported.stdout⟩ ∨
        exported.status = 0 ∧ ∃ imported left,
          Solc.run machine (solc.importCommand ++ [exportedName]) (some workdir)
            (supplied workdir exported.stdout written) = .ok imported left ∧
          (imported.status ≠ 0 ∧
              outcome = .importFailed ⟨entry, reproduction (solc.compiler machine) files workdir,
                imported.stderr, imported.stdout⟩ ∨
            imported.status = 0 ∧
              (imported.stdout ≠ exported.stdout ∧
                  (∃ diff, outcome = .mismatched entry
                    (reproduction (solc.compiler machine) files workdir) diff) ∨
                imported.stdout = exported.stdout ∧ outcome = .passed entry))) := by
  unfold compare at h
  obtain ⟨exported, written, hx, h⟩ := bind_ok.1 h
  obtain ⟨_, first, hk, h⟩ := bind_ok.1 h
  refine ⟨exported, written, hx, ?_⟩
  by_cases hs : exported.success = true
  · refine .inr ⟨success_eq_true.1 hs, ?_⟩
    rw [hs] at h
    obtain ⟨imported, left, hi, h⟩ := bind_ok.1 h
    obtain ⟨_, second, hk', hi⟩ := bind_ok.1 hi
    -- The export is written twice before the import: to be kept, and to be read.
    have hsupplied : supplied workdir exported.stdout written = second :=
      congrArg reached (bind_ok.2 ⟨_, first, hk, hk'⟩)
    refine ⟨imported, left, hsupplied ▸ hi, ?_⟩
    obtain ⟨_, third, _, h⟩ := bind_ok.1 h
    by_cases hs' : imported.success = true
    · refine .inr ⟨success_eq_true.1 hs', ?_⟩
      rw [hs'] at h
      by_cases he : exported.stdout = imported.stdout
      · rw [Diff.compare, if_pos he] at h
        cases h
        exact .inr ⟨he.symm, rfl⟩
      · rw [Diff.compare, if_neg he] at h
        cases h
        exact .inl ⟨Ne.symm he, _, rfl⟩
    · rw [if_pos (by simpa using hs')] at h
      cases h
      exact .inl ⟨mt success_eq_true.2 hs', rfl⟩
  · rw [if_pos (by simpa using hs)] at h
    cases h
    exact .inl ⟨mt success_eq_true.2 hs, rfl⟩

/-- A round trip asks the compiler first and goes on only if it accepts the files. -/
theorem check_cases
    (h : check (solc.compiler machine) entry files workdir world = .ok outcome after) :
    ∃ probe probed,
      Solc.run machine (solc.probeCommand files) (some workdir) world = .ok probe probed ∧
      (probe.status ≠ 0 ∧ outcome = .uncompilable entry ∨
        probe.status = 0 ∧
          compare (solc.compiler machine) entry files workdir probed = .ok outcome after) := by
  unfold check at h
  obtain ⟨accepted, probed, ha, h⟩ := bind_ok.1 h
  obtain ⟨probe, middle, hp, ha⟩ := bind_ok.1 ha
  cases ha
  refine ⟨probe, probed, hp, ?_⟩
  by_cases hs : probe.success = true
  · rw [if_pos hs] at h
    exact .inr ⟨success_eq_true.1 hs, h⟩
  · rw [if_neg hs] at h
    cases h
    exact .inl ⟨mt success_eq_true.2 hs, rfl⟩

/-- The outcome of a round trip belongs to its entry. -/
theorem entry_of_check
    (h : check (solc.compiler machine) entry files workdir world = .ok outcome after) :
    outcome.entry = entry := by
  obtain ⟨_, probed, _, ⟨_, rfl⟩ | ⟨_, hc⟩⟩ := check_cases h
  · rfl
  obtain ⟨_, _, _, ⟨_, rfl⟩ | ⟨_, _, _, _, hc⟩⟩ := compare_cases hc
  · rfl
  rcases hc with ⟨_, rfl⟩ | ⟨_, ⟨_, _, rfl⟩ | ⟨_, rfl⟩⟩
  · rfl
  · rfl
  · rfl

/-- **A round trip ends without a failure iff its launches show none.** -/
theorem sound_iff
    (h : check (solc.compiler machine) entry files workdir world = .ok outcome after) :
    Sound solc machine files workdir world ↔
      outcome = .passed entry ∨ outcome = .uncompilable entry := by
  obtain ⟨probe, probed, hp, hc⟩ := check_cases h
  constructor
  · intro sound
    cases sound with
    | rejected tried rejects =>
      cases hp.symm.trans tried
      rcases hc with ⟨_, ho⟩ | ⟨accepts, _⟩
      · exact .inr ho
      · exact absurd accepts rejects
    | agreeing tried accepts exports exportsWell imports importsWell equal =>
      cases hp.symm.trans tried
      rcases hc with ⟨rejects, _⟩ | ⟨_, hc⟩
      · exact absurd accepts rejects
      obtain ⟨exported, written, hx, hc⟩ := compare_cases hc
      cases hx.symm.trans exports
      rcases hc with ⟨fails, _⟩ | ⟨_, imported, left, hi, hc⟩
      · exact absurd exportsWell fails
      cases hi.symm.trans imports
      rcases hc with ⟨fails, _⟩ | ⟨_, ⟨differ, _⟩ | ⟨_, ho⟩⟩
      · exact absurd importsWell fails
      · exact absurd equal differ
      · exact .inl ho
  · intro fine
    rcases hc with ⟨rejects, _⟩ | ⟨accepts, hc⟩
    · exact .rejected hp rejects
    obtain ⟨exported, written, hx, hc⟩ := compare_cases hc
    rcases hc with ⟨_, rfl⟩ | ⟨exportsWell, imported, left, hi, hc⟩
    · simp at fine
    rcases hc with ⟨_, rfl⟩ | ⟨importsWell, ⟨_, diff, rfl⟩ | ⟨equal, _⟩⟩
    · simp at fine
    · simp at fine
    · exact .agreeing hp accepts hx exportsWell hi importsWell equal

end Launches
end Reimport.RoundTrip
