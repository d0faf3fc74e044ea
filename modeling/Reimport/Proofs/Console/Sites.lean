import Reimport.Proofs.CommandLine.SoundCorpus
import Reimport.Proofs.Console.Messages

/-!
# Where values from outside are shown

What a run says on the standard error is composed of messages about values from outside
(`Console.Message`), of headings of its own and of texts that are printed as they are.  For each
place where a value is shown this module says which message that is, and puts what is said there
together: about the roots of a corpus (`Corpus.world_of_discover`), the artifacts
(`Walk.keepArtifacts_eq`), the outcome of an entry (`Session.world_of_record`) and a finding that ends
the run (`CommandLine.Check.says_explain`).
-/
namespace Reimport
open Console (Message newline)
open Markup (kept source)

namespace Act.Says
variable {first second : Act Unit} {text more : Text}

/-- What two actions say is said in their order. -/
theorem bind (hf : first.Says text) (hs : second.Says more) :
    Act.Says (first >>= fun _ => second) (text ++ more) := by
  intro world
  rw [bind_of_ok (hf world), hs, List.append_assoc]

theorem verbatim (text ending : Text) :
    (Act.complainVerbatim text ending).Says (Console.verbatim text ending) := fun _ => rfl

/-- A heading in the style of errors. -/
theorem heading (text : Text)
    (plain : text.all (fun c => Markup.isOrdinary c && Terminal.canShow c) = true) :
    (Act.complain (source [.opens "error", .fixed text, .closes "error"])).Says
      (text ++ newline) := by
  have all : ∀ c ∈ text, Markup.isOrdinary c = true ∧ Terminal.canShow c = true := fun c hc => by
    simpa using List.all_eq_true.1 plain c hc
  have rendered : Markup.render (source [.opens "error", .fixed text, .closes "error"]) =
      .ok (text ++ []) :=
    Markup.render_parts (.opens Markup.isNamed_error (.fixed (fun c hc => (all c hc).1)
      (.closes Markup.isNamed_error .done)))
  have shown : Console.styled (source [.opens "error", .fixed text, .closes "error"]) newline =
      .ok (text ++ newline) := by
    rw [Console.styled, rendered, List.append_nil]
    show Except.ok (Terminal.display text ++ newline) = _
    rw [Terminal.display_of_canShow fun c hc => (all c hc).2]
  intro world
  rw [Act.complain, shown]
  rfl

theorem blank : (Act.complain []).Says newline := fun _ => rfl

/-- What an action has said of a session's world. -/
theorem act (h : first.Says text) (session : Session) :
    Session.act first session =
      .ok () { session with world := { session.world with stderr := session.world.stderr ++ text } } :=
  Session.act_of_ok (h session.world)

end Act.Says

/-! ## The outcome of an entry -/

/-- The messages about an outcome. -/
def Outcome.messages : Outcome → List Message
  | .passed _ | .uncompilable _ => []
  | .mismatched entry reproduction _ => [.mismatch entry, .directory reproduction.workdir]
  | .exportFailed breakdown =>
    [.breakdown "export" breakdown.entry, .directory breakdown.reproduction.workdir]
  | .importFailed breakdown =>
    [.breakdown "import" breakdown.entry, .directory breakdown.reproduction.workdir]

namespace Session

/-- What is said about how a round trip can be repeated. -/
def commandLines (reproduction : Reproduction) : Text :=
  .join [(Message.directory reproduction.workdir).line kept,
    "Used commands for test:" ++ newline,
    "# export" ++ newline,
    Console.verbatim ("$ " ++ Shell.render reproduction.exportCommand) newline,
    "# import" ++ newline,
    Console.verbatim ("$ " ++ Shell.render reproduction.importCommand) newline]

/-- What is said about a failed compiler call. -/
def breakdownLines (phase : Text) (breakdown : Breakdown) : Text :=
  .join [(Message.breakdown phase breakdown.entry).line kept, newline,
    "stderr:" ++ newline, Console.verbatim breakdown.stderr (lineEnd breakdown.stderr), newline,
    "stdout:" ++ newline, Console.verbatim breakdown.stdout (lineEnd breakdown.stdout)]

/-- What is said about an outcome. -/
def explanation : Outcome → Text
  | .passed _ | .uncompilable _ => []
  | .mismatched entry reproduction diff =>
    .join [newline, (Message.mismatch entry).line kept, Console.verbatim diff newline,
      commandLines reproduction]
  | .exportFailed breakdown =>
    breakdownLines "export" breakdown ++ commandLines breakdown.reproduction
  | .importFailed breakdown =>
    breakdownLines "import" breakdown ++ commandLines breakdown.reproduction

theorem says_explainCommands {reproduction : Reproduction}
    (unended : (Message.directory reproduction.workdir).Unended) :
    (explainCommands reproduction).Says (commandLines reproduction) := by
  have said := (Message.says_send unended).bind <|
    (Act.Says.heading "Used commands for test:" (by decide)).bind <|
    (Act.Says.heading "# export" (by decide)).bind <|
    (Act.Says.verbatim ("$ " ++ Shell.render reproduction.exportCommand) newline).bind <|
    (Act.Says.heading "# import" (by decide)).bind <|
    Act.Says.verbatim ("$ " ++ Shell.render reproduction.importCommand) newline
  simp only [commandLines, Text.join_cons, Text.join_nil, List.append_nil]
  exact said

theorem says_explainMismatch {entry : Entry} {reproduction : Reproduction} (diff : Text)
    (named : (Message.mismatch entry).Unended)
    (located : (Message.directory reproduction.workdir).Unended) :
    (explainMismatch entry reproduction diff).Says
      (explanation (.mismatched entry reproduction diff)) := by
  have said := Act.Says.blank.bind <| (Message.says_send named).bind <|
    (Act.Says.verbatim diff newline).bind (says_explainCommands located)
  simp only [explanation, Text.join_cons, Text.join_nil, List.append_nil]
  exact said

theorem says_explainStreams (phase : Text) {breakdown : Breakdown}
    (named : (Message.breakdown phase breakdown.entry).Unended) :
    (explainStreams
      (.join ["ERROR: AST ", phase, " failed for input file ", breakdown.entry.text, "."])
      breakdown.stderr breakdown.stdout).Says (breakdownLines phase breakdown) := by
  have said := (Message.says_send named).bind <| Act.Says.blank.bind <|
    (Act.Says.heading "stderr:" (by decide)).bind <|
    (Act.Says.verbatim breakdown.stderr (lineEnd breakdown.stderr)).bind <|
    Act.Says.blank.bind <|
    (Act.Says.heading "stdout:" (by decide)).bind <|
    Act.Says.verbatim breakdown.stdout (lineEnd breakdown.stdout)
  simp only [breakdownLines, Text.join_cons, Text.join_nil, List.append_nil] at said ⊢
  exact said

theorem says_explainBreakdown (phase : Text) {breakdown : Breakdown}
    (named : (Message.breakdown phase breakdown.entry).Unended)
    (located : (Message.directory breakdown.reproduction.workdir).Unended) :
    (explainBreakdown phase breakdown).Says
      (breakdownLines phase breakdown ++ commandLines breakdown.reproduction) :=
  (says_explainStreams phase named).bind (says_explainCommands located)

/-- **Recording an outcome says what there is to say about it**, and nothing else happens to the
world. -/
theorem world_of_record {outcome : Outcome} (unended : ∀ message ∈ outcome.messages, message.Unended)
    (session : Session) :
    (reached (record (.outcome outcome) session)).world =
      { session.world with stderr := session.world.stderr ++ explanation outcome } := by
  have nothing : { session.world with stderr := session.world.stderr ++ [] } = session.world := by
    rw [List.append_nil]
  cases outcome with
  | passed entry => exact nothing.symm
  | uncompilable entry => exact nothing.symm
  | mismatched entry reproduction diff =>
    have said := says_explainMismatch diff (unended _ (.head _)) (unended _ (.tail _ (.head _)))
    rw [record_mismatched, bind_of_ok (said.act _)]
    rfl
  | exportFailed breakdown =>
    have said := says_explainBreakdown "export" (unended _ (.head _))
      (unended _ (.tail _ (.head _)))
    rw [record_exportFailed, bind_of_ok (said.act _)]
    rfl
  | importFailed breakdown =>
    have said := says_explainBreakdown "import" (unended _ (.head _))
      (unended _ (.tail _ (.head _)))
    rw [record_importFailed, bind_of_ok (said.act _)]
    rfl

end Session
/-! ## The artifacts of an entry -/

namespace Walk

/-- The message about artifacts, by how copying them to a directory has ended. -/
def artifactsMessage? (entry : Entry) (target : Path) :
    EStateM.Result FileError FileTree (List FileTree.CopyFault) → Option Message
  | .ok [] _ => some (.saved entry target)
  | .ok (fault :: faults) _ => some (.incomplete entry fault faults)
  | .error (.system cause path) _ => some (.refused entry cause path)
  | .error _ _ => none

/-- **Keeping the artifacts says how that has ended**, if there is a message about it. -/
theorem keepArtifacts_eq {walk : Walk} {index : Nat} {entry : Entry} {workdir artifacts : Path}
    {world : World} {message : Message} (kept : walk.artifacts = some artifacts)
    (ends : artifactsMessage? entry (artifactPath artifacts index entry)
      (FileTree.copyTree world.cwd FileTree.pathLimit workdir
        (artifactPath artifacts index entry) world.tree) = some message) :
    walk.keepArtifacts index entry workdir world =
      message.send { world with
        tree := reached (FileTree.copyTree world.cwd FileTree.pathLimit workdir
          (artifactPath artifacts index entry) world.tree) } := by
  obtain ⟨_, _, copies, kept, keeps⟩ := keeps kept index entry workdir world
  rw [copies] at ends ⊢
  rw [kept]
  cases keeps with
  | whole tree =>
    cases ends
    rfl
  | incomplete fault faults tree =>
    cases ends
    rfl
  | refused cause path tree =>
    cases ends
    rfl
  | @mishap error other tree =>
    cases error with
    | system cause path => exact absurd rfl (other cause path)
    | _ => cases ends

/-- Without a message there is a mishap. -/
theorem keepArtifacts_unsaid {walk : Walk} {index : Nat} {entry : Entry}
    {workdir artifacts : Path} {world : World} (kept : walk.artifacts = some artifacts)
    (ends : artifactsMessage? entry (artifactPath artifacts index entry)
      (FileTree.copyTree world.cwd FileTree.pathLimit workdir
        (artifactPath artifacts index entry) world.tree) = none) :
    ∃ error after, walk.keepArtifacts index entry workdir world = .error (.file error) after := by
  obtain ⟨_, _, copies, kept, keeps⟩ := keeps kept index entry workdir world
  rw [copies] at ends
  rw [kept]
  cases keeps with
  | whole tree => cases ends
  | incomplete fault faults tree => cases ends
  | refused cause path tree => cases ends
  | mishap other tree => exact ⟨_, _, rfl⟩

end Walk

/-! ## The roots of a corpus -/

namespace Corpus

/-- The roots that are no directories. -/
def missingRoots (tree : FileTree) (cwd : Place) (roots : List Path) : List Path :=
  roots.filter fun root =>
    match tree.isDirectory cwd root with
    | .ok false => true
    | _ => false

/-- What is said about roots that are missing. -/
def notices (tree : FileTree) (cwd : Place) (roots : List Path) : Text :=
  (missingRoots tree cwd roots).flatMap fun root => (Message.missing root).line kept

variable {extension : Text} {excluded : List Name} {world after : World}

theorem notices_cons (tree : FileTree) (cwd : Place) (root : Path) (roots : List Path) :
    notices tree cwd (root :: roots) = notices tree cwd [root] ++ notices tree cwd roots := by
  rw [notices, notices, notices, ← List.flatMap_append, missingRoots, missingRoots, missingRoots,
    ← List.filter_append, List.singleton_append]

theorem world_of_gather {paths found entered : List Path}
    (h : gather excluded found paths world = .ok entered after) : after = world := by
  induction paths generalizing found with
  | nil =>
    cases h
    rfl
  | cons path rest ih =>
    obtain ⟨answer, asked, ha, hg⟩ := bind_ok.1 h
    obtain ⟨-, same⟩ := Act.ask_ok.1 ha
    rw [same] at hg
    split at hg
    · exact ih hg
    · obtain ⟨place, resolved, hp, hg⟩ := bind_ok.1 hg
      obtain ⟨-, same⟩ := Act.ask_ok.1 hp
      rw [same] at hg
      exact ih hg

theorem log_missing (root : Path) :
    Act.log .warning
        (.join ["Corpus directory not found: [path]", Markup.escape root.text, "[/path]"]) =
      (Message.missing root).send := by
  symm
  exact Message.send_logged rfl (by simp [Message.parts, source, Markup.Part.source])

/-- One more root is searched, or it is said that it is missing. -/
theorem world_of_addRoot {root : Path} {found entered : List Path}
    (unended : (Message.missing root).Unended)
    (h : addRoot extension excluded found root world = .ok entered after) :
    after = { world with stderr := world.stderr ++ notices world.tree world.cwd [root] } := by
  obtain ⟨answer, asked, ha, hr⟩ := bind_ok.1 h
  obtain ⟨directory, same⟩ := Act.ask_ok.1 ha
  rw [same] at hr
  cases answer with
  | true =>
    have quiet : notices world.tree world.cwd [root] = [] := by
      simp [notices, missingRoots, directory]
    rw [if_pos rfl] at hr
    rw [quiet, List.append_nil]
    cases cut : Glob.components? ('*' :: extension) with
    | none =>
      rw [cut] at hr
      cases hr
    | some components =>
      rw [cut] at hr
      obtain ⟨paths, searched, hm, hg⟩ := bind_ok.1 hr
      rw [(Act.ask_ok.1 hm).2] at hg
      exact world_of_gather hg
  | false =>
    have noticed : notices world.tree world.cwd [root] = (Message.missing root).line kept := by
      simp [notices, missingRoots, directory]
    rw [if_neg Bool.false_ne_true] at hr
    obtain ⟨_, noted, hs, hr⟩ := bind_ok.1 hr
    cases hr
    rw [log_missing, Message.says_send unended world] at hs
    cases hs
    rw [noticed]

/-- The roots are gone through one after the other: by induction on those still to come. -/
theorem world_of_addRoots {roots found entered : List Path}
    (unended : ∀ root ∈ roots, (Message.missing root).Unended)
    (h : roots.foldlM (addRoot extension excluded) found world = .ok entered after) :
    after = { world with stderr := world.stderr ++ notices world.tree world.cwd roots } := by
  induction roots generalizing found world with
  | nil =>
    cases h
    simp [notices, missingRoots]
  | cons root roots ih =>
    rw [List.foldlM_cons] at h
    obtain ⟨_, middle, hr, h⟩ := bind_ok.1 h
    have first := world_of_addRoot (unended root List.mem_cons_self) hr
    have rest := ih (fun other ho => unended other (List.mem_cons_of_mem _ ho)) h
    rw [rest, first, notices_cons _ _ root roots]
    simp only [List.append_assoc]

/-- **Looking for a corpus says which roots are missing**, and nothing else happens to the
world. -/
theorem world_of_discover {roots : List Path} {corpus : List Entry}
    (unended : ∀ root ∈ roots, (Message.missing root).Unended)
    (h : discover roots extension excluded world = .ok corpus after) :
    after = { world with stderr := world.stderr ++ notices world.tree world.cwd roots } := by
  obtain ⟨_, _, hf, h⟩ := bind_ok.1 h
  cases h
  exact world_of_addRoots unended hf

end Corpus

/-! ## The command -/

namespace CommandLine.Check

/-- What is said about a finding. -/
def explanation : Abort → Text
  | .splitter fault =>
    newline ++ (Message.finding fault.message).line kept ++
      if fault.output ≠ [] then Console.verbatim (.join ["\n\n", fault.output, "\n\n"]) newline
      else []
  | cause => (Message.finding cause.message).line kept

theorem log_finding (wording : Text) :
    Act.log .error (Markup.escape wording) = (Message.finding wording).send :=
  (Message.send_logged rfl (List.append_nil _)).symm

/-- **A finding about the tools is explained.** -/
theorem says_explain {cause : Abort} (unended : (Message.finding cause.message).Unended) :
    (explain cause).Says (explanation cause) := by
  have finding := Message.says_send unended
  rw [← log_finding] at finding
  cases cause with
  | splitter fault =>
    have output : Act.Says
        (if fault.output ≠ [] then
          Act.complainVerbatim (.join ["\n\n", fault.output, "\n\n"]) newline
        else pure ())
        (if fault.output ≠ [] then Console.verbatim (.join ["\n\n", fault.output, "\n\n"]) newline
        else []) := by
      split
      · exact .verbatim _ _
      · intro world
        rw [List.append_nil]
        rfl
    rw [explanation, List.append_assoc]
    exact Act.Says.blank.bind (finding.bind output)
  | _ => exact finding

/-- The compiler is announced by a message. -/
theorem log_announcement (settings : Settings) (version : Text) :
    Act.log .info (announcement settings version) =
      (Message.compiler settings.compiler (banner version)).send := by
  symm
  exact Message.send_logged rfl (by
    simp [announcement, Message.parts, source, Markup.Part.source])

/-- A report that is written is announced by a message. -/
theorem log_report (path : Path) :
    Act.log .success (.join ["Round-trip report saved to [path]", Markup.escape path.text,
        "[/path]"]) = (Message.report path).send := by
  symm
  exact Message.send_logged rfl (by simp [Message.parts, source, Markup.Part.source])

end CommandLine.Check
end Reimport
