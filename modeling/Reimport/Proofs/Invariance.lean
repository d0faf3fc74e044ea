import Reimport.Proofs.Results

/-!
# What actions preserve

An action maintains a property if it holds afterwards, however the action ends, whenever it
held before (`Maintains`).  Of two runs of one action, begun in two states, one speaks of a
relation instead: they end alike if they give the same value or fail the same way, in states
that are related as the first ones were (`Alike`), and an action is uniform if this is so from
all related states, so that it cannot tell them apart (`Uniform`).  Either way a row of actions
does what its parts do, and a property or relation has to be looked at once for each primitive
action.
-/
namespace Reimport

/-! ## Properties -/

/-- If the property holds before the action it holds after it, however it ends. -/
def Maintains {ε σ α : Type} (P : σ → Prop) (action : EStateM ε σ α) : Prop :=
  ∀ state, P state → P (reached (action state))

namespace Maintains
variable {ε σ α β : Type} {P : σ → Prop}

theorem pure (value : α) : Maintains P (pure value : EStateM ε σ α) := fun _ h => h

theorem throw (error : ε) : Maintains P (throw error : EStateM ε σ α) := fun _ h => h

/-- What holds after a first action holds after the next ones that maintain it. -/
theorem after {first : EStateM ε σ α} {next : α → EStateM ε σ β} {state : σ}
    (hn : ∀ a, Maintains P (next a)) (h : P (reached (first state))) :
    P (reached ((first >>= next) state)) := by
  rw [bind_eq]
  cases hf : first state with
  | ok a middle =>
    rw [hf] at h
    exact hn a middle h
  | error e middle =>
    rw [hf] at h
    exact h

theorem bind {first : EStateM ε σ α} {next : α → EStateM ε σ β} (hf : Maintains P first)
    (hn : ∀ a, Maintains P (next a)) : Maintains P (first >>= next) :=
  fun state hp => after hn (hf state hp)

/-- What an action gives may be used for what follows it. -/
theorem bind_of_ok {first : EStateM ε σ α} {next : α → EStateM ε σ β} (hf : Maintains P first)
    (hn : ∀ state a after, P state → first state = .ok a after → P (reached (next a after))) :
    Maintains P (first >>= next) := by
  intro state hp
  have middle := hf state hp
  rw [bind_eq]
  cases h : first state with
  | ok a after => exact hn state a after hp h
  | error e after =>
    rw [h] at middle
    exact middle

/-- A step that touches the world alone does to it what its action does. -/
theorem world_act (action : Act α) (session : Session) :
    (reached (Session.act action session)).world = reached (action session.world) := by
  rw [Session.act]
  split <;> rename_i h <;> rw [h] <;> rfl

theorem act {Q : World → Prop} {action : Act α} (h : Maintains Q action) :
    Maintains (fun session : Session => Q session.world) (Session.act action) := by
  intro session hq
  rw [world_act]
  exact h session.world hq

theorem ask {Q : World → Prop} (question : FileTree → Place → Except FileError α) :
    Maintains Q (Act.ask question) := by
  intro world h
  rw [Act.ask]
  split <;> exact h

end Maintains

/-! ## What is said -/

/-- Whether the property holds does not depend on what was said. -/
def Lasting (P : World → Prop) : Prop :=
  ∀ world text, P world → P { world with stderr := world.stderr ++ text }

namespace Maintains
variable {P : World → Prop} (lasting : Lasting P)
include lasting

theorem emit (text : Text) : Maintains P (Act.emit text) := fun world => lasting world text

theorem complainVerbatim (text ending : Text) : Maintains P (Act.complainVerbatim text ending) :=
  emit lasting _

theorem complain (message : Text) : Maintains P (Act.complain message) := by
  rw [Act.complain]
  split
  · exact emit lasting _
  · exact .throw _

theorem log (level : Console.Level) (message : Text) : Maintains P (Act.log level message) := by
  rw [Act.log]
  split
  · exact emit lasting _
  · exact .throw _

theorem explainCommands (reproduction : Reproduction) :
    Maintains P (Session.explainCommands reproduction) :=
  .bind (complain lasting _) fun _ => .bind (complain lasting _) fun _ =>
    .bind (complain lasting _) fun _ => .bind (complainVerbatim lasting _ _) fun _ =>
    .bind (complain lasting _) fun _ => complainVerbatim lasting _ _

theorem explainBreakdown (phase : Text) (breakdown : Breakdown) :
    Maintains P (Session.explainBreakdown phase breakdown) :=
  .bind (.bind (complain lasting _) fun _ => .bind (complain lasting _) fun _ =>
    .bind (complain lasting _) fun _ => .bind (complainVerbatim lasting _ _) fun _ =>
    .bind (complain lasting _) fun _ => .bind (complain lasting _) fun _ =>
    complainVerbatim lasting _ _) fun _ => explainCommands lasting _

theorem explainMismatch (entry : Entry) (reproduction : Reproduction) (diff : Text) :
    Maintains P (Session.explainMismatch entry reproduction diff) :=
  .bind (complain lasting _) fun _ => .bind (log lasting _ _) fun _ =>
    .bind (complainVerbatim lasting _ _) fun _ => explainCommands lasting _

/-- Recording an outcome does to the world what explaining it does. -/
theorem record (outcome : Outcome) :
    Maintains (fun session : Session => P session.world) (Session.record (.outcome outcome)) := by
  have count : Maintains (fun session : Session => P session.world)
      (Session.count (·.after outcome)) := fun _ h => h
  have get : Maintains (fun session : Session => P session.world)
      (do return (← get).tally.halted : Step Bool) := fun _ h => h
  refine .bind count fun _ => ?_
  cases outcome with
  | passed _ => exact .bind (fun _ h => h) fun _ => get
  | uncompilable _ => exact get
  | mismatched _ _ _ => exact .bind (act (explainMismatch lasting _ _ _)) fun _ => get
  | exportFailed _ => exact .bind (act (explainBreakdown lasting _ _)) fun _ => .throw _
  | importFailed _ => exact .bind (act (explainBreakdown lasting _ _)) fun _ => .throw _

end Maintains

/-! ## Relations -/

section Relations
variable {ε σ α β : Type}

/-- Two results are alike: both are values, related by `V`, or the same failure, and the
states reached are related by `R`. -/
inductive Alike (V : α → α → Prop) (R : σ → σ → Prop) :
    EStateM.Result ε σ α → EStateM.Result ε σ α → Prop
  | ok {a b : α} {s t : σ} : V a b → R s t → Alike V R (.ok a s) (.ok b t)
  | error {e : ε} {s t : σ} : R s t → Alike V R (.error e s) (.error e t)

/-- An action cannot tell related states apart. -/
def Uniform (R : σ → σ → Prop) (action : EStateM ε σ α) : Prop :=
  ∀ s t, R s t → Alike Eq R (action s) (action t)

variable {V : α → α → Prop} {W : β → β → Prop} {R : σ → σ → Prop}

theorem Alike.of_ok {a : α} {s : σ} {result : EStateM.Result ε σ α}
    (h : Alike V R (.ok a s) result) : ∃ b t, result = .ok b t ∧ V a b ∧ R s t := by
  cases h with
  | ok hv hr => exact ⟨_, _, rfl, hv, hr⟩

theorem Alike.of_error {e : ε} {s : σ} {result : EStateM.Result ε σ α}
    (h : Alike V R (.error e s) result) : ∃ t, result = .error e t ∧ R s t := by
  cases h with
  | error hr => exact ⟨_, rfl, hr⟩

theorem Alike.mono {S : σ → σ → Prop} {result result' : EStateM.Result ε σ α}
    (h : Alike V R result result') (weaker : ∀ s t, R s t → S s t) : Alike V S result result' := by
  cases h with
  | ok hv hr => exact .ok hv (weaker _ _ hr)
  | error hr => exact .error (weaker _ _ hr)

/-- What follows alike on what went alike goes alike. -/
theorem Alike.bind {first first' : EStateM ε σ α} {next next' : α → EStateM ε σ β} {s t : σ}
    (h : Alike V R (first s) (first' t))
    (hn : ∀ a b s t, V a b → R s t → Alike W R (next a s) (next' b t)) :
    Alike W R ((first >>= next) s) ((first' >>= next') t) := by
  rw [bind_eq, bind_eq]
  generalize first s = result, first' t = result' at h
  cases h with
  | ok hv hr => exact hn _ _ _ _ hv hr
  | error hr => exact .error hr

namespace Uniform

theorem pure (value : α) : Uniform R (pure value : EStateM ε σ α) := fun _ _ h => .ok rfl h

theorem throw (error : ε) : Uniform R (throw error : EStateM ε σ α) := fun _ _ h => .error h

theorem bind {first : EStateM ε σ α} {next : α → EStateM ε σ β} (hf : Uniform R first)
    (hn : ∀ a, Uniform R (next a)) : Uniform R (first >>= next) :=
  fun s t h => (hf s t h).bind fun a _ s t hv hr => hv ▸ hn a s t hr

end Uniform
end Relations

/-! ## What is said in related worlds -/

/-- Sessions that show the same and count the same, in related worlds. -/
structure Session.Abreast (R : World → World → Prop) (session other : Session) : Prop where
  world : R session.world other.world
  stdout : session.stdout = other.stdout
  tally : session.tally = other.tally

theorem Alike.act {α : Type} {R : World → World → Prop} {action action' : Act α}
    {session other : Session} (abreast : Session.Abreast R session other)
    (alike : Alike Eq R (action session.world) (action' other.world)) :
    Alike Eq (Session.Abreast R) (Session.act action session) (Session.act action' other) := by
  rw [Session.act, Session.act]
  generalize action session.world = result, action' other.world = result' at alike
  cases alike with
  | ok hv hr => exact .ok hv ⟨hr, abreast.stdout, abreast.tally⟩
  | error hr => exact .error ⟨hr, abreast.stdout, abreast.tally⟩

theorem Uniform.act {α : Type} {R : World → World → Prop} {action : Act α}
    (h : Uniform R action) : Uniform (Session.Abreast R) (Session.act action) :=
  fun _ _ abreast => .act abreast (h _ _ abreast.world)

/-- Worlds stay related when the same is said in both. -/
def Echoed (R : World → World → Prop) : Prop :=
  ∀ world other text, R world other →
    R { world with stderr := world.stderr ++ text } { other with stderr := other.stderr ++ text }

namespace Echoed
variable {R : World → World → Prop} (echoed : Echoed R)
include echoed

theorem emit (text : Text) : Uniform R (Act.emit text) :=
  fun world other h => .ok rfl (echoed world other text h)

theorem complainVerbatim (text ending : Text) : Uniform R (Act.complainVerbatim text ending) :=
  echoed.emit _

theorem complain (message : Text) : Uniform R (Act.complain message) := by
  rw [Act.complain]
  split
  · exact echoed.emit _
  · exact .throw _

theorem log (level : Console.Level) (message : Text) : Uniform R (Act.log level message) := by
  rw [Act.log]
  split
  · exact echoed.emit _
  · exact .throw _

theorem explainCommands (reproduction : Reproduction) :
    Uniform R (Session.explainCommands reproduction) :=
  .bind (echoed.complain _) fun _ => .bind (echoed.complain _) fun _ =>
    .bind (echoed.complain _) fun _ => .bind (echoed.complainVerbatim _ _) fun _ =>
    .bind (echoed.complain _) fun _ => echoed.complainVerbatim _ _

theorem explainBreakdown (phase : Text) (breakdown : Breakdown) :
    Uniform R (Session.explainBreakdown phase breakdown) :=
  .bind (.bind (echoed.complain _) fun _ => .bind (echoed.complain _) fun _ =>
    .bind (echoed.complain _) fun _ => .bind (echoed.complainVerbatim _ _) fun _ =>
    .bind (echoed.complain _) fun _ => .bind (echoed.complain _) fun _ =>
    echoed.complainVerbatim _ _) fun _ => echoed.explainCommands _

theorem explainMismatch (entry : Entry) (reproduction : Reproduction) (diff : Text) :
    Uniform R (Session.explainMismatch entry reproduction diff) :=
  .bind (echoed.complain _) fun _ => .bind (echoed.log _ _) fun _ =>
    .bind (echoed.complainVerbatim _ _) fun _ => echoed.explainCommands _

/-- Recording an outcome shows and counts the same in both sessions. -/
theorem record (outcome : Outcome) :
    Uniform (Session.Abreast R) (Session.record (.outcome outcome)) := by
  have count : Uniform (Session.Abreast R) (Session.count (·.after outcome)) :=
    fun _ _ h => .ok rfl ⟨h.world, h.stdout, congrArg (·.after outcome) h.tally⟩
  have pass : Uniform (Session.Abreast R) (Session.print Session.passMark []) :=
    fun _ _ h => .ok rfl ⟨h.world, congrArg (· ++ _) h.stdout, h.tally⟩
  have halted : Uniform (Session.Abreast R) (do return (← get).tally.halted : Step Bool) :=
    fun _ _ h => .ok (congrArg Tally.halted h.tally) h
  refine .bind count fun _ => ?_
  cases outcome with
  | passed _ => exact .bind pass fun _ => halted
  | uncompilable _ => exact halted
  | mismatched _ _ _ => exact .bind (.act (echoed.explainMismatch _ _ _)) fun _ => halted
  | exportFailed _ => exact .bind (.act (echoed.explainBreakdown _ _)) fun _ => .throw _
  | importFailed _ => exact .bind (.act (echoed.explainBreakdown _ _)) fun _ => .throw _

end Echoed

end Reimport
