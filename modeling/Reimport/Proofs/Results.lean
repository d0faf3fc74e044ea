import Reimport.Session

/-!
# Results of steps

A step of a run ends with a value or with a failure, and either way it has
reached a state.  `reached` is that state.  A sequence of steps ends well iff its
parts do (`bind_ok`) and fails iff one of them does (`bind_error`), and a step
that touches the world alone leaves the rest of the session as it was (`act_cases`).
A failure is a finding about the tools or a mishap in the work, and most actions can
only meet mishaps (`Act.Mild`).  Most actions launch no program either (`Act.Quiet`).
-/
namespace Reimport

section Sequences
variable {ε σ α β : Type} {first : EStateM ε σ α} {next : α → EStateM ε σ β}
  {start final : σ} {value : β} {error : ε}

/-- The state that a step has reached, however it ended. -/
def reached : EStateM.Result ε σ α → σ
  | .ok _ state => state
  | .error _ state => state

@[simp] theorem reached_ok (value : α) (state : σ) :
    reached (.ok value state : EStateM.Result ε σ α) = state := rfl

@[simp] theorem reached_error (error : ε) (state : σ) :
    reached (.error error state : EStateM.Result ε σ α) = state := rfl

theorem bind_eq (first : EStateM ε σ α) (next : α → EStateM ε σ β) (start : σ) :
    (first >>= next) start =
      match first start with
      | .ok value middle => next value middle
      | .error error middle => .error error middle := rfl

theorem bind_ok :
    (first >>= next) start = .ok value final ↔
      ∃ a middle, first start = .ok a middle ∧ next a middle = .ok value final := by
  rw [bind_eq]
  cases h : first start with
  | ok a middle =>
    constructor
    · exact fun hn => ⟨a, middle, rfl, hn⟩
    · rintro ⟨b, other, hb, hn⟩
      cases hb
      exact hn
  | error e middle => simp

theorem bind_error :
    (first >>= next) start = .error error final ↔
      first start = .error error final ∨
        ∃ a middle, first start = .ok a middle ∧ next a middle = .error error final := by
  rw [bind_eq]
  cases h : first start with
  | ok a middle =>
    constructor
    · exact fun hn => .inr ⟨a, middle, rfl, hn⟩
    · rintro (hb | ⟨b, other, hb, hn⟩)
      · cases hb
      · cases hb
        exact hn
  | error e middle => simp

theorem bind_of_ok {a : α} {middle : σ} (h : first start = .ok a middle) :
    (first >>= next) start = next a middle := by
  rw [bind_eq, h]

theorem bind_of_error (h : first start = .error error final) :
    (first >>= next) start = .error error final := by
  rw [bind_eq, h]

@[simp] theorem pure_eq (a : α) (start : σ) :
    (pure a : EStateM ε σ α) start = .ok a start := rfl

@[simp] theorem throw_eq (e : ε) (start : σ) :
    (throw e : EStateM ε σ α) start = .error e start := rfl

end Sequences

/-- A sequence of questions is answered iff each of them is. -/
theorem except_bind_ok {ε α β : Type} {first : Except ε α} {next : α → Except ε β} {value : β} :
    (first >>= next) = .ok value ↔ ∃ a, first = .ok a ∧ next a = .ok value := by
  cases first with
  | error e => exact ⟨fun h => (nomatch h), fun ⟨_, h, _⟩ => (nomatch h)⟩
  | ok a =>
    constructor
    · exact fun h => ⟨a, rfl, h⟩
    · rintro ⟨_, ⟨⟩, h⟩
      exact h

namespace Act
variable {α : Type} {world after : World} {value : α}

/-- A question that is answered leaves the world as it is. -/
theorem ask_ok {question : FileTree → Place → Except FileError α} :
    ask question world = .ok value after ↔
      question world.tree world.cwd = .ok value ∧ after = world := by
  rw [ask]
  cases question world.tree world.cwd with
  | error e => simp
  | ok a => simp [eq_comm]

/-- A change of the files that succeeds leaves the rest of the world as it is. -/
theorem change_ok {change : Place → FileTree.Change α} :
    Act.change change world = .ok value after ↔
      ∃ tree, change world.cwd world.tree = .ok value tree ∧
        after = { world with tree := tree } := by
  rw [Act.change]
  cases change world.cwd world.tree with
  | error e tree => simp
  | ok a tree =>
    constructor
    · rintro ⟨⟩
      exact ⟨tree, rfl, rfl⟩
    · rintro ⟨tree, ⟨⟩, rfl⟩
      rfl

/-- Logging leaves the files as they are. -/
theorem log_ok {level : Console.Level} {message : Text} {done : Unit}
    (h : log level message world = .ok done after) :
    after.tree = world.tree ∧ after.cwd = world.cwd := by
  unfold log at h
  cases hl : Console.logged level message with
  | error fault =>
    rw [hl] at h
    cases h
  | ok text =>
    rw [hl] at h
    cases h
    exact ⟨rfl, rfl⟩

end Act

namespace Session
variable {α : Type} {action : Act α} {session : Session} {value : α} {failure : Failure}
  {world : World}

theorem act_of_ok (h : action session.world = .ok value world) :
    act action session = .ok value { session with world := world } := by
  rw [act, h]

theorem act_of_error (h : action session.world = .error failure world) :
    act action session = .error failure { session with world := world } := by
  rw [act, h]

/-- A step that touches the world alone ends as its action does. -/
theorem act_cases (action : Act α) (session : Session) :
    (∃ value world, action session.world = .ok value world ∧
        act action session = .ok value { session with world := world }) ∨
      ∃ failure world, action session.world = .error failure world ∧
        act action session = .error failure { session with world := world } := by
  cases h : action session.world with
  | ok value world => exact .inl ⟨value, world, rfl, act_of_ok h⟩
  | error failure world => exact .inr ⟨failure, world, rfl, act_of_error h⟩

/-- A sequence of actions is a sequence of steps. -/
theorem act_bind {α β : Type} (first : Act α) (next : α → Act β) :
    act (first >>= next) = act first >>= fun a => act (next a) := by
  funext session
  rw [bind_eq]
  cases h : first session.world with
  | ok value world =>
    rw [act_of_ok h]
    show _ = act (next value) { session with world := world }
    rw [act, bind_of_ok h]
    rfl
  | error failure world => rw [act_of_error h, act_of_error (bind_of_error h)]

end Session

/-! ## Work that finds no fault with the tools -/

/-- An action that fails, if it does, by a mishap in the work and not by a finding
about the tools. -/
def Act.Mild {α : Type} (action : Act α) : Prop :=
  ∀ world failure after, action world = .error failure after → failure.isAbort = false

namespace Act.Mild
variable {α β : Type}

theorem pure (value : α) : Mild (pure value : Act α) := by
  intro world failure after h
  cases h

theorem bind {first : Act α} {next : α → Act β} (hf : Mild first) (hn : ∀ a, Mild (next a)) :
    Mild (first >>= next) := by
  intro world failure after h
  rcases bind_error.mp h with h | ⟨a, middle, _, h⟩
  · exact hf world failure after h
  · exact hn a middle failure after h

theorem change (change : Place → FileTree.Change α) : Mild (Act.change change) := by
  intro world failure after h
  rw [Act.change] at h
  split at h
  · cases h
  · cases h
    rfl

theorem launch (machine : Machine) (command : Command) (directory : Option Path) :
    Mild (Act.launch machine command directory) := by
  intro world failure after h
  cases h

theorem emit (text : Text) : Mild (Act.emit text) := by
  intro world failure after h
  cases h

theorem log (level : Console.Level) (message : Text) : Mild (Act.log level message) := by
  intro world failure after h
  unfold Act.log at h
  cases hs : Console.logged level message with
  | ok text =>
    rw [hs] at h
    exact emit _ world failure after h
  | error fault =>
    rw [hs] at h
    cases h
    rfl

end Act.Mild

/-! ## Work that launches nothing -/

/-- An action that launches no program, however it ends. -/
def Act.Quiet {α : Type} (action : Act α) : Prop :=
  ∀ world, (reached (action world)).launches = world.launches

namespace Act.Quiet
variable {α β : Type}

theorem bind {first : Act α} {next : α → Act β} (hf : Quiet first) (hn : ∀ a, Quiet (next a)) :
    Quiet (first >>= next) := by
  intro world
  have hw := hf world
  rw [bind_eq]
  cases h : first world with
  | ok a middle =>
    rw [h] at hw
    exact (hn a middle).trans hw
  | error failure middle =>
    rw [h] at hw
    exact hw

theorem change (change : Place → FileTree.Change α) : Quiet (Act.change change) := by
  intro world
  rw [Act.change]
  split <;> rfl

theorem of_ok {action : Act α} (quiet : Quiet action) {world after : World} {value : α}
    (h : action world = .ok value after) : after.launches = world.launches := by
  rw [← quiet world, h, reached_ok]

theorem of_error {action : Act α} (quiet : Quiet action) {world after : World}
    {failure : Failure} (h : action world = .error failure after) :
    after.launches = world.launches := by
  rw [← quiet world, h, reached_error]

end Act.Quiet

end Reimport
