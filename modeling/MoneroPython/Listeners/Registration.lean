/-
# Registered listeners

`add_listener` takes a reference.  A wallet or a daemon of the core keeps a pointer to the listener,
`std::set<monero_wallet_listener*>`, and no binding keeps the Python object alive (there is no
`py::keep_alive`).  The object is freed with its last reference in Python, whether it is registered
or not.

So it is up to the program that no notification goes to a freed listener.  `usesAlive_iff` says what
it has to do: from the moment a registered listener has been dropped, the wallet or daemon must be
left alone.  `wallet.add_listener(MyListener())` drops it at once.
-/
import MoneroPython.Daemon.Calls
import MoneroPython.Lib.RawPointers
import MoneroPython.Wallet.Calls

namespace MoneroPython.Listeners

open RawPointers
open Wallet (WalletCall)
open Daemon (DaemonCall)

variable {ι κ ρ : Type}

/-! ## 1. What the core keeps -/

/-- The pointers to listeners that the implementations of `monero_wallet` and `monero_daemon` keep,
before and after a call.  It is assumed of them that every other operation leaves the pointers as
they are, `sync` with a listener and `close` included. -/
structure Core (ρ : Type) where
  wallet : Wallet.CoreCall ρ → Set ρ → Set ρ
  daemon : Daemon.CoreCall ρ → Set ρ → Set ρ
  wallet_addListener : ∀ l R, wallet (.addListener l) R = insert l R
  wallet_removeListener : ∀ l R, wallet (.removeListener l) R = R \ {l}
  wallet_other : ∀ c R, (∀ l, c ≠ .addListener l) → (∀ l, c ≠ .removeListener l) → wallet c R = R
  daemon_addListener : ∀ l R, daemon (.addListener l) R = insert l R
  daemon_removeListener : ∀ l R, daemon (.removeListener l) R = R \ {l}
  daemon_other : ∀ c R, (∀ l, c ≠ .addListener l) → (∀ l, c ≠ .removeListener l) →
    c ≠ .removeListeners → daemon c R = R

/-- A wallet or a daemon. -/
inductive Host (ι κ : Type) where
  | wallet (i : ι)
  | daemon (j : κ)
deriving DecidableEq

/-! ## 2. Programs -/

/-- What happens in a program: it creates a listener, drops its last reference to one, or calls a
bound operation, and the core notifies the listeners of a wallet or daemon at any time. -/
inductive Action (ι κ ρ : Type) where
  | create (l : ρ)
  | drop (l : ρ)
  | wallet (i : ι) (call : WalletCall ρ)
  | daemon (j : κ) (call : DaemonCall ρ)
  | notify (h : Host ι κ)

/-- The listener that a call passes. -/
def Action.passes (l : ρ) : Action ι κ ρ → Prop
  | .wallet _ call => (Wallet.Param.listener, Wallet.Arg.ref l) ∈ call.args
  | .daemon _ (.addListener l') => l' = l
  | .daemon _ (.removeListener l') => l' = l
  | _ => False

/-- The listeners of `h` are used: they are notified, or `get_listeners` looks up their Python
objects. -/
def Action.Uses (h : Host ι κ) : Action ι κ ρ → Prop
  | .wallet i .getListeners => h = .wallet i
  | .daemon j .getListeners => h = .daemon j
  | .notify h' => h = h'
  | _ => False

/-- What is created is new, at an address that was not used before, and what is dropped or passed is
there. -/
def Action.Allowed (s : State (Host ι κ) ρ) : Action ι κ ρ → Prop
  | .create l => l ∉ s.created
  | .drop l => l ∈ s.alive
  | act => ∀ l, act.passes l → l ∈ s.alive

section Perform

variable [DecidableEq ι] [DecidableEq κ] (core : Core ρ)

def Action.perform (s : State (Host ι κ) ρ) : Action ι κ ρ → State (Host ι κ) ρ
  | .create l => { s with created := insert l s.created, alive := insert l s.alive }
  | .drop l => { s with alive := s.alive \ {l} }
  | .wallet i call =>
    s.keep (.wallet i) (core.wallet call.invoke (s.registered (.wallet i)))
  | .daemon j call =>
    s.keep (.daemon j) (core.daemon call.invoke (s.registered (.daemon j)))
  | .notify _ => s

/-- What an action means for the pointers. -/
def Action.event : Action ι κ ρ → Event (Host ι κ) ρ
  | .create l => .create l
  | .drop l => .free l
  | .wallet i (.addListener l) => .register (.wallet i) l
  | .wallet i (.removeListener l) => .unregister (.wallet i) l
  | .wallet i .getListeners => .visit (.wallet i)
  | .wallet _ _ => .skip
  | .daemon j (.addListener l) => .register (.daemon j) l
  | .daemon j (.removeListener l) => .unregister (.daemon j) l
  | .daemon j .getListeners => .visit (.daemon j)
  | .daemon _ _ => .skip
  | .notify h => .visit h

theorem perform_eq_step (s : State (Host ι κ) ρ) (a : Action ι κ ρ) :
    a.perform core s = s.step a.event := by
  cases a with
  | create l => rfl
  | drop l => rfl
  | wallet i call =>
    cases call
    case addListener l => exact congrArg (s.keep _) (core.wallet_addListener l _)
    case removeListener l => exact congrArg (s.keep _) (core.wallet_removeListener l _)
    all_goals
      rw [Action.perform, core.wallet_other _ _ (fun _ h => by cases h) (fun _ h => by cases h),
        State.keep_self]
      rfl
  | daemon j call =>
    cases call
    case addListener l => exact congrArg (s.keep _) (core.daemon_addListener l _)
    case removeListener l => exact congrArg (s.keep _) (core.daemon_removeListener l _)
    all_goals
      rw [Action.perform, core.daemon_other _ _ (fun _ h => by cases h) (fun _ h => by cases h)
        (fun h => by cases h), State.keep_self]
      rfl
  | notify h => rfl

theorem perform_eq_act :
    (Action.perform core : State (Host ι κ) ρ → Action ι κ ρ → _) = State.act Action.event :=
  funext fun s => funext fun a => perform_eq_step core s a

omit [DecidableEq ι] [DecidableEq κ] in
theorem event_eq_visit_iff {a : Action ι κ ρ} {h : Host ι κ} :
    a.event = .visit h ↔ a.Uses h := by
  cases a with
  | wallet i call => cases call <;> simp [Action.event, Action.Uses, eq_comm]
  | daemon j call => cases call <;> simp [Action.event, Action.Uses, eq_comm]
  | notify h' => simp [Action.event, Action.Uses, eq_comm]
  | _ => simp [Action.event, Action.Uses]

omit [DecidableEq ι] [DecidableEq κ] in
theorem event_eq_free_iff {a : Action ι κ ρ} {l : ρ} : a.event = .free l ↔ a = .drop l := by
  cases a with
  | wallet i call => cases call <;> simp [Action.event]
  | daemon j call => cases call <;> simp [Action.event]
  | _ => simp [Action.event]

omit [DecidableEq ι] [DecidableEq κ] in
theorem allowed_event {a : Action ι κ ρ} {s : State (Host ι κ) ρ} (ha : a.Allowed s) :
    s.Allowed a.event := by
  cases a with
  | create l => exact ha
  | drop l => exact ha
  | wallet i call =>
    cases call
    case addListener l => exact ha l List.mem_cons_self
    case removeListener l => exact ha l List.mem_cons_self
    all_goals trivial
  | daemon j call =>
    cases call
    case addListener l => exact ha l rfl
    case removeListener l => exact ha l rfl
    all_goals trivial
  | notify h => trivial

/-! ## 3. What a program has to do -/

/-- No listener that is used has been freed. -/
def UsesAlive (s : State (Host ι κ) ρ) (a : Action ι κ ρ) : Prop :=
  ∀ h, a.Uses h → s.registered h ⊆ s.alive

omit [DecidableEq ι] [DecidableEq κ] in
theorem usesAlive_iff_sound {s : State (Host ι κ) ρ} {a : Action ι κ ρ} :
    UsesAlive s a ↔ s.Sound a.event := by
  simp only [UsesAlive, State.Sound, State.Dangling, event_eq_visit_iff, not_and, not_not,
    Set.subset_def]

/-- **Listeners that are used.**  However a program creates, drops, adds and removes listeners of
any wallets and daemons, and whenever the core notifies them, no freed listener is used if and only
if no wallet or daemon uses its listeners after one that is registered there has been dropped. -/
theorem usesAlive_iff {actions : List (Action ι κ ρ)}
    (hallowed : Run.AllSteps (Action.perform core) (fun s a => a.Allowed s) .fresh actions) :
    Run.AllSteps (Action.perform core) UsesAlive .fresh actions ↔
      ∀ pre l post, actions = pre ++ .drop l :: post →
        ∀ h, l ∈ (pre.foldl (Action.perform core) .fresh).registered h →
          ∀ a ∈ post, ¬ a.Uses h := by
  rw [perform_eq_act] at hallowed ⊢
  have hevents : Run.AllSteps (State.act Action.event) (fun s a => s.Allowed a.event) .fresh
      actions :=
    Run.AllSteps.imp (fun _ _ ha => allowed_event ha) hallowed
  have hsound : Run.AllSteps (State.act Action.event) UsesAlive .fresh actions ↔
      Run.AllSteps (State.act Action.event) (fun s a => s.Sound a.event) .fresh actions :=
    hevents.congr fun _ _ _ => usesAlive_iff_sound
  rw [hsound, State.allSteps_sound_iff hevents]
  constructor
  · intro hdis pre l post hsplit h hl a ha huses
    exact hdis pre (.drop l) post hsplit l rfl h hl a ha (event_eq_visit_iff.mpr huses)
  · intro hprog pre a post hsplit l hfree h hl b hb hvisit
    obtain rfl := event_eq_free_iff.mp hfree
    exact hprog pre l post hsplit h hl b hb (event_eq_visit_iff.mp hvisit)

end Perform

/-- A core that keeps a set of pointers. -/
def setCore : Core ρ where
  wallet
    | .addListener l, R => insert l R
    | .removeListener l, R => R \ {l}
    | _, R => R
  daemon
    | .addListener l, R => insert l R
    | .removeListener l, R => R \ {l}
    | .removeListeners, _ => ∅
    | _, R => R
  wallet_addListener _ _ := rfl
  wallet_removeListener _ _ := rfl
  wallet_other c R hadd hremove := by
    cases c
    case addListener l => exact absurd rfl (hadd l)
    case removeListener l => exact absurd rfl (hremove l)
    all_goals rfl
  daemon_addListener _ _ := rfl
  daemon_removeListener _ _ := rfl
  daemon_other c R hadd hremove hall := by
    cases c
    case addListener l => exact absurd rfl (hadd l)
    case removeListener l => exact absurd rfl (hremove l)
    case removeListeners => exact absurd rfl hall
    all_goals rfl

/-- `wallet.add_listener(MyListener())`, and then a notification. -/
def temporary : List (Action ℕ ℕ ℕ) :=
  [.create 0, .wallet 0 (.addListener 0), .drop 0, .notify (.wallet 0)]

theorem usesAlive_iff_temporary :
    Run.AllSteps (Action.perform setCore) UsesAlive .fresh temporary ↔
      ∀ pre l post, temporary = pre ++ .drop l :: post →
        ∀ h, l ∈ (pre.foldl (Action.perform setCore) .fresh).registered h →
          ∀ a ∈ post, ¬ a.Uses h := by
  refine usesAlive_iff setCore ⟨id, ?_, Or.inl rfl, fun _ => False.elim, trivial⟩
  intro l hl
  cases List.mem_singleton.mp hl
  exact Or.inl rfl

end MoneroPython.Listeners
