/-
# The bindings and the interpreter lock

`py::call_guard<py::gil_scoped_release>()` on a binding gives Python's global interpreter lock back
while its lambda runs.  159 bindings of `MoneroWallet`, `MoneroWalletKeys`, `MoneroWalletFull` and
`MoneroWalletRpc` have it: all methods, and the constructors of `MoneroWalletRpc`.  Those of
`MoneroDaemon` have it and all but one of `MoneroDaemonRpc`, and of those of `MoneroRpcConnection`
`set_credentials` and `check_connection`.  No other binding has it: not `MoneroWallet()` and its
`DEFAULT_LANGUAGE`, and none of `MoneroWalletListener`.  The trampolines, and so the listeners that
are notified from threads of the core, take the lock before they look an override up.

Two things follow for every interleaving of any number of threads.  Python objects are handled by
one thread at a time (`handles_subsingleton`): no lambda that handles them runs under the guard.  And
a thread that waits for the interpreter lock can get it, unless a binding without the guard waits
for a lock of the core (`gil_progress_iff`), as the three raw requests of a connection might.  Which
bindings wait in the core is a parameter.
-/
import Mathlib.Data.Set.Subsingleton
import MoneroPython.Daemon.Calls
import MoneroPython.Lib.InterpreterLock
import MoneroPython.Wallet.Errors

namespace MoneroPython.Threads

open InterpreterLock

variable {ρ : Type}

/-! ## 1. The guards -/

/-- The bindings of `MoneroRpcConnection`, except the accessors of its fields. -/
inductive ConnectionBinding where
  | init | initCopy | compare | setAttribute | getAttribute | setCredentials | isOnion | isI2p
  | isOnline | isAuthenticated | isConnected | checkConnection | sendJsonRequest | sendPathRequest
  | sendBinaryRequest
deriving DecidableEq

/-- The bindings that `MoneroDaemonRpc` adds to those of `MoneroDaemon`. -/
inductive DaemonRpcBinding where
  | initConnection | initUri | getRpcConnection | isConnected
deriving DecidableEq

/-- The bindings of `MoneroUtils` that take or return a `dict` or `bytes`. -/
inductive CodecBinding where
  | jsonToBinary | binaryToJson | dictToBinary | binaryToDict | binaryBlocksToJson
deriving DecidableEq

/-- The bound operations.  `listener` are the notifications of a `MoneroWalletListener` when Python
code calls them itself, and `plain` everything that is not listed: the data objects, the rest of
`MoneroUtils`, and the constructor and `DEFAULT_LANGUAGE` of `MoneroWallet`. -/
inductive BoundOperation (ρ : Type) where
  | wallet (b : Wallet.WalletBinding ρ)
  | listener
  | daemon (call : Daemon.BoundCall ρ)
  | daemonRpc (b : DaemonRpcBinding)
  | connection (b : ConnectionBinding)
  | codec (b : CodecBinding)
  | plain

namespace BoundOperation

/-- The binding has `py::call_guard<py::gil_scoped_release>()`. -/
def releasesGil : BoundOperation ρ → Bool
  | .wallet _ => true
  | .listener => false
  | .daemon (.daemon _) => true
  | .daemon (.onBlockHeader _) => false
  | .daemonRpc .getRpcConnection => false
  | .daemonRpc _ => true
  | .connection .setCredentials => true
  | .connection .checkConnection => true
  | .connection _ => false
  | .codec _ => false
  | .plain => false

/-- The lambda handles Python objects: the raw requests their parameters and their result, the
codecs a `dict` or `bytes`. -/
def handlesPython : BoundOperation ρ → Bool
  | .connection .sendJsonRequest => true
  | .connection .sendPathRequest => true
  | .connection .sendBinaryRequest => true
  | .codec _ => true
  | _ => false

/-- Python objects are handled with the interpreter lock. -/
theorem not_releasesGil_of_handlesPython {op : BoundOperation ρ} (h : op.handlesPython = true) :
    op.releasesGil = false := by
  cases op with
  | connection b => cases b <;> first | rfl | cases h
  | codec b => rfl
  | _ => cases h

end BoundOperation

/-- The table of the operations; `waits` are those that may wait for a lock of the core. -/
def gilTable (waits : BoundOperation ρ → Bool) : Table (BoundOperation ρ) where
  releases := BoundOperation.releasesGil
  waits := waits

/-! ## 2. All interleavings -/

variable {τ ℓ : Type}

/-- The thread is about to run interpreted code or a lambda that handles Python objects. -/
def HandlesPython (th : Thread (BoundOperation ρ) ℓ) : Prop :=
  ∃ f stack, th.stack = f :: stack ∧ th.phase ≠ .wantsInterpreter ∧
    match f with
    | .interpreted => True
    | .native op => op.handlesPython = true
    | .worker => False

theorem touches_of_handlesPython (waits : BoundOperation ρ → Bool)
    {th : Thread (BoundOperation ρ) ℓ} (h : HandlesPython th) : Touches (gilTable waits) th := by
  obtain ⟨f, stack, hstack, hphase, hf⟩ := h
  refine ⟨?_, hphase⟩
  rw [hstack, Table.keepsTop]
  cases f with
  | interpreted => rfl
  | native op =>
    have hkeep : op.releasesGil = false := BoundOperation.not_releasesGil_of_handlesPython hf
    simp [Table.keeps, gilTable, hkeep]
  | worker => exact hf.elim

variable [DecidableEq τ] [DecidableEq ℓ]

/-- **One thread at a time.**  Whatever threads call bound operations, call back, wait and return in
whatever order, at most one of them handles Python objects. -/
theorem handles_subsingleton (waits : BoundOperation ρ → Bool)
    {s : State τ (BoundOperation ρ) ℓ} (h : Reachable (gilTable waits) s) :
    ({t | HandlesPython (s.thread t)} : Set τ).Subsingleton := by
  intro t ht u hu
  exact touches_unique h (touches_of_handlesPython waits ht) (touches_of_handlesPython waits hu)

/-! ### Two threads

Thread 0 calls `MoneroWallet.sync`, which gives the interpreter lock back.  Thread 1 takes it, thread
0 calls a listener back and has to wait, and thread 1 calls `MoneroUtils.dict_to_binary`. -/

def syncStarts : State ℕ (BoundOperation ℕ) ℕ :=
  State.idle.set 0 ⟨[.interpreted], .wantsInterpreter⟩ none

def syncRuns : State ℕ (BoundOperation ℕ) ℕ :=
  syncStarts.set 0 ⟨[.interpreted], .running⟩ (some 0)

def syncCalled : State ℕ (BoundOperation ℕ) ℕ :=
  syncRuns.set 0 ⟨[.native (.wallet (.wallet .sync)), .interpreted], .running⟩ none

def codecStarts : State ℕ (BoundOperation ℕ) ℕ :=
  syncCalled.set 1 ⟨[.interpreted], .wantsInterpreter⟩ none

def codecRuns : State ℕ (BoundOperation ℕ) ℕ :=
  codecStarts.set 1 ⟨[.interpreted], .running⟩ (some 1)

def syncCallsBack : State ℕ (BoundOperation ℕ) ℕ :=
  codecRuns.set 0 ⟨[.interpreted, .native (.wallet (.wallet .sync)), .interpreted],
    .wantsInterpreter⟩ (some 1)

def codecCalled : State ℕ (BoundOperation ℕ) ℕ :=
  syncCallsBack.set 1 ⟨[.native (.codec .dictToBinary), .interpreted], .running⟩ (some 1)

theorem reachable_codecCalled : Reachable (gilTable fun _ => true) codecCalled := by
  have h₁ : Step (gilTable fun _ => true) State.idle syncStarts := .start 0 rfl
  have h₂ : Step (gilTable fun _ => true) syncStarts syncRuns := .acquire 0 rfl rfl
  have h₃ : Step (gilTable fun _ => true) syncRuns syncCalled :=
    .call 0 (BoundOperation.wallet (.wallet .sync)) rfl
  have h₄ : Step (gilTable fun _ => true) syncCalled codecStarts := .start 1 rfl
  have h₅ : Step (gilTable fun _ => true) codecStarts codecRuns := .acquire 1 rfl rfl
  have h₆ : Step (gilTable fun _ => true) codecRuns syncCallsBack := .callBack 0 rfl nofun
  have h₇ : Step (gilTable fun _ => true) syncCallsBack codecCalled :=
    .call 1 (BoundOperation.codec .dictToBinary) rfl
  exact ((((((Relation.ReflTransGen.single h₁).tail h₂).tail h₃).tail h₄).tail h₅).tail h₆).tail h₇

theorem handles_subsingleton_codecCalled :
    ({t | HandlesPython (codecCalled.thread t)} : Set ℕ).Subsingleton :=
  handles_subsingleton (fun _ => true) reachable_codecCalled

/-- The bindings without the guard do not wait for locks of the core. -/
structure UnguardedDontWait (waits : BoundOperation ρ → Bool) : Prop where
  listener : waits .listener = false
  onBlockHeader : ∀ header, waits (.daemon (.onBlockHeader header)) = false
  getRpcConnection : waits (.daemonRpc .getRpcConnection) = false
  connection : ∀ b, waits (.connection b) = true → b = .setCredentials ∨ b = .checkConnection
  codec : ∀ b, waits (.codec b) = false
  plain : waits .plain = false

theorem waitsReleased_iff (waits : BoundOperation ρ → Bool) :
    (gilTable waits).WaitsReleased ↔ UnguardedDontWait waits := by
  constructor
  · intro h
    have hno : ∀ op : BoundOperation ρ, op.releasesGil = false → waits op = false := by
      intro op hkeep
      cases hwait : waits op with
      | false => rfl
      | true =>
        have hrel : op.releasesGil = true := h op hwait
        rw [hkeep] at hrel
        cases hrel
    refine ⟨hno _ rfl, fun _ => hno _ rfl, hno _ rfl, ?_, fun _ => hno _ rfl, hno _ rfl⟩
    intro b hwait
    have hrel : (BoundOperation.connection b : BoundOperation ρ).releasesGil = true := h _ hwait
    cases b with
    | setCredentials => exact Or.inl rfl
    | checkConnection => exact Or.inr rfl
    | _ => cases hrel
  · intro h op hwait
    change waits op = true at hwait
    change op.releasesGil = true
    cases op with
    | wallet b => rfl
    | listener => simp [h.listener] at hwait
    | daemon call =>
      cases call with
      | daemon call => rfl
      | onBlockHeader header => simp [h.onBlockHeader] at hwait
    | daemonRpc b =>
      cases b with
      | getRpcConnection => simp [h.getRpcConnection] at hwait
      | _ => rfl
    | connection b => rcases h.connection b hwait with rfl | rfl <;> rfl
    | codec b => simp [h.codec] at hwait
    | plain => simp [h.plain] at hwait

/-- **Waiting for the interpreter lock.**  Every thread that waits for it can get it, after any
interleaving of any number of threads, if and only if no binding without the guard waits for a lock
of the core.  The threads and the locks are numbered.  Workers of the core may hold any lock while
they call back, and the "only if" rests on one that does. -/
theorem gil_progress_iff (waits : BoundOperation ρ → Bool) :
    (∀ (s : State ℕ (BoundOperation ρ) ℕ) (t : ℕ), Reachable (gilTable waits) s →
        (s.thread t).phase = .wantsInterpreter →
          ∃ s', Steps (gilTable waits) s s' ∧ s'.holder = some t) ↔
      UnguardedDontWait waits := by
  rw [← waitsReleased_iff]
  exact exists_acquire_iff

end MoneroPython.Threads
