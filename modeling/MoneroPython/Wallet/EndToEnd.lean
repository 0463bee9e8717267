/-
# From Python through C++ to Python

A wallet that is implemented in Python is used like any other: the caller calls the bound
operations, their lambdas call the core, and the trampolines call the overrides.  Here both ways
are put together.  What should happen is that the caller might as well have called the override
itself, with the arguments that it passed or, for a derived operation, with those that the
operation stands for.

`run_eq_directly_iff` compares whole runs.  The two differ as soon as a run contains one of five
operations: either form of `set_daemon_connection`, or `import_multisig_hex`, whose overrides never
see the last argument, `get_attribute`, whose override sees one argument too many, or
`import_key_images` with an offset.  They also differ as soon as a run calls a wallet whose class
derives from `MoneroWalletRpc`, which is registered without a trampoline (`py_monero_types.h`).  Its
overrides are never called.
-/
import MoneroPython.Lib.Run
import MoneroPython.Wallet.Overrides
import MoneroPython.Wallet.Transparency

namespace MoneroPython.Wallet

open MoneroPython.Errors

variable {ρ σ π : Type}

/-! ## 1. What the caller asks for -/

/-- The arguments that an override should be called with. -/
def WalletCall.asked (call : WalletCall ρ) : List (Passed ρ) :=
  match call.denotes with
  | some request => request.params.map fun param => .arg param.2
  | none => call.args.map fun arg => .arg arg.2

/-- The calls that reach an override with these arguments. -/
def WalletCall.Delivers : WalletCall ρ → Prop
  | .setDaemonConnection _ _ => False
  | .setDaemonConnectionUri _ _ _ _ _ => False
  | .importKeyImages _ offset => offset = 0
  | .importMultisigHex _ _ => False
  | .getAttribute _ => False
  | _ => True

/-- The statement of the trampoline passes what the caller asked for exactly when the call
delivers. -/
theorem WalletCall.body_args_eq_asked_iff {call : WalletCall ρ} {stmt : OverrideStmt (Passed ρ)}
    (hbody : (VirtualCall.wallet call.invoke).body = some stmt) :
    stmt.args = call.asked ↔ call.Delivers := by
  cases call
  case setDaemonConnection =>
    cases hbody
    exact iff_of_false (by simp [asked, denotes, args]) id
  case setDaemonConnectionUri =>
    cases hbody
    exact iff_of_false (by simp [asked, denotes, args]) id
  case importKeyImages keyImages offset =>
    cases hbody
    simp [asked, denotes, args, Delivers, eq_comm]
  case importMultisigHex =>
    cases hbody
    exact iff_of_false (by simp [asked, denotes, args]) id
  case getAttribute =>
    cases hbody
    exact iff_of_false (by simp [asked, denotes, args]) id
  all_goals
    cases hbody <;> exact iff_of_true rfl trivial

/-! ## 2. Runs -/

/-- The bound classes with a constructor that Python classes can derive from. -/
inductive WalletClass where
  | moneroWallet | moneroWalletRpc
deriving DecidableEq

/-- Whether `PyMoneroTypes` registers the class with a trampoline. -/
def WalletClass.hasTrampoline : WalletClass → Bool
  | .moneroWallet => true
  | .moneroWalletRpc => false

/-- An instance of a Python class: the bound class that it derives from, and the methods that it
defines in Python. -/
structure PyWallet (ρ σ π : Type) where
  derivesFrom : WalletClass
  methods : PyInstance ρ σ π

/-- The virtual call of a lambda.  On an object with a trampoline the methods of the base class are
`base`, and what they call in turn may be overridden.  Without one the methods are `plain`. -/
def PyWallet.dispatch (py : Pybind π (Returned ρ)) (base : CoreClass ρ σ (Returned ρ))
    (plain : CoreCall ρ → σ → Except CppException (Returned ρ) × σ) (wallet : PyWallet ρ σ π)
    (call : CoreCall ρ) (world : σ) : Obtained ρ σ (Returned ρ) :=
  if wallet.derivesFrom.hasTrampoline then
    (VirtualCall.wallet call).dispatch py base wallet.methods world
  else
    let (result, world) := plain call world
    { result, out := (VirtualCall.wallet call).out, calls := [], world }

/-- What a call leaves behind: the overrides that were called, with their arguments, and what the
caller observed. -/
abbrev Trace (ρ : Type) := List (Method × List (Passed ρ)) × Except PyException (Returned ρ)

/-- A call of an operation on a wallet whose class overrides its virtual method. -/
structure OverriddenCall (ρ σ π : Type) where
  wallet : PyWallet ρ σ π
  call : WalletCall ρ
  sig : Signature
  override : PyMethod ρ σ π
  signature_eq : call.invoke.signature = some sig
  override_eq : wallet.methods sig.name = some override

/-- The call reaches the override, and with the arguments that it asked for. -/
structure OverriddenCall.Delivers (c : OverriddenCall ρ σ π) : Prop where
  derivesFrom : c.wallet.derivesFrom = .moneroWallet
  call : c.call.Delivers

section Calls

variable (py : Pybind π (Returned ρ)) (base : CoreClass ρ σ (Returned ρ))
  (plain : CoreCall ρ → σ → Except CppException (Returned ρ) × σ)

/-- The call as it goes, through C++. -/
def OverriddenCall.serve (c : OverriddenCall ρ σ π) (world : σ) : Trace ρ × σ :=
  let obtained := c.wallet.dispatch py base plain c.call.invoke world
  ((obtained.calls, (WalletBinding.wallet c.call).observe obtained.result), obtained.world)

/-- The call of the override with what the caller asked for. -/
def OverriddenCall.directly (c : OverriddenCall ρ σ π) (world : σ) : Trace ρ × σ :=
  let answer := c.override c.call.asked world
  (([(c.sig.name, c.call.asked)],
    (WalletBinding.wallet c.call).observe (py.receive c.sig.ret answer.1)), answer.2)

/-- With a trampoline the override is called once, with the arguments of the statement. -/
theorem OverriddenCall.serve_eq {c : OverriddenCall ρ σ π}
    (hclass : c.wallet.derivesFrom = .moneroWallet) (world : σ) :
    ∃ args, (args = c.call.asked ↔ c.call.Delivers) ∧
      c.serve py base plain world =
        (([(c.sig.name, args)], (WalletBinding.wallet c.call).observe
          (py.receive c.sig.ret (c.override args world).1)), (c.override args world).2) := by
  have hsig : (VirtualCall.wallet c.call.invoke).signature = some c.sig := c.signature_eq
  have htrampoline : c.wallet.derivesFrom.hasTrampoline = true := by rw [hclass]; rfl
  obtain ⟨args, hbody⟩ := VirtualCall.exists_body hsig
  refine ⟨args, WalletCall.body_args_eq_asked_iff hbody, ?_⟩
  rw [serve, PyWallet.dispatch, if_pos htrampoline,
    VirtualCall.dispatch_override py base hbody c.override_eq]

/-- Without a trampoline no override is called. -/
theorem OverriddenCall.serve_calls_rpc {c : OverriddenCall ρ σ π}
    (hclass : c.wallet.derivesFrom = .moneroWalletRpc) (world : σ) :
    (c.serve py base plain world).1.1 = [] := by
  rw [serve, PyWallet.dispatch, hclass, if_neg (by decide)]

/-- **From Python to Python.**  A run of calls on wallets that override their methods has the same
trace, the same results and the same effects as calling the overrides with what the caller asked
for, if and only if every call of the run delivers. -/
theorem run_eq_directly_iff (calls : List (OverriddenCall ρ σ π)) (world : σ) :
    Run.outputs (OverriddenCall.serve py base plain) calls world =
        Run.outputs (OverriddenCall.directly py) calls world ↔
      ∀ c ∈ calls, c.Delivers := by
  refine Run.outputs_eq_iff ?_ ?_
  · intro c world htrace
    cases hclass : c.wallet.derivesFrom with
    | moneroWallet =>
      obtain ⟨args, hargs, hserve⟩ := c.serve_eq py base plain hclass world
      rw [hserve] at htrace
      have hcalls := (Prod.mk.inj htrace).1
      exact ⟨hclass, hargs.mp (Prod.mk.inj (List.cons.inj hcalls).1).2⟩
    | moneroWalletRpc =>
      have hnone := c.serve_calls_rpc py base plain hclass world
      rw [htrace] at hnone
      exact absurd hnone (List.cons_ne_nil _ _)
  · intro c world hdelivers
    obtain ⟨args, hargs, hserve⟩ := c.serve_eq py base plain hdelivers.derivesFrom world
    rw [hserve, hargs.mpr hdelivers.call]
    rfl

end Calls

end MoneroPython.Wallet
