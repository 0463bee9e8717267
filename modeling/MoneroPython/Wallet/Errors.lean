/-
# The handlers of the wallet bindings

Most lambdas of `py_monero_bind_wallet` run under `MONERO_CATCH_AND_RETHROW`.  Four of them
have a `try` of their own (`get_subaddress`, `get_attribute`, `verify_message` and
`MoneroWalletFull.create_wallet`), and `get_tx` and the constructors of `MoneroWalletRpc` have
none.  `Wrapping.clauses` lists the handlers of each kind in the order of the source, and
`WalletBinding.serve` is what leaves a binding when the core operation under it ends with a
given outcome.

Only `get_attribute`, `create_wallet` and `verify_message` keep a `monero_rpc_error` from its
caller; `keepsRpcError_iff` is the exact condition.
-/
import Mathlib.Data.List.Infix
import MoneroPython.Errors.Exceptions
import MoneroPython.Wallet.Calls

namespace MoneroPython.Wallet

open TryCatch MoneroPython.Errors

variable {ρ : Type}

/-! ## 1. The exposed operations -/

/-- A binding of `MoneroWallet`, `MoneroWalletKeys`, `MoneroWalletFull` or `MoneroWalletRpc`.
The arguments of the last three are left out, except `m_path` of the configuration given to
`MoneroWalletFull.create_wallet`, which its handler reads. -/
inductive WalletBinding (ρ : Type) where
  | wallet (call : WalletCall ρ)
  | keysCreateWalletRandom | keysCreateWalletFromSeed | keysCreateWalletFromKeys
  | keysGetSeedLanguages
  | fullWalletExists | fullOpenWallet | fullOpenWalletData
  | fullCreateWallet (path : Option String)
  | fullGetSeedLanguages | fullGetKeysFileBuffer | fullGetCacheFileBuffer
  | rpcInitConnection | rpcInitUri
  | rpcCreateWallet | rpcOpenWalletConfig | rpcOpenWallet | rpcGetSeedLanguages
  | rpcGetRpcConnection | rpcSetDaemonConnection | rpcSetDaemonConnectionUri
  | rpcSetDaemonConnectionSsl | rpcStop

/-- How a binding is wrapped. -/
inductive Wrapping where
  | catchAndRethrow
  | unwrapped
  | getSubaddress
  | getAttribute
  | verifyMessage
  | createWallet (path : Option String)
deriving DecidableEq

def WalletCall.wrapping : WalletCall ρ → Wrapping
  | .getTx _ => .unwrapped
  | .getSubaddress _ _ => .getSubaddress
  | .getAttribute _ => .getAttribute
  | .verifyMessage _ _ _ => .verifyMessage
  | _ => .catchAndRethrow

def WalletBinding.wrapping : WalletBinding ρ → Wrapping
  | .wallet call => call.wrapping
  | .fullCreateWallet path => .createWallet path
  | .rpcInitConnection => .unwrapped
  | .rpcInitUri => .unwrapped
  | _ => .catchAndRethrow

/-! ## 2. Their handlers -/

/-- `monero_message_signature_result`, value-initialised by default. -/
structure MoneroMessageSignatureResult where
  isGood : Bool := false
  version : UInt32 := 0
  isOld : Bool := false
  signatureType : MoneroMessageSignatureType := .signWithSpendKey
deriving DecidableEq

/-- The values a binding can return. -/
inductive Returned (ρ : Type) where
  | null
  | object (v : ρ)
  | objects (v : List ρ)
  | signatureResult (v : MoneroMessageSignatureResult)

/-- The message that `MoneroWalletFull.create_wallet` throws for an exception with the text
`what`. -/
def createWalletMessage (path : Option String) (what : String) : String :=
  match path with
  | some path =>
    if "file already exists".toList <:+: what.toList then "Wallet already exists: " ++ path
    else what
  | none => what

/-- The `catch` clauses of each kind of wrapping. -/
def Wrapping.clauses : Wrapping → List (Clause CppException (Returned ρ))
  | .catchAndRethrow => Errors.catchAndRethrow
  | .unwrapped => []
  | .getSubaddress =>
    [.rethrow CppException.isRpcError,
     .convert CppException.isStdException fun e => .moneroError e.what]
  | .getAttribute => [.convert CppException.isStdException fun e => .moneroError e.what]
  | .verifyMessage => [.recover (fun _ => true) (.signatureResult {})]
  | .createWallet path =>
    [.convert CppException.isStdException fun e => .moneroError (createWalletMessage path e.what)]

/-- What `get_subaddress` makes of the subaddresses it is answered. -/
def onlySubaddress : Returned ρ → Except CppException (Returned ρ)
  | .objects [] => .error (.stdException (.other "runtime_error") "Subaddress is not initialized")
  | .objects [subaddress] => .ok (.object subaddress)
  | .objects (_ :: _ :: _) =>
    .error (.stdException (.other "runtime_error") "Only 1 subaddress should be returned")
  | result => .ok result

/-- What `get_tx` makes of the transactions it is answered. -/
def firstTx : Returned ρ → Returned ρ
  | .objects [] => .null
  | .objects (tx :: _) => .object tx
  | result => result

/-- What the lambda does with the core's result before it returns. -/
def WalletBinding.finish : WalletBinding ρ → Returned ρ → Except CppException (Returned ρ)
  | .wallet (.getSubaddress _ _) => onlySubaddress
  | .wallet (.getTx _) => fun result => .ok (firstTx result)
  | _ => .ok

/-- What leaves the binding when the core operation under it ends with `outcome`. -/
def WalletBinding.serve (b : WalletBinding ρ) (outcome : Except CppException (Returned ρ)) :
    Except CppException (Returned ρ) :=
  tryCatch b.wrapping.clauses (outcome >>= b.finish)

/-- What the Python caller observes. -/
def WalletBinding.observe (b : WalletBinding ρ) (outcome : Except CppException (Returned ρ)) :
    Except PyException (Returned ρ) :=
  callFromPython (b.serve outcome)

theorem WalletBinding.serve_error (b : WalletBinding ρ) (e : CppException) :
    b.serve (.error e) = tryCatch b.wrapping.clauses (.error e) := rfl

/-! ## 3. What becomes of an RPC error -/

/-- The caller observes the RPC error, with its message and its code.  `verify_message` may
return a result that is not good for the code -2. -/
def WalletBinding.KeepsRpcError (b : WalletBinding ρ) (message : String) (code : Int32) : Prop :=
  b.observe (.error (.rpcError message code)) = .error (.moneroRpcError message code) ∨
    b.wrapping = .verifyMessage ∧ code = -2 ∧
      ∃ result : MoneroMessageSignatureResult, result.isGood = false ∧
        b.observe (.error (.rpcError message code)) = .ok (.signatureResult result)

/-- `get_attribute` and `create_wallet` have no clause for `monero_rpc_error` before the one for
`std::exception`, and `verify_message` answers every exception with a result. -/
def WalletBinding.LetsRpcErrorThrough (code : Int32) : WalletBinding ρ → Prop
  | .wallet (.getAttribute _) => False
  | .wallet (.verifyMessage _ _ _) => code = -2
  | .fullCreateWallet _ => False
  | _ => True

theorem WalletBinding.letsRpcErrorThrough_iff (b : WalletBinding ρ) (code : Int32) :
    b.LetsRpcErrorThrough code ↔
      b.wrapping ≠ .getAttribute ∧ (∀ path, b.wrapping ≠ .createWallet path) ∧
        (b.wrapping = .verifyMessage → code = -2) := by
  cases b with
  | wallet call => cases call <;> simp [LetsRpcErrorThrough, wrapping, WalletCall.wrapping]
  | _ => simp [LetsRpcErrorThrough, wrapping]

/-- What each kind of wrapping does with a `monero_rpc_error`. -/
theorem Wrapping.tryCatch_rpcError (w : Wrapping) (message : String) (code : Int32) :
    tryCatch (w.clauses (ρ := ρ)) (.error (.rpcError message code)) =
      match w with
      | .getAttribute => .error (.moneroError message)
      | .createWallet path => .error (.moneroError (createWalletMessage path message))
      | .verifyMessage => .ok (.signatureResult {})
      | _ => .error (.rpcError message code) := by
  cases w with
  | catchAndRethrow => exact tryCatch_catchAndRethrow_rpcError message code
  | _ => rfl

/-- A `RuntimeError` is no `MoneroRpcError`. -/
theorem builtin_ne_moneroRpcError (cls : BuiltinException) (text message : String)
    (code : Int32) : PyException.builtin cls text ≠ .moneroRpcError message code := by
  intro h
  cases congrArg PyException.cls h

/-- **RPC error fidelity.**  A `monero_rpc_error` that the core throws reaches the caller as a
`MoneroRpcError` with its message and code in every binding but `get_attribute` and
`MoneroWalletFull.create_wallet`, where it never does, and `verify_message`, where only the
code -2 may be swallowed. -/
theorem keepsRpcError_iff (b : WalletBinding ρ) (message : String) (code : Int32) :
    b.KeepsRpcError message code ↔ b.LetsRpcErrorThrough code := by
  rw [b.letsRpcErrorThrough_iff]
  unfold WalletBinding.KeepsRpcError WalletBinding.observe
  rw [b.serve_error, b.wrapping.tryCatch_rpcError]
  cases b.wrapping with
  | catchAndRethrow => simp
  | unwrapped => simp
  | getSubaddress => simp
  | getAttribute => simp [builtin_ne_moneroRpcError]
  | verifyMessage => simp
  | createWallet path => simp [builtin_ne_moneroRpcError]

/-- `get_attribute` when the connection to the wallet server is lost. -/
theorem getAttribute_hides_rpcError :
    ¬ (WalletBinding.wallet (.getAttribute "key") : WalletBinding ℕ).KeepsRpcError
      "Network error" (-1) := by
  rintro (hraised | ⟨hverify, -⟩)
  · exact builtin_ne_moneroRpcError _ _ _ _ (Except.error.inj hraised)
  · cases hverify

end MoneroPython.Wallet
