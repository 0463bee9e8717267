/-
# Argument transparency of the wallet bindings

A binding is transparent when the core operation receives what the Python caller supplied.
Most lambdas hand their arguments on, so this means that the arguments are the first
parameters of the core operation, under the same names and with the same values
(`get_attribute` is the one whose core operation has a further parameter, the out-parameter
`value`).  The derived operations build their own arguments; for these the call itself says
what the core has to be asked.

Three lambdas leave an optional argument out of the core call, which then uses its own
default: `is_trusted` in the two forms of `set_daemon_connection`, and `offset` in
`import_key_images`.  `transparent_iff` says that these are the only ones, and that they go
wrong exactly when the caller's value differs from the core's default.
-/
import MoneroPython.Wallet.Calls

namespace MoneroPython.Wallet

variable {ρ : Type}

namespace WalletCall

/-! ## 1. What transparency asks -/

/-- What a derived operation asks of the core. -/
def denotes : WalletCall ρ → Option (CoreCall ρ)
  | .getTx txHash => some (.getTxsQuery { hashes := [txHash] })
  | .getTxsHashes txHashes => some (.getTxsQuery { hashes := txHashes })
  | .getSubaddress accountIdx subaddressIdx =>
    some (.getSubaddressesIndices accountIdx [subaddressIdx])
  | .getTransfers => some (.getTransfers {})
  | .getTransfersAccount accountIndex => some (.getTransfers { accountIndex := some accountIndex })
  | .getTransfersSubaddress accountIndex subaddressIndex =>
    some (.getTransfers
      { accountIndex := some accountIndex, subaddressIndex := some subaddressIndex })
  | .getOutputs => some (.getOutputs {})
  | .describeUnsignedTxSet unsignedTxHex =>
    some (.describeTxSet { unsignedTxHex := some unsignedTxHex })
  | .describeMultisigTxSet multisigTxHex =>
    some (.describeTxSet { multisigTxHex := some multisigTxHex })
  | .setAccountLabel accountIdx label => some (.setSubaddressLabel accountIdx 0 label)
  | .getNewKeyImagesFromLastImport => some (.exportKeyImages false)
  | .getAddressBookEntries => some (.getAddressBookEntries [])
  | _ => none

/-- The core operation receives what the caller supplied. -/
def Transparent (call : WalletCall ρ) : Prop :=
  match call.denotes with
  | some request => call.invoke = request
  | none => call.args <+: call.invoke.params

/-- The arguments that the lambda does not hand on have the values the core fills in. -/
def KeepsDefaults : WalletCall ρ → Prop
  | .setDaemonConnection _ isTrusted => isTrusted = none
  | .setDaemonConnectionUri _ _ _ _ isTrusted => isTrusted = none
  | .importKeyImages _ offset => offset = 0
  | _ => True

instance : DecidablePred (KeepsDefaults (ρ := ρ)) := fun call => by
  cases call <;> unfold KeepsDefaults <;> infer_instance

/-! ## 2. The lambdas against it -/

theorem invoke_of_denotes {call : WalletCall ρ} {request : CoreCall ρ}
    (hden : call.denotes = some request) : call.invoke = request := by
  cases call <;> first | exact Option.some.inj hden | exact nomatch hden

/-- A lambda that drops nothing, or drops only defaults, hands its arguments on in order. -/
theorem args_prefix_params {call : WalletCall ρ} (hden : call.denotes = none)
    (hdef : call.KeepsDefaults) : call.args <+: call.invoke.params := by
  cases call
  case setDaemonConnection => exact hdef ▸ List.prefix_rfl
  case setDaemonConnectionUri => exact hdef ▸ List.prefix_rfl
  case importKeyImages => exact hdef ▸ List.prefix_rfl
  -- the core operation has the out-parameter `value` after `key`
  case getAttribute => exact List.prefix_append _ [(Param.value, Arg.str "")]
  all_goals first | exact List.prefix_rfl | exact nomatch hden

/-- The last argument, when the core operation has as many parameters as there are arguments. -/
theorem last_eq_of_forwarded (front : List (Param × Arg ρ)) {p : Param} {v w : Arg ρ}
    (hpre : front ++ [(p, v)] <+: front ++ [(p, w)]) : v = w := by
  simpa using hpre

/-- An argument that is dropped reaches the core only if it is the core's default. -/
theorem keepsDefaults_of_forwarded {call : WalletCall ρ}
    (hpre : call.args <+: call.invoke.params) : call.KeepsDefaults := by
  cases call
  case setDaemonConnection connection isTrusted =>
    exact Arg.optBool.inj (last_eq_of_forwarded [(.connection, .optRef connection)] hpre)
  case setDaemonConnectionUri uri username password proxy isTrusted =>
    exact Arg.optBool.inj (last_eq_of_forwarded [(.uri, .str uri), (.username, .str username),
      (.password, .str password), (.proxy, .str proxy)] hpre)
  case importKeyImages keyImages offset =>
    exact Arg.u64.inj (last_eq_of_forwarded [(.keyImages, .refs keyImages)] hpre)
  all_goals trivial

theorem keepsDefaults_of_denotes {call : WalletCall ρ} {request : CoreCall ρ}
    (hden : call.denotes = some request) : call.KeepsDefaults := by
  cases call <;> trivial

/-- **Argument transparency.**  A binding passes on what the caller supplied if and only if
the arguments its lambda drops are the core's defaults. -/
theorem transparent_iff (call : WalletCall ρ) : call.Transparent ↔ call.KeepsDefaults := by
  unfold Transparent
  cases hden : call.denotes with
  | some request =>
    exact iff_of_true (invoke_of_denotes hden) (keepsDefaults_of_denotes hden)
  | none =>
    exact ⟨keepsDefaults_of_forwarded, args_prefix_params hden⟩

/-- `import_key_images([], 1)`: the core imports at offset 0. -/
theorem importKeyImages_drops_offset :
    ¬ (WalletCall.importKeyImages ([] : List ℕ) 1).Transparent := by
  intro htrans
  have hoffset := Arg.u64.inj (last_eq_of_forwarded [(.keyImages, .refs [])] htrans)
  exact absurd hoffset (by decide)

end WalletCall

end MoneroPython.Wallet
