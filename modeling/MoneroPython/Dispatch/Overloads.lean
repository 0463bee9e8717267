/-
# The overloaded bindings

27 names of the module have more than one binding.  `Binding` lists their bindings, `params` what
each declares with `py::arg`, and `Overloaded.overloads` the bindings of a name in the order of
their registration.  How pybind11 dispatches and casts is assumed, as `Lib/Overload` and
`Dispatch/Casters` say.

The order of registration is irrelevant for all names but one (`resolve_perm_iff`), and no binding
hides another for all names but two (`call_eq_alone_iff`).  `flush_tx_pool` takes a string as a
hash, which the vector of hashes alone would take apart.  And `relay_txs` tries transactions first:
`relayTxs_call` says what becomes of metadatas.

Two more things follow that a caller may not expect.  `get_txs` takes a bare hash for a list of
characters (`getTxs_str`), and `MoneroWalletRpc` has no `set_daemon_connection` with `is_trusted`
alone (`rpcSetDaemonConnection_isSome_iff`).
-/
import MoneroPython.Dispatch.Casters
import MoneroPython.Wallet.Txs

namespace MoneroPython.Dispatch

open Overload

variable {ρ : Type}

/-! ## 1. The bindings -/

/-- The names in `py::arg`, and all others. -/
inductive Keyword where
  | uri | username | password | proxyUri | zmqUri | priority | timeoutMs | rpc | hashes | hash
  | config | numBlocksFetched | receivedMoney | tag | label | accountIndices | address | amount
  | query | index | description | paymentId | connection | isTrusted | proxy | listener
  | startHeight | accountIdx | subaddressIdx | includeSubaddresses | subaddressIndices | txHashes
  | accountIndex | subaddressIndex | txMetadata | tx | txs | txMetadatas | indices | rpcConnection
  | name | sslOptions
  | other (s : String)
deriving DecidableEq

/-- The bindings of the overloaded names. -/
inductive Binding where
  | connectionInit | connectionInitCopy
  | flushTxPool | flushTxPoolHashes | flushTxPoolHash
  | daemonRpcInit | daemonRpcInitUri
  | walletConfigInit | walletConfigInitCopy
  | syncResultInit | syncResultInitValues
  | accountTagInit | accountTagInitTag | accountTagInitIndices
  | destinationInit | destinationInitAddress | destinationInitAmount
  | txGetTransfers | txGetTransfersQuery
  | txGetOutputsWallet | txGetOutputsWalletQuery
  | txConfigInit | txConfigInitCopy
  | addressBookEntryInit | addressBookEntryInitDescription | addressBookEntryInitPaymentId
  | setDaemonConnection | setDaemonConnectionUri
  | sync | syncListener | syncFrom | syncFromListener
  | getBalance | getBalanceAccount | getBalanceSubaddress
  | getUnlockedBalance | getUnlockedBalanceAccount | getUnlockedBalanceSubaddress
  | getAccounts | getAccountsIncluding | getAccountsTag | getAccountsIncludingTag
  | getAccount | getAccountIncluding
  | getSubaddresses | getSubaddressesIndices
  | getTxs | getTxsQuery | getTxsHashes
  | getTransfersQuery | getTransfers | getTransfersAccount | getTransfersSubaddress
  | getOutputsQuery | getOutputs
  | relayTxMetadata | relayTx
  | relayTxs | relayTxsMetadatas
  | getAddressBookEntriesIndices | getAddressBookEntries
  | walletRpcInit | walletRpcInitUri
  | openWallet | openWalletName
  | rpcSetDaemonConnection | rpcSetDaemonConnectionUri | rpcSetDaemonConnectionTrusted
deriving DecidableEq

abbrev BoundParam (ρ : Type) : Type := Param Keyword CppType (PyArg ρ)

/-- What each binding declares, `self` apart. -/
def Binding.params : Binding → List (BoundParam ρ)
  | .connectionInit =>
    [⟨.uri, .str, some (.str "")⟩, ⟨.username, .str, some (.str "")⟩,
      ⟨.password, .str, some (.str "")⟩, ⟨.proxyUri, .str, some (.str "")⟩,
      ⟨.zmqUri, .str, some (.str "")⟩, ⟨.priority, .int .int, some (.int 0)⟩,
      ⟨.timeoutMs, .optional (.int .uint32), some .pyNone⟩]
  | .connectionInitCopy => [⟨.rpc, .reference .rpcConnection, none⟩]
  | .flushTxPool => []
  | .flushTxPoolHashes => [⟨.hashes, .vector .str, none⟩]
  | .flushTxPoolHash => [⟨.hash, .str, none⟩]
  | .daemonRpcInit => [⟨.rpc, .sharedPtr .rpcConnection, none⟩]
  | .daemonRpcInitUri =>
    [⟨.uri, .str, none⟩, ⟨.username, .str, some (.str "")⟩, ⟨.password, .str, some (.str "")⟩,
      ⟨.proxyUri, .str, some (.str "")⟩, ⟨.zmqUri, .str, some (.str "")⟩,
      ⟨.timeoutMs, .optional (.int .uint32), some .pyNone⟩]
  | .walletConfigInit => []
  | .walletConfigInitCopy => [⟨.config, .reference .walletConfig, none⟩]
  | .syncResultInit => []
  | .syncResultInitValues =>
    [⟨.numBlocksFetched, .int .uint16, none⟩, ⟨.receivedMoney, .bool, none⟩]
  | .accountTagInit => []
  | .accountTagInitTag => [⟨.tag, .str, none⟩, ⟨.label, .str, none⟩]
  | .accountTagInitIndices =>
    [⟨.tag, .str, none⟩, ⟨.label, .str, none⟩, ⟨.accountIndices, .vector (.int .uint32), none⟩]
  | .destinationInit => []
  | .destinationInitAddress => [⟨.address, .str, none⟩]
  | .destinationInitAmount => [⟨.address, .str, none⟩, ⟨.amount, .int .uint64, none⟩]
  | .txGetTransfers => []
  | .txGetTransfersQuery => [⟨.query, .reference .transferQuery, none⟩]
  | .txGetOutputsWallet => []
  | .txGetOutputsWalletQuery => [⟨.query, .reference .outputQuery, none⟩]
  | .txConfigInit => []
  | .txConfigInitCopy => [⟨.config, .reference .txConfig, none⟩]
  | .addressBookEntryInit => []
  | .addressBookEntryInitDescription =>
    [⟨.index, .int .uint64, none⟩, ⟨.address, .str, none⟩, ⟨.description, .str, none⟩]
  | .addressBookEntryInitPaymentId =>
    [⟨.index, .int .uint64, none⟩, ⟨.address, .str, none⟩, ⟨.description, .str, none⟩,
      ⟨.paymentId, .str, none⟩]
  | .setDaemonConnection =>
    [⟨.connection, .sharedPtr .rpcConnection, none⟩, ⟨.isTrusted, .optional .bool, some .pyNone⟩]
  | .setDaemonConnectionUri =>
    [⟨.uri, .str, none⟩, ⟨.username, .str, some (.str "")⟩, ⟨.password, .str, some (.str "")⟩,
      ⟨.proxy, .str, some (.str "")⟩, ⟨.isTrusted, .optional .bool, some .pyNone⟩]
  | .sync => []
  | .syncListener => [⟨.listener, .reference .walletListener, none⟩]
  | .syncFrom => [⟨.startHeight, .int .uint64, none⟩]
  | .syncFromListener =>
    [⟨.startHeight, .int .uint64, none⟩, ⟨.listener, .reference .walletListener, none⟩]
  | .getBalance => []
  | .getBalanceAccount => [⟨.accountIdx, .int .uint32, none⟩]
  | .getBalanceSubaddress =>
    [⟨.accountIdx, .int .uint32, none⟩, ⟨.subaddressIdx, .int .uint32, none⟩]
  | .getUnlockedBalance => []
  | .getUnlockedBalanceAccount => [⟨.accountIdx, .int .uint32, none⟩]
  | .getUnlockedBalanceSubaddress =>
    [⟨.accountIdx, .int .uint32, none⟩, ⟨.subaddressIdx, .int .uint32, none⟩]
  | .getAccounts => []
  | .getAccountsIncluding => [⟨.includeSubaddresses, .bool, none⟩]
  | .getAccountsTag => [⟨.tag, .str, none⟩]
  | .getAccountsIncludingTag => [⟨.includeSubaddresses, .bool, none⟩, ⟨.tag, .str, none⟩]
  | .getAccount => [⟨.accountIdx, .int .uint32, none⟩]
  | .getAccountIncluding =>
    [⟨.accountIdx, .int .uint32, none⟩, ⟨.includeSubaddresses, .bool, none⟩]
  | .getSubaddresses => [⟨.accountIdx, .int .uint32, none⟩]
  | .getSubaddressesIndices =>
    [⟨.accountIdx, .int .uint32, none⟩, ⟨.subaddressIndices, .vector (.int .uint32), none⟩]
  | .getTxs => []
  | .getTxsQuery => [⟨.query, .reference .txQuery, none⟩]
  | .getTxsHashes => [⟨.txHashes, .vector .str, none⟩]
  | .getTransfersQuery => [⟨.query, .reference .transferQuery, none⟩]
  | .getTransfers => []
  | .getTransfersAccount => [⟨.accountIndex, .int .uint32, none⟩]
  | .getTransfersSubaddress =>
    [⟨.accountIndex, .int .uint32, none⟩, ⟨.subaddressIndex, .int .uint32, none⟩]
  | .getOutputsQuery => [⟨.query, .reference .outputQuery, none⟩]
  | .getOutputs => []
  | .relayTxMetadata => [⟨.txMetadata, .str, none⟩]
  | .relayTx => [⟨.tx, .reference .txWallet, none⟩]
  | .relayTxs => [⟨.txs, .vector .txWallet, none⟩]
  | .relayTxsMetadatas => [⟨.txMetadatas, .vector .str, none⟩]
  | .getAddressBookEntriesIndices => [⟨.indices, .vector (.int .uint64), none⟩]
  | .getAddressBookEntries => []
  | .walletRpcInit => [⟨.rpcConnection, .sharedPtr .rpcConnection, none⟩]
  | .walletRpcInitUri =>
    [⟨.uri, .str, some (.str "")⟩, ⟨.username, .str, some (.str "")⟩,
      ⟨.password, .str, some (.str "")⟩, ⟨.proxyUri, .str, some (.str "")⟩,
      ⟨.zmqUri, .str, some (.str "")⟩, ⟨.timeoutMs, .optional (.int .uint32), some .pyNone⟩]
  | .openWallet => [⟨.config, .sharedPtr .walletConfig, none⟩]
  | .openWalletName => [⟨.name, .str, none⟩, ⟨.password, .str, none⟩]
  | .rpcSetDaemonConnection => [⟨.connection, .sharedPtr .rpcConnection, none⟩]
  | .rpcSetDaemonConnectionUri =>
    [⟨.uri, .str, none⟩, ⟨.username, .str, some (.str "")⟩, ⟨.password, .str, some (.str "")⟩,
      ⟨.proxy, .str, some (.str "")⟩]
  | .rpcSetDaemonConnectionTrusted =>
    [⟨.connection, .sharedPtr .rpcConnection, none⟩, ⟨.isTrusted, .bool, none⟩,
      ⟨.sslOptions, .optional (.reference .sslOptions), none⟩]

/-- The overloaded names.  `MoneroWalletRpc` has a `set_daemon_connection` of its own, which hides
that of `MoneroWallet`. -/
inductive Overloaded where
  | connectionInit | flushTxPool | daemonRpcInit | walletConfigInit | syncResultInit
  | accountTagInit | destinationInit | txGetTransfers | txGetOutputsWallet | txConfigInit
  | addressBookEntryInit | setDaemonConnection | sync | getBalance | getUnlockedBalance
  | getAccounts | getAccount | getSubaddresses | getTxs | getTransfers | getOutputs | relayTx
  | relayTxs | getAddressBookEntries | walletRpcInit | openWallet | rpcSetDaemonConnection
deriving DecidableEq

/-- The bindings of a name, in the order of their registration. -/
def Overloaded.overloads : Overloaded → List Binding
  | .connectionInit => [.connectionInit, .connectionInitCopy]
  | .flushTxPool => [.flushTxPool, .flushTxPoolHashes, .flushTxPoolHash]
  | .daemonRpcInit => [.daemonRpcInit, .daemonRpcInitUri]
  | .walletConfigInit => [.walletConfigInit, .walletConfigInitCopy]
  | .syncResultInit => [.syncResultInit, .syncResultInitValues]
  | .accountTagInit => [.accountTagInit, .accountTagInitTag, .accountTagInitIndices]
  | .destinationInit => [.destinationInit, .destinationInitAddress, .destinationInitAmount]
  | .txGetTransfers => [.txGetTransfers, .txGetTransfersQuery]
  | .txGetOutputsWallet => [.txGetOutputsWallet, .txGetOutputsWalletQuery]
  | .txConfigInit => [.txConfigInit, .txConfigInitCopy]
  | .addressBookEntryInit =>
    [.addressBookEntryInit, .addressBookEntryInitDescription, .addressBookEntryInitPaymentId]
  | .setDaemonConnection => [.setDaemonConnection, .setDaemonConnectionUri]
  | .sync => [.sync, .syncListener, .syncFrom, .syncFromListener]
  | .getBalance => [.getBalance, .getBalanceAccount, .getBalanceSubaddress]
  | .getUnlockedBalance =>
    [.getUnlockedBalance, .getUnlockedBalanceAccount, .getUnlockedBalanceSubaddress]
  | .getAccounts =>
    [.getAccounts, .getAccountsIncluding, .getAccountsTag, .getAccountsIncludingTag]
  | .getAccount => [.getAccount, .getAccountIncluding]
  | .getSubaddresses => [.getSubaddresses, .getSubaddressesIndices]
  | .getTxs => [.getTxs, .getTxsQuery, .getTxsHashes]
  | .getTransfers =>
    [.getTransfersQuery, .getTransfers, .getTransfersAccount, .getTransfersSubaddress]
  | .getOutputs => [.getOutputsQuery, .getOutputs]
  | .relayTx => [.relayTxMetadata, .relayTx]
  | .relayTxs => [.relayTxs, .relayTxsMetadatas]
  | .getAddressBookEntries => [.getAddressBookEntriesIndices, .getAddressBookEntries]
  | .walletRpcInit => [.walletRpcInit, .walletRpcInitUri]
  | .openWallet => [.openWallet, .openWalletName]
  | .rpcSetDaemonConnection =>
    [.rpcSetDaemonConnection, .rpcSetDaemonConnectionUri, .rpcSetDaemonConnectionTrusted]

abbrev BoundCandidate (ρ : Type) : Type := Candidate Keyword CppType (PyArg ρ) Binding

abbrev PyCall (ρ : Type) : Type := Call Keyword (PyArg ρ)

def Binding.candidate (b : Binding) : BoundCandidate ρ := ⟨b, b.params⟩

def Overloaded.candidates (f : Overloaded) : List (BoundCandidate ρ) :=
  f.overloads.map Binding.candidate

/-- A call of an overloaded function. -/
def Overloaded.call (f : Overloaded) (call : PyCall ρ) (heap : PyHeap ρ) :
    Option (Binding × List (CppValue ρ)) × PyHeap ρ :=
  resolve casters f.candidates call heap

/-- A call as it would be if the binding were the only one of its name. -/
def Binding.alone (b : Binding) (call : PyCall ρ) (heap : PyHeap ρ) :
    Option (Binding × List (CppValue ρ)) × PyHeap ρ :=
  b.candidate.convert casters call heap

theorem Binding.alone_singleton {b : Binding} {k : Keyword} {t : CppType}
    (h : (b.params : List (BoundParam ρ)) = [⟨k, t, none⟩]) (v : PyArg ρ) (heap : PyHeap ρ) :
    b.alone ⟨[v], []⟩ heap =
      ((t.convert v heap).1.map fun x => (b, [x]), (t.convert v heap).2) :=
  Candidate.convert_singleton (C := casters) (c := b.candidate) h v heap

/-! ## 2. The order of registration -/

/-- The bindings of a list share no call, as their parameters show. -/
def pairwiseApart (ρ : Type) : List Binding → Bool
  | [] => true
  | b :: bs =>
    (bs.all fun c => apart CppType.disjoint (b.params (ρ := ρ)) c.params) && pairwiseApart ρ bs

theorem apartAt_of_pairwiseApart {bs : List Binding} (h : pairwiseApart ρ bs = true)
    (call : PyCall ρ) :
    (bs.map Binding.candidate).Pairwise (ApartAt (C := casters) call) := by
  induction bs with
  | nil => exact .nil
  | cons b bs ih =>
    rw [pairwiseApart, Bool.and_eq_true] at h
    refine List.pairwise_cons.mpr ⟨?_, ih h.2⟩
    intro c hc
    obtain ⟨b', hb', rfl⟩ := List.mem_map.mp hc
    exact passes_or_passes_of_apart CppType.refuses_or_refuses (List.all_eq_true.mp h.1 b' hb') call

theorem pairwiseApart_overloads {f : Overloaded} (hrelay : f ≠ .relayTxs)
    (hflush : f ≠ .flushTxPool) : pairwiseApart ρ f.overloads = true := by
  cases f with
  | relayTxs => exact absurd rfl hrelay
  | flushTxPool => exact absurd rfl hflush
  | _ => rfl

/-- A string is a hash as it is, and everything else is refused as a hash. -/
theorem clearAt_flushTxPool (call : PyCall ρ) :
    ClearAt (C := casters) call (Binding.flushTxPoolHashes.candidate)
      (Binding.flushTxPoolHash.candidate) := by
  obtain ⟨positional, keywords⟩ := call
  match positional, keywords with
  | [], keywords =>
    have hunbound : bind Binding.flushTxPoolHashes.params (⟨[], keywords⟩ : PyCall ρ) = none ∨
        bind Binding.flushTxPoolHash.params (⟨[], keywords⟩ : PyCall ρ) = none :=
      bind_eq_none_of_unboundAt rfl
    rcases hunbound with h | h
    · exact Or.inl (Candidate.passes_of_bind_eq_none h)
    · exact Or.inr (Or.inl (Candidate.passes_of_bind_eq_none h))
  | [a], item :: items =>
    exact Or.inl (Candidate.passes_of_bind_eq_none (bind_singleton_cons _ a item items))
  | [a], [] =>
    by_cases hkind : a.kind = .str
    · cases a with
      | str s => exact Or.inr (Or.inr (Or.inr ⟨rfl, rfl⟩))
      | _ => cases hkind
    · have hrefuses : casters.Refuses .str a :=
        CppType.refuses_of_notMem fun hmem => hkind (List.mem_singleton.mp hmem)
      exact Or.inr (Or.inl (Candidate.passes_of_refuses rfl hrefuses))
  | _ :: _ :: _, _ => exact Or.inl (Candidate.passes_of_bind_eq_none rfl)

theorem clearAt_candidates {f : Overloaded} (hrelay : f ≠ .relayTxs) (call : PyCall ρ) :
    f.candidates.Pairwise (ClearAt (C := casters) call) := by
  rcases eq_or_ne f .flushTxPool with rfl | hflush
  · have hfirst (b : Binding) (hb : pairwiseApart ρ [.flushTxPool, b] = true) :
        ClearAt (C := casters) call (Binding.flushTxPool.candidate) b.candidate :=
      ((List.pairwise_pair.mp (apartAt_of_pairwiseApart hb call))).clearAt
    refine List.pairwise_cons.mpr ⟨?_, List.pairwise_pair.mpr (clearAt_flushTxPool call)⟩
    intro c hc
    rcases List.mem_pair.mp hc with rfl | rfl
    · exact hfirst .flushTxPoolHashes rfl
    · exact hfirst .flushTxPoolHash rfl
  · have hapart := apartAt_of_pairwiseApart (pairwiseApart_overloads hrelay hflush) call
    exact hapart.imp ApartAt.clearAt

/-- **Order of registration.**  The bindings of a name can be registered in any order, for all names
but `relay_txs`. -/
theorem resolve_perm_iff (f : Overloaded) :
    (∀ cs, f.candidates.Perm cs → ∀ (call : PyCall ρ) (heap : PyHeap ρ),
        resolve casters cs call heap = f.call call heap) ↔ f ≠ .relayTxs := by
  constructor
  · rintro h rfl
    -- An empty list is a list of transactions and a list of metadatas.
    have hswap := h [Binding.relayTxsMetadatas.candidate, Binding.relayTxs.candidate]
      (List.Perm.swap _ _ []) ⟨[.iterable none []], []⟩ default
    cases hswap
  · intro hrelay cs hperm call heap
    exact resolve_perm (clearAt_candidates hrelay call) hperm heap

/-! ## 3. As if it were the only one -/

theorem not_passes_of_isSome {b : Binding} {call : PyCall ρ} {heap : PyHeap ρ}
    (h : (b.alone call heap).1.isSome) : ¬ b.candidate.Passes casters call := by
  intro hpasses
  rw [Binding.alone, hpasses heap] at h
  cases h

theorem call_eq_alone {f : Overloaded} (hrelay : f ≠ .relayTxs) (hflush : f ≠ .flushTxPool)
    {b : Binding} (hb : b ∈ f.overloads) {call : PyCall ρ}
    (hpasses : ¬ b.candidate.Passes casters call) (heap : PyHeap ρ) :
    f.call call heap = b.alone call heap :=
  resolve_eq_convert (apartAt_of_pairwiseApart (pairwiseApart_overloads hrelay hflush) call)
    (List.mem_map_of_mem hb) hpasses heap

/-- What a name accepts is what one of its bindings accepts. -/
theorem exists_call_eq_alone {f : Overloaded} (hrelay : f ≠ .relayTxs) (hflush : f ≠ .flushTxPool)
    {call : PyCall ρ} {heap : PyHeap ρ} (h : (f.call call heap).1.isSome) :
    ∃ b ∈ f.overloads, ¬ b.candidate.Passes casters call ∧
      f.call call heap = b.alone call heap := by
  obtain ⟨c, hc, hpasses, heq⟩ := exists_resolve_eq_convert
    (apartAt_of_pairwiseApart (pairwiseApart_overloads hrelay hflush) call) h
  obtain ⟨b, hb, rfl⟩ := List.mem_map.mp hc
  exact ⟨b, hb, hpasses, heq⟩

/-- **No binding hides another.**  A call that a binding would accept if it were the only one of
its name is a call of that binding with the same values, for all names but `relay_txs` and
`flush_tx_pool`. -/
theorem call_eq_alone_iff (f : Overloaded) :
    (∀ b ∈ f.overloads, ∀ (call : PyCall ρ) (heap : PyHeap ρ), (b.alone call heap).1.isSome →
        f.call call heap = b.alone call heap) ↔ f ≠ .relayTxs ∧ f ≠ .flushTxPool := by
  constructor
  · intro h
    refine ⟨?_, ?_⟩
    · rintro rfl
      have hempty := h .relayTxsMetadatas (by decide) ⟨[.iterable none []], []⟩ default rfl
      cases hempty
    · rintro rfl
      have hstr := h .flushTxPoolHashes (by decide) ⟨[.str ""], []⟩ default rfl
      cases hstr
  · rintro ⟨hrelay, hflush⟩ b hb call heap hsome
    exact call_eq_alone hrelay hflush hb (not_passes_of_isSome hsome) heap

/-! ## 4. Relaying metadatas -/

def PyArg.isVectorString : PyArg ρ → Bool
  | .vector (.strings _) => true
  | _ => false

/-- What is left of metadatas after an attempt to cast the first one to a transaction. -/
def PyArg.again (ms : List String) : PyArg ρ → List String
  | .iterator _ => ms.tail
  | _ => ms

/-- What `relay_txs` makes of an argument that is meant as metadatas.  Without elements it is a list
of transactions, unless it is a `VectorString`, and an iterator loses its first element. -/
def relayed (ms : List String) (v : PyArg ρ) : Binding × List (CppValue ρ) :=
  if v.isVectorString || !ms.isEmpty then (.relayTxsMetadatas, [.vector (.strings (v.again ms))])
  else (.relayTxs, [.vector (.txWallets [])])

/-- The argument is meant as these metadatas. -/
def MeansMetadatas (v : PyArg ρ) (heap : PyHeap ρ) (ms : List String) : Prop :=
  (Binding.relayTxsMetadatas.alone ⟨[v], []⟩ heap).1 =
    some (.relayTxsMetadatas, [.vector (.strings ms)])

theorem yields_of_meansMetadatas {v : PyArg ρ} {heap : PyHeap ρ} {ms : List String}
    (h : MeansMetadatas v heap ms) :
    v = .vector (.strings ms) ∨ CppType.exact (.vector .str) v = none ∧
      v.yields heap = some (ms.map .str) := by
  rw [MeansMetadatas, Binding.alone_singleton rfl] at h
  obtain ⟨val, hval, hpair⟩ := Option.map_eq_some_iff.mp h
  cases hpair
  rw [CppType.convert] at hval
  cases hexact : CppType.exact (.vector .str) v with
  | some w =>
    rw [hexact] at hval
    cases hval
    cases v with
    | vector u =>
      rw [CppType.exact, Option.ite_none_right_eq_some] at hexact
      cases hexact.2
      exact Or.inl rfl
    | _ => cases hexact
  | none =>
    refine Or.inr ⟨rfl, ?_⟩
    rw [hexact] at hval
    obtain ⟨w, hw, hwms⟩ := Option.map_eq_some_iff.mp hval
    cases hwms
    cases hyields : v.yields heap with
    | none =>
      rw [fromIterable, hyields] at hw
      cases hw
    | some es =>
      rw [fromIterable, hyields] at hw
      obtain ⟨l, hl, rfl⟩ := build_str_eq_some hw
      cases hl
      rfl

/-- The first round takes a vector of transactions, which is empty when it is meant as
metadatas. -/
theorem exact_txWallet {v : PyArg ρ} {heap : PyHeap ρ} {ms : List String}
    (hyields : v.yields heap = some (ms.map .str)) :
    CppType.exact (.vector .txWallet) v = none ∨
      v = .vector (.txWallets []) ∧ ms = [] := by
  cases v with
  | vector w =>
    cases w with
    | txWallets l =>
      have helements : (BoundVector.txWallets l).elements = ms.map .str := Option.some.inj hyields
      cases l with
      | nil => exact Or.inr ⟨rfl, by simpa [BoundVector.elements] using helements⟩
      | cons p l =>
        cases ms with
        | nil => cases helements
        | cons m ms => cases p <;> cases helements
    | _ => exact Or.inl rfl
  | _ => exact Or.inl rfl

/-- The vector of transactions in the second round. -/
theorem convert_txWallet {v : PyArg ρ} {heap : PyHeap ρ} {es : List (PyArg ρ)}
    (hexact : CppType.exact (.vector .txWallet) v = none) (hyields : v.yields heap = some es) :
    CppType.convert (.vector .txWallet) v heap =
      ((BoundVector.build es .txWallet).1.map .vector,
        v.leave heap (BoundVector.build es .txWallet).2) := by
  rw [CppType.convert, hexact]
  simp only [fromIterable, hyields]

/-- The vector of strings in the second round. -/
theorem convert_str {v : PyArg ρ} {heap : PyHeap ρ} {ms : List String}
    (hexact : CppType.exact (.vector .str) v = none)
    (hyields : v.yields heap = some (ms.map .str)) :
    (CppType.convert (.vector .str) v heap).1 = some (.vector (.strings ms)) := by
  rw [CppType.convert, hexact]
  simp only [fromIterable, hyields, build_str_map, Option.map_some]

/-- Iterating again: an iterator goes on, everything else starts anew. -/
theorem yields_again {v : PyArg ρ} {heap : PyHeap ρ} {ms : List String}
    (hyields : v.yields heap = some (ms.map .str)) :
    v.yields (v.leave heap (ms.tail.map .str)) = some ((v.again ms).map .str) := by
  cases v with
  | iterator i => exact congrArg some (heap.set_self i _)
  | _ => exact hyields

theorem isVectorString_eq_false {v : PyArg ρ} (h : CppType.exact (.vector .str) v = none) :
    v.isVectorString = false := by
  cases v with
  | vector w =>
    cases w with
    | strings l => cases h
    | _ => rfl
  | _ => rfl

theorem not_exact_relayTxs {v : PyArg ρ} (htx : CppType.exact (.vector .txWallet) v = none)
    (hstr : CppType.exact (.vector .str) v = none) :
    Overloaded.relayTxs.candidates.findSome?
      (fun c : BoundCandidate ρ => c.exact casters ⟨[v], []⟩) = none := by
  refine List.findSome?_eq_none_iff.mpr fun c hc => ?_
  rcases List.mem_pair.mp hc with rfl | rfl
  · exact (Candidate.exact_singleton rfl v).trans (congrArg (Option.map _) htx)
  · exact (Candidate.exact_singleton rfl v).trans (congrArg (Option.map _) hstr)

/-- **What becomes of metadatas.** -/
theorem relayTxs_call {v : PyArg ρ} {heap : PyHeap ρ} {ms : List String}
    (h : MeansMetadatas v heap ms) :
    (Overloaded.relayTxs.call ⟨[v], []⟩ heap).1 = some (relayed ms v) := by
  rcases yields_of_meansMetadatas h with rfl | ⟨hstr, hyields⟩
  · rfl
  rcases exact_txWallet hyields with htx | ⟨rfl, rfl⟩
  · have htxs : Binding.relayTxs.candidate.convert casters ⟨[v], []⟩ heap = _ :=
      Binding.alone_singleton rfl v heap
    have hmetadatas (heap' : PyHeap ρ) :
        Binding.relayTxsMetadatas.candidate.convert casters ⟨[v], []⟩ heap' = _ :=
      Binding.alone_singleton rfl v heap'
    rw [convert_txWallet htx hyields] at htxs
    rw [Overloaded.call, resolve_of_not_exact (not_exact_relayTxs htx hstr)]
    change (firstConverted casters [Binding.relayTxs.candidate,
      Binding.relayTxsMetadatas.candidate] ⟨[v], []⟩ heap).1 = _
    rw [firstConverted, htxs, relayed, isVectorString_eq_false hstr]
    cases ms with
    | nil => rfl
    | cons m rest =>
      -- The first metadata is no transaction, and the second binding starts where this one stopped.
      have hagain : v.yields (v.leave heap (rest.map .str)) = _ := yields_again hyields
      change (firstConverted casters [Binding.relayTxsMetadatas.candidate] ⟨[v], []⟩
        (v.leave heap (rest.map .str))).1 = _
      rw [firstConverted_singleton, hmetadatas, convert_str hstr hagain]
      rfl
  · rfl

/-- **Metadatas that are relayed.**  `relay_txs(v)` relays the metadatas that `v` is meant as if and
only if `v` is a `VectorString`, or it has elements and is not an iterator. -/
theorem relayTxs_metadatas_iff {v : PyArg ρ} {heap : PyHeap ρ} {ms : List String}
    (h : MeansMetadatas v heap ms) :
    (Overloaded.relayTxs.call ⟨[v], []⟩ heap).1 =
        some (.relayTxsMetadatas, [.vector (.strings ms)]) ↔
      v.isVectorString = true ∨ ms ≠ [] ∧ ∀ i, v ≠ .iterator i := by
  rw [relayTxs_call h, Option.some.injEq, relayed]
  cases hvector : v.isVectorString with
  | true =>
    cases v with
    | vector w => simp [PyArg.again]
    | _ => cases hvector
  | false =>
    cases ms with
    | nil => simp
    | cons m rest =>
      cases v with
      | iterator i =>
        simp [PyArg.again]
      | _ => simp [PyArg.again]

/-- The list `["a", "b"]` is relayed. -/
theorem relayTxs_metadatas_iff_list :
    (Overloaded.relayTxs.call ⟨[.iterable none [.str "a", .str "b"]], []⟩
        (default : PyHeap Unit)).1 =
        some (.relayTxsMetadatas, [.vector (.strings ["a", "b"])]) ↔
      (PyArg.iterable none [.str "a", .str "b"] : PyArg Unit).isVectorString = true ∨
        ["a", "b"] ≠ [] ∧
          ∀ i, (PyArg.iterable none [.str "a", .str "b"] : PyArg Unit) ≠ .iterator i :=
  relayTxs_metadatas_iff rfl

/-! ## 5. A hash that is taken apart -/

/-- **A bare hash.**  `get_txs(s)` takes a string that is not empty for the list of its characters,
and so it returns no transaction, unless there is one whose hash is a single character. -/
theorem getTxs_str {τ : Type} {hash : τ → Option String}
    {getTxs : Wallet.MoneroTxQuery ρ → List τ} {s : String} (hs : s ≠ "")
    (hlong : ∀ tx ∈ getTxs { hashes := characters s }, ∃ h, hash tx = some h ∧ h.length ≠ 1)
    (heap : PyHeap ρ) :
    ∃ txHashes, Overloaded.getTxs.call ⟨[.str s], []⟩ heap =
        (some (.getTxsHashes, [.vector (.strings txHashes)]), heap) ∧
      Wallet.getAndSortTxsHashes hash getTxs txHashes = some [] := by
  have halone : Binding.getTxsHashes.alone ⟨[.str s], []⟩ heap =
      (some (.getTxsHashes, [.vector (.strings (characters s))]), heap) := by
    rw [Binding.alone_singleton rfl]
    simp only [CppType.convert, CppType.exact, fromIterable, PyArg.yields, build_str_map,
      Option.map_some, PyArg.leave]
  have hsome : (Binding.getTxsHashes.alone ⟨[.str s], []⟩ heap).1.isSome := by
    rw [halone]
    rfl
  refine ⟨characters s, ?_, ?_⟩
  · rw [call_eq_alone (f := .getTxs) (by decide) (by decide) (by decide)
      (not_passes_of_isSome hsome), halone]
  · have hne : characters s ≠ [] := by
      simpa [characters] using hs
    have hhashes : ∀ tx ∈ getTxs { hashes := characters s }, (hash tx).isSome = true := by
      intro tx htx
      obtain ⟨h, hh, -⟩ := hlong tx htx
      rw [hh]
      rfl
    rw [Wallet.getAndSortTxsHashes, Wallet.getAndSortTxs, Wallet.sortTxsWallet_eq hhashes hne,
      Option.some.injEq, List.filterMap_eq_nil_iff]
    intro c hc
    obtain ⟨char, -, rfl⟩ := List.mem_map.mp hc
    refine Option.eq_none_iff_forall_ne_some.mpr fun tx hfirst => ?_
    obtain ⟨hmem, hhash⟩ := Assoc.first_eq_some hfirst
    obtain ⟨h, hh, hlength⟩ := hlong tx hmem
    rw [hh] at hhash
    cases hhash
    exact hlength (String.length_singleton)

/-- A wallet with two transactions that answers with those whose hashes are asked for. -/
def twoTxs (query : Wallet.MoneroTxQuery Unit) : List String :=
  ["4b2f", "9c01"].filter (· ∈ query.hashes)

/-- The hash of one of them. -/
theorem getTxs_str_one :
    ∃ txHashes, Overloaded.getTxs.call ⟨[.str "4b2f"], []⟩ (default : PyHeap Unit) =
        (some (.getTxsHashes, [.vector (.strings txHashes)]), default) ∧
      Wallet.getAndSortTxsHashes (some : String → Option String) twoTxs txHashes = some [] := by
  refine getTxs_str (by decide) ?_ default
  intro tx htx
  refine ⟨tx, rfl, ?_⟩
  rcases List.mem_pair.mp (List.mem_of_mem_filter htx) with rfl | rfl <;> decide

/-! ## 6. The connection of a wallet that uses RPC

`MoneroWalletRpc` binds `set_daemon_connection` again, and its bindings have no `is_trusted` but
together with `ssl_options`. -/

/-- The binding of `MoneroWalletRpc` for a binding of `MoneroWallet`. -/
def Binding.hiding : Binding → Binding
  | .setDaemonConnection => .rpcSetDaemonConnection
  | _ => .rpcSetDaemonConnectionUri

/-- The call mentions `is_trusted`, which comes last. -/
def MentionsIsTrusted (b : Binding) (call : PyCall ρ) : Prop :=
  (b.hiding.params (ρ := ρ)).length < call.positional.length ∨
    Keyword.isTrusted ∈ call.keywords.map Prod.fst

theorem params_eq_hiding {b : Binding} (hb : b ∈ Overloaded.setDaemonConnection.overloads) :
    (b.params : List (BoundParam ρ)) =
      b.hiding.params ++ [⟨.isTrusted, .optional .bool, some .pyNone⟩] := by
  rcases List.mem_pair.mp hb with rfl | rfl <;> rfl

/-- Only its own binding of `MoneroWalletRpc` has anything to do with a call of a binding of
`MoneroWallet`. -/
theorem passes_of_ne_hiding {b c : Binding} (hb : b ∈ Overloaded.setDaemonConnection.overloads)
    (hc : c ∈ Overloaded.rpcSetDaemonConnection.overloads) (hne : c ≠ b.hiding) {call : PyCall ρ}
    (hpasses : ¬ b.candidate.Passes casters call) : c.candidate.Passes casters call := by
  have hapart : apart CppType.disjoint (b.params (ρ := ρ)) c.params = true := by
    rcases List.mem_pair.mp hb with rfl | rfl
    all_goals
      simp only [Overloaded.overloads, List.mem_cons, List.not_mem_nil, or_false] at hc
      rcases hc with rfl | rfl | rfl
      all_goals first
        | rfl
        | exact absurd rfl hne
  exact (passes_or_passes_of_apart CppType.refuses_or_refuses (c := b.candidate)
    (d := c.candidate) hapart call).resolve_left hpasses

/-- **A hidden method.**  A call of `set_daemon_connection` that `MoneroWallet` accepts is accepted
by `MoneroWalletRpc` if and only if it does not mention `is_trusted`. -/
theorem rpcSetDaemonConnection_isSome_iff {call : PyCall ρ} {heap : PyHeap ρ} {b : Binding}
    {vs : List (CppValue ρ)}
    (h : (Overloaded.setDaemonConnection.call call heap).1 = some (b, vs)) :
    (Overloaded.rpcSetDaemonConnection.call call heap).1.isSome ↔ ¬ MentionsIsTrusted b call := by
  have haccepted : (Overloaded.setDaemonConnection.call call heap).1.isSome := by
    rw [h]
    rfl
  obtain ⟨b', hb', hpasses, heq⟩ := exists_call_eq_alone (by decide) (by decide) haccepted
  rw [heq] at h
  obtain rfl : b = b' := Candidate.id_eq_of_convert h
  constructor
  · intro hsome hmentions
    obtain ⟨c, hc, hcpasses, -⟩ := exists_call_eq_alone (by decide) (by decide) hsome
    rcases eq_or_ne c b.hiding with rfl | hne
    · refine hcpasses (Candidate.passes_of_bind_eq_none (bind_eq_none_of_mentioned ?_ hmentions))
      rcases List.mem_pair.mp hb' with rfl | rfl <;>
        simp [Binding.candidate, Binding.hiding, Binding.params]
    · exact hcpasses (passes_of_ne_hiding hb' hc hne hpasses)
  · intro hmentions
    rw [MentionsIsTrusted, not_or, not_lt] at hmentions
    obtain ⟨args, hbind, hargs⟩ := Candidate.isSome_convert_iff.mp
      (show (b.candidate.convert casters call heap).1.isSome by rw [← Binding.alone, h]; rfl)
    change bind b.params call = some args at hbind
    rw [params_eq_hiding hb', bind_concat_eq rfl hmentions.1 hmentions.2] at hbind
    obtain ⟨args', hbind', rfl⟩ := Option.map_eq_some_iff.mp hbind
    have hhiding : (b.hiding.alone call heap).1.isSome :=
      Candidate.isSome_convert_iff.mpr ⟨args', hbind', casters.isSome_convertAll_of_append hargs⟩
    have hmem : b.hiding ∈ Overloaded.rpcSetDaemonConnection.overloads := by
      rcases List.mem_pair.mp hb' with rfl | rfl <;> decide
    rw [call_eq_alone (by decide) (by decide) hmem (not_passes_of_isSome hhiding)]
    exact hhiding

/-- `set_daemon_connection(connection, True)`. -/
theorem rpcSetDaemonConnection_isSome_iff_trusted :
    (Overloaded.rpcSetDaemonConnection.call ⟨[.object .rpcConnection (), .bool true], []⟩
        default).1.isSome ↔
      ¬ MentionsIsTrusted .setDaemonConnection
        (⟨[.object .rpcConnection (), .bool true], []⟩ : PyCall Unit) :=
  rpcSetDaemonConnection_isSome_iff rfl

end MoneroPython.Dispatch
