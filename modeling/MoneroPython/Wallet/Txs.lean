/-
# Looking up transactions

`get_txs` with a query or with hashes sorts what the core answers
(`PyMoneroUtils::sort_txs_wallet` in `utils/py_monero_utils.cpp`), and `get_tx` takes the first
transaction of the answer.  The transactions are elements of an arbitrary type `τ`; all that is
read of one is its hash, which may be unset.

`sortTxsWallet_eq` says what sorting returns: for each requested hash the first transaction of
the answer that has it.  `getTxs_eq_getTxOneByOne` follows: whatever order the core chooses in
each call, one batch lookup returns what the lookups one by one return.  Without requested
hashes each transaction is replaced by the first one that has its hash, so the answer comes back
as it is only if different transactions have different hashes (`getAndSortTxs_eq_self_iff`).
-/
import MoneroPython.Lib.Assoc
import MoneroPython.Wallet.Calls

namespace MoneroPython.Wallet

variable {ρ τ : Type} (hash : τ → Option String)

/-! ## 1. The source -/

/-- The variables of the first loop of `sort_txs_wallet`. -/
structure TxIndex (τ : Type) where
  txHashes : List String := []
  txMap : List (String × τ) := []

/-- One round of the loop.  `tx->m_hash.get()` needs a hash that is set. -/
def TxIndex.enter (empty : Bool) (index : TxIndex τ) (tx : τ) : Option (TxIndex τ) := do
  let txHash ← hash tx
  pure {
    txHashes := if empty then index.txHashes ++ [txHash] else index.txHashes
    txMap := Assoc.emplace txHash tx index.txMap }

/-- `PyMoneroUtils::sort_txs_wallet`, or nothing when a transaction has no hash. -/
def sortTxsWallet (txs : List τ) (hashes : List String) : Option (List τ) := do
  let index ← txs.foldlM (TxIndex.enter hash hashes.isEmpty) {}
  let vHashes := if hashes.isEmpty then index.txHashes else hashes
  pure (vHashes.filterMap fun txHash => index.txMap.lookup txHash)

/-- `PyMoneroUtils::get_and_sort_txs`, where `getTxs` is the core's `get_txs(query)`. -/
def getAndSortTxs (getTxs : MoneroTxQuery ρ → List τ) (query : MoneroTxQuery ρ) :
    Option (List τ) :=
  sortTxsWallet hash (getTxs query) query.hashes

/-- The overload with hashes. -/
def getAndSortTxsHashes (getTxs : MoneroTxQuery ρ → List τ) (txHashes : List String) :
    Option (List τ) :=
  getAndSortTxs hash getTxs { hashes := txHashes }

/-- The lambda of `get_tx`. -/
def getTx (getTxs : MoneroTxQuery ρ → List τ) (txHash : String) : Option τ :=
  (getTxs { hashes := [txHash] }).head?

/-! ## 2. What sorting returns -/

variable {hash}

/-- After the first loop the map holds the first transaction of each hash.  The hashes have been
collected in order if none was requested. -/
theorem foldlM_enter (empty : Bool) {txs : List τ} (htxs : ∀ tx ∈ txs, (hash tx).isSome = true)
    (index : TxIndex τ) :
    ∃ index', txs.foldlM (TxIndex.enter hash empty) index = some index' ∧
      (∀ h, index'.txMap.lookup h =
        (index.txMap.lookup h).or (Assoc.first hash (some h) txs)) ∧
      (empty = true → index'.txHashes.map some = index.txHashes.map some ++ txs.map hash) := by
  induction txs generalizing index with
  | nil => exact ⟨index, rfl, fun h => by simp [Assoc.first], fun _ => by simp⟩
  | cons tx txs ih =>
    obtain ⟨txHash, htx⟩ := Option.isSome_iff_exists.mp (htxs tx (by simp))
    obtain ⟨index', hfold, hlookup, hhashes⟩ := ih (fun t ht => htxs t (List.mem_cons_of_mem _ ht))
      { txHashes := if empty then index.txHashes ++ [txHash] else index.txHashes
        txMap := Assoc.emplace txHash tx index.txMap }
    refine ⟨index', ?_, ?_, ?_⟩
    · rw [List.foldlM_cons, TxIndex.enter, htx]
      exact hfold
    · intro h
      rw [hlookup, Assoc.lookup_emplace, Option.or_assoc, Assoc.first, Assoc.first,
        List.find?_cons, htx]
      rcases eq_or_ne txHash h with rfl | hne
      · simp
      · simp [hne, hne.symm]
    · intro hempty
      rw [hhashes hempty, if_pos hempty, List.map_append, List.map_cons, List.map_nil,
        List.map_cons, htx, List.append_assoc, List.singleton_append]

/-- **Sorting by requested hashes.**  For each hash in the order of the request, the first
transaction that has it, if there is one. -/
theorem sortTxsWallet_eq {txs : List τ} (htxs : ∀ tx ∈ txs, (hash tx).isSome = true)
    {hashes : List String} (hne : hashes ≠ []) :
    sortTxsWallet hash txs hashes =
      some (hashes.filterMap fun h => Assoc.first hash (some h) txs) := by
  obtain ⟨index, hfold, hlookup, -⟩ := foldlM_enter false htxs {}
  have hempty : hashes.isEmpty = false := by simpa using hne
  simp only [sortTxsWallet, hfold, hempty, Option.bind_eq_bind, Option.bind_some,
    Bool.false_eq_true, if_false, Option.pure_def, Option.some.injEq]
  congr 1
  funext h
  rw [hlookup, List.lookup_nil, Option.none_or]

/-- **Sorting without requested hashes.**  Each transaction is replaced by the first one that has
its hash. -/
theorem sortTxsWallet_nil_eq {txs : List τ} (htxs : ∀ tx ∈ txs, (hash tx).isSome = true) :
    sortTxsWallet hash txs [] =
      some (txs.filterMap fun tx => Assoc.first hash (hash tx) txs) := by
  obtain ⟨index, hfold, hlookup, hhashes⟩ := foldlM_enter true htxs {}
  have hcollected : index.txHashes.map some = txs.map hash := hhashes rfl
  have hfound : (index.txHashes.filterMap fun txHash => index.txMap.lookup txHash) =
      txs.filterMap fun tx => Assoc.first hash (hash tx) txs := by
    calc (index.txHashes.filterMap fun txHash => index.txMap.lookup txHash)
        = index.txHashes.filterMap fun txHash => Assoc.first hash (some txHash) txs := by
          apply List.filterMap_congr
          intro h _
          rw [hlookup, List.lookup_nil, Option.none_or]
      _ = (index.txHashes.map some).filterMap fun k => Assoc.first hash k txs := by
          rw [List.filterMap_map]
          rfl
      _ = txs.filterMap fun tx => Assoc.first hash (hash tx) txs := by
          rw [hcollected, List.filterMap_map]
          rfl
  simp only [sortTxsWallet, List.isEmpty_nil, hfold, Option.bind_eq_bind, Option.bind_some, if_true,
    Option.pure_def, hfound]

/-- **`sort_txs_wallet` against its naive specification.**  With requested hashes it returns the
first transaction of each requested hash that has one, in the order of the request.  So it
returns nothing that was not there, it returns each requested transaction that was there, and
sorting again by the same hashes changes nothing. -/
theorem sortTxsWallet_naive {txs : List τ} (htxs : ∀ tx ∈ txs, (hash tx).isSome = true)
    {hashes : List String} (hne : hashes ≠ []) :
    ∃ sorted, sortTxsWallet hash txs hashes = some sorted ∧
      (sorted = hashes.filterMap fun h => txs.find? fun tx => hash tx = some h) ∧
      (∀ tx ∈ sorted, tx ∈ txs) ∧
      (∀ h ∈ hashes, ∀ tx ∈ txs, hash tx = some h → ∃ tx' ∈ sorted, hash tx' = some h) ∧
      sortTxsWallet hash sorted hashes = some sorted := by
  refine ⟨_, sortTxsWallet_eq htxs hne, rfl, ?_, ?_, ?_⟩
  · intro tx htx
    obtain ⟨h, -, hfirst⟩ := List.mem_filterMap.mp htx
    exact (Assoc.first_eq_some hfirst).1
  · intro h hh tx htx hhash
    obtain ⟨tx', hfirst⟩ := Option.isSome_iff_exists.mp (Assoc.first_isSome hash htx)
    rw [hhash] at hfirst
    exact ⟨tx', List.mem_filterMap.mpr ⟨h, hh, hfirst⟩, (Assoc.first_eq_some hfirst).2⟩
  · have hsorted : ∀ tx ∈ hashes.filterMap fun h => Assoc.first hash (some h) txs,
        (hash tx).isSome = true := by
      intro tx htx
      obtain ⟨h, -, hfirst⟩ := List.mem_filterMap.mp htx
      exact htxs tx (Assoc.first_eq_some hfirst).1
    rw [sortTxsWallet_eq hsorted hne, Option.some.injEq]
    apply List.filterMap_congr
    intro h hh
    have hkeys : (hashes.filterMap fun h => Assoc.first hash (some h) txs) =
        (hashes.map some).filterMap fun k => Assoc.first hash k txs := by
      rw [List.filterMap_map]
      rfl
    rw [hkeys]
    exact Assoc.first_filterMap_first (List.mem_map_of_mem hh)

/-- A repeated hash, an unknown one, and two transactions with one hash. -/
theorem sortTxsWallet_naive_repeated :
    ∃ sorted, sortTxsWallet (fun tx : String × ℕ => some tx.1) [("aa", 0), ("bb", 1), ("aa", 2)]
        ["bb", "zz", "aa", "bb"] = some sorted ∧
      (sorted = ["bb", "zz", "aa", "bb"].filterMap fun h =>
        [("aa", 0), ("bb", 1), ("aa", 2)].find? fun tx => some tx.1 = some h) ∧
      (∀ tx ∈ sorted, tx ∈ [("aa", 0), ("bb", 1), ("aa", 2)]) ∧
      (∀ h ∈ ["bb", "zz", "aa", "bb"], ∀ tx ∈ [("aa", 0), ("bb", 1), ("aa", 2)],
        some tx.1 = some h → ∃ tx' ∈ sorted, some tx'.1 = some h) ∧
      sortTxsWallet (fun tx : String × ℕ => some tx.1) sorted ["bb", "zz", "aa", "bb"] =
        some sorted :=
  sortTxsWallet_naive (by simp) (by decide)

/-- **A query without hashes.**  `get_txs` hands on what the core answers if and only if the
answer has no two different transactions with one hash. -/
theorem getAndSortTxs_eq_self_iff (getTxs : MoneroTxQuery ρ → List τ) {query : MoneroTxQuery ρ}
    (hquery : query.hashes = []) (hhashed : ∀ tx ∈ getTxs query, (hash tx).isSome = true) :
    getAndSortTxs hash getTxs query = some (getTxs query) ↔
      ∀ tx ∈ getTxs query, ∀ tx' ∈ getTxs query, hash tx = hash tx' → tx = tx' := by
  rw [getAndSortTxs, hquery, sortTxsWallet_nil_eq hhashed, Option.some.injEq]
  exact Assoc.filterMap_first_eq_self_iff

theorem getAndSortTxs_eq_self_iff_twice :
    getAndSortTxs (ρ := Unit) some (fun _ => ["aa", "bb", "aa"]) {} = some ["aa", "bb", "aa"] ↔
      ∀ tx ∈ ["aa", "bb", "aa"], ∀ tx' ∈ ["aa", "bb", "aa"], some tx = some tx' → tx = tx' :=
  getAndSortTxs_eq_self_iff (fun _ => ["aa", "bb", "aa"]) rfl (by simp)

/-- Two transactions with one hash: the first one is returned twice. -/
theorem getAndSortTxs_loses_transaction :
    ¬ ∀ (getTxs : MoneroTxQuery Unit → List ℕ) (query : MoneroTxQuery Unit), query.hashes = [] →
      getAndSortTxs (fun _ => some "aa") getTxs query = some (getTxs query) := by
  intro hpass
  have hsorted : getAndSortTxs (fun _ : ℕ => some "aa") (fun _ : MoneroTxQuery Unit => [0, 1]) {} =
      some [0, 0] := rfl
  have hsame := hpass (fun _ => [0, 1]) {} rfl
  rw [hsorted] at hsame
  exact absurd hsame (by decide)

/-! ## 3. Batch lookup and single lookup -/

/-- The transactions of a wallet: their hashes are set and pairwise distinct. -/
structure TxStore (hash : τ → Option String) where
  txs : List τ
  hashed : ∀ tx ∈ txs, (hash tx).isSome = true
  distinct : (txs.map hash).Nodup

/-- The core answers a query that has hashes with the stored transactions of these hashes, in
any order. -/
def AnswersByHash (store : TxStore hash) (getTxs : MoneroTxQuery ρ → List τ) : Prop :=
  ∀ query, query.hashes ≠ [] →
    (getTxs query).Perm (store.txs.filter fun tx => (hash tx).any (· ∈ query.hashes))

variable {store : TxStore hash} {getTxs : MoneroTxQuery ρ → List τ}

theorem AnswersByHash.mem_iff (hcore : AnswersByHash store getTxs) {query : MoneroTxQuery ρ}
    (hne : query.hashes ≠ []) {tx : τ} :
    tx ∈ getTxs query ↔ tx ∈ store.txs ∧ ∃ h ∈ query.hashes, hash tx = some h := by
  rw [(hcore query hne).mem_iff, List.mem_filter, Option.any_eq_true]
  simp [and_comm]

/-- Whatever the order of the answer, the transaction found for a requested hash is the one the
wallet holds. -/
theorem AnswersByHash.first_eq (hcore : AnswersByHash store getTxs) (query : MoneroTxQuery ρ)
    {h : String} (hh : h ∈ query.hashes) :
    Assoc.first hash (some h) (getTxs query) = Assoc.first hash (some h) store.txs := by
  have hperm := hcore query (List.ne_nil_of_mem hh)
  have hdistinct := store.distinct.sublist
    ((List.filter_sublist (p := fun tx => (hash tx).any (· ∈ query.hashes))).map hash)
  rw [← Assoc.first_perm hperm.symm hdistinct]
  apply Assoc.first_filter
  intro tx htx
  simpa [htx] using hh

/-- `get_tx` returns the transaction that the wallet holds. -/
theorem AnswersByHash.getTx_eq (hcore : AnswersByHash store getTxs) (h : String) :
    getTx getTxs h = Assoc.first hash (some h) store.txs := by
  rw [← hcore.first_eq { hashes := [h] } (List.mem_singleton_self h), getTx, Assoc.first]
  -- every transaction of the answer has the hash, so the first one is the first with the hash
  cases hanswer : getTxs { hashes := [h] } with
  | nil => rfl
  | cons tx txs =>
    have hmem : tx ∈ getTxs { hashes := [h] } := by simp [hanswer]
    obtain ⟨-, h', hh', htx⟩ := (hcore.mem_iff (by simp)).mp hmem
    rw [List.mem_singleton.mp hh'] at htx
    simp [htx]

theorem AnswersByHash.getAndSortTxs_eq (hcore : AnswersByHash store getTxs)
    {query : MoneroTxQuery ρ} (hne : query.hashes ≠ []) :
    getAndSortTxs hash getTxs query =
      some (query.hashes.filterMap fun h => Assoc.first hash (some h) store.txs) := by
  rw [getAndSortTxs, sortTxsWallet_eq _ hne]
  · congr 1
    apply List.filterMap_congr
    intro h hh
    exact hcore.first_eq query hh
  · intro tx htx
    exact store.hashed tx ((hcore.mem_iff hne).mp htx).1

/-- Calling `get_tx` for each hash in order and dropping the `None` results.  The core's answers
may differ from call to call: `core n` is its `get_txs` in the `n`-th call. -/
def getTxOneByOne (core : ℕ → MoneroTxQuery ρ → List τ) : ℕ → List String → List τ
  | _, [] => []
  | n, h :: hs =>
    match getTx (core n) h with
    | some tx => tx :: getTxOneByOne core (n + 1) hs
    | none => getTxOneByOne core (n + 1) hs

theorem getTxOneByOne_eq {core : ℕ → MoneroTxQuery ρ → List τ}
    (hcore : ∀ n, AnswersByHash store (core n)) (hashes : List String) (n : ℕ) :
    getTxOneByOne core n hashes =
      hashes.filterMap fun h => Assoc.first hash (some h) store.txs := by
  induction hashes generalizing n with
  | nil => rfl
  | cons h hs ih =>
    rw [getTxOneByOne, (hcore n).getTx_eq, List.filterMap_cons, ih]
    cases Assoc.first hash (some h) store.txs <;> rfl

/-- **Batch lookup equals one-by-one lookup.**  `get_txs(H)` and `get_txs` of any query with
`hashes = H` return what `get_tx` returns for each hash of `H` in order, without the `None`
results, in whichever calls to the core these lookups are made. -/
theorem getTxs_eq_getTxOneByOne {core : ℕ → MoneroTxQuery ρ → List τ}
    (hcore : ∀ n, AnswersByHash store (core n)) {hashes : List String} (hne : hashes ≠ [])
    (n m : ℕ) :
    getAndSortTxsHashes hash (core n) hashes = some (getTxOneByOne core m hashes) ∧
      ∀ query : MoneroTxQuery ρ, query.hashes = hashes →
        getAndSortTxs hash (core n) query = some (getTxOneByOne core m hashes) := by
  have hquery : ∀ query : MoneroTxQuery ρ, query.hashes = hashes →
      getAndSortTxs hash (core n) query = some (getTxOneByOne core m hashes) := by
    rintro query rfl
    rw [(hcore n).getAndSortTxs_eq hne, getTxOneByOne_eq hcore]
  exact ⟨hquery { hashes } rfl, hquery⟩

/-- A wallet with two transactions, which are their own hashes. -/
def twoTxs : TxStore (some : String → Option String) where
  txs := ["aa", "bb"]
  hashed := by simp
  distinct := by decide

/-- A core that answers every other call in the opposite order. -/
def alternatingCore (n : ℕ) (query : MoneroTxQuery Unit) : List String :=
  let found := twoTxs.txs.filter (· ∈ query.hashes)
  if n % 2 = 0 then found else found.reverse

theorem alternatingCore_answersByHash (n : ℕ) : AnswersByHash twoTxs (alternatingCore n) := by
  intro query _
  simp only [alternatingCore, Option.any_some]
  split
  · exact List.Perm.refl _
  · exact List.reverse_perm _

/-- A repeated hash and an unknown one, with answers in different orders. -/
theorem getTxs_eq_getTxOneByOne_alternating :
    getAndSortTxsHashes some (alternatingCore 1) ["bb", "zz", "aa", "bb"] =
        some (getTxOneByOne alternatingCore 2 ["bb", "zz", "aa", "bb"]) ∧
      ∀ query : MoneroTxQuery Unit, query.hashes = ["bb", "zz", "aa", "bb"] →
        getAndSortTxs some (alternatingCore 1) query =
          some (getTxOneByOne alternatingCore 2 ["bb", "zz", "aa", "bb"]) :=
  getTxs_eq_getTxOneByOne alternatingCore_answersByHash (by decide) 1 2

end MoneroPython.Wallet
