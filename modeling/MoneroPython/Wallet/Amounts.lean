/-
# The incoming amount of a transaction

`MoneroTxWallet.get_incoming_amount` adds up the amounts of the incoming transfers in a
`uint64_t` (`wallet/py_monero_wallet_bindings.cpp`).  The amounts are properties that Python may
set to any 64-bit value, and the loop has no check, so a total from `2 ^ 64` on wraps around.

`exactIncome_iff` is the exact condition.  The loop cannot fail, so what it returns is either the
sum of the amounts that are set or a smaller number, and nothing tells the two apart.
-/
import MoneroPython.Lib.Accumulate

namespace MoneroPython.Wallet

open Accumulate

/-! ## 1. The source -/

/-- `monero_incoming_transfer`, as far as the loop reads it. -/
structure MoneroIncomingTransfer where
  amount : Option UInt64 := none
deriving DecidableEq

/-- `monero_tx_wallet`, as far as the loop reads it.  None of the transfers is null. -/
structure MoneroTxWallet where
  incomingTransfers : List MoneroIncomingTransfer := []
deriving DecidableEq

namespace MoneroTxWallet

/-- The lambda of `get_incoming_amount`. -/
def getIncomingAmount (tx : MoneroTxWallet) : UInt64 :=
  tx.incomingTransfers.foldl
    (fun amount transfer =>
      match transfer.amount with
      | some transferAmount => amount + transferAmount
      | none => amount) 0

/-! ## 2. What it should return -/

/-- The amounts that are set. -/
def setAmounts (tx : MoneroTxWallet) : List UInt64 := tx.incomingTransfers.filterMap (·.amount)

/-- Their sum. -/
def received (tx : MoneroTxWallet) : ℕ := (tx.setAmounts.map UInt64.toNat).sum

/-- The amount that is returned is the sum, whatever the order of the transfers, and no transfer
received more than that. -/
structure ExactIncome (tx : MoneroTxWallet) : Prop where
  total : tx.getIncomingAmount.toNat = tx.received
  order : ∀ transfers, tx.incomingTransfers.Perm transfers →
    getIncomingAmount { incomingTransfers := transfers } = tx.getIncomingAmount
  amount_le : ∀ transfer ∈ tx.incomingTransfers, ∀ amount, transfer.amount = some amount →
    amount ≤ tx.getIncomingAmount

/-! ## 3. What it returns -/

/-- The loop passes over the transfers without an amount. -/
theorem getIncomingAmount_eq (tx : MoneroTxWallet) :
    tx.getIncomingAmount = total tx.setAmounts := by
  rw [getIncomingAmount, total, setAmounts, List.foldl_filterMap]
  congr 1
  funext amount transfer
  cases transfer.amount with
  | none => rfl
  | some transferAmount => rfl

/-- The amounts of reordered transfers are the reordered amounts. -/
theorem getIncomingAmount_perm {tx : MoneroTxWallet} {transfers : List MoneroIncomingTransfer}
    (hperm : tx.incomingTransfers.Perm transfers) :
    getIncomingAmount { incomingTransfers := transfers } = tx.getIncomingAmount := by
  have hamounts : (transfers.filterMap (·.amount)).Perm tx.setAmounts :=
    (hperm.filterMap (·.amount)).symm
  rw [getIncomingAmount_eq, getIncomingAmount_eq]
  exact UInt64.toNat_inj.mp (val_total_perm uint64_isWord hamounts)

/-- **The incoming amount.**  `get_incoming_amount` returns the exact sum, in any order of the
transfers and not less than any of the amounts, if and only if the sum fits 64 bits. -/
theorem exactIncome_iff (tx : MoneroTxWallet) : tx.ExactIncome ↔ tx.received < 2 ^ 64 := by
  have hexact : tx.getIncomingAmount.toNat = tx.received ↔ tx.received < 2 ^ 64 := by
    rw [getIncomingAmount_eq]
    exact val_total_eq_iff uint64_isWord tx.setAmounts
  constructor
  · intro hincome
    exact hexact.mp hincome.total
  · intro hfits
    refine ⟨hexact.mpr hfits, fun _ => getIncomingAmount_perm, ?_⟩
    intro transfer htransfer amount hamount
    have hmem : amount ∈ tx.setAmounts := List.mem_filterMap.mpr ⟨transfer, htransfer, hamount⟩
    rw [getIncomingAmount_eq, UInt64.le_iff_toNat_le]
    exact val_le_val_total uint64_isWord hfits hmem

/-- Two transfers, of `2 ^ 64 - 1` and of 1: nothing seems to have been received. -/
theorem getIncomingAmount_wraps : ¬ ∀ tx : MoneroTxWallet, tx.ExactIncome := by
  intro hall
  have hle := (hall ⟨[⟨some 18446744073709551615⟩, ⟨some 1⟩]⟩).amount_le
    ⟨some 18446744073709551615⟩ (by simp) 18446744073709551615 rfl
  exact absurd hle (by decide)

end MoneroTxWallet

end MoneroPython.Wallet
