/-
# Adding up in a machine word

A loop that adds numbers of a fixed width to an accumulator of that width computes their sum
modulo the size of the width.  So the total is exact if and only if the exact sum fits
(`val_total_eq_iff`), whatever the accumulator has been on the way, and it never depends on the
order of the numbers (`val_total_perm`).

A width is given by what its numbers denote.  `IsWord` says that zero denotes zero and that
addition wraps around.
-/
import Mathlib.Algebra.GroupWithZero.Nat
import Mathlib.Algebra.Order.BigOperators.Group.List
import Mathlib.Algebra.Order.Group.Nat
import Mathlib.Data.UInt

namespace Accumulate

variable {α : Type*} [Zero α] [Add α]

/-! ## 1. Words -/

/-- `val` gives the numbers of `α` as the naturals below `m`, and addition is modulo `m`. -/
structure IsWord (val : α → ℕ) (m : ℕ) : Prop where
  zero : val 0 = 0
  add : ∀ a b, val (a + b) = (val a + val b) % m
  lt : ∀ a, val a < m

theorem uint64_isWord : IsWord UInt64.toNat (2 ^ 64) where
  zero := rfl
  add := UInt64.toNat_add
  lt := UInt64.toNat_lt

/-! ## 2. The total -/

/-- The loop. -/
def total (as : List α) : α := as.foldl (· + ·) 0

variable {val : α → ℕ} {m : ℕ} (hword : IsWord val m)

include hword

/-- The accumulator after the loop; induction on the numbers that are left. -/
theorem val_foldl_add (as : List α) (acc : α) :
    val (as.foldl (· + ·) acc) = (val acc + (as.map val).sum) % m := by
  induction as generalizing acc with
  | nil =>
    rw [List.foldl_nil, List.map_nil, List.sum_nil, Nat.add_zero,
      Nat.mod_eq_of_lt (hword.lt acc)]
  | cons a as ih =>
    rw [List.foldl_cons, ih, hword.add, Nat.mod_add_mod, List.map_cons, List.sum_cons,
      Nat.add_assoc]

theorem val_total (as : List α) : val (total as) = (as.map val).sum % m := by
  rw [total, val_foldl_add hword, hword.zero, Nat.zero_add]

/-- **The total is exact exactly when the sum fits.** -/
theorem val_total_eq_iff (as : List α) :
    val (total as) = (as.map val).sum ↔ (as.map val).sum < m := by
  rw [val_total hword]
  constructor
  · intro hmod
    have hlt := hword.lt (total as)
    rwa [val_total hword, hmod] at hlt
  · exact Nat.mod_eq_of_lt

/-- The order of the numbers is irrelevant, even when the total is not exact. -/
theorem val_total_perm {as bs : List α} (hperm : as.Perm bs) : val (total as) = val (total bs) := by
  rw [val_total hword, val_total hword, (hperm.map val).sum_eq]

/-- An exact total is at least each of the numbers. -/
theorem val_le_val_total {as : List α} (hfits : (as.map val).sum < m) {a : α} (ha : a ∈ as) :
    val a ≤ val (total as) := by
  rw [(val_total_eq_iff hword as).mpr hfits]
  exact List.le_sum_of_mem (List.mem_map_of_mem ha)

end Accumulate
