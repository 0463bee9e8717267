/-
# The recipient of a transaction configuration

A `MoneroTxConfig` stores a recipient in two places: the field `address`, and the destinations in
`destinations`.  Python writes the first by the property, the second by assigning a list, by
appending to the vector, or by `set_address` (`wallet/py_monero_wallet_bindings.cpp`).

`set_address` looks at the destinations only.  An address field that holds another address keeps
it, so the configuration then names two recipients (`setAddress_consistent_iff`).

Destinations are shared objects.  They are named by the elements of an arbitrary type `δ`; none of
them is null.
-/
import MoneroPython.Errors.Exceptions
import MoneroPython.Lib.Run
import Mathlib.Logic.Function.Basic

namespace MoneroPython.Wallet

open MoneroPython.Errors

/-! ## 1. The configuration -/

/-- `monero_tx_priority`. -/
inductive MoneroTxPriority where
  | default | unimportant | normal | elevated
deriving DecidableEq

/-- `monero_destination`. -/
structure MoneroDestination where
  address : Option String := none
  amount : Option UInt64 := none
deriving DecidableEq

/-- `monero_tx_config`. -/
structure MoneroTxConfig (δ : Type) where
  address : Option String := none
  amount : Option UInt64 := none
  destinations : List δ := []
  subtractFeeFrom : List UInt32 := []
  paymentId : Option String := none
  priority : Option MoneroTxPriority := none
  ringSize : Option UInt32 := none
  fee : Option UInt64 := none
  accountIndex : Option UInt32 := none
  subaddressIndices : List UInt32 := []
  canSplit : Option Bool := none
  relay : Option Bool := none
  note : Option String := none
  recipientName : Option String := none
  belowAmount : Option UInt64 := none
  sweepEachSubaddress : Option Bool := none
  keyImage : Option String := none

/-- The configuration and the content of the destination objects. -/
structure TxConfigHeap (δ : Type) where
  config : MoneroTxConfig δ := {}
  object : δ → MoneroDestination := fun _ => {}

/-- What Python does with a configuration.  `new` names the object that `make_shared` makes in
`set_address`, if it makes one. -/
inductive TxConfigOp (δ : Type) where
  | address (val : Option String)
  | amount (val : Option UInt64)
  | destinations (val : List δ)
  | append (destination : δ)
  | setAddress (address : String) (new : δ)

namespace TxConfigHeap

variable {δ : Type} [DecidableEq δ]

def writeAddress (h : TxConfigHeap δ) (d : δ) (address : String) : TxConfigHeap δ :=
  { h with object := Function.update h.object d { h.object d with address := some address } }

/-- `MoneroTxConfig.set_address`. -/
def setAddress (h : TxConfigHeap δ) (address : String) (new : δ) :
    Except CppException Unit × TxConfigHeap δ :=
  match h.config.destinations with
  | [] =>
    let dest : MoneroDestination := { address := some address }
    (.ok (), { config := { h.config with destinations := [new] }
               object := Function.update h.object new dest })
  | [d] => (.ok (), h.writeAddress d address)
  | _ :: _ :: _ =>
    (.error (.moneroError
      "Cannot set address because MoneroTxConfig already has multiple destinations"), h)

/-- One operation. -/
def step (h : TxConfigHeap δ) : TxConfigOp δ → TxConfigHeap δ
  | .address val => { h with config := { h.config with address := val } }
  | .amount val => { h with config := { h.config with amount := val } }
  | .destinations val => { h with config := { h.config with destinations := val } }
  | .append d =>
    { h with config := { h.config with destinations := h.config.destinations ++ [d] } }
  | .setAddress address new => (h.setAddress address new).2

/-! ## 2. What `set_address` is asked to do -/

/-- After a call that succeeds there is one destination, with the address and with the amount it
had before, and the configuration stores no other recipient.  The other fields are as before. -/
structure SingleRecipient (h h' : TxConfigHeap δ) (address : String) : Prop where
  destination : ∃ d, h'.config.destinations = [d] ∧
    h'.object d = ⟨some address, h.config.destinations.head?.bind fun d => (h.object d).amount⟩
  field : ∀ stored, h'.config.address = some stored → stored = address
  others : h.config =
    { h'.config with address := h.config.address, destinations := h.config.destinations }

/-- A call fails if and only if there is more than one destination, and then changes nothing. -/
structure SetsRecipient (h : TxConfigHeap δ) (address : String)
    (outcome : Except CppException Unit × TxConfigHeap δ) : Prop where
  fails_iff : (∃ e, outcome.1 = .error e) ↔ 1 < h.config.destinations.length
  failed : ∀ e, outcome.1 = .error e → outcome.2 = h
  succeeded : outcome.1 = .ok () → h.SingleRecipient outcome.2 address

/-- The call fails, or the address field holds no other address. -/
def FreeForRecipient (h : TxConfigHeap δ) (address : String) : Prop :=
  1 < h.config.destinations.length ∨ ∀ stored, h.config.address = some stored → stored = address

omit [DecidableEq δ] in
/-- A call that succeeds and keeps the address field does what it is asked to do exactly when no
other address is in that field. -/
theorem setsRecipient_ok_iff {h h' : TxConfigHeap δ} {address : String}
    (hlen : ¬ 1 < h.config.destinations.length)
    (hdest : ∃ d, h'.config.destinations = [d] ∧
      h'.object d = ⟨some address, h.config.destinations.head?.bind fun d => (h.object d).amount⟩)
    (hkeep : h'.config.address = h.config.address)
    (hothers : h.config =
      { h'.config with address := h.config.address, destinations := h.config.destinations }) :
    h.SetsRecipient address (.ok (), h') ↔ h.FreeForRecipient address := by
  rw [FreeForRecipient, or_iff_right hlen, ← hkeep]
  constructor
  · intro hsets
    exact (hsets.succeeded rfl).field
  · intro hfree
    exact
      { fails_iff := iff_of_false (by simp) hlen
        failed := nofun
        succeeded := fun _ => { destination := hdest, field := hfree, others := hothers } }

/-! ## 3. One call -/

theorem setAddress_nil {h : TxConfigHeap δ} (hnil : h.config.destinations = []) (address : String)
    (new : δ) :
    h.setAddress address new =
      (.ok (), { config := { h.config with destinations := [new] }
                 object := Function.update h.object new ⟨some address, none⟩ }) := by
  simp only [setAddress, hnil]

theorem setAddress_singleton {h : TxConfigHeap δ} {d : δ} (hone : h.config.destinations = [d])
    (address : String) (new : δ) :
    h.setAddress address new = (.ok (), h.writeAddress d address) := by
  simp only [setAddress, hone]

theorem setAddress_cons_cons {h : TxConfigHeap δ} {d₁ d₂ : δ} {ds : List δ}
    (hmore : h.config.destinations = d₁ :: d₂ :: ds) (address : String) (new : δ) :
    h.setAddress address new =
      (.error (.moneroError
        "Cannot set address because MoneroTxConfig already has multiple destinations"), h) := by
  simp only [setAddress, hmore]

/-- **One call.**  `set_address` does what it is asked to do exactly when no other address is in
the way. -/
theorem setAddress_setsRecipient_iff (h : TxConfigHeap δ) (address : String) (new : δ) :
    h.SetsRecipient address (h.setAddress address new) ↔ h.FreeForRecipient address := by
  match hds : h.config.destinations with
  | [] =>
    rw [setAddress_nil hds]
    exact setsRecipient_ok_iff (by simp [hds]) ⟨new, rfl, by simp [hds]⟩ rfl rfl
  | [d] =>
    rw [setAddress_singleton hds]
    exact setsRecipient_ok_iff (by simp [hds]) ⟨d, hds, by simp [writeAddress, hds]⟩ rfl rfl
  | d₁ :: d₂ :: ds =>
    have hmore : 1 < h.config.destinations.length := by simp [hds]
    rw [setAddress_cons_cons hds]
    refine iff_of_true ?_ (Or.inl hmore)
    exact
      { fails_iff := by simp [hmore]
        failed := fun _ _ => rfl
        succeeded := nofun }

/-! ## 4. Runs -/

/-- **Recipients along runs.**  Whatever is done with a configuration, every call of
`set_address` in the run does what it is asked to do if and only if in the state before each call
there is more than one destination, or the address field is unset or holds the same address. -/
theorem setAddress_consistent_iff (h : TxConfigHeap δ) (ops : List (TxConfigOp δ)) :
    Run.AllSteps step
        (fun h op => ∀ address new, op = .setAddress address new →
          h.SetsRecipient address (h.setAddress address new)) h ops ↔
      Run.AllSteps step
        (fun h op => ∀ address new, op = .setAddress address new → h.FreeForRecipient address)
        h ops := by
  constructor
  · intro hsets
    refine hsets.imp ?_
    intro h op hop address new hcall
    exact (h.setAddress_setsRecipient_iff address new).mp (hop address new hcall)
  · intro hfree
    refine hfree.imp ?_
    intro h op hop address new hcall
    exact (h.setAddress_setsRecipient_iff address new).mpr (hop address new hcall)

/-- `config.address = "x"` and then `config.set_address("a")`: both addresses are stored. -/
theorem setAddress_keeps_other_address :
    ¬ ∀ ops : List (TxConfigOp ℕ),
      Run.AllSteps step
        (fun h op => ∀ address new, op = .setAddress address new →
          h.SetsRecipient address (h.setAddress address new)) {} ops := by
  intro hall
  obtain ⟨-, hsets, -⟩ := hall [.address (some "x"), .setAddress "a" 0]
  have hfield := ((hsets "a" 0 rfl).succeeded rfl).field "x" rfl
  exact absurd hfield (by decide)

end TxConfigHeap

end MoneroPython.Wallet
