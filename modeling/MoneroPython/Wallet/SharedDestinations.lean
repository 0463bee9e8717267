/-
# Destinations that are shared

A `MoneroDestination` is held by pointer.  The same object can be in the `destinations` of several
configurations, and of the outgoing transfers and transfer queries: assigning one vector to another,
or appending a destination twice, copies the pointer (`py_monero_types.h`,
`wallet/py_monero_wallet_bindings.cpp`).

`set_address` overwrites the address of the only destination in place, so everyone else who holds
it sees the new address.  `sparesOthers_run_iff` says exactly when that happens in a run, and
`sparesOthers_of_exclusive` that it never does in a program that gives no destination to two
holders.
-/
import MoneroPython.Lib.Run
import MoneroPython.Wallet.TxConfig

namespace MoneroPython.Wallet

variable {κ η δ : Type}

/-! ## 1. Holders -/

/-- What holds destinations: a `MoneroTxConfig`, or a record, which is a `MoneroOutgoingTransfer` or
a `MoneroTransferQuery`. -/
inductive Holder (κ η : Type) where
  | config (c : κ)
  | record (r : η)
deriving DecidableEq

/-- The configurations, the destinations of the records, the content of the destination objects, and
the objects that have been made. -/
structure Holders (κ η δ : Type) where
  config : κ → MoneroTxConfig δ := fun _ => {}
  record : η → List δ := fun _ => []
  object : δ → MoneroDestination := fun _ => {}
  created : List δ := []

/-- What Python does: it makes a destination, writes its properties, uses a configuration, or
changes the destinations of a record. -/
inductive HolderAction (κ η δ : Type) where
  | create (d : δ) (val : MoneroDestination)
  | write (d : δ) (val : MoneroDestination)
  | config (c : κ) (op : TxConfigOp δ)
  | record (r : η) (val : List δ)

/-- The destinations that Python passes. -/
def HolderAction.passes : HolderAction κ η δ → List δ
  | .write d _ => [d]
  | .config _ (.destinations val) => val
  | .config _ (.append d) => [d]
  | .record _ val => val
  | _ => []

/-- Who is given what is passed. -/
def HolderAction.target : HolderAction κ η δ → Option (Holder κ η)
  | .config c _ => some (.config c)
  | .record r _ => some (.record r)
  | _ => none

namespace Holders

def listed (s : Holders κ η δ) : Holder κ η → List δ
  | .config c => (s.config c).destinations
  | .record r => s.record r

/-- The recipients and amounts that a holder shows. -/
def contents (s : Holders κ η δ) (h : Holder κ η) : List MoneroDestination :=
  (s.listed h).map s.object

/-- The configuration as the bindings of `MoneroTxConfig` see it. -/
def focus (s : Holders κ η δ) (c : κ) : TxConfigHeap δ := ⟨s.config c, s.object⟩

/-- Objects are made once, and what is passed has been made. -/
def Allowed (s : Holders κ η δ) : HolderAction κ η δ → Prop
  | .create d _ => d ∉ s.created
  | .config _ (.setAddress _ new) => new ∉ s.created
  | a => ∀ d ∈ a.passes, d ∈ s.created

/-- What is passed to a holder is in no other one. -/
def Exclusive (s : Holders κ η δ) (a : HolderAction κ η δ) : Prop :=
  ∀ h, a.target = some h → ∀ d ∈ a.passes, ∀ h', h' ≠ h → d ∉ s.listed h'

section Step

variable [DecidableEq κ] [DecidableEq η] [DecidableEq δ]

def step (s : Holders κ η δ) : HolderAction κ η δ → Holders κ η δ
  | .create d val =>
    { s with object := Function.update s.object d val, created := d :: s.created }
  | .write d val => { s with object := Function.update s.object d val }
  | .config c op =>
    let after := (s.focus c).step op
    { s with
      config := Function.update s.config c after.config
      object := after.object
      created := after.config.destinations ++ s.created }
  | .record r val => { s with record := Function.update s.record r val }

/-- A call of `set_address` changes nothing that another holder shows. -/
def SparesOthers (s : Holders κ η δ) (a : HolderAction κ η δ) : Prop :=
  ∀ c address new, a = .config c (.setAddress address new) →
    ∀ h, h ≠ .config c → (s.step a).contents h = s.contents h

/-- The only destination of a configuration whose address is set has that address already, or is in
no other holder. -/
def Unshared (s : Holders κ η δ) (a : HolderAction κ η δ) : Prop :=
  ∀ c address new, a = .config c (.setAddress address new) →
    ∀ d, (s.config c).destinations = [d] →
      (s.object d).address = some address ∨ ∀ h, h ≠ .config c → d ∉ s.listed h

/-- No destination is in two holders. -/
def Disjoint (s : Holders κ η δ) : Prop :=
  ∀ h h', h ≠ h' → ∀ d ∈ s.listed h, d ∉ s.listed h'

/-- What is held has been made. -/
def WellFormed (s : Holders κ η δ) : Prop := ∀ h, ∀ d ∈ s.listed h, d ∈ s.created

/-! ## 2. One step -/

/-- Who is not the target holds what it held. -/
theorem listed_step_of_ne {s : Holders κ η δ} {a : HolderAction κ η δ} {h : Holder κ η}
    (hne : a.target ≠ some h) : (s.step a).listed h = s.listed h := by
  cases a with
  | create d val => cases h <;> rfl
  | write d val => cases h <;> rfl
  | config c op =>
    cases h with
    | config c' =>
      have hcc' : c' ≠ c := by
        rintro rfl
        exact hne rfl
      simp only [step, listed, Function.update_of_ne hcc']
    | record r => rfl
  | record r val =>
    cases h with
    | config c => rfl
    | record r' =>
      have hrr' : r' ≠ r := by
        rintro rfl
        exact hne rfl
      simp only [step, listed, Function.update_of_ne hrr']

/-- What the target holds afterwards it held before, or it was passed, or `set_address` made it. -/
theorem mem_listed_step {s : Holders κ η δ} {a : HolderAction κ η δ} {h : Holder κ η}
    (htarget : a.target = some h) {d : δ} (hd : d ∈ (s.step a).listed h) :
    d ∈ s.listed h ∨ d ∈ a.passes ∨ ∃ c address, a = .config c (.setAddress address d) := by
  cases a with
  | create d' val => cases htarget
  | write d' val => cases htarget
  | record r val =>
    obtain rfl := Option.some.inj htarget
    simp only [step, listed, Function.update_self] at hd
    exact Or.inr (Or.inl hd)
  | config c op =>
    obtain rfl := Option.some.inj htarget
    simp only [step, listed, Function.update_self, focus] at hd
    cases op with
    | address val => exact Or.inl hd
    | amount val => exact Or.inl hd
    | destinations val => exact Or.inr (Or.inl hd)
    | append e =>
      rcases List.mem_append.mp hd with hd | hd
      · exact Or.inl hd
      · exact Or.inr (Or.inl hd)
    | setAddress address new =>
      match hds : (s.config c).destinations with
      | [] =>
        rw [TxConfigHeap.step, TxConfigHeap.setAddress_nil hds] at hd
        obtain rfl := List.mem_singleton.mp hd
        exact Or.inr (Or.inr ⟨c, address, rfl⟩)
      | [e] =>
        rw [TxConfigHeap.step, TxConfigHeap.setAddress_singleton hds] at hd
        exact Or.inl hd
      | e₁ :: e₂ :: es =>
        rw [TxConfigHeap.step, TxConfigHeap.setAddress_cons_cons hds] at hd
        exact Or.inl hd

theorem created_subset_step (s : Holders κ η δ) (a : HolderAction κ η δ) :
    s.created ⊆ (s.step a).created := by
  cases a with
  | create d val => exact List.subset_cons_self d _
  | write d val => exact List.Subset.refl _
  | config c op => exact List.subset_append_right _ _
  | record r val => exact List.Subset.refl _

theorem WellFormed.step {s : Holders κ η δ} (hs : s.WellFormed) {a : HolderAction κ η δ}
    (ha : s.Allowed a) : (s.step a).WellFormed := by
  intro h d hd
  by_cases htarget : a.target = some h
  · cases a with
    | create d' val => cases htarget
    | write d' val => cases htarget
    | config c op =>
      obtain rfl := Option.some.inj htarget
      simp only [Holders.step, listed, Function.update_self] at hd ⊢
      exact List.mem_append_left _ hd
    | record r val =>
      obtain rfl := Option.some.inj htarget
      simp only [Holders.step, listed, Function.update_self] at hd ⊢
      exact ha d hd
  · rw [listed_step_of_ne htarget] at hd
    exact created_subset_step s a (hs h d hd)

/-- A holder shows the same when the objects that it holds are as before. -/
theorem contents_step_eq_iff {s : Holders κ η δ} {a : HolderAction κ η δ} {h : Holder κ η}
    (hne : a.target ≠ some h) :
    (s.step a).contents h = s.contents h ↔
      ∀ d ∈ s.listed h, (s.step a).object d = s.object d := by
  rw [contents, contents, listed_step_of_ne hne, List.map_inj_left]

/-- **One call.**  `set_address` spares the other holders exactly when the destination that it
overwrites is not shared, or has the address already. -/
theorem sparesOthers_iff_unshared {s : Holders κ η δ} (hs : s.WellFormed)
    {a : HolderAction κ η δ} (ha : s.Allowed a) : s.SparesOthers a ↔ s.Unshared a := by
  refine forall_congr' fun c => forall_congr' fun address => forall_congr' fun new => ?_
  refine imp_congr_right fun hcall => ?_
  subst hcall
  have hnew : new ∉ s.created := ha
  have hother : ∀ {h : Holder κ η}, h ≠ .config c →
      (HolderAction.config c (.setAddress address new) : HolderAction κ η δ).target ≠ some h :=
    fun hne htarget => hne (Option.some.inj htarget).symm
  match hds : (s.config c).destinations with
  | [] =>
    refine iff_of_true (fun h hne => (contents_step_eq_iff (hother hne)).mpr ?_) nofun
    intro d hd
    have hdnew : d ≠ new := by
      rintro rfl
      exact hnew (hs h d hd)
    rw [step, TxConfigHeap.step, TxConfigHeap.setAddress_nil hds]
    exact Function.update_of_ne hdnew _ _
  | [e] =>
    have hobject : (s.step (.config c (.setAddress address new))).object =
        Function.update s.object e { s.object e with address := some address } := by
      rw [step, TxConfigHeap.step, TxConfigHeap.setAddress_singleton hds]
      rfl
    constructor
    · intro hspares d hd
      obtain rfl : e = d := (List.cons.inj hd).1
      by_contra hnot
      rw [not_or] at hnot
      obtain ⟨haddress, hshared⟩ := hnot
      refine hshared fun h hne hmem => haddress ?_
      have hsame := (contents_step_eq_iff (hother hne)).mp (hspares h hne) e hmem
      rw [hobject, Function.update_self] at hsame
      rw [← hsame]
    · intro hunshared h hne
      refine (contents_step_eq_iff (hother hne)).mpr fun d hd => ?_
      rw [hobject]
      rcases eq_or_ne d e with rfl | hde
      · rcases hunshared d rfl with haddress | hnone
        · rw [Function.update_self, ← haddress]
        · exact absurd hd (hnone h hne)
      · exact Function.update_of_ne hde _ _
  | e₁ :: e₂ :: es =>
    refine iff_of_true (fun h hne => (contents_step_eq_iff (hother hne)).mpr ?_) nofun
    intro d _
    rw [step, TxConfigHeap.step, TxConfigHeap.setAddress_cons_cons hds]
    rfl

/-- The target of an exclusive action shares nothing with another holder afterwards. -/
theorem Disjoint.target_step {s : Holders κ η δ} (hdis : s.Disjoint) (hs : s.WellFormed)
    {a : HolderAction κ η δ} (ha : s.Allowed a) (hex : s.Exclusive a) {h h' : Holder κ η}
    (hne : h' ≠ h) (htarget : a.target = some h) {d : δ} (hd : d ∈ (s.step a).listed h) :
    d ∉ (s.step a).listed h' := by
  have hother : a.target ≠ some h' := fun htarget' =>
    hne (Option.some.inj (htarget'.symm.trans htarget))
  rw [listed_step_of_ne hother]
  rcases mem_listed_step htarget hd with hold | hpassed | ⟨c, address, rfl⟩
  · exact hdis h h' hne.symm d hold
  · exact hex h htarget d hpassed h' hne
  · exact fun hmem => ha (hs h' d hmem)

theorem Disjoint.step {s : Holders κ η δ} (hdis : s.Disjoint) (hs : s.WellFormed)
    {a : HolderAction κ η δ} (ha : s.Allowed a) (hex : s.Exclusive a) : (s.step a).Disjoint := by
  intro h h' hne d hd hd'
  by_cases htarget : a.target = some h
  · exact hdis.target_step hs ha hex hne.symm htarget hd hd'
  by_cases htarget' : a.target = some h'
  · exact hdis.target_step hs ha hex hne htarget' hd' hd
  rw [listed_step_of_ne htarget] at hd
  rw [listed_step_of_ne htarget'] at hd'
  exact hdis h h' hne d hd hd'

omit [DecidableEq κ] [DecidableEq η] [DecidableEq δ] in
theorem Disjoint.unshared {s : Holders κ η δ} (hdis : s.Disjoint) (a : HolderAction κ η δ) :
    s.Unshared a := by
  intro c address new _ d hd
  refine Or.inr fun h hne => hdis (.config c) h hne.symm d ?_
  rw [listed, hd]
  exact List.mem_singleton_self d

/-! ## 3. Runs -/

omit [DecidableEq κ] [DecidableEq η] [DecidableEq δ] in
theorem wellFormed_init : ({} : Holders κ η δ).WellFormed := by
  intro h d hd
  cases h <;> cases hd

omit [DecidableEq κ] [DecidableEq η] [DecidableEq δ] in
theorem disjoint_init : ({} : Holders κ η δ).Disjoint := by
  intro h _ _ d hd
  cases h <;> cases hd

/-- **Recipients of others.**  Whatever a program does with any number of configurations, outgoing
transfers and transfer queries, no `set_address` changes what another of them shows if and only if
each time the destination that it overwrites is in no other one, or has the address already. -/
theorem sparesOthers_run_iff {actions : List (HolderAction κ η δ)}
    (hallowed : Run.AllSteps step (fun s a => s.Allowed a) {} actions) :
    Run.AllSteps step (fun s a => s.SparesOthers a) {} actions ↔
      Run.AllSteps step (fun s a => s.Unshared a) {} actions := by
  have hinv : Run.AllSteps step (fun s a => s.WellFormed ∧ s.Allowed a) {} actions :=
    hallowed.and_invariant (fun _ _ hs ha => hs.step ha) wellFormed_init
  exact hinv.congr fun s a h => sparesOthers_iff_unshared h.1 h.2

/-- The recipient of an outgoing transfer is paid again, and then the address is changed. -/
def payAgain : List (HolderAction ℕ ℕ ℕ) :=
  [.create 0 ⟨some "a", some 1⟩, .record 0 [0], .config 0 (.destinations [0]),
    .config 0 (.setAddress "b" 1)]

theorem sparesOthers_run_iff_payAgain :
    Run.AllSteps step (fun s a => s.SparesOthers a) {} payAgain ↔
      Run.AllSteps step (fun s a => s.Unshared a) {} payAgain := by
  refine sparesOthers_run_iff ⟨?_, ?_, ?_, ?_, trivial⟩
  · exact List.not_mem_nil
  · intro d hd
    exact hd
  · intro d hd
    exact hd
  · exact (by decide : 1 ∉ [0, 0])

/-- **One holder each.**  In a program that passes a destination to a holder only if no other one
has it, no destination is ever in two holders, and `set_address` never changes what another holder
shows. -/
theorem sparesOthers_of_exclusive {actions : List (HolderAction κ η δ)}
    (hallowed : Run.AllSteps step (fun s a => s.Allowed a ∧ s.Exclusive a) {} actions) :
    Run.AllSteps step (fun s a => s.Disjoint ∧ s.SparesOthers a) {} actions := by
  have hinv : Run.AllSteps step
      (fun s a => (s.WellFormed ∧ s.Disjoint) ∧ s.Allowed a ∧ s.Exclusive a) {} actions :=
    hallowed.and_invariant
      (fun _ _ hs ha => ⟨hs.1.step ha.1, hs.2.step hs.1 ha.1 ha.2⟩) ⟨wellFormed_init, disjoint_init⟩
  refine hinv.imp fun s a h => ⟨h.1.2, ?_⟩
  exact (sparesOthers_iff_unshared h.1.1 h.2.1).mpr (h.1.2.unshared a)

/-- Two configurations get a destination each, and the address of one is changed. -/
def payOnce : List (HolderAction ℕ ℕ ℕ) :=
  [.create 0 ⟨some "a", some 1⟩, .create 1 ⟨some "c", some 2⟩, .config 0 (.append 0),
    .config 1 (.append 1), .config 0 (.setAddress "b" 2)]

theorem sparesOthers_of_exclusive_payOnce :
    Run.AllSteps step (fun s a => s.Disjoint ∧ s.SparesOthers a) {} payOnce := by
  refine sparesOthers_of_exclusive ⟨⟨?_, ?_⟩, ⟨?_, ?_⟩, ⟨?_, ?_⟩, ⟨?_, ?_⟩, ⟨?_, ?_⟩, trivial⟩
  · exact List.not_mem_nil
  · exact fun h htarget => by cases htarget
  · exact (by decide : 1 ∉ [0])
  · exact fun h htarget => by cases htarget
  · intro d hd
    exact List.mem_cons_of_mem 1 hd
  · intro h _ d _ h' _ hmem
    cases h' <;> cases hmem
  · intro d hd
    obtain rfl := List.mem_singleton.mp hd
    exact (by decide : 1 ∈ [0, 1, 0])
  · intro h htarget d hd h' hne hmem
    obtain rfl := Option.some.inj htarget
    obtain rfl := List.mem_singleton.mp hd
    -- the first configuration has the other destination
    have hfirst : h' = .config 0 := by
      by_contra hother
      have hne₀ : (HolderAction.config 0 (.append 0) : HolderAction ℕ ℕ ℕ).target ≠ some h' :=
        fun htarget₀ => hother (Option.some.inj htarget₀).symm
      rw [listed_step_of_ne hne₀] at hmem
      cases h' <;> cases hmem
    subst hfirst
    exact absurd hmem (by decide : 1 ∉ [0])
  · exact (by decide : 2 ∉ [1, 0, 1, 0])
  · exact fun h _ d hd => by cases hd

end Step

end Holders

end MoneroPython.Wallet
