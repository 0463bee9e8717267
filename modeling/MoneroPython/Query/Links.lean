/-
# When the links between query objects agree

`Heap.Symmetric` says that both ends of every link agree: a child is held by a slot of `t` if
and only if its `tx_query` is `t`.  The five setters do not keep this in general.  Writing the
new link first and clearing the old one afterwards undoes an assignment that repeats the
current link (the two child-side setters have no guard for it), and no setter detaches the
child that was in a slot the new child is put into from the child's side.

`Setter.KeepsLinks` is the exact condition for one assignment, in terms of the state before
it.  By `Run.forall_trace_iff` it is then also the exact condition for runs
(`reached_symmetric_iff`).

Runs that use only the three slot properties and assign only free children are well behaved:
they keep the graph one-to-one (`reached_oneToOne`).
-/
import MoneroPython.Lib.Run
import MoneroPython.Query.Heap

namespace MoneroPython.Query

variable {τ κ ω : Type*} {h : Heap τ κ ω}

/-! ## 1. Agreement of the two ends -/

namespace Heap

/-- A child is held by a slot of `t` if and only if the child's `tx_query` is `t`. -/
def Symmetric (h : Heap τ κ ω) : Prop :=
  (∀ t q, (h.txQueries t).transferQuery = some q ↔ (h.transferQueries q).txQuery = some t) ∧
    ∀ t q, ((h.txQueries t).inputQuery = some q ∨ (h.txQueries t).outputQuery = some q) ↔
      (h.outputQueries q).txQuery = some t

theorem transferLinks_symmetric_iff :
    h.transferLinks.Symmetric id ↔
      ∀ t q, (h.txQueries t).transferQuery = some q ↔ (h.transferQueries q).txQuery = some t := by
  simp [LinkGraph.Symmetric, transferLinks]

/-- One of the two slots of a tx query holds `q`. -/
theorem exists_outputSlot_iff {t : τ} {q : ω} :
    (∃ p : τ × OutputSlot, p.1 = t ∧ h.outputLinks.slot p = some q) ↔
      (h.txQueries t).inputQuery = some q ∨ (h.txQueries t).outputQuery = some q := by
  constructor
  · rintro ⟨⟨_, slot⟩, rfl, hq⟩
    cases slot with
    | input => exact Or.inl hq
    | output => exact Or.inr hq
  · rintro (hq | hq)
    · exact ⟨(t, .input), rfl, hq⟩
    · exact ⟨(t, .output), rfl, hq⟩

theorem outputLinks_symmetric_iff :
    h.outputLinks.Symmetric Prod.fst ↔
      ∀ t q, ((h.txQueries t).inputQuery = some q ∨ (h.txQueries t).outputQuery = some q) ↔
        (h.outputQueries q).txQuery = some t := by
  apply forall₂_congr
  intro t q
  rw [exists_outputSlot_iff]
  rfl

theorem symmetric_iff :
    h.Symmetric ↔ h.transferLinks.Symmetric id ∧ h.outputLinks.Symmetric Prod.fst := by
  rw [transferLinks_symmetric_iff, outputLinks_symmetric_iff, Symmetric]

theorem fresh_symmetric : (fresh : Heap τ κ ω).Symmetric := by
  simp [Symmetric, fresh]

/-- With one place for each owner, nothing is held elsewhere. -/
theorem not_transferLinks_heldElsewhere (h : Heap τ κ ω) (t : τ) (q : κ) :
    ¬ h.transferLinks.HeldElsewhere id t q := by
  rintro ⟨t', hne, heq, -⟩
  exact hne heq

/-- With two places for each owner, elsewhere is the other slot. -/
theorem outputLinks_heldElsewhere_iff {t : τ} {slot : OutputSlot} {q : ω} :
    h.outputLinks.HeldElsewhere Prod.fst (t, slot) q ↔
      (h.txQueries t).outputSlot slot.other = some q := by
  constructor
  · rintro ⟨⟨t', slot'⟩, hne, rfl, hq⟩
    cases slot <;> cases slot' <;> first | exact absurd rfl hne | exact hq
  · intro hq
    refine ⟨(t, slot.other), ?_, rfl, hq⟩
    cases slot <;> simp [OutputSlot.other]

end Heap

/-! ## 2. The condition for one assignment -/

/-- What an assignment must meet, in the heap `h` it is performed on, so that it leaves both
ends of every link in agreement.

* A slot property: the new child is free or already a child of this tx query, and the child it
  displaces is not in the other slot too.
* `MoneroTransferQuery.tx_query`: the slot of the new parent is empty.
* `MoneroOutputQuery.set_tx_query`: when the query leaves its parent, the slot of the parent
  that the flag does not name must not hold it.  When the parent stays the same, that other
  slot must hold it.  And whatever is in the slot of the new parent that the flag names must
  be in its other slot too. -/
def Setter.KeepsLinks (h : Heap τ κ ω) : Setter τ κ ω → Prop
  | .transferQuery t val =>
    ∀ q, val = some q →
      (h.transferQueries q).txQuery = none ∨ (h.transferQueries q).txQuery = some t
  | .inputQuery t val =>
    (∀ q, val = some q →
        (h.outputQueries q).txQuery = none ∨ (h.outputQueries q).txQuery = some t) ∧
      ∀ q, (h.txQueries t).inputQuery = some q → val ≠ some q →
        (h.txQueries t).outputQuery ≠ some q
  | .outputQuery t val =>
    (∀ q, val = some q →
        (h.outputQueries q).txQuery = none ∨ (h.outputQueries q).txQuery = some t) ∧
      ∀ q, (h.txQueries t).outputQuery = some q → val ≠ some q →
        (h.txQueries t).inputQuery ≠ some q
  | .transferTxQuery _ val => ∀ t, val = some t → (h.txQueries t).transferQuery = none
  | .outputTxQuery q val flag =>
    (∀ t₀, (h.outputQueries q).txQuery = some t₀ → val ≠ some t₀ →
        (h.txQueries t₀).outputSlot (OutputSlot.ofFlag flag).other ≠ some q) ∧
      ∀ t, val = some t →
        ((h.outputQueries q).txQuery = some t →
            (h.txQueries t).outputSlot (OutputSlot.ofFlag flag).other = some q) ∧
          ∀ p, (h.txQueries t).outputSlot (OutputSlot.ofFlag flag) = some p →
            (h.txQueries t).outputSlot (OutputSlot.ofFlag flag).other = some p

namespace Heap

section Transfer

variable [DecidableEq τ] [DecidableEq κ]

theorem setTransferQuery_symmetric_iff (hs : h.Symmetric) (t : τ) (v : Option κ) :
    (h.setTransferQuery t v).Symmetric ↔ Setter.KeepsLinks h (.transferQuery t v) := by
  obtain ⟨htransfer, houtput⟩ := symmetric_iff.mp hs
  rw [symmetric_iff, transferLinks_setTransferQuery, outputLinks_setTransferQuery,
    LinkGraph.assign_symmetric_iff htransfer, and_iff_left houtput]
  exact and_iff_left fun q _ _ => h.not_transferLinks_heldElsewhere t q

theorem setTransferTxQuery_symmetric_iff (hs : h.Symmetric) (q : κ) (v : Option τ) :
    (h.setTransferTxQuery q v).Symmetric ↔ Setter.KeepsLinks h (.transferTxQuery q v) := by
  obtain ⟨htransfer, houtput⟩ := symmetric_iff.mp hs
  have hplace : ∀ t : τ, id (id t) = t := fun _ => rfl
  rw [symmetric_iff, transferLinks_setTransferTxQuery, outputLinks_setTransferTxQuery,
    LinkGraph.attach_symmetric_iff hplace htransfer, and_iff_left houtput]
  simp only [LinkGraph.Attachable, id_eq, not_transferLinks_heldElsewhere, not_false_eq_true,
    implies_true, true_and, imp_false]
  apply forall₂_congr
  intro t _
  constructor
  · rintro ⟨-, hnone⟩
    exact Option.eq_none_iff_forall_ne_some.mpr hnone
  · intro hnone
    constructor
    · intro hb
      exact absurd ((htransfer t q).mpr hb) (by simp [transferLinks, hnone])
    · intro p hp
      exact absurd hp (by simp [transferLinks, hnone])

end Transfer

section Output

variable [DecidableEq τ] [DecidableEq ω]

theorem setInputQuery_symmetric_iff (hs : h.Symmetric) (t : τ) (v : Option ω) :
    (h.setInputQuery t v).Symmetric ↔ Setter.KeepsLinks h (.inputQuery t v) := by
  obtain ⟨htransfer, houtput⟩ := symmetric_iff.mp hs
  rw [symmetric_iff, transferLinks_setInputQuery, outputLinks_setInputQuery,
    LinkGraph.assign_symmetric_iff houtput, and_iff_right htransfer]
  simp only [LinkGraph.Adoptable, outputLinks_heldElsewhere_iff]
  rfl

theorem setOutputQuery_symmetric_iff (hs : h.Symmetric) (t : τ) (v : Option ω) :
    (h.setOutputQuery t v).Symmetric ↔ Setter.KeepsLinks h (.outputQuery t v) := by
  obtain ⟨htransfer, houtput⟩ := symmetric_iff.mp hs
  rw [symmetric_iff, transferLinks_setOutputQuery, outputLinks_setOutputQuery,
    LinkGraph.assign_symmetric_iff houtput, and_iff_right htransfer]
  simp only [LinkGraph.Adoptable, outputLinks_heldElsewhere_iff]
  rfl

theorem setOutputTxQuery_symmetric_iff (hs : h.Symmetric) (q : ω) (v : Option τ) (flag : Bool) :
    (h.setOutputTxQuery q v flag).Symmetric ↔ Setter.KeepsLinks h (.outputTxQuery q v flag) := by
  obtain ⟨htransfer, houtput⟩ := symmetric_iff.mp hs
  rw [symmetric_iff, transferLinks_setOutputTxQuery, outputLinks_setOutputTxQuery,
    LinkGraph.attach_symmetric_iff (fun _ => rfl) houtput, and_iff_right htransfer]
  simp only [LinkGraph.Attachable, outputLinks_heldElsewhere_iff]
  rfl

end Output

end Heap

section

variable [DecidableEq τ] [DecidableEq κ] [DecidableEq ω]

/-- **One assignment.**  From a heap whose links agree, an assignment leaves them in agreement
exactly when it meets `KeepsLinks`. -/
theorem Heap.assign_symmetric_iff (hs : h.Symmetric) (op : Setter τ κ ω) :
    (h.assign op).Symmetric ↔ op.KeepsLinks h := by
  cases op with
  | transferQuery t v => exact Heap.setTransferQuery_symmetric_iff hs t v
  | inputQuery t v => exact Heap.setInputQuery_symmetric_iff hs t v
  | outputQuery t v => exact Heap.setOutputQuery_symmetric_iff hs t v
  | transferTxQuery q v => exact Heap.setTransferTxQuery_symmetric_iff hs q v
  | outputTxQuery q v flag => exact Heap.setOutputTxQuery_symmetric_iff hs q v flag

/-! ## 3. Runs from fresh objects -/

/-- **Link symmetry along runs.**  Whatever sequence of assignments is performed on freshly
constructed queries, the links agree in every state reached if and only if every assignment
meets `KeepsLinks` in the state it is performed in. -/
theorem reached_symmetric_iff (ops : List (Setter τ κ ω)) :
    (∀ h ∈ Run.trace Heap.assign Heap.fresh ops, h.Symmetric) ↔
      Run.AllSteps Heap.assign (fun h op => op.KeepsLinks h) Heap.fresh ops :=
  Run.forall_trace_iff (fun _ op hs => Heap.assign_symmetric_iff hs op) ops _ Heap.fresh_symmetric

/-- Assigning the same `tx_query` to a transfer query twice: the second assignment clears the
slot it has just written. -/
theorem relink_breaks_symmetry :
    ¬ ∀ h ∈ Run.trace Heap.assign (Heap.fresh : Heap ℕ ℕ ℕ)
        [.transferTxQuery 0 (some 0), .transferTxQuery 0 (some 0)], h.Symmetric := by
  intro hall
  have hlast := hall ((Heap.fresh.assign (.transferTxQuery 0 (some 0))).assign
    (.transferTxQuery 0 (some 0))) (by simp [Run.trace])
  exact absurd ((hlast.1 0 0).mpr rfl) (by decide)

end

/-! ## 4. Runs of the slot properties with free children -/

namespace Heap

/-- Each slot's child has the owner of the slot as its `tx_query`, and each child whose
`tx_query` is `t` is in exactly one slot of `t`. -/
structure OneToOne (h : Heap τ κ ω) : Prop where
  transfer_back : ∀ t q, (h.txQueries t).transferQuery = some q →
    (h.transferQueries q).txQuery = some t
  input_back : ∀ t q, (h.txQueries t).inputQuery = some q → (h.outputQueries q).txQuery = some t
  output_back : ∀ t q, (h.txQueries t).outputQuery = some q →
    (h.outputQueries q).txQuery = some t
  transfer_slot : ∀ q t, (h.transferQueries q).txQuery = some t →
    (h.txQueries t).transferQuery = some q
  output_slot : ∀ q t, (h.outputQueries q).txQuery = some t →
    Xor ((h.txQueries t).inputQuery = some q) ((h.txQueries t).outputQuery = some q)

/-- Both link graphs of the heap are one-to-one. -/
def LinksOneToOne (h : Heap τ κ ω) : Prop :=
  h.transferLinks.OneToOne id ∧ h.outputLinks.OneToOne Prod.fst

theorem fresh_linksOneToOne : (fresh : Heap τ κ ω).LinksOneToOne := by
  refine ⟨⟨?_, ?_⟩, ?_, ?_⟩
  · simp [transferLinks, fresh]
  · simp [transferLinks, fresh]
  · rintro ⟨t, slot⟩ q hq
    cases slot <;> simp [outputLinks, fresh, MoneroTxQuery.outputSlot] at hq
  · simp [outputLinks, fresh]

theorem LinksOneToOne.not_both (hone : h.LinksOneToOne) {t : τ} {q : ω}
    (hin : (h.txQueries t).inputQuery = some q) (hout : (h.txQueries t).outputQuery = some q) :
    False := by
  have hslots : (t, OutputSlot.input) = (t, OutputSlot.output) := hone.2.slot_inj hin hout
  simp at hslots

theorem LinksOneToOne.oneToOne (hone : h.LinksOneToOne) : h.OneToOne where
  transfer_back t q hq := hone.1.1 t q hq
  input_back t q hq := hone.2.1 (t, .input) q hq
  output_back t q hq := hone.2.1 (t, .output) q hq
  transfer_slot q t hq := by
    obtain ⟨_, ⟨rfl, hslot⟩, -⟩ := hone.1.2 q t hq
    exact hslot
  output_slot q t hq := by
    rcases exists_outputSlot_iff.mp (hone.2.2 q t hq).exists with hin | hout
    · refine Or.inl ⟨hin, ?_⟩
      intro hout
      exact hone.not_both hin hout
    · refine Or.inr ⟨hout, ?_⟩
      intro hin
      exact hone.not_both hin hout

end Heap

/-- One of the three slot properties is used, and the child it assigns either has no
`tx_query` or is already in the very slot it is assigned to. -/
def Setter.SingleOwner (h : Heap τ κ ω) : Setter τ κ ω → Prop
  | .transferQuery t val =>
    ∀ q, val = some q →
      (h.transferQueries q).txQuery = none ∨ (h.txQueries t).transferQuery = some q
  | .inputQuery t val =>
    ∀ q, val = some q → (h.outputQueries q).txQuery = none ∨ (h.txQueries t).inputQuery = some q
  | .outputQuery t val =>
    ∀ q, val = some q → (h.outputQueries q).txQuery = none ∨ (h.txQueries t).outputQuery = some q
  | .transferTxQuery _ _ => False
  | .outputTxQuery _ _ _ => False

/-- The change from `h` to `h'` is confined to the slot that is assigned and to the back links
of the previous and the new child of that slot. -/
def Setter.Confined [DecidableEq τ] (h h' : Heap τ κ ω) : Setter τ κ ω → Prop
  | .transferQuery t val =>
    h'.txQueries = Function.update h.txQueries t { h.txQueries t with transferQuery := val } ∧
      h'.outputQueries = h.outputQueries ∧
      ∀ q, val ≠ some q → (h.txQueries t).transferQuery ≠ some q →
        h'.transferQueries q = h.transferQueries q
  | .inputQuery t val =>
    h'.txQueries = Function.update h.txQueries t { h.txQueries t with inputQuery := val } ∧
      h'.transferQueries = h.transferQueries ∧
      ∀ q, val ≠ some q → (h.txQueries t).inputQuery ≠ some q →
        h'.outputQueries q = h.outputQueries q
  | .outputQuery t val =>
    h'.txQueries = Function.update h.txQueries t { h.txQueries t with outputQuery := val } ∧
      h'.transferQueries = h.transferQueries ∧
      ∀ q, val ≠ some q → (h.txQueries t).outputQuery ≠ some q →
        h'.outputQueries q = h.outputQueries q
  | .transferTxQuery _ _ => False
  | .outputTxQuery _ _ _ => False

section

variable [DecidableEq τ] [DecidableEq κ] [DecidableEq ω]

theorem Setter.SingleOwner.confined {op : Setter τ κ ω} (hop : op.SingleOwner h) :
    op.Confined h (h.assign op) := by
  cases op with
  | transferQuery t v =>
    have hframe := (LinkGraph.assign_frame id h.transferLinks t v).2
    rw [← Heap.transferLinks_setTransferQuery] at hframe
    exact ⟨setQuery_slots (fun _ _ _ => rfl) h t v, setQuery_blind (fun _ _ _ => rfl)
      (fun _ _ _ => rfl) h t v, fun q hv ho => MoneroTransferQuery.ext (hframe q hv ho)⟩
  | inputQuery t v =>
    have hframe := (LinkGraph.assign_frame Prod.fst h.outputLinks (t, .input) v).2
    rw [← Heap.outputLinks_setInputQuery] at hframe
    exact ⟨setQuery_slots (fun _ _ _ => rfl) h t v, setQuery_blind (fun _ _ _ => rfl)
      (fun _ _ _ => rfl) h t v, fun q hv ho => MoneroOutputQuery.ext (hframe q hv ho)⟩
  | outputQuery t v =>
    have hframe := (LinkGraph.assign_frame Prod.fst h.outputLinks (t, .output) v).2
    rw [← Heap.outputLinks_setOutputQuery] at hframe
    exact ⟨setQuery_slots (fun _ _ _ => rfl) h t v, setQuery_blind (fun _ _ _ => rfl)
      (fun _ _ _ => rfl) h t v, fun q hv ho => MoneroOutputQuery.ext (hframe q hv ho)⟩
  | transferTxQuery q v => exact hop.elim
  | outputTxQuery q v flag => exact hop.elim

theorem Heap.assign_linksOneToOne {op : Setter τ κ ω} (hone : h.LinksOneToOne)
    (hop : op.SingleOwner h) : (h.assign op).LinksOneToOne := by
  obtain ⟨htransfer, houtput⟩ := hone
  cases op with
  | transferQuery t v =>
    refine ⟨?_, ?_⟩
    · rw [Heap.assign, transferLinks_setTransferQuery]
      exact LinkGraph.assign_oneToOne htransfer hop
    · rwa [Heap.assign, outputLinks_setTransferQuery]
  | inputQuery t v =>
    refine ⟨?_, ?_⟩
    · rwa [Heap.assign, transferLinks_setInputQuery]
    · rw [Heap.assign, outputLinks_setInputQuery]
      exact LinkGraph.assign_oneToOne houtput hop
  | outputQuery t v =>
    refine ⟨?_, ?_⟩
    · rwa [Heap.assign, transferLinks_setOutputQuery]
    · rw [Heap.assign, outputLinks_setOutputQuery]
      exact LinkGraph.assign_oneToOne houtput hop
  | transferTxQuery q v => exact hop.elim
  | outputTxQuery q v flag => exact hop.elim

/-- **Single-owner runs.**  A run of the three slot properties from fresh objects that assigns
only free children, or children to the slot they are in, keeps the graph a one-to-one linking,
and each of its steps is confined to the assigned slot and its two children. -/
theorem reached_oneToOne (ops : List (Setter τ κ ω))
    (hops : Run.AllSteps Heap.assign (fun h op => op.SingleOwner h) Heap.fresh ops) :
    (∀ h ∈ Run.trace Heap.assign Heap.fresh ops, h.OneToOne) ∧
      Run.AllSteps Heap.assign (fun h op => op.Confined h (h.assign op)) Heap.fresh ops := by
  refine ⟨?_, hops.imp fun _ _ hop => hop.confined⟩
  intro h hh
  exact (Run.forall_trace (fun _ _ hone hop => Heap.assign_linksOneToOne hone hop) ops _
    Heap.fresh_linksOneToOne hops h hh).oneToOne

/-- A run that fills both output slots, displaces one child and clears the other slot. -/
theorem reached_oneToOne_displacing :
    (∀ h ∈ Run.trace Heap.assign (Heap.fresh : Heap ℕ ℕ ℕ)
        [.inputQuery 0 (some 1), .outputQuery 0 (some 2), .inputQuery 0 (some 3),
          .outputQuery 0 none], h.OneToOne) ∧
      Run.AllSteps Heap.assign (fun h op => op.Confined h (h.assign op))
        (Heap.fresh : Heap ℕ ℕ ℕ)
        [.inputQuery 0 (some 1), .outputQuery 0 (some 2), .inputQuery 0 (some 3),
          .outputQuery 0 none] := by
  refine reached_oneToOne _ ⟨?_, ?_, ?_, ?_, trivial⟩
  · rintro q ⟨⟩
    exact Or.inl rfl
  · rintro q ⟨⟩
    exact Or.inl rfl
  · rintro q ⟨⟩
    exact Or.inl rfl
  · rintro q ⟨⟩

end

end MoneroPython.Query
