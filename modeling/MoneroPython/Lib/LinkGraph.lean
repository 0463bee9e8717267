/-
# Two-ended links

Some objects own numbered places (`slot`), other objects are put into the places, and each of
the latter carries a pointer back to its owner (`back`).  Nothing but the code that writes the
two ends keeps them in agreement.  `Symmetric` says that they agree.

Two writers are treated.  `assign` writes a place, points the new child at the owner and
orphans the displaced child.  `attach` starts from the child: it writes the child's back
pointer, puts the child into a place of the new owner, and afterwards empties the place of
the old owner.  For each of them this file says pointwise what it writes, and then decides
exactly when it keeps the graph symmetric (`assign_symmetric_iff`, `attach_symmetric_iff`).

One owner may have several places for the same kind of child.  That is what makes the exact
conditions longer than "the child is free": a child can sit in two places of one owner, and
clearing one of them does not detach it.  `OneToOne` is the stronger invariant without such
children; `assign_oneToOne` keeps it.
-/
import Mathlib.Logic.Function.Basic
import Mathlib.Logic.ExistsUnique
import Mathlib.Tactic.Common

/-- The places `σ`, what they hold, and the back pointers of the children `κ` to the
owners `τ`. -/
@[ext]
structure LinkGraph (σ κ τ : Type*) where
  slot : σ → Option κ
  back : κ → Option τ

namespace LinkGraph

variable {σ κ τ : Type*} (owner : σ → τ)

/-! ## 1. What it means for the two ends to agree -/

/-- A child is in a place of `t` if and only if it points back to `t`. -/
def Symmetric (G : LinkGraph σ κ τ) : Prop :=
  ∀ t c, (∃ s, owner s = t ∧ G.slot s = some c) ↔ G.back c = some t

/-- Every child in a place points back to the owner of the place, and every child that
points back to `t` is in exactly one place of `t`. -/
def OneToOne (G : LinkGraph σ κ τ) : Prop :=
  (∀ s c, G.slot s = some c → G.back c = some (owner s)) ∧
    ∀ c t, G.back c = some t → ∃! s, owner s = t ∧ G.slot s = some c

/-- The child `c` is in a place other than `s` of the same owner. -/
def HeldElsewhere (G : LinkGraph σ κ τ) (s : σ) (c : κ) : Prop :=
  ∃ s', s' ≠ s ∧ owner s' = owner s ∧ G.slot s' = some c

variable {owner} {G : LinkGraph σ κ τ}

theorem Symmetric.back_of_slot (h : G.Symmetric owner) {s : σ} {c : κ}
    (hs : G.slot s = some c) : G.back c = some (owner s) :=
  (h (owner s) c).mp ⟨s, rfl, hs⟩

theorem OneToOne.symmetric (h : G.OneToOne owner) : G.Symmetric owner := by
  intro t c
  constructor
  · rintro ⟨s, rfl, hs⟩
    exact h.1 s c hs
  · intro hb
    obtain ⟨s, hs, -⟩ := h.2 c t hb
    exact ⟨s, hs⟩

/-- No child of a one-to-one graph is in two places. -/
theorem OneToOne.slot_inj (h : G.OneToOne owner) {s s' : σ} {c : κ} (hs : G.slot s = some c)
    (hs' : G.slot s' = some c) : s = s' := by
  have hb : G.back c = some (owner s) := h.1 s c hs
  have hb' : G.back c = some (owner s') := h.1 s' c hs'
  have ho : owner s' = owner s := Option.some.inj (hb'.symm.trans hb)
  exact (h.2 c (owner s) hb).unique ⟨rfl, hs⟩ ⟨ho, hs'⟩

/-! ## 2. The two writers -/

/-- Write one place. -/
def setSlot [DecidableEq σ] (G : LinkGraph σ κ τ) (s : σ) (v : Option κ) : LinkGraph σ κ τ :=
  { G with slot := Function.update G.slot s v }

/-- Write one back pointer. -/
def setBack [DecidableEq κ] (G : LinkGraph σ κ τ) (c : κ) (v : Option τ) : LinkGraph σ κ τ :=
  { G with back := Function.update G.back c v }

@[simp] theorem setSlot_self [DecidableEq σ] (G : LinkGraph σ κ τ) (s : σ) (v : Option κ) :
    (G.setSlot s v).slot s = v :=
  Function.update_self ..

@[simp] theorem setBack_slot [DecidableEq κ] (G : LinkGraph σ κ τ) (c : κ) (v : Option τ) :
    (G.setBack c v).slot = G.slot :=
  rfl

section Write

variable [DecidableEq σ] [DecidableEq κ]

variable (owner) in
/-- Write the place `s`, point the new child at the owner, then orphan the displaced child
unless it is the new one. -/
def assign (G : LinkGraph σ κ τ) (s : σ) (v : Option κ) : LinkGraph σ κ τ :=
  let G₁ := G.setSlot s v
  let G₂ := match v with
    | some c => G₁.setBack c (some (owner s))
    | none => G₁
  match G.slot s with
  | some o => if v = some o then G₂ else G₂.setBack o none
  | none => G₂

/-- Point the child `c` at `v`, put it into the place of the new owner, then empty the place
of the old owner. -/
def attach (place : τ → σ) (G : LinkGraph σ κ τ) (c : κ) (v : Option τ) : LinkGraph σ κ τ :=
  let G₁ := G.setBack c v
  let G₂ := match v with
    | some t => G₁.setSlot (place t) (some c)
    | none => G₁
  match G.back c with
  | some t₀ => G₂.setSlot (place t₀) none
  | none => G₂

theorem assign_slot (G : LinkGraph σ κ τ) (s : σ) (v : Option κ) :
    (G.assign owner s v).slot = Function.update G.slot s v := by
  unfold assign
  cases v <;> cases G.slot s <;> simp only [setSlot, setBack] <;> split <;> rfl

@[simp] theorem assign_slot_self (G : LinkGraph σ κ τ) (s : σ) (v : Option κ) :
    (G.assign owner s v).slot s = v := by
  rw [assign_slot, Function.update_self]

theorem assign_slot_of_ne (G : LinkGraph σ κ τ) {s s' : σ} (v : Option κ) (hss : s' ≠ s) :
    (G.assign owner s v).slot s' = G.slot s' := by
  rw [assign_slot, Function.update_of_ne hss]

/-- A child that is not the new one was in its place before, and that place is another one. -/
theorem slot_of_assign_slot {s s' : σ} {v : Option κ} {c : κ} (hv : v ≠ some c)
    (hs' : (G.assign owner s v).slot s' = some c) : s' ≠ s ∧ G.slot s' = some c := by
  have hss : s' ≠ s := by
    rintro rfl
    rw [assign_slot_self] at hs'
    exact hv hs'
  rw [assign_slot_of_ne G v hss] at hs'
  exact ⟨hss, hs'⟩

/-- After `assign` the new child points at the owner of the place, the displaced child at
nothing, and every other child where it did. -/
theorem assign_back (G : LinkGraph σ κ τ) (s : σ) (v : Option κ) (c : κ) :
    (G.assign owner s v).back c =
      if v = some c then some (owner s) else if G.slot s = some c then none else G.back c := by
  unfold assign
  rcases v with _ | d <;> rcases G.slot s with _ | o
  · simp [setSlot]
  · simp [setSlot, setBack, Function.update_apply, eq_comm]
  · simp [setSlot, setBack, Function.update_apply, eq_comm]
  · by_cases hdo : d = o
    · subst hdo
      by_cases hc : c = d <;> simp [setSlot, setBack, hc, eq_comm]
    · by_cases hc : c = d
      · subst hc
        simp [setSlot, setBack, hdo]
      · simp [setSlot, setBack, Function.update_apply, hdo, hc, eq_comm]

theorem attach_back (place : τ → σ) (G : LinkGraph σ κ τ) (c : κ) (v : Option τ) :
    (G.attach place c v).back = Function.update G.back c v := by
  unfold attach
  cases v <;> cases G.back c <;> rfl

@[simp] theorem attach_back_self (place : τ → σ) (G : LinkGraph σ κ τ) (c : κ) (v : Option τ) :
    (G.attach place c v).back c = v := by
  rw [attach_back, Function.update_self]

theorem attach_slot (place : τ → σ) (G : LinkGraph σ κ τ) (c : κ) (v : Option τ) (s : σ) :
    (G.attach place c v).slot s =
      if (G.back c).map place = some s then none
      else if v.map place = some s then some c else G.slot s := by
  unfold attach
  cases v <;> cases G.back c <;> simp [setSlot, setBack, Function.update_apply, eq_comm]

/-! ## 3. Writing a place: when symmetry survives -/

variable (owner) in
/-- The condition of `assign`: the new child is free or already a child of this owner, and
the displaced child is in no other place of the owner. -/
def Adoptable (G : LinkGraph σ κ τ) (s : σ) (v : Option κ) : Prop :=
  (∀ c, v = some c → G.back c = none ∨ G.back c = some (owner s)) ∧
    ∀ o, G.slot s = some o → v ≠ some o → ¬ G.HeldElsewhere owner s o

/-- If `assign` leaves the graph symmetric, the new child was adoptable. -/
theorem adoptable_of_symmetric (h : G.Symmetric owner) {s : σ} {v : Option κ}
    (h' : (G.assign owner s v).Symmetric owner) : G.Adoptable owner s v := by
  refine ⟨?_, ?_⟩
  · intro c hv
    cases hb : G.back c with
    | none => exact Or.inl rfl
    | some t =>
      -- a child taken from another owner stays in the other owner's place
      obtain ⟨s', rfl, hs'⟩ := (h t c).mpr hb
      by_cases hss : s' = s
      · exact Or.inr (by rw [hss])
      have hslot : (G.assign owner s v).slot s' = some c := by
        rw [assign_slot_of_ne G v hss, hs']
      have hback : (G.assign owner s v).back c = some (owner s) := by
        rw [assign_back, if_pos hv]
      exact Or.inr ((h'.back_of_slot hslot).symm.trans hback)
  · rintro o ho hvo ⟨s', hss, howner, hs'⟩
    have hslot : (G.assign owner s v).slot s' = some o := by
      rw [assign_slot_of_ne G v hss, hs']
    have hback : (G.assign owner s v).back o = none := by
      rw [assign_back, if_neg hvo, if_pos ho]
    exact absurd (h'.back_of_slot hslot) (by simp [hback])

/-- After `assign` the new child is in places of its new owner only. -/
theorem Adoptable.owner_eq (h : G.Symmetric owner) {s s' : σ} {v : Option κ} {c : κ}
    (hadopt : G.Adoptable owner s v) (hv : v = some c)
    (hs' : (G.assign owner s v).slot s' = some c) : owner s = owner s' := by
  by_cases hss : s' = s
  · rw [hss]
  rw [assign_slot_of_ne G v hss] at hs'
  have hb : G.back c = some (owner s') := h.back_of_slot hs'
  rcases hadopt.1 c hv with hfree | hown
  · exact absurd (hfree.symm.trans hb) (by simp)
  · exact Option.some.inj (hown.symm.trans hb)

/-- After `assign` the displaced child is in no place. -/
theorem Adoptable.displaced (h : G.Symmetric owner) {s s' : σ} {v : Option κ} {c : κ}
    (hadopt : G.Adoptable owner s v) (hv : v ≠ some c) (ho : G.slot s = some c) :
    (G.assign owner s v).slot s' ≠ some c := by
  intro hs'
  obtain ⟨hss, hbefore⟩ := slot_of_assign_slot hv hs'
  have howner : owner s' = owner s :=
    Option.some.inj ((h.back_of_slot hbefore).symm.trans (h.back_of_slot ho))
  exact hadopt.2 c ho hv ⟨s', hss, howner, hbefore⟩

/-- **`assign` keeps a symmetric graph symmetric exactly when the new child is adoptable.** -/
theorem assign_symmetric_iff (h : G.Symmetric owner) (s : σ) (v : Option κ) :
    (G.assign owner s v).Symmetric owner ↔ G.Adoptable owner s v := by
  refine ⟨adoptable_of_symmetric h, ?_⟩
  intro hadopt t c
  rw [assign_back]
  by_cases hv : v = some c
  · rw [if_pos hv]
    constructor
    · rintro ⟨s', rfl, hs'⟩
      rw [hadopt.owner_eq h hv hs']
    · intro ht
      exact ⟨s, Option.some.inj ht, by rw [assign_slot_self, hv]⟩
  · rw [if_neg hv]
    by_cases ho : G.slot s = some c
    · rw [if_pos ho]
      refine iff_of_false ?_ (by simp)
      rintro ⟨s', -, hs'⟩
      exact hadopt.displaced h hv ho hs'
    · rw [if_neg ho, ← h t c]
      refine exists_congr fun s' => and_congr_right fun _ => ?_
      by_cases hss : s' = s
      · rw [hss, assign_slot_self]
        exact iff_of_false hv ho
      · rw [assign_slot_of_ne G v hss]

variable (owner) in
/-- `assign` writes one place and the back pointers of the child that leaves it and of the
child that enters it; it changes nothing else. -/
theorem assign_frame (G : LinkGraph σ κ τ) (s : σ) (v : Option κ) :
    (∀ s', s' ≠ s → (G.assign owner s v).slot s' = G.slot s') ∧
      ∀ c, v ≠ some c → G.slot s ≠ some c → (G.assign owner s v).back c = G.back c := by
  constructor
  · intro s' hss
    exact assign_slot_of_ne G v hss
  · intro c hv ho
    rw [assign_back, if_neg hv, if_neg ho]

/-- **A one-to-one graph stays one-to-one** when the child that is assigned is free or
already in the very place it is assigned to. -/
theorem assign_oneToOne (h : G.OneToOne owner) {s : σ} {v : Option κ}
    (hv : ∀ c, v = some c → G.back c = none ∨ G.slot s = some c) :
    (G.assign owner s v).OneToOne owner := by
  have hadopt : G.Adoptable owner s v := by
    refine ⟨?_, ?_⟩
    · intro c hc
      exact (hv c hc).imp_right fun hs => h.1 s c hs
    · rintro o ho - ⟨s', hss, -, hs'⟩
      exact hss (h.slot_inj hs' ho)
  have hsym : (G.assign owner s v).Symmetric owner :=
    (assign_symmetric_iff h.symmetric s v).mpr hadopt
  refine ⟨fun s' c hs' => hsym.back_of_slot hs', ?_⟩
  intro c t hb
  obtain ⟨s₁, ho₁, hs₁⟩ := (hsym t c).mpr hb
  refine ⟨s₁, ⟨ho₁, hs₁⟩, ?_⟩
  rintro s₂ ⟨-, hs₂⟩
  -- a child in two places would already have been in two places before the step
  have hplace : ∀ s', (G.assign owner s v).slot s' = some c → v = some c → s' = s := by
    intro s' hs' hc
    by_contra hss
    rw [assign_slot_of_ne G v hss] at hs'
    rcases hv c hc with hfree | hin
    · exact absurd (hfree.symm.trans (h.1 s' c hs')) (by simp)
    · exact hss (h.slot_inj hs' hin)
  by_cases hc : v = some c
  · rw [hplace s₁ hs₁ hc, hplace s₂ hs₂ hc]
  · exact h.slot_inj (slot_of_assign_slot hc hs₂).2 (slot_of_assign_slot hc hs₁).2

/-! ## 4. Moving a child: when symmetry survives -/

variable (owner) in
/-- The condition of `attach`.  When the child leaves its owner, it must be in no place of
the old owner but the one that is emptied.  When it gets the owner `t`, it must not have been
a child of `t` unless another place of `t` holds it, and whatever was in the place it is put
into must be in another place of `t` too. -/
def Attachable (place : τ → σ) (G : LinkGraph σ κ τ) (c : κ) (v : Option τ) : Prop :=
  (∀ t₀, G.back c = some t₀ → v ≠ some t₀ → ¬ G.HeldElsewhere owner (place t₀) c) ∧
    ∀ t, v = some t →
      (G.back c = some t → G.HeldElsewhere owner (place t) c) ∧
        ∀ p, G.slot (place t) = some p → G.HeldElsewhere owner (place t) p

section

variable {place : τ → σ} (hplace : ∀ t, owner (place t) = t)

include hplace

omit [DecidableEq σ] in
/-- A place belongs to one owner. -/
theorem map_place_eq_some_iff {v : Option τ} {t : τ} :
    v.map place = some (place t) ↔ v = some t := by
  constructor
  · intro hv
    obtain ⟨t', rfl, ht'⟩ := Option.map_eq_some_iff.mp hv
    rw [← hplace t', ht', hplace]
  · rintro rfl
    rfl

/-- The places that `attach` does not use are left alone. -/
theorem attach_elsewhere (G : LinkGraph σ κ τ) (c : κ) (v : Option τ) {t : τ} {s : σ}
    (hs : s ≠ place t) (howner : owner s = t) : (G.attach place c v).slot s = G.slot s := by
  have hne : ∀ w : Option τ, w.map place ≠ some s := by
    intro w hw
    obtain ⟨t', -, ht'⟩ := Option.map_eq_some_iff.mp hw
    exact hs (by rw [← howner, ← ht', hplace])
  rw [attach_slot, if_neg (hne _), if_neg (hne _)]

/-- What is held elsewhere is held by an owner's place that `attach` does not use. -/
theorem HeldElsewhere.attach {t : τ} {p : κ} (h : G.HeldElsewhere owner (place t) p) (c : κ)
    (v : Option τ) : ∃ s, owner s = t ∧ (G.attach place c v).slot s = some p := by
  obtain ⟨s, hss, howner, hs⟩ := h
  rw [hplace] at howner
  exact ⟨s, howner, by rw [attach_elsewhere hplace G c v hss howner, hs]⟩

variable [DecidableEq τ]

/-- After `attach` the place in use is empty at the old owner, even when the old owner is the
new one; at the new owner it holds the child. -/
theorem attach_place (G : LinkGraph σ κ τ) (c : κ) (v : Option τ) (t : τ) :
    (G.attach place c v).slot (place t) =
      if G.back c = some t then none else if v = some t then some c else G.slot (place t) := by
  rw [attach_slot]
  simp only [map_place_eq_some_iff hplace]

/-- If `attach` leaves the graph symmetric, the child was attachable. -/
theorem attachable_of_symmetric (h : G.Symmetric owner) {c : κ} {v : Option τ}
    (h' : (G.attach place c v).Symmetric owner) : G.Attachable owner place c v := by
  have hbackc : (G.attach place c v).back c = v := attach_back_self place G c v
  -- a child that belongs to `t` after the step but is not in the place in use is elsewhere
  have helse : ∀ t p, (G.attach place c v).back p = some t →
      (G.attach place c v).slot (place t) ≠ some p → G.HeldElsewhere owner (place t) p := by
    intro t p hp hne
    obtain ⟨s, howner, hs⟩ := (h' t p).mpr hp
    have hss : s ≠ place t := by
      rintro rfl
      exact hne hs
    rw [attach_elsewhere hplace G c v hss howner] at hs
    exact ⟨s, hss, by rw [hplace, howner], hs⟩
  refine ⟨?_, ?_⟩
  · intro t₀ _ hv hheld
    obtain ⟨s, howner, hs⟩ := hheld.attach hplace c v
    exact hv (by rw [← hbackc, h'.back_of_slot hs, howner])
  · intro t hv
    constructor
    · intro hb
      refine helse t c (by rw [hbackc, hv]) ?_
      rw [attach_place hplace, if_pos hb]
      simp
    · intro p hp
      have hbp : G.back p = some t := by rw [h.back_of_slot hp, hplace]
      by_cases hpc : p = c
      · subst hpc
        refine helse t p (by rw [hbackc, hv]) ?_
        rw [attach_place hplace, if_pos hbp]
        simp
      · refine helse t p (by rw [attach_back, Function.update_of_ne hpc, hbp]) ?_
        rw [attach_place hplace, if_pos hv]
        split
        · simp
        · intro heq
          exact hpc (Option.some.inj heq).symm

/-- The two ends of the child that is moved agree after `attach`. -/
theorem attach_moved_iff (h : G.Symmetric owner) {c : κ} {v : Option τ}
    (hc : G.Attachable owner place c v) (t : τ) :
    (∃ s, owner s = t ∧ (G.attach place c v).slot s = some c) ↔ v = some t := by
  constructor
  · rintro ⟨s, howner, hs⟩
    by_contra hv
    by_cases hss : s = place t
    · rw [hss, attach_place hplace, if_neg hv] at hs
      split at hs
      · simp at hs
      · rename_i hb
        exact hb (by rw [h.back_of_slot hs, hplace])
    · rw [attach_elsewhere hplace G c v hss howner] at hs
      have hb : G.back c = some t := by rw [h.back_of_slot hs, howner]
      exact hc.1 t hb hv ⟨s, hss, by rw [hplace, howner], hs⟩
  · intro hv
    by_cases hb : G.back c = some t
    · exact ((hc.2 t hv).1 hb).attach hplace c v
    · exact ⟨place t, hplace t, by rw [attach_place hplace, if_neg hb, if_pos hv]⟩

/-- The other children are held by the owners that held them before. -/
theorem attach_others_iff (h : G.Symmetric owner) {c : κ} {v : Option τ}
    (hc : G.Attachable owner place c v) (t : τ) {p : κ} (hpc : p ≠ c) :
    (∃ s, owner s = t ∧ (G.attach place c v).slot s = some p) ↔ G.back p = some t := by
  constructor
  · rintro ⟨s, howner, hs⟩
    by_cases hss : s = place t
    · rw [hss, attach_place hplace] at hs
      split at hs
      · simp at hs
      · split at hs
        · exact absurd (Option.some.inj hs).symm hpc
        · rw [h.back_of_slot hs, hplace]
    · rw [attach_elsewhere hplace G c v hss howner] at hs
      rw [h.back_of_slot hs, howner]
  · intro hb
    obtain ⟨s, howner, hs⟩ := (h t p).mpr hb
    by_cases hss : s = place t
    · -- the place in use is overwritten or emptied only if `p` is also somewhere else
      subst hss
      by_cases hv : v = some t
      · exact ((hc.2 t hv).2 p hs).attach hplace c v
      · have hbc : G.back c ≠ some t := by
          intro hbc
          obtain ⟨s', howner', hs'⟩ := (h t c).mpr hbc
          refine hc.1 t hbc hv ⟨s', ?_, by rw [hplace, howner'], hs'⟩
          rintro rfl
          exact hpc (Option.some.inj (hs.symm.trans hs'))
        exact ⟨place t, howner, by rw [attach_place hplace, if_neg hbc, if_neg hv, hs]⟩
    · exact ⟨s, howner, by rw [attach_elsewhere hplace G c v hss howner, hs]⟩

/-- **`attach` keeps a symmetric graph symmetric exactly when the child is attachable.** -/
theorem attach_symmetric_iff (h : G.Symmetric owner) (c : κ) (v : Option τ) :
    (G.attach place c v).Symmetric owner ↔ G.Attachable owner place c v := by
  refine ⟨attachable_of_symmetric hplace h, ?_⟩
  intro hc t p
  by_cases hpc : p = c
  · subst hpc
    rw [attach_back_self]
    exact attach_moved_iff hplace h hc t
  · rw [attach_back, Function.update_of_ne hpc]
    exact attach_others_iff hplace h hc t hpc

/-! ## 5. Writing twice, and what is left alone -/

/-- **Repeating `attach`** changes nothing exactly when the first time already found the child
at its new owner.  Otherwise the second time empties the place that the first has filled. -/
theorem attach_attach_iff (G : LinkGraph σ κ τ) (c : κ) (v : Option τ) :
    (G.attach place c v).attach place c v = G.attach place c v ↔
      ∀ t, v = some t → G.back c = some t := by
  have hback : (G.attach place c v).back c = v := attach_back_self place G c v
  constructor
  · rintro htwice t rfl
    by_contra hb
    have hempty : ((G.attach place c (some t)).attach place c (some t)).slot (place t) = none := by
      rw [attach_place hplace, if_pos hback]
    have hfull : (G.attach place c (some t)).slot (place t) = some c := by
      rw [attach_place hplace, if_neg hb, if_pos rfl]
    rw [htwice, hfull] at hempty
    cases hempty
  · intro hv
    ext s : 2
    · rw [attach_slot place (G.attach place c v), hback]
      split
      · next hs =>
        obtain ⟨t, ht, rfl⟩ := Option.map_eq_some_iff.mp hs
        rw [attach_place hplace, if_pos (hv t ht)]
      · rfl
    · rw [attach_back, attach_back, Function.update_idem]

/-- **What `attach` takes from others.**  Every other child stays where it is, the place that is
filled apart, exactly when the place that is emptied holds no other child. -/
theorem attach_spares_iff (G : LinkGraph σ κ τ) (c : κ) (v : Option τ) :
    (∀ s p, p ≠ c → G.slot s = some p → v.map place ≠ some s →
        (G.attach place c v).slot s = some p) ↔
      ∀ t₀, G.back c = some t₀ → v ≠ some t₀ → ∀ p, G.slot (place t₀) = some p → p = c := by
  constructor
  · intro hspare t₀ hb hv p hp
    by_contra hpc
    have hkept := hspare (place t₀) p hpc hp (mt (map_place_eq_some_iff hplace).mp hv)
    rw [attach_place hplace, if_pos hb] at hkept
    cases hkept
  · intro hclear s p hpc hp hv
    rw [attach_slot, if_neg hv]
    split
    · next hs =>
      obtain ⟨t₀, hb, rfl⟩ := Option.map_eq_some_iff.mp hs
      exact absurd (hclear t₀ hb (mt (map_place_eq_some_iff hplace).mpr hv) p hp) hpc
    · exact hp

end

/-- Repeating `assign` changes nothing. -/
theorem assign_assign (G : LinkGraph σ κ τ) (s : σ) (v : Option κ) :
    (G.assign owner s v).assign owner s v = G.assign owner s v := by
  ext x : 2
  · rw [assign_slot, assign_slot, Function.update_idem]
  · rw [assign_back, assign_slot, Function.update_self, assign_back]
    split
    · rfl
    · rfl

end Write

/-! ## 6. The links that are added -/

variable (owner) in
/-- Each end of a link of `G'` was there in `G`, or it belongs to a new link. -/
structure AddsOnly (G G' : LinkGraph σ κ τ) (new : τ → κ → Prop) : Prop where
  slot : ∀ {s c}, G'.slot s = some c → G.slot s = some c ∨ new (owner s) c
  back : ∀ {c t}, G'.back c = some t → G.back c = some t ∨ new t c

theorem AddsOnly.refl (G : LinkGraph σ κ τ) {new : τ → κ → Prop} : G.AddsOnly owner G new :=
  ⟨Or.inl, Or.inl⟩

theorem AddsOnly.mono {G G' : LinkGraph σ κ τ} {new new' : τ → κ → Prop}
    (h : G.AddsOnly owner G' new) (himp : ∀ t c, new t c → new' t c) :
    G.AddsOnly owner G' new' :=
  ⟨fun hs => (h.slot hs).imp_right (himp _ _), fun hb => (h.back hb).imp_right (himp _ _)⟩

section Write

variable [DecidableEq σ] [DecidableEq κ]

theorem assign_addsOnly (G : LinkGraph σ κ τ) (s : σ) (v : Option κ) :
    G.AddsOnly owner (G.assign owner s v) fun t c => t = owner s ∧ v = some c where
  slot {s' c} hs' := by
    rcases eq_or_ne v (some c) with hv | hv
    · rcases eq_or_ne s' s with rfl | hne
      · exact Or.inr ⟨rfl, hv⟩
      · rw [assign_slot_of_ne G v hne] at hs'
        exact Or.inl hs'
    · exact Or.inl (slot_of_assign_slot hv hs').2
  back {c t} hb := by
    rw [assign_back] at hb
    split_ifs at hb with hv
    · cases hb
      exact Or.inr ⟨rfl, hv⟩
    · exact Or.inl hb

theorem attach_addsOnly {place : τ → σ} (hplace : ∀ t, owner (place t) = t)
    (G : LinkGraph σ κ τ) (c : κ) (v : Option τ) :
    G.AddsOnly owner (G.attach place c v) fun t c' => c' = c ∧ v = some t where
  slot {s c'} hs := by
    rw [attach_slot] at hs
    split_ifs at hs with hold hnew
    · obtain ⟨t, rfl, rfl⟩ := Option.map_eq_some_iff.mp hnew
      cases hs
      exact Or.inr ⟨rfl, by rw [hplace]⟩
    · exact Or.inl hs
  back {c' t} hb := by
    rcases eq_or_ne c' c with rfl | hne
    · rw [attach_back_self] at hb
      exact Or.inr ⟨rfl, hb⟩
    · rw [attach_back, Function.update_of_ne hne] at hb
      exact Or.inl hb

end Write

end LinkGraph
