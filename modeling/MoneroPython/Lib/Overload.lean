/-
# Overloads that are tried in order

A function of an extension module may have several *overloads* under one name.  The parameters of an
overload have names, types and perhaps defaults, and a call has positional and keyword arguments.
The dispatcher first tries all overloads in the order of their registration without converting
arguments, and then all of them again with conversions.  A conversion may have an effect, even when
it fails: it can use up an iterator.  These two passes are pybind11's, and they are assumed here.

`resolve` is this dispatcher.  `resolve_perm` says when the order of registration is irrelevant, and
`resolve_eq_convert` when an overload behaves as if it were the only one of its name.  Both ask that
of two overloads at least one *passes over* each call, which `apart` decides from their parameters
alone (`passes_or_passes_of_apart`).
-/
import Mathlib.Data.List.Forall2
import Mathlib.Data.List.Pairwise
import Mathlib.Tactic.Common

namespace Overload

variable {ν ς α γ σ κ : Type*}

/-! ## 1. Calls and parameters -/

structure Param (ν ς α : Type*) where
  name : ν
  type : ς
  default : Option α := none

structure Call (ν α : Type*) where
  positional : List α
  keywords : List (ν × α)

section Bind

variable [DecidableEq ν]

/-- The parameters that no positional argument has reached, with a keyword argument or their
default. -/
def fill (keywords : List (ν × α)) : List (Param ν ς α) → Option (List (ς × α))
  | [] => some []
  | p :: ps =>
    ((keywords.lookup p.name).or p.default).bind fun a =>
      (fill keywords ps).map fun rest => (p.type, a) :: rest

/-- The arguments of the parameters, in order, or nothing when the call does not fit them: there are
too many positional arguments, a keyword that is not the name of a remaining parameter, or a
parameter without an argument. -/
def bind (ps : List (Param ν ς α)) (call : Call ν α) : Option (List (ς × α)) :=
  let k := call.positional.length
  if ps.length < k then none
  else if call.keywords.all fun item => ((ps.drop k).map Param.name).contains item.1 then
    (fill call.keywords (ps.drop k)).map fun rest =>
      ((ps.take k).map Param.type).zip call.positional ++ rest
  else none

end Bind

/-! ## 2. Casters and candidates -/

/-- `exact` takes an argument only as it is, and `convert` also converts it.  What is taken as it is
stays the same with conversions. -/
structure Casters (ς α γ σ : Type*) where
  exact : ς → α → Option γ
  convert : ς → α → σ → Option γ × σ
  convert_of_exact : ∀ {t a v}, exact t a = some v → ∀ s, convert t a s = (some v, s)

namespace Casters

variable (C : Casters ς α γ σ)

def exactAll : List (ς × α) → Option (List γ)
  | [] => some []
  | (t, a) :: rest => (C.exact t a).bind fun v => (exactAll rest).map fun vs => v :: vs

/-- From left to right, up to the first argument that cannot be converted. -/
def convertAll : List (ς × α) → σ → Option (List γ) × σ
  | [], s => (some [], s)
  | (t, a) :: rest, s =>
    match C.convert t a s with
    | (none, s') => (none, s')
    | (some v, s') => ((convertAll rest s').1.map (v :: ·), (convertAll rest s').2)

/-- The type has nothing to do with the argument: it is refused without an effect. -/
def Refuses (t : ς) (a : α) : Prop := ∀ s, C.convert t a s = (none, s)

theorem convertAll_of_exactAll {args : List (ς × α)} {vs : List γ} (h : C.exactAll args = some vs)
    (s : σ) : C.convertAll args s = (some vs, s) := by
  induction args generalizing vs with
  | nil =>
    cases h
    rfl
  | cons arg args ih =>
    obtain ⟨t, a⟩ := arg
    obtain ⟨v, hv, hrest⟩ := Option.bind_eq_some_iff.mp h
    obtain ⟨vs', hvs', rfl⟩ := Option.map_eq_some_iff.mp hrest
    rw [convertAll, C.convert_of_exact hv s]
    simp only [ih hvs', Option.map_some]

theorem isSome_convertAll_of_append {args rest : List (ς × α)} {s : σ}
    (h : (C.convertAll (args ++ rest) s).1.isSome) : (C.convertAll args s).1.isSome := by
  induction args generalizing s with
  | nil => rfl
  | cons arg args ih =>
    obtain ⟨t, a⟩ := arg
    rw [List.cons_append, convertAll] at h
    rw [convertAll]
    cases hconvert : C.convert t a s with
    | mk r s' =>
      rw [hconvert] at h
      cases r with
      | none => cases h
      | some v =>
        simp only [Option.isSome_map] at h ⊢
        exact ih h

theorem convertAll_of_refuses {t : ς} {a : α} (h : C.Refuses t a) (rest : List (ς × α)) (s : σ) :
    C.convertAll ((t, a) :: rest) s = (none, s) := by
  rw [convertAll, h s]

end Casters

structure Candidate (ν ς α κ : Type*) where
  id : κ
  params : List (Param ν ς α)

namespace Candidate

variable [DecidableEq ν] (C : Casters ς α γ σ) (c : Candidate ν ς α κ) (call : Call ν α)

/-- The candidate is tried without conversions. -/
def exact : Option (κ × List γ) :=
  (bind c.params call).bind fun args => (C.exactAll args).map (c.id, ·)

/-- The candidate is tried with conversions. -/
def convert (s : σ) : Option (κ × List γ) × σ :=
  match bind c.params call with
  | none => (none, s)
  | some args => ((C.convertAll args s).1.map (c.id, ·), (C.convertAll args s).2)

/-- The candidate has nothing to do with the call. -/
def Passes : Prop := ∀ s, c.convert C call s = (none, s)

variable {C c call}

theorem convert_of_exact {r : κ × List γ} (h : c.exact C call = some r) (s : σ) :
    c.convert C call s = (some r, s) := by
  obtain ⟨args, hbind, hrest⟩ := Option.bind_eq_some_iff.mp h
  obtain ⟨vs, hvs, rfl⟩ := Option.map_eq_some_iff.mp hrest
  rw [convert, hbind]
  simp only [C.convertAll_of_exactAll hvs s, Option.map_some]

theorem isSome_convert_iff {s : σ} :
    (c.convert C call s).1.isSome ↔
      ∃ args, bind c.params call = some args ∧ (C.convertAll args s).1.isSome := by
  rw [convert]
  cases bind c.params call <;> simp

theorem id_eq_of_convert {s : σ} {r : κ × List γ} (h : (c.convert C call s).1 = some r) :
    r.1 = c.id := by
  rw [convert] at h
  cases hbind : bind c.params call with
  | none =>
    rw [hbind] at h
    cases h
  | some args =>
    rw [hbind] at h
    obtain ⟨vs, -, rfl⟩ := Option.map_eq_some_iff.mp h
    rfl

theorem Passes.exact_eq_none [Inhabited σ] (h : c.Passes C call) : c.exact C call = none := by
  cases hexact : c.exact C call with
  | none => rfl
  | some r =>
    have hsome := convert_of_exact hexact default
    rw [h default] at hsome
    cases hsome

/-- A positional argument for the only parameter. -/
theorem exact_singleton {p : Param ν ς α} (hparams : c.params = [p]) (a : α) :
    c.exact C ⟨[a], []⟩ = (C.exact p.type a).map fun v => (c.id, [v]) := by
  rw [exact, hparams]
  cases hexact : C.exact p.type a <;> simp [bind, fill, Casters.exactAll, hexact]

theorem convert_singleton {p : Param ν ς α} (hparams : c.params = [p]) (a : α) (s : σ) :
    c.convert C ⟨[a], []⟩ s =
      ((C.convert p.type a s).1.map fun v => (c.id, [v]), (C.convert p.type a s).2) := by
  rw [convert, hparams]
  cases hconvert : C.convert p.type a s with
  | mk r s' => cases r <;> simp [bind, fill, Casters.convertAll, hconvert]

theorem passes_of_bind_eq_none (h : bind c.params call = none) : c.Passes C call := by
  intro s
  rw [convert, h]

end Candidate

/-! ## 3. Dispatch -/

section Dispatch

variable [DecidableEq ν] (C : Casters ς α γ σ)

/-- The second round. -/
def firstConverted : List (Candidate ν ς α κ) → Call ν α → σ → Option (κ × List γ) × σ
  | [], _, s => (none, s)
  | c :: cs, call, s =>
    match c.convert C call s with
    | (some r, s') => (some r, s')
    | (none, s') => firstConverted cs call s'

/-- The dispatcher.  A function with one overload is tried with conversions at once. -/
def resolve (cs : List (Candidate ν ς α κ)) (call : Call ν α) (s : σ) : Option (κ × List γ) × σ :=
  match cs with
  | [c] => c.convert C call s
  | cs =>
    match cs.findSome? fun c => c.exact C call with
    | some r => (some r, s)
    | none => firstConverted C cs call s

variable {C}

theorem firstConverted_cons_of_passes {c : Candidate ν ς α κ} {cs : List (Candidate ν ς α κ)}
    {call : Call ν α} (h : c.Passes C call) (s : σ) :
    firstConverted C (c :: cs) call s = firstConverted C cs call s := by
  rw [firstConverted, h s]

theorem firstConverted_singleton (c : Candidate ν ς α κ) (call : Call ν α) (s : σ) :
    firstConverted C [c] call s = c.convert C call s := by
  simp only [firstConverted]
  cases hconvert : c.convert C call s with
  | mk r s' => cases r <;> rfl

theorem firstConverted_eq_none {cs : List (Candidate ν ς α κ)} {call : Call ν α}
    (h : ∀ c ∈ cs, c.Passes C call) (s : σ) : firstConverted C cs call s = (none, s) := by
  induction cs with
  | nil => rfl
  | cons c cs ih =>
    obtain ⟨hc, hcs⟩ := List.forall_mem_cons.mp h
    rw [firstConverted_cons_of_passes hc, ih hcs]

/-- Also one overload can be tried in two rounds. -/
theorem resolve_eq (cs : List (Candidate ν ς α κ)) (call : Call ν α) (s : σ) :
    resolve C cs call s =
      match cs.findSome? fun c => c.exact C call with
      | some r => (some r, s)
      | none => firstConverted C cs call s := by
  match cs with
  | [] => rfl
  | [c] =>
    rw [resolve, List.findSome?_singleton]
    cases hexact : c.exact C call with
    | some r => exact c.convert_of_exact hexact s
    | none => exact (firstConverted_singleton c call s).symm
  | c :: d :: cs => rfl

theorem resolve_of_exact {cs : List (Candidate ν ς α κ)} {call : Call ν α} {r : κ × List γ}
    (h : cs.findSome? (fun c => c.exact C call) = some r) (s : σ) :
    resolve C cs call s = (some r, s) := by
  rw [resolve_eq, h]

theorem resolve_of_not_exact {cs : List (Candidate ν ς α κ)} {call : Call ν α}
    (h : cs.findSome? (fun c => c.exact C call) = none) (s : σ) :
    resolve C cs call s = firstConverted C cs call s := by
  rw [resolve_eq, h]

/-! ## 4. The order of registration -/

/-- At most one of the two has anything to do with the call. -/
def ApartAt (call : Call ν α) (c d : Candidate ν ς α κ) : Prop := c.Passes C call ∨ d.Passes C call

instance (call : Call ν α) :
    Std.Symm (ApartAt (C := C) call : Candidate ν ς α κ → Candidate ν ς α κ → Prop) where
  symm _ _ := Or.symm

/-- At most one of the two takes the call as it is, and when none does, at most one has anything to
do with it. -/
def ClearAt (call : Call ν α) (c d : Candidate ν ς α κ) : Prop :=
  c.Passes C call ∨ d.Passes C call ∨ (c.exact C call).isSome ∧ d.exact C call = none ∨
    c.exact C call = none ∧ (d.exact C call).isSome

theorem ClearAt.symm {call : Call ν α} {c d : Candidate ν ς α κ} (h : ClearAt (C := C) call c d) :
    ClearAt (C := C) call d c := by
  rcases h with h | h | h | h
  · exact Or.inr (Or.inl h)
  · exact Or.inl h
  · exact Or.inr (Or.inr (Or.inr h.symm))
  · exact Or.inr (Or.inr (Or.inl h.symm))

theorem ApartAt.clearAt {call : Call ν α} {c d : Candidate ν ς α κ}
    (h : ApartAt (C := C) call c d) : ClearAt (C := C) call c d :=
  h.elim Or.inl fun hd => Or.inr (Or.inl hd)

/-- The overload that has something to do with the call is the one that converts it. -/
theorem firstConverted_eq_convert {cs : List (Candidate ν ς α κ)} {call : Call ν α}
    (h : cs.Pairwise (ApartAt (C := C) call)) {c : Candidate ν ς α κ} (hc : c ∈ cs)
    (hpasses : ¬ c.Passes C call) (s : σ) :
    firstConverted C cs call s = c.convert C call s := by
  induction cs with
  | nil => cases hc
  | cons d ds ih =>
    obtain ⟨hd, hds⟩ := List.pairwise_cons.mp h
    rcases List.mem_cons.mp hc with rfl | hmem
    · have hall : ∀ e ∈ ds, e.Passes C call := fun e he => (hd e he).resolve_left hpasses
      rw [firstConverted]
      cases hconv : c.convert C call s with
      | mk r s' =>
        cases r with
        | some r => rfl
        | none => exact firstConverted_eq_none hall s'
    · have hd' : d.Passes C call := (hd c hmem).resolve_right hpasses
      rw [firstConverted_cons_of_passes hd', ih hds hmem]

/-- Without an overload that takes the call as it is, clear overloads are apart. -/
theorem pairwise_apartAt {cs : List (Candidate ν ς α κ)} {call : Call ν α}
    (h : cs.Pairwise (ClearAt (C := C) call)) (hnone : ∀ c ∈ cs, c.exact C call = none) :
    cs.Pairwise (ApartAt (C := C) call) := by
  refine h.imp_of_mem fun {c d} hc hd hclear => ?_
  rcases hclear with hpass | hpass | ⟨hsome, -⟩ | ⟨-, hsome⟩
  · exact Or.inl hpass
  · exact Or.inr hpass
  · rw [hnone c hc] at hsome
    cases hsome
  · rw [hnone d hd] at hsome
    cases hsome

variable [Inhabited σ]

/-- All overloads that take the call as it is agree, because there is at most one. -/
theorem findSome?_exact_eq {cs : List (Candidate ν ς α κ)} {call : Call ν α}
    (h : cs.Pairwise (ClearAt (C := C) call)) {c : Candidate ν ς α κ} (hc : c ∈ cs)
    {r : κ × List γ} (hr : c.exact C call = some r) :
    cs.findSome? (fun c => c.exact C call) = some r := by
  induction cs with
  | nil => cases hc
  | cons d ds ih =>
    obtain ⟨hd, hds⟩ := List.pairwise_cons.mp h
    rcases List.mem_cons.mp hc with rfl | hmem
    · rw [List.findSome?_cons, hr]
    · have hnone : d.exact C call = none := by
        rcases hd c hmem with hpass | hpass | ⟨-, hnone⟩ | ⟨hnone, -⟩
        · exact hpass.exact_eq_none
        · rw [hpass.exact_eq_none] at hr
          cases hr
        · rw [hnone] at hr
          cases hr
        · exact hnone
      rw [List.findSome?_cons, hnone]
      exact ih hds hmem

/-- **Order of registration.**  Overloads that are pairwise clear for a call can be registered in
any order. -/
theorem resolve_perm {cs ds : List (Candidate ν ς α κ)} {call : Call ν α}
    (h : cs.Pairwise (ClearAt (C := C) call)) (hperm : cs.Perm ds) (s : σ) :
    resolve C ds call s = resolve C cs call s := by
  have hds : ds.Pairwise (ClearAt (C := C) call) := h.perm hperm ClearAt.symm
  by_cases hexact : ∃ c ∈ cs, ∃ r, c.exact C call = some r
  · obtain ⟨c, hc, r, hr⟩ := hexact
    rw [resolve_of_exact (findSome?_exact_eq h hc hr),
      resolve_of_exact (findSome?_exact_eq hds (hperm.mem_iff.mp hc) hr)]
  · have hnone : ∀ c ∈ cs, c.exact C call = none := by
      intro c hc
      exact Option.eq_none_iff_forall_ne_some.mpr fun r hr => hexact ⟨c, hc, r, hr⟩
    have hnone' : ∀ c ∈ ds, c.exact C call = none := fun c hc => hnone c (hperm.mem_iff.mpr hc)
    rw [resolve_of_not_exact (List.findSome?_eq_none_iff.mpr hnone),
      resolve_of_not_exact (List.findSome?_eq_none_iff.mpr hnone')]
    by_cases hall : ∀ c ∈ cs, c.Passes C call
    · rw [firstConverted_eq_none hall,
        firstConverted_eq_none fun c hc => hall c (hperm.mem_iff.mpr hc)]
    · push Not at hall
      obtain ⟨c, hc, hpasses⟩ := hall
      rw [firstConverted_eq_convert (pairwise_apartAt h hnone) hc hpasses,
        firstConverted_eq_convert (pairwise_apartAt hds hnone') (hperm.mem_iff.mp hc) hpasses]

/-- **As if it were the only one.**  Among overloads that are pairwise apart for a call, the one
that has something to do with it gets it. -/
theorem resolve_eq_convert {cs : List (Candidate ν ς α κ)} {call : Call ν α}
    (h : cs.Pairwise (ApartAt (C := C) call)) {c : Candidate ν ς α κ} (hc : c ∈ cs)
    (hpasses : ¬ c.Passes C call) (s : σ) : resolve C cs call s = c.convert C call s := by
  cases hexact : c.exact C call with
  | some r =>
    rw [resolve_of_exact (findSome?_exact_eq (h.imp ApartAt.clearAt) hc hexact),
      c.convert_of_exact hexact]
  | none =>
    have hnone : ∀ d ∈ cs, d.exact C call = none := by
      intro d hd
      rcases eq_or_ne d c with rfl | hne
      · exact hexact
      · have hapart : ApartAt (C := C) call d c := h.forall hd hc hne
        exact (hapart.resolve_right hpasses).exact_eq_none
    rw [resolve_of_not_exact (List.findSome?_eq_none_iff.mpr hnone),
      firstConverted_eq_convert h hc hpasses]

/-- What is accepted is what one of the overloads converts. -/
theorem exists_resolve_eq_convert {cs : List (Candidate ν ς α κ)} {call : Call ν α}
    (h : cs.Pairwise (ApartAt (C := C) call)) {s : σ} (hsome : (resolve C cs call s).1.isSome) :
    ∃ c ∈ cs, ¬ c.Passes C call ∧ resolve C cs call s = c.convert C call s := by
  by_contra hnot
  have hall : ∀ c ∈ cs, c.Passes C call := by
    intro c hc
    by_contra hpasses
    exact hnot ⟨c, hc, hpasses, resolve_eq_convert h hc hpasses s⟩
  have hnone : ∀ c ∈ cs, c.exact C call = none := fun c hc => (hall c hc).exact_eq_none
  rw [resolve_of_not_exact (List.findSome?_eq_none_iff.mpr hnone),
    firstConverted_eq_none hall] at hsome
  cases hsome

end Dispatch

/-! ## 5. Apart by their parameters -/

section Apart

variable [DecidableEq ν]

/-- With `k` positional arguments, `ps` needs a keyword that `qs` does not take. -/
def needs (k : ℕ) (ps qs : List (Param ν ς α)) : Bool :=
  (ps.drop k).any fun p => p.default.isNone && !((qs.drop k).map Param.name).contains p.name

/-- No call with `k` positional arguments fits both. -/
def unboundAt (k : ℕ) (ps qs : List (Param ν ς α)) : Bool :=
  decide (ps.length < k) || decide (qs.length < k) || needs k ps qs || needs k qs ps

/-- The first parameters have types that no argument is for both of. -/
def firstApart (disjoint : ς → ς → Bool) : List (Param ν ς α) → List (Param ν ς α) → Bool
  | p :: _, q :: _ => disjoint p.type q.type
  | _, _ => false

/-- For each number of positional arguments, no call fits both or their first types are disjoint. -/
def apart (disjoint : ς → ς → Bool) (ps qs : List (Param ν ς α)) : Bool :=
  (List.range (ps.length + 1)).all fun k =>
    unboundAt k ps qs || (decide (0 < k) && firstApart disjoint ps qs)

theorem bind_eq_some {ps : List (Param ν ς α)} {call : Call ν α} {args : List (ς × α)}
    (h : bind ps call = some args) :
    call.positional.length ≤ ps.length ∧
      (∀ item ∈ call.keywords, item.1 ∈ (ps.drop call.positional.length).map Param.name) ∧
      ∃ rest, fill call.keywords (ps.drop call.positional.length) = some rest ∧
        args = ((ps.take call.positional.length).map Param.type).zip call.positional ++ rest := by
  simp only [bind, Option.ite_none_left_eq_some, Option.ite_none_right_eq_some,
    Option.map_eq_some_iff, List.all_eq_true, List.contains_iff_mem] at h
  obtain ⟨hlen, hkeys, rest, hfill, rfl⟩ := h
  exact ⟨Nat.le_of_not_lt hlen, hkeys, rest, hfill, rfl⟩

/-- A positional argument for the only parameter leaves no room for keywords. -/
theorem bind_singleton_cons (p : Param ν ς α) (a : α) (item : ν × α) (items : List (ν × α)) :
    bind [p] ⟨[a], item :: items⟩ = none := by
  simp [bind]

/-- A parameter without a default needs its keyword. -/
theorem mem_keywords_of_fill {keywords : List (ν × α)} {ps : List (Param ν ς α)}
    {rest : List (ς × α)} (h : fill keywords ps = some rest) {p : Param ν ς α} (hp : p ∈ ps)
    (hdefault : p.default = none) : p.name ∈ keywords.map Prod.fst := by
  induction ps generalizing rest with
  | nil => cases hp
  | cons q ps ih =>
    obtain ⟨a, ha, hrest⟩ := Option.bind_eq_some_iff.mp h
    obtain ⟨rest', hrest', -⟩ := Option.map_eq_some_iff.mp hrest
    rcases List.mem_cons.mp hp with rfl | hmem
    · rw [hdefault, Option.or_none, List.lookup_eq_some_iff] at ha
      obtain ⟨before, after, rfl, -⟩ := ha
      exact List.mem_map_of_mem (List.mem_append_right before List.mem_cons_self)
    · exact ih hrest' hmem

theorem bind_eq_none_of_needs {ps qs : List (Param ν ς α)} {call : Call ν α} {args : List (ς × α)}
    (h : needs call.positional.length ps qs = true) (hps : bind ps call = some args) :
    bind qs call = none := by
  obtain ⟨p, hp, hneeds⟩ := List.any_eq_true.mp h
  rw [Bool.and_eq_true, Option.isNone_iff_eq_none, Bool.not_eq_true'] at hneeds
  obtain ⟨-, -, rest, hfill, -⟩ := bind_eq_some hps
  obtain ⟨item, hitem, hname⟩ := List.mem_map.mp (mem_keywords_of_fill hfill hp hneeds.1)
  by_contra hqs
  obtain ⟨args', hargs'⟩ := Option.ne_none_iff_exists'.mp hqs
  have hmem := (bind_eq_some hargs').2.1 item hitem
  rw [hname, ← List.contains_iff_mem, hneeds.2] at hmem
  cases hmem

theorem bind_eq_none_of_unboundAt {ps qs : List (Param ν ς α)} {call : Call ν α}
    (h : unboundAt call.positional.length ps qs = true) :
    bind ps call = none ∨ bind qs call = none := by
  simp only [unboundAt, Bool.or_eq_true, decide_eq_true_eq] at h
  rcases h with ((hlen | hlen) | hneeds) | hneeds
  · exact Or.inl (if_pos hlen)
  · exact Or.inr (if_pos hlen)
  · cases hps : bind ps call with
    | none => exact Or.inl rfl
    | some args => exact Or.inr (bind_eq_none_of_needs hneeds hps)
  · cases hqs : bind qs call with
    | none => exact Or.inr rfl
    | some args => exact Or.inl (bind_eq_none_of_needs hneeds hqs)

theorem fill_append {keywords : List (ν × α)} (ps qs : List (Param ν ς α)) :
    fill keywords (ps ++ qs) =
      (fill keywords ps).bind fun args => (fill keywords qs).map fun rest => args ++ rest := by
  induction ps with
  | nil => simp [fill]
  | cons p ps ih =>
    rw [List.cons_append, fill, fill, ih]
    cases (keywords.lookup p.name).or p.default <;> cases fill keywords ps <;>
      cases fill keywords qs <;> rfl

/-- A last parameter that is not mentioned has its default. -/
theorem bind_concat_eq {ps : List (Param ν ς α)} {p : Param ν ς α} {d : α} {call : Call ν α}
    (hdefault : p.default = some d) (hlen : call.positional.length ≤ ps.length)
    (hkey : p.name ∉ call.keywords.map Prod.fst) :
    bind (ps ++ [p]) call = (bind ps call).map fun args => args ++ [(p.type, d)] := by
  have hlen' : call.positional.length ≤ (ps ++ [p]).length := by
    rw [List.length_append]
    omega
  have hnames : (call.keywords.all fun item =>
        (((ps ++ [p]).drop call.positional.length).map Param.name).contains item.1) =
      call.keywords.all fun item =>
        ((ps.drop call.positional.length).map Param.name).contains item.1 := by
    rw [Bool.eq_iff_iff]
    simp only [List.all_eq_true, List.contains_iff_mem, List.drop_append_of_le_length hlen,
      List.map_append, List.mem_append, List.map_cons, List.map_nil, List.mem_singleton]
    constructor
    · intro h item hitem
      exact (h item hitem).resolve_right fun heq => hkey (heq ▸ List.mem_map_of_mem hitem)
    · intro h item hitem
      exact Or.inl (h item hitem)
  have hlookup : call.keywords.lookup p.name = none := by
    refine List.lookup_eq_none_iff.mpr fun item hitem => ?_
    have hne : p.name ≠ item.1 := fun heq => hkey (heq ▸ List.mem_map_of_mem hitem)
    exact bne_iff_ne.mpr hne
  have hlast : fill call.keywords [p] = some [(p.type, d)] := by
    rw [fill, hlookup, Option.none_or, hdefault]
    rfl
  rw [bind, bind, if_neg (Nat.not_lt.mpr hlen), if_neg (Nat.not_lt.mpr hlen'), hnames]
  split_ifs
  · rw [List.drop_append_of_le_length hlen, List.take_append_of_le_length hlen, fill_append, hlast]
    cases fill call.keywords (ps.drop call.positional.length) <;> simp
  · rfl

/-- A parameter that is mentioned and that there is not. -/
theorem bind_eq_none_of_mentioned {ps : List (Param ν ς α)} {name : ν} {call : Call ν α}
    (hname : name ∉ ps.map Param.name)
    (h : ps.length < call.positional.length ∨ name ∈ call.keywords.map Prod.fst) :
    bind ps call = none := by
  rcases h with hlen | hmem
  · exact if_pos hlen
  · obtain ⟨item, hitem, rfl⟩ := List.mem_map.mp hmem
    by_contra hsome
    obtain ⟨args, hargs⟩ := Option.ne_none_iff_exists'.mp hsome
    have hdrop := (bind_eq_some hargs).2.1 item hitem
    rw [List.map_drop] at hdrop
    exact hname (List.mem_of_mem_drop hdrop)

variable {C : Casters ς α γ σ}

/-- A candidate whose first type refuses the first argument passes over the call. -/
theorem Candidate.passes_of_refuses {c : Candidate ν ς α κ} {p : Param ν ς α}
    {ps : List (Param ν ς α)} {a : α} {rest : List α} {keywords : List (ν × α)}
    (hparams : c.params = p :: ps) (h : C.Refuses p.type a) :
    c.Passes C ⟨a :: rest, keywords⟩ := by
  intro s
  rw [convert, hparams]
  cases hbind : bind (p :: ps) ⟨a :: rest, keywords⟩ with
  | none => rfl
  | some args =>
    obtain ⟨-, -, rest', -, rfl⟩ := bind_eq_some hbind
    simp only [List.length_cons, List.take_succ_cons, List.map_cons, List.zip_cons_cons,
      List.cons_append, C.convertAll_of_refuses h, Option.map_none]

/-- **Apart by their parameters.**  When no argument is for two disjoint types, one of two overloads
that are apart passes over each call. -/
theorem passes_or_passes_of_apart {disjoint : ς → ς → Bool}
    (hdisjoint : ∀ t u, disjoint t u = true → ∀ a, C.Refuses t a ∨ C.Refuses u a)
    {c d : Candidate ν ς α κ} (h : apart disjoint c.params d.params = true) (call : Call ν α) :
    ApartAt (C := C) call c d := by
  rcases Nat.lt_or_ge c.params.length call.positional.length with hlen | hlen
  · exact Or.inl (Candidate.passes_of_bind_eq_none (if_pos hlen))
  have hk := List.all_eq_true.mp h call.positional.length
    (List.mem_range.mpr (Nat.lt_succ_of_le hlen))
  rw [Bool.or_eq_true, Bool.and_eq_true, decide_eq_true_eq] at hk
  rcases hk with hunbound | ⟨hpos, hfirst⟩
  · rcases bind_eq_none_of_unboundAt hunbound with hc | hd
    · exact Or.inl (Candidate.passes_of_bind_eq_none hc)
    · exact Or.inr (Candidate.passes_of_bind_eq_none hd)
  · obtain ⟨positional, keywords⟩ := call
    cases positional with
    | nil => cases hpos
    | cons a rest =>
      cases hps : c.params with
      | nil =>
        rw [hps] at hfirst
        exact absurd hfirst Bool.false_ne_true
      | cons p ps =>
        cases hqs : d.params with
        | nil =>
          rw [hps, hqs] at hfirst
          exact absurd hfirst Bool.false_ne_true
        | cons q qs =>
          rw [hps, hqs, firstApart] at hfirst
          rcases hdisjoint p.type q.type hfirst a with hp | hq
          · exact Or.inl (Candidate.passes_of_refuses hps hp)
          · exact Or.inr (Candidate.passes_of_refuses hqs hq)

end Apart

/-! ## 6. What is accepted -/

section Accepted

variable [DecidableEq ν] {C : Casters ς α γ σ}

/-- What is accepted is what one of the overloads takes. -/
theorem exists_convert_of_resolve {cs : List (Candidate ν ς α κ)} {call : Call ν α} {s : σ}
    {r : κ × List γ} (h : (resolve C cs call s).1 = some r) :
    ∃ c ∈ cs, ∃ s', (c.convert C call s').1 = some r := by
  rw [resolve_eq] at h
  cases hexact : cs.findSome? fun c => c.exact C call with
  | some r' =>
    rw [hexact] at h
    cases h
    obtain ⟨c, hc, hr⟩ := List.exists_of_findSome?_eq_some hexact
    exact ⟨c, hc, s, by rw [Candidate.convert_of_exact hr]⟩
  | none =>
    rw [hexact] at h
    clear hexact
    induction cs generalizing s with
    | nil => cases h
    | cons c cs ih =>
      simp only [firstConverted] at h
      cases hconvert : c.convert C call s with
      | mk r' s' =>
        rw [hconvert] at h
        cases r' with
        | some r' => exact ⟨c, List.mem_cons_self, s, by rw [hconvert]; exact h⟩
        | none =>
          obtain ⟨d, hd, hrest⟩ := ih h
          exact ⟨d, List.mem_cons_of_mem c hd, hrest⟩

theorem map_fst_of_fill {keywords : List (ν × α)} {ps : List (Param ν ς α)} {rest : List (ς × α)}
    (h : fill keywords ps = some rest) : rest.map Prod.fst = ps.map Param.type := by
  induction ps generalizing rest with
  | nil =>
    cases h
    rfl
  | cons p ps ih =>
    obtain ⟨a, -, hrest⟩ := Option.bind_eq_some_iff.mp h
    obtain ⟨rest', hrest', rfl⟩ := Option.map_eq_some_iff.mp hrest
    rw [List.map_cons, List.map_cons, ih hrest']

/-- Each parameter has one argument. -/
theorem map_fst_of_bind {ps : List (Param ν ς α)} {call : Call ν α} {args : List (ς × α)}
    (h : bind ps call = some args) : args.map Prod.fst = ps.map Param.type := by
  obtain ⟨hlen, -, rest, hfill, rfl⟩ := bind_eq_some h
  have hlength : ((ps.take call.positional.length).map Param.type).length ≤
      call.positional.length := by
    rw [List.length_map, List.length_take]
    exact Nat.min_le_left _ _
  rw [List.map_append, List.map_fst_zip hlength, map_fst_of_fill hfill, ← List.map_append,
    List.take_append_drop]

/-- An argument that the call has, or a default. -/
def Candidate.Supplied (c : Candidate ν ς α κ) (call : Call ν α) (a : α) : Prop :=
  a ∈ call.positional ∨ a ∈ call.keywords.map Prod.snd ∨ ∃ p ∈ c.params, p.default = some a

theorem mem_of_fill {keywords : List (ν × α)} {ps : List (Param ν ς α)} {rest : List (ς × α)}
    (h : fill keywords ps = some rest) {arg : ς × α} (harg : arg ∈ rest) :
    arg.2 ∈ keywords.map Prod.snd ∨ ∃ p ∈ ps, p.default = some arg.2 := by
  induction ps generalizing rest with
  | nil =>
    cases h
    cases harg
  | cons p ps ih =>
    obtain ⟨a, ha, hrest⟩ := Option.bind_eq_some_iff.mp h
    obtain ⟨rest', hrest', rfl⟩ := Option.map_eq_some_iff.mp hrest
    rcases List.mem_cons.mp harg with rfl | hmem
    · rcases Option.or_eq_some_iff.mp ha with hlookup | ⟨-, hdefault⟩
      · obtain ⟨before, after, rfl, -⟩ := List.lookup_eq_some_iff.mp hlookup
        exact Or.inl (List.mem_map_of_mem (List.mem_append_right before List.mem_cons_self))
      · exact Or.inr ⟨p, List.mem_cons_self, hdefault⟩
    · rcases ih hrest' hmem with hkey | ⟨q, hq, hdefault⟩
      · exact Or.inl hkey
      · exact Or.inr ⟨q, List.mem_cons_of_mem p hq, hdefault⟩

theorem Candidate.supplied_of_bind {c : Candidate ν ς α κ} {call : Call ν α} {args : List (ς × α)}
    (h : bind c.params call = some args) {arg : ς × α} (harg : arg ∈ args) :
    c.Supplied call arg.2 := by
  obtain ⟨-, -, rest, hfill, rfl⟩ := bind_eq_some h
  rcases List.mem_append.mp harg with hzip | hrest
  · exact Or.inl (List.of_mem_zip hzip).2
  · rcases mem_of_fill hfill hrest with hkey | ⟨p, hp, hdefault⟩
    · exact Or.inr (Or.inl hkey)
    · exact Or.inr (Or.inr ⟨p, List.mem_of_mem_drop hp, hdefault⟩)

theorem Casters.forall₂_of_convertAll {R : ς → γ → Prop} {args : List (ς × α)} {vs : List γ} {s : σ}
    (hR : ∀ arg ∈ args, ∀ s v, (C.convert arg.1 arg.2 s).1 = some v → R arg.1 v)
    (h : (C.convertAll args s).1 = some vs) : List.Forall₂ (fun arg v => R arg.1 v) args vs := by
  induction args generalizing vs s with
  | nil =>
    cases h
    exact .nil
  | cons arg args ih =>
    obtain ⟨t, a⟩ := arg
    rw [convertAll] at h
    cases hconvert : C.convert t a s with
    | mk v s' =>
      rw [hconvert] at h
      cases v with
      | none => cases h
      | some v =>
        obtain ⟨vs', hvs', rfl⟩ := Option.map_eq_some_iff.mp h
        refine .cons (hR _ List.mem_cons_self s v (by rw [hconvert])) (ih ?_ hvs')
        exact fun arg harg => hR arg (List.mem_cons_of_mem _ harg)

/-- What holds of each value that is cast to a parameter type holds of what a lambda receives. -/
theorem Candidate.forall₂_of_convert {R : ς → γ → Prop} {c : Candidate ν ς α κ} {call : Call ν α}
    {s : σ} {r : κ × List γ}
    (hR : ∀ t a, c.Supplied call a → ∀ s v, (C.convert t a s).1 = some v → R t v)
    (h : (c.convert C call s).1 = some r) :
    List.Forall₂ (fun p v => R p.type v) c.params r.2 := by
  rw [convert] at h
  cases hbind : bind c.params call with
  | none =>
    rw [hbind] at h
    cases h
  | some args =>
    rw [hbind] at h
    obtain ⟨vs, hvs, rfl⟩ := Option.map_eq_some_iff.mp h
    have hargs : List.Forall₂ (fun arg v => R arg.1 v) args vs :=
      C.forall₂_of_convertAll
        (fun arg harg => hR arg.1 arg.2 (Candidate.supplied_of_bind hbind harg)) hvs
    have htypes : List.Forall₂ R (c.params.map Param.type) vs := by
      rw [← map_fst_of_bind hbind]
      exact List.forall₂_map_left_iff.mpr hargs
    exact List.forall₂_map_left_iff.mp htypes

theorem bind_positional {ps : List (Param ν ς α)} {as : List α} (h : as.length = ps.length) :
    bind ps (⟨as, []⟩ : Call ν α) = some ((ps.map Param.type).zip as) := by
  simp [bind, h, fill]

theorem Casters.convertAll_of_forall₂ {args : List (ς × α)} {vs : List γ}
    (h : List.Forall₂ (fun arg v => ∀ s, C.convert arg.1 arg.2 s = (some v, s)) args vs) (s : σ) :
    C.convertAll args s = (some vs, s) := by
  induction h with
  | nil => rfl
  | cons hhead _ ih =>
    rw [convertAll, hhead s]
    simp only [ih, Option.map_some]

omit [DecidableEq ν] in
theorem forall₂_zip_map {back : γ → α} {ps : List (Param ν ς α)} {vs : List γ}
    (h : List.Forall₂ (fun p v => ∀ s, C.convert p.type (back v) s = (some v, s)) ps vs) :
    List.Forall₂ (fun arg v => ∀ s, C.convert arg.1 arg.2 s = (some v, s))
      ((ps.map Param.type).zip (vs.map back)) vs := by
  induction h with
  | nil => exact .nil
  | cons hhead _ ih => exact .cons hhead ih

/-- Values that are given back as positional arguments are received again. -/
theorem Candidate.convert_map {c : Candidate ν ς α κ} {back : γ → α} {vs : List γ}
    (h : List.Forall₂ (fun p v => ∀ s, C.convert p.type (back v) s = (some v, s)) c.params vs)
    (s : σ) : c.convert C ⟨vs.map back, []⟩ s = (some (c.id, vs), s) := by
  have hlength : (vs.map back).length = c.params.length := by
    rw [List.length_map]
    exact h.length_eq.symm
  rw [convert, bind_positional hlength]
  simp only [C.convertAll_of_forall₂ (forall₂_zip_map h), Option.map_some]

/-- So are values that are given back for all parameters but a last one that has a default. -/
theorem Candidate.convert_map_default {c : Candidate ν ς α κ} {ps : List (Param ν ς α)}
    {p : Param ν ς α} (hparams : c.params = ps ++ [p]) {d : α} (hdefault : p.default = some d)
    {back : γ → α} {vs : List γ} {w : γ} (hw : ∀ s, C.convert p.type d s = (some w, s))
    (h : List.Forall₂ (fun p v => ∀ s, C.convert p.type (back v) s = (some v, s)) ps vs) (s : σ) :
    c.convert C ⟨vs.map back, []⟩ s = (some (c.id, vs ++ [w]), s) := by
  have hlength : (vs.map back).length = ps.length := by
    rw [List.length_map]
    exact h.length_eq.symm
  have hlast : List.Forall₂ (fun arg v => ∀ s, C.convert arg.1 arg.2 s = (some v, s))
      ((ps.map Param.type).zip (vs.map back) ++ [(p.type, d)]) (vs ++ [w]) :=
    List.rel_append (forall₂_zip_map h) (.cons hw .nil)
  rw [convert, hparams, bind_concat_eq hdefault (Nat.le_of_eq hlength) (by simp),
    bind_positional hlength, Option.map_some]
  simp only [C.convertAll_of_forall₂ hlast, Option.map_some]

end Accepted

end Overload
