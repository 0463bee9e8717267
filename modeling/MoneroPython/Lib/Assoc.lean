/-
# Association lists and keyed lists

A map is a list of bindings in the order their keys were first entered.  `assign` is the
subscript assignment of a dictionary: a key that is there keeps its place and gets the new
value.  `emplace` is the insertion of a C++ map: a key that is there keeps its value.

Entering bindings one after the other, the last binding of a key wins under `assign`
(`lookup_assignAll`) and the first one under `emplace` (`lookup_emplace`).

The last section is about lists whose elements have a key.  As long as the keys are distinct,
the first element with a key does not depend on the order of the list.
-/
import Mathlib.Data.List.Basic
import Mathlib.Data.List.Find
import Mathlib.Data.List.Nodup

namespace Assoc

variable {κ α : Type*} [DecidableEq κ]

/-! ## 1. Assignment: the last binding wins -/

/-- `d[k] = v`. -/
def assign (k : κ) (v : α) : List (κ × α) → List (κ × α)
  | [] => [(k, v)]
  | (k', v') :: d => if k' = k then (k', v) :: d else (k', v') :: assign k v d

/-- The bindings of `ms` assigned one after the other. -/
def assignAll : List (κ × α) → List (κ × α) → List (κ × α)
  | d, [] => d
  | d, (k, v) :: ms => assignAll (assign k v d) ms

/-- The value of the last binding of `k`. -/
def lookupLast (k : κ) (ms : List (κ × α)) : Option α := ms.reverse.lookup k

theorem lookup_cons_eq (k k' : κ) (v : α) (d : List (κ × α)) :
    ((k', v) :: d).lookup k = if k = k' then some v else d.lookup k := by
  rw [List.lookup_cons]
  split <;> simp_all

theorem lookup_assign (k k' : κ) (v : α) (d : List (κ × α)) :
    (assign k v d).lookup k' = if k' = k then some v else d.lookup k' := by
  induction d with
  | nil => exact lookup_cons_eq k' k v []
  | cons m d ih =>
    obtain ⟨k₀, v₀⟩ := m
    rw [assign]
    split
    · next h =>
      subst h
      rw [lookup_cons_eq, lookup_cons_eq]
      split <;> rfl
    · next h =>
      rw [lookup_cons_eq, lookup_cons_eq, ih]
      split
      · next h' => rw [if_neg (fun e => h (h' ▸ e))]
      · rfl

theorem lookupLast_cons (k k' : κ) (v : α) (ms : List (κ × α)) :
    lookupLast k ((k', v) :: ms) = (lookupLast k ms).or (if k = k' then some v else none) := by
  rw [lookupLast, List.reverse_cons, List.lookup_append, lookup_cons_eq]
  rfl

/-- **The last binding wins.** -/
theorem lookup_assignAll (k : κ) (ms d : List (κ × α)) :
    (assignAll d ms).lookup k = (lookupLast k ms).or (d.lookup k) := by
  induction ms generalizing d with
  | nil => rfl
  | cons m ms ih =>
    obtain ⟨k', v⟩ := m
    rw [assignAll, ih, lookupLast_cons, lookup_assign, Option.or_assoc]
    split <;> rfl

theorem mem_keys_assign {k k' : κ} {v : α} {d : List (κ × α)} :
    k' ∈ (assign k v d).map Prod.fst ↔ k' = k ∨ k' ∈ d.map Prod.fst := by
  induction d with
  | nil => simp [assign]
  | cons m d ih =>
    rw [assign]
    split
    · next h => simp [h]
    · simp only [List.map_cons, List.mem_cons, ih]
      exact or_left_comm

theorem nodup_keys_assign {k : κ} {v : α} {d : List (κ × α)} (hd : (d.map Prod.fst).Nodup) :
    ((assign k v d).map Prod.fst).Nodup := by
  induction d with
  | nil => simp [assign]
  | cons m d ih =>
    rw [List.map_cons, List.nodup_cons] at hd
    rw [assign]
    split
    · exact List.nodup_cons.mpr hd
    · next h =>
      refine List.nodup_cons.mpr ⟨?_, ih hd.2⟩
      intro hmem
      rcases mem_keys_assign.mp hmem with hk | hmem
      · exact h hk
      · exact hd.1 hmem

theorem mem_keys_assignAll {k : κ} {ms d : List (κ × α)} :
    k ∈ (assignAll d ms).map Prod.fst ↔ k ∈ d.map Prod.fst ∨ k ∈ ms.map Prod.fst := by
  induction ms generalizing d with
  | nil => simp [assignAll]
  | cons m ms ih =>
    rw [assignAll, ih, mem_keys_assign, List.map_cons, List.mem_cons, or_comm (a := k = m.1),
      or_assoc]

theorem nodup_keys_assignAll {ms d : List (κ × α)} (hd : (d.map Prod.fst).Nodup) :
    ((assignAll d ms).map Prod.fst).Nodup := by
  induction ms generalizing d with
  | nil => exact hd
  | cons m ms ih => exact ih (nodup_keys_assign hd)

theorem lookupLast_map {β : Type*} (f : α → β) (k : κ) (ms : List (κ × α)) :
    lookupLast k (ms.map fun m => (m.1, f m.2)) = (lookupLast k ms).map f := by
  induction ms with
  | nil => rfl
  | cons m ms ih =>
    obtain ⟨k', v⟩ := m
    rw [List.map_cons, lookupLast_cons, ih, lookupLast_cons, Option.map_or]
    split <;> rfl

theorem mem_of_lookupLast {k : κ} {v : α} {ms : List (κ × α)} (h : lookupLast k ms = some v) :
    (k, v) ∈ ms := by
  obtain ⟨l₁, l₂, heq, -⟩ := List.lookup_eq_some_iff.mp h
  rw [← List.mem_reverse, heq]
  simp

/-- Nothing is in the map that was not in it before or was assigned. -/
theorem mem_assign {k : κ} {v : α} {d : List (κ × α)} {m : κ × α} (h : m ∈ assign k v d) :
    m = (k, v) ∨ m ∈ d := by
  induction d with
  | nil => exact Or.inl (List.mem_singleton.mp h)
  | cons m' d ih =>
    obtain ⟨k', v'⟩ := m'
    rw [assign] at h
    split at h
    · next hk =>
      rcases List.mem_cons.mp h with rfl | hmem
      · exact Or.inl (by rw [hk])
      · exact Or.inr (List.mem_cons_of_mem _ hmem)
    · rcases List.mem_cons.mp h with rfl | hmem
      · exact Or.inr List.mem_cons_self
      · exact (ih hmem).imp id (List.mem_cons_of_mem _)

theorem mem_assignAll {ms d : List (κ × α)} {m : κ × α} (h : m ∈ assignAll d ms) :
    m ∈ d ∨ m ∈ ms := by
  induction ms generalizing d with
  | nil => exact Or.inl h
  | cons m' ms ih =>
    rcases ih h with hmem | hmem
    · rcases mem_assign hmem with rfl | hmem
      · exact Or.inr List.mem_cons_self
      · exact Or.inl hmem
    · exact Or.inr (List.mem_cons_of_mem _ hmem)

/-- A new key is entered at the end. -/
theorem assign_of_notMem {k : κ} {v : α} {d : List (κ × α)} (h : k ∉ d.map Prod.fst) :
    assign k v d = d ++ [(k, v)] := by
  induction d with
  | nil => rfl
  | cons m d ih =>
    rw [List.map_cons, List.mem_cons, not_or] at h
    rw [assign, if_neg (Ne.symm h.1), ih h.2, List.cons_append]

/-- Distinct keys are entered in their order. -/
theorem assignAll_of_nodup {ms d : List (κ × α)} (h : ((d ++ ms).map Prod.fst).Nodup) :
    assignAll d ms = d ++ ms := by
  induction ms generalizing d with
  | nil => exact (List.append_nil d).symm
  | cons m ms ih =>
    have hnew : m.1 ∉ d.map Prod.fst := by
      rw [List.map_append, List.nodup_append] at h
      intro hmem
      exact h.2.2 m.1 hmem m.1 List.mem_cons_self rfl
    rw [List.append_cons] at h ⊢
    rw [assignAll, assign_of_notMem hnew, ih h]

/-! ## 2. Emplacement: the first binding wins -/

/-- `m.emplace(k, v)`. -/
def emplace (k : κ) (v : α) (m : List (κ × α)) : List (κ × α) :=
  if (m.lookup k).isSome then m else m ++ [(k, v)]

theorem lookup_emplace (k k' : κ) (v : α) (m : List (κ × α)) :
    (emplace k v m).lookup k' = (m.lookup k').or (if k' = k then some v else none) := by
  rw [emplace]
  split
  · next h =>
    obtain ⟨w, hw⟩ := Option.isSome_iff_exists.mp h
    split
    · next hk => rw [hk, hw, Option.some_or]
    · rw [Option.or_none]
  · rw [List.lookup_append, lookup_cons_eq]
    rfl

/-! ## 3. Lists whose elements have keys -/

variable {τ : Type*} (key : τ → κ)

/-- The first element with the key `k`. -/
def first (k : κ) (l : List τ) : Option τ := l.find? fun a => key a = k

variable {key}

/-- The first element with a key has the key. -/
theorem first_eq_some {l : List τ} {k : κ} {a : τ} (h : first key k l = some a) :
    a ∈ l ∧ key a = k :=
  ⟨List.mem_of_find?_eq_some h, by simpa using List.find?_some h⟩

theorem first_eq_some_iff {l : List τ} (hl : (l.map key).Nodup) {k : κ} {a : τ} :
    first key k l = some a ↔ a ∈ l ∧ key a = k := by
  constructor
  · exact first_eq_some
  · rintro ⟨hmem, hkey⟩
    cases hfind : first key k l with
    | none => exact absurd hkey (by simpa using List.find?_eq_none.mp hfind a hmem)
    | some b =>
      obtain ⟨hbmem, hbkey⟩ := first_eq_some hfind
      rw [List.inj_on_of_nodup_map hl hbmem hmem (hbkey.trans hkey.symm)]

theorem first_perm {l l' : List τ} (hperm : l.Perm l') (hl : (l.map key).Nodup) (k : κ) :
    first key k l = first key k l' := by
  apply Option.ext
  intro a
  rw [first_eq_some_iff hl, first_eq_some_iff ((hperm.map key).nodup_iff.mp hl),
    hperm.mem_iff]

/-- Filtering does not lose the first element with a key that the filter lets through. -/
theorem first_filter {l : List τ} {p : τ → Bool} {k : κ} (hp : ∀ a, key a = k → p a = true) :
    first key k (l.filter p) = first key k l := by
  rw [first, List.find?_filter]
  apply List.find?_congr
  intro a _
  rcases eq_or_ne (key a) k with h | h
  · simp [h, hp a h]
  · simp [h]

variable (key) in
theorem first_isSome {l : List τ} {a : τ} (ha : a ∈ l) : (first key (key a) l).isSome = true :=
  List.find?_isSome.mpr ⟨a, ha, by simp⟩

/-- Of the first elements with the keys `ks`, the first one with a key of `ks` is the first one
that the list has with it. -/
theorem first_filterMap_first {l : List τ} {ks : List κ} {k : κ} (hk : k ∈ ks) :
    first key k (ks.filterMap fun k' => first key k' l) = first key k l := by
  cases hfirst : first key k l with
  | none =>
    refine List.find?_eq_none.mpr ?_
    intro a ha hkey
    obtain ⟨k', -, hk'⟩ := List.mem_filterMap.mp ha
    have hkk : k' = k := (first_eq_some hk').2.symm.trans (by simpa using hkey)
    rw [hkk, hfirst] at hk'
    cases hk'
  | some a =>
    have hmem : a ∈ ks.filterMap fun k' => first key k' l := List.mem_filterMap.mpr ⟨k, hk, hfirst⟩
    have hkey : key a = k := (first_eq_some hfirst).2
    -- every element with the key `k` was found as the first one with it
    obtain ⟨b, hb⟩ := Option.isSome_iff_exists.mp (first_isSome key hmem)
    rw [hkey] at hb
    obtain ⟨hbmem, hbkey⟩ := first_eq_some hb
    obtain ⟨k', -, hk'⟩ := List.mem_filterMap.mp hbmem
    have hkk : k' = k := (first_eq_some hk').2.symm.trans hbkey
    rw [hkk, hfirst] at hk'
    rw [hb, hk']

/-- A list that is looked up element by element comes back when each element is found. -/
theorem filterMap_eq_self_iff {f : τ → Option τ} {l : List τ}
    (hf : ∀ a ∈ l, (f a).isSome = true) : l.filterMap f = l ↔ ∀ a ∈ l, f a = some a := by
  induction l with
  | nil => simp
  | cons a l ih =>
    rw [List.forall_mem_cons] at hf
    obtain ⟨b, hb⟩ := Option.isSome_iff_exists.mp hf.1
    rw [List.filterMap_cons, hb, List.cons.injEq, ih hf.2, List.forall_mem_cons, hb,
      Option.some.injEq]

/-- Replacing each element by the first one with its key changes nothing exactly when different
elements have different keys. -/
theorem filterMap_first_eq_self_iff {l : List τ} :
    (l.filterMap fun a => first key (key a) l) = l ↔
      ∀ a ∈ l, ∀ b ∈ l, key a = key b → a = b := by
  rw [filterMap_eq_self_iff fun a ha => first_isSome key ha]
  constructor
  · intro hself a ha b hb hkey
    have hfirst := hself a ha
    rw [hkey, hself b hb] at hfirst
    exact (Option.some.inj hfirst).symm
  · intro hinj a ha
    obtain ⟨b, hb⟩ := Option.isSome_iff_exists.mp (first_isSome key ha)
    obtain ⟨hbmem, hbkey⟩ := first_eq_some hb
    rw [hb, hinj b hbmem a ha hbkey]

end Assoc
