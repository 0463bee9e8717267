/-
# Passing arguments on

What a binding has received is given back to Python when a trampoline calls an override, and the
override may pass it on to the operation that it overrides, with `super().f(*args)`.  The call goes
through the dispatcher once more.

The dispatcher is stable: values that one of the overloaded bindings has received are received by
the same binding, as they are (`call_again`).

For the methods of a wallet the lambdas and the trampolines are in between, which replace arguments
by queries, or leave one out.  All the same the override makes the core call again that the first
caller made (`reaches_invoke`).  A caller in C++ may set `is_trusted`, which is lost
(`reaches_iff`).
-/
import MoneroPython.Dispatch.Overloads
import MoneroPython.Wallet.Trampoline

namespace MoneroPython.Dispatch

open Overload
open Wallet (Arg CoreCall OverrideStmt WalletCall)

variable {ρ : Type}

/-! ## 1. From C++ to Python -/

/-- What is known of the objects that calls pass: their classes, and the criteria of queries. -/
structure Objects (ρ : Type) where
  classOf : ρ → PyClass
  txQuery : ρ → Wallet.MoneroTxQuery ρ
  transferQuery : ρ → Wallet.MoneroTransferQuery ρ
  outputQuery : ρ → Wallet.MoneroOutputQuery ρ

variable {objects : Objects ρ}

def Objects.pyObject (objects : Objects ρ) (r : ρ) : PyArg ρ := .object (objects.classOf r) r

/-- The Python object for a value: an existing object where there is one, a bound vector for a
vector, and `None` for `boost::none` and for the null pointer. -/
def Objects.toPython (objects : Objects ρ) : CppValue ρ → PyArg ρ
  | .bool b => .bool b
  | .int _ v => .int v.1
  | .str s => .str s
  | .null => .pyNone
  | .object r => objects.pyObject r
  | .vector v => .vector v

/-- The objects of an argument have their classes. -/
def Objects.Knows (objects : Objects ρ) (a : PyArg ρ) : Prop :=
  ∀ cls r, a = .object cls r → cls = objects.classOf r

/-- The values of a parameter type. -/
def Objects.HasType (objects : Objects ρ) : CppType → CppValue ρ → Prop
  | .bool, .bool _ => True
  | .int t, .int u _ => t = u
  | .str, .str _ => True
  | .optional _, .null => True
  | .optional t, v => objects.HasType t v
  | .reference cls, .object r => (objects.classOf r).isA cls = true
  | .sharedPtr _, .null => True
  | .sharedPtr cls, .object r => (objects.classOf r).isA cls = true
  | .vector t, .vector v => v.elementType = t
  | _, _ => False

theorem cast_value {t : IntType} (v : t.Value) : t.cast v.1 = some v := dif_pos v.2

/-- **There and back.**  A value that is given to Python is received again. -/
theorem convert_toPython {t : CppType} {v : CppValue ρ} (h : objects.HasType t v)
    (heap : PyHeap ρ) : t.convert (objects.toPython v) heap = (some v, heap) := by
  induction t with
  | bool =>
    cases v with
    | bool b => rfl
    | _ => exact h.elim
  | int t =>
    cases v with
    | int u v =>
      obtain rfl : t = u := h
      simp only [Objects.toPython, CppType.convert, CppType.exact, PyArg.asInt, cast_value,
        Option.map_some]
    | _ => exact h.elim
  | str =>
    cases v with
    | str s => rfl
    | _ => exact h.elim
  | optional t ih =>
    cases v with
    | null => rfl
    | _ => exact ih h
  | reference cls =>
    cases v with
    | object r =>
      have hcls : (objects.classOf r).isA cls = true := h
      simp only [Objects.toPython, Objects.pyObject, CppType.convert, CppType.exact, if_pos hcls]
    | _ => exact h.elim
  | sharedPtr cls =>
    cases v with
    | null => rfl
    | object r =>
      have hcls : (objects.classOf r).isA cls = true := h
      simp only [Objects.toPython, Objects.pyObject, CppType.convert, CppType.exact, if_pos hcls]
    | _ => exact h.elim
  | vector t =>
    cases v with
    | vector v =>
      have ht : v.elementType = t := h
      simp only [Objects.toPython, CppType.convert, CppType.exact, if_pos ht]
    | _ => exact h.elim

theorem hasType_optional {t : CppType} {v : CppValue ρ} (h : objects.HasType t v) :
    objects.HasType (.optional t) v := by
  cases v with
  | null => trivial
  | _ => exact h

theorem hasType_of_exact {t : CppType} {a : PyArg ρ} (ha : objects.Knows a) {v : CppValue ρ}
    (h : t.exact a = some v) : objects.HasType t v := by
  induction t with
  | bool =>
    cases a with
    | bool b =>
      cases h
      trivial
    | _ => cases h
  | int t =>
    rw [CppType.exact] at h
    obtain ⟨w, -, rfl⟩ := Option.map_eq_some_iff.mp h
    rfl
  | str =>
    rw [CppType.exact] at h
    obtain ⟨w, -, rfl⟩ := Option.map_eq_some_iff.mp h
    trivial
  | optional t ih =>
    cases a with
    | pyNone =>
      cases h
      trivial
    | _ => exact hasType_optional (ih h)
  | reference cls =>
    cases a with
    | object c r =>
      obtain ⟨hcls, hv⟩ := Option.ite_none_right_eq_some.mp h
      cases hv
      rw [ha c r rfl] at hcls
      exact hcls
    | _ => cases h
  | sharedPtr cls =>
    cases a with
    | object c r =>
      obtain ⟨hcls, hv⟩ := Option.ite_none_right_eq_some.mp h
      cases hv
      rw [ha c r rfl] at hcls
      exact hcls
    | _ => cases h
  | vector t =>
    cases a with
    | vector w =>
      obtain ⟨ht, hv⟩ := Option.ite_none_right_eq_some.mp h
      cases hv
      exact ht
    | _ => cases h

theorem elementType_build {es : List (PyArg ρ)} {t : ElementType} {v : BoundVector ρ}
    (h : (BoundVector.build es t).1 = some v) : v.elementType = t := by
  cases t with
  | _ =>
    obtain ⟨l, -, rfl⟩ := Option.map_eq_some_iff.mp h
    rfl

/-- What is cast to a parameter type is a value of that type. -/
theorem hasType_of_convert {t : CppType} {a : PyArg ρ} (ha : objects.Knows a) {v : CppValue ρ}
    {heap : PyHeap ρ} (h : (t.convert a heap).1 = some v) : objects.HasType t v := by
  induction t with
  | bool =>
    obtain ⟨b, -, rfl⟩ := Option.map_eq_some_iff.mp h
    trivial
  | optional t ih =>
    cases a with
    | pyNone =>
      cases h
      trivial
    | _ => exact hasType_optional (ih h)
  | sharedPtr cls =>
    cases a with
    | pyNone =>
      cases h
      trivial
    | _ => exact hasType_of_exact ha h
  | vector t =>
    rw [CppType.convert] at h
    cases hexact : CppType.exact (.vector t) a with
    | some w =>
      rw [hexact] at h
      cases h
      exact hasType_of_exact ha hexact
    | none =>
      rw [hexact] at h
      obtain ⟨w, hw, rfl⟩ := Option.map_eq_some_iff.mp h
      cases hyields : a.yields heap with
      | none =>
        rw [fromIterable, hyields] at hw
        cases hw
      | some es =>
        rw [fromIterable, hyields] at hw
        exact elementType_build hw
  | _ => exact hasType_of_exact ha h

/-! ## 2. Values of a type -/

theorem exists_bool {v : CppValue ρ} (h : objects.HasType .bool v) : ∃ b, v = .bool b := by
  cases v with
  | bool b => exact ⟨b, rfl⟩
  | _ => exact h.elim

theorem exists_int {t : IntType} {v : CppValue ρ} (h : objects.HasType (.int t) v) :
    ∃ w, v = .int t w := by
  cases v with
  | int u w =>
    obtain rfl : t = u := h
    exact ⟨w, rfl⟩
  | _ => exact h.elim

theorem exists_str {v : CppValue ρ} (h : objects.HasType .str v) : ∃ s, v = .str s := by
  cases v with
  | str s => exact ⟨s, rfl⟩
  | _ => exact h.elim

theorem exists_object {cls : PyClass} {v : CppValue ρ} (h : objects.HasType (.reference cls) v) :
    ∃ r, (objects.classOf r).isA cls = true ∧ v = .object r := by
  cases v with
  | object r => exact ⟨r, h, rfl⟩
  | _ => exact h.elim

theorem null_or_exists_object {cls : PyClass} {v : CppValue ρ}
    (h : objects.HasType (.sharedPtr cls) v) :
    v = .null ∨ ∃ r, (objects.classOf r).isA cls = true ∧ v = .object r := by
  cases v with
  | null => exact Or.inl rfl
  | object r => exact Or.inr ⟨r, h, rfl⟩
  | _ => exact h.elim

theorem null_or_exists_bool {v : CppValue ρ} (h : objects.HasType (.optional .bool) v) :
    v = .null ∨ ∃ b, v = .bool b := by
  cases v with
  | null => exact Or.inl rfl
  | bool b => exact Or.inr ⟨b, rfl⟩
  | _ => exact h.elim

theorem exists_vector {t : ElementType} {v : CppValue ρ} (h : objects.HasType (.vector t) v) :
    ∃ w, w.elementType = t ∧ v = .vector w := by
  cases v with
  | vector w => exact ⟨w, h, rfl⟩
  | _ => exact h.elim

theorem exists_strings {v : CppValue ρ} (h : objects.HasType (.vector .str) v) :
    ∃ l, v = .vector (.strings l) := by
  obtain ⟨w, hw, rfl⟩ := exists_vector h
  cases w with
  | strings l => exact ⟨l, rfl⟩
  | _ => cases hw

theorem exists_ints {t : IntType} {v : CppValue ρ} (h : objects.HasType (.vector (.int t)) v) :
    ∃ l, v = .vector (.ints t l) := by
  obtain ⟨w, hw, rfl⟩ := exists_vector h
  cases w with
  | ints u l =>
    cases hw
    exact ⟨l, rfl⟩
  | _ => cases hw

theorem exists_txWallets {v : CppValue ρ} (h : objects.HasType (.vector .txWallet) v) :
    ∃ l, v = .vector (.txWallets l) := by
  obtain ⟨w, hw, rfl⟩ := exists_vector h
  cases w with
  | txWallets l => exact ⟨l, rfl⟩
  | _ => cases hw

/-- The values that a binding receives are of its parameter types. -/
def Binding.Receives (objects : Objects ρ) (b : Binding) (vs : List (CppValue ρ)) : Prop :=
  List.Forall₂ (fun p v => objects.HasType p.type v) (b.params : List (BoundParam ρ)) vs

section Receives

variable {b : Binding} {vs : List (CppValue ρ)}

theorem Binding.Receives.eq_nil (h : b.Receives objects vs)
    (hparams : (b.params : List (BoundParam ρ)) = []) : vs = [] := by
  rw [Receives, hparams] at h
  cases h
  rfl

theorem Binding.Receives.singleton (h : b.Receives objects vs) {p : BoundParam ρ}
    (hparams : b.params = [p]) : ∃ v, objects.HasType p.type v ∧ vs = [v] := by
  rw [Receives, hparams] at h
  obtain ⟨v, vs, hv, hvs, rfl⟩ := List.forall₂_cons_left_iff.mp h
  cases hvs
  exact ⟨v, hv, rfl⟩

theorem Binding.Receives.pair (h : b.Receives objects vs) {p q : BoundParam ρ}
    (hparams : b.params = [p, q]) :
    ∃ v w, objects.HasType p.type v ∧ objects.HasType q.type w ∧ vs = [v, w] := by
  rw [Receives, hparams] at h
  obtain ⟨v, vs, hv, hvs, rfl⟩ := List.forall₂_cons_left_iff.mp h
  obtain ⟨w, rest, hw, hrest, rfl⟩ := List.forall₂_cons_left_iff.mp hvs
  cases hrest
  exact ⟨v, w, hv, hw, rfl⟩

end Receives

/-! ## 3. The same binding -/

/-- The objects that a call passes have their classes. -/
def Objects.KnowsAll (objects : Objects ρ) (call : PyCall ρ) : Prop :=
  ∀ a, a ∈ call.positional ∨ a ∈ call.keywords.map Prod.snd → objects.Knows a

/-- No default is an object of a bound class. -/
theorem knows_default {b : Binding} {p : BoundParam ρ} (hp : p ∈ b.params) {a : PyArg ρ}
    (h : p.default = some a) : objects.Knows a := by
  have hdefaults : (b.params : List (BoundParam ρ)).all
      (fun p => p.default.all fun a => a.kind != .object) = true := by
    cases b <;> rfl
  rintro cls r rfl
  have hkind := List.all_eq_true.mp hdefaults p hp
  rw [h] at hkind
  cases hkind

theorem receives_of_call {f : Overloaded} {call : PyCall ρ} (hcall : objects.KnowsAll call)
    {heap : PyHeap ρ} {b : Binding} {vs : List (CppValue ρ)}
    (h : (f.call call heap).1 = some (b, vs)) : b ∈ f.overloads ∧ b.Receives objects vs := by
  obtain ⟨c, hc, heap', hconvert⟩ := exists_convert_of_resolve h
  obtain ⟨b', hb', rfl⟩ := List.mem_map.mp hc
  obtain rfl : b = b' := Candidate.id_eq_of_convert hconvert
  refine ⟨hb', Candidate.forall₂_of_convert ?_ hconvert⟩
  rintro t a (hpos | hkey | ⟨p, hp, hdefault⟩) heap v hv
  · exact hasType_of_convert (hcall a (Or.inl hpos)) hv
  · exact hasType_of_convert (hcall a (Or.inr hkey)) hv
  · exact hasType_of_convert (knows_default hp hdefault) hv

theorem alone_toPython {b : Binding} {vs : List (CppValue ρ)} (h : b.Receives objects vs)
    (heap : PyHeap ρ) :
    b.alone ⟨vs.map objects.toPython, []⟩ heap = (some (b, vs), heap) :=
  Candidate.convert_map (C := casters) (c := b.candidate)
    (h.imp fun _ _ hv heap => convert_toPython hv heap) heap

theorem call_of_alone {f : Overloaded} (hrelay : f ≠ .relayTxs) (hflush : f ≠ .flushTxPool)
    {b : Binding} (hb : b ∈ f.overloads) {call : PyCall ρ} {heap heap' : PyHeap ρ}
    {r : Binding × List (CppValue ρ)} (h : b.alone call heap = (some r, heap')) :
    f.call call heap = (some r, heap') := by
  have hsome : (b.alone call heap).1.isSome := by
    rw [h]
    rfl
  rw [call_eq_alone hrelay hflush hb (not_passes_of_isSome hsome), h]

/-- Values of the parameter types of a binding are received by this binding. -/
theorem call_toPython {f : Overloaded} {b : Binding} (hb : b ∈ f.overloads)
    {vs : List (CppValue ρ)} (h : b.Receives objects vs) (heap : PyHeap ρ) :
    f.call ⟨vs.map objects.toPython, []⟩ heap = (some (b, vs), heap) := by
  rcases eq_or_ne f .relayTxs with rfl | hrelay
  · rcases List.mem_pair.mp hb with rfl | rfl
    · obtain ⟨v, hv, rfl⟩ := h.singleton rfl
      obtain ⟨l, rfl⟩ := exists_txWallets hv
      rfl
    · obtain ⟨v, hv, rfl⟩ := h.singleton rfl
      obtain ⟨l, rfl⟩ := exists_strings hv
      rfl
  rcases eq_or_ne f .flushTxPool with rfl | hflush
  · simp only [Overloaded.overloads, List.mem_cons, List.not_mem_nil, or_false] at hb
    rcases hb with rfl | rfl | rfl
    · obtain rfl := h.eq_nil rfl
      rfl
    · obtain ⟨v, hv, rfl⟩ := h.singleton rfl
      obtain ⟨l, rfl⟩ := exists_strings hv
      rfl
    · obtain ⟨v, hv, rfl⟩ := h.singleton rfl
      obtain ⟨s, rfl⟩ := exists_str hv
      rfl
  exact call_of_alone hrelay hflush hb (alone_toPython h heap)

/-- **Passing values on.**  What a call is resolved to, binding and values, is what passing these
values on is resolved to. -/
theorem call_again {f : Overloaded} {call : PyCall ρ} (hcall : objects.KnowsAll call)
    {heap : PyHeap ρ} {b : Binding} {vs : List (CppValue ρ)}
    (h : (f.call call heap).1 = some (b, vs)) (heap' : PyHeap ρ) :
    f.call ⟨vs.map objects.toPython, []⟩ heap' = (some (b, vs), heap') := by
  obtain ⟨hb, hvs⟩ := receives_of_call hcall h
  exact call_toPython hb hvs heap'

/-- A program with transfer queries for the first account. -/
def firstAccount : Objects Unit where
  classOf _ := .transferQuery
  txQuery _ := {}
  transferQuery _ := { accountIndex := some 0 }
  outputQuery _ := {}

theorem knowsAll_of_scalars {call : PyCall ρ}
    (h : ∀ a, a ∈ call.positional ∨ a ∈ call.keywords.map Prod.snd → a.kind ≠ .object) :
    objects.KnowsAll call := by
  rintro a ha cls r rfl
  exact absurd rfl (h _ ha)

def firstIndices : List (CppValue Unit) :=
  [.int .uint32 ⟨0, by decide⟩, .vector (.ints .uint32 [⟨1, by decide⟩])]

/-- `get_subaddresses(0, [1])`, and then with the vector of the indices. -/
theorem call_again_indices :
    Overloaded.getSubaddresses.call ⟨firstIndices.map firstAccount.toPython, []⟩ default =
      (some (.getSubaddressesIndices, firstIndices), default) := by
  have hcall : (Overloaded.getSubaddresses.call ⟨[.int 0, .iterable none [.int 1]], []⟩ default).1 =
      some (.getSubaddressesIndices, firstIndices) := rfl
  exact call_again (knowsAll_of_scalars (by simp [PyArg.kind])) hcall default

/-! ## 4. The calls of a wallet -/

def IntType.Value.toUInt32 (v : IntType.uint32.Value) : UInt32 := .ofNat v.1.toNat

def IntType.Value.toUInt64 (v : IntType.uint64.Value) : UInt64 := .ofNat v.1.toNat

def ofUInt32 (n : UInt32) : IntType.uint32.Value :=
  ⟨n.toNat, Int.natCast_nonneg _, by exact_mod_cast n.toNat_lt⟩

def ofUInt64 (n : UInt64) : IntType.uint64.Value :=
  ⟨n.toNat, Int.natCast_nonneg _, by exact_mod_cast n.toNat_lt⟩

@[simp] theorem toUInt32_ofUInt32 (n : UInt32) : (ofUInt32 n).toUInt32 = n := by
  simp [IntType.Value.toUInt32, ofUInt32]

@[simp] theorem toUInt64_ofUInt64 (n : UInt64) : (ofUInt64 n).toUInt64 = n := by
  simp [IntType.Value.toUInt64, ofUInt64]

@[simp] theorem toUInt32_comp_ofUInt32 : IntType.Value.toUInt32 ∘ ofUInt32 = id :=
  funext toUInt32_ofUInt32

@[simp] theorem toUInt64_comp_ofUInt64 : IntType.Value.toUInt64 ∘ ofUInt64 = id :=
  funext toUInt64_ofUInt64

/-- A `std::shared_ptr`. -/
def CppValue.pointer : CppValue ρ → Option (Option ρ)
  | .null => some none
  | .object r => some (some r)
  | _ => none

/-- A `boost::optional<bool>`. -/
def CppValue.optBool : CppValue ρ → Option (Option Bool)
  | .null => some none
  | .bool b => some (some b)
  | _ => none

/-- The call of a wallet that a binding makes of the values it receives.  A vector of transactions
with a null pointer among them is not followed further. -/
def Binding.walletCall (objects : Objects ρ) : Binding → List (CppValue ρ) → Option (WalletCall ρ)
  | .setDaemonConnection, [connection, isTrusted] =>
    connection.pointer.bind fun connection =>
      isTrusted.optBool.map fun isTrusted => .setDaemonConnection connection isTrusted
  | .setDaemonConnectionUri, [.str uri, .str username, .str password, .str proxy, isTrusted] =>
    isTrusted.optBool.map fun isTrusted =>
      .setDaemonConnectionUri uri username password proxy isTrusted
  | .sync, [] => some .sync
  | .syncListener, [.object listener] => some (.syncListener listener)
  | .syncFrom, [.int .uint64 startHeight] => some (.syncFrom startHeight.toUInt64)
  | .syncFromListener, [.int .uint64 startHeight, .object listener] =>
    some (.syncFromListener startHeight.toUInt64 listener)
  | .getBalance, [] => some .getBalance
  | .getBalanceAccount, [.int .uint32 accountIdx] => some (.getBalanceAccount accountIdx.toUInt32)
  | .getBalanceSubaddress, [.int .uint32 accountIdx, .int .uint32 subaddressIdx] =>
    some (.getBalanceSubaddress accountIdx.toUInt32 subaddressIdx.toUInt32)
  | .getUnlockedBalance, [] => some .getUnlockedBalance
  | .getUnlockedBalanceAccount, [.int .uint32 accountIdx] =>
    some (.getUnlockedBalanceAccount accountIdx.toUInt32)
  | .getUnlockedBalanceSubaddress, [.int .uint32 accountIdx, .int .uint32 subaddressIdx] =>
    some (.getUnlockedBalanceSubaddress accountIdx.toUInt32 subaddressIdx.toUInt32)
  | .getAccounts, [] => some .getAccounts
  | .getAccountsIncluding, [.bool includeSubaddresses] =>
    some (.getAccountsIncluding includeSubaddresses)
  | .getAccountsTag, [.str tag] => some (.getAccountsTag tag)
  | .getAccountsIncludingTag, [.bool includeSubaddresses, .str tag] =>
    some (.getAccountsIncludingTag includeSubaddresses tag)
  | .getAccount, [.int .uint32 accountIdx] => some (.getAccount accountIdx.toUInt32)
  | .getAccountIncluding, [.int .uint32 accountIdx, .bool includeSubaddresses] =>
    some (.getAccountIncluding accountIdx.toUInt32 includeSubaddresses)
  | .getSubaddresses, [.int .uint32 accountIdx] => some (.getSubaddresses accountIdx.toUInt32)
  | .getSubaddressesIndices, [.int .uint32 accountIdx, .vector (.ints .uint32 l)] =>
    some (.getSubaddressesIndices accountIdx.toUInt32 (l.map IntType.Value.toUInt32))
  | .getTxs, [] => some .getTxs
  | .getTxsQuery, [.object query] => some (.getTxsQuery (objects.txQuery query))
  | .getTxsHashes, [.vector (.strings txHashes)] => some (.getTxsHashes txHashes)
  | .getTransfersQuery, [.object query] =>
    some (.getTransfersQuery (objects.transferQuery query))
  | .getTransfers, [] => some .getTransfers
  | .getTransfersAccount, [.int .uint32 accountIndex] =>
    some (.getTransfersAccount accountIndex.toUInt32)
  | .getTransfersSubaddress, [.int .uint32 accountIndex, .int .uint32 subaddressIndex] =>
    some (.getTransfersSubaddress accountIndex.toUInt32 subaddressIndex.toUInt32)
  | .getOutputsQuery, [.object query] => some (.getOutputsQuery (objects.outputQuery query))
  | .getOutputs, [] => some .getOutputs
  | .relayTxMetadata, [.str txMetadata] => some (.relayTxMetadata txMetadata)
  | .relayTx, [.object tx] => some (.relayTx tx)
  | .relayTxs, [.vector (.txWallets l)] => (l.mapM id).map fun txs => .relayTxs txs
  | .relayTxsMetadatas, [.vector (.strings txMetadatas)] => some (.relayTxsMetadatas txMetadatas)
  | .getAddressBookEntriesIndices, [.vector (.ints .uint64 l)] =>
    some (.getAddressBookEntriesIndices (l.map IntType.Value.toUInt64))
  | .getAddressBookEntries, [] => some .getAddressBookEntries
  | _, _ => none

/-- A value as the argument of a virtual method.  Queries count by their criteria, because the
lambdas also pass queries of their own. -/
inductive Objects.Holds (objects : Objects ρ) : CppValue ρ → Arg ρ → Prop where
  | u32 (n : UInt32) : Holds objects (.int .uint32 (ofUInt32 n)) (.u32 n)
  | u64 (n : UInt64) : Holds objects (.int .uint64 (ofUInt64 n)) (.u64 n)
  | bool (b : Bool) : Holds objects (.bool b) (.bool b)
  | str (s : String) : Holds objects (.str s) (.str s)
  | u32s (l : List UInt32) : Holds objects (.vector (.ints .uint32 (l.map ofUInt32))) (.u32s l)
  | u64s (l : List UInt64) : Holds objects (.vector (.ints .uint64 (l.map ofUInt64))) (.u64s l)
  | strs (l : List String) : Holds objects (.vector (.strings l)) (.strs l)
  | ref (r : ρ) : Holds objects (.object r) (.ref r)
  | null : Holds objects .null (.optRef none)
  | optRef (r : ρ) : Holds objects (.object r) (.optRef (some r))
  | refs (l : List ρ) : Holds objects (.vector (.txWallets (l.map some))) (.refs l)
  | txQuery {r : ρ} (hr : objects.classOf r = .txQuery) :
    Holds objects (.object r) (.txQuery (objects.txQuery r))
  | transferQuery {r : ρ} (hr : objects.classOf r = .transferQuery) :
    Holds objects (.object r) (.transferQuery (objects.transferQuery r))
  | outputQuery {r : ρ} (hr : objects.classOf r = .outputQuery) :
    Holds objects (.object r) (.outputQuery (objects.outputQuery r))

/-- The arguments that an override gets from the statement of its trampoline. -/
def Objects.Gets (objects : Objects ρ) (args : List (Arg ρ)) (as : List (PyArg ρ)) : Prop :=
  ∃ vs, List.Forall₂ objects.Holds vs args ∧ as = vs.map objects.toPython

/-- The objects of a core call have the classes that C++ declares. -/
def Objects.Fits (objects : Objects ρ) : CoreCall ρ → Prop
  | .setDaemonConnection (some connection) _ =>
    (objects.classOf connection).isA .rpcConnection = true
  | .syncListener listener => (objects.classOf listener).isA .walletListener = true
  | .syncFromListener _ listener => (objects.classOf listener).isA .walletListener = true
  | .relayTx tx => (objects.classOf tx).isA .txWallet = true
  | _ => True

/-- The binding that takes what the trampoline of an operation passes. -/
def superBinding : CoreCall ρ → Option Binding
  | .setDaemonConnection _ _ => some .setDaemonConnection
  | .setDaemonConnectionUri _ _ _ _ _ => some .setDaemonConnectionUri
  | .sync => some .sync
  | .syncListener _ => some .syncListener
  | .syncFrom _ => some .syncFrom
  | .syncFromListener _ _ => some .syncFromListener
  | .getBalance => some .getBalance
  | .getBalanceAccount _ => some .getBalanceAccount
  | .getBalanceSubaddress _ _ => some .getBalanceSubaddress
  | .getUnlockedBalance => some .getUnlockedBalance
  | .getUnlockedBalanceAccount _ => some .getUnlockedBalanceAccount
  | .getUnlockedBalanceSubaddress _ _ => some .getUnlockedBalanceSubaddress
  | .getAccounts => some .getAccounts
  | .getAccountsIncluding _ => some .getAccountsIncluding
  | .getAccountsTag _ => some .getAccountsTag
  | .getAccountsIncludingTag _ _ => some .getAccountsIncludingTag
  | .getAccount _ => some .getAccount
  | .getAccountIncluding _ _ => some .getAccountIncluding
  | .getSubaddresses _ => some .getSubaddresses
  | .getSubaddressesIndices _ _ => some .getSubaddressesIndices
  | .getTxs => some .getTxs
  | .getTxsQuery _ => some .getTxsQuery
  | .getTransfers _ => some .getTransfersQuery
  | .getOutputs _ => some .getOutputsQuery
  | .relayTx _ => some .relayTx
  | .relayTxMetadata _ => some .relayTxMetadata
  | .relayTxs _ => some .relayTxs
  | .relayTxsMetadatas _ => some .relayTxsMetadatas
  | .getAddressBookEntries _ => some .getAddressBookEntriesIndices
  | _ => none

/-- The operations with an argument `is_trusted`, which the trampolines do not pass. -/
def TakesIsTrusted : CoreCall ρ → Prop
  | .setDaemonConnection _ _ | .setDaemonConnectionUri _ _ _ _ _ => True
  | _ => False

/-- The call reaches a core operation. -/
def Overloaded.Reaches (objects : Objects ρ) (f : Overloaded) (call : PyCall ρ)
    (core : CoreCall ρ) : Prop :=
  ∀ heap, ∃ b vs c, f.call call heap = (some (b, vs), heap) ∧
    b.walletCall objects vs = some c ∧ c.invoke = core

theorem reaches_of_receives {f : Overloaded} {b : Binding} (hb : b ∈ f.overloads)
    {vs : List (CppValue ρ)} (hvs : b.Receives objects vs) {c : WalletCall ρ}
    (hc : b.walletCall objects vs = some c) :
    f.Reaches objects ⟨vs.map objects.toPython, []⟩ c.invoke :=
  fun heap => ⟨b, vs, c, call_toPython hb hvs heap, hc, rfl⟩

theorem mapM_id_map_some (l : List ρ) : (l.map some).mapM id = some l := by
  induction l with
  | nil => rfl
  | cons r l ih => simp [List.mapM_cons, ih]

/-- The binding receives what the trampoline passes, and calls the operation. -/
theorem receives_of_holds {core : CoreCall ρ} {b : Binding} (h : superBinding core = some b)
    (hfits : objects.Fits core) (hnot : ¬ TakesIsTrusted core)
    {stmt : OverrideStmt (Arg ρ)} (hbody : core.body = some stmt) {vs : List (CppValue ρ)}
    (hvs : List.Forall₂ objects.Holds vs stmt.args) :
    b.Receives objects vs ∧ ∃ c, b.walletCall objects vs = some c ∧ c.invoke = core := by
  cases core
  case setDaemonConnection => exact absurd trivial hnot
  case setDaemonConnectionUri => exact absurd trivial hnot
  case sync | getBalance | getUnlockedBalance | getAccounts | getTxs =>
    cases h
    cases hbody
    cases hvs
    exact ⟨.nil, _, rfl, rfl⟩
  case syncFrom | getBalanceAccount | getUnlockedBalanceAccount | getAccountsIncluding |
      getAccountsTag | getAccount | getSubaddresses | relayTxMetadata | relayTxsMetadatas |
      getAddressBookEntries =>
    cases h
    cases hbody
    rcases hvs with _ | ⟨hv, _ | _⟩
    cases hv
    exact ⟨.cons (by first | rfl | trivial) .nil, _, rfl, by simp [WalletCall.invoke]⟩
  case syncListener | relayTx =>
    cases h
    cases hbody
    rcases hvs with _ | ⟨hv, _ | _⟩
    cases hv
    exact ⟨.cons hfits .nil, _, rfl, rfl⟩
  case getTxsQuery | getTransfers | getOutputs =>
    cases h
    cases hbody
    rcases hvs with _ | ⟨hv, _ | _⟩
    cases hv
    rename_i r hr
    refine ⟨.cons ?_ .nil, _, rfl, rfl⟩
    rw [Objects.HasType, hr]
    rfl
  case relayTxs txs =>
    cases h
    cases hbody
    rcases hvs with _ | ⟨hv, _ | _⟩
    cases hv
    exact ⟨.cons rfl .nil, .relayTxs txs, congrArg (Option.map WalletCall.relayTxs)
      (mapM_id_map_some txs), rfl⟩
  case syncFromListener =>
    cases h
    cases hbody
    rcases hvs with _ | ⟨hv, _ | ⟨hw, _ | _⟩⟩
    cases hv
    cases hw
    exact ⟨.cons rfl (.cons hfits .nil), _, rfl, by simp [WalletCall.invoke]⟩
  case getBalanceSubaddress | getUnlockedBalanceSubaddress | getAccountsIncludingTag |
      getAccountIncluding | getSubaddressesIndices =>
    cases h
    cases hbody
    rcases hvs with _ | ⟨hv, _ | ⟨hw, _ | _⟩⟩
    cases hv
    cases hw
    exact ⟨.cons (by first | rfl | trivial) (.cons (by first | rfl | trivial) .nil), _, rfl,
      by simp [WalletCall.invoke]⟩
  all_goals cases h

theorem mem_overloads_setDaemonConnection {f : Overloaded} {b : Binding}
    (hb : b = .setDaemonConnection ∨ b = .setDaemonConnectionUri) (hf : b ∈ f.overloads) :
    f = .setDaemonConnection := by
  rcases hb with rfl | rfl
  all_goals
    revert hf
    cases f <;> decide

/-- Without `is_trusted`, it has its default. -/
theorem setDaemonConnection_toPython {b : Binding}
    (hb : b ∈ Overloaded.setDaemonConnection.overloads) {vs : List (CppValue ρ)}
    (h : b.hiding.Receives objects vs) (heap : PyHeap ρ) :
    Overloaded.setDaemonConnection.call ⟨vs.map objects.toPython, []⟩ heap =
      (some (b, vs ++ [.null]), heap) :=
  call_of_alone (by decide) (by decide) hb
    (Candidate.convert_map_default (C := casters) (c := b.candidate) (params_eq_hiding hb) rfl
      (fun _ => rfl) (h.imp fun _ _ hv heap => convert_toPython hv heap) heap)

/-- The value of `is_trusted`. -/
def isTrustedOf : CoreCall ρ → Option Bool
  | .setDaemonConnection _ isTrusted => isTrusted
  | .setDaemonConnectionUri _ _ _ _ isTrusted => isTrusted
  | _ => none

theorem isTrustedOf_invoke (c : WalletCall ρ) : isTrustedOf c.invoke = none := by
  cases c <;> rfl

/-- An override that passes its arguments on reaches the operation again. -/
theorem reaches_of_gets {core : CoreCall ρ} {b : Binding} (h : superBinding core = some b)
    (hfits : objects.Fits core) (hdefault : isTrustedOf core = none) {f : Overloaded}
    (hb : b ∈ f.overloads) {stmt : OverrideStmt (Arg ρ)} (hbody : core.body = some stmt)
    {as : List (PyArg ρ)} (has : objects.Gets stmt.args as) :
    f.Reaches objects ⟨as, []⟩ core := by
  obtain ⟨vs, hvs, rfl⟩ := has
  cases core
  case setDaemonConnection connection isTrusted =>
    cases h
    cases hbody
    obtain rfl : isTrusted = none := hdefault
    obtain rfl := mem_overloads_setDaemonConnection (Or.inl rfl) hb
    rcases hvs with _ | ⟨hv, _ | _⟩
    intro heap
    refine ⟨_, _, .setDaemonConnection connection none,
      setDaemonConnection_toPython hb (.cons ?_ .nil) heap, ?_, rfl⟩
    · cases hv with
      | null => trivial
      | optRef r => exact hfits
    · cases hv <;> rfl
  case setDaemonConnectionUri uri username password proxy isTrusted =>
    cases h
    cases hbody
    obtain rfl : isTrusted = none := hdefault
    obtain rfl := mem_overloads_setDaemonConnection (Or.inr rfl) hb
    rcases hvs with _ | ⟨hv₁, _ | ⟨hv₂, _ | ⟨hv₃, _ | ⟨hv₄, _ | _⟩⟩⟩⟩
    cases hv₁
    cases hv₂
    cases hv₃
    cases hv₄
    have hvs : Binding.rpcSetDaemonConnectionUri.Receives objects
        [.str uri, .str username, .str password, .str proxy] :=
      .cons trivial (.cons trivial (.cons trivial (.cons trivial .nil)))
    intro heap
    exact ⟨_, _, _, setDaemonConnection_toPython hb hvs heap, rfl, rfl⟩
  all_goals
    obtain ⟨hreceives, c, hc, hinvoke⟩ := receives_of_holds h hfits id hbody hvs
    rw [← hinvoke]
    exact reaches_of_receives hb hreceives hc

theorem mem_sibling {b b' : Binding} {f : Overloaded} (hb : b ∈ f.overloads)
    (h : (b, b') ∈ [(Binding.getTxsHashes, Binding.getTxsQuery),
      (.getTransfers, .getTransfersQuery), (.getTransfersAccount, .getTransfersQuery),
      (.getTransfersSubaddress, .getTransfersQuery), (.getOutputs, .getOutputsQuery),
      (.getAddressBookEntries, .getAddressBookEntriesIndices)]) : b' ∈ f.overloads := by
  simp only [List.mem_cons, List.not_mem_nil, or_false, Prod.mk.injEq] at h
  rcases h with ⟨rfl, rfl⟩ | ⟨rfl, rfl⟩ | ⟨rfl, rfl⟩ | ⟨rfl, rfl⟩ | ⟨rfl, rfl⟩ | ⟨rfl, rfl⟩
  all_goals
    revert hb
    cases f <;> decide

/-- The operation that a call makes has a binding of the same name for what its trampoline
passes. -/
theorem exists_superBinding {b : Binding} {f : Overloaded} (hb : b ∈ f.overloads)
    {vs : List (CppValue ρ)} {c : WalletCall ρ} (hc : b.walletCall objects vs = some c) :
    ∃ b', superBinding c.invoke = some b' ∧ b' ∈ f.overloads := by
  unfold Binding.walletCall at hc
  split at hc
  all_goals first
    | cases hc; exact ⟨_, rfl, hb⟩
    | cases hc; exact ⟨_, rfl, mem_sibling hb (by decide)⟩
    | obtain ⟨connection, -, hc⟩ := Option.bind_eq_some_iff.mp hc
      obtain ⟨isTrusted, -, rfl⟩ := Option.map_eq_some_iff.mp hc
      exact ⟨_, rfl, hb⟩
    | obtain ⟨v, -, rfl⟩ := Option.map_eq_some_iff.mp hc
      exact ⟨_, rfl, hb⟩
    | cases hc

theorem fits_invoke {b : Binding} {vs : List (CppValue ρ)} (hvs : b.Receives objects vs)
    {c : WalletCall ρ} (hc : b.walletCall objects vs = some c) : objects.Fits c.invoke := by
  rcases eq_or_ne b .setDaemonConnection with rfl | hne
  · obtain ⟨v, w, hv, -, rfl⟩ := hvs.pair rfl
    obtain ⟨connection, hconnection, hc⟩ := Option.bind_eq_some_iff.mp hc
    obtain ⟨isTrusted, -, rfl⟩ := Option.map_eq_some_iff.mp hc
    rcases null_or_exists_object hv with rfl | ⟨r, hr, rfl⟩
    · cases hconnection
      trivial
    · cases hconnection
      exact hr
  · unfold Binding.walletCall at hc
    split at hc
    all_goals first
      | exact absurd rfl hne
      | cases hc; done
      | cases hc; trivial
      | obtain ⟨v, -, rfl⟩ := Option.map_eq_some_iff.mp hc
        trivial
      | obtain ⟨v, hv, heq⟩ := hvs.singleton rfl
        cases heq
        cases hc
        exact hv
      | obtain ⟨v, w, -, hw, heq⟩ := hvs.pair rfl
        cases heq
        cases hc
        exact hw

/-- The overloaded methods of `MoneroWallet`. -/
def walletMethods : List Overloaded :=
  [.setDaemonConnection, .sync, .getBalance, .getUnlockedBalance, .getAccounts, .getAccount,
    .getSubaddresses, .getTxs, .getTransfers, .getOutputs, .relayTx, .relayTxs,
    .getAddressBookEntries]

/-- There is no null pointer among transactions. -/
def NoNullTxs (vs : List (CppValue ρ)) : Prop :=
  ∀ l, CppValue.vector (.txWallets l) ∈ vs → ∃ txs : List ρ, l = txs.map some

/-- What is received is a call of a wallet. -/
theorem exists_walletCall {b : Binding} (hb : b ∈ walletMethods.flatMap Overloaded.overloads)
    {vs : List (CppValue ρ)} (hvs : b.Receives objects vs) (hnull : NoNullTxs vs) :
    ∃ c, b.walletCall objects vs = some c := by
  cases b
  case setDaemonConnection =>
    obtain ⟨v, w, hv, hw, rfl⟩ := hvs.pair rfl
    rcases null_or_exists_object hv with rfl | ⟨r, -, rfl⟩
    all_goals
      rcases null_or_exists_bool hw with rfl | ⟨b, rfl⟩
      all_goals exact ⟨_, rfl⟩
  case setDaemonConnectionUri =>
    rcases hvs with _ | ⟨hv₁, _ | ⟨hv₂, _ | ⟨hv₃, _ | ⟨hv₄, _ | ⟨hw, _ | _⟩⟩⟩⟩⟩
    obtain ⟨uri, rfl⟩ := exists_str hv₁
    obtain ⟨username, rfl⟩ := exists_str hv₂
    obtain ⟨password, rfl⟩ := exists_str hv₃
    obtain ⟨proxy, rfl⟩ := exists_str hv₄
    rcases null_or_exists_bool hw with rfl | ⟨b, rfl⟩
    all_goals exact ⟨_, rfl⟩
  case sync | getBalance | getUnlockedBalance | getAccounts | getTxs | getTransfers | getOutputs |
      getAddressBookEntries =>
    obtain rfl := hvs.eq_nil rfl
    exact ⟨_, rfl⟩
  case syncFrom | getBalanceAccount | getUnlockedBalanceAccount | getAccount | getSubaddresses |
      getTransfersAccount =>
    obtain ⟨v, hv, rfl⟩ := hvs.singleton rfl
    obtain ⟨n, rfl⟩ := exists_int hv
    exact ⟨_, rfl⟩
  case getBalanceSubaddress | getUnlockedBalanceSubaddress | getTransfersSubaddress =>
    obtain ⟨v, w, hv, hw, rfl⟩ := hvs.pair rfl
    obtain ⟨m, rfl⟩ := exists_int hv
    obtain ⟨n, rfl⟩ := exists_int hw
    exact ⟨_, rfl⟩
  case syncListener | getTxsQuery | getTransfersQuery | getOutputsQuery | relayTx =>
    obtain ⟨v, hv, rfl⟩ := hvs.singleton rfl
    obtain ⟨r, -, rfl⟩ := exists_object hv
    exact ⟨_, rfl⟩
  case syncFromListener =>
    obtain ⟨v, w, hv, hw, rfl⟩ := hvs.pair rfl
    obtain ⟨n, rfl⟩ := exists_int hv
    obtain ⟨r, -, rfl⟩ := exists_object hw
    exact ⟨_, rfl⟩
  case getAccountsIncluding =>
    obtain ⟨v, hv, rfl⟩ := hvs.singleton rfl
    obtain ⟨b, rfl⟩ := exists_bool hv
    exact ⟨_, rfl⟩
  case getAccountsTag | relayTxMetadata =>
    obtain ⟨v, hv, rfl⟩ := hvs.singleton rfl
    obtain ⟨s, rfl⟩ := exists_str hv
    exact ⟨_, rfl⟩
  case getAccountsIncludingTag =>
    obtain ⟨v, w, hv, hw, rfl⟩ := hvs.pair rfl
    obtain ⟨b, rfl⟩ := exists_bool hv
    obtain ⟨s, rfl⟩ := exists_str hw
    exact ⟨_, rfl⟩
  case getAccountIncluding =>
    obtain ⟨v, w, hv, hw, rfl⟩ := hvs.pair rfl
    obtain ⟨n, rfl⟩ := exists_int hv
    obtain ⟨b, rfl⟩ := exists_bool hw
    exact ⟨_, rfl⟩
  case getSubaddressesIndices =>
    obtain ⟨v, w, hv, hw, rfl⟩ := hvs.pair rfl
    obtain ⟨n, rfl⟩ := exists_int hv
    obtain ⟨l, rfl⟩ := exists_ints hw
    exact ⟨_, rfl⟩
  case getTxsHashes | relayTxsMetadatas =>
    obtain ⟨v, hv, rfl⟩ := hvs.singleton rfl
    obtain ⟨l, rfl⟩ := exists_strings hv
    exact ⟨_, rfl⟩
  case getAddressBookEntriesIndices =>
    obtain ⟨v, hv, rfl⟩ := hvs.singleton rfl
    obtain ⟨l, rfl⟩ := exists_ints hv
    exact ⟨_, rfl⟩
  case relayTxs =>
    obtain ⟨v, hv, rfl⟩ := hvs.singleton rfl
    obtain ⟨l, rfl⟩ := exists_txWallets hv
    obtain ⟨txs, rfl⟩ := hnull l List.mem_cons_self
    exact ⟨.relayTxs txs, congrArg (Option.map WalletCall.relayTxs) (mapM_id_map_some txs)⟩
  all_goals exact absurd hb (by decide)

theorem exists_body {core : CoreCall ρ} {b : Binding} (h : superBinding core = some b) :
    ∃ stmt, core.body = some stmt := by
  cases core <;> cases h <;> exact ⟨_, rfl⟩

/-- **The same operation.**  Whatever a caller passes to an overloaded method, an override that
passes the arguments it gets on to `super()` makes the core call that the caller made, with the same
parameters. -/
theorem reaches_invoke {f : Overloaded} (hf : f ∈ walletMethods) {call : PyCall ρ}
    (hcall : objects.KnowsAll call) {heap : PyHeap ρ} {b : Binding} {vs : List (CppValue ρ)}
    (h : (f.call call heap).1 = some (b, vs)) (hnull : NoNullTxs vs) :
    ∃ c stmt, b.walletCall objects vs = some c ∧ c.invoke.body = some stmt ∧
      ∀ as, objects.Gets stmt.args as → f.Reaches objects ⟨as, []⟩ c.invoke := by
  obtain ⟨hb, hvs⟩ := receives_of_call hcall h
  obtain ⟨c, hc⟩ := exists_walletCall (List.mem_flatMap.mpr ⟨f, hf, hb⟩) hvs hnull
  obtain ⟨b', hsuper, hb'⟩ := exists_superBinding hb hc
  obtain ⟨stmt, hbody⟩ := exists_body hsuper
  refine ⟨c, stmt, hc, hbody, fun as has => ?_⟩
  exact reaches_of_gets hsuper (fits_invoke hvs hc) (isTrustedOf_invoke c) hb' hbody has

/-- `get_transfers(0)`, whose override gets a query. -/
theorem reaches_invoke_firstAccount :
    ∃ c stmt, Binding.getTransfersAccount.walletCall firstAccount [.int .uint32 ⟨0, by decide⟩] =
        some c ∧ c.invoke.body = some stmt ∧
      ∀ as, firstAccount.Gets stmt.args as →
        Overloaded.getTransfers.Reaches firstAccount ⟨as, []⟩ c.invoke := by
  have hcall : (Overloaded.getTransfers.call ⟨[.int 0], []⟩ (default : PyHeap Unit)).1 =
      some (.getTransfersAccount, [.int .uint32 ⟨0, by decide⟩]) := rfl
  exact reaches_invoke (by decide) (knowsAll_of_scalars (by simp [PyArg.kind])) hcall
    (by simp [NoNullTxs])

/-- **Callers in C++.**  A call that comes from C++ is made again if and only if it leaves
`is_trusted` out. -/
theorem reaches_iff {core : CoreCall ρ} {b : Binding} (h : superBinding core = some b)
    (hfits : objects.Fits core) {f : Overloaded} (hb : b ∈ f.overloads)
    {stmt : OverrideStmt (Arg ρ)} (hbody : core.body = some stmt) :
    (∀ as, objects.Gets stmt.args as → f.Reaches objects ⟨as, []⟩ core) ↔
      isTrustedOf core = none := by
  constructor
  · intro hreaches
    by_contra hsome
    obtain ⟨as, has⟩ : ∃ as, objects.Gets stmt.args as := by
      cases core
      case setDaemonConnection connection isTrusted =>
        cases hbody
        cases connection with
        | none => exact ⟨_, _, .cons .null .nil, rfl⟩
        | some r => exact ⟨_, _, .cons (.optRef r) .nil, rfl⟩
      case setDaemonConnectionUri =>
        cases hbody
        exact ⟨_, _, .cons (.str _) (.cons (.str _) (.cons (.str _) (.cons (.str _) .nil))), rfl⟩
      all_goals exact absurd rfl hsome
    obtain ⟨-, -, c, -, -, rfl⟩ := hreaches as has default
    exact hsome (isTrustedOf_invoke c)
  · intro hdefault as has
    exact reaches_of_gets h hfits hdefault hb hbody has

/-- C++ code that trusts its connection. -/
theorem reaches_iff_trusted :
    (∀ as, firstAccount.Gets [.optRef none] as →
        Overloaded.setDaemonConnection.Reaches firstAccount ⟨as, []⟩
          (.setDaemonConnection none (some true))) ↔
      isTrustedOf (.setDaemonConnection none (some true) : CoreCall Unit) = none := by
  have hfits : firstAccount.Fits (.setDaemonConnection none (some true)) := trivial
  have hb : Binding.setDaemonConnection ∈ Overloaded.setDaemonConnection.overloads := by decide
  exact reaches_iff rfl hfits hb rfl

end MoneroPython.Dispatch
