/-
# Exceptions that overrides raise

A Python subclass of `MoneroWallet` overrides core operations, and a bound operation that reaches
one of them calls from C++ back into Python.  An exception that the override raises travels
through C++ as `py::error_already_set`.  That class derives from `std::exception`, so the handlers
of the bound lambda treat it like an exception of the core.

What the caller receives is `WalletCall.passesOn`: `get_tx`, which has no handler, hands the
exception on, `verify_message` returns its default result, and every other operation throws a
`monero_error` with the text in its place.  `nested_raise` says the same for operations that are
nested to any depth, each called by the override that the one around it reaches.
-/
import MoneroPython.Wallet.Errors
import MoneroPython.Wallet.Trampoline

namespace MoneroPython.Wallet

open TryCatch MoneroPython.Errors

variable {ρ σ π : Type}

/-! ## 1. Calls from Python that lead back to Python -/

/-- A base class: its implementation of the virtual methods. -/
abbrev CoreClass (ρ σ γ : Type) := VirtualCall ρ → List (Passed ρ) → σ → Obtained ρ σ γ

/-- Python calls a bound operation on a wallet: what it observes, and the world afterwards.  A
value that is returned is not followed further: that `get_txs` sorts it and that `get_attribute`
takes it from its reference parameter makes no difference to an exception. -/
def WalletCall.callOn (py : Pybind π (Returned ρ)) (base : CoreClass ρ σ (Returned ρ))
    (self : PyInstance ρ σ π) (call : WalletCall ρ) (world : σ) :
    Except PyException (Returned ρ) × σ :=
  let obtained := (VirtualCall.wallet call.invoke).dispatch py base self world
  ((WalletBinding.wallet call).observe obtained.result, obtained.world)

/-- A bound operation that an override calls, on a wallet whose class overrides the method that
the operation reaches.  `others` are the other overrides of that class.  `before` is what the
calling override does to the world first, and `resume` what it does when the operation returns. -/
structure Level (ρ σ π : Type) where
  call : WalletCall ρ
  stmt : OverrideStmt (Passed ρ)
  body_eq : (VirtualCall.wallet call.invoke).body = some stmt
  others : PyInstance ρ σ π
  before : List (Passed ρ) → σ → σ
  resume : Returned ρ → PyMethod ρ σ π

namespace Level

/-- The wallet, with `override` as the override that the operation reaches. -/
def wallet (level : Level ρ σ π) (override : PyMethod ρ σ π) : PyInstance ρ σ π :=
  fun name => if name = level.stmt.name then some override else level.others name

def run (py : Pybind π (Returned ρ)) (base : CoreClass ρ σ (Returned ρ)) (level : Level ρ σ π)
    (override : PyMethod ρ σ π) (world : σ) : Except PyException (Returned ρ) × σ :=
  level.call.callOn py base (level.wallet override) world

/-- The override that calls the operation.  It does not catch what the operation raises. -/
def caller (py : Pybind π (Returned ρ)) (base : CoreClass ρ σ (Returned ρ)) (level : Level ρ σ π)
    (override : PyMethod ρ σ π) : PyMethod ρ σ π := fun args world =>
  match level.run py base override (level.before args world) with
  | (.error e, world) => (.error e, world)
  | (.ok result, world) => level.resume result args world

/-- Operations nested in one another, the outermost first, around the override `innermost`. -/
def nest (py : Pybind π (Returned ρ)) (base : CoreClass ρ σ (Returned ρ))
    (levels : List (Level ρ σ π)) (innermost : PyMethod ρ σ π) : PyMethod ρ σ π :=
  levels.foldr (caller py base) innermost

/-- The arguments and the world that the innermost override is called with. -/
def reach : List (Level ρ σ π) → List (Passed ρ) → σ → List (Passed ρ) × σ
  | [], args, world => (args, world)
  | level :: levels, args, world => reach levels level.stmt.args (level.before args world)

/-- The innermost override raises `e` when it is called. -/
def Raises (levels : List (Level ρ σ π)) (innermost : PyMethod ρ σ π) (args : List (Passed ρ))
    (world : σ) (e : PyException) : Prop :=
  (innermost (reach levels args world).1 (reach levels args world).2).1 = .error e

end Level

/-! ## 2. What a handler makes of the exception -/

/-- The exception that the caller of an operation receives when an override that the operation
reaches raises `e`. -/
def WalletCall.passesOn (py : Pybind π (Returned ρ)) (e : PyException) :
    WalletCall ρ → Option PyException
  | .getTx _ => some e
  | .verifyMessage _ _ _ => none
  | _ => some (translate (.moneroError (py.what e)))

/-- The exception that the outermost caller receives, if each operation hands one on. -/
def passesOutwards (py : Pybind π (Returned ρ)) (e : PyException) :
    List (WalletCall ρ) → Option PyException
  | [] => some e
  | call :: calls => (passesOutwards py e calls).bind fun e => call.passesOn py e

/-- What each kind of wrapping does with a Python exception. -/
theorem Wrapping.tryCatch_pythonError (w : Wrapping) (e : PyException) (text : String) :
    tryCatch (w.clauses (ρ := ρ)) (.error (.pythonError e text)) =
      match w with
      | .unwrapped => .error (.pythonError e text)
      | .verifyMessage => .ok (.signatureResult {})
      | .createWallet path => .error (.moneroError (createWalletMessage path text))
      | _ => .error (.moneroError text) := by
  cases w with
  | catchAndRethrow => exact tryCatch_catchAndRethrow_stdException rfl rfl
  | _ => rfl

/-- The caller of a wallet operation either receives what the operation hands on, or it gets the
default result of `verify_message`. -/
theorem observe_pythonError (py : Pybind π (Returned ρ)) (call : WalletCall ρ) (e : PyException) :
    (WalletBinding.wallet call).observe (.error (.pythonError e (py.what e))) =
      (call.passesOn py e).elim (.ok (.signatureResult {})) .error := by
  unfold WalletBinding.observe
  rw [WalletBinding.serve_error, Wrapping.tryCatch_pythonError]
  cases call <;> rfl

/-! ## 3. Nested operations -/

section Nested

variable {py : Pybind π (Returned ρ)} {base : CoreClass ρ σ (Returned ρ)} {e : PyException}

/-- One crossing: from the override through C++ to the caller of the operation. -/
theorem Level.run_of_raises (level : Level ρ σ π) {override : PyMethod ρ σ π} {world : σ}
    (hraise : (override level.stmt.args world).1 = .error e) :
    (level.run py base override world).1 =
      (level.call.passesOn py e).elim (.ok (.signatureResult {})) .error := by
  have hself : level.wallet override level.stmt.name = some override := if_pos rfl
  unfold run WalletCall.callOn VirtualCall.dispatch
  simp only [level.body_eq, hself, hraise]
  exact observe_pythonError py level.call e

/-- An override that calls an operation raises what the operation hands on. -/
theorem Level.caller_raises (level : Level ρ σ π) {override : PyMethod ρ σ π}
    {args : List (Passed ρ)} {world : σ}
    (hraise : (override level.stmt.args (level.before args world)).1 = .error e)
    {e' : PyException} (hpass : level.call.passesOn py e = some e') :
    (level.caller py base override args world).1 = .error e' := by
  have hrun : (level.run py base override (level.before args world)).1 = .error e' := by
    rw [level.run_of_raises hraise, hpass, Option.elim_some]
  unfold caller
  generalize level.run py base override (level.before args world) = outcome at hrun
  obtain ⟨_, world'⟩ := outcome
  subst hrun
  rfl

/-- A nest raises what its operations hand outwards; induction on the nest. -/
theorem Level.nest_raises {innermost : PyMethod ρ σ π} {levels : List (Level ρ σ π)} :
    ∀ {args : List (Passed ρ)} {world : σ} {e' : PyException},
      Raises levels innermost args world e →
        passesOutwards py e (levels.map (·.call)) = some e' →
          (nest py base levels innermost args world).1 = .error e' := by
  induction levels with
  | nil =>
    intro args world e' hraise hpass
    cases hpass
    exact hraise
  | cons level levels ih =>
    intro args world e' hraise hpass
    obtain ⟨e₁, hinner, hpass⟩ := Option.bind_eq_some_iff.mp hpass
    exact level.caller_raises (ih hraise hinner) hpass

end Nested

/-- An operation other than `get_tx` that hands an exception on hands on a `RuntimeError` with
its text. -/
theorem WalletCall.passesOn_eq_some (py : Pybind π (Returned ρ)) {e e' : PyException}
    {call : WalletCall ρ} (hpass : call.passesOn py e = some e') :
    (∃ txHash, call = .getTx txHash) ∧ e' = e ∨
      (∀ txHash, call ≠ .getTx txHash) ∧ e' = .builtin .runtimeError (py.what e) := by
  cases call
  case getTx txHash => exact Or.inl ⟨⟨txHash, rfl⟩, (Option.some.inj hpass).symm⟩
  case verifyMessage => cases hpass
  all_goals exact Or.inr ⟨fun _ => nofun, (Option.some.inj hpass).symm⟩

/-- The text grows with every operation that replaces the exception, so what has been replaced
once is never the exception that was raised. -/
theorem passesOutwards_cases {py : Pybind π (Returned ρ)}
    (hwhat : ∀ text, text.length < (py.what (.builtin .runtimeError text)).length)
    (e : PyException) {calls : List (WalletCall ρ)} :
    ∀ {e' : PyException}, passesOutwards py e calls = some e' →
      (∀ call ∈ calls, ∃ txHash, call = .getTx txHash) ∧ e' = e ∨
        (¬ ∀ call ∈ calls, ∃ txHash, call = .getTx txHash) ∧
          ∃ text, e' = .builtin .runtimeError text ∧
            ∀ text', e = .builtin .runtimeError text' → text'.length < text.length := by
  induction calls with
  | nil =>
    intro e' hpass
    exact Or.inl ⟨by simp, (Option.some.inj hpass).symm⟩
  | cons call calls ih =>
    intro e' hpass
    obtain ⟨e₁, hinner, hpass⟩ := Option.bind_eq_some_iff.mp hpass
    rw [List.forall_mem_cons]
    rcases call.passesOn_eq_some py hpass with ⟨htx, rfl⟩ | ⟨htx, rfl⟩
    · -- `get_tx` leaves the case as it is
      rcases ih hinner with ⟨hall, rfl⟩ | ⟨hsome, htext⟩
      · exact Or.inl ⟨⟨htx, hall⟩, rfl⟩
      · exact Or.inr ⟨fun hall => hsome hall.2, htext⟩
    · refine Or.inr ⟨fun hall => htx _ hall.1.choose_spec, _, rfl, ?_⟩
      intro text' htext'
      rcases ih hinner with ⟨-, rfl⟩ | ⟨-, text, rfl, hlonger⟩
      · rw [htext']
        exact hwhat text'
      · exact (hlonger text' htext').trans (hwhat text)

/-- **What reaches the outermost caller as it was raised.**  The text that `what()` makes of a
`RuntimeError` is longer than its message: it begins with the name of the class.  Like every text
of `what()` it is taken to have no NUL. -/
theorem passesOutwards_eq_self_iff {py : Pybind π (Returned ρ)}
    (hwhat : ∀ text, text.length < (py.what (.builtin .runtimeError text)).length)
    (e : PyException) (calls : List (WalletCall ρ)) :
    passesOutwards py e calls = some e ↔ ∀ call ∈ calls, ∃ txHash, call = .getTx txHash := by
  constructor
  · intro hpass
    rcases passesOutwards_cases hwhat e hpass with ⟨hall, -⟩ | ⟨-, text, rfl, hlonger⟩
    · exact hall
    · exact absurd (hlonger text rfl) (lt_irrefl _)
  · intro hall
    induction calls with
    | nil => rfl
    | cons call calls ih =>
      obtain ⟨⟨txHash, rfl⟩, hcalls⟩ := List.forall_mem_cons.mp hall
      rw [passesOutwards, ih hcalls]
      rfl

/-- **Exceptions of overrides.**  An override raises `e` inside operations that are nested to any
depth.  The outermost caller receives what the operations hand outwards, and this is `e` itself if
and only if every operation is `get_tx`; around an exception that reaches it `verify_message`
returns normally.  `hwhat` is about messages without NUL, whose `what()` begins with the name of the
class. -/
theorem nested_raise (py : Pybind π (Returned ρ)) (base : CoreClass ρ σ (Returned ρ))
    (hwhat : ∀ text, text.length < (py.what (.builtin .runtimeError text)).length)
    (outer : Level ρ σ π) (levels : List (Level ρ σ π)) {innermost : PyMethod ρ σ π} {world : σ}
    {e : PyException} (hraise : Level.Raises levels innermost outer.stmt.args world e) :
    (∀ e', passesOutwards py e ((outer :: levels).map (·.call)) = some e' →
        (outer.run py base (Level.nest py base levels innermost) world).1 = .error e') ∧
      (∀ e' msg address signature, passesOutwards py e (levels.map (·.call)) = some e' →
        outer.call = .verifyMessage msg address signature →
        (outer.run py base (Level.nest py base levels innermost) world).1 =
          .ok (.signatureResult {})) ∧
      (passesOutwards py e ((outer :: levels).map (·.call)) = some e ↔
        ∀ call ∈ (outer :: levels).map (·.call), ∃ txHash, call = .getTx txHash) := by
  have hrun : ∀ {e₁}, passesOutwards py e (levels.map (·.call)) = some e₁ →
      (outer.run py base (Level.nest py base levels innermost) world).1 =
        (outer.call.passesOn py e₁).elim (.ok (.signatureResult {})) .error :=
    fun hinner => outer.run_of_raises (Level.nest_raises hraise hinner)
  refine ⟨?_, ?_, passesOutwards_eq_self_iff hwhat e _⟩
  · intro e' hpass
    obtain ⟨e₁, hinner, (houter : outer.call.passesOn py e₁ = some e')⟩ :=
      Option.bind_eq_some_iff.mp hpass
    rw [hrun hinner, houter, Option.elim_some]
  · intro e₁ msg address signature hinner hcall
    rw [hrun hinner, hcall]
    rfl

/-! ### A small Python world

Every override raises one exception, in a world without state. -/

/-- `what()` is the name of the class and the message. -/
def namingPybind : Pybind Unit (Returned ℕ) where
  cast _ _ := .ok .null
  str _ := ()
  what e := (if e.cls = .builtin .valueError then "ValueError: " else "RuntimeError: ") ++
    String.join e.args

def nullCore : CoreClass ℕ Unit (Returned ℕ) := fun _ _ _ =>
  { result := .ok .null, out := none, calls := [], world := () }

def raising (e : PyException) : PyMethod ℕ Unit Unit := fun _ world => (.error e, world)

/-- A call on a wallet that overrides nothing else. -/
def plainLevel (call : WalletCall ℕ) (stmt : OverrideStmt (Passed ℕ))
    (hbody : (VirtualCall.wallet call.invoke).body = some stmt) : Level ℕ Unit Unit where
  call := call
  stmt := stmt
  body_eq := hbody
  others _ := none
  before _ world := world
  resume _ _ world := (.ok (), world)

theorem namingPybind_what (text : String) :
    text.length < (namingPybind.what (.builtin .runtimeError text)).length := by
  have hname : 0 < "RuntimeError: ".length := by decide
  simpa [namingPybind, PyException.builtin, String.join] using hname

/-- The instance at `verify_message` around `get_tx`. -/
theorem nested_raise_verifyMessage :
    (∀ e', passesOutwards namingPybind (.builtin .valueError "bad hash")
          [.verifyMessage "m" "a" "s", .getTx "aa"] = some e' →
        ((plainLevel (.verifyMessage "m" "a" "s") _ rfl).run namingPybind nullCore
          (Level.nest namingPybind nullCore [plainLevel (.getTx "aa") _ rfl]
            (raising (.builtin .valueError "bad hash"))) ()).1 = .error e') ∧
      (∀ e' msg address signature,
        passesOutwards namingPybind (.builtin .valueError "bad hash") [.getTx "aa"] = some e' →
        (.verifyMessage "m" "a" "s" : WalletCall ℕ) = .verifyMessage msg address signature →
        ((plainLevel (.verifyMessage "m" "a" "s") _ rfl).run namingPybind nullCore
          (Level.nest namingPybind nullCore [plainLevel (.getTx "aa") _ rfl]
            (raising (.builtin .valueError "bad hash"))) ()).1 = .ok (.signatureResult {})) ∧
      (passesOutwards namingPybind (.builtin .valueError "bad hash")
            [.verifyMessage "m" "a" "s", .getTx "aa"] = some (.builtin .valueError "bad hash") ↔
        ∀ call ∈ ([.verifyMessage "m" "a" "s", .getTx "aa"] : List (WalletCall ℕ)),
          ∃ txHash, call = .getTx txHash) :=
  nested_raise namingPybind nullCore namingPybind_what
    (plainLevel (.verifyMessage "m" "a" "s") _ rfl) [plainLevel (.getTx "aa") _ rfl] rfl

/-- `get_txs()` on a wallet whose override raises a `ValueError`: the caller receives a
`RuntimeError`. -/
theorem getTxs_replaces_valueError :
    ¬ ∀ (e : PyException) (outer : Level ℕ Unit Unit) (levels : List (Level ℕ Unit Unit)),
      (outer.run namingPybind nullCore (Level.nest namingPybind nullCore levels (raising e)) ()).1 =
        .error e := by
  intro hcross
  have hraise := hcross (.builtin .valueError "bad hash") (plainLevel .getTxs _ rfl) []
  rw [Level.run_of_raises _ rfl] at hraise
  cases congrArg PyException.cls (Except.error.inj hraise)

end MoneroPython.Wallet
