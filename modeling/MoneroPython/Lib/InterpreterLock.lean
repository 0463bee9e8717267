/-
# An interpreter lock that operations may give back

The threads of a process run interpreted code, which only the holder of the interpreter lock may
do.  Interpreted code calls native operations.  An operation that *releases* gives the lock back
before its body and takes it again afterwards; the others keep it.  A native body may call back
into interpreted code, for which it takes the lock if it has not kept it, and it may wait for locks
of its own.  There are also worker threads, which start in native code.

Section 3 is safety: no two threads touch the interpreter at the same time.  Section 4 is progress:
every thread that waits for the interpreter lock can get it, from every state that is reached, if
and only if every operation that may wait for a lock releases.  An operation that keeps the
interpreter lock while it waits can meet a worker that holds the other lock and calls back.

An exception that leaves a body or a callback is a return here.
-/
import Mathlib.Logic.Function.Basic
import Mathlib.Logic.Nontrivial.Defs
import Mathlib.Logic.Relation
import Mathlib.Tactic.Common

namespace InterpreterLock

/-! ## 1. Threads -/

/-- An activation on the stack of a thread. -/
inductive Frame (ο : Type*) where
  | interpreted
  | native (op : ο)
  | worker

inductive Phase (ℓ : Type*) where
  | running
  | wantsInterpreter
  | wantsLock (l : ℓ)

structure Thread (ο ℓ : Type*) where
  stack : List (Frame ο)
  phase : Phase ℓ

/-- Who holds the interpreter lock, and who the other locks. -/
structure State (τ ο ℓ : Type*) where
  thread : τ → Thread ο ℓ
  holder : Option τ
  owner : ℓ → Option τ

variable {τ ο ℓ : Type*}

/-- Nothing has been started. -/
def State.idle : State τ ο ℓ where
  thread _ := ⟨[], .running⟩
  holder := none
  owner _ := none

/-- What is known about the operations: `releases` those that give the interpreter lock back, and
`waits` those whose body may wait for another lock. -/
structure Table (ο : Type*) where
  releases : ο → Bool
  waits : ο → Bool

namespace Table

variable (T : Table ο)

/-- The frame runs with the interpreter lock. -/
def keeps : Frame ο → Bool
  | .interpreted => true
  | .native op => !T.releases op
  | .worker => false

/-- The uppermost frame runs with the interpreter lock. -/
def keepsTop : List (Frame ο) → Bool
  | [] => false
  | f :: _ => T.keeps f

/-- The frame may wait for another lock. -/
def mayWait : Frame ο → Bool
  | .interpreted => false
  | .native op => T.waits op
  | .worker => true

end Table

/-! ## 2. Steps -/

section Steps

variable [DecidableEq τ]

/-- Thread `t` becomes `th`. -/
def State.set (s : State τ ο ℓ) (t : τ) (th : Thread ο ℓ) (holder : Option τ) : State τ ο ℓ :=
  { s with thread := Function.update s.thread t th, holder := holder }

@[simp] theorem State.set_holder (s : State τ ο ℓ) (t : τ) (th : Thread ο ℓ) (holder : Option τ) :
    (s.set t th holder).holder = holder := rfl

@[simp] theorem State.set_thread_self (s : State τ ο ℓ) (t : τ) (th : Thread ο ℓ)
    (holder : Option τ) : (s.set t th holder).thread t = th := by
  simp [State.set]

theorem State.set_thread_of_ne (s : State τ ο ℓ) {t u : τ} (hu : u ≠ t) (th : Thread ο ℓ)
    (holder : Option τ) : (s.set t th holder).thread u = s.thread u := by
  simp [State.set, hu]

variable [DecidableEq ℓ]

/-- One step of one thread. -/
inductive Step (T : Table ο) (s : State τ ο ℓ) : State τ ο ℓ → Prop where
  | start (t : τ) (h : s.thread t = ⟨[], .running⟩) :
    Step T s (s.set t ⟨[.interpreted], .wantsInterpreter⟩ s.holder)
  | startWorker (t : τ) (h : s.thread t = ⟨[], .running⟩) :
    Step T s (s.set t ⟨[.worker], .running⟩ s.holder)
  | acquire (t : τ) {stack : List (Frame ο)} (h : s.thread t = ⟨stack, .wantsInterpreter⟩)
    (hfree : s.holder = none) : Step T s (s.set t ⟨stack, .running⟩ (some t))
  | yield (t : τ) {stack : List (Frame ο)} (h : s.thread t = ⟨.interpreted :: stack, .running⟩) :
    Step T s (s.set t ⟨.interpreted :: stack, .wantsInterpreter⟩ none)
  | call (t : τ) {stack : List (Frame ο)} (op : ο)
    (h : s.thread t = ⟨.interpreted :: stack, .running⟩) :
    Step T s (s.set t ⟨.native op :: .interpreted :: stack, .running⟩
      (if T.releases op then none else s.holder))
  | callBack (t : τ) {f : Frame ο} {stack : List (Frame ο)}
    (h : s.thread t = ⟨f :: stack, .running⟩) (hnative : f ≠ .interpreted) :
    Step T s (s.set t ⟨.interpreted :: f :: stack,
      if T.keeps f then .running else .wantsInterpreter⟩ s.holder)
  | returnNative (t : τ) {op : ο} {stack : List (Frame ο)}
    (h : s.thread t = ⟨.native op :: stack, .running⟩) :
    Step T s (s.set t ⟨stack, if T.releases op then .wantsInterpreter else .running⟩ s.holder)
  | returnInterpreted (t : τ) {stack : List (Frame ο)}
    (h : s.thread t = ⟨.interpreted :: stack, .running⟩) :
    Step T s (s.set t ⟨stack, .running⟩ (if T.keepsTop stack then s.holder else none))
  | returnWorker (t : τ) (h : s.thread t = ⟨[.worker], .running⟩) :
    Step T s (s.set t ⟨[], .running⟩ s.holder)
  | wait (t : τ) {f : Frame ο} {stack : List (Frame ο)} (l : ℓ)
    (h : s.thread t = ⟨f :: stack, .running⟩) (hwait : T.mayWait f = true) :
    Step T s (s.set t ⟨f :: stack, .wantsLock l⟩ s.holder)
  | lock (t : τ) {stack : List (Frame ο)} {l : ℓ} (h : s.thread t = ⟨stack, .wantsLock l⟩)
    (hfree : s.owner l = none) :
    Step T s { s.set t ⟨stack, .running⟩ s.holder with
      owner := Function.update s.owner l (some t) }
  | unlock (t : τ) {f : Frame ο} {stack : List (Frame ο)} {l : ℓ}
    (h : s.thread t = ⟨f :: stack, .running⟩) (hnative : f ≠ .interpreted)
    (howner : s.owner l = some t) :
    Step T s { s with owner := Function.update s.owner l none }

/-- The states after any number of steps. -/
abbrev Steps (T : Table ο) : State τ ο ℓ → State τ ο ℓ → Prop := Relation.ReflTransGen (Step T)

/-- The states that any interleaving of the threads can reach. -/
abbrev Reachable (T : Table ο) (s : State τ ο ℓ) : Prop := Steps T State.idle s

end Steps

/-! ## 3. Safety -/

section Safety

variable {T : Table ο}

/-- The thread runs interpreted code, or native code that has kept the interpreter lock. -/
def Touches (T : Table ο) (th : Thread ο ℓ) : Prop :=
  T.keepsTop th.stack = true ∧ th.phase ≠ .wantsInterpreter

/-- Native operations are called from interpreted code. -/
inductive Nested : List (Frame ο) → Prop where
  | nil : Nested []
  | interpreted {stack : List (Frame ο)} (h : Nested stack) : Nested (.interpreted :: stack)
  | native (op : ο) {stack : List (Frame ο)} (h : Nested (.interpreted :: stack)) :
    Nested (.native op :: .interpreted :: stack)
  | worker : Nested [.worker]

/-- What holds of one thread: it waits for the interpreter lock before interpreted code and for
another lock in a frame that may do so. -/
structure Sound (T : Table ο) (th : Thread ο ℓ) : Prop where
  nested : Nested th.stack
  wants : th.phase = .wantsInterpreter → ∃ stack, th.stack = .interpreted :: stack
  waits : ∀ l, th.phase = .wantsLock l → ∃ f stack, th.stack = f :: stack ∧ T.mayWait f = true

/-- The invariant: the holder of the interpreter lock is the thread that touches the interpreter. -/
structure Inv (T : Table ο) (s : State τ ο ℓ) : Prop where
  holder_iff : ∀ t, s.holder = some t ↔ Touches T (s.thread t)
  sound : ∀ t, Sound T (s.thread t)

theorem sound_running {stack : List (Frame ο)} (h : Nested stack) :
    Sound T (⟨stack, .running⟩ : Thread ο ℓ) where
  nested := h
  wants := nofun
  waits := nofun

theorem sound_wantsInterpreter {stack : List (Frame ο)} (h : Nested (.interpreted :: stack)) :
    Sound T (⟨.interpreted :: stack, .wantsInterpreter⟩ : Thread ο ℓ) where
  nested := h
  wants _ := ⟨stack, rfl⟩
  waits := nofun

theorem touches_running {stack : List (Frame ο)} :
    Touches T (⟨stack, .running⟩ : Thread ο ℓ) ↔ T.keepsTop stack = true := by
  simp [Touches]

theorem not_touches_wantsInterpreter {stack : List (Frame ο)} :
    ¬ Touches T (⟨stack, .wantsInterpreter⟩ : Thread ο ℓ) := by
  simp [Touches]

theorem inv_idle : Inv T (State.idle : State τ ο ℓ) where
  holder_iff t := by simp [State.idle, Touches, Table.keepsTop]
  sound _ := sound_running .nil

/-- The other locks play no part in it. -/
theorem Inv.withOwner {s : State τ ο ℓ} (hs : Inv T s) (owner : ℓ → Option τ) :
    Inv T { s with owner := owner } :=
  ⟨hs.holder_iff, hs.sound⟩

/-- A thread that touches the interpreter gives its lock back: no other thread has it. -/
theorem none_iff_of_holder {s : State τ ο ℓ} {t : τ} (ht : s.holder = some t) {u : τ}
    (hu : u ≠ t) : (none : Option τ) = some u ↔ s.holder = some u := by
  simp [ht, hu.symm]

theorem Nested.tail {f : Frame ο} {stack : List (Frame ο)} (h : Nested (f :: stack)) :
    Nested stack := by
  cases h with
  | interpreted h => exact h
  | native op h => exact h
  | worker => exact .nil

variable [DecidableEq τ]

/-- Thread `t` takes a step, and no other thread gains or loses the interpreter lock. -/
theorem Inv.set {s : State τ ο ℓ} (hs : Inv T s) {t : τ} {th : Thread ο ℓ} {holder : Option τ}
    (hsound : Sound T th) (ht : holder = some t ↔ Touches T th)
    (hother : ∀ u, u ≠ t → (holder = some u ↔ s.holder = some u)) :
    Inv T (s.set t th holder) where
  holder_iff u := by
    rcases eq_or_ne u t with rfl | hu
    · rw [State.set_holder, State.set_thread_self, ht]
    · rw [State.set_holder, State.set_thread_of_ne s hu, hother u hu, hs.holder_iff]
  sound u := by
    rcases eq_or_ne u t with rfl | hu
    · rwa [State.set_thread_self]
    · rw [State.set_thread_of_ne s hu]
      exact hs.sound u

variable [DecidableEq ℓ]

/-- **One step.** -/
theorem Inv.step {s s' : State τ ο ℓ} (hs : Inv T s) (hstep : Step T s s') : Inv T s' := by
  cases hstep with
  | start t h =>
    refine hs.set (sound_wantsInterpreter (.interpreted .nil)) ?_ fun _ _ => Iff.rfl
    rw [hs.holder_iff, h, touches_running]
    exact iff_of_false nofun not_touches_wantsInterpreter
  | startWorker t h =>
    refine hs.set (sound_running .worker) ?_ fun _ _ => Iff.rfl
    rw [hs.holder_iff, h, touches_running, touches_running]
    rfl
  | @acquire t stack h hfree =>
    have hsound := hs.sound t
    rw [h] at hsound
    obtain ⟨rest, rfl⟩ := hsound.wants rfl
    refine hs.set (sound_running hsound.nested) ?_ ?_
    · rw [touches_running]
      exact iff_of_true rfl rfl
    · intro u hu
      simp [hfree, hu.symm]
  | @yield t stack h =>
    have hnested := (hs.sound t).nested
    have hholds := hs.holder_iff t
    rw [h] at hnested hholds
    have hholder : s.holder = some t := hholds.mpr (touches_running.mpr rfl)
    refine hs.set (sound_wantsInterpreter hnested) ?_ fun u hu => none_iff_of_holder hholder hu
    exact iff_of_false nofun not_touches_wantsInterpreter
  | @call t stack op h =>
    have hnested := (hs.sound t).nested
    have hholds := hs.holder_iff t
    rw [h] at hnested hholds
    have hholder : s.holder = some t := hholds.mpr (touches_running.mpr rfl)
    refine hs.set (sound_running (.native op hnested)) ?_ ?_
    · rw [touches_running, Table.keepsTop, Table.keeps]
      cases T.releases op <;> simp [hholder]
    · intro u hu
      split
      · exact none_iff_of_holder hholder hu
      · exact Iff.rfl
  | @callBack t f stack h hnative =>
    have hnested := (hs.sound t).nested
    have hholds := hs.holder_iff t
    rw [h] at hnested hholds
    rw [touches_running, Table.keepsTop] at hholds
    refine hs.set ?_ ?_ fun _ _ => Iff.rfl
    · split
      · exact sound_running (.interpreted hnested)
      · exact sound_wantsInterpreter (.interpreted hnested)
    · rw [hholds]
      split
      · next hkeeps =>
        rw [touches_running]
        exact iff_of_true hkeeps rfl
      · next hkeeps => exact iff_of_false hkeeps not_touches_wantsInterpreter
  | @returnNative t op stack h =>
    have hnested := (hs.sound t).nested
    have hholds := hs.holder_iff t
    rw [h] at hnested hholds
    rw [touches_running, Table.keepsTop, Table.keeps] at hholds
    cases hnested with
    | native op hnested =>
      refine hs.set ?_ ?_ fun _ _ => Iff.rfl
      · split
        · exact sound_wantsInterpreter hnested
        · exact sound_running hnested
      · rw [hholds]
        split
        · next hrel => exact iff_of_false (by simp [hrel]) not_touches_wantsInterpreter
        · next hrel =>
          rw [touches_running]
          exact iff_of_true (by simpa using hrel) rfl
  | @returnInterpreted t stack h =>
    have hnested := (hs.sound t).nested
    have hholds := hs.holder_iff t
    rw [h] at hnested hholds
    have hholder : s.holder = some t := hholds.mpr (touches_running.mpr rfl)
    refine hs.set (sound_running hnested.tail) ?_ ?_
    · rw [touches_running]
      split
      · next hkeeps => exact iff_of_true hholder hkeeps
      · next hkeeps => exact iff_of_false nofun hkeeps
    · intro u hu
      split
      · exact Iff.rfl
      · exact none_iff_of_holder hholder hu
  | returnWorker t h =>
    have hholds := hs.holder_iff t
    rw [h, touches_running] at hholds
    refine hs.set (sound_running .nil) ?_ fun _ _ => Iff.rfl
    rw [hholds, touches_running]
    rfl
  | @wait t f stack l h hwait =>
    have hnested := (hs.sound t).nested
    have hholds := hs.holder_iff t
    rw [h] at hnested hholds
    refine hs.set ⟨hnested, nofun, fun _ _ => ⟨f, stack, rfl, hwait⟩⟩ ?_ fun _ _ => Iff.rfl
    rw [hholds, touches_running]
    simp [Touches]
  | @lock t stack l h hfree =>
    have hsound := hs.sound t
    have hholds := hs.holder_iff t
    rw [h] at hsound hholds
    refine (hs.set (sound_running hsound.nested) ?_ fun _ _ => Iff.rfl).withOwner _
    rw [hholds, touches_running]
    simp [Touches]
  | unlock t h hnative howner => exact hs.withOwner _

/-- **Every interleaving** keeps the invariant. -/
theorem Reachable.inv {s : State τ ο ℓ} (h : Reachable T s) : Inv T s := by
  induction h with
  | refl => exact inv_idle
  | tail _ hstep ih => exact ih.step hstep

/-- **Mutual exclusion.** -/
theorem touches_unique {s : State τ ο ℓ} (h : Reachable T s) {t u : τ}
    (ht : Touches T (s.thread t)) (hu : Touches T (s.thread u)) : t = u := by
  have hholder := (h.inv.holder_iff t).mpr ht
  rw [(h.inv.holder_iff u).mpr hu] at hholder
  exact (Option.some.inj hholder).symm

end Safety

/-! ## 4. Progress -/

section Progress

variable {T : Table ο}

/-- Every operation that may wait for another lock gives the interpreter lock back. -/
def Table.WaitsReleased (T : Table ο) : Prop := ∀ op, T.waits op = true → T.releases op = true

/-- The holder of the interpreter lock waits for nothing. -/
theorem Inv.holder_running {s : State τ ο ℓ} (hs : Inv T s) (hT : T.WaitsReleased) {u : τ}
    (hu : s.holder = some u) :
    ∃ f stack, s.thread u = ⟨f :: stack, .running⟩ ∧ T.keeps f = true ∧ Nested (f :: stack) := by
  have htouches := (hs.holder_iff u).mp hu
  have hsound := hs.sound u
  generalize s.thread u = th at htouches hsound ⊢
  obtain ⟨hkeeps, hphase⟩ := htouches
  obtain ⟨hnested, -, hwaits⟩ := hsound
  obtain ⟨stack, phase⟩ := th
  cases stack with
  | nil => cases hkeeps
  | cons f stack =>
    refine ⟨f, stack, ?_, hkeeps, hnested⟩
    cases phase with
    | running => rfl
    | wantsInterpreter => exact absurd rfl hphase
    | wantsLock l =>
      -- a frame that may wait has given the interpreter lock back
      obtain ⟨f', stack', heq, hmay⟩ := hwaits l rfl
      cases heq
      cases f with
      | interpreted => cases hmay
      | native op =>
        simp only [Table.keepsTop, Table.keeps, hT op hmay] at hkeeps
        cases hkeeps
      | worker => cases hkeeps

variable [DecidableEq τ] [DecidableEq ℓ]

/-- The holder can give the interpreter lock back, and no other thread notices. -/
theorem Inv.exists_free {s : State τ ο ℓ} (hs : Inv T s) (hT : T.WaitsReleased) {t u : τ}
    (hu : s.holder = some u) (htu : t ≠ u) :
    ∃ s', Steps T s s' ∧ s'.holder = none ∧ s'.thread t = s.thread t := by
  obtain ⟨f, stack, hthread, hkeeps, hnested⟩ := hs.holder_running hT hu
  cases hnested with
  | @interpreted stack hnested =>
    exact ⟨_, .single (.yield u hthread), rfl, State.set_thread_of_ne _ htu _ _⟩
  | @native op stack hnested =>
    -- the operation has kept the lock: it returns, and its caller yields
    have hkeep : T.releases op = false := by simpa [Table.keeps] using hkeeps
    have hreturn := Step.returnNative (T := T) u hthread
    rw [hkeep, if_neg Bool.false_ne_true] at hreturn
    have hyield := Step.yield (T := T) u
      (State.set_thread_self s u ⟨.interpreted :: stack, .running⟩ s.holder)
    refine ⟨_, .tail (.single hreturn) hyield, rfl, ?_⟩
    rw [State.set_thread_of_ne _ htu, State.set_thread_of_ne _ htu]
  | worker => cases hkeeps

/-- **Progress.**  When the operations that may wait release, a thread that waits for the
interpreter lock can get it. -/
theorem exists_acquire (hT : T.WaitsReleased) {s : State τ ο ℓ} (h : Reachable T s) {t : τ}
    (ht : (s.thread t).phase = .wantsInterpreter) :
    ∃ s', Steps T s s' ∧ s'.holder = some t := by
  have hacquire : ∀ {s : State τ ο ℓ}, (s.thread t).phase = .wantsInterpreter → s.holder = none →
      ∃ s', Step T s s' ∧ s'.holder = some t := by
    intro s ht hfree
    obtain ⟨stack, hstack⟩ : ∃ stack, s.thread t = ⟨stack, .wantsInterpreter⟩ := ⟨_, by rw [← ht]⟩
    exact ⟨_, .acquire t hstack hfree, rfl⟩
  cases hholder : s.holder with
  | none =>
    obtain ⟨s', hstep, hs'⟩ := hacquire ht hholder
    exact ⟨s', .single hstep, hs'⟩
  | some u =>
    have htu : t ≠ u := by
      rintro rfl
      exact ((h.inv.holder_iff t).mp hholder).2 ht
    obtain ⟨s₁, hsteps, hfree, hthread⟩ := h.inv.exists_free hT hholder htu
    obtain ⟨s', hstep, hs'⟩ := hacquire (hthread ▸ ht) hfree
    exact ⟨s', hsteps.tail hstep, hs'⟩

end Progress

/-! ## 5. Deadlock -/

section Deadlock

variable {T : Table ο}

/-- Thread `p` keeps the interpreter lock and waits for `l`, and the owner of `l` waits for the
interpreter lock. -/
structure Deadlocked (s : State τ ο ℓ) (p w : τ) (l : ℓ) : Prop where
  holder : s.holder = some p
  waits : (s.thread p).phase = .wantsLock l
  owner : s.owner l = some w
  wants : (s.thread w).phase = .wantsInterpreter

/-- Whoever takes a step is neither of the two. -/
theorem Deadlocked.ne_of_running {s : State τ ο ℓ} {p w : τ} {l : ℓ} (hs : Deadlocked s p w l)
    {t : τ} (ht : (s.thread t).phase = .running) : t ≠ p ∧ t ≠ w := by
  constructor
  · rintro rfl
    rw [hs.waits] at ht
    cases ht
  · rintro rfl
    rw [hs.wants] at ht
    cases ht

/-- A running thread with interpreted code on top is the holder, which does not run. -/
theorem Deadlocked.not_interpreted {s : State τ ο ℓ} {p w : τ} {l : ℓ} (hs : Deadlocked s p w l)
    (hinv : Inv T s) {t : τ} {stack : List (Frame ο)} :
    s.thread t ≠ ⟨.interpreted :: stack, .running⟩ := by
  intro h
  have hholder : s.holder = some t := by
    rw [hinv.holder_iff, h, touches_running]
    rfl
  refine (hs.ne_of_running (t := t) (by rw [h])).1 ?_
  exact Option.some.inj (hholder.symm.trans hs.holder)

variable [DecidableEq τ]

/-- Steps of the other threads change nothing. -/
theorem Deadlocked.set {s : State τ ο ℓ} {p w : τ} {l : ℓ} (hs : Deadlocked s p w l) {t : τ}
    (hp : t ≠ p) (hw : t ≠ w) (th : Thread ο ℓ) : Deadlocked (s.set t th s.holder) p w l where
  holder := hs.holder
  waits := by rw [State.set_thread_of_ne _ hp.symm, hs.waits]
  owner := hs.owner
  wants := by rw [State.set_thread_of_ne _ hw.symm, hs.wants]

variable [DecidableEq ℓ]

/-- **A deadlock lasts.** -/
theorem Deadlocked.step {s s' : State τ ο ℓ} {p w : τ} {l : ℓ} (hs : Deadlocked s p w l)
    (hinv : Inv T s) (hstep : Step T s s') : Deadlocked s' p w l := by
  cases hstep with
  | start t h =>
    obtain ⟨hp, hw⟩ := hs.ne_of_running (t := t) (by rw [h])
    exact hs.set hp hw _
  | startWorker t h =>
    obtain ⟨hp, hw⟩ := hs.ne_of_running (t := t) (by rw [h])
    exact hs.set hp hw _
  | acquire t h hfree =>
    rw [hs.holder] at hfree
    cases hfree
  | yield t h => exact absurd h (hs.not_interpreted hinv)
  | call t op h => exact absurd h (hs.not_interpreted hinv)
  | callBack t h hnative =>
    obtain ⟨hp, hw⟩ := hs.ne_of_running (t := t) (by rw [h])
    exact hs.set hp hw _
  | returnNative t h =>
    obtain ⟨hp, hw⟩ := hs.ne_of_running (t := t) (by rw [h])
    exact hs.set hp hw _
  | returnInterpreted t h => exact absurd h (hs.not_interpreted hinv)
  | returnWorker t h =>
    obtain ⟨hp, hw⟩ := hs.ne_of_running (t := t) (by rw [h])
    exact hs.set hp hw _
  | wait t l' h hwait =>
    obtain ⟨hp, hw⟩ := hs.ne_of_running (t := t) (by rw [h])
    exact hs.set hp hw _
  | @lock t stack l' h hfree =>
    have hl : l' ≠ l := by
      rintro rfl
      rw [hs.owner] at hfree
      cases hfree
    have hp : t ≠ p := by
      rintro rfl
      have hphase := hs.waits
      rw [h] at hphase
      exact hl (Phase.wantsLock.inj hphase)
    have hw : t ≠ w := by
      rintro rfl
      have hphase := hs.wants
      rw [h] at hphase
      cases hphase
    refine ⟨hs.holder, (hs.set hp hw _).waits, ?_, (hs.set hp hw _).wants⟩
    exact (Function.update_of_ne hl.symm _ _).trans hs.owner
  | @unlock t f stack l' h hnative howner =>
    have hl : l' ≠ l := by
      rintro rfl
      have hne := (hs.ne_of_running (t := t) (by rw [h])).2
      exact hne (Option.some.inj (howner.symm.trans hs.owner))
    refine ⟨hs.holder, hs.waits, ?_, hs.wants⟩
    exact (Function.update_of_ne hl.symm _ _).trans hs.owner

theorem Deadlocked.steps {s s' : State τ ο ℓ} {p w : τ} {l : ℓ} (hs : Deadlocked s p w l)
    (hreach : Reachable T s) (hsteps : Steps T s s') : Deadlocked s' p w l := by
  induction hsteps with
  | refl => exact hs
  | tail hprev hstep ih =>
    have hinv := Reachable.inv (Relation.ReflTransGen.trans hreach hprev)
    exact ih.step hinv hstep

/-! ### How a deadlock comes about

Worker `w` takes the lock `l` before any other thread is started.  Thread `p` calls an operation
that keeps the interpreter lock and waits for `l`, and the worker calls back. -/

def workerStarts (w : τ) : State τ ο ℓ := State.idle.set w ⟨[.worker], .running⟩ none

def workerWaits (w : τ) (l : ℓ) : State τ ο ℓ :=
  (workerStarts w).set w ⟨[.worker], .wantsLock l⟩ none

def workerOwns (w : τ) (l : ℓ) : State τ ο ℓ :=
  { (workerWaits w l).set w ⟨[.worker], .running⟩ none with
    owner := Function.update (fun _ => none) l (some w) }

def threadStarts (p w : τ) (l : ℓ) : State τ ο ℓ :=
  (workerOwns w l).set p ⟨[.interpreted], .wantsInterpreter⟩ none

def threadRuns (p w : τ) (l : ℓ) : State τ ο ℓ :=
  (threadStarts p w l).set p ⟨[.interpreted], .running⟩ (some p)

def threadCalls (op : ο) (p w : τ) (l : ℓ) : State τ ο ℓ :=
  (threadRuns p w l).set p ⟨[.native op, .interpreted], .running⟩ (some p)

def threadWaits (op : ο) (p w : τ) (l : ℓ) : State τ ο ℓ :=
  (threadCalls op p w l).set p ⟨[.native op, .interpreted], .wantsLock l⟩ (some p)

def workerCallsBack (op : ο) (p w : τ) (l : ℓ) : State τ ο ℓ :=
  (threadWaits op p w l).set w ⟨[.interpreted, .worker], .wantsInterpreter⟩ (some p)

theorem workerOwns_thread_self (w : τ) (l : ℓ) :
    (workerOwns w l : State τ ο ℓ).thread w = ⟨[.worker], .running⟩ :=
  State.set_thread_self (workerWaits w l) w _ none

theorem workerOwns_thread_of_ne {p w : τ} (hpw : p ≠ w) (l : ℓ) :
    (workerOwns w l : State τ ο ℓ).thread p = ⟨[], .running⟩ := by
  have hthread : (workerOwns w l : State τ ο ℓ).thread p =
      ((workerWaits w l).set w ⟨[.worker], .running⟩ none).thread p := rfl
  rw [hthread, workerWaits, workerStarts]
  simp only [State.set_thread_of_ne _ hpw]
  rfl

theorem reachable_workerOwns (w : τ) (l : ℓ) :
    Reachable T (workerOwns w l : State τ ο ℓ) := by
  have hstart : Step T (State.idle : State τ ο ℓ) (workerStarts w) := .startWorker w rfl
  have hwait : Step T (workerStarts w : State τ ο ℓ) (workerWaits w l) :=
    .wait w l (State.set_thread_self State.idle w _ none) rfl
  have hlock : Step T (workerWaits w l : State τ ο ℓ) (workerOwns w l) :=
    .lock w (State.set_thread_self (workerStarts w) w _ none) rfl
  exact ((Relation.ReflTransGen.single hstart).tail hwait).tail hlock

theorem threadWaits_thread_worker (op : ο) {p w : τ} (hpw : p ≠ w) (l : ℓ) :
    (threadWaits op p w l : State τ ο ℓ).thread w = ⟨[.worker], .running⟩ := by
  rw [threadWaits, threadCalls, threadRuns, threadStarts]
  simp only [State.set_thread_of_ne _ hpw.symm, workerOwns_thread_self]

theorem steps_workerCallsBack {op : ο} (hwait : T.waits op = true) (hkeep : T.releases op = false)
    {p w : τ} (hpw : p ≠ w) (l : ℓ) : Steps T (workerOwns w l) (workerCallsBack op p w l) := by
  have hstart : Step T (workerOwns w l) (threadStarts p w l) :=
    .start p (workerOwns_thread_of_ne hpw l)
  have hacquire : Step T (threadStarts p w l) (threadRuns p w l) :=
    .acquire p (State.set_thread_self _ _ _ _) rfl
  have hcall : Step T (threadRuns p w l) (threadCalls op p w l) := by
    have hkept : Step T (threadRuns p w l) ((threadRuns p w l).set p
        ⟨[.native op, .interpreted], .running⟩ (if T.releases op then none else some p)) :=
      .call p op (State.set_thread_self _ _ _ _)
    rwa [hkeep, if_neg Bool.false_ne_true] at hkept
  have hwaits : Step T (threadCalls op p w l) (threadWaits op p w l) :=
    .wait p l (State.set_thread_self _ _ _ _) hwait
  have hback : Step T (threadWaits op p w l) (workerCallsBack op p w l) :=
    .callBack w (threadWaits_thread_worker op hpw l) nofun
  exact ((((Relation.ReflTransGen.single hstart).tail hacquire).tail hcall).tail hwaits).tail hback

theorem deadlocked_workerCallsBack (op : ο) {p w : τ} (hpw : p ≠ w) (l : ℓ) :
    Deadlocked (workerCallsBack op p w l) p w l where
  holder := rfl
  waits := by
    rw [workerCallsBack, State.set_thread_of_ne _ hpw, threadWaits, State.set_thread_self]
  owner := by
    have howner : (workerCallsBack op p w l).owner =
      Function.update (fun _ => none) l (some w) := rfl
    rw [howner, Function.update_self]
  wants := by rw [workerCallsBack, State.set_thread_self]

/-- An operation that waits and keeps the interpreter lock meets a worker that holds the other lock
and calls back. -/
theorem exists_deadlocked {op : ο} (hwait : T.waits op = true) (hkeep : T.releases op = false)
    {p w : τ} (hpw : p ≠ w) (l : ℓ) : ∃ s : State τ ο ℓ, Reachable T s ∧ Deadlocked s p w l :=
  ⟨workerCallsBack op p w l,
    (reachable_workerOwns w l).trans (steps_workerCallsBack hwait hkeep hpw l),
    deadlocked_workerCallsBack op hpw l⟩

/-- **When waiting ends.**  With two threads and another lock, every thread that waits for the
interpreter lock can get it, whatever the interleaving so far, if and only if every operation that
may wait for another lock releases. -/
theorem exists_acquire_iff [Nontrivial τ] [Nonempty ℓ] :
    (∀ (s : State τ ο ℓ) (t : τ), Reachable T s → (s.thread t).phase = .wantsInterpreter →
        ∃ s', Steps T s s' ∧ s'.holder = some t) ↔
      T.WaitsReleased := by
  constructor
  · intro hget op hwait
    by_contra hkeep
    obtain ⟨p, w, hpw⟩ := exists_pair_ne τ
    obtain ⟨l⟩ := ‹Nonempty ℓ›
    obtain ⟨s, hs, hdead⟩ := exists_deadlocked hwait (Bool.eq_false_iff.mpr hkeep) hpw l
    obtain ⟨s', hsteps, hholder⟩ := hget s w hs hdead.wants
    have hlast := (hdead.steps hs hsteps).holder
    exact hpw (Option.some.inj (hlast.symm.trans hholder))
  · intro hT s t hs ht
    exact exists_acquire hT hs ht

end Deadlock

end InterpreterLock
