import ULocalMagnitude.Cxx.Exceptions
import Mathlib.Logic.Relation

/-!
# C++ objects

A non-constant member function may change its object and may throw.  What it has
changed before throwing stays changed, and a caller that catches the exception
goes on with that object; `Method` keeps the object on both ways out.

An object's reachable states are those obtained from a constructed one by any
sequence of calls, the throwing ones included.  `Reachable.invariant` is the
rule for a property of all of them: constructors establish it and every single
call preserves it.
-/

namespace ULocalMagnitude
namespace Cxx

variable {σ α β ι : Type}

/-- A non-constant member function of objects with data `σ`. -/
abbrev Method (σ α : Type) := EStateM Fault σ α

instance : MonadLift Throws (Method σ) where
  monadLift x := fun s =>
    match x with
    | .ok a => .ok a s
    | .error fault => .error fault s

namespace Method

/-- A call whose exceptions propagate: the returned value and the object. -/
def exec (m : Method σ α) (s : σ) : Throws (α × σ) :=
  match m s with
  | .ok a s' => .ok (a, s')
  | .error fault _ => .error fault

/-- The call of a method without a result on a local object. -/
def call (m : Method σ Unit) (s : σ) : Throws σ := Prod.snd <$> m.exec s

/-- The object after a call, whether it returned or threw. -/
def state (m : Method σ α) (s : σ) : σ :=
  match m s with
  | .ok _ s' => s'
  | .error _ s' => s'

theorem call_of_exec {m : Method σ Unit} {s s' : σ} {u : Unit}
    (h : m.exec s = .ok (u, s')) : m.call s = .ok s' := by
  simp [call, h]

theorem state_of_exec {m : Method σ α} {s s' : σ} {a : α} (h : m.exec s = .ok (a, s')) :
    m.state s = s' := by
  unfold exec at h
  unfold state
  cases hm : m s with
  | ok b t =>
      rw [hm] at h
      exact (Prod.mk.inj (Except.ok.inj h)).2
  | error fault t =>
      rw [hm] at h
      cases h

theorem state_of_call {m : Method σ Unit} {s s' : σ} (h : m.call s = .ok s') :
    m.state s = s' := by
  unfold call exec at h
  unfold state
  cases hm : m s with
  | ok u t =>
      rw [hm] at h
      exact Except.ok.inj h
  | error fault t =>
      rw [hm] at h
      cases h

theorem call_eq_ok_iff {m : Method σ Unit} {s s' : σ} :
    m.call s = .ok s' ↔ m s = .ok () s' := by
  unfold call exec
  cases m s with
  | ok u t => simp
  | error fault t => simp

/-! ## Evaluation of method bodies -/

theorem exec_lift_bind (x : Throws α) (f : α → Method σ β) (s : σ) :
    exec (liftM x >>= f) s = x >>= fun a => exec (f a) s := by
  cases x with
  | ok a => rfl
  | error fault => rfl

@[simp] theorem exec_get_bind (f : σ → Method σ β) (s : σ) :
    exec (get >>= f) s = exec (f s) s := rfl

@[simp] theorem call_lift_bind (x : Throws α) (f : α → Method σ Unit) (s : σ) :
    call (liftM x >>= f) s = x >>= fun a => call (f a) s := by
  cases x with
  | ok a => rfl
  | error fault => rfl

theorem raises_call_lift_bind {x : Throws α} {f : α → Method σ Unit} {s : σ}
    {faults : Fault → Prop} (hx : Raises x faults)
    (hf : ∀ a, Raises (call (f a) s) faults) : Raises (call (liftM x >>= f) s) faults := by
  rw [call_lift_bind]
  exact hx.bind fun a _ => hf a

@[simp] theorem call_modify (f : σ → σ) (s : σ) : call (modify f) s = .ok (f s) := rfl

@[simp] theorem call_modify_bind (f : σ → σ) (g : Unit → Method σ Unit) (s : σ) :
    call (modify f >>= g) s = call (g ()) (f s) := rfl

/-! ## All-or-nothing methods -/

/-- The method leaves the object alone whenever it throws. -/
def Atomic (m : Method σ α) : Prop :=
  ∀ s fault s', m s = .error fault s' → s' = s

namespace Atomic

theorem modify (f : σ → σ) : Atomic (modify f : Method σ Unit) := by
  intro s fault s' h
  cases h

theorem pure (a : α) : Atomic (Pure.pure a : Method σ α) := by
  intro s fault s' h
  cases h

/-- A check made before the rest of the body changes nothing when it throws. -/
theorem lift_bind {x : Throws α} {f : α → Method σ β} (hf : ∀ a, Atomic (f a)) :
    Atomic (liftM x >>= f) := by
  intro s fault s' h
  cases x with
  | ok a => exact hf a s fault s' h
  | error thrown =>
      cases h
      rfl

theorem set_pure (t : σ) (a : α) :
    Atomic (set t >>= fun _ => Pure.pure a : Method σ α) := by
  intro s fault s' h
  cases h

theorem get_bind {f : σ → Method σ β} (hf : ∀ s, Atomic (f s)) : Atomic (get >>= f) := by
  intro s fault s' h
  exact hf s s fault s' h

/-- After an all-or-nothing call the object is the old one, or the call returned. -/
theorem state_cases {m : Method σ α} (hm : Atomic m) (s : σ) :
    m.state s = s ∨ ∃ a, m.exec s = .ok (a, m.state s) := by
  cases h : m s with
  | ok a t =>
      refine Or.inr ⟨a, ?_⟩
      simp [exec, state, h]
  | error fault t =>
      refine Or.inl ?_
      simp [state, h, hm s fault t h]

/-- A call that throws leaves the object alone. -/
theorem state_of_call_error {m : Method σ Unit} (hm : Atomic m) {s : σ} {fault : Fault}
    (h : m.call s = .error fault) : m.state s = s := by
  rcases hm.state_cases s with hsame | ⟨u, hreturned⟩
  · exact hsame
  · rw [call_of_exec hreturned] at h
    cases h

end Atomic

/-- A setter that stores all of its argument, or throws and leaves the object as it was. -/
structure AllOrNothing (m : Method σ Unit) (Stored : σ → Prop) (s : σ) : Prop where
  returned : ∀ s', m.call s = .ok s' → Stored s'
  thrown : ∀ fault, m.call s = .error fault → m.state s = s

theorem Atomic.allOrNothing {m : Method σ Unit} (hm : Atomic m) {Stored : σ → Prop} {s : σ}
    (h : ∀ s', m.call s = .ok s' → Stored s') : AllOrNothing m Stored s where
  returned := h
  thrown := fun _ => hm.state_of_call_error

end Method

/-! ## Reachable states -/

/-- One admissible call, returning or throwing. -/
def Calls (method : ι → Method σ α) (admissible : ι → Prop) (s s' : σ) : Prop :=
  ∃ i, admissible i ∧ (method i).state s = s'

/-- The states of the objects that a constructor built and that were then used
through admissible calls only. -/
def Reachable (constructed : σ → Prop) (method : ι → Method σ α)
    (admissible : ι → Prop) (s : σ) : Prop :=
  ∃ s₀, constructed s₀ ∧ Relation.ReflTransGen (Calls method admissible) s₀ s

namespace Reachable

variable {constructed : σ → Prop} {method : ι → Method σ α} {admissible : ι → Prop}
  {s : σ}

theorem init (h : constructed s) : Reachable constructed method admissible s :=
  ⟨s, h, Relation.ReflTransGen.refl⟩

theorem call (h : Reachable constructed method admissible s) {i : ι}
    (hi : admissible i) : Reachable constructed method admissible ((method i).state s) := by
  obtain ⟨s₀, hs₀, hrun⟩ := h
  exact ⟨s₀, hs₀, hrun.tail ⟨i, hi, rfl⟩⟩

/-- A call that returned. -/
theorem call_eq_ok {method : ι → Method σ Unit}
    (h : Reachable constructed method admissible s) {i : ι} (hi : admissible i) {s' : σ}
    (hcall : (method i).call s = .ok s') : Reachable constructed method admissible s' := by
  have hexec : (method i).exec s = .ok ((), s') := by
    unfold Method.exec
    rw [Method.call_eq_ok_iff.mp hcall]
  rw [← Method.state_of_exec hexec]
  exact h.call hi

/-- The invariant rule: constructors establish it and calls preserve it. -/
theorem invariant {inv : σ → Prop} (hinit : ∀ s₀, constructed s₀ → inv s₀)
    (hcall : ∀ i t, admissible i → inv t → inv ((method i).state t))
    (h : Reachable constructed method admissible s) : inv s := by
  obtain ⟨s₀, hs₀, hrun⟩ := h
  induction hrun with
  | refl => exact hinit s₀ hs₀
  | tail _ hstep ih =>
      obtain ⟨i, hi, rfl⟩ := hstep
      exact hcall i _ hi ih

/-- For all-or-nothing methods only the calls that return have to be looked at. -/
theorem invariant_of_atomic {inv : σ → Prop} (hinit : ∀ s₀, constructed s₀ → inv s₀)
    (hatomic : ∀ i, (method i).Atomic)
    (hcall : ∀ i t t' a, admissible i → inv t → (method i).exec t = .ok (a, t') → inv t')
    (h : Reachable constructed method admissible s) : inv s := by
  refine h.invariant hinit fun i t hi ht => ?_
  rcases (hatomic i).state_cases t with hsame | ⟨a, hreturned⟩
  · rw [hsame]
    exact ht
  · exact hcall i t _ a hi ht hreturned

end Reachable

end Cxx
end ULocalMagnitude
