import ULocalMagnitude.Cxx.Objects

/-!
# Programs with global state

A function that works on the global state of a program is a `Method` of that state.
`attempt` is the `try` block that decides whether a function goes on or returns, and
`uncaught` is the boundary of a thread, where an exception ends the program.

`Ends` says what holds on the two ways out of a function, about the value and the state.
Its rules follow the text of a function; a `catch` clause and what follows the block get
the state that the body has left.
-/

namespace ULocalMagnitude
namespace Cxx
namespace Method

variable {σ α β ι : Type}

/-- `try {a = body();} catch (const std::exception &e) {return onException(e.what());}` and
the rest of the function. -/
def attempt (body : Method σ α) (onException : String → Method σ β) (rest : α → Method σ β) :
    Method σ β := fun s =>
  match body s with
  | .ok a s' => rest a s'
  | .error (.invalidArgument what) s' => onException what s'
  | .error (.runtimeError what) s' => onException what s'
  | .error (.outOfRange what) s' => onException what s'
  | .error fault s' => .error fault s'

/-- A function that nobody catches the exceptions of. -/
def uncaught (m : Method σ α) : Method σ α := fun s =>
  match m s with
  | .error (.invalidArgument _) s' => .error .terminate s'
  | .error (.runtimeError _) s' => .error .terminate s'
  | .error (.outOfRange _) s' => .error .terminate s'
  | outcome => outcome

/-- `for (const auto &element : elements) {body(element);}` -/
def forEach (body : ι → Method σ Unit) : List ι → Method σ Unit
  | [] => pure ()
  | element :: rest => do
      body element
      forEach body rest

/-- What holds when the function returns, and what holds when it is left otherwise. -/
def Ends (m : Method σ α) (s : σ) (returned : α → σ → Prop) (left : Fault → σ → Prop) :
    Prop :=
  match m s with
  | .ok a s' => returned a s'
  | .error fault s' => left fault s'

namespace Ends

variable {m : Method σ α} {s s' : σ} {returned : α → σ → Prop} {left : Fault → σ → Prop}

theorem of_ok {a : α} (hm : m s = .ok a s') (h : returned a s') : Ends m s returned left := by
  unfold Ends
  rw [hm]
  exact h

theorem mono {returned' : α → σ → Prop} {left' : Fault → σ → Prop}
    (h : Ends m s returned left) (hreturned : ∀ a t, returned a t → returned' a t)
    (hleft : ∀ fault t, left fault t → left' fault t) : Ends m s returned' left' := by
  unfold Ends at h ⊢
  cases hm : m s with
  | ok a t =>
      rw [hm] at h
      exact hreturned a t h
  | error fault t =>
      rw [hm] at h
      exact hleft fault t h

protected theorem pure {a : α} (h : returned a s) : Ends (Pure.pure a) s returned left := h

protected theorem modify {f : σ → σ} {returned : Unit → σ → Prop} (h : returned () (f s)) :
    Ends (modify f) s returned left := h

/-- A computation that does not touch the state. -/
theorem lift {x : Throws α} (hok : ∀ a, x = .ok a → returned a s)
    (herror : ∀ fault, x = .error fault → left fault s) :
    Ends (liftM x) s returned left := by
  cases x with
  | ok a => exact hok a rfl
  | error fault => exact herror fault rfl

theorem get_bind {f : σ → Method σ β} {returned : β → σ → Prop}
    (h : Ends (f s) s returned left) : Ends (get >>= f) s returned left := h

/-- Sequential composition; what is left early is left with what holds then. -/
theorem bind {f : α → Method σ β} {between : α → σ → Prop} {returned : β → σ → Prop}
    (hm : Ends m s between left) (hf : ∀ a t, between a t → Ends (f a) t returned left) :
    Ends (m >>= f) s returned left := by
  have hbind : (m >>= f) s = match m s with
      | .ok a t => f a t
      | .error fault t => .error fault t := by
    show EStateM.bind m f s = _
    unfold EStateM.bind
    cases m s with
    | ok a t => rfl
    | error fault t => rfl
  unfold Ends at hm ⊢
  rw [hbind]
  cases hs : m s with
  | ok a t =>
      rw [hs] at hm
      exact hf a t hm
  | error fault t =>
      rw [hs] at hm
      exact hm

/-- Nothing leaves a function that always returns. -/
theorem safe_bind {f : α → Method σ β} {between : α → σ → Prop} {returned : β → σ → Prop}
    (hm : Ends m s between fun _ _ => False)
    (hf : ∀ a t, between a t → Ends (f a) t returned left) :
    Ends (m >>= f) s returned left :=
  bind (hm.mono (fun _ _ h => h) fun _ _ h => h.elim) hf

/-- The rule for `try` blocks: exceptions go to the `catch` clause, and other faults past
it. -/
theorem attempt {body : Method σ α} {onException : String → Method σ β}
    {rest : α → Method σ β} {between : α → σ → Prop} {thrown : Fault → σ → Prop}
    {returned : β → σ → Prop} (hbody : Ends body s between thrown)
    (hrest : ∀ a t, between a t → Ends (rest a) t returned left)
    (hcatch : ∀ fault what t, fault.IsException → thrown fault t →
      Ends (onException what) t returned left)
    (hpast : ∀ fault t, ¬ fault.IsException → thrown fault t → left fault t) :
    Ends (Method.attempt body onException rest) s returned left := by
  unfold Ends at hbody ⊢
  unfold Method.attempt
  cases hs : body s with
  | ok a t =>
      rw [hs] at hbody
      exact hrest a t hbody
  | error fault t =>
      rw [hs] at hbody
      cases fault with
      | invalidArgument what => exact hcatch (.invalidArgument what) what t trivial hbody
      | runtimeError what => exact hcatch (.runtimeError what) what t trivial hbody
      | outOfRange what => exact hcatch (.outOfRange what) what t trivial hbody
      | terminate => exact hpast _ t id hbody
      | undefinedBehavior => exact hpast _ t id hbody

/-- At the boundary of a thread every exception is the end of the program. -/
theorem uncaught {thrown : Fault → σ → Prop} (h : Ends m s returned thrown)
    (hexception : ∀ fault t, fault.IsException → thrown fault t → left .terminate t)
    (hpast : ∀ fault t, ¬ fault.IsException → thrown fault t → left fault t) :
    Ends (Method.uncaught m) s returned left := by
  unfold Ends at h ⊢
  unfold Method.uncaught
  cases hs : m s with
  | ok a t =>
      rw [hs] at h
      exact h
  | error fault t =>
      rw [hs] at h
      cases fault with
      | invalidArgument what => exact hexception (.invalidArgument what) t trivial h
      | runtimeError what => exact hexception (.runtimeError what) t trivial h
      | outOfRange what => exact hexception (.outOfRange what) t trivial h
      | terminate => exact hpast _ t id h
      | undefinedBehavior => exact hpast _ t id h

end Ends

end Method
end Cxx
end ULocalMagnitude
