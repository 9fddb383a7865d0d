import ULocalMagnitude.Cxx.Objects

/-!
# Moving objects

An object that has its data behind a `std::unique_ptr` has none any more when it was moved
from, and to read it has no meaning then.  A function that moves from its argument changes
the argument as well as its own object, and both are the data of the `Method`; what is left
of the argument when it throws is part of the model.

`moveChecked` is the loop that checks the elements of a vector and moves them to another
one, each element right after its check.  A bad element behind good ones leaves the good
ones moved from, but the moved elements are in a vector of their own until the loop ends.
-/

namespace ULocalMagnitude
namespace Cxx

variable {σ τ α β : Type}

/-- An object with its data behind a pointer; there is none after it was moved from. -/
abbrev Movable (α : Type) := Option α

/-- `*pImpl` -/
def dereference (object : Movable α) : Throws α := require object .undefinedBehavior

/-- The elements of a vector, none of which was moved from. -/
def intact (elements : List (α × β)) : List (Movable α × β) :=
  elements.map fun element => (some element.1, element.2)

/-- What is left of an element that was moved from. -/
def movedFrom (element : α × β) : Movable α × β := (none, element.2)

/-- The copy constructor of a vector. -/
def copyAll : List (Movable α × β) → Throws (List (Movable α × β))
  | [] => return []
  | element :: rest => do
      let copied ← dereference element.1
      return (some copied, element.2) :: (← copyAll rest)

/-- The loop that checks the elements one after another. -/
def checkAll (check : α × β → Throws Unit) : List (α × β) → Throws Unit
  | [] => return ()
  | element :: rest => do
      check element
      checkAll check rest

/-- `for (auto &element : elements)`, where each element is checked and then moved to the
workspace that is returned. -/
def moveChecked (check : α × β → Throws Unit) :
    Method (List (Movable α × β)) (List (α × β))
  | [] => .ok [] []
  | element :: rest =>
      let checked : Throws α := do
        let object ← dereference element.1
        check (object, element.2)
        return object
      match checked with
      | .error fault => .error fault (element :: rest)
      | .ok object =>
          match moveChecked check rest with
          | .ok workspace left =>
              .ok ((object, element.2) :: workspace) (movedFrom (object, element.2) :: left)
          | .error fault left => .error fault (movedFrom (object, element.2) :: left)

namespace Method

/-- A method of the first of two objects. -/
def onFst (m : Method σ α) : Method (σ × τ) α := fun s =>
  match m s.1 with
  | .ok a first => .ok a (first, s.2)
  | .error fault first => .error fault (first, s.2)

/-- A method of the second of two objects. -/
def onSnd (m : Method τ α) : Method (σ × τ) α := fun s =>
  match m s.2 with
  | .ok a second => .ok a (s.1, second)
  | .error fault second => .error fault (s.1, second)

/-- The effect on the first of two objects; the second one is an argument or a local. -/
def withLocal (t : τ) (m : Method (σ × τ) α) : Method σ α := fun s =>
  match m (s, t) with
  | .ok a after => .ok a after.1
  | .error fault after => .error fault after.1

theorem withLocal_lift_bind (t : τ) (x : Throws β) (f : β → Method (σ × τ) α) :
    withLocal t (liftM x >>= f) = liftM x >>= fun b => withLocal t (f b) := by
  funext s
  cases x with
  | ok b => rfl
  | error fault => rfl

/-- A call on the first object. -/
theorem withLocal_onFst_bind (t : τ) (m : Method σ β) (f : β → Method (σ × τ) α) (s : σ) :
    withLocal t (onFst m >>= f) s =
      match m s with
      | .ok b after => withLocal t (f b) after
      | .error fault after => .error fault after := by
  have hbind : (onFst m >>= f) (s, t) =
      match m s with
      | .ok b after => f b (after, t)
      | .error fault after => .error fault (after, t) := by
    show EStateM.bind (onFst m) f (s, t) = _
    unfold EStateM.bind onFst
    cases m s with
    | ok b after => rfl
    | error fault after => rfl
  unfold withLocal
  rw [hbind]
  cases m s with
  | ok b after => rfl
  | error fault after => rfl

/-- A call on the second object changes the local that the rest goes on with. -/
theorem withLocal_onSnd_bind (t : τ) (m : Method τ β) (f : β → Method (σ × τ) α) (s : σ) :
    withLocal t (onSnd m >>= f) s =
      match m t with
      | .ok b after => withLocal after (f b) s
      | .error fault _ => .error fault s := by
  have hbind : (onSnd m >>= f) (s, t) =
      match m t with
      | .ok b after => f b (s, after)
      | .error fault after => .error fault (s, after) := by
    show EStateM.bind (onSnd m) f (s, t) = _
    unfold EStateM.bind onSnd
    cases m t with
    | ok b after => rfl
    | error fault after => rfl
  unfold withLocal
  rw [hbind]
  cases m t with
  | ok b after => rfl
  | error fault after => rfl

end Method

/-! ## Vectors that are intact -/

theorem copyAll_intact (elements : List (α × β)) :
    copyAll (intact elements) = .ok (intact elements) := by
  induction elements with
  | nil => rfl
  | cons element rest ih =>
      show (do
        let copied ← dereference (some element.1)
        return (some copied, element.2) :: (← copyAll (intact rest))) = _
      rw [ih]
      rfl

theorem checkAll_eq_ok {check : α × β → Throws Unit} {elements : List (α × β)} :
    checkAll check elements = .ok () ↔ ∀ element ∈ elements, check element = .ok () := by
  induction elements with
  | nil => exact ⟨fun _ element h => absurd h List.not_mem_nil, fun _ => rfl⟩
  | cons element rest ih =>
      unfold checkAll
      rw [bind_unit_eq_ok, ih, List.forall_mem_cons]

/-- What the loop leaves of the elements: those in front of the first bad one are moved
from. -/
def leftOver (check : α × β → Throws Unit) : List (α × β) → List (Movable α × β)
  | [] => []
  | element :: rest =>
      match check element with
      | .ok () => movedFrom element :: leftOver check rest
      | .error _ => intact (element :: rest)

/-- The loop ends as the checks do, and what it returns are the elements. -/
theorem moveChecked_intact (check : α × β → Throws Unit) (elements : List (α × β)) :
    moveChecked check (intact elements) =
      match checkAll check elements with
      | .ok () => .ok elements (leftOver check elements)
      | .error fault => .error fault (leftOver check elements) := by
  induction elements with
  | nil => rfl
  | cons element rest ih =>
      have hchecked : (do
          let object ← dereference (some element.1)
          check (object, element.2)
          return object : Throws α) = check element >>= fun _ => .ok element.1 := rfl
      show moveChecked check ((some element.1, element.2) :: intact rest) = _
      rw [moveChecked, hchecked, checkAll, leftOver]
      cases check element with
      | error fault => rfl
      | ok passed =>
          dsimp only
          rw [bind_ok, bind_ok, ih]
          cases checkAll check rest with
          | error fault => rfl
          | ok passed => rfl

/-- Seen from the object that the workspace is moved to, all elements are checked before
anything is changed. -/
theorem withLocal_moveChecked (check : α × β → Throws Unit) (elements : List (α × β))
    (store : List (α × β) → σ → σ) :
    Method.withLocal (intact elements) (do
      let workspace ← Method.onSnd (moveChecked check)
      modify fun s => (store workspace s.1, s.2)) =
    (do
      liftM (checkAll check elements)
      modify (store elements) : Method σ Unit) := by
  funext s
  rw [Method.withLocal_onSnd_bind, moveChecked_intact]
  cases hchecked : checkAll check elements with
  | ok passed => rfl
  | error fault => rfl

end Cxx
end ULocalMagnitude
