import Mathlib.Logic.Basic
import Mathlib.Tactic.Common

/-!
# C++ exceptions

A computation that can leave abnormally is a value of `Throws α`.  Three of the
five ways of leaving are exceptions, and only those can be caught: a `noexcept`
function that lets one out ends in `std::terminate`, and reading outside of an
array or computing outside of a type has no meaning at all.  `try`/`catch`
therefore sorts by the dynamic type of what was thrown, as the clauses of the
source do.

Two rules take a chain of calls apart: `bind_eq_ok` when the chain returned, and
`Raises.bind` for what it can throw.
-/

namespace ULocalMagnitude
namespace Cxx

/-- How a C++ function is left when it does not return. -/
inductive Fault where
  /-- `throw std::invalid_argument(what)` -/
  | invalidArgument (what : String)
  /-- `throw std::runtime_error(what)` -/
  | runtimeError (what : String)
  /-- `throw std::out_of_range(what)` -/
  | outOfRange (what : String)
  /-- `std::terminate` was called: the process is gone and nothing catches it. -/
  | terminate
  /-- An element outside of an array or an object that was moved from was read, or a
  number left the range of a signed type. -/
  | undefinedBehavior
deriving DecidableEq, Repr

/-- The fault is an object derived from `std::exception`. -/
def Fault.IsException : Fault → Prop
  | .invalidArgument _ => True
  | .runtimeError _ => True
  | .outOfRange _ => True
  | .terminate => False
  | .undefinedBehavior => False

/-- The fault is a `std::invalid_argument`. -/
def Fault.IsInvalidArgument : Fault → Prop
  | .invalidArgument _ => True
  | _ => False

theorem Fault.IsInvalidArgument.isException (fault : Fault) (h : fault.IsInvalidArgument) :
    fault.IsException := by
  cases fault with
  | invalidArgument what => trivial
  | _ => exact h.elim

/-- A computation that returns an `α` or leaves with a fault. -/
abbrev Throws (α : Type) := Except Fault α

variable {α β : Type}

/-- `if (condition){throw fault;}` -/
def throwIf (condition : Prop) [Decidable condition] (fault : Fault) : Throws Unit :=
  if condition then .error fault else .ok ()

/-- `if (!message.has_field()){throw fault;}` with the field's value for later use. -/
def require (field : Option α) (fault : Fault) : Throws α :=
  match field with
  | some a => .ok a
  | none => .error fault

/-- A function body under `noexcept`: an exception that would leave it calls
`std::terminate` instead. -/
def noexcept : Throws α → Throws α
  | .error (.invalidArgument _) => .error .terminate
  | .error (.runtimeError _) => .error .terminate
  | .error (.outOfRange _) => .error .terminate
  | outcome => outcome

/-- `try {body} catch (const std::invalid_argument &e) {...}
catch (const std::exception &e) {...}`; each clause gets `e.what()`. -/
def tryCatch (body : Throws α) (onInvalidArgument onException : String → Throws α) :
    Throws α :=
  match body with
  | .error (.invalidArgument what) => onInvalidArgument what
  | .error (.runtimeError what) => onException what
  | .error (.outOfRange what) => onException what
  | outcome => outcome

/-! ## Evaluation -/

@[simp] theorem bind_ok (a : α) (f : α → Throws β) :
    ((.ok a : Throws α) >>= f) = f a := rfl

@[simp] theorem bind_error (fault : Fault) (f : α → Throws β) :
    ((.error fault : Throws α) >>= f) = .error fault := rfl

@[simp] theorem pure_eq_ok (a : α) : (pure a : Throws α) = .ok a := rfl

@[simp] theorem map_ok (f : α → β) (a : α) : f <$> (.ok a : Throws α) = .ok (f a) := rfl

@[simp] theorem map_error (f : α → β) (fault : Fault) :
    f <$> (.error fault : Throws α) = .error fault := rfl

/-- Peels one call off a computation that returned. -/
theorem bind_eq_ok {x : Throws α} {f : α → Throws β} {b : β} :
    (x >>= f) = .ok b ↔ ∃ a, x = .ok a ∧ f a = .ok b := by
  cases x with
  | ok a => simp
  | error fault => simp

theorem bind_unit_eq_ok {x : Throws Unit} {f : Unit → Throws β} {b : β} :
    (x >>= f) = .ok b ↔ x = .ok () ∧ f () = .ok b := by
  cases x with
  | ok u => simp
  | error fault => simp

/-- A call decides alone whether a computation returns that always goes on after it. -/
theorem exists_bind_eq_ok {x : Throws α} {f : α → Throws β}
    (hf : ∀ a, x = .ok a → ∃ b, f a = .ok b) : (∃ b, (x >>= f) = .ok b) ↔ ∃ a, x = .ok a := by
  constructor
  · rintro ⟨b, hb⟩
    obtain ⟨a, ha, -⟩ := bind_eq_ok.mp hb
    exact ⟨a, ha⟩
  · rintro ⟨a, ha⟩
    obtain ⟨b, hb⟩ := hf a ha
    exact ⟨b, bind_eq_ok.mpr ⟨a, ha, hb⟩⟩

@[simp] theorem throwIf_eq_ok {condition : Prop} [Decidable condition] {fault : Fault}
    {u : Unit} : throwIf condition fault = .ok u ↔ ¬ condition := by
  by_cases h : condition
  · simp [throwIf, h]
  · simp [throwIf, h]

theorem throwIf_pos {condition : Prop} [Decidable condition] {fault : Fault}
    (h : condition) : throwIf condition fault = .error fault := if_pos h

theorem throwIf_neg {condition : Prop} [Decidable condition] {fault : Fault}
    (h : ¬ condition) : throwIf condition fault = .ok () := if_neg h

theorem throwIf_bind {condition : Prop} [Decidable condition] {fault : Fault}
    {f : Unit → Throws β} :
    (throwIf condition fault >>= f) = if condition then .error fault else f () := by
  by_cases h : condition
  · rw [throwIf_pos h, if_pos h, bind_error]
  · rw [throwIf_neg h, if_neg h, bind_ok]

@[simp] theorem throwIf_bind_eq_ok {condition : Prop} [Decidable condition] {fault : Fault}
    {f : Unit → Throws β} {b : β} :
    (throwIf condition fault >>= f) = .ok b ↔ ¬ condition ∧ f () = .ok b := by
  rw [throwIf_bind]
  by_cases h : condition
  · simp [h]
  · simp [h]

@[simp] theorem require_some (a : α) (fault : Fault) : require (some a) fault = .ok a := rfl

@[simp] theorem require_none (fault : Fault) :
    require (none : Option α) fault = .error fault := rfl

@[simp] theorem require_eq_ok {field : Option α} {fault : Fault} {a : α} :
    require field fault = .ok a ↔ field = some a := by
  cases field with
  | none => simp
  | some b => simp

/-! ## `noexcept` -/

@[simp] theorem noexcept_ok (a : α) : noexcept (.ok a : Throws α) = .ok a := rfl

@[simp] theorem noexcept_eq_ok {x : Throws α} {a : α} :
    noexcept x = .ok a ↔ x = .ok a := by
  cases x with
  | ok b => simp
  | error fault => cases fault <;> simp [noexcept]

theorem noexcept_map (f : α → β) (x : Throws α) : noexcept (f <$> x) = f <$> noexcept x := by
  cases x with
  | ok a => rfl
  | error fault => cases fault <;> rfl

/-- No exception leaves a `noexcept` function. -/
theorem noexcept_error_not_isException {x : Throws α} {fault : Fault}
    (h : noexcept x = .error fault) : ¬ fault.IsException := by
  cases x with
  | ok a => simp at h
  | error thrown =>
      cases thrown with
      | invalidArgument what =>
          obtain rfl : Fault.terminate = fault := by simpa [noexcept] using h
          exact id
      | runtimeError what =>
          obtain rfl : Fault.terminate = fault := by simpa [noexcept] using h
          exact id
      | outOfRange what =>
          obtain rfl : Fault.terminate = fault := by simpa [noexcept] using h
          exact id
      | terminate =>
          obtain rfl : Fault.terminate = fault := by simpa [noexcept] using h
          exact id
      | undefinedBehavior =>
          obtain rfl : Fault.undefinedBehavior = fault := by simpa [noexcept] using h
          exact id

/-- A `noexcept` function inside another one adds nothing. -/
theorem noexcept_noexcept (x : Throws α) : noexcept (noexcept x) = noexcept x := by
  cases x with
  | ok a => rfl
  | error fault => cases fault <;> rfl

/-! ## What can be thrown -/

/-- Every fault of the computation satisfies `faults`. -/
def Raises (x : Throws α) (faults : Fault → Prop) : Prop :=
  ∀ fault, x = .error fault → faults fault

namespace Raises

variable {x : Throws α} {faults : Fault → Prop}

theorem ok (a : α) : Raises (.ok a) faults := by
  intro fault h
  cases h

theorem error {fault : Fault} (h : faults fault) : Raises (.error fault : Throws α) faults := by
  intro thrown hall
  rcases hall with ⟨⟩
  exact h

/-- A computation that does not return is left with one of its faults. -/
theorem exists_error (hx : Raises x faults) (h : ¬ ∃ a, x = .ok a) :
    ∃ fault, x = .error fault ∧ faults fault := by
  cases x with
  | ok a => exact absurd ⟨a, rfl⟩ h
  | error fault => exact ⟨fault, rfl, hx fault rfl⟩

theorem mono {faults' : Fault → Prop} (hx : Raises x faults)
    (h : ∀ fault, faults fault → faults' fault) : Raises x faults' := by
  intro fault hfault
  exact h fault (hx fault hfault)

/-- Sequential composition; the rest of a computation runs on a returned value. -/
theorem bind {f : α → Throws β} (hx : Raises x faults)
    (hf : ∀ a, x = .ok a → Raises (f a) faults) : Raises (x >>= f) faults := by
  cases x with
  | ok a => exact hf a rfl
  | error thrown =>
      rw [bind_error]
      exact error (hx thrown rfl)

theorem map {f : α → β} (hx : Raises x faults) : Raises (f <$> x) faults := by
  cases x with
  | ok a => exact ok (f a)
  | error thrown => exact error (hx thrown rfl)

theorem throwIf {condition : Prop} [Decidable condition] {fault : Fault}
    (h : condition → faults fault) : Raises (throwIf condition fault) faults := by
  by_cases hc : condition
  · rw [throwIf_pos hc]
    exact error (h hc)
  · rw [throwIf_neg hc]
    exact ok ()

theorem require {field : Option α} {fault : Fault} (h : field = none → faults fault) :
    Raises (Cxx.require field fault) faults := by
  cases field with
  | none => exact error (h rfl)
  | some a => exact ok a

/-- Handlers throw something else instead. -/
theorem tryCatch {onInvalidArgument onException : String → Throws α} (hx : Raises x faults)
    (hinvalid : ∀ what, Raises (onInvalidArgument what) faults)
    (hexception : ∀ what, Raises (onException what) faults) :
    Raises (Cxx.tryCatch x onInvalidArgument onException) faults := by
  cases x with
  | ok a => exact ok a
  | error fault =>
      cases fault with
      | invalidArgument what => exact hinvalid what
      | runtimeError what => exact hexception what
      | outOfRange what => exact hexception what
      | terminate => exact hx
      | undefinedBehavior => exact hx

end Raises

end Cxx
end ULocalMagnitude
