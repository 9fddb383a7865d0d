import ULocalMagnitude.Cxx.Objects
import ULocalMagnitude.Cxx.Text

/-!
# Reactors

Each remote call is answered in the constructor of a reactor: it writes to the
response, counts the call in the metrics and calls `Finish`.  A `return` in the
middle of it leaves the constructor at once, and unlike an exception no `catch`
clause stops it; `Exit` has both.  What was written before stays written.
-/

namespace ULocalMagnitude
namespace Grpc

open Cxx

/-- `grpc::StatusCode`, as far as it is used. -/
inductive StatusCode where
  | ok
  | invalidArgument
  | internal
  | unauthenticated
deriving DecidableEq

/-- `grpc::Status` -/
structure Status where
  code : StatusCode
  message : String := ""
deriving DecidableEq

/-- The counters of `Metrics::Singleton`. -/
inductive Counter where
  | success
  | clientError
  | serverError
  | unauthenticated
deriving DecidableEq

/-- A reactor with its response, the statuses `Finish` was called with and the counters
that were incremented, all oldest first. -/
structure Reactor (R : Type) where
  mRouteName : String
  response : R
  finished : List Status := []
  incremented : List (Counter × String) := []
  mSuccess : Bool := false
deriving DecidableEq

/-- How the constructor of a reactor is left before its end. -/
inductive Exit where
  | returned
  | fault (reason : Fault)

/-- A part of the constructor of a reactor. -/
abbrev Handler (R α : Type) := EStateM Exit (Reactor R) α

variable {R α β : Type}

instance : MonadLift Throws (Handler R) where
  monadLift x := fun reactor =>
    match x with
    | .ok a => .ok a reactor
    | .error reason => .error (.fault reason) reactor

namespace Reactor

/-- `metrics.increment...Counter(mRouteName)` -/
def increment (counter : Counter) (reactor : Reactor R) : Reactor R :=
  { reactor with incremented := reactor.incremented ++ [(counter, reactor.mRouteName)] }

/-- `Finish(status)` -/
def finish (status : Status) (reactor : Reactor R) : Reactor R :=
  { reactor with finished := reactor.finished ++ [status] }

/-- A refused call: counted and finished. -/
def refused (counter : Counter) (status : Status) (reactor : Reactor R) : Reactor R :=
  (reactor.increment counter).finish status

/-- `OnDone`: only now successes are counted. -/
def onDone (reactor : Reactor R) : Reactor R :=
  if reactor.mSuccess then reactor.increment .success else reactor

end Reactor

namespace Handler

/-- Count, finish with a status, and return. -/
def refuse (counter : Counter) (status : Status) : Handler R α :=
  fun reactor => .error .returned (reactor.refused counter status)

def clientError (message : String) : Handler R α :=
  refuse .clientError { code := .invalidArgument, message }

def serverError (message : String) : Handler R α :=
  refuse .serverError { code := .internal, message }

/-- `mSuccess = true; Finish(grpc::Status::OK);` -/
def succeed : Handler R Unit :=
  modify fun reactor => ({ reactor with mSuccess := true }).finish { code := .ok }

/-- A change of the response. -/
def respond (f : R → R) : Handler R Unit :=
  modify fun reactor => { reactor with response := f reactor.response }

/-- `try {body} catch (const std::invalid_argument &e) {...}
catch (const std::exception &e) {...}` -/
def tryCatch (body : Handler R α) (onInvalidArgument onException : String → Handler R α) :
    Handler R α := fun reactor =>
  match body reactor with
  | .error (.fault (.invalidArgument what)) after => onInvalidArgument what after
  | .error (.fault (.runtimeError what)) after => onException what after
  | .error (.fault (.outOfRange what)) after => onException what after
  | outcome => outcome

/-- The reactor after its constructor; a fault that leaves it is not handled. -/
def run (body : Handler R Unit) (reactor : Reactor R) : Throws (Reactor R) :=
  match body reactor with
  | .ok _ after => .ok after
  | .error .returned after => .ok after
  | .error (.fault reason) _ => .error reason

/-! ## Evaluation -/

variable {reactor after : Reactor R}

theorem bind_of_ok {x : Handler R α} {f : α → Handler R β} {a : α}
    (h : x reactor = .ok a after) : (x >>= f) reactor = f a after := by
  show EStateM.bind x f reactor = _
  unfold EStateM.bind
  rw [h]

theorem bind_of_error {x : Handler R α} {f : α → Handler R β} {reason : Exit}
    (h : x reactor = .error reason after) : (x >>= f) reactor = .error reason after := by
  show EStateM.bind x f reactor = _
  unfold EStateM.bind
  rw [h]

theorem lift_ok (a : α) (reactor : Reactor R) :
    (liftM (.ok a : Throws α) : Handler R α) reactor = .ok a reactor := rfl

theorem lift_error (reason : Fault) (reactor : Reactor R) :
    (liftM (.error reason : Throws α) : Handler R α) reactor =
      .error (.fault reason) reactor := rfl

theorem lift_bind_ok {x : Throws α} {a : α} (h : x = .ok a) (f : α → Handler R β)
    (reactor : Reactor R) : (liftM x >>= f) reactor = f a reactor := by
  rw [h]
  rfl

theorem respond_bind (f : R → R) (g : Unit → Handler R β) (reactor : Reactor R) :
    (respond f >>= g) reactor = g () { reactor with response := f reactor.response } := rfl

theorem tryCatch_of_ok {body : Handler R α}
    {onInvalidArgument onException : String → Handler R α} {a : α}
    (h : body reactor = .ok a after) :
    tryCatch body onInvalidArgument onException reactor = .ok a after := by
  unfold tryCatch
  rw [h]

theorem tryCatch_of_returned {body : Handler R α}
    {onInvalidArgument onException : String → Handler R α}
    (h : body reactor = .error .returned after) :
    tryCatch body onInvalidArgument onException reactor = .error .returned after := by
  unfold tryCatch
  rw [h]

/-- An exception of a type derived from `std::invalid_argument` takes the first clause. -/
theorem tryCatch_of_invalidArgument {body : Handler R α}
    (onInvalidArgument onException : String → Handler R α) {reason : Fault}
    (h : body reactor = .error (.fault reason) after) (hreason : reason.IsInvalidArgument) :
    ∃ what, reason = .invalidArgument what ∧
      tryCatch body onInvalidArgument onException reactor = onInvalidArgument what after := by
  unfold tryCatch
  cases reason with
  | invalidArgument what =>
      rw [h]
      exact ⟨what, rfl, rfl⟩
  | runtimeError what => exact hreason.elim
  | outOfRange what => exact hreason.elim
  | terminate => exact hreason.elim
  | undefinedBehavior => exact hreason.elim

/-- What is no exception passes all clauses. -/
theorem tryCatch_of_fatal {body : Handler R α}
    {onInvalidArgument onException : String → Handler R α} {reason : Fault}
    (h : body reactor = .error (.fault reason) after) (hreason : ¬ reason.IsException) :
    tryCatch body onInvalidArgument onException reactor =
      .error (.fault reason) after := by
  unfold tryCatch
  rw [h]
  cases reason with
  | invalidArgument what => exact absurd trivial hreason
  | runtimeError what => exact absurd trivial hreason
  | outOfRange what => exact absurd trivial hreason
  | terminate => rfl
  | undefinedBehavior => rfl

theorem run_of_ok {body : Handler R Unit} (h : body reactor = .ok () after) :
    run body reactor = .ok after := by
  unfold run
  rw [h]

theorem run_of_returned {body : Handler R Unit} (h : body reactor = .error .returned after) :
    run body reactor = .ok after := by
  unfold run
  rw [h]

theorem run_of_fault {body : Handler R Unit} {reason : Fault}
    (h : body reactor = .error (.fault reason) after) : run body reactor = .error reason := by
  unfold run
  rw [h]

/-! ## Two runs

Handlers can be run on reactors that differ in a part of their responses that nobody
looks at.  What is looked at is a function `see` of the response.
-/

variable {S : Type} {see : R → S}

/-- The reactor with what is seen of its response. -/
def seen (see : R → S) (reactor : Reactor R) : Reactor S where
  mRouteName := reactor.mRouteName
  response := see reactor.response
  finished := reactor.finished
  incremented := reactor.incremented
  mSuccess := reactor.mSuccess

/-- Two ends of runs that look the same. -/
inductive SameEnd (see : R → S) :
    EStateM.Result Exit (Reactor R) α → EStateM.Result Exit (Reactor R) α → Prop
  | ok (a : α) {after after' : Reactor R} (h : seen see after = seen see after') :
      SameEnd see (.ok a after) (.ok a after')
  | error (reason : Exit) {after after' : Reactor R} (h : seen see after = seen see after') :
      SameEnd see (.error reason after) (.error reason after')

/-- Started on reactors that look the same, the two handlers end in ways that look the
same. -/
def Alike (see : R → S) (x y : Handler R α) : Prop :=
  ∀ first second, seen see first = seen see second → SameEnd see (x first) (y second)

namespace Alike

theorem pure (a : α) : Alike see (Pure.pure a) (Pure.pure a) :=
  fun _ _ h => .ok a h

/-- A function call does not look at the reactor. -/
theorem lift (x : Throws α) : Alike see (liftM x) (liftM x) := by
  intro first second h
  cases x with
  | ok a => exact .ok a h
  | error reason => exact .error (.fault reason) h

/-- Sequential composition. -/
theorem bind {x y : Handler R α} {f g : α → Handler R β} (hx : Alike see x y)
    (hf : ∀ a, Alike see (f a) (g a)) : Alike see (x >>= f) (y >>= g) := by
  intro first second h
  have hends := hx first second h
  show SameEnd see (EStateM.bind x f first) (EStateM.bind y g second)
  unfold EStateM.bind
  generalize x first = left, y second = right at hends ⊢
  cases hends with
  | ok a hafter => exact hf a _ _ hafter
  | error reason hafter => exact .error reason hafter

theorem refuse (counter : Counter) (status : Status) :
    Alike see (Handler.refuse counter status : Handler R α)
      (Handler.refuse counter status) := by
  intro first second h
  refine .error .returned ?_
  simp only [seen, Reactor.mk.injEq] at h
  simp [seen, Reactor.refused, Reactor.increment, Reactor.finish, h]

theorem succeed : Alike see Handler.succeed Handler.succeed := by
  intro first second h
  refine .ok () ?_
  simp only [seen, Reactor.mk.injEq] at h
  simp [seen, Reactor.finish, h]

/-- Two changes of the response, as long as the changed responses look the same. -/
theorem respond {f g : R → R} (hfg : ∀ r r', see r = see r' → see (f r) = see (g r')) :
    Alike see (Handler.respond f) (Handler.respond g) := by
  intro first second h
  refine .ok () ?_
  simp only [seen, Reactor.mk.injEq] at h
  obtain ⟨hname, hresponse, hfinished, hincremented, hsuccess⟩ := h
  simp [seen, hname, hfg _ _ hresponse, hfinished, hincremented, hsuccess]

/-- One change of the response, as long as it changes in the same way what is seen. -/
theorem respond_of_commute {see : R → R} {f : R → R} (hf : ∀ r, see (f r) = f (see r)) :
    Alike see (Handler.respond f) (Handler.respond f) := by
  refine respond fun r r' h => ?_
  rw [hf, hf, h]

/-- A change that is not seen can be left out on either side. -/
theorem unseen_left {f : R → R} (hf : ∀ r, see (f r) = see r) {x : Unit → Handler R α}
    {y : Handler R α} (h : Alike see (x ()) y) : Alike see (Handler.respond f >>= x) y := by
  intro first second hsame
  refine h { first with response := f first.response } second ?_
  rw [← hsame]
  simp [seen, hf]

theorem unseen_right {f : R → R} (hf : ∀ r, see (f r) = see r) {x : Handler R α}
    {y : Unit → Handler R α} (h : Alike see x (y ())) :
    Alike see x (Handler.respond f >>= y) := by
  intro first second hsame
  refine h first { second with response := f second.response } ?_
  rw [hsame]
  simp [seen, hf]

theorem tryCatch {x y : Handler R α}
    {onInvalidArgument onException onInvalidArgument' onException' : String → Handler R α}
    (hxy : Alike see x y)
    (hfirst : ∀ what, Alike see (onInvalidArgument what) (onInvalidArgument' what))
    (hsecond : ∀ what, Alike see (onException what) (onException' what)) :
    Alike see (Handler.tryCatch x onInvalidArgument onException)
      (Handler.tryCatch y onInvalidArgument' onException') := by
  intro first second h
  have hends := hxy first second h
  unfold Handler.tryCatch
  generalize x first = left, y second = right at hends ⊢
  cases hends with
  | ok a hafter => exact .ok a hafter
  | error reason hafter =>
      cases reason with
      | returned => exact .error .returned hafter
      | fault fault =>
          cases fault with
          | invalidArgument what => exact hfirst what _ _ hafter
          | runtimeError what => exact hsecond what _ _ hafter
          | outOfRange what => exact hsecond what _ _ hafter
          | terminate => exact .error (.fault .terminate) hafter
          | undefinedBehavior => exact .error (.fault .undefinedBehavior) hafter

/-- The reactors that the constructors leave look the same. -/
theorem run {x y : Handler R Unit} (hxy : Alike see x y) (reactor : Reactor R) :
    Except.map (seen see) (Handler.run x reactor) =
      Except.map (seen see) (Handler.run y reactor) := by
  have hends := hxy reactor reactor rfl
  unfold Handler.run
  generalize x reactor = left, y reactor = right at hends ⊢
  cases hends with
  | ok a hafter => exact congrArg Except.ok hafter
  | error reason hafter =>
      cases reason with
      | returned => exact congrArg Except.ok hafter
      | fault fault => rfl

end Alike

end Handler

end Grpc
end ULocalMagnitude
