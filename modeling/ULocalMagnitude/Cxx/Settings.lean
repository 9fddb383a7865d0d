import ULocalMagnitude.Cxx.Objects
import Mathlib.Data.List.Induction

/-!
# Settings

Objects that are used through their setters, some of which throw, and what their getters
return in the end.  `Setters` says of the setters of a class which calls are accepted and what
those store; whether a call is accepted does not depend on the object.

`Setters.get_after` is the rule for runs: a getter returns what the last accepted call of its
setter has given.
-/

namespace ULocalMagnitude
namespace Cxx

variable {σ ι γ : Type}

/-- The object after some calls, those that throw included. -/
def after (method : ι → Method σ Unit) (calls : List ι) (s : σ) : σ :=
  calls.foldl (fun t call => (method call).state t) s

theorem after_append (method : ι → Method σ Unit) (first second : List ι) (s : σ) :
    after method (first ++ second) s = after method second (after method first s) :=
  List.foldl_append

/-- A setter that makes its checks first. -/
theorem Method.state_checked (check : Throws Unit) (store : σ → σ) (s : σ) :
    (liftM check >>= fun _ => modify store : Method σ Unit).state s =
      if check = .ok () then store s else s := by
  cases check with
  | ok passed => rfl
  | error fault => rfl

/-- The setters of a class: which calls are accepted, and what those store. -/
structure Setters (method : ι → Method σ Unit) where
  accepts : ι → Bool
  store : ι → σ → σ
  state_eq : ∀ call s, (method call).state s = if accepts call then store call s else s

namespace Setters

variable {method : ι → Method σ Unit} (setters : Setters method)

/-- What the last accepted call has given, of what `given` tells of a call. -/
def lastGiven (given : ι → Option γ) (calls : List ι) : Option γ :=
  ((calls.filter setters.accepts).filterMap given).getLast?

theorem lastGiven_concat (given : ι → Option γ) (calls : List ι) (call : ι) :
    setters.lastGiven given (calls ++ [call]) =
      if setters.accepts call then (given call).or (setters.lastGiven given calls)
      else setters.lastGiven given calls := by
  unfold lastGiven
  rw [List.filter_append, List.filterMap_append]
  cases haccepts : setters.accepts call with
  | false =>
      rw [List.filter_cons_of_neg (by simp [haccepts]), List.filter_nil, List.filterMap_nil,
        List.append_nil]
      rfl
  | true =>
      rw [List.filter_cons_of_pos haccepts, List.filter_nil]
      cases hgiven : given call with
      | none =>
          rw [List.filterMap_cons_none hgiven, List.filterMap_nil, List.append_nil]
          rfl
      | some value =>
          rw [List.filterMap_cons_some hgiven, List.filterMap_nil, List.getLast?_concat]
          rfl

/-- What was given last was given by an accepted call. -/
theorem exists_of_lastGiven {given : ι → Option γ} {calls : List ι} {value : γ}
    (h : setters.lastGiven given calls = some value) :
    ∃ call ∈ calls, setters.accepts call = true ∧ given call = some value := by
  obtain ⟨call, hcall, hgiven⟩ := List.mem_filterMap.mp (List.mem_of_getLast? h)
  obtain ⟨hmem, haccepts⟩ := List.mem_filter.mp hcall
  exact ⟨call, hmem, haccepts, hgiven⟩

/-- A getter that returns what an accepted call has given, and that calls which give nothing
for it leave alone, returns what the last one has given. -/
theorem get_after {given : ι → Option γ} {get : σ → γ}
    (hget : ∀ call s, get (setters.store call s) = (given call).getD (get s))
    (calls : List ι) (s : σ) :
    get (after method calls s) = (setters.lastGiven given calls).getD (get s) := by
  induction calls using List.reverseRecOn with
  | nil => rfl
  | append_singleton calls call ih =>
      rw [after_append, setters.lastGiven_concat]
      show get ((method call).state (after method calls s)) = _
      rw [setters.state_eq]
      cases setters.accepts call with
      | false => exact ih
      | true =>
          rw [if_pos rfl, if_pos rfl, hget, ih]
          cases given call with
          | none => rfl
          | some value => rfl

/-- A getter that throws before something is given. -/
theorem throwing_get_after {given : ι → Option γ} {get : σ → Throws γ} {fault : Fault}
    (hget : ∀ call s, get (setters.store call s) =
      match given call with
      | some value => .ok value
      | none => get s)
    (calls : List ι) {s : σ} (hs : get s = .error fault) :
    get (after method calls s) = require (setters.lastGiven given calls) fault := by
  have hstores : ∀ call t, get (setters.store call t) =
      ((given call).map Except.ok).getD (get t) := by
    intro call t
    rw [hget]
    cases given call with
    | none => rfl
    | some value => rfl
  have hlast : setters.lastGiven (fun call => (given call).map (Except.ok : γ → Throws γ)) calls =
      (setters.lastGiven given calls).map Except.ok := by
    unfold lastGiven
    rw [← List.getLast?_map, List.map_filterMap]
  rw [setters.get_after hstores, hlast, hs]
  cases setters.lastGiven given calls with
  | none => rfl
  | some value => rfl

end Setters

end Cxx
end ULocalMagnitude
