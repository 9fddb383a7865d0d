import Mathlib.Data.List.Dedup
import Mathlib.Data.Finset.Card
import Mathlib.Logic.Function.Basic

/-!
# First-wins tables

A table from keys to values that is filled by calls.  The first value for a key stays,
unless a call says that it may replace it.  A call answers whether the table has its
value now; the table is determined, key by key, by the last call with that answer.
-/

namespace ULocalMagnitude
namespace FirstWins

variable {κ V : Type} [DecidableEq κ]

/-- A call: a value for a key, and whether it may replace another one. -/
structure Call (κ V : Type) where
  key : κ
  value : V
  overwrite : Bool

/-- What is stored under each key. -/
abbrev Table (κ V : Type) := κ → Option V

/-- The call is refused only when the key is taken and must not be replaced. -/
def accepts (table : Table κ V) (call : Call κ V) : Bool :=
  !(table call.key).isSome || call.overwrite

def put (table : Table κ V) (call : Call κ V) : Table κ V :=
  if accepts table call then Function.update table call.key (some call.value) else table

/-- The table after calls. -/
def run (table : Table κ V) (calls : List (Call κ V)) : Table κ V := calls.foldl put table

/-- The answers to calls. -/
def answers (table : Table κ V) : List (Call κ V) → List Bool
  | [] => []
  | call :: rest => accepts table call :: answers (put table call) rest

/-- The value of the last accepted call for a key. -/
def lastAccepted (key : κ) (answered : List (Call κ V × Bool)) : Option V :=
  ((answered.filter fun entry => entry.1.key = key ∧ entry.2 = true).getLast?).map
    fun entry => entry.1.value

omit [DecidableEq κ] in
theorem accepts_eq_false_iff {table : Table κ V} {call : Call κ V} :
    accepts table call = false ↔ (table call.key).isSome = true ∧ call.overwrite = false := by
  unfold accepts
  rw [Bool.or_eq_false_iff, Bool.not_eq_false']

theorem put_of_accepts {table : Table κ V} {call : Call κ V} (h : accepts table call = true) :
    put table call = Function.update table call.key (some call.value) := if_pos h

theorem put_of_refused {table : Table κ V} {call : Call κ V} (h : accepts table call = false) :
    put table call = table := if_neg (by rw [h]; exact Bool.false_ne_true)

/-- Other keys keep what they have. -/
theorem put_of_ne {table : Table κ V} {call : Call κ V} {key : κ} (h : call.key ≠ key) :
    put table call key = table key := by
  cases haccepts : accepts table call with
  | false => rw [put_of_refused haccepts]
  | true => rw [put_of_accepts haccepts, Function.update_of_ne h.symm]

theorem put_self_of_accepts {table : Table κ V} {call : Call κ V}
    (h : accepts table call = true) : put table call call.key = some call.value := by
  rw [put_of_accepts h, Function.update_self]

/-- After the call its key is taken, whether or not it was before. -/
theorem isSome_put (table : Table κ V) (call : Call κ V) :
    (put table call call.key).isSome = true := by
  cases haccepts : accepts table call with
  | false =>
      rw [put_of_refused haccepts]
      exact (accepts_eq_false_iff.mp haccepts).1
  | true =>
      rw [put_self_of_accepts haccepts]
      rfl

theorem lastAccepted_cons_of_not {key : κ} {call : Call κ V} {answer : Bool}
    (h : ¬ (call.key = key ∧ answer = true)) (rest : List (Call κ V × Bool)) :
    lastAccepted key ((call, answer) :: rest) = lastAccepted key rest := by
  unfold lastAccepted
  rw [List.filter_cons_of_neg (by simpa using h)]

theorem lastAccepted_cons_self (call : Call κ V) (rest : List (Call κ V × Bool)) :
    lastAccepted call.key ((call, true) :: rest) =
      (lastAccepted call.key rest).or (some call.value) := by
  unfold lastAccepted
  rw [List.filter_cons_of_pos (by simp), List.getLast?_cons]
  cases (rest.filter fun entry => entry.1.key = call.key ∧ entry.2 = true).getLast? with
  | none => rfl
  | some last => rfl

/-- The value of a key comes from the last accepted call for it, if there is one. -/
theorem run_eq (table : Table κ V) (calls : List (Call κ V)) (key : κ) :
    run table calls key =
      (lastAccepted key (calls.zip (answers table calls))).or (table key) := by
  induction calls generalizing table with
  | nil => rfl
  | cons call rest ih =>
      have hrest : run table (call :: rest) key =
          (lastAccepted key (rest.zip (answers (put table call) rest))).or
            (put table call key) := ih (put table call)
      rw [hrest]
      show _ = (lastAccepted key ((call, accepts table call) ::
        rest.zip (answers (put table call) rest))).or _
      by_cases hkey : call.key = key
      · subst hkey
        cases haccepts : accepts table call with
        -- A refused call leaves the table and is no answer.
        | false =>
            rw [lastAccepted_cons_of_not (by simp), put_of_refused haccepts]
        | true =>
            -- The call is the last one for its key so far.
            rw [lastAccepted_cons_self, put_self_of_accepts haccepts, Option.or_assoc]
            rfl
      · rw [lastAccepted_cons_of_not (fun h => hkey h.1), put_of_ne hkey]

/-- The keys that are taken after calls. -/
theorem isSome_run_iff (table : Table κ V) (calls : List (Call κ V)) (key : κ) :
    (run table calls key).isSome = true ↔
      (table key).isSome = true ∨ key ∈ calls.map Call.key := by
  induction calls generalizing table with
  | nil => simp [run]
  | cons call rest ih =>
      have hrest : (run table (call :: rest) key).isSome = true ↔
          (put table call key).isSome = true ∨ key ∈ rest.map Call.key := ih (put table call)
      rw [hrest, List.map_cons, List.mem_cons]
      by_cases hkey : call.key = key
      · subst hkey
        simp [isSome_put]
      · rw [put_of_ne hkey]
        have hother : ¬ key = call.key := fun h => hkey h.symm
        simp [hother]

/-- As many keys as there are different ones in the calls. -/
theorem length_eq_dedup {calls : List (Call κ V)} {keys : List κ} (hnodup : keys.Nodup)
    (h : ∀ key, key ∈ keys ↔ (run (fun _ => none) calls key).isSome = true) :
    keys.length = (calls.map Call.key).dedup.length := by
  rw [← List.toFinset_card_of_nodup hnodup, ← List.card_toFinset]
  congr 1
  ext key
  rw [List.mem_toFinset, List.mem_toFinset, h, isSome_run_iff]
  simp

end FirstWins
end ULocalMagnitude
