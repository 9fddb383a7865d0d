import Mathlib.Algebra.BigOperators.Group.List.Basic
import Mathlib.Logic.Relation
import Mathlib.Tactic.Abel

/-!
# Interleavings

Jobs run next to each other and share a state.  A job has a script of actions from its
start on; it performs them in this order, one at a time, and every action changes the
shared state at once.  Jobs can start at any time, and they take turns in any order.

`Reaches.measure_eq` is the rule for counting: a measure of the shared state to which
every action adds a weight is, at every time, the sum of the weights of the actions that
have been performed, whatever the order was.
-/

namespace ULocalMagnitude
namespace Interleaving

variable {κ α σ : Type}

/-- Scripts, actions, and the shared states in which the jobs go on. -/
structure System (κ α σ : Type) where
  script : κ → List α
  act : α → σ → σ
  IsRunning : σ → Prop

/-- A job in the middle of its script. -/
structure Job (κ α : Type) where
  key : κ
  performed : List α
  pending : List α

/-- The jobs that have been started, with their shared state. -/
structure Pool (κ α σ : Type) where
  shared : σ
  jobs : List (Job κ α)

/-- A job for this key performs its next action. -/
inductive Move (S : System κ α σ) (key : κ) : Pool κ α σ → Pool κ α σ → Prop where
  | perform {shared : σ} {before after : List (Job κ α)} {performed pending : List α} {a : α}
      (hrunning : S.IsRunning shared) :
      Move S key ⟨shared, before ++ ⟨key, performed, a :: pending⟩ :: after⟩
        ⟨S.act a shared, before ++ ⟨key, performed ++ [a], pending⟩ :: after⟩

/-- A job is started for one of the keys that are sent, or one of the jobs moves. -/
inductive Step (S : System κ α σ) (sent : κ → Prop) : Pool κ α σ → Pool κ α σ → Prop where
  | start {shared : σ} {jobs : List (Job κ α)} {key : κ} (hsent : sent key)
      (hrunning : S.IsRunning shared) :
      Step S sent ⟨shared, jobs⟩ ⟨shared, jobs ++ [⟨key, [], S.script key⟩]⟩
  | move {p q : Pool κ α σ} {key : κ} (h : Move S key p q) : Step S sent p q

/-- Any number of steps. -/
def Reaches (S : System κ α σ) (sent : κ → Prop) : Pool κ α σ → Pool κ α σ → Prop :=
  Relation.ReflTransGen (Step S sent)

/-- Nothing is in flight. -/
def Pool.IsIdle (p : Pool κ α σ) : Prop := ∀ job ∈ p.jobs, job.pending = []

variable {S : System κ α σ} {sent : κ → Prop} {p q : Pool κ α σ} {initial : σ}

/-- A job for a key that is sent, with the script of the key. -/
def Job.IsOf (S : System κ α σ) (sent : κ → Prop) (job : Job κ α) : Prop :=
  sent job.key ∧ job.performed ++ job.pending = S.script job.key

/-- A move does an action of the script to the shared state. -/
theorem Move.exists_act {key : κ} (hp : ∀ job ∈ p.jobs, job.IsOf S sent) (h : Move S key p q) :
    sent key ∧ ∃ a ∈ S.script key, q.shared = S.act a p.shared := by
  cases h with
  | @perform shared before after performed pending a hrunning =>
      obtain ⟨hsent, hscript⟩ := hp ⟨key, performed, a :: pending⟩ (by simp)
      refine ⟨hsent, a, ?_, rfl⟩
      rw [← hscript]
      simp

namespace Step

/-- No action of a script is lost or done twice. -/
theorem isOf (hp : ∀ job ∈ p.jobs, job.IsOf S sent) (h : Step S sent p q) :
    ∀ job ∈ q.jobs, job.IsOf S sent := by
  cases h with
  | start hsent hrunning =>
      intro job hjob
      rcases List.mem_append.mp hjob with hjob | hjob
      · exact hp job hjob
      · obtain rfl := List.mem_singleton.mp hjob
        exact ⟨hsent, List.nil_append _⟩
  | move h =>
      cases h with
      | @perform shared before after performed pending a hrunning =>
          intro job hjob
          simp only [List.mem_append, List.mem_cons] at hp hjob
          rcases hjob with hjob | rfl | hjob
          · exact hp job (Or.inl hjob)
          · -- The action goes from the pending ones to the performed ones.
            obtain ⟨hsent, hscript⟩ := hp _ (Or.inr (Or.inl rfl))
            refine ⟨hsent, ?_⟩
            rw [List.append_assoc, List.singleton_append]
            exact hscript
          · exact hp job (Or.inr (Or.inr hjob))

end Step

section Measure

variable {M : Type} [AddCommMonoid M] {m : σ → M} {w : α → M}

/-- The weights of what the jobs have performed. -/
def Pool.performedWeight (weight : α → M) (p : Pool κ α σ) : M :=
  (p.jobs.map fun job => (job.performed.map weight).sum).sum

/-- What a job performs is added to both sides. -/
theorem Step.measure_eq (hact : ∀ a shared, m (S.act a shared) = m shared + w a)
    {base : M} (hp : m p.shared = base + p.performedWeight w)
    (h : Step S sent p q) : m q.shared = base + q.performedWeight w := by
  cases h with
  | start hsent hrunning => simpa [Pool.performedWeight] using hp
  | move h =>
      cases h with
      | @perform shared before after performed pending a hrunning =>
          have hp' : m shared = base +
              ((before.map fun job => (job.performed.map w).sum).sum +
                ((performed.map w).sum +
                  (after.map fun job => (job.performed.map w).sum).sum)) := by
            simpa [Pool.performedWeight] using hp
          -- The weights of the other jobs are on both sides.
          show m (S.act a shared) = _
          rw [hact, hp']
          simp only [Pool.performedWeight, List.map_append, List.map_cons, List.map_nil,
            List.sum_append, List.sum_cons, List.sum_nil]
          abel

end Measure

namespace Reaches

/-- What every step keeps holds all along. -/
theorem keeps {P : Pool κ α σ → Prop} (hstep : ∀ {p q}, P p → Step S sent p q → P q)
    (h : Reaches S sent p q) (hp : P p) : P q := by
  induction h with
  | refl => exact hp
  | tail _ hlast ih => exact hstep ih hlast

theorem isOf (h : Reaches S sent ⟨initial, []⟩ p) : ∀ job ∈ p.jobs, job.IsOf S sent :=
  h.keeps Step.isOf fun _ hjob => absurd hjob List.not_mem_nil

/-- What the actions of all scripts keep is true of the shared state. -/
theorem shared_keeps {P : σ → Prop}
    (hact : ∀ key, sent key → ∀ a ∈ S.script key, ∀ shared, P shared → P (S.act a shared))
    (h : Reaches S sent ⟨initial, []⟩ p) (hinitial : P initial) : P p.shared := by
  -- That the jobs are at their scripts is needed for the step, so both are kept at once.
  refine (h.keeps (P := fun p => P p.shared ∧ ∀ job ∈ p.jobs, job.IsOf S sent) ?_
    ⟨hinitial, fun _ hjob => absurd hjob List.not_mem_nil⟩).1
  intro p q hp hstep
  refine ⟨?_, hstep.isOf hp.2⟩
  cases hstep with
  | start hsent hrunning => exact hp.1
  | move hmove =>
      obtain ⟨hsent, a, ha, hshared⟩ := hmove.exists_act hp.2
      rw [hshared]
      exact hact _ hsent a ha _ hp.1

/-- A key that is sent and whose script has one action can be started and be done with. -/
theorem of_script_singleton {key : κ} {a : α} (hsent : sent key) (hscript : S.script key = [a])
    (hrunning : S.IsRunning initial) :
    Reaches S sent ⟨initial, []⟩ ⟨S.act a initial, [⟨key, [a], []⟩]⟩ := by
  have hstart : Step S sent ⟨initial, []⟩ ⟨initial, [⟨key, [], [a]⟩]⟩ := by
    rw [← hscript]
    exact .start hsent hrunning
  have hmove : Move S key ⟨initial, [] ++ ⟨key, [], [a]⟩ :: []⟩
      ⟨S.act a initial, [] ++ ⟨key, [] ++ [a], []⟩ :: []⟩ := .perform hrunning
  exact (Relation.ReflTransGen.single hstart).tail (.move hmove)

section Measure

variable {M : Type} [AddCommMonoid M] {m : σ → M} {w : α → M}
  (hact : ∀ a shared, m (S.act a shared) = m shared + w a)

include hact

/-- Every action counts once, when it is performed. -/
theorem measure_eq (h : Reaches S sent ⟨initial, []⟩ p) :
    m p.shared = m initial + p.performedWeight w := by
  refine h.keeps (P := fun p => m p.shared = m initial + p.performedWeight w)
    (Step.measure_eq hact) ?_
  show m initial = m initial + 0
  rw [add_zero]

end Measure

end Reaches

/-- A measure to which the actions of a key add nothing is left alone by its jobs. -/
theorem Move.measure_eq {M : Type} [AddCommMonoid M] {m : σ → M} {w : α → M}
    (hact : ∀ a shared, m (S.act a shared) = m shared + w a) {key : κ}
    (hown : ∀ a ∈ S.script key, w a = 0) (hp : ∀ job ∈ p.jobs, job.IsOf S sent)
    (h : Move S key p q) : m q.shared = m p.shared := by
  obtain ⟨-, a, ha, hshared⟩ := h.exists_act hp
  rw [hshared, hact, hown a ha, add_zero]

end Interleaving
end ULocalMagnitude
