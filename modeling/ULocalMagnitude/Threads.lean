import Mathlib.Logic.Relation

/-!
# Threads

A thread executes the statements of a block one after another.  A statement changes the
memory and may put further statements in front of the block: a branch, a turn of a loop,
the body of a function.  It may also leave the block by an exception, or it blocks until
an interrupt has changed the memory.  The `rest` follows the block on either way out.

`Reaches.keeps` is the rule for invariants.  `blocked_forever` is the one for a thread
that waits for something which no interrupt does.
-/

namespace ULocalMagnitude
namespace Threads

variable {ι σ : Type}

/-- How the execution of a statement ends. -/
inductive Outcome (ι σ : Type) where
  | continues (memory : σ) (inner : List ι)
  | throws (memory : σ)

/-- What statements do, and what happens to the memory in between.  A statement without
an outcome blocks. -/
structure Language (ι σ : Type) where
  execute : ι → σ → Option (Outcome ι σ)
  interrupts : σ → List σ

/-- A thread in the middle of its work. -/
structure Thread (ι σ : Type) where
  memory : σ
  block : List ι
  rest : List ι

/-- The thread after a statement that was followed by this block. -/
def Outcome.resume (block rest : List ι) : Outcome ι σ → Thread ι σ
  | .continues memory inner => ⟨memory, inner ++ block, rest⟩
  | .throws memory => ⟨memory, [], rest⟩

/-- One step of a thread. -/
inductive Step (L : Language ι σ) : Thread ι σ → Thread ι σ → Prop where
  | executes {m : σ} {i : ι} {block rest : List ι} {outcome : Outcome ι σ}
      (h : L.execute i m = some outcome) :
      Step L ⟨m, i :: block, rest⟩ (outcome.resume block rest)
  | leaves {m : σ} {i : ι} {rest : List ι} : Step L ⟨m, [], i :: rest⟩ ⟨m, i :: rest, []⟩
  | interrupted {m m' : σ} {block rest : List ι} (h : m' ∈ L.interrupts m) :
      Step L ⟨m, block, rest⟩ ⟨m', block, rest⟩

/-- Any number of steps. -/
def Reaches (L : Language ι σ) : Thread ι σ → Thread ι σ → Prop :=
  Relation.ReflTransGen (Step L)

variable {L : Language ι σ} {s t u : Thread ι σ}

namespace Reaches

theorem refl : Reaches L s s := Relation.ReflTransGen.refl

theorem trans (hst : Reaches L s t) (htu : Reaches L t u) : Reaches L s u :=
  Relation.ReflTransGen.trans hst htu

theorem step (h : Step L s t) : Reaches L s t := Relation.ReflTransGen.single h

/-- What every step keeps holds all along. -/
theorem keeps {P : Thread ι σ → Prop} (hstep : ∀ {s t}, P s → Step L s t → P t)
    (h : Reaches L s t) (hs : P s) : P t := by
  induction h with
  | refl => exact hs
  | tail _ hlast ih => exact hstep ih hlast

/-- The statement at the front runs, then what it has put there. -/
theorem execute {m m' : σ} {i : ι} {inner block rest : List ι}
    (h : L.execute i m = some (.continues m' inner))
    (hrest : Reaches L ⟨m', inner ++ block, rest⟩ t) :
    Reaches L ⟨m, i :: block, rest⟩ t :=
  (step (.executes h)).trans hrest

end Reaches

/-- What a thread does while there is a statement at the front. -/
theorem step_of_block_eq_cons {i : ι} {block : List ι} (hblock : s.block = i :: block)
    (h : Step L s t) :
    (∃ outcome, L.execute i s.memory = some outcome ∧ t = outcome.resume block s.rest) ∨
      ∃ m ∈ L.interrupts s.memory, t = { s with memory := m } := by
  cases h with
  | executes hexecute =>
      obtain ⟨rfl, rfl⟩ := List.cons.inj hblock
      exact Or.inl ⟨_, hexecute, rfl⟩
  | leaves => cases hblock
  | interrupted hinterrupt => exact Or.inr ⟨_, hinterrupt, rfl⟩

/-- A thread at a statement that blocks stays there, when interrupts keep it blocking. -/
theorem blocked_forever {i : ι} {Closed : σ → Prop}
    (hblocks : ∀ m, Closed m → L.execute i m = none)
    (hkeeps : ∀ m m', Closed m → m' ∈ L.interrupts m → Closed m')
    {m : σ} {block rest : List ι} (hclosed : Closed m)
    (h : Reaches L ⟨m, i :: block, rest⟩ t) :
    Closed t.memory ∧ t.block = i :: block ∧ t.rest = rest := by
  refine h.keeps (P := fun t => Closed t.memory ∧ t.block = i :: block ∧ t.rest = rest) ?_
    ⟨hclosed, rfl, rfl⟩
  intro s t hs hstep
  rcases hs with ⟨hmemory, hblock, hrest⟩
  rcases step_of_block_eq_cons hblock hstep with ⟨outcome, hexecute, -⟩ | ⟨m', hinterrupt, rfl⟩
  · rw [hblocks _ hmemory] at hexecute
    cases hexecute
  · exact ⟨hkeeps _ _ hmemory hinterrupt, hblock, hrest⟩

end Threads
end ULocalMagnitude
