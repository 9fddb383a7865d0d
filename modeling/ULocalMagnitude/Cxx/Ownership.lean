import ULocalMagnitude.Cxx.Moves
import Mathlib.Logic.Function.Basic

/-!
# Objects behind unique pointers

The special member functions of a class that keeps its data in an implementation object on the
heap, and what programs do with such objects on the level of addresses.  A step is undefined
when it reads or deletes through a pointer that is null or dangling, and it may run out of
memory where it makes an implementation object.

Above it objects are values: `Values` has for each object its data, or nothing when it was
moved from.  `Memory.Owned` is the invariant: the pointers of objects are to live cells, no two
of them to one cell, and no cell is without an owner.  A temporary `std::unique_ptr` is the
`loose` pointer of the invariant.

* `step_refines` — a step on the memory is a step on the values, unless memory runs out and
  nothing happens;
* `run_refines` — the same of whole programs, whatever the allocator does;
* `run_eq_none_iff` — programs are undefined where they are on the level of values.

Parts of an implementation object that have memory of their own are data of it here.  A method
has all the memory that it wants for them, and so has a constructor that refuses its arguments.
-/

namespace ULocalMagnitude
namespace Cxx
namespace Ownership

variable {σ κ ι Name Addr : Type}

/-- Classes: what their constructors `κ` make of their arguments, and their methods `ι`, with
what these throw because of their arguments, before they look at their object.  An object may
have no such method.  Both may be given other objects. -/
structure PointerClass (σ κ ι : Type) where
  constructed : κ → Throws σ
  refuses : ι → Option Fault
  method : ι → σ → Option (EStateM.Result Fault σ Unit)
  constructorTakes : κ → List σ
  methodTakes : ι → List σ

/-- A statement on objects.  What is read of the arguments selects the constructor or the call,
and there may be none for arguments of other types. -/
inductive Statement (σ κ ι Name : Type) where
  | construct (object : Name) (arguments : List Name) (select : List σ → Option κ)
  | copyConstruct (object other : Name)
  | moveConstruct (object other : Name)
  | copyAssign (object other : Name)
  | moveAssign (object other : Name)
  | call (object : Name) (arguments : List Name) (select : List σ → Option ι)
  | destroy (object : Name)

/-- A statement that makes an implementation object.  Nothing is left of a constructor or a copy
that runs out of memory, wherever it does. -/
def Statement.Allocates : Statement σ κ ι Name → Prop
  | .construct _ _ _ => True
  | .copyConstruct _ _ => True
  | .copyAssign _ _ => True
  | .moveConstruct _ _ => False
  | .moveAssign _ _ => False
  | .call _ _ _ => False
  | .destroy _ => False

/-- How a statement ends. -/
inductive Ending where
  | returned
  | thrown (fault : Fault)
  | outOfMemory
deriving DecidableEq

/-- How a function ends that is left by a fault: it throws an exception, or its behavior is
undefined, or it takes the process down. -/
def Ending.ofFault : Fault → Option Ending
  | .terminate => none
  | .undefinedBehavior => none
  | fault => some (.thrown fault)

/-- The cells of the heap that are in use. -/
abbrev Heap (Addr σ : Type) := Addr → Option σ

/-- `operator new`, which gives the address of a free cell or throws. -/
structure Allocator (Addr σ : Type) where
  address : Heap Addr σ → Option Addr
  free : ∀ heap a, address heap = some a → heap a = none

/-- The objects in scope with their pointers, and the heap. -/
structure Memory (Name Addr σ : Type) where
  pImpl : Name → Option (Option Addr)
  heap : Heap Addr σ

/-- The objects in scope with their data. -/
abbrev Values (Name σ : Type) := Name → Option (Movable σ)

/-! ## On the level of addresses -/

section Memory

variable [DecidableEq Name] [DecidableEq Addr]

/-- `delete` on what a unique pointer owned. -/
def delete (pointer : Option Addr) (heap : Heap Addr σ) : Option (Heap Addr σ) :=
  match pointer with
  | none => some heap
  | some address =>
      if (heap address).isSome then some (Function.update heap address none) else none

namespace Memory

/-- `*object.pImpl` -/
def read (memory : Memory Name Addr σ) (object : Name) : Option σ := do
  let pointer ← memory.pImpl object
  let address ← pointer
  memory.heap address

/-- `*object.pImpl = value` -/
def write (object : Name) (value : σ) (memory : Memory Name Addr σ) :
    Option (Memory Name Addr σ) := do
  let pointer ← memory.pImpl object
  let address ← pointer
  return { memory with heap := Function.update memory.heap address (some value) }

/-- An object that comes into scope with a null pointer. -/
def declare (object : Name) (memory : Memory Name Addr σ) : Memory Name Addr σ :=
  { memory with pImpl := Function.update memory.pImpl object (some none) }

/-- `std::make_unique<Impl> (value)` -/
def makeUnique (allocator : Allocator Addr σ) (value : σ) (memory : Memory Name Addr σ) :
    Option (Addr × Memory Name Addr σ) :=
  (allocator.address memory.heap).map fun address =>
    (address, { memory with heap := Function.update memory.heap address (some value) })

/-- `object.pImpl = std::move(pointer)`: what the object has owned is deleted. -/
def assign (object : Name) (pointer : Option Addr) (memory : Memory Name Addr σ) :
    Option (Memory Name Addr σ) := do
  let owned ← memory.pImpl object
  let heap ← delete owned memory.heap
  return { pImpl := Function.update memory.pImpl object (some pointer), heap }

/-- Constructor -/
def construct (allocator : Allocator Addr σ) (object : Name) (value : σ)
    (memory : Memory Name Addr σ) : Option (Ending × Memory Name Addr σ) :=
  match (memory.declare object).makeUnique allocator value with
  | none => return (.outOfMemory, memory)
  | some (address, after) => return (.returned, ← after.assign object (some address))

/-- Copy assignment -/
def copyAssign (allocator : Allocator Addr σ) (object other : Name)
    (memory : Memory Name Addr σ) : Option (Ending × Memory Name Addr σ) := do
  let _ ← memory.pImpl object
  if other = object then return (.returned, memory)
  let value ← memory.read other
  match memory.makeUnique allocator value with
  | none => return (.outOfMemory, memory)
  | some (address, after) => return (.returned, ← after.assign object address)

/-- Move assignment -/
def moveAssign (object other : Name) (memory : Memory Name Addr σ) :
    Option (Ending × Memory Name Addr σ) := do
  let _ ← memory.pImpl object
  if other = object then return (.returned, memory)
  let pointer ← memory.pImpl other
  return (.returned, ← (memory.declare other).assign object pointer)

/-- Destructor -/
def destroy (object : Name) (memory : Memory Name Addr σ) :
    Option (Ending × Memory Name Addr σ) := do
  let after ← memory.assign object none
  return (.returned, { after with pImpl := Function.update after.pImpl object none })

/-- A method call; what is changed before an exception stays changed. -/
def call (pointerClass : PointerClass σ κ ι) (object : Name) (arguments : List Name)
    (select : List σ → Option ι) (memory : Memory Name Addr σ) :
    Option (Ending × Memory Name Addr σ) := do
  let _ ← memory.pImpl object
  let others ← arguments.mapM memory.read
  let selected ← select others
  match pointerClass.refuses selected with
  -- The object is not looked at, and may have been moved from.
  | some fault => return (← Ending.ofFault fault, memory)
  | none =>
      let value ← memory.read object
      match ← pointerClass.method selected value with
      | .ok () after => return (.returned, ← memory.write object after)
      | .error fault after => return (← Ending.ofFault fault, ← memory.write object after)

end Memory

/-- One statement; `none` when it is undefined or takes the process down. -/
def step (pointerClass : PointerClass σ κ ι) (allocator : Allocator Addr σ) :
    Statement σ κ ι Name → Memory Name Addr σ → Option (Ending × Memory Name Addr σ)
  | .construct object arguments select, memory =>
      if (memory.pImpl object).isSome then none
      else do
        let others ← arguments.mapM memory.read
        match pointerClass.constructed (← select others) with
        | .error fault => return (← Ending.ofFault fault, memory)
        | .ok value => memory.construct allocator object value
  | .copyConstruct object other, memory =>
      if (memory.pImpl object).isSome then none
      else do
        match ← (memory.declare object).copyAssign allocator object other with
        | (.returned, after) => return (.returned, after)
        -- There is no object when its constructor throws.
        | (ending, _) => return (ending, memory)
  | .moveConstruct object other, memory =>
      if (memory.pImpl object).isSome then none
      else (memory.declare object).moveAssign object other
  | .copyAssign object other, memory => memory.copyAssign allocator object other
  | .moveAssign object other, memory => memory.moveAssign object other
  | .call object arguments select, memory =>
      memory.call pointerClass object arguments select
  | .destroy object, memory => memory.destroy object

end Memory

/-! ## On the level of values -/

namespace Values

variable [DecidableEq Name]

/-- The data of an object that has some. -/
def read (values : Values Name σ) (object : Name) : Option σ := (values object).join

/-- Copy assignment -/
def copyAssign (object other : Name) (values : Values Name σ) : Option (Values Name σ) := do
  let _ ← values object
  if other = object then return values
  let value ← values.read other
  return Function.update values object (some (some value))

/-- Move assignment -/
def moveAssign (object other : Name) (values : Values Name σ) : Option (Values Name σ) := do
  let _ ← values object
  if other = object then return values
  let moved ← values other
  return Function.update (Function.update values other (some none)) object (some moved)

/-- A method call -/
def call (pointerClass : PointerClass σ κ ι) (object : Name) (arguments : List Name)
    (select : List σ → Option ι) (values : Values Name σ) :
    Option (Ending × Values Name σ) := do
  let _ ← values object
  let others ← arguments.mapM values.read
  let selected ← select others
  match pointerClass.refuses selected with
  | some fault => return (← Ending.ofFault fault, values)
  | none =>
      let value ← values.read object
      match ← pointerClass.method selected value with
      | .ok () after => return (.returned, Function.update values object (some (some after)))
      | .error fault after =>
          return (← Ending.ofFault fault, Function.update values object (some (some after)))

/-- One statement with enough memory; `none` when it is undefined. -/
def step (pointerClass : PointerClass σ κ ι) :
    Statement σ κ ι Name → Values Name σ → Option (Ending × Values Name σ)
  | .construct object arguments select, values =>
      if (values object).isSome then none
      else do
        let others ← arguments.mapM values.read
        match pointerClass.constructed (← select others) with
        | .error fault => return (← Ending.ofFault fault, values)
        | .ok value => return (.returned, Function.update values object (some (some value)))
  | .copyConstruct object other, values =>
      if (values object).isSome then none
      else (copyAssign object other (Function.update values object (some none))).map (.returned, ·)
  | .moveConstruct object other, values =>
      if (values object).isSome then none
      else (moveAssign object other (Function.update values object (some none))).map (.returned, ·)
  | .copyAssign object other, values => (copyAssign object other values).map (.returned, ·)
  | .moveAssign object other, values => (moveAssign object other values).map (.returned, ·)
  | .call object arguments select, values =>
      call pointerClass object arguments select values
  | .destroy object, values =>
      (values object).map fun _ => (.returned, Function.update values object none)

end Values

/-! ## Ownership -/

namespace Memory

/-- What the objects are, seen from above. -/
def values (memory : Memory Name Addr σ) : Values Name σ :=
  fun object => (memory.pImpl object).map fun pointer => pointer.bind memory.heap

/-- Each cell has one owner, an object or the loose pointer, and nobody owns anything else. -/
structure Owned (loose : Option Addr) (memory : Memory Name Addr σ) : Prop where
  alive : ∀ {object a}, memory.pImpl object = some (some a) → (memory.heap a).isSome
  looseAlive : ∀ {a}, loose = some a → (memory.heap a).isSome
  unique : ∀ {object other a}, memory.pImpl object = some (some a) →
    memory.pImpl other = some (some a) → object = other
  looseUnique : ∀ {object a}, memory.pImpl object = some (some a) → loose ≠ some a
  owner : ∀ {a}, (memory.heap a).isSome →
    loose = some a ∨ ∃ object, memory.pImpl object = some (some a)

variable {memory : Memory Name Addr σ} {loose : Option Addr}

theorem read_eq (memory : Memory Name Addr σ) (object : Name) :
    memory.read object = memory.values.read object := by
  unfold read values Values.read
  dsimp only
  cases memory.pImpl object with
  | none => rfl
  | some pointer => rfl

section Steps

variable [DecidableEq Name] [DecidableEq Addr]

/-- What is owned can be deleted. -/
theorem delete_spec (pointer : Option Addr) (heap : Heap Addr σ)
    (h : ∀ a, pointer = some a → (heap a).isSome) :
    ∃ after, delete pointer heap = some after ∧
      ∀ a, after a = if pointer = some a then none else heap a := by
  cases pointer with
  | none => exact ⟨heap, rfl, fun a => (if_neg nofun).symm⟩
  | some b =>
      refine ⟨Function.update heap b none, if_pos (h b rfl), fun a => ?_⟩
      rw [Function.update_apply]
      exact if_congr ⟨fun hab => congrArg some hab.symm, fun hab => (Option.some.inj hab).symm⟩
        rfl rfl

omit [DecidableEq Addr] in
/-- Who has a pointer after an object got another one. -/
theorem update_pImpl_iff {pImpl : Name → Option (Option Addr)} {object other : Name}
    {pointer : Option Addr} {a : Addr} :
    Function.update pImpl object (some pointer) other = some (some a) ↔
      other = object ∧ pointer = some a ∨ other ≠ object ∧ pImpl other = some (some a) := by
  rw [Function.update_apply]
  by_cases hsame : other = object
  · rw [if_pos hsame]
    simp [hsame]
  · rw [if_neg hsame]
    simp [hsame]

omit [DecidableEq Addr] in
/-- What is seen of the objects whose cells are the same. -/
theorem values_update {pImpl : Name → Option (Option Addr)} {heap heap' : Heap Addr σ}
    {object : Name} {pointer : Option Addr}
    (hobject : ∀ a, pointer = some a → heap' a = heap a)
    (hothers : ∀ other a, other ≠ object → pImpl other = some (some a) → heap' a = heap a) :
    Memory.values { pImpl := Function.update pImpl object (some pointer), heap := heap' } =
      Function.update (Memory.values { pImpl, heap }) object (some (pointer.bind heap)) := by
  funext other
  unfold Memory.values
  dsimp only
  rw [Function.update_apply, Function.update_apply]
  split
  · cases pointer with
    | none => rfl
    | some a => exact congrArg some (hobject a rfl)
  · next hne =>
    cases hother : pImpl other with
    | none => rfl
    | some pointer =>
        cases pointer with
        | none => rfl
        | some a => exact congrArg some (hothers other a hne hother)

/-- An object takes the loose pointer over. -/
theorem Owned.assign (h : memory.Owned loose) {object : Name} {owned : Option Addr}
    (hobject : memory.pImpl object = some owned) :
    ∃ after, memory.assign object loose = some after ∧ after.Owned none ∧
      after.values = Function.update memory.values object (some (loose.bind memory.heap)) ∧
      after.pImpl = Function.update memory.pImpl object (some loose) := by
  obtain ⟨heap, hdelete, hheap⟩ := delete_spec owned memory.heap
    fun a ha => h.alive (ha ▸ hobject)
  -- Neither the loose pointer nor the one of another object is what was deleted.
  have hloose : ∀ a, loose = some a → heap a = memory.heap a := by
    intro a ha
    rw [hheap, if_neg]
    rintro rfl
    exact h.looseUnique hobject ha
  have hothers : ∀ other a, other ≠ object → memory.pImpl other = some (some a) →
      heap a = memory.heap a := by
    intro other a hne hpointer
    rw [hheap, if_neg]
    rintro rfl
    exact hne (h.unique hpointer hobject)
  refine ⟨{ pImpl := Function.update memory.pImpl object (some loose), heap }, ?_, ?_,
    values_update hloose hothers, rfl⟩
  · unfold Memory.assign
    rw [hobject]
    simp only [Option.bind_eq_bind, Option.bind_some, hdelete]
    rfl
  · refine ⟨fun hpointer => ?_, nofun, fun hfirst hsecond => ?_, nofun, fun {a} ha => ?_⟩
    · show (heap _).isSome
      rcases update_pImpl_iff.mp hpointer with ⟨-, ha⟩ | ⟨hne, hpointer⟩
      · rw [hloose _ ha]
        exact h.looseAlive ha
      · rw [hothers _ _ hne hpointer]
        exact h.alive hpointer
    · rcases update_pImpl_iff.mp hfirst with ⟨hsame, ha⟩ | ⟨-, hfirst⟩
      · rcases update_pImpl_iff.mp hsecond with ⟨hsame', -⟩ | ⟨-, hsecond⟩
        · rw [hsame, hsame']
        · exact absurd ha (h.looseUnique hsecond)
      · rcases update_pImpl_iff.mp hsecond with ⟨-, ha⟩ | ⟨-, hsecond⟩
        · exact absurd ha (h.looseUnique hfirst)
        · exact h.unique hfirst hsecond
    · dsimp only at ha
      rw [hheap] at ha
      split at ha
      · exact absurd ha nofun
      · next hne =>
        refine Or.inr ?_
        rcases h.owner ha with hpointer | ⟨other, hpointer⟩
        · exact ⟨object, update_pImpl_iff.mpr (Or.inl ⟨rfl, hpointer⟩)⟩
        · refine ⟨other, update_pImpl_iff.mpr (Or.inr ⟨?_, hpointer⟩)⟩
          rintro rfl
          exact hne (Option.some.inj (hobject.symm.trans hpointer))

omit [DecidableEq Name] in
/-- A cell that is allocated has the loose pointer as its owner. -/
theorem Owned.makeUnique (h : memory.Owned none) {allocator : Allocator Addr σ} {value : σ}
    {address : Addr} {after : Memory Name Addr σ}
    (hmake : memory.makeUnique allocator value = some (address, after)) :
    after.Owned (some address) ∧ after.values = memory.values ∧ after.pImpl = memory.pImpl ∧
      after.heap address = some value := by
  obtain ⟨a, ha, hafter⟩ := Option.map_eq_some_iff.mp hmake
  obtain ⟨rfl, rfl⟩ := Prod.mk.inj hafter
  have hfree := allocator.free _ _ ha
  have hne : ∀ {object b}, memory.pImpl object = some (some b) → b ≠ a := by
    rintro object b hpointer rfl
    have halive := h.alive hpointer
    rw [hfree] at halive
    exact absurd halive nofun
  have hsame : ∀ {b}, b ≠ a → Function.update memory.heap a (some value) b = memory.heap b :=
    fun hb => Function.update_of_ne hb _ _
  refine ⟨?_, ?_, rfl, Function.update_self ..⟩
  · constructor
    · intro object b hpointer
      dsimp only
      rw [hsame (hne hpointer)]
      exact h.alive hpointer
    · rintro b hb
      obtain rfl := Option.some.inj hb
      dsimp only
      rw [Function.update_self]
      rfl
    · exact h.unique
    · intro object b hpointer hb
      exact hne hpointer (Option.some.inj hb).symm
    · intro b hb
      by_cases hba : b = a
      · exact Or.inl (congrArg some hba.symm)
      · dsimp only at hb
        rw [hsame hba] at hb
        exact Or.inr ((h.owner hb).resolve_left nofun)
  · funext object
    unfold Memory.values
    dsimp only
    cases hpointer : memory.pImpl object with
    | none => rfl
    | some pointer =>
        cases pointer with
        | none => rfl
        | some b => exact congrArg some (hsame (hne hpointer))

omit [DecidableEq Addr] in
/-- An object that comes into scope, or gives up its pointer. -/
theorem Owned.declare (h : memory.Owned none) (object : Name) :
    (memory.declare object).Owned (memory.pImpl object).join ∧
      (memory.declare object).values = Function.update memory.values object (some none) := by
  have hold : ∀ {other a}, (memory.declare object).pImpl other = some (some a) →
      other ≠ object ∧ memory.pImpl other = some (some a) :=
    fun hother => (update_pImpl_iff.mp hother).resolve_left fun hnull => nomatch hnull.2
  refine ⟨⟨?_, ?_, ?_, ?_, ?_⟩, values_update nofun fun _ _ _ _ => rfl⟩
  · exact fun hother => h.alive (hold hother).2
  · exact fun ha => h.alive (Option.join_eq_some_iff.mp ha)
  · exact fun hfirst hsecond => h.unique (hold hfirst).2 (hold hsecond).2
  · intro other a hother ha
    exact (hold hother).1 (h.unique (hold hother).2 (Option.join_eq_some_iff.mp ha))
  · intro a ha
    obtain ⟨other, hother⟩ := (h.owner ha).resolve_left nofun
    by_cases hsame : other = object
    · subst hsame
      exact Or.inl (Option.join_eq_some_iff.mpr hother)
    · exact Or.inr ⟨other, update_pImpl_iff.mpr (Or.inr ⟨hsame, hother⟩)⟩

omit [DecidableEq Addr] in
/-- An object that owns nothing goes out of scope. -/
theorem Owned.leave (h : memory.Owned none) {object : Name}
    (hobject : memory.pImpl object = some none) :
    Owned none { memory with pImpl := Function.update memory.pImpl object none } ∧
      Memory.values { memory with pImpl := Function.update memory.pImpl object none } =
        Function.update memory.values object none := by
  have hsame : ∀ {other a}, Function.update memory.pImpl object none other = some (some a) ↔
      memory.pImpl other = some (some a) := by
    intro other a
    rw [Function.update_apply]
    split
    · next hother => rw [hother, hobject]; simp
    · rfl
  refine ⟨⟨?_, nofun, ?_, nofun, ?_⟩, ?_⟩
  · exact fun hother => h.alive (hsame.mp hother)
  · exact fun hfirst hsecond => h.unique (hsame.mp hfirst) (hsame.mp hsecond)
  · intro a ha
    obtain ⟨other, hother⟩ := (h.owner ha).resolve_left nofun
    exact Or.inr ⟨other, hsame.mpr hother⟩
  · funext other
    unfold Memory.values
    dsimp only
    rw [Function.update_apply, Function.update_apply]
    split
    · rfl
    · rfl

/-- An object with data that are written to. -/
theorem Owned.write (h : memory.Owned none) {object : Name} {old : σ}
    (hread : memory.read object = some old) (value : σ) :
    ∃ after, memory.write object value = some after ∧ after.Owned none ∧
      after.values = Function.update memory.values object (some (some value)) := by
  unfold read at hread
  cases hobject : memory.pImpl object with
  | none =>
      rw [hobject] at hread
      exact nomatch hread
  | some pointer =>
      cases pointer with
      | none =>
          rw [hobject] at hread
          exact nomatch hread
      | some a =>
          refine ⟨{ memory with heap := Function.update memory.heap a (some value) }, ?_, ?_, ?_⟩
          · unfold Memory.write
            rw [hobject]
            rfl
          · have hsame : ∀ b, (Function.update memory.heap a (some value) b).isSome =
                (memory.heap b).isSome := by
              intro b
              rw [Function.update_apply]
              split
              · next hb => rw [hb, h.alive hobject]
                           rfl
              · rfl
            refine ⟨fun hother => ?_, nofun, h.unique, nofun, fun hb => ?_⟩
            · exact (hsame _).trans (h.alive hother)
            · exact h.owner ((hsame _).symm.trans hb)
          · funext other
            unfold Memory.values
            dsimp only
            rw [Function.update_apply]
            split
            · next hother =>
              rw [hother, hobject]
              exact congrArg some (Function.update_self ..)
            · next hne =>
              cases hother : memory.pImpl other with
              | none => rfl
              | some pointer =>
                  cases pointer with
                  | none => rfl
                  | some b =>
                      refine congrArg some (Function.update_of_ne ?_ _ _)
                      rintro rfl
                      exact hne (h.unique hother hobject)

end Steps

end Memory

/-! ## Refinement -/

section Refinement

variable {memory : Memory Name Addr σ}

/-- A step on the memory and the step on the values. -/
inductive Refines (allocates : Prop) (memory : Memory Name Addr σ) :
    Option (Ending × Memory Name Addr σ) → Option (Ending × Values Name σ) → Prop
  | undefined : Refines allocates memory none none
  | step {ending : Ending} {after : Memory Name Addr σ} (howned : after.Owned none) :
      Refines allocates memory (some (ending, after)) (some (ending, after.values))
  | outOfMemory (hallocates : allocates) (outcome : Ending × Values Name σ) :
      Refines allocates memory (some (.outOfMemory, memory)) (some outcome)

theorem Refines.of_eq {allocates : Prop} {outcome : Option (Ending × Memory Name Addr σ)}
    {ending : Ending} {after : Memory Name Addr σ} {values : Values Name σ}
    (hstep : outcome = some (ending, after)) (howned : after.Owned none)
    (hvalues : after.values = values) :
    Refines allocates memory outcome (some (ending, values)) := by
  rw [hstep, ← hvalues]
  exact .step howned

theorem values_eq_none_iff {object : Name} :
    memory.values object = none ↔ memory.pImpl object = none := Option.map_eq_none_iff

theorem values_of_pImpl {object : Name} {pointer : Option Addr}
    (h : memory.pImpl object = some pointer) :
    memory.values object = some (pointer.bind memory.heap) := by
  unfold Memory.values
  rw [h]
  rfl

variable [DecidableEq Name] [DecidableEq Addr] {allocator : Allocator Addr σ}

/-- An object gets a cell of its own for its data. -/
theorem exists_assign_of_makeUnique (h : memory.Owned none) {object : Name} {owned : Option Addr}
    (hobject : memory.pImpl object = some owned) {value : σ} {address : Addr}
    {after : Memory Name Addr σ}
    (hmake : memory.makeUnique allocator value = some (address, after)) :
    ∃ last, after.assign object (some address) = some last ∧ last.Owned none ∧
      last.values = Function.update memory.values object (some (some value)) := by
  obtain ⟨howned, hvalues, hpImpl, hcell⟩ := h.makeUnique hmake
  obtain ⟨last, hassign, hlast, hlastValues, -⟩ :=
    howned.assign (by rw [hpImpl]; exact hobject : after.pImpl object = some owned)
  refine ⟨last, hassign, hlast, ?_⟩
  rw [hlastValues, hvalues, Option.bind_some, hcell]

variable (allocator) in
theorem copyAssign_refines (h : memory.Owned none) (object other : Name) :
    Refines True memory (memory.copyAssign allocator object other)
      ((memory.values.copyAssign object other).map (.returned, ·)) := by
  unfold Memory.copyAssign Values.copyAssign
  cases hobject : memory.pImpl object with
  | none =>
      rw [values_eq_none_iff.mpr hobject]
      exact .undefined
  | some owned =>
      rw [values_of_pImpl hobject]
      by_cases hself : other = object
      · simp only [Option.bind_eq_bind, Option.bind_some, if_pos hself]
        exact .step h
      · simp only [Option.bind_eq_bind, Option.bind_some, if_neg hself]
        rw [memory.read_eq]
        cases memory.values.read other with
        | none => exact .undefined
        | some value =>
            simp only [Option.bind_some]
            cases hmake : memory.makeUnique allocator value with
            | none => exact .outOfMemory trivial _
            | some made =>
                obtain ⟨address, after⟩ := made
                obtain ⟨last, hassign, hlast, hvalues⟩ :=
                  exists_assign_of_makeUnique h hobject hmake
                exact .of_eq (by simp only [hassign]; rfl) hlast hvalues

theorem moveAssign_refines (h : memory.Owned none) (object other : Name) :
    Refines False memory (memory.moveAssign object other)
      ((memory.values.moveAssign object other).map (.returned, ·)) := by
  unfold Memory.moveAssign Values.moveAssign
  cases hobject : memory.pImpl object with
  | none =>
      rw [values_eq_none_iff.mpr hobject]
      exact .undefined
  | some owned =>
      rw [values_of_pImpl hobject]
      by_cases hself : other = object
      · simp only [Option.bind_eq_bind, Option.bind_some, if_pos hself]
        exact .step h
      · simp only [Option.bind_eq_bind, Option.bind_some, if_neg hself]
        cases hother : memory.pImpl other with
        | none =>
            rw [values_eq_none_iff.mpr hother]
            exact .undefined
        | some pointer =>
            rw [values_of_pImpl hother]
            obtain ⟨hloose, hvalues⟩ := h.declare other
            rw [hother] at hloose
            have hstill : (memory.declare other).pImpl object = some owned :=
              (Function.update_of_ne (Ne.symm hself) _ _).trans hobject
            obtain ⟨last, hassign, hlast, hlastValues, -⟩ := hloose.assign hstill
            rw [hvalues] at hlastValues
            exact .of_eq (by simp only [Option.bind_some]; rw [show
              (memory.declare other).assign object pointer = some last from hassign]; rfl)
              hlast hlastValues

omit [DecidableEq Addr] in
/-- A declared object is there and was given nothing. -/
theorem Memory.Owned.declare_of_none (h : memory.Owned none) {object : Name}
    (hobject : memory.pImpl object = none) :
    (memory.declare object).Owned none ∧
      (memory.declare object).values = Function.update memory.values object (some none) := by
  have hdeclared := h.declare object
  rw [hobject] at hdeclared
  exact hdeclared

theorem construct_refines (h : memory.Owned none) {object : Name}
    (hobject : memory.pImpl object = none) (value : σ) :
    Refines True memory (memory.construct allocator object value)
      (some (.returned, Function.update memory.values object (some (some value)))) := by
  unfold Memory.construct
  obtain ⟨hdeclared, hvalues⟩ := h.declare_of_none hobject
  cases hmake : (memory.declare object).makeUnique allocator value with
  | none => exact .outOfMemory trivial _
  | some made =>
      obtain ⟨address, after⟩ := made
      obtain ⟨last, hassign, hlast, hlastValues⟩ := exists_assign_of_makeUnique hdeclared
        (Function.update_self .. : (memory.declare object).pImpl object = some none) hmake
      rw [hvalues, Function.update_idem] at hlastValues
      exact .of_eq (by simp only [hassign]; rfl) hlast hlastValues

theorem copyConstruct_refines (h : memory.Owned none) {object : Name}
    (hobject : memory.pImpl object = none) (other : Name) :
    Refines True memory (do
        match ← (memory.declare object).copyAssign allocator object other with
        | (.returned, after) => return (.returned, after)
        | (ending, _) => return (ending, memory))
      ((Values.copyAssign object other
        (Function.update memory.values object (some none))).map (.returned, ·)) := by
  obtain ⟨hdeclared, hvalues⟩ := h.declare_of_none hobject
  have hassign := copyAssign_refines allocator hdeclared object other
  rw [hvalues] at hassign
  generalize (memory.declare object).copyAssign allocator object other = outcome at hassign ⊢
  cases hcopied : Values.copyAssign object other
      (Function.update memory.values object (some none)) with
  | none =>
      rw [hcopied] at hassign
      cases hassign with
      | undefined => exact .undefined
  | some values =>
      rw [hcopied] at hassign
      cases hassign with
      | step howned => exact .step howned
      | outOfMemory _ _ => exact .outOfMemory trivial _

theorem moveConstruct_refines (h : memory.Owned none) {object : Name}
    (hobject : memory.pImpl object = none) (other : Name) :
    Refines False memory ((memory.declare object).moveAssign object other)
      ((Values.moveAssign object other
        (Function.update memory.values object (some none))).map (.returned, ·)) := by
  obtain ⟨hdeclared, hvalues⟩ := h.declare_of_none hobject
  have hassign := moveAssign_refines hdeclared object other
  rw [hvalues] at hassign
  generalize (memory.declare object).moveAssign object other = outcome at hassign ⊢
  cases hmoved : Values.moveAssign object other
      (Function.update memory.values object (some none)) with
  | none =>
      rw [hmoved] at hassign
      cases hassign with
      | undefined => exact .undefined
  | some values =>
      rw [hmoved] at hassign
      cases hassign with
      | step howned => exact .step howned
      | outOfMemory hallocates _ => exact hallocates.elim

theorem destroy_refines (h : memory.Owned none) (object : Name) :
    Refines False memory (memory.destroy object)
      ((memory.values object).map fun _ =>
        (.returned, Function.update memory.values object none)) := by
  unfold Memory.destroy
  cases hobject : memory.pImpl object with
  | none =>
      rw [values_eq_none_iff.mpr hobject]
      unfold Memory.assign
      rw [hobject]
      exact .undefined
  | some owned =>
      rw [values_of_pImpl hobject]
      obtain ⟨after, hassign, hafter, hvalues, hpImpl⟩ := h.assign hobject
      rw [hassign]
      have hleft : after.pImpl object = some none := by rw [hpImpl, Function.update_self]
      obtain ⟨howned, hgone⟩ := hafter.leave hleft
      rw [hvalues, Function.update_idem] at hgone
      exact .of_eq rfl howned hgone

omit [DecidableEq Name] [DecidableEq Addr] in
/-- A statement that is left by a fault and changed nothing but what it did on both levels. -/
theorem Refines.ofFault {allocates : Prop} (fault : Fault) {after : Memory Name Addr σ}
    (howned : after.Owned none) :
    Refines allocates memory ((Ending.ofFault fault).bind fun ending => some (ending, after))
      ((Ending.ofFault fault).bind fun ending => some (ending, after.values)) := by
  cases Ending.ofFault fault with
  | none => exact .undefined
  | some ending => exact .step howned

theorem call_refines (h : memory.Owned none) (pointerClass : PointerClass σ κ ι) (object : Name)
    (arguments : List Name) (select : List σ → Option ι) :
    Refines False memory (memory.call pointerClass object arguments select)
      (memory.values.call pointerClass object arguments select) := by
  have hread : memory.read = memory.values.read := funext memory.read_eq
  unfold Memory.call Values.call
  simp only [Option.bind_eq_bind]
  cases hobject : memory.pImpl object with
  | none =>
      rw [values_eq_none_iff.mpr hobject]
      exact .undefined
  | some pointer =>
      rw [values_of_pImpl hobject, ← hread]
      simp only [Option.bind_some]
      cases arguments.mapM memory.read with
      | none => exact .undefined
      | some others =>
          simp only [Option.bind_some]
          cases select others with
          | none => exact .undefined
          | some selected =>
              simp only [Option.bind_some]
              cases pointerClass.refuses selected with
              | some fault => exact .ofFault fault h
              | none =>
                  dsimp only
                  cases hvalue : memory.read object with
                  | none => exact .undefined
                  | some value =>
                      simp only [Option.bind_some]
                      cases pointerClass.method selected value with
                      | none => exact .undefined
                      | some result =>
                          simp only [Option.bind_some]
                          cases result with
                          | ok passed result =>
                              obtain ⟨after, hwrite, howned, hvalues⟩ := h.write hvalue result
                              exact .of_eq (by simp only [hwrite]; rfl) howned hvalues
                          | error fault result =>
                              obtain ⟨after, hwrite, howned, hvalues⟩ := h.write hvalue result
                              simp only [hwrite, Option.bind_some, ← hvalues]
                              exact .ofFault fault howned

variable (allocator) in
/-- A statement does to the values what it says, unless memory runs out. -/
theorem step_refines (pointerClass : PointerClass σ κ ι) (h : memory.Owned none)
    (statement : Statement σ κ ι Name) :
    Refines statement.Allocates memory (step pointerClass allocator statement memory)
      (memory.values.step pointerClass statement) := by
  have hnone {object : Name} (hobject : ¬ (memory.pImpl object).isSome) :
      memory.pImpl object = none := Option.not_isSome_iff_eq_none.mp hobject
  have hscope (object : Name) :
      (memory.values object).isSome = (memory.pImpl object).isSome := Option.isSome_map
  cases statement with
  | construct object arguments select =>
      unfold step Values.step
      dsimp only
      rw [hscope]
      split
      · exact .undefined
      · next hobject =>
        rw [show memory.read = memory.values.read from funext memory.read_eq]
        simp only [Option.bind_eq_bind]
        cases arguments.mapM memory.values.read with
        | none => exact .undefined
        | some others =>
            simp only [Option.bind_some]
            cases select others with
            | none => exact .undefined
            | some constructor =>
                simp only [Option.bind_some]
                cases pointerClass.constructed constructor with
                | error fault => exact .ofFault fault h
                | ok value => exact construct_refines h (hnone hobject) value
  | copyConstruct object other =>
      unfold step Values.step
      dsimp only
      rw [hscope]
      split
      · exact .undefined
      · next hobject => exact copyConstruct_refines h (hnone hobject) other
  | moveConstruct object other =>
      unfold step Values.step
      dsimp only
      rw [hscope]
      split
      · exact .undefined
      · next hobject => exact moveConstruct_refines h (hnone hobject) other
  | copyAssign object other => exact copyAssign_refines allocator h object other
  | moveAssign object other => exact moveAssign_refines h object other
  | call object arguments select =>
      exact call_refines h pointerClass object arguments select
  | destroy object => exact destroy_refines h object

/-- A statement leaves the memory in order. -/
theorem owned_of_step {pointerClass : PointerClass σ κ ι} {statement : Statement σ κ ι Name}
    {ending : Ending} {after : Memory Name Addr σ} (h : memory.Owned none)
    (hstep : step pointerClass allocator statement memory = some (ending, after)) :
    after.Owned none := by
  have hrefines := step_refines allocator pointerClass h statement
  rw [hstep] at hrefines
  generalize memory.values.step pointerClass statement = outcome at hrefines
  cases hrefines with
  | step hafter => exact hafter
  | outOfMemory hallocates outcome => exact h

/-- A statement is undefined on the memory when it is on the values. -/
theorem step_eq_none_iff (pointerClass : PointerClass σ κ ι) (h : memory.Owned none)
    (statement : Statement σ κ ι Name) :
    step pointerClass allocator statement memory = none ↔
      memory.values.step pointerClass statement = none := by
  have hrefines := step_refines allocator pointerClass h statement
  generalize step pointerClass allocator statement memory = outcome at hrefines ⊢
  generalize memory.values.step pointerClass statement = outcome' at hrefines ⊢
  cases hrefines with
  | undefined => exact iff_of_true rfl rfl
  | step _ => exact iff_of_false nofun nofun
  | outOfMemory _ _ => exact iff_of_false nofun nofun

/-! ## Programs -/

/-- Nothing is in scope and nothing allocated. -/
def Memory.empty : Memory Name Addr σ where
  pImpl := fun _ => none
  heap := fun _ => none

omit [DecidableEq Name] [DecidableEq Addr] in
theorem Memory.empty_owned : (empty : Memory Name Addr σ).Owned none :=
  ⟨nofun, nofun, nofun, nofun, nofun⟩

/-- A program and how its statements end; `none` when one of them does not.  Exceptions are
caught. -/
def run (pointerClass : PointerClass σ κ ι) (allocator : Allocator Addr σ) :
    List (Statement σ κ ι Name) → Memory Name Addr σ → Option (List Ending × Memory Name Addr σ)
  | [], memory => some ([], memory)
  | statement :: rest, memory => do
      let (ending, after) ← step pointerClass allocator statement memory
      let (endings, last) ← run pointerClass allocator rest after
      return (ending :: endings, last)

/-- The same on values, where a statement that allocates may do nothing. -/
inductive Values.Runs (pointerClass : PointerClass σ κ ι) :
    List (Statement σ κ ι Name) → List Ending → Values Name σ → Values Name σ → Prop
  | done {values : Values Name σ} : Values.Runs pointerClass [] [] values values
  | next {statement : Statement σ κ ι Name} {rest : List (Statement σ κ ι Name)}
      {ending : Ending} {endings : List Ending} {values after last : Values Name σ}
      (hstep : values.step pointerClass statement = some (ending, after))
      (hrest : Values.Runs pointerClass rest endings after last) :
      Values.Runs pointerClass (statement :: rest) (ending :: endings) values last
  | outOfMemory {statement : Statement σ κ ι Name} {rest : List (Statement σ κ ι Name)}
      {endings : List Ending} {values last : Values Name σ} (hallocates : statement.Allocates)
      (hdefined : values.step pointerClass statement ≠ none)
      (hrest : Values.Runs pointerClass rest endings values last) :
      Values.Runs pointerClass (statement :: rest) (.outOfMemory :: endings) values last

variable {pointerClass : PointerClass σ κ ι} {statements : List (Statement σ κ ι Name)}

theorem run_cons_eq_some {statement : Statement σ κ ι Name} {endings : List Ending}
    {last : Memory Name Addr σ}
    (h : run pointerClass allocator (statement :: statements) memory = some (endings, last)) :
    ∃ ending after others, step pointerClass allocator statement memory = some (ending, after) ∧
      run pointerClass allocator statements after = some (others, last) ∧
        endings = ending :: others := by
  obtain ⟨⟨ending, after⟩, hstep, h⟩ := Option.bind_eq_some_iff.mp h
  obtain ⟨⟨others, after'⟩, hrun, h⟩ := Option.bind_eq_some_iff.mp h
  obtain ⟨rfl, rfl⟩ := Prod.mk.inj (Option.some.inj h)
  exact ⟨ending, after, others, hstep, hrun, rfl⟩

/-- What a program does to the memory it does to the values, and the memory stays in order. -/
theorem run_refines {endings : List Ending} {last : Memory Name Addr σ} (h : memory.Owned none)
    (hrun : run pointerClass allocator statements memory = some (endings, last)) :
    last.Owned none ∧ Values.Runs pointerClass statements endings memory.values last.values := by
  induction statements generalizing memory endings with
  | nil =>
      obtain ⟨rfl, rfl⟩ := Prod.mk.inj (Option.some.inj hrun)
      exact ⟨h, .done⟩
  | cons statement rest ih =>
      obtain ⟨ending, after, others, hstep, hrest, rfl⟩ := run_cons_eq_some hrun
      have hrefines := step_refines allocator pointerClass h statement
      rw [hstep] at hrefines
      generalize hvalues : memory.values.step pointerClass statement = outcome at hrefines
      cases hrefines with
      | step hafter =>
          obtain ⟨hlast, hruns⟩ := ih hafter hrest
          exact ⟨hlast, .next hvalues hruns⟩
      | outOfMemory hallocates outcome =>
          obtain ⟨hlast, hruns⟩ := ih h hrest
          exact ⟨hlast, .outOfMemory hallocates (by rw [hvalues]; exact nofun) hruns⟩

/-- A program is undefined when it comes to a statement that is undefined on the values. -/
theorem run_eq_none_iff (h : memory.Owned none) :
    run pointerClass allocator statements memory = none ↔
      ∃ before statement rest endings after, statements = before ++ statement :: rest ∧
        run pointerClass allocator before memory = some (endings, after) ∧
          after.values.step pointerClass statement = none := by
  constructor
  · intro hrun
    induction statements generalizing memory with
    | nil => exact nomatch hrun
    | cons statement rest ih =>
        cases hstep : step pointerClass allocator statement memory with
        | none =>
            exact ⟨[], statement, rest, [], memory, rfl, rfl,
              (step_eq_none_iff pointerClass h statement).mp hstep⟩
        | some outcome =>
            obtain ⟨ending, after⟩ := outcome
            have hafter : after.Owned none := owned_of_step h hstep
            have hrest : run pointerClass allocator rest after = none := by
              unfold run at hrun
              rw [hstep] at hrun
              cases hrest : run pointerClass allocator rest after with
              | none => rfl
              | some outcome =>
                  simp only [Option.bind_eq_bind, Option.bind_some, hrest] at hrun
                  exact nomatch hrun
            obtain ⟨before, undefined, left, endings, last, rfl, hbefore, hundefined⟩ :=
              ih hafter hrest
            refine ⟨statement :: before, undefined, left, ending :: endings, last, rfl, ?_,
              hundefined⟩
            unfold run
            rw [hstep]
            simp only [Option.bind_eq_bind, Option.bind_some, hbefore]
            rfl
  · rintro ⟨before, statement, rest, endings, after, rfl, hbefore, hundefined⟩
    induction before generalizing memory endings with
    | nil =>
        obtain ⟨rfl, rfl⟩ := Prod.mk.inj (Option.some.inj hbefore)
        show run pointerClass allocator (statement :: rest) memory = none
        unfold run
        rw [(step_eq_none_iff pointerClass h statement).mpr hundefined]
        rfl
    | cons first before ih =>
        obtain ⟨ending, next, others, hstep, hbefore', rfl⟩ := run_cons_eq_some hbefore
        have hnext : next.Owned none := owned_of_step h hstep
        show run pointerClass allocator (first :: (before ++ statement :: rest)) memory = none
        unfold run
        rw [hstep]
        simp only [Option.bind_eq_bind, Option.bind_some, ih hnext others hbefore']
        rfl

end Refinement

end Ownership
end Cxx
end ULocalMagnitude
