import ULocalMagnitude.Classes
import ULocalMagnitude.Rationals

/-!
# Programs with objects of the library

A program makes objects, copies and moves them, calls their members with other objects and
destroys them, in any order.  Constructors and calls may throw, memory may run out where an
object is made or copied, and the program goes on.  On the level of addresses every pointer
that is read or deleted is to a cell in use, a cell has one owner, and nothing is left when no
object is.  So the program is one on values: a copy does not change with its original.  It is
undefined, or ends the process, exactly where that one does: an object is read that was moved
from, or a statement is so by itself.  A call that refuses its arguments does not come to its
object, and is defined for one that was moved from.  Every object with data is in a state that
its class allows.
-/

namespace ULocalMagnitude
namespace Properties

open Cxx Cxx.Ownership
open ClassName (Object Constructor classes)

variable {F Name Addr : Type} [ExactArithmetic F]

/-- A statement on objects of the library. -/
abbrev ObjectStatement (F Name : Type) [ExactArithmetic F] : Type :=
  Ownership.Statement (Object F) (Sigma (Constructor F)) (Sigma (ClassName.Call F)) Name

/-- Objects and memory after a program. -/
structure InOrder [DecidableEq Name] (externals : Externals F)
    (statements : List (ObjectStatement F Name)) (endings : List Ownership.Ending)
    (memory : Memory Name Addr (Object F)) : Prop where
  owned : memory.Owned none
  released : (∀ object, memory.pImpl object = none) → ∀ address, memory.heap address = none
  values : Values.Runs (classes externals).together statements endings (fun _ => none)
    memory.values
  reachable : ∀ object className value, memory.values object = some (some ⟨className, value⟩) →
    ClassName.IsReachable externals className value

section Programs

variable [DecidableEq Name] [DecidableEq Addr]

/-- Programs are programs on values and keep to the states of the classes, and what a call
refuses it refuses for all objects. -/
theorem objects_are_values (externals : Externals F) (allocator : Allocator Addr (Object F))
    (statements : List (ObjectStatement F Name))
    (hpasses : ∀ statement ∈ statements, statement.Passes (classes externals).together) :
    (∀ endings memory,
      run (classes externals).together allocator statements .empty = some (endings, memory) →
        InOrder externals statements endings memory) ∧
    (run (classes externals).together allocator statements .empty = none ↔
      ∃ before statement rest endings memory, statements = before ++ statement :: rest ∧
        run (classes externals).together allocator before .empty = some (endings, memory) ∧
          memory.values.step (classes externals).together statement = none) ∧
    ∀ className (call : ClassName.Call F className),
      (∀ fault, (classes externals).refuses className call = some fault ↔
        ∀ object, (classes externals).method className call object = .error fault object) ∧
      ((classes externals).refuses className call = none ↔
        ∀ object, ∃ passed after,
          (classes externals).method className call object = .ok passed after) := by
  refine ⟨fun endings memory hrun => ?_, run_eq_none_iff Memory.empty_owned,
    fun className call => ⟨fun fault => ClassName.refused_eq_some_iff,
      ClassName.refused_eq_none_iff⟩⟩
  obtain ⟨howned, hvalues⟩ := run_refines Memory.empty_owned hrun
  refine ⟨howned, fun hgone address => ?_, hvalues, fun object className value hvalue => ?_⟩
  · -- A cell in use would have an owner.
    cases hcell : memory.heap address with
    | none => rfl
    | some value =>
        rcases howned.owner (by rw [hcell]; rfl) with hloose | ⟨object, hobject⟩
        · exact nomatch hloose
        · rw [hgone object] at hobject
          exact nomatch hobject
  · exact hvalues.all (ClassName.keeps externals) hpasses .empty object
      ⟨className, value⟩ hvalue

end Programs

/-! ## A program -/

/-- Its variables. -/
inductive Variable where
  | identifier
  | blank
  | options
  | copied
  | moved
  | station
  | spare
deriving DecidableEq

/-- A memory of a few cells. -/
def pool (σ : Type) (size : ℕ) : Allocator ℕ σ where
  address := fun heap => (List.range size).find? fun address => (heap address).isNone
  free := fun heap address h => by
    have hfree := List.find?_some h
    exact Option.isNone_iff_eq_none.mp hfree

/-- A constructor that is given no object. -/
def makes (object : Variable) (constructor : Sigma (Constructor ℚ)) :
    ObjectStatement ℚ Variable :=
  .construct object [] fun _ => some constructor

/-- A call that is given no object. -/
def calls (object : Variable) (call : Sigma (ClassName.Call ℚ)) : ObjectStatement ℚ Variable :=
  .call object [] fun _ => some call

/-- `object.setIdentifier(identifier)` -/
def setsIdentifier : List (Object ℚ) → Option (Sigma (ClassName.Call ℚ))
  | [⟨.stationIdentifier, identifier⟩] => some ⟨.stationOptions, .identifier identifier⟩
  | _ => none

/-- `Station object(options)` -/
def makesStation : List (Object ℚ) → Option (Sigma (Constructor ℚ))
  | [⟨.stationOptions, options⟩] => some ⟨.station, options⟩
  | _ => none

/-- Options are filled and copied, a station is made of the copy, and the options are moved.
They still refuse an identifier without a network.  There is no memory for a last copy. -/
def sampleProgram : List (ObjectStatement ℚ Variable) :=
  [ makes .identifier ⟨.stationIdentifier, none⟩,
    calls .identifier ⟨.stationIdentifier, .network (bytes "uu")⟩,
    calls .identifier ⟨.stationIdentifier, .station (bytes "asu7")⟩,
    makes .options ⟨.stationOptions, ()⟩,
    .call .options [.identifier] setsIdentifier,
    calls .options ⟨.stationOptions, .correction (.finite (1 / 10))⟩,
    .copyConstruct .copied .options,
    .construct .station [.copied] makesStation,
    .moveConstruct .moved .options,
    makes .blank ⟨.stationIdentifier, none⟩,
    .call .options [.blank] setsIdentifier,
    .copyConstruct .spare .moved ]

/-- The options have no data after they were moved from. -/
def changesMoved : ObjectStatement ℚ Variable :=
  calls .options ⟨.stationOptions, .correction (.finite 0)⟩

def sampleExternals : Externals ℚ where
  inverse := Rationals.inverse
  timestampToNanoseconds := fun _ => 0
  native := .little

theorem makes_passes {object : Variable} {constructor : Sigma (Constructor ℚ)}
    (h : ClassName.constructorTakes constructor.1 constructor.2 = []) :
    (makes object constructor).Passes (classes sampleExternals).together := by
  rintro others selected hselected other hother
  obtain rfl := Option.some.inj hselected
  rw [show (classes sampleExternals).together.constructorTakes constructor = [] from h] at hother
  exact nomatch hother

theorem calls_passes {object : Variable} {call : Sigma (ClassName.Call ℚ)}
    (h : ClassName.methodTakes call.1 call.2 = []) :
    (calls object call).Passes (classes sampleExternals).together := by
  rintro others selected hselected other hother
  obtain rfl := Option.some.inj hselected
  rw [show (classes sampleExternals).together.methodTakes call = [] from h] at hother
  exact nomatch hother

theorem setsIdentifier_passes {object : Variable} {arguments : List Variable} :
    (Ownership.Statement.call object arguments setsIdentifier).Passes
      (classes sampleExternals).together := by
  intro others selected hselected other hother
  unfold setsIdentifier at hselected
  split at hselected
  · obtain rfl := Option.some.inj hselected
    exact hother
  · exact nomatch hselected

theorem makesStation_passes {object : Variable} {arguments : List Variable} :
    (Ownership.Statement.construct object arguments makesStation).Passes
      (classes sampleExternals).together := by
  intro others selected hselected other hother
  unfold makesStation at hselected
  split at hselected
  · obtain rfl := Option.some.inj hselected
    exact hother
  · exact nomatch hselected

theorem sampleProgram_passes :
    ∀ statement ∈ sampleProgram ++ [changesMoved],
      statement.Passes (classes sampleExternals).together := by
  simp only [sampleProgram, changesMoved, List.cons_append, List.nil_append,
    List.forall_mem_cons]
  exact ⟨makes_passes rfl, calls_passes rfl, calls_passes rfl, makes_passes rfl,
    setsIdentifier_passes, calls_passes rfl, trivial, makesStation_passes, trivial,
    makes_passes rfl, setsIdentifier_passes, trivial, calls_passes rfl, List.forall_mem_nil _⟩

/-- The program is in order, and is undefined when it goes on with the options. -/
theorem sampleProgram_is_in_order :
    (∃ endings memory, run (classes sampleExternals).together (pool _ 5) sampleProgram .empty =
        some (endings, memory) ∧
      endings.drop 10 =
        [.thrown (.invalidArgument "Network not set on identifier"), .outOfMemory] ∧
      InOrder sampleExternals sampleProgram endings memory) ∧
    ∃ before statement rest endings memory,
      sampleProgram ++ [changesMoved] = before ++ statement :: rest ∧
      run (classes sampleExternals).together (pool _ 5) before .empty =
        some (endings, memory) ∧
      memory.values.step (classes sampleExternals).together statement = none := by
  have hends : (run (classes sampleExternals).together (pool _ 5) sampleProgram
      .empty).map (fun outcome => outcome.1.drop 10) =
        some [.thrown (.invalidArgument "Network not set on identifier"), .outOfMemory] := by
    decide +kernel
  have hundefined : (run (classes sampleExternals).together (pool _ 5)
      (sampleProgram ++ [changesMoved]) .empty).isNone = true := by decide +kernel
  obtain ⟨⟨endings, memory⟩, hrun, hlast⟩ := Option.map_eq_some_iff.mp hends
  refine ⟨⟨endings, memory, hrun, hlast, ?_⟩, ?_⟩
  · exact (objects_are_values sampleExternals (pool _ 5) sampleProgram fun statement hstatement =>
      sampleProgram_passes statement (List.mem_append_left _ hstatement)).1 endings memory hrun
  · exact (objects_are_values sampleExternals (pool _ 5) _ sampleProgram_passes).2.1.mp
      (Option.isNone_iff_eq_none.mp hundefined)

end Properties
end ULocalMagnitude
