import ULocalMagnitude.Magnitude.StationMagnitude

/-!
# Network magnitudes

`magnitude/networkMagnitude.cpp`: the value, the residuals of the accepted
observations and the error codes of the rejected ones, each under the number of
its observation.  The list setters check element by element and store nothing
unless all elements pass, although one of the two for residuals moves each element
out of its argument before it has seen the next one.
-/

namespace ULocalMagnitude
namespace Magnitude

open Cxx

variable {F : Type} [Arithmetic F]

/-- `NetworkMagnitudeCalculator::StationCalculatorErrorCode` -/
inductive StationCalculatorErrorCode where
  -- User error
  | observationMissingAmplitudes
  | observationMissingDistance
  | observationMissingDepth
  | observationHasNoCorrection
  | negativeDistance
  | stationTooClose
  | stationTooFar
  | invalidDepth
  -- Server error
  | uninitialized
  | algorithm
deriving DecidableEq

/-- `NetworkMagnitude::NetworkMagnitudeImpl` -/
structure NetworkMagnitude (F : Type) [Arithmetic F] where
  mResiduals : List (Residual F × Int) := []
  mRejectedObservations : List (StationCalculatorErrorCode × Int) := []
  mValue : Double F := .finite 0
  mHasValue : Bool := false
  mHasResiduals : Bool := false
  mHasRejectedObservations : Bool := false
deriving DecidableEq

namespace NetworkMagnitude

/-- Value -/
def setValue (value : Double F) : Method (NetworkMagnitude F) Unit := do
  throwIf (value < .finite (-10) ∨ value > .finite 10)
    (.invalidArgument "Magnitude must be in range [-10, 10]")
  modify fun magnitude => { magnitude with mValue := value, mHasValue := true }

def hasValue (magnitude : NetworkMagnitude F) : Bool := magnitude.mHasValue

def getValue (magnitude : NetworkMagnitude F) : Throws (Double F) := do
  throwIf (!magnitude.hasValue) (.runtimeError "Value not set")
  return magnitude.mValue

/-- The loop of `setResiduals` over its argument. -/
def checkResiduals : List (Residual F × Int) → Throws Unit
  | [] => return ()
  | element :: rest => do
      throwIf (!element.1.hasValue) (.invalidArgument "Residual not set")
      throwIf (!element.1.hasStationMagnitude)
        (.invalidArgument "Station magnitude not set on residual")
      throwIf (element.2 < 1) (.invalidArgument "Observation number must be positive")
      checkResiduals rest

/-- Sets the observations -/
def setResiduals (residuals : List (Residual F × Int)) :
    Method (NetworkMagnitude F) Unit := do
  throwIf (residuals.isEmpty) (.invalidArgument "No residuals")
  liftM (checkResiduals residuals)
  modify fun magnitude => { magnitude with mResiduals := residuals, mHasResiduals := true }

def hasResiduals (magnitude : NetworkMagnitude F) : Bool := magnitude.mHasResiduals

def getResiduals (magnitude : NetworkMagnitude F) : Throws (List (Residual F × Int)) := do
  throwIf (!magnitude.hasResiduals) (.runtimeError "Residuals not set")
  return magnitude.mResiduals

/-- The checks that the loop of `setResiduals` makes on one element. -/
def checkResidual (element : Residual F × Int) : Throws Unit := do
  throwIf (!element.1.hasValue) (.invalidArgument "Residual not set")
  throwIf (!element.1.hasStationMagnitude)
    (.invalidArgument "Station magnitude not set on residual")
  throwIf (element.2 < 1) (.invalidArgument "Observation number must be positive")

/-- The lines behind the loop. -/
def storeResiduals (workspace : List (Residual F × Int)) (magnitude : NetworkMagnitude F) :
    NetworkMagnitude F :=
  { magnitude with mResiduals := workspace, mHasResiduals := true }

/-- `setResiduals(std::vector<std::pair<Residual, int>> &&)`, on the magnitude and the
argument. -/
def setResidualsMoving :
    Method (NetworkMagnitude F × List (Movable (Residual F) × Int)) Unit := do
  throwIf ((← get).2.isEmpty) (.invalidArgument "No residuals")
  let workspace ← Method.onSnd (moveChecked checkResidual)
  modify fun s => (storeResiduals workspace s.1, s.2)

/-- `setResiduals(const std::vector<std::pair<Residual, int>> &)` -/
def setResidualsCopying (residuals : List (Movable (Residual F) × Int)) :
    Method (NetworkMagnitude F) Unit := do
  let copy ← liftM (copyAll residuals)
  Method.withLocal copy setResidualsMoving

/-- The loop of `setRejectedObservations` over its argument. -/
def checkRejectedObservations : List (StationCalculatorErrorCode × Int) → Throws Unit
  | [] => return ()
  | element :: rest => do
      throwIf (element.2 < 1) (.invalidArgument "Observation number must be positive")
      checkRejectedObservations rest

/-- Rejected observations -/
def setRejectedObservations
    (rejectedObservations : List (StationCalculatorErrorCode × Int)) :
    Method (NetworkMagnitude F) Unit := do
  liftM (checkRejectedObservations rejectedObservations)
  modify fun magnitude =>
    { magnitude with mRejectedObservations := rejectedObservations,
                     mHasRejectedObservations := true }

def hasRejectedObservations (magnitude : NetworkMagnitude F) : Bool :=
  magnitude.mHasRejectedObservations

def getRejectedObservations (magnitude : NetworkMagnitude F) :
    Throws (List (StationCalculatorErrorCode × Int)) := do
  throwIf (!magnitude.hasRejectedObservations)
    (.runtimeError "Rejected observations not set")
  return magnitude.mRejectedObservations

/-- The chain of comparisons in `toRejectedObservationsMessage`. -/
def reasonOf : StationCalculatorErrorCode → Api.Reason
  | .stationTooClose => .tooClose
  | .stationTooFar => .tooFar
  | .observationHasNoCorrection => .noStationCorrection
  | .negativeDistance => .algorithm
  | .invalidDepth => .algorithm
  | .observationMissingDistance => .algorithm
  | .observationMissingDepth => .algorithm
  | .observationMissingAmplitudes => .invalidAmplitudes
  | .uninitialized => .algorithm
  | .algorithm => .algorithm

/-- An observation number in a field of type `uint32`.  The stored numbers are positive,
so the conversion keeps them. -/
def toUInt32 (number : Int) : Nat := number.toNat

def toRejectedObservationsMessage (magnitude : NetworkMagnitude F) :
    Throws (List Api.RejectedObservation) := do
  throwIf (!magnitude.hasRejectedObservations)
    (.runtimeError "Rejected observations not set")
  return magnitude.mRejectedObservations.map fun item =>
    { inputObservationNumber := some (toUInt32 item.2), reason := some (reasonOf item.1) }

/-! ## What is accepted -/

/-- The range check. -/
theorem call_setValue (value : Double F) (magnitude : NetworkMagnitude F) :
    (setValue value).call magnitude =
      if value < .finite (-10) ∨ value > .finite 10 then
        .error (.invalidArgument "Magnitude must be in range [-10, 10]")
      else .ok { magnitude with mValue := value, mHasValue := true } := by
  unfold setValue
  rw [Method.call_lift_bind, throwIf_bind]
  rfl

theorem checkResiduals_eq (residuals : List (Residual F × Int)) :
    checkResiduals residuals = checkAll checkResidual residuals := by
  induction residuals with
  | nil => rfl
  | cons element rest ih =>
      rw [checkResiduals, checkAll, ih, checkResidual]
      simp only [bind_assoc]

/-- The residuals are accepted when each one is complete and numbered from one on. -/
theorem checkResiduals_eq_ok {residuals : List (Residual F × Int)} :
    checkResiduals residuals = .ok () ↔ ∀ element ∈ residuals,
      element.1.mHasValue = true ∧ element.1.mHasStationMagnitude = true ∧
        1 ≤ element.2 := by
  rw [checkResiduals_eq, checkAll_eq_ok]
  refine forall₂_congr fun element _ => ?_
  unfold checkResidual
  simp only [throwIf_bind_eq_ok, throwIf_eq_ok, Residual.hasValue,
    Residual.hasStationMagnitude, Bool.not_eq_true', Bool.not_eq_false, not_lt]

theorem checkRejectedObservations_eq_ok
    {rejectedObservations : List (StationCalculatorErrorCode × Int)} :
    checkRejectedObservations rejectedObservations = .ok () ↔
      ∀ element ∈ rejectedObservations, 1 ≤ element.2 := by
  induction rejectedObservations with
  | nil => exact ⟨fun _ element h => absurd h (List.not_mem_nil), fun _ => rfl⟩
  | cons element rest ih =>
      unfold checkRejectedObservations
      simp only [throwIf_bind_eq_ok, not_lt, List.forall_mem_cons]
      rw [ih]

theorem call_setResiduals_eq_ok {residuals : List (Residual F × Int)}
    {magnitude after : NetworkMagnitude F} :
    (setResiduals residuals).call magnitude = .ok after ↔
      residuals ≠ [] ∧ (∀ element ∈ residuals,
        element.1.mHasValue = true ∧ element.1.mHasStationMagnitude = true ∧
          1 ≤ element.2) ∧
        { magnitude with mResiduals := residuals, mHasResiduals := true } = after := by
  simp only [setResiduals, Method.call_lift_bind, throwIf_bind_eq_ok]
  simp only [bind_unit_eq_ok, checkResiduals_eq_ok, Method.call_modify, Except.ok.injEq,
    List.isEmpty_iff, ne_eq]

theorem call_setRejectedObservations_eq_ok
    {rejectedObservations : List (StationCalculatorErrorCode × Int)}
    {magnitude after : NetworkMagnitude F} :
    (setRejectedObservations rejectedObservations).call magnitude = .ok after ↔
      (∀ element ∈ rejectedObservations, 1 ≤ element.2) ∧
        { magnitude with mRejectedObservations := rejectedObservations,
                         mHasRejectedObservations := true } = after := by
  simp only [setRejectedObservations, Method.call_lift_bind, bind_unit_eq_ok,
    checkRejectedObservations_eq_ok, Method.call_modify, Except.ok.injEq]

/-! ## The overloads -/

/-- Checked and moved in one loop, the residuals get into the magnitude as if all of them
were checked first. -/
theorem withLocal_setResidualsMoving (residuals : List (Residual F × Int)) :
    Method.withLocal (intact residuals) setResidualsMoving = setResiduals residuals := by
  have hempty : (intact residuals).isEmpty = residuals.isEmpty := by
    cases residuals <;> rfl
  calc Method.withLocal (intact residuals) setResidualsMoving
      = Method.withLocal (intact residuals) (do
          liftM (throwIf ((intact residuals).isEmpty) (.invalidArgument "No residuals"))
          let workspace ← Method.onSnd (moveChecked checkResidual)
          modify fun s => (storeResiduals workspace s.1, s.2)) := rfl
    _ = setResiduals residuals := by
        rw [Method.withLocal_lift_bind, hempty]
        simp only [withLocal_moveChecked]
        rw [← checkResiduals_eq]
        rfl

theorem setResidualsCopying_intact (residuals : List (Residual F × Int)) :
    setResidualsCopying (intact residuals) = setResiduals residuals := by
  unfold setResidualsCopying
  rw [copyAll_intact, ← withLocal_setResidualsMoving]
  rfl

/-! ## The calls on a network magnitude -/

/-- A setter with its argument; there are two for the residuals. -/
inductive Setter (F : Type) [Arithmetic F] where
  | value (newValue : Double F)
  | movedResiduals (newResiduals : List (Residual F × Int))
  | copiedResiduals (newResiduals : List (Residual F × Int))
  | rejectedObservations
      (newRejectedObservations : List (StationCalculatorErrorCode × Int))

def Setter.method : Setter F → Method (NetworkMagnitude F) Unit
  | .value newValue => setValue newValue
  | .movedResiduals newResiduals =>
      Method.withLocal (intact newResiduals) setResidualsMoving
  | .copiedResiduals newResiduals => setResidualsCopying (intact newResiduals)
  | .rejectedObservations newRejectedObservations =>
      setRejectedObservations newRejectedObservations

/-- Residuals are themselves made through their class. -/
def Setter.Admissible : Setter F → Prop
  | .value _ => True
  | .movedResiduals newResiduals => ∀ element ∈ newResiduals, element.1.IsReachable
  | .copiedResiduals newResiduals => ∀ element ∈ newResiduals, element.1.IsReachable
  | .rejectedObservations _ => True

/-- Default constructed, then used through the setters. -/
def IsReachable (magnitude : NetworkMagnitude F) : Prop :=
  Reachable (fun built => built = {}) Setter.method Setter.Admissible magnitude

theorem setResiduals_atomic (residuals : List (Residual F × Int)) :
    (setResiduals residuals).Atomic :=
  .lift_bind fun _ => .lift_bind fun _ => .modify _

theorem setRejectedObservations_atomic
    (rejectedObservations : List (StationCalculatorErrorCode × Int)) :
    (setRejectedObservations (F := F) rejectedObservations).Atomic :=
  .lift_bind fun _ => .modify _

theorem setter_atomic (setter : Setter F) : setter.method.Atomic := by
  cases setter with
  | value newValue => exact .lift_bind fun _ => .modify _
  | movedResiduals newResiduals =>
      rw [Setter.method, withLocal_setResidualsMoving]
      exact setResiduals_atomic newResiduals
  | copiedResiduals newResiduals =>
      rw [Setter.method, setResidualsCopying_intact]
      exact setResiduals_atomic newResiduals
  | rejectedObservations newRejectedObservations =>
      exact setRejectedObservations_atomic newRejectedObservations

/-- Every residual of a magnitude in use is complete, and all numbers count from one. -/
structure Inv (magnitude : NetworkMagnitude F) : Prop where
  residuals : ∀ element ∈ magnitude.mResiduals, element.1.Complete ∧ 1 ≤ element.2
  rejectedObservations : ∀ element ∈ magnitude.mRejectedObservations, 1 ≤ element.2
  nonempty : magnitude.mHasResiduals = true → magnitude.mResiduals ≠ []

/-- From their class, residuals are accepted when they are complete. -/
theorem call_setResiduals_of_isReachable {residuals : List (Residual F × Int)}
    (hreachable : ∀ element ∈ residuals, element.1.IsReachable)
    {magnitude after : NetworkMagnitude F} :
    (setResiduals residuals).call magnitude = .ok after ↔
      residuals ≠ [] ∧ (∀ element ∈ residuals, element.1.Complete ∧ 1 ≤ element.2) ∧
        storeResiduals residuals magnitude = after := by
  have hcomplete : (∀ element ∈ residuals, element.1.mHasValue = true ∧
      element.1.mHasStationMagnitude = true ∧ 1 ≤ element.2) ↔
        ∀ element ∈ residuals, element.1.Complete ∧ 1 ≤ element.2 := by
    refine forall₂_congr fun element helement => ?_
    rw [(hreachable element helement).complete_iff, and_assoc]
  rw [call_setResiduals_eq_ok, hcomplete]
  rfl

theorem Inv.setResiduals {residuals : List (Residual F × Int)}
    {magnitude after : NetworkMagnitude F} (hinv : magnitude.Inv)
    (hreachable : ∀ element ∈ residuals, element.1.IsReachable)
    (h : (setResiduals residuals).call magnitude = .ok after) : after.Inv := by
  obtain ⟨hnonempty, hcomplete, rfl⟩ := (call_setResiduals_of_isReachable hreachable).mp h
  exact { residuals := hcomplete
          rejectedObservations := hinv.rejectedObservations
          nonempty := fun _ => hnonempty }

theorem IsReachable.inv {magnitude : NetworkMagnitude F} (h : magnitude.IsReachable) :
    magnitude.Inv := by
  refine h.invariant_of_atomic ?_ setter_atomic ?_
  · rintro built rfl
    exact ⟨fun _ h => absurd h List.not_mem_nil, fun _ h => absurd h List.not_mem_nil,
      fun h => absurd h Bool.false_ne_true⟩
  · intro setter before after _ hadmissible hbefore hexec
    have hcall := Method.call_of_exec hexec
    cases setter with
    | value newValue =>
        rw [Setter.method, setValue, Method.call_lift_bind, throwIf_bind_eq_ok] at hcall
        obtain rfl := Except.ok.inj hcall.2
        exact ⟨hbefore.residuals, hbefore.rejectedObservations, hbefore.nonempty⟩
    | movedResiduals newResiduals =>
        rw [Setter.method, withLocal_setResidualsMoving] at hcall
        exact hbefore.setResiduals hadmissible hcall
    | copiedResiduals newResiduals =>
        rw [Setter.method, setResidualsCopying_intact] at hcall
        exact hbefore.setResiduals hadmissible hcall
    | rejectedObservations newRejectedObservations =>
        obtain ⟨hnumbers, rfl⟩ := call_setRejectedObservations_eq_ok.mp hcall
        exact ⟨hbefore.residuals, hnumbers, hbefore.nonempty⟩

end NetworkMagnitude

end Magnitude
end ULocalMagnitude
