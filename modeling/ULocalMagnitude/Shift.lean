import ULocalMagnitude.Average

/-!
# Shifted measures

Two batches over the same places: at each place the items lack the same and have one
name, and they are rejected for one reason or accepted with measures that differ by the
shift of the place.  The averages then differ by the mean shift of the accepted places,
and under a common shift no item moves against the average.
-/

namespace ULocalMagnitude
namespace Batch
namespace Assessment

set_option linter.unusedSectionVars false

variable {ι α N C E M F : Type} [DecidableEq N] [Field F] [LinearOrder F]
  {a : Assessment α N C E M F}

/-- At the place the second item is assessed like the first one, but for its measure. -/
structure ShiftedAt (a : Assessment α N C E M F) (item item' : α) (shift : F) : Prop where
  missing : a.missing item' = a.missing item
  name : a.name item' = a.name item
  rejected : ∀ e, a.outcome item = .error e → a.outcome item' = .error e
  accepted : ∀ m, a.outcome item = .ok m →
    ∃ m', a.outcome item' = .ok m' ∧ a.measure m' = a.measure m + shift

/-- The places of the accepted items. -/
def acceptedPlaces (a : Assessment α N C E M F) (items : ι → α) (places : List ι) : List ι :=
  places.filter fun i => (a.accepted (items i)).isSome

variable {items items' : ι → α} {shift : ι → F} {places : List ι}

theorem acceptedPlaces_cons_ok {i : ι} {m : M} (h : a.outcome (items i) = .ok m) :
    a.acceptedPlaces items (i :: places) = i :: a.acceptedPlaces items places := by
  unfold acceptedPlaces
  rw [List.filter_cons_of_pos (by simp [accepted_of_ok h])]

theorem acceptedPlaces_cons_error {i : ι} {e : E} (h : a.outcome (items i) = .error e) :
    a.acceptedPlaces items (i :: places) = a.acceptedPlaces items places := by
  unfold acceptedPlaces
  rw [List.filter_cons_of_neg (by simp [accepted_of_error h])]

section Shifted

variable (h : ∀ i, a.ShiftedAt (items i) (items' i) (shift i))

include h

theorem measures_length_shifted :
    (a.measures (places.map items')).length = (a.measures (places.map items)).length := by
  induction places with
  | nil => rfl
  | cons i rest ih =>
      rw [List.map_cons, List.map_cons]
      cases houtcome : a.outcome (items i) with
      | ok m =>
          obtain ⟨m', houtcome', -⟩ := (h i).accepted m houtcome
          rw [measures_cons_ok houtcome, measures_cons_ok houtcome', List.length_cons,
            List.length_cons, ih]
      | error e =>
          rw [measures_cons_error houtcome, measures_cons_error ((h i).rejected e houtcome), ih]

theorem measures_sum_shifted :
    (a.measures (places.map items')).sum =
      (a.measures (places.map items)).sum + ((a.acceptedPlaces items places).map shift).sum := by
  induction places with
  | nil => simp [measures, acceptedPlaces]
  | cons i rest ih =>
      rw [List.map_cons, List.map_cons]
      cases houtcome : a.outcome (items i) with
      | ok m =>
          obtain ⟨m', houtcome', hmeasure⟩ := (h i).accepted m houtcome
          rw [measures_cons_ok houtcome, measures_cons_ok houtcome',
            acceptedPlaces_cons_ok houtcome, List.map_cons, List.sum_cons, List.sum_cons,
            List.sum_cons, ih, hmeasure]
          ring
      | error e =>
          rw [measures_cons_error houtcome, measures_cons_error ((h i).rejected e houtcome),
            acceptedPlaces_cons_error houtcome, ih]

omit h in
theorem length_acceptedPlaces :
    (a.acceptedPlaces items places).length = (a.measures (places.map items)).length := by
  induction places with
  | nil => rfl
  | cons i rest ih =>
      rw [List.map_cons]
      cases houtcome : a.outcome (items i) with
      | ok m =>
          rw [measures_cons_ok houtcome, acceptedPlaces_cons_ok houtcome, List.length_cons,
            List.length_cons, ih]
      | error e =>
          rw [measures_cons_error houtcome, acceptedPlaces_cons_error houtcome, ih]

/-- The average moves by the mean shift of the accepted places. -/
theorem mean_shifted :
    mean (a.measures (places.map items')) =
      mean (a.measures (places.map items)) + mean ((a.acceptedPlaces items places).map shift) := by
  unfold mean
  rw [measures_length_shifted h, measures_sum_shifted h, List.length_map, length_acceptedPlaces,
    add_div]

/-- The rejected items are the same ones, for the same reasons. -/
theorem numbered_rejected_shifted (start : Nat) :
    numbered a.rejected start (places.map items') =
      numbered a.rejected start (places.map items) := by
  induction places generalizing start with
  | nil => rfl
  | cons i rest ih =>
      rw [List.map_cons, List.map_cons]
      cases houtcome : a.outcome (items i) with
      | ok m =>
          obtain ⟨m', houtcome', -⟩ := (h i).accepted m houtcome
          rw [numbered_cons_none (rejected_of_ok houtcome),
            numbered_cons_none (rejected_of_ok houtcome'), ih]
      | error e =>
          rw [numbered_cons_some (rejected_of_error houtcome),
            numbered_cons_some (rejected_of_error ((h i).rejected e houtcome)), ih]

/-- What is read off the accepted items is the same if it is at every place. -/
theorem numbered_accepted_shifted {β : Type} {read read' : M × Nat → β}
    (hread : ∀ i m m', a.outcome (items i) = .ok m → a.outcome (items' i) = .ok m' →
      ∀ number, read' (m', number) = read (m, number)) (start : Nat) :
    (numbered a.accepted start (places.map items')).map read' =
      (numbered a.accepted start (places.map items)).map read := by
  induction places generalizing start with
  | nil => rfl
  | cons i rest ih =>
      rw [List.map_cons, List.map_cons]
      cases houtcome : a.outcome (items i) with
      | ok m =>
          obtain ⟨m', houtcome', -⟩ := (h i).accepted m houtcome
          rw [numbered_cons_some (accepted_of_ok houtcome),
            numbered_cons_some (accepted_of_ok houtcome'), List.map_cons, List.map_cons,
            ih (start + 1), hread i m m' houtcome houtcome' start]
      | error e =>
          rw [numbered_cons_none (accepted_of_error houtcome),
            numbered_cons_none (accepted_of_error ((h i).rejected e houtcome)), ih (start + 1)]

/-- A shifted batch passes when its average stays in range. -/
theorem Passes.shifted (hpasses : a.Passes (places.map items))
    (hrange : a.lower ≤ mean (a.measures (places.map items')) ∧
      mean (a.measures (places.map items')) ≤ a.upper) : a.Passes (places.map items') := by
  have hnames : (places.map items').map a.name = (places.map items).map a.name := by
    rw [List.map_map, List.map_map]
    exact List.map_congr_left fun i _ => (h i).name
  refine ⟨?_, ?_, ?_, ?_, hrange⟩
  · have hnonempty := hpasses.nonempty
    simp only [ne_eq, List.map_eq_nil_iff] at hnonempty ⊢
    exact hnonempty
  · intro item hitem
    obtain ⟨i, hi, rfl⟩ := List.mem_map.mp hitem
    rw [(h i).missing]
    exact hpasses.complete _ (List.mem_map_of_mem hi)
  · rw [hnames]
    exact hpasses.distinct
  · rw [measures_length_shifted h]
    exact hpasses.enough

end Shifted

end Assessment
end Batch
end ULocalMagnitude
