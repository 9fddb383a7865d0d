import ULocalMagnitude.Average
import Mathlib.Algebra.Order.Group.Abs

/-!
# Batches that are assessed nearly alike

Two batches, each one under an assessment of its own: at every place the items lack the same
and have one name, and they are rejected for one reason or accepted with measures that
differ by no more than an error.  Then the averages differ by no more than the error, too,
and apart from the last check, that of the range, the batches pass and fail alike.
-/

namespace ULocalMagnitude
namespace Batch

variable {F : Type} [Field F] [LinearOrder F] [IsStrictOrderedRing F] {error : F}

/-! ## Means -/

/-- The value is no farther from the other one than the error. -/
def Within (error : F) (value value' : F) : Prop := |value' - value| ≤ error

theorem abs_sum_sub_le {values values' : List F}
    (h : List.Forall₂ (Within error) values values') :
    |values'.sum - values.sum| ≤ values.length * error := by
  induction h with
  | nil => simp
  | @cons v v' vs vs' hv _ ih =>
      have hsplit : (v' :: vs').sum - (v :: vs).sum = (v' - v) + (vs'.sum - vs.sum) := by
        rw [List.sum_cons, List.sum_cons]
        ring
      have hlength : ((v :: vs).length : F) * error = error + vs.length * error := by
        rw [List.length_cons]
        push_cast
        ring
      rw [hsplit, hlength]
      exact (abs_add_le _ _).trans (add_le_add hv ih)

/-- An error of the values is no greater in their mean. -/
theorem abs_mean_sub_le {values values' : List F} (hsome : values ≠ [])
    (h : List.Forall₂ (Within error) values values') : |mean values' - mean values| ≤ error := by
  have hpos := length_cast_pos (F := F) hsome
  rw [mean, mean, ← h.length_eq, ← sub_div, abs_div, abs_of_pos hpos, div_le_iff₀ hpos,
    mul_comm]
  exact abs_sum_sub_le h

namespace Assessment

set_option linter.unusedSectionVars false

variable {α N C E M : Type} [DecidableEq N] {a a' : Assessment α N C E M F}

/-- The second assessment finds the same of the second item as the first one of the first
item, up to an error of the measure. -/
structure NearbyAt (a a' : Assessment α N C E M F) (error : F) (item item' : α) : Prop where
  missing : a'.missing item' = a.missing item
  name : a'.name item' = a.name item
  rejected : ∀ e, a.outcome item = .error e → a'.outcome item' = .error e
  accepted : ∀ m, a.outcome item = .ok m →
    ∃ m', a'.outcome item' = .ok m' ∧ Within error (a.measure m) (a'.measure m')

/-- The average if it is in range, which is the last check. -/
def inRange (a : Assessment α N C E M F) (items : List α) :
    Except (Failure C) (Average E M F) :=
  if mean (a.measures items) < a.lower ∨ a.upper < mean (a.measures items) then
    .error .outOfRange
  else .ok (a.result items)

variable {items items' : List α}

section Nearby

variable (h : List.Forall₂ (NearbyAt a a' error) items items')

include h

theorem measures_nearby :
    List.Forall₂ (Within error) (a.measures items) (a'.measures items') := by
  induction h with
  | nil => exact .nil
  | @cons item item' rest rest' hitem _ ih =>
      cases houtcome : a.outcome item with
      | ok m =>
          obtain ⟨m', houtcome', hwithin⟩ := hitem.accepted m houtcome
          rw [measures_cons_ok houtcome, measures_cons_ok houtcome']
          exact .cons hwithin ih
      | error e =>
          rw [measures_cons_error houtcome, measures_cons_error (hitem.rejected e houtcome)]
          exact ih

/-- The same items are rejected, for the same reasons. -/
theorem numbered_rejected_nearby (start : Nat) :
    numbered a'.rejected start items' = numbered a.rejected start items := by
  induction h generalizing start with
  | nil => rfl
  | @cons item item' rest rest' hitem _ ih =>
      cases houtcome : a.outcome item with
      | ok m =>
          obtain ⟨m', houtcome', -⟩ := hitem.accepted m houtcome
          rw [numbered_cons_none (rejected_of_ok houtcome),
            numbered_cons_none (rejected_of_ok houtcome'), ih]
      | error e =>
          rw [numbered_cons_some (rejected_of_error houtcome),
            numbered_cons_some (rejected_of_error (hitem.rejected e houtcome)), ih]

/-- The same items are accepted, under the same numbers. -/
theorem numbered_accepted_nearby (start : Nat) :
    List.Forall₂ (fun p p' => p'.2 = p.2 ∧ Within error (a.measure p.1) (a'.measure p'.1))
      (numbered a.accepted start items) (numbered a'.accepted start items') := by
  induction h generalizing start with
  | nil => exact .nil
  | @cons item item' rest rest' hitem _ ih =>
      cases houtcome : a.outcome item with
      | ok m =>
          obtain ⟨m', houtcome', hwithin⟩ := hitem.accepted m houtcome
          rw [numbered_cons_some (accepted_of_ok houtcome),
            numbered_cons_some (accepted_of_ok houtcome')]
          exact .cons ⟨rfl, hwithin⟩ (ih (start + 1))
      | error e =>
          rw [numbered_cons_none (accepted_of_error houtcome),
            numbered_cons_none (accepted_of_error (hitem.rejected e houtcome))]
          exact ih (start + 1)

theorem mean_nearby (hsome : a.measures items ≠ []) :
    |mean (a'.measures items') - mean (a.measures items)| ≤ error :=
  abs_mean_sub_le hsome (measures_nearby h)

theorem names_nearby : items'.map a'.name = items.map a.name := by
  induction h with
  | nil => rfl
  | cons hitem _ ih => rw [List.map_cons, List.map_cons, hitem.name, ih]

theorem findSome?_missing_nearby :
    items'.findSome? a'.missing = items.findSome? a.missing := by
  induction h with
  | nil => rfl
  | cons hitem _ ih => rw [List.findSome?_cons, List.findSome?_cons, hitem.missing, ih]

/-- Both batches fail for one reason before the last check, or the last check decides on
both of them. -/
theorem average_nearby (hminimum : a'.minimum = a.minimum) :
    (∃ failure, failure ≠ .outOfRange ∧ a.average items = .error failure ∧
        a'.average items' = .error failure) ∨
      (a.measures items ≠ [] ∧ a.average items = a.inRange items ∧
        a'.average items' = a'.inRange items') := by
  have hlength := (measures_nearby h).length_eq
  by_cases hempty : items = []
  · subst hempty
    obtain rfl := List.forall₂_nil_left_iff.mp h
    exact Or.inl ⟨.noItems, nofun, rfl, rfl⟩
  have hempty' : items' ≠ [] := by
    rintro rfl
    exact hempty (List.forall₂_nil_right_iff.mp h)
  have hmissing' := findSome?_missing_nearby h
  cases hmissing : items.findSome? a.missing with
  | some lacks =>
      exact Or.inl ⟨.incomplete lacks, nofun, average_of_missing hempty hmissing,
        average_of_missing hempty' (hmissing'.trans hmissing)⟩
  | none =>
      have hcomplete : ∀ item ∈ items, a.missing item = none := by simpa using hmissing
      have hcomplete' : ∀ item ∈ items', a'.missing item = none := by
        simpa using hmissing'.trans hmissing
      have haverage := average_of_complete hempty hcomplete
      have haverage' := average_of_complete hempty' hcomplete'
      rw [names_nearby h, ← hlength, hminimum] at haverage'
      by_cases hdistinct : (items.map a.name).Nodup
      · rw [if_neg (not_not.mpr hdistinct)] at haverage haverage'
        by_cases hfew : ((a.measures items).length : Int) < max 1 a.minimum
        · rw [if_pos hfew] at haverage haverage'
          exact Or.inl ⟨.tooFew, nofun, haverage, haverage'⟩
        · rw [if_neg hfew] at haverage haverage'
          refine Or.inr ⟨fun hnil => hfew ?_, haverage, haverage'⟩
          rw [hnil, List.length_nil]
          omega
      · rw [if_pos hdistinct] at haverage haverage'
        exact Or.inl ⟨.duplicate, nofun, haverage, haverage'⟩

end Nearby

end Assessment
end Batch
end ULocalMagnitude
