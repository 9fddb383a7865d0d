import ULocalMagnitude.Average

/-!
# One assessment shown by another

An assessment whose items, names, reasons and measures stand for those of another one.  When
each item is assessed like the item it stands for, and both see the same duplicates, the
averages are the same, up to what stands for what: `average_shown`.
-/

namespace ULocalMagnitude
namespace Batch

/-- What stands for what: the reason of the second assessment for one of the first, and the
accepted ones. -/
structure Showing (E M E' M' : Type) where
  reason : E' → E
  shows : M → M' → Prop

variable {α α' N N' C C' E E' M M' F : Type}

/-- The second average with the reasons and the accepted items of the first one. -/
structure Average.Shows (showing : Showing E M E' M') (average : Average E M F)
    (average' : Average E' M' F) : Prop where
  value : average.value = average'.value
  accepted : List.Forall₂ (fun entry entry' => entry.2 = entry'.2 ∧ showing.shows entry.1 entry'.1)
    average.accepted average'.accepted
  rejected : average.rejected =
    average'.rejected.map fun entry => (showing.reason entry.1, entry.2)

/-- Both fail in one check, or both have an average. -/
inductive AveragesShown (showing : Showing E M E' M') :
    Except (Failure C) (Average E M F) → Except (Failure C') (Average E' M' F) → Prop
  | noItems : AveragesShown showing (.error .noItems) (.error .noItems)
  | duplicate : AveragesShown showing (.error .duplicate) (.error .duplicate)
  | tooFew : AveragesShown showing (.error .tooFew) (.error .tooFew)
  | outOfRange : AveragesShown showing (.error .outOfRange) (.error .outOfRange)
  | average {average : Average E M F} {average' : Average E' M' F}
      (h : average.Shows showing average') : AveragesShown showing (.ok average) (.ok average')

namespace Assessment

set_option linter.unusedSectionVars false

variable [DecidableEq N] [DecidableEq N'] [Field F] [LinearOrder F]
  {a : Assessment α N C E M F} {a' : Assessment α' N' C' E' M' F} {showing : Showing E M E' M'}
  {items : List α} {items' : List α'}

/-- The item is assessed like the one it stands for, and nothing is missing of either. -/
structure ShownAt (a : Assessment α N C E M F) (a' : Assessment α' N' C' E' M' F)
    (showing : Showing E M E' M') (item : α) (item' : α') : Prop where
  complete : a.missing item = none ∧ a'.missing item' = none
  rejected : ∀ e', a'.outcome item' = .error e' → a.outcome item = .error (showing.reason e')
  accepted : ∀ m', a'.outcome item' = .ok m' → ∃ m, a.outcome item = .ok m ∧
    showing.shows m m' ∧ a.measure m = a'.measure m'

section Lists

variable (h : List.Forall₂ (ShownAt a a' showing) items items')

include h

theorem complete_shown : (∀ item ∈ items, a.missing item = none) ∧
    ∀ item' ∈ items', a'.missing item' = none := by
  induction h with
  | nil => exact ⟨List.forall_mem_nil _, List.forall_mem_nil _⟩
  | cons hitem _ ih =>
      exact ⟨List.forall_mem_cons.mpr ⟨hitem.complete.1, ih.1⟩,
        List.forall_mem_cons.mpr ⟨hitem.complete.2, ih.2⟩⟩

theorem measures_shown : a.measures items = a'.measures items' := by
  induction h with
  | nil => rfl
  | @cons item item' rest rest' hitem _ ih =>
      cases houtcome : a'.outcome item' with
      | ok m' =>
          obtain ⟨m, hm, -, hmeasure⟩ := hitem.accepted m' houtcome
          rw [measures_cons_ok hm, measures_cons_ok houtcome, hmeasure, ih]
      | error e' =>
          rw [measures_cons_error (hitem.rejected e' houtcome), measures_cons_error houtcome, ih]

/-- The accepted ones stand for accepted ones under the same numbers. -/
theorem numbered_accepted_shown (start : Nat) :
    List.Forall₂ (fun entry entry' => entry.2 = entry'.2 ∧ showing.shows entry.1 entry'.1)
      (numbered a.accepted start items) (numbered a'.accepted start items') := by
  induction h generalizing start with
  | nil => exact .nil
  | @cons item item' rest rest' hitem _ ih =>
      cases houtcome : a'.outcome item' with
      | ok m' =>
          obtain ⟨m, hm, hshows, -⟩ := hitem.accepted m' houtcome
          rw [numbered_cons_some (accepted_of_ok hm),
            numbered_cons_some (accepted_of_ok houtcome)]
          exact .cons ⟨rfl, hshows⟩ (ih (start + 1))
      | error e' =>
          rw [numbered_cons_none (accepted_of_error (hitem.rejected e' houtcome)),
            numbered_cons_none (accepted_of_error houtcome)]
          exact ih (start + 1)

theorem numbered_rejected_shown (start : Nat) :
    numbered a.rejected start items =
      (numbered a'.rejected start items').map fun entry => (showing.reason entry.1, entry.2) := by
  induction h generalizing start with
  | nil => rfl
  | @cons item item' rest rest' hitem _ ih =>
      cases houtcome : a'.outcome item' with
      | ok m' =>
          obtain ⟨m, hm, -⟩ := hitem.accepted m' houtcome
          rw [numbered_cons_none (rejected_of_ok hm),
            numbered_cons_none (rejected_of_ok houtcome), ih]
      | error e' =>
          rw [numbered_cons_some (rejected_of_error (hitem.rejected e' houtcome)),
            numbered_cons_some (rejected_of_error houtcome), List.map_cons, ih]

/-- The accepted ones stand for accepted ones. -/
theorem accepted_shown :
    List.Forall₂ showing.shows (items.filterMap a.accepted) (items'.filterMap a'.accepted) := by
  rw [← accepted_map_fst, ← accepted_map_fst, List.forall₂_map_left_iff,
    List.forall₂_map_right_iff]
  exact (numbered_accepted_shown h 1).imp fun _ _ hentry => hentry.2

theorem result_shown : (a.result items).Shows showing (a'.result items') where
  value := congrArg mean (measures_shown h)
  accepted := numbered_accepted_shown h 1
  rejected := numbered_rejected_shown h 1

/-- With the same duplicates and limits the averages of the two batches are the same. -/
theorem average_shown (hnames : (items.map a.name).Nodup ↔ (items'.map a'.name).Nodup)
    (hminimum : a.minimum = a'.minimum) (hlower : a.lower = a'.lower)
    (hupper : a.upper = a'.upper) :
    AveragesShown showing (a.average items) (a'.average items') := by
  by_cases hempty : items = []
  · subst hempty
    obtain rfl := List.forall₂_nil_left_iff.mp h
    exact .noItems
  have hempty' : items' ≠ [] := by
    rintro rfl
    exact hempty (List.forall₂_nil_right_iff.mp h)
  obtain ⟨hcomplete, hcomplete'⟩ := complete_shown h
  rw [average_of_complete hempty hcomplete, average_of_complete hempty' hcomplete',
    measures_shown h, hminimum, hlower, hupper]
  by_cases hdistinct : (items.map a.name).Nodup
  · rw [if_neg (not_not.mpr hdistinct), if_neg (not_not.mpr (hnames.mp hdistinct))]
    split
    · exact .tooFew
    split
    · exact .outOfRange
    · exact .average (result_shown h)
  · rw [if_pos hdistinct, if_pos (mt hnames.mpr hdistinct)]
    exact .duplicate

end Lists

end Assessment
end Batch
end ULocalMagnitude
