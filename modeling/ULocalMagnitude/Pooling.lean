import ULocalMagnitude.Average

/-!
# Batches put together and taken apart

Batches one behind the other, and a batch that one item is taken out of.  The numbers
of the second batch go on where the first one ends, and the mean of both is the mean of
the two means, each one weighted by how many items were accepted.  Without one of its
accepted items the mean of a batch moves by what this item deviates, over the number of
the others.

* `average_flatten` — the average of batches that pass, one behind the other;
* `average_without` — the average without an accepted item, from the average with it.
-/

namespace ULocalMagnitude
namespace Batch

variable {β γ : Type}

/-! ## Numbers -/

theorem numbered_add (pick : β → Option γ) (start offset : Nat) (items : List β) :
    numbered pick (start + offset) items =
      (numbered pick start items).map fun p => (p.1, p.2 + offset) := by
  induction items generalizing start with
  | nil => rfl
  | cons b rest ih =>
      have hrest := ih (start + 1)
      rw [Nat.add_right_comm] at hrest
      cases hpick : pick b with
      | some c =>
          rw [numbered_cons_some hpick, numbered_cons_some hpick, List.map_cons, hrest]
      | none => rw [numbered_cons_none hpick, numbered_cons_none hpick, hrest]

/-- The numbers of the second list go on where the first one ends. -/
theorem numbered_append (pick : β → Option γ) (start : Nat) (first second : List β) :
    numbered pick start (first ++ second) =
      numbered pick start first ++
        (numbered pick start second).map fun p => (p.1, p.2 + first.length) := by
  induction first generalizing start with
  | nil => simp [numbered]
  | cons b rest ih =>
      -- The rest is one shorter and starts one later.
      have hlater : (numbered pick (start + 1) second).map
          (fun p => (p.1, p.2 + rest.length)) =
            (numbered pick start second).map fun p => (p.1, p.2 + (b :: rest).length) := by
        rw [numbered_add pick start 1, List.map_map]
        refine List.map_congr_left fun p _ => ?_
        simp [Nat.add_assoc, Nat.add_comm 1]
      rw [List.cons_append]
      cases hpick : pick b with
      | some c =>
          rw [numbered_cons_some hpick, numbered_cons_some hpick, ih, hlater, List.cons_append]
      | none => rw [numbered_cons_none hpick, numbered_cons_none hpick, ih, hlater]

/-- What the numbers of a list come to without the item under the number. -/
def droppedAt (number : Nat) (entries : List (γ × Nat)) : List (γ × Nat) :=
  (entries.filter fun p => p.2 ≠ number).map fun p =>
    (p.1, if p.2 < number then p.2 else p.2 - 1)

section Dropped

variable {number : Nat} {entries : List (γ × Nat)}

theorem droppedAt_append (number : Nat) (first second : List (γ × Nat)) :
    droppedAt number (first ++ second) = droppedAt number first ++ droppedAt number second := by
  unfold droppedAt
  rw [List.filter_append, List.map_append]

theorem droppedAt_cons_self (c : γ) :
    droppedAt number ((c, number) :: entries) = droppedAt number entries := by
  unfold droppedAt
  rw [List.filter_cons_of_neg (by simp)]

theorem droppedAt_of_lt (h : ∀ p ∈ entries, p.2 < number) :
    droppedAt number entries = entries := by
  unfold droppedAt
  rw [List.filter_eq_self.mpr fun p hp => decide_eq_true (h p hp).ne]
  exact (List.map_congr_left fun p hp => by rw [if_pos (h p hp)]).trans
    (List.map_id' entries)

theorem droppedAt_of_gt (h : ∀ p ∈ entries, number < p.2) :
    droppedAt number entries = entries.map fun p => (p.1, p.2 - 1) := by
  unfold droppedAt
  rw [List.filter_eq_self.mpr fun p hp => decide_eq_true (h p hp).ne']
  exact List.map_congr_left fun p hp => by rw [if_neg (h p hp).not_gt]

end Dropped

/-- Without an item the ones behind it have the next lower number. -/
theorem numbered_without (pick : β → Option γ) (before after : List β) (item : β) :
    numbered pick 1 (before ++ after) =
      droppedAt (before.length + 1) (numbered pick 1 (before ++ item :: after)) := by
  have hbefore : ∀ p ∈ numbered pick 1 before, p.2 < before.length + 1 := by
    intro p hp
    obtain ⟨hpos, b, hb, -⟩ := mem_numbered.mp hp
    have hlt := (List.getElem?_eq_some_iff.mp hb).1
    omega
  have hafter : ∀ p ∈ numbered pick (before.length + 1 + 1) after,
      before.length + 1 < p.2 := fun p hp => (mem_numbered.mp hp).1
  have hitem : droppedAt (before.length + 1)
      (numbered pick (before.length + 1) (item :: after)) =
        droppedAt (before.length + 1) (numbered pick (before.length + 1 + 1) after) := by
    cases hpick : pick item with
    | some c => rw [numbered_cons_some hpick, droppedAt_cons_self]
    | none => rw [numbered_cons_none hpick]
  rw [numbered_append, numbered_append, ← numbered_add, ← numbered_add, droppedAt_append,
    droppedAt_of_lt hbefore, Nat.add_comm 1, hitem, droppedAt_of_gt hafter,
    numbered_add pick (before.length + 1) 1, List.map_map]
  exact congrArg (numbered pick 1 before ++ ·) (List.map_id'' (fun _ => rfl) _).symm

/-! ## Means -/

section Mean

variable {F : Type} [Field F] [LinearOrder F] [IsStrictOrderedRing F]

theorem length_mul_mean (values : List F) : values.length * mean values = values.sum := by
  by_cases h : values = []
  · simp [h]
  · exact mul_div_cancel₀ _ (length_cast_pos h).ne'

/-- The mean of two lists is the mean of their means, weighted by their lengths. -/
theorem mean_append (first second : List F) :
    mean (first ++ second) = (first.length * mean first + second.length * mean second) /
      (first.length + second.length) := by
  rw [length_mul_mean, length_mul_mean, mean, List.sum_append, List.length_append,
    Nat.cast_add]

/-- What lies between two bounds for two lists does so for both together. -/
theorem mean_append_between {first second : List F} (hfirst : first ≠ []) {lower upper : F}
    (h : lower ≤ mean first ∧ mean first ≤ upper)
    (h' : lower ≤ mean second ∧ mean second ≤ upper) :
    lower ≤ mean (first ++ second) ∧ mean (first ++ second) ≤ upper := by
  have hpos := length_cast_pos (F := F) hfirst
  have hnonneg : (0 : F) ≤ second.length := Nat.cast_nonneg _
  have htotal : (0 : F) < first.length + second.length := add_pos_of_pos_of_nonneg hpos hnonneg
  rw [mean_append]
  constructor
  · rw [le_div_iff₀ htotal, mul_add, mul_comm lower, mul_comm lower]
    exact add_le_add (mul_le_mul_of_nonneg_left h.1 hpos.le)
      (mul_le_mul_of_nonneg_left h'.1 hnonneg)
  · rw [div_le_iff₀ htotal, mul_add, mul_comm upper, mul_comm upper]
    exact add_le_add (mul_le_mul_of_nonneg_left h.2 hpos.le)
      (mul_le_mul_of_nonneg_left h'.2 hnonneg)

/-- Without one of its values a mean moves away from it. -/
theorem mean_without {before after : List F} (h : before ++ after ≠ []) (value : F) :
    mean (before ++ after) = mean (before ++ value :: after) +
      (mean (before ++ value :: after) - value) / (before ++ after).length := by
  have hpos := length_cast_pos (F := F) h
  have hsum : (before ++ value :: after).sum = (before ++ after).sum + value := by
    simp only [List.sum_append, List.sum_cons]
    ring
  have hlength : ((before ++ value :: after).length : F) = (before ++ after).length + 1 := by
    simp only [List.length_append, List.length_cons]
    push_cast
    ring
  rw [mean, mean, hsum, hlength]
  field_simp
  ring

end Mean

namespace Assessment

set_option linter.unusedSectionVars false

variable {α N C E M F : Type} [DecidableEq N] [Field F] [LinearOrder F]
  {a : Assessment α N C E M F}

theorem measures_append (first second : List α) :
    a.measures (first ++ second) = a.measures first ++ a.measures second := by
  unfold measures
  rw [List.filterMap_append, List.map_append]

theorem measures_without {before after : List α} {item : α} {m : M}
    (h : a.outcome item = .ok m) :
    a.measures (before ++ item :: after) =
      a.measures before ++ a.measure m :: a.measures after := by
  rw [measures_append, measures_cons_ok h]

/-! ## Two batches -/

section Both

variable [IsStrictOrderedRing F] {first second : List α}

theorem Passes.append (h : a.Passes first) (h' : a.Passes second)
    (hdisjoint : (first.map a.name).Disjoint (second.map a.name)) :
    a.Passes (first ++ second) where
  nonempty := List.append_ne_nil_of_left_ne_nil h.nonempty second
  complete item hitem := (List.mem_append.mp hitem).elim (h.complete item) (h'.complete item)
  distinct := by
    rw [List.map_append]
    exact h.distinct.append h'.distinct hdisjoint
  enough := by
    have henough := h.enough
    rw [measures_append, List.length_append]
    omega
  inRange := by
    rw [measures_append]
    exact mean_append_between h.measures_ne_nil h.inRange h'.inRange

/-- No name is in both batches. -/
def Apart (a : Assessment α N C E M F) (first second : List α) : Prop :=
  ∀ item ∈ first, ∀ other ∈ second, a.name item ≠ a.name other

instance (a : Assessment α N C E M F) (first second : List α) :
    Decidable (a.Apart first second) :=
  inferInstanceAs (Decidable (∀ item ∈ first, ∀ other ∈ second, a.name item ≠ a.name other))

theorem disjoint_map_name_iff :
    (first.map a.name).Disjoint (second.map a.name) ↔ a.Apart first second := by
  simp only [List.disjoint_iff_ne, List.forall_mem_map, Apart]

end Both

/-! ## Any number of batches -/

section Several

variable [IsStrictOrderedRing F] {batches : List (List α)}

theorem apart_flatten {batch : List α} (h : ∀ other ∈ batches, a.Apart batch other) :
    a.Apart batch batches.flatten := by
  intro item hitem other hother
  obtain ⟨behind, hbehind, hmem⟩ := List.mem_flatten.mp hother
  exact h behind hbehind item hitem other hmem

/-- Batches that pass, where no name is in two of them, pass one behind the other. -/
theorem passes_flatten (h : ∀ batch ∈ batches, a.Passes batch) (hsome : batches ≠ [])
    (hapart : batches.Pairwise a.Apart) : a.Passes batches.flatten := by
  induction batches with
  | nil => exact absurd rfl hsome
  | cons batch rest ih =>
      have hbatch := h batch (List.mem_cons_self ..)
      obtain ⟨hfirst, hothers⟩ := List.pairwise_cons.mp hapart
      rw [List.flatten_cons]
      by_cases hnil : rest = []
      · rw [hnil, List.flatten_nil, List.append_nil]
        exact hbatch
      · have hrest := ih (fun other hother => h other (List.mem_cons_of_mem batch hother))
          hnil hothers
        exact hbatch.append hrest (disjoint_map_name_iff.mpr (apart_flatten hfirst))

/-- Where names are distinct in each batch, they are distinct in all of them together
exactly when no name is in two of them. -/
theorem nodup_map_flatten_iff (h : ∀ batch ∈ batches, (batch.map a.name).Nodup) :
    (batches.flatten.map a.name).Nodup ↔ batches.Pairwise a.Apart := by
  rw [List.map_flatten, List.nodup_flatten, List.forall_mem_map, List.pairwise_map]
  simp only [disjoint_map_name_iff]
  exact and_iff_right h

/-- Batches that pass have an average together exactly when no name is in two of them. -/
theorem average_flatten (h : ∀ batch ∈ batches, a.Passes batch) (hsome : batches ≠ []) :
    a.average batches.flatten =
      if batches.Pairwise a.Apart then .ok (a.result batches.flatten)
      else .error .duplicate := by
  by_cases hapart : batches.Pairwise a.Apart
  · rw [if_pos hapart]
    exact (passes_flatten h hsome hapart).average
  · rw [if_neg hapart]
    obtain ⟨batch, hbatch⟩ := List.exists_mem_of_ne_nil batches hsome
    refine average_eq_error_iff.mpr (.duplicate ?_ ?_ fun hdistinct => hapart ?_)
    · exact fun hnil => (h batch hbatch).nonempty (List.flatten_eq_nil_iff.mp hnil batch hbatch)
    · intro item hitem
      obtain ⟨other, hother, hmem⟩ := List.mem_flatten.mp hitem
      exact (h other hother).complete item hmem
    · exact (nodup_map_flatten_iff fun other hother => (h other hother).distinct).mp hdistinct

end Several

/-! ## One item less -/

section Without

variable {before after : List α} {item : α} {m : M}

theorem length_measures_without (before after : List α) (hitem : a.outcome item = .ok m) :
    (a.measures (before ++ item :: after)).length =
      (a.measures (before ++ after)).length + 1 := by
  rw [measures_without hitem, measures_append, List.length_append, List.length_append,
    List.length_cons, Nat.add_assoc]

/-- A batch that passes, without an item that was accepted in it: too little may be left,
and the mean may have moved out of range. -/
theorem average_without (h : a.Passes (before ++ item :: after))
    (hitem : a.outcome item = .ok m) :
    a.average (before ++ after) =
      if before ++ after = [] then .error .noItems
      else if ((a.measures (before ++ item :: after)).length : Int) - 1 < max 1 a.minimum then
        .error .tooFew
      else if mean (a.measures (before ++ after)) < a.lower ∨
          a.upper < mean (a.measures (before ++ after)) then .error .outOfRange
      else .ok (a.result (before ++ after)) := by
  have hsublist : (before ++ after).Sublist (before ++ item :: after) :=
    (List.Sublist.refl before).append (List.sublist_cons_self item after)
  have hlength : ((a.measures (before ++ item :: after)).length : Int) - 1 =
      (a.measures (before ++ after)).length := by
    rw [length_measures_without before after hitem]
    omega
  by_cases hempty : before ++ after = []
  · rw [if_pos hempty, hempty, average_nil]
  · rw [if_neg hempty, hlength,
      average_of_complete hempty fun other hother => h.complete other (hsublist.subset hother),
      if_neg (not_not.mpr ((hsublist.map a.name).nodup h.distinct))]

/-- Where enough is left, the mean moved by the deviation of the item over the number of
the others. -/
theorem mean_measures_without [IsStrictOrderedRing F] (hitem : a.outcome item = .ok m)
    (hleft : a.measures (before ++ after) ≠ []) :
    mean (a.measures (before ++ after)) = mean (a.measures (before ++ item :: after)) +
      (mean (a.measures (before ++ item :: after)) - a.measure m) /
        (a.measures (before ++ after)).length := by
  rw [measures_append] at hleft ⊢
  rw [measures_without hitem]
  exact mean_without hleft (a.measure m)

end Without

end Assessment
end Batch
end ULocalMagnitude
