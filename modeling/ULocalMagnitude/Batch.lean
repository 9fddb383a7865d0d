import Mathlib.Algebra.Order.BigOperators.Group.List
import Mathlib.Algebra.Order.Field.Basic
import Mathlib.Data.List.Forall2
import Mathlib.Data.Finset.Max
import Mathlib.Tactic.FieldSimp
import Mathlib.Tactic.Linarith
import Mathlib.Tactic.Ring

/-!
# Batches of numbered items

A batch is processed item by item; each item is numbered by its position and
some of the items are picked out, under their numbers, into a list of their own.
This file has the general facts: which numbers a picked list carries, that they
increase, and what happens to them when items that are not picked are taken out
of the batch.  The last section has the mean of a list of numbers.
-/

namespace ULocalMagnitude
namespace Batch

variable {α β γ : Type}

/-! ## Picking -/

/-- The picked items with their numbers; the first item has number `start`. -/
def numbered (pick : β → Option γ) : Nat → List β → List (γ × Nat)
  | _, [] => []
  | start, b :: rest =>
      match pick b with
      | some c => (c, start) :: numbered pick (start + 1) rest
      | none => numbered pick (start + 1) rest

theorem numbered_cons_some {pick : β → Option γ} {b : β} {c : γ} (h : pick b = some c)
    (start : Nat) (rest : List β) :
    numbered pick start (b :: rest) = (c, start) :: numbered pick (start + 1) rest := by
  simp [numbered, h]

theorem numbered_cons_none {pick : β → Option γ} {b : β} (h : pick b = none)
    (start : Nat) (rest : List β) :
    numbered pick start (b :: rest) = numbered pick (start + 1) rest := by
  simp [numbered, h]

/-- A number is carried with what the item at that position picks. -/
theorem mem_numbered {pick : β → Option γ} {start : Nat} {items : List β} {c : γ}
    {number : Nat} : (c, number) ∈ numbered pick start items ↔
      start ≤ number ∧ ∃ b, items[number - start]? = some b ∧ pick b = some c := by
  induction items generalizing start with
  | nil => simp [numbered]
  | cons b rest ih =>
      have hshift (hne : number ≠ start) (hle : start ≤ number) :
          (b :: rest)[number - start]? = rest[number - (start + 1)]? := by
        rw [show number - start = number - (start + 1) + 1 by omega, List.getElem?_cons_succ]
      have htail : (c, number) ∈ numbered pick (start + 1) rest ↔
          number ≠ start ∧ start ≤ number ∧
            ∃ d, (b :: rest)[number - start]? = some d ∧ pick d = some c := by
        rw [ih]
        constructor
        · intro h
          rcases h with ⟨hle, hitem⟩
          have hne : number ≠ start := by omega
          refine ⟨hne, by omega, ?_⟩
          rw [hshift hne (by omega)]
          exact hitem
        · intro h
          rcases h with ⟨hne, hle, hitem⟩
          rw [hshift hne hle] at hitem
          exact ⟨by omega, hitem⟩
      cases hpick : pick b with
      | some d =>
          rw [numbered_cons_some hpick, List.mem_cons, htail]
          by_cases hne : number = start
          · subst hne
            simp [hpick, eq_comm]
          · simp [hne]
      | none =>
          rw [numbered_cons_none hpick, htail]
          by_cases hne : number = start
          · subst hne
            simp [hpick]
          · simp [hne]

/-- The numbers increase strictly. -/
theorem numbered_pairwise (pick : β → Option γ) (start : Nat) (items : List β) :
    (numbered pick start items).Pairwise fun p q => p.2 < q.2 := by
  induction items generalizing start with
  | nil => exact List.Pairwise.nil
  | cons b rest ih =>
      cases hpick : pick b with
      | none =>
          rw [numbered_cons_none hpick]
          exact ih (start + 1)
      | some c =>
          rw [numbered_cons_some hpick]
          refine List.Pairwise.cons (fun q hq => ?_) (ih (start + 1))
          obtain ⟨hle, -⟩ := mem_numbered.mp hq
          exact hle

theorem numbered_map_fst (pick : β → Option γ) (start : Nat) (items : List β) :
    (numbered pick start items).map Prod.fst = items.filterMap pick := by
  induction items generalizing start with
  | nil => rfl
  | cons b rest ih =>
      cases hpick : pick b with
      | none => rw [numbered_cons_none hpick, List.filterMap_cons_none hpick, ih]
      | some c =>
          rw [numbered_cons_some hpick, List.filterMap_cons_some hpick, List.map_cons, ih]

/-! ## Taking items out -/

/-- The items at the marked positions. -/
def kept : List Bool → List β → List β
  | true :: marks, b :: items => b :: kept marks items
  | false :: marks, _ :: items => kept marks items
  | _, _ => []

/-- The items at the other positions. -/
def removed (marks : List Bool) (items : List β) : List β := kept (marks.map not) items

/-- The number of an item among the kept ones: how many marks there are up to it. -/
def renumbered (marks : List Bool) (number : Nat) : Nat := (marks.take number).count true

/-- Every item taken out satisfies `drop`. -/
def OnlyDrops (drop : β → Prop) (marks : List Bool) (items : List β) : Prop :=
  List.Forall₂ (fun mark item => mark = false → drop item) marks items

theorem kept_sublist (marks : List Bool) (items : List β) :
    (kept marks items).Sublist items := by
  induction marks generalizing items with
  | nil => simp [kept]
  | cons mark marks ih =>
      cases items with
      | nil => cases mark <;> simp [kept]
      | cons b items =>
          cases mark with
          | true => exact (ih items).cons_cons b
          | false => exact (ih items).cons b

/-- Every item is kept or removed. -/
theorem kept_append_removed_perm {marks : List Bool} {items : List β}
    (hlength : marks.length = items.length) :
    (kept marks items ++ removed marks items).Perm items := by
  induction marks generalizing items with
  | nil =>
      rw [List.eq_nil_of_length_eq_zero hlength.symm]
      exact List.Perm.nil
  | cons mark marks ih =>
      cases items with
      | nil => exact absurd hlength (Nat.succ_ne_zero _)
      | cons b items =>
          have hrest : (kept marks items ++ removed marks items).Perm items :=
            ih (Nat.succ.inj hlength)
          cases mark with
          | true => exact hrest.cons b
          | false => exact List.perm_middle.trans (hrest.cons b)

theorem onlyDrops_of_removed {drop : β → Prop} {marks : List Bool} {items : List β}
    (hlength : marks.length = items.length) (h : ∀ b ∈ removed marks items, drop b) :
    OnlyDrops drop marks items := by
  induction marks generalizing items with
  | nil =>
      rw [List.eq_nil_of_length_eq_zero hlength.symm]
      exact .nil
  | cons mark marks ih =>
      cases items with
      | nil => exact absurd hlength (Nat.succ_ne_zero _)
      | cons b items =>
          have hlength' := Nat.succ.inj hlength
          cases mark with
          | true => exact .cons nofun (ih hlength' h)
          | false =>
              exact .cons (fun _ => h b (List.mem_cons_self ..))
                (ih hlength' fun c hc => h c (List.mem_cons_of_mem b hc))

theorem onlyDrops_of_getElem? {drop : β → Prop} {marks : List Bool} {items : List β}
    (hlength : marks.length = items.length)
    (h : ∀ (k : Nat) (b : β), marks[k]? = some false → items[k]? = some b → drop b) :
    OnlyDrops drop marks items := by
  refine List.forall₂_iff_get.mpr ⟨hlength, fun k hmarks hitems hmark => ?_⟩
  refine h k _ ?_ (List.getElem?_eq_getElem hitems)
  rw [List.getElem?_eq_getElem hmarks]
  exact congrArg some hmark

/-- A kept item is found under its new number. -/
theorem getElem?_kept {marks : List Bool} {k : Nat} (hmark : marks[k]? = some true)
    (items : List β) : (kept marks items)[renumbered marks (k + 1) - 1]? = items[k]? := by
  induction marks generalizing k items with
  | nil => exact absurd hmark nofun
  | cons mark marks ih =>
      cases items with
      | nil => cases mark <;> simp [kept]
      | cons b items =>
          cases k with
          | zero =>
              obtain rfl : mark = true := Option.some.inj hmark
              rfl
          | succ k =>
              have hmark' : marks[k]? = some true := hmark
              have hrest := ih hmark' items
              cases mark with
              | false => exact hrest
              | true =>
                  -- The mark at `k` itself is counted.
                  have hpos : 0 < renumbered marks (k + 1) := by
                    obtain ⟨hk, hk'⟩ := List.getElem?_eq_some_iff.mp hmark'
                    refine List.count_pos_iff.mpr ?_
                    rw [← hk']
                    exact List.mem_take_iff_getElem.mpr ⟨k, by omega, rfl⟩
                  have hnumber : renumbered (true :: marks) (k + 1 + 1) - 1 =
                      renumbered marks (k + 1) - 1 + 1 := by
                    have hcount : renumbered (true :: marks) (k + 1 + 1) =
                        renumbered marks (k + 1) + 1 := by
                      simp [renumbered, List.take_succ_cons]
                    omega
                  rw [hnumber]
                  exact hrest

/-- Taking out items that are not picked keeps the picked ones, in order, under
the numbers that the order-preserving renumbering gives them. -/
theorem numbered_kept_from {pick : β → Option γ} {marks : List Bool} {items : List β}
    (h : OnlyDrops (fun b => pick b = none) marks items) (start count : Nat) :
    numbered pick (count + 1) (kept marks items) =
      (numbered pick (start + 1) items).map
        fun p => (p.1, count + renumbered marks (p.2 - start)) := by
  induction h generalizing start count with
  | nil => rfl
  | @cons mark b marks items hdrop _ ih =>
      have hshift (d : Nat) : List.map
          (fun p : γ × Nat => (p.1, d + renumbered marks (p.2 - (start + 1))))
            (numbered pick (start + 1 + 1) items) = List.map
          (fun p => (p.1, (d + renumbered (mark :: marks) (p.2 - start)) -
            (if mark then 1 else 0))) (numbered pick (start + 1 + 1) items) := by
        refine List.map_congr_left fun p hp => ?_
        obtain ⟨hle, -⟩ := mem_numbered.mp hp
        rw [show p.2 - start = p.2 - (start + 1) + 1 by omega]
        cases mark <;> simp [renumbered, List.take_succ_cons]
      cases mark with
      | true =>
          have hrest := (ih (start + 1) (count + 1)).trans (hshift (count + 1))
          cases hpick : pick b with
          | none =>
              rw [kept, numbered_cons_none hpick, numbered_cons_none hpick, hrest]
              exact List.map_congr_left fun p _ => by simp
          | some c =>
              rw [kept, numbered_cons_some hpick, numbered_cons_some hpick, List.map_cons,
                hrest]
              refine congrArg₂ List.cons (by simp [renumbered]) ?_
              exact List.map_congr_left fun p _ => by simp
      | false =>
          have hrest := (ih (start + 1) count).trans (hshift count)
          rw [kept, numbered_cons_none (hdrop rfl), hrest]
          exact List.map_congr_left fun p _ => by simp

theorem numbered_kept {pick : β → Option γ} {marks : List Bool} {items : List β}
    (h : OnlyDrops (fun b => pick b = none) marks items) :
    numbered pick 1 (kept marks items) =
      (numbered pick 1 items).map fun p => (p.1, renumbered marks p.2) := by
  simpa using numbered_kept_from h 0 0

theorem filterMap_kept {pick : β → Option γ} {marks : List Bool} {items : List β}
    (h : OnlyDrops (fun b => pick b = none) marks items) :
    (kept marks items).filterMap pick = items.filterMap pick := by
  have hpicked := congrArg (List.map Prod.fst) (numbered_kept h)
  rw [numbered_map_fst, List.map_map] at hpicked
  exact hpicked.trans (numbered_map_fst pick 1 items)

/-! ## The mean -/

section Mean

variable {F : Type} [Field F] [LinearOrder F] [IsStrictOrderedRing F]

/-- The arithmetic mean. -/
def mean (values : List F) : F := values.sum / values.length

theorem length_cast_pos {values : List F} (h : values ≠ []) : (0 : F) < values.length :=
  Nat.cast_pos.mpr (List.length_pos_of_ne_nil h)

/-- The deviations from the mean cancel. -/
theorem sum_sub_mean {values : List F} (h : values ≠ []) :
    (values.map fun v => mean values - v).sum = 0 := by
  have hsum (m : F) (vs : List F) :
      (vs.map fun v => m - v).sum = vs.length * m - vs.sum := by
    induction vs with
    | nil => simp
    | cons v vs ih =>
        simp only [List.map_cons, List.sum_cons, List.length_cons, ih, Nat.cast_add,
          Nat.cast_one]
        ring
  rw [hsum, mean, mul_div_cancel₀ _ (length_cast_pos h).ne', sub_self]

theorem le_mean {values : List F} (h : values ≠ []) {bound : F}
    (hbound : ∀ v ∈ values, bound ≤ v) : bound ≤ mean values := by
  rw [mean, le_div_iff₀ (length_cast_pos h), mul_comm, ← nsmul_eq_mul]
  exact List.card_nsmul_le_sum values bound hbound

theorem mean_le {values : List F} (h : values ≠ []) {bound : F}
    (hbound : ∀ v ∈ values, v ≤ bound) : mean values ≤ bound := by
  rw [mean, div_le_iff₀ (length_cast_pos h), mul_comm, ← nsmul_eq_mul]
  exact List.sum_le_card_nsmul values bound hbound

theorem mean_of_forall_eq {values : List F} (h : values ≠ []) {value : F}
    (hvalue : ∀ v ∈ values, v = value) : mean values = value :=
  le_antisymm (mean_le h fun v hv => (hvalue v hv).le) (le_mean h fun v hv => (hvalue v hv).ge)

/-- The mean lies between the smallest and the largest value. -/
theorem mean_between {values : List F} (h : values ≠ []) :
    ∃ least ∈ values, ∃ greatest ∈ values,
      (∀ v ∈ values, least ≤ v ∧ v ≤ greatest) ∧
        least ≤ mean values ∧ mean values ≤ greatest := by
  have hne : values.toFinset.Nonempty := by simpa using h
  obtain ⟨least, hleast, hmin⟩ := values.toFinset.exists_min_image id hne
  obtain ⟨greatest, hgreatest, hmax⟩ := values.toFinset.exists_max_image id hne
  simp only [List.mem_toFinset, id] at hleast hmin hgreatest hmax
  exact ⟨least, hleast, greatest, hgreatest, fun v hv => ⟨hmin v hv, hmax v hv⟩,
    le_mean h hmin, mean_le h hmax⟩

end Mean

end Batch
end ULocalMagnitude
