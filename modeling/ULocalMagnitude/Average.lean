import ULocalMagnitude.Batch
import Mathlib.Algebra.BigOperators.Group.List.Basic

/-!
# The average over a batch

The abstract counterpart of a network calculation.  Items have names; an item
either lacks something, or it is judged and is accepted with a measure or rejected
with a reason.  The average over a batch of items is the mean of the accepted
measures, provided that the batch passes its checks: it is not empty, no item
lacks anything, no two items have one name, enough items were accepted and the
mean is in range.

* `average_eq_ok_iff`, `average_eq_error_iff` — the checks decide, in this order;
* `passes_iff`, `failure_eq` — of an item only its profile matters, and not its place;
* `accounts_result` — every item is accepted or rejected, under its own number.
-/

namespace ULocalMagnitude
namespace Batch

/-- How the items of a batch are assessed. -/
structure Assessment (α N C E M F : Type) where
  /-- The first thing that an item lacks. -/
  missing : α → Option C
  name : α → N
  outcome : α → Except E M
  measure : M → F
  /-- The least number of accepted items. -/
  minimum : Int
  lower : F
  upper : F

/-- Why there is no average. -/
inductive Failure (C : Type) where
  | noItems
  | incomplete (lacks : C)
  | duplicate
  | tooFew
  | outOfRange
deriving DecidableEq

/-- The average with the accepted and the rejected items, under their numbers. -/
structure Average (E M F : Type) where
  value : F
  accepted : List (M × Nat)
  rejected : List (E × Nat)

/-- The numbers from one to `n` are dealt out, in order, to two lists. -/
structure Accounts (n : Nat) (accepted rejected : List Nat) : Prop where
  accepted_increasing : accepted.Pairwise (· < ·)
  rejected_increasing : rejected.Pairwise (· < ·)
  disjoint : ∀ number ∈ accepted, number ∉ rejected
  exhaustive : ∀ number,
    (number ∈ accepted ∨ number ∈ rejected) ↔ 1 ≤ number ∧ number ≤ n

namespace Assessment

set_option linter.unusedSectionVars false

variable {α N C E M F : Type} [DecidableEq N] [Field F] [LinearOrder F]
  (a : Assessment α N C E M F)

/-- What an accepted item contributes. -/
def accepted (item : α) : Option M :=
  match a.outcome item with
  | .ok m => some m
  | .error _ => none

/-- Why a rejected item was rejected. -/
def rejected (item : α) : Option E :=
  match a.outcome item with
  | .ok _ => none
  | .error e => some e

/-- The measures of the accepted items, in order. -/
def measures (items : List α) : List F := (items.filterMap a.accepted).map a.measure

/-- The average of a batch that passes the checks. -/
def result (items : List α) : Average E M F where
  value := mean (a.measures items)
  accepted := numbered a.accepted 1 items
  rejected := numbered a.rejected 1 items

/-- The average, or the first check that fails. -/
def average (items : List α) : Except (Failure C) (Average E M F) :=
  if items.length = 0 then .error .noItems
  else
    match items.findSome? a.missing with
    | some lacks => .error (.incomplete lacks)
    | none =>
        if ¬ (items.map a.name).Nodup then .error .duplicate
        else if ((a.measures items).length : Int) < max 1 a.minimum then .error .tooFew
        else if mean (a.measures items) < a.lower ∨ a.upper < mean (a.measures items) then
          .error .outOfRange
        else .ok (a.result items)

/-- The batch passes all checks. -/
structure Passes (items : List α) : Prop where
  nonempty : items ≠ []
  complete : ∀ item ∈ items, a.missing item = none
  distinct : (items.map a.name).Nodup
  enough : max 1 a.minimum ≤ ((a.measures items).length : Int)
  inRange : a.lower ≤ mean (a.measures items) ∧ mean (a.measures items) ≤ a.upper

/-- The first check that the batch fails. -/
inductive Fails (items : List α) : Failure C → Prop
  | noItems (hempty : items = []) : Fails items .noItems
  | incomplete {before after : List α} {item : α} {lacks : C}
      (hitems : items = before ++ item :: after)
      (hbefore : ∀ earlier ∈ before, a.missing earlier = none)
      (hlacks : a.missing item = some lacks) : Fails items (.incomplete lacks)
  | duplicate (hnonempty : items ≠ []) (hcomplete : ∀ item ∈ items, a.missing item = none)
      (hduplicate : ¬ (items.map a.name).Nodup) : Fails items .duplicate
  | tooFew (hnonempty : items ≠ []) (hcomplete : ∀ item ∈ items, a.missing item = none)
      (hdistinct : (items.map a.name).Nodup)
      (hfew : ((a.measures items).length : Int) < max 1 a.minimum) : Fails items .tooFew
  | outOfRange (hnonempty : items ≠ []) (hcomplete : ∀ item ∈ items, a.missing item = none)
      (hdistinct : (items.map a.name).Nodup)
      (henough : max 1 a.minimum ≤ ((a.measures items).length : Int))
      (hrange : mean (a.measures items) < a.lower ∨ a.upper < mean (a.measures items)) :
      Fails items .outOfRange

variable {a}

/-! ## The checks -/

theorem average_nil : a.average [] = .error .noItems := rfl

theorem average_of_missing {items : List α} (hnonempty : items ≠ []) {lacks : C}
    (h : items.findSome? a.missing = some lacks) :
    a.average items = .error (.incomplete lacks) := by
  unfold average
  rw [if_neg (by simpa using hnonempty), h]

theorem average_of_complete {items : List α} (hnonempty : items ≠ [])
    (h : ∀ item ∈ items, a.missing item = none) :
    a.average items =
      if ¬ (items.map a.name).Nodup then .error .duplicate
      else if ((a.measures items).length : Int) < max 1 a.minimum then .error .tooFew
      else if mean (a.measures items) < a.lower ∨ a.upper < mean (a.measures items) then
        .error .outOfRange
      else .ok (a.result items) := by
  have hnone : items.findSome? a.missing = none := by simpa using h
  unfold average
  rw [if_neg (by simpa using hnonempty), hnone]

/-- A batch that passes all checks has its average. -/
theorem Passes.average {items : List α} (h : a.Passes items) :
    a.average items = .ok (a.result items) := by
  have henough := h.enough
  rw [average_of_complete h.nonempty h.complete, if_neg (not_not.mpr h.distinct),
    if_neg (by omega), if_neg]
  intro hall
  rcases hall with hlow | hhigh
  · exact absurd h.inRange.1 (not_le.mpr hlow)
  · exact absurd h.inRange.2 (not_le.mpr hhigh)

/-- There is an average exactly when the batch passes all checks. -/
theorem average_eq_ok_iff {items : List α} {r : Average E M F} :
    a.average items = .ok r ↔ a.Passes items ∧ a.result items = r := by
  constructor
  · intro h
    have hnonempty : items ≠ [] := by
      rintro rfl
      exact absurd h nofun
    cases hmissing : items.findSome? a.missing with
    | some lacks =>
        rw [average_of_missing hnonempty hmissing] at h
        exact absurd h nofun
    | none =>
        have hcomplete : ∀ item ∈ items, a.missing item = none := by simpa using hmissing
        rw [average_of_complete hnonempty hcomplete] at h
        by_cases hdistinct : (items.map a.name).Nodup
        · rw [if_neg (not_not.mpr hdistinct)] at h
          by_cases hfew : ((a.measures items).length : Int) < max 1 a.minimum
          · rw [if_pos hfew] at h
            exact absurd h nofun
          · rw [if_neg hfew] at h
            by_cases hrange : mean (a.measures items) < a.lower ∨
                a.upper < mean (a.measures items)
            · rw [if_pos hrange] at h
              exact absurd h nofun
            · rw [if_neg hrange] at h
              rw [not_or, not_lt, not_lt] at hrange
              exact ⟨⟨hnonempty, hcomplete, hdistinct, not_lt.mp hfew, hrange⟩,
                Except.ok.inj h⟩
        · rw [if_pos hdistinct] at h
          exact absurd h nofun
  · intro hall
    rcases hall with ⟨hpasses, rfl⟩
    exact hpasses.average

/-- Otherwise the first check that fails is the reason. -/
theorem average_eq_error_iff {items : List α} {failure : Failure C} :
    a.average items = .error failure ↔ a.Fails items failure := by
  constructor
  · intro h
    by_cases hempty : items = []
    · rw [hempty, average_nil] at h
      obtain rfl := Except.error.inj h
      exact .noItems hempty
    cases hmissing : items.findSome? a.missing with
    | some lacks =>
        rw [average_of_missing hempty hmissing] at h
        obtain rfl := Except.error.inj h
        obtain ⟨before, item, after, hitems, hlacks, hbefore⟩ :=
          List.findSome?_eq_some_iff.mp hmissing
        exact .incomplete hitems hbefore hlacks
    | none =>
        have hcomplete : ∀ item ∈ items, a.missing item = none := by simpa using hmissing
        rw [average_of_complete hempty hcomplete] at h
        by_cases hdistinct : (items.map a.name).Nodup
        · rw [if_neg (not_not.mpr hdistinct)] at h
          by_cases hfew : ((a.measures items).length : Int) < max 1 a.minimum
          · rw [if_pos hfew] at h
            obtain rfl := Except.error.inj h
            exact .tooFew hempty hcomplete hdistinct hfew
          · rw [if_neg hfew] at h
            by_cases hrange : mean (a.measures items) < a.lower ∨
                a.upper < mean (a.measures items)
            · rw [if_pos hrange] at h
              obtain rfl := Except.error.inj h
              exact .outOfRange hempty hcomplete hdistinct (not_lt.mp hfew) hrange
            · rw [if_neg hrange] at h
              exact absurd h nofun
        · rw [if_pos hdistinct] at h
          obtain rfl := Except.error.inj h
          exact .duplicate hempty hcomplete hdistinct
  · intro h
    cases h with
    | noItems hempty => rw [hempty, average_nil]
    | incomplete hitems hbefore hlacks =>
        refine average_of_missing (by simp [hitems]) ?_
        exact List.findSome?_eq_some_iff.mpr ⟨_, _, _, hitems, hlacks, hbefore⟩
    | duplicate hnonempty hcomplete hduplicate =>
        rw [average_of_complete hnonempty hcomplete, if_pos hduplicate]
    | tooFew hnonempty hcomplete hdistinct hfew =>
        rw [average_of_complete hnonempty hcomplete, if_neg (not_not.mpr hdistinct),
          if_pos hfew]
    | outOfRange hnonempty hcomplete hdistinct henough hrange =>
        rw [average_of_complete hnonempty hcomplete, if_neg (not_not.mpr hdistinct),
          if_neg (not_lt.mpr henough), if_pos hrange]

/-- A batch that lacks nothing does not fail for a lack. -/
theorem not_fails_incomplete {items : List α} (h : ∀ item ∈ items, a.missing item = none)
    (lacks : C) : ¬ a.Fails items (.incomplete lacks) := by
  intro hfails
  cases hfails with
  | incomplete hitems _ hlacks =>
      have hnone := h _ (hitems ▸ List.mem_append_right _ (List.mem_cons_self ..))
      cases hlacks.symm.trans hnone

/-! ## The numbers -/

theorem accepted_eq_some_iff {item : α} {m : M} :
    a.accepted item = some m ↔ a.outcome item = .ok m := by
  unfold accepted
  cases a.outcome item <;> simp

theorem accepted_eq_none_iff {item : α} :
    a.accepted item = none ↔ ∃ e, a.outcome item = .error e := by
  unfold accepted
  cases a.outcome item <;> simp

theorem rejected_eq_some_iff {item : α} {e : E} :
    a.rejected item = some e ↔ a.outcome item = .error e := by
  unfold rejected
  cases a.outcome item <;> simp

/-- An accepted item stands under the number of its place. -/
theorem mem_accepted_iff {items : List α} {m : M} {number : Nat} :
    (m, number) ∈ (a.result items).accepted ↔
      1 ≤ number ∧ ∃ item, items[number - 1]? = some item ∧ a.outcome item = .ok m := by
  show (m, number) ∈ numbered a.accepted 1 items ↔ _
  simp only [mem_numbered, accepted_eq_some_iff]

/-- A rejected item stands under the number of its place. -/
theorem mem_rejected_iff {items : List α} {e : E} {number : Nat} :
    (e, number) ∈ (a.result items).rejected ↔
      1 ≤ number ∧ ∃ item, items[number - 1]? = some item ∧ a.outcome item = .error e := by
  show (e, number) ∈ numbered a.rejected 1 items ↔ _
  simp only [mem_numbered, rejected_eq_some_iff]

/-- Every place has its number in exactly one of the two lists. -/
theorem numbers_partition (items : List α) (number : Nat) :
    (1 ≤ number ∧ number ≤ items.length ↔
      (∃ m, (m, number) ∈ (a.result items).accepted) ∨
        ∃ e, (e, number) ∈ (a.result items).rejected) ∧
      ¬ ((∃ m, (m, number) ∈ (a.result items).accepted) ∧
        ∃ e, (e, number) ∈ (a.result items).rejected) := by
  simp only [mem_accepted_iff, mem_rejected_iff]
  constructor
  · constructor
    · intro h
      rcases h with ⟨hpos, hle⟩
      have hlt : number - 1 < items.length := by omega
      have hitem := List.getElem?_eq_getElem hlt
      cases houtcome : a.outcome items[number - 1] with
      | ok m => exact Or.inl ⟨m, hpos, _, hitem, houtcome⟩
      | error e => exact Or.inr ⟨e, hpos, _, hitem, houtcome⟩
    · intro h
      rcases h with ⟨m, hpos, item, hitem, -⟩ | ⟨e, hpos, item, hitem, -⟩
      · have hlt := (List.getElem?_eq_some_iff.mp hitem).1
        omega
      · have hlt := (List.getElem?_eq_some_iff.mp hitem).1
        omega
  · intro h
    rcases h with ⟨⟨m, -, item, hitem, hm⟩, ⟨e, -, item', hitem', he⟩⟩
    obtain rfl : item = item' := Option.some.inj (hitem.symm.trans hitem')
    rw [hm] at he
    cases he

/-- The numbers of a batch are dealt out, in order, to the accepted and the rejected
items. -/
theorem accounts_result (items : List α) :
    Accounts items.length ((a.result items).accepted.map Prod.snd)
      ((a.result items).rejected.map Prod.snd) where
  accepted_increasing := List.pairwise_map.mpr (numbered_pairwise a.accepted 1 items)
  rejected_increasing := List.pairwise_map.mpr (numbered_pairwise a.rejected 1 items)
  disjoint := by
    intro number haccepted hrejected
    obtain ⟨⟨m, n⟩, hm, rfl⟩ := List.mem_map.mp haccepted
    obtain ⟨⟨e, n'⟩, he, hsame⟩ := List.mem_map.mp hrejected
    obtain rfl : n' = n := hsame
    exact (numbers_partition (a := a) items n').2 ⟨⟨m, hm⟩, ⟨e, he⟩⟩
  exhaustive := by
    intro number
    rw [(numbers_partition (a := a) items number).1]
    simp only [List.mem_map, Prod.exists]
    constructor
    · intro h
      rcases h with ⟨m, n, hm, rfl⟩ | ⟨e, n, he, rfl⟩
      · exact Or.inl ⟨m, hm⟩
      · exact Or.inr ⟨e, he⟩
    · intro h
      rcases h with ⟨m, hm⟩ | ⟨e, he⟩
      · exact Or.inl ⟨m, number, hm, rfl⟩
      · exact Or.inr ⟨e, number, he, rfl⟩

theorem accepted_of_ok {item : α} {m : M} (h : a.outcome item = .ok m) :
    a.accepted item = some m := accepted_eq_some_iff.mpr h

theorem rejected_of_ok {item : α} {m : M} (h : a.outcome item = .ok m) :
    a.rejected item = none := by
  unfold rejected
  rw [h]

theorem accepted_of_error {item : α} {e : E} (h : a.outcome item = .error e) :
    a.accepted item = none := accepted_eq_none_iff.mpr ⟨e, h⟩

theorem rejected_of_error {item : α} {e : E} (h : a.outcome item = .error e) :
    a.rejected item = some e := rejected_eq_some_iff.mpr h

theorem measures_cons_ok {item : α} {m : M} (h : a.outcome item = .ok m) (rest : List α) :
    a.measures (item :: rest) = a.measure m :: a.measures rest := by
  unfold measures
  rw [List.filterMap_cons_some (accepted_of_ok h), List.map_cons]

theorem measures_cons_error {item : α} {e : E} (h : a.outcome item = .error e)
    (rest : List α) : a.measures (item :: rest) = a.measures rest := by
  unfold measures
  rw [List.filterMap_cons_none (accepted_of_error h)]

theorem accepted_map_fst (items : List α) :
    (a.result items).accepted.map Prod.fst = items.filterMap a.accepted :=
  numbered_map_fst a.accepted 1 items

/-! ## The mean -/

theorem Passes.measures_ne_nil {items : List α} (h : a.Passes items) :
    a.measures items ≠ [] := by
  intro hnil
  have henough := h.enough
  rw [hnil] at henough
  simp at henough

/-! ## Profiles -/

/-- What of an item matters for the average. -/
def profile (a : Assessment α N C E M F) (item : α) : Bool × N × Option F :=
  ((a.missing item).isNone, a.name item, (a.accepted item).map a.measure)

theorem measures_eq_filterMap (items : List α) :
    a.measures items = items.filterMap fun item => (a.profile item).2.2 := by
  show (items.filterMap a.accepted).map a.measure = _
  rw [List.map_filterMap]
  rfl

section Rearranged

variable {items items' : List α} (h : (items.map a.profile).Perm (items'.map a.profile))

include h

theorem measures_perm : (a.measures items).Perm (a.measures items') := by
  have hmap (l : List α) : a.measures l = (l.map a.profile).filterMap fun p => p.2.2 := by
    rw [measures_eq_filterMap, List.filterMap_map]
    rfl
  rw [hmap, hmap]
  exact h.filterMap _

theorem mean_measures_eq : mean (a.measures items) = mean (a.measures items') := by
  have hperm := measures_perm h
  unfold mean
  rw [hperm.sum_eq, hperm.length_eq]

theorem distinct_iff : (items.map a.name).Nodup ↔ (items'.map a.name).Nodup := by
  have hmap (l : List α) : l.map a.name = (l.map a.profile).map fun p => p.2.1 := by
    rw [List.map_map]
    rfl
  rw [hmap, hmap]
  exact (h.map _).nodup_iff

theorem complete_iff : (∀ item ∈ items, a.missing item = none) ↔
    ∀ item ∈ items', a.missing item = none := by
  have hmap (l : List α) : (∀ item ∈ l, a.missing item = none) ↔
      ∀ p ∈ l.map a.profile, p.1 = true := by
    simp [profile]
  rw [hmap, hmap]
  exact ⟨fun hall p hp => hall p (h.mem_iff.mpr hp), fun hall p hp => hall p (h.mem_iff.mp hp)⟩

theorem ne_nil_iff : items ≠ [] ↔ items' ≠ [] := by
  have hlength := h.length_eq
  simp only [List.length_map] at hlength
  rw [← List.length_pos_iff, ← List.length_pos_iff, hlength]

/-- Batches with the same profiles in some order pass together. -/
theorem passes_iff : a.Passes items ↔ a.Passes items' := by
  have hmean := mean_measures_eq h
  have hlength := (measures_perm h).length_eq
  constructor
  · intro hpasses
    exact ⟨(ne_nil_iff h).mp hpasses.nonempty, (complete_iff h).mp hpasses.complete,
      (distinct_iff h).mp hpasses.distinct, hlength ▸ hpasses.enough, hmean ▸ hpasses.inRange⟩
  · intro hpasses
    exact ⟨(ne_nil_iff h).mpr hpasses.nonempty, (complete_iff h).mpr hpasses.complete,
      (distinct_iff h).mpr hpasses.distinct, hlength ▸ hpasses.enough,
      hmean ▸ hpasses.inRange⟩

/-- A batch that lacks nothing fails for the same reason in any order. -/
theorem Fails.rearranged (hcomplete : ∀ item ∈ items, a.missing item = none)
    {failure : Failure C} (hfails : a.Fails items failure) : a.Fails items' failure := by
  have hmean := mean_measures_eq h
  have hlength := (measures_perm h).length_eq
  have hcomplete' := (complete_iff h).mp hcomplete
  cases hfails with
  | noItems hempty =>
      refine .noItems ?_
      by_contra hne
      exact (ne_nil_iff h).mpr hne hempty
  | incomplete hitems hbefore hlacks =>
      exact absurd (.incomplete hitems hbefore hlacks) (not_fails_incomplete hcomplete _)
  | duplicate hnonempty _ hduplicate =>
      exact .duplicate ((ne_nil_iff h).mp hnonempty) hcomplete'
        (mt (distinct_iff h).mpr hduplicate)
  | tooFew hnonempty _ hdistinct hfew =>
      exact .tooFew ((ne_nil_iff h).mp hnonempty) hcomplete' ((distinct_iff h).mp hdistinct)
        (hlength ▸ hfew)
  | outOfRange hnonempty _ hdistinct henough hrange =>
      exact .outOfRange ((ne_nil_iff h).mp hnonempty) hcomplete'
        ((distinct_iff h).mp hdistinct) (hlength ▸ henough) (hmean ▸ hrange)

theorem failure_eq (hcomplete : ∀ item ∈ items, a.missing item = none)
    {failure failure' : Failure C} (hfailure : a.average items = .error failure)
    (hfailure' : a.average items' = .error failure') : failure = failure' := by
  have hfails := Fails.rearranged h hcomplete (average_eq_error_iff.mp hfailure)
  exact Except.error.inj ((average_eq_error_iff.mpr hfails).symm.trans hfailure')

end Rearranged

end Assessment

end Batch
end ULocalMagnitude
