import ULocalMagnitude.Configuration.PropertyTree
import ULocalMagnitude.Cxx.Numerals
import ULocalMagnitude.Cxx.Tokens

/-!
# Numbered settings

The tables of a configuration have one setting for each row, numbered from one without
gaps.  `forEachItem` is the loop that both loaders of tables have; it reads the list of its
rows, `rowsOf`, from first to last.

A row is trimmed and split into tokens.  How the tokens are separated makes no difference,
as long as it is done with commas, blanks and tabs.
-/

namespace ULocalMagnitude
namespace Configuration

open Cxx

/-- `std::to_string` -/
def decimal (i : Nat) : Bytes := (Nat.toDigits 10 i).map Char.toUInt8

/-- `boost::algorithm::to_lower_copy` -/
def toLower (s : Bytes) : Bytes := s.map tolower

/-! ## Rows -/

section Rows

variable {σ : Type} (itemName : Nat → Bytes) (readItem : Bytes → Bytes → σ → Throws σ)

/-- The settings from number `i` on, until one is absent or the numbers are used up. -/
def readItems (propertyTree : PropertyTree) : Nat → Nat → σ → Throws σ
  | _, 0, s => return s
  | i, remaining + 1, s =>
      match propertyTree (itemName i) with
      | some text => do
          let s ← readItem (itemName i) text s
          readItems propertyTree (i + 1) remaining s
      | none => return s

/-- `for (int i = 1; i < std::numeric_limits<uint16_t>::max(); ++i)` -/
def forEachItem (propertyTree : PropertyTree) (s : σ) : Throws σ :=
  readItems itemName readItem propertyTree 1 65534 s

/-- The texts of the settings from number `i` on. -/
def rowsFrom (propertyTree : PropertyTree) : Nat → Nat → List Bytes
  | _, 0 => []
  | i, remaining + 1 =>
      match propertyTree (itemName i) with
      | some text => text :: rowsFrom propertyTree (i + 1) remaining
      | none => []

/-- The rows that the loop reads. -/
def rowsOf (propertyTree : PropertyTree) : List Bytes := rowsFrom itemName propertyTree 1 65534

/-- The rows one after another, the first one with number `i`. -/
def readRows : Nat → List Bytes → σ → Throws σ
  | _, [], s => return s
  | i, text :: rows, s => do
      let s ← readItem (itemName i) text s
      readRows (i + 1) rows s

variable (propertyTree : PropertyTree)

theorem readItems_eq (i remaining : Nat) (s : σ) :
    readItems itemName readItem propertyTree i remaining s =
      readRows itemName readItem i (rowsFrom itemName propertyTree i remaining) s := by
  induction remaining generalizing i s with
  | zero => rfl
  | succ remaining ih =>
      rw [readItems, rowsFrom]
      cases propertyTree (itemName i) with
      | none => rfl
      | some text => exact congrArg _ (funext fun after => ih (i + 1) after)

/-- The loop reads its rows. -/
theorem forEachItem_eq (s : σ) :
    forEachItem itemName readItem propertyTree s =
      readRows itemName readItem 1 (rowsOf itemName propertyTree) s :=
  readItems_eq itemName readItem propertyTree 1 65534 s

/-- The loop throws what its rows throw. -/
theorem raises_forEachItem {faults : Fault → Prop} {s : σ}
    (h : ∀ name text s, Raises (readItem name text s) faults) :
    Raises (forEachItem itemName readItem propertyTree s) faults := by
  have hrows (i : Nat) (rows : List Bytes) (s : σ) :
      Raises (readRows itemName readItem i rows s) faults := by
    induction rows generalizing i s with
    | nil => exact .ok s
    | cons text rows ih => exact .bind (h _ _ _) fun after _ => ih (i + 1) after
  rw [forEachItem_eq]
  exact hrows 1 _ s

/-- The settings with numbers from one on have the texts of the rows, and there is none
behind them. -/
structure Items (rows : List Bytes) : Prop where
  present : ∀ i text, rows[i]? = some text → propertyTree (itemName (i + 1)) = some text
  absent : propertyTree (itemName (rows.length + 1)) = none
  count : rows.length ≤ 65534

variable {itemName propertyTree}

theorem rowsFrom_eq {rows : List Bytes} {i remaining : Nat}
    (hpresent : ∀ k text, rows[k]? = some text → propertyTree (itemName (i + k)) = some text)
    (habsent : propertyTree (itemName (i + rows.length)) = none)
    (hcount : rows.length ≤ remaining) : rowsFrom itemName propertyTree i remaining = rows := by
  induction rows generalizing i remaining with
  | nil =>
      cases remaining with
      | zero => rfl
      | succ remaining =>
          have hnone : propertyTree (itemName i) = none := habsent
          rw [rowsFrom, hnone]
  | cons text rows ih =>
      obtain ⟨remaining, rfl⟩ : ∃ n, remaining = n + 1 :=
        Nat.exists_eq_succ_of_ne_zero (Nat.ne_zero_of_lt hcount)
      have htext : propertyTree (itemName i) = some text := hpresent 0 text rfl
      -- The settings behind the first one are numbered from `i + 1`.
      have hpresent' (k : Nat) (other : Bytes) (hk : rows[k]? = some other) :
          propertyTree (itemName (i + 1 + k)) = some other := by
        rw [Nat.add_right_comm]
        exact hpresent (k + 1) other hk
      have habsent' : propertyTree (itemName (i + 1 + rows.length)) = none := by
        rw [Nat.add_right_comm]
        exact habsent
      rw [rowsFrom, htext]
      exact congrArg _ (ih hpresent' habsent' (Nat.le_of_succ_le_succ hcount))

/-- These are the rows of the loop. -/
theorem Items.rowsOf_eq {rows : List Bytes} (h : Items itemName propertyTree rows) :
    rowsOf itemName propertyTree = rows := by
  refine rowsFrom_eq ?_ ?_ h.count
  · intro k text hk
    rw [Nat.add_comm]
    exact h.present k text hk
  · rw [Nat.add_comm]
    exact h.absent

/-! ### Rows that are written -/

/-- A digit is determined by its byte. -/
theorem digit_of_toUInt8 {c : Char} (h : c.isDigit = true) : Char.ofUInt8 c.toUInt8 = c := by
  obtain ⟨-, hhigh⟩ := Char.isDigit_iff_toNat.mp h
  have hnine : '9'.toNat = 57 := rfl
  have hbyte : c.toUInt8.toNat = c.toNat % 2 ^ 8 := rfl
  have hback : (Char.ofUInt8 c.toUInt8).val.toNat = c.toUInt8.toNat := rfl
  refine Char.ext (UInt32.toNat_inj.mp ?_)
  rw [hback, hbyte, Char.toNat_val]
  omega

/-- Different numbers are written differently: the digits are read back. -/
theorem decimal_injective : Function.Injective decimal := by
  intro i j h
  have hread (n : Nat) : (decimal n).map Char.ofUInt8 = Nat.toDigits 10 n := by
    unfold decimal
    rw [List.map_map]
    refine (List.map_congr_left fun c hc => ?_).trans (List.map_id _)
    exact digit_of_toUInt8 (Nat.isDigit_of_mem_toDigits (by decide) (by decide) hc)
  have hdigits : Nat.toDigits 10 i = Nat.toDigits 10 j := by
    rw [← hread, ← hread, h]
  have hvalues := congrArg (fun digits => Nat.ofDigitChars 10 digits 0) hdigits
  simpa using hvalues

/-- A file with these rows and nothing else; the first one has number `i`. -/
def treeFrom (itemName : Nat → Bytes) : Nat → List Bytes → PropertyTree
  | _, [] => fun _ => none
  | i, text :: rows => fun path =>
      if path = itemName i then some text else treeFrom itemName (i + 1) rows path

theorem treeFrom_itemName (h : Function.Injective itemName) (rows : List Bytes) (i k : Nat) :
    treeFrom itemName i rows (itemName (i + k)) = rows[k]? := by
  induction rows generalizing i k with
  | nil => rfl
  | cons text rows ih =>
      cases k with
      | zero => exact if_pos rfl
      | succ k =>
          have hother : itemName (i + (k + 1)) ≠ itemName i := fun hsame => by
            have hnumber := h hsame
            omega
          rw [treeFrom]
          dsimp only
          rw [if_neg hother, List.getElem?_cons_succ, ← ih (i + 1) k, Nat.add_right_comm]
          rfl

/-- What is written is what the file has. -/
theorem items_treeFrom (h : Function.Injective itemName) {rows : List Bytes}
    (hcount : rows.length ≤ 65534) : Items itemName (treeFrom itemName 1 rows) rows where
  present i text htext := by
    rw [Nat.add_comm, treeFrom_itemName h, htext]
  absent := by
    rw [Nat.add_comm, treeFrom_itemName h, List.getElem?_eq_none le_rfl]
  count := hcount

/-- What rows are read as comes from one of them. -/
theorem exists_row_of_mem {α β : Type} {reads : α → β → Prop} {rows : List α} {values : List β}
    (h : List.Forall₂ reads rows values) {value : β} (hvalue : value ∈ values) :
    ∃ row ∈ rows, reads row value := by
  induction h with
  | nil => exact absurd hvalue List.not_mem_nil
  | cons hrow _ ih =>
      rcases List.mem_cons.mp hvalue with rfl | hvalue
      · exact ⟨_, List.mem_cons_self, hrow⟩
      · obtain ⟨row, hmem, hread⟩ := ih hvalue
        exact ⟨row, List.mem_cons_of_mem _ hmem, hread⟩

end Rows

/-! ## Tokens -/

/-- `boost::is_any_of(", \t")` -/
def isSeparator (c : UInt8) : Bool := c == 44 || c == 32 || c == 9

/-- `trim_all`, then `split` with `token_compress_on`. -/
def tokens (text : Bytes) : List Bytes := splitCompressed isSeparator (trimAll isspace text)

/-- The tokens are what is written, whatever separates them. -/
theorem tokens_of_spelled {words : List Bytes} {text : Bytes}
    (h : Spelled isSeparator words text) (hsolid : Spelled.Solid isspace words)
    {lead trail : Bytes} (hlead : IsBlank lead) (htrail : IsBlank trail) :
    tokens (lead ++ (text ++ trail)) = words :=
  h.split_trimAll hsolid hlead htrail

end Configuration
end ULocalMagnitude
