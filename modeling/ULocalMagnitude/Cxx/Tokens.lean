import Mathlib.Data.List.DropRight
import Mathlib.Tactic.Common

/-!
# Trimming and splitting

The algorithms of `boost::algorithm` for lists.  `trimAll` removes the elements of a kind at
both ends and leaves one of each run of them inside; `splitCompressed` splits where
separators are, and takes a run of them for one.  Empty tokens remain at the ends.

Tokens can be spelled with any separators between them.  `Spelled` is the relation between
the tokens and their spellings, and both algorithms see the tokens only.
-/

namespace ULocalMagnitude
namespace Cxx

variable {α : Type}

section Algorithms

variable (p : α → Bool)

/-- `trim_if` -/
def trim (s : List α) : List α := (s.dropWhile p).rdropWhile p

/-- Keeps the first of each run; is a run going on? -/
def compressFrom : Bool → List α → List α
  | _, [] => []
  | going, c :: rest =>
      if p c then
        if going then compressFrom true rest else c :: compressFrom true rest
      else c :: compressFrom false rest

def compress (s : List α) : List α := compressFrom p false s

/-- `trim_all_if` -/
def trimAll (s : List α) : List α := compress p (trim p s)

/-- `split` with `token_compress_on` -/
def splitCompressed (s : List α) : List (List α) := (compress p s).splitOnP p

end Algorithms

/-! ## Runs -/

section Runs

variable {p : α → Bool}

theorem compressFrom_cons_of_not {c : α} (h : p c = false) (going : Bool) (rest : List α) :
    compressFrom p going (c :: rest) = c :: compressFrom p false rest := by
  rw [compressFrom, h, if_neg Bool.false_ne_true]

/-- Elements of other kinds stay. -/
theorem compressFrom_append_of_not {s : List α} (hs : ∀ c ∈ s, p c = false) (hne : s ≠ [])
    (going : Bool) (rest : List α) :
    compressFrom p going (s ++ rest) = s ++ compressFrom p false rest := by
  induction s generalizing going with
  | nil => exact absurd rfl hne
  | cons c s ih =>
      rw [List.cons_append, compressFrom_cons_of_not (hs c List.mem_cons_self)]
      by_cases hnil : s = []
      · rw [hnil]
        rfl
      · rw [ih (fun d hd => hs d (List.mem_cons_of_mem _ hd)) hnil]
        rfl

/-- A run that goes on is dropped up to its end. -/
theorem compressFrom_append_of_going {run : List α} (hrun : ∀ c ∈ run, p c = true)
    (rest : List α) : compressFrom p true (run ++ rest) = compressFrom p true rest := by
  induction run with
  | nil => rfl
  | cons c run ih =>
      rw [List.cons_append, compressFrom, hrun c List.mem_cons_self, if_pos rfl, if_pos rfl]
      exact ih fun d hd => hrun d (List.mem_cons_of_mem _ hd)

end Runs

/-! ## Splitting at each separator -/

section Split

variable {p : α → Bool} {s : List α}

/-- One token is the list itself. -/
theorem of_splitOnP_eq_singleton {token : List α} (h : s.splitOnP p = [token]) :
    token = s ∧ ∀ c ∈ s, p c = false := by
  induction s generalizing token with
  | nil =>
      cases h
      exact ⟨rfl, List.forall_mem_nil _⟩
  | cons c s ih =>
      rw [List.splitOnP_cons_eq_if_modifyHead] at h
      obtain ⟨first, rest, hsplit⟩ := List.exists_cons_of_ne_nil (List.splitOnP_ne_nil p s)
      cases hc : p c with
      | true =>
          rw [hc, if_pos rfl, hsplit] at h
          cases h
      | false =>
          rw [hc, if_neg Bool.false_ne_true, hsplit, List.modifyHead_cons] at h
          cases h
          obtain ⟨rfl, hs⟩ := ih hsplit
          exact ⟨rfl, List.forall_mem_cons.mpr ⟨hc, hs⟩⟩

/-- Two tokens are what is before and what is behind the only separator. -/
theorem splitOnP_eq_pair_iff {first second : List α} :
    s.splitOnP p = [first, second] ↔ (∀ c ∈ first, p c = false) ∧
      (∀ c ∈ second, p c = false) ∧ ∃ c, p c = true ∧ s = first ++ c :: second := by
  constructor
  · intro h
    induction s generalizing first with
    | nil => cases h
    | cons c s ih =>
        rw [List.splitOnP_cons_eq_if_modifyHead] at h
        cases hc : p c with
        | true =>
            -- The first separator: nothing is before it, and the rest is one token.
            rw [hc, if_pos rfl] at h
            obtain ⟨rfl, hsecond⟩ := List.cons.inj h
            obtain ⟨rfl, hs⟩ := of_splitOnP_eq_singleton hsecond
            exact ⟨List.forall_mem_nil _, hs, c, hc, rfl⟩
        | false =>
            obtain ⟨token, rest, hsplit⟩ := List.exists_cons_of_ne_nil
              (List.splitOnP_ne_nil p s)
            rw [hc, if_neg Bool.false_ne_true, hsplit, List.modifyHead_cons] at h
            obtain ⟨rfl, rfl⟩ := List.cons.inj h
            obtain ⟨htoken, hsecond, d, hd, rfl⟩ := ih hsplit
            exact ⟨List.forall_mem_cons.mpr ⟨hc, htoken⟩, hsecond, d, hd, rfl⟩
  · rintro ⟨hfirst, hsecond, c, hc, rfl⟩
    rw [List.splitOnP_append_cons_of_forall_mem hfirst c hc,
      List.splitOnP_eq_singleton hsecond]

end Split

/-! ## Spellings -/

/-- The tokens, none of them empty and without separators, with runs of separators between
them. -/
inductive Spelled (separator : α → Bool) : List (List α) → List α → Prop
  | last {token : List α} (hne : token ≠ []) (htoken : ∀ c ∈ token, separator c = false) :
      Spelled separator [token] token
  | next {token gap rest : List α} {tokens : List (List α)} (hne : token ≠ [])
      (htoken : ∀ c ∈ token, separator c = false) (hgap : gap ≠ [])
      (hseparators : ∀ c ∈ gap, separator c = true) (h : Spelled separator tokens rest) :
      Spelled separator (token :: tokens) (token ++ (gap ++ rest))

namespace Spelled

variable {separator : α → Bool} {tokens : List (List α)} {s : List α}

/-- A spelling starts with an element that is no separator. -/
theorem exists_cons (h : Spelled separator tokens s) :
    ∃ c rest, s = c :: rest ∧ separator c = false := by
  cases h with
  | @last token hne htoken =>
      obtain ⟨c, rest, rfl⟩ := List.exists_cons_of_ne_nil hne
      exact ⟨c, rest, rfl, htoken c List.mem_cons_self⟩
  | @next token gap rest tokens hne htoken hgap hseparators h =>
      obtain ⟨c, first, rfl⟩ := List.exists_cons_of_ne_nil hne
      exact ⟨c, first ++ (gap ++ rest), rfl, htoken c List.mem_cons_self⟩

/-- Splitting finds the tokens. -/
theorem splitCompressed_eq (h : Spelled separator tokens s) :
    splitCompressed separator s = tokens := by
  unfold splitCompressed compress
  induction h with
  | @last token hne htoken =>
      have hkept := compressFrom_append_of_not htoken hne false []
      rw [List.append_nil] at hkept
      rw [hkept, compressFrom, List.append_nil]
      exact List.splitOnP_eq_singleton htoken
  | @next token gap rest tokens hne htoken hgap hseparators hrest ih =>
      obtain ⟨c, gap, rfl⟩ := List.exists_cons_of_ne_nil hgap
      obtain ⟨d, tail, rfl, hd⟩ := hrest.exists_cons
      have hc := hseparators c List.mem_cons_self
      -- The gap shrinks to its first separator, and the rest starts a new token.
      have hcompressed : compressFrom separator false (token ++ (c :: gap ++ d :: tail)) =
          token ++ c :: compressFrom separator false (d :: tail) := by
        rw [compressFrom_append_of_not htoken hne, List.cons_append, compressFrom, hc,
          if_pos rfl, if_neg Bool.false_ne_true, compressFrom_append_of_going fun e he =>
            hseparators e (List.mem_cons_of_mem _ he), compressFrom_cons_of_not hd,
          compressFrom_cons_of_not hd]
      rw [hcompressed, List.splitOnP_append_cons_of_forall_mem htoken _ hc, ih]

/-! ### Blanks -/

variable {blank : α → Bool}

/-- Of a gap some separators remain when its blanks are shrunk, and at least one unless it
continues a run. -/
theorem exists_gap {d : α} (hd : blank d = false) (tail : List α) {gap : List α}
    (hgap : ∀ c ∈ gap, separator c = true) (going : Bool) :
    ∃ kept, (∀ c ∈ kept, separator c = true) ∧ (going = false → gap ≠ [] → kept ≠ []) ∧
      compressFrom blank going (gap ++ d :: tail) =
        kept ++ compressFrom blank false (d :: tail) := by
  induction gap generalizing going with
  | nil =>
      refine ⟨[], by simp, by simp, ?_⟩
      rw [List.nil_append, List.nil_append, compressFrom_cons_of_not hd,
        compressFrom_cons_of_not hd]
  | cons c gap ih =>
      obtain ⟨hc, hgap'⟩ := List.forall_mem_cons.mp hgap
      -- A blank of the gap stays or goes with its run; another separator ends the run.
      cases hbc : blank c with
      | true =>
          obtain ⟨kept, hkept, -, heq⟩ := ih hgap' true
          cases going with
          | true =>
              refine ⟨kept, hkept, by simp, ?_⟩
              rw [List.cons_append, compressFrom, hbc, if_pos rfl, if_pos rfl, heq]
          | false =>
              refine ⟨c :: kept, List.forall_mem_cons.mpr ⟨hc, hkept⟩, by simp, ?_⟩
              rw [List.cons_append, compressFrom, hbc, if_pos rfl, if_neg Bool.false_ne_true,
                heq, List.cons_append]
      | false =>
          obtain ⟨kept, hkept, -, heq⟩ := ih hgap' false
          refine ⟨c :: kept, List.forall_mem_cons.mpr ⟨hc, hkept⟩, by simp, ?_⟩
          rw [List.cons_append, compressFrom_cons_of_not hbc, heq, List.cons_append]

/-- The tokens have no blanks. -/
def Solid (blank : α → Bool) (tokens : List (List α)) : Prop :=
  ∀ token ∈ tokens, ∀ c ∈ token, blank c = false

/-- Then a spelling starts with no blank either. -/
theorem not_blank_head (hsolid : Solid blank tokens) {d : α} {tail : List α}
    (h : Spelled separator tokens (d :: tail)) : blank d = false := by
  -- The head is the first element of the first token.
  generalize hs : d :: tail = s at h
  cases h with
  | last hne htoken =>
      refine hsolid _ List.mem_cons_self d ?_
      rw [← hs]
      exact List.mem_cons_self
  | @next token gap rest tokens hne htoken hgap hseparators h =>
      obtain ⟨c, first, rfl⟩ := List.exists_cons_of_ne_nil hne
      obtain rfl : d = c := (List.cons.inj hs).1
      exact hsolid _ List.mem_cons_self d List.mem_cons_self

/-- And it ends with none. -/
theorem not_blank_last (hsolid : Solid blank tokens) (h : Spelled separator tokens s) :
    ∃ front c, s = front ++ [c] ∧ blank c = false := by
  induction h with
  | @last token hne htoken =>
      exact ⟨_, _, (List.dropLast_append_getLast hne).symm,
        hsolid token List.mem_cons_self _ (List.getLast_mem hne)⟩
  | @next token gap rest tokens _ _ _ _ _ ih =>
      -- The last element is that of the last token, behind all gaps.
      obtain ⟨front, c, rfl, hc⟩ := ih fun other hother =>
        hsolid other (List.mem_cons_of_mem _ hother)
      exact ⟨token ++ (gap ++ front), c, by simp only [List.append_assoc], hc⟩

/-- Shrinking the runs of blanks keeps the tokens. -/
theorem compress (hsolid : Solid blank tokens) (h : Spelled separator tokens s) :
    Spelled separator tokens (compress blank s) := by
  unfold Cxx.compress
  induction h with
  | @last token hne htoken =>
      have hkept := compressFrom_append_of_not (hsolid token List.mem_cons_self) hne false []
      rw [List.append_nil] at hkept
      rw [hkept, compressFrom, List.append_nil]
      exact .last hne htoken
  | @next token gap rest tokens hne htoken hgap hseparators hrest ih =>
      have hsolid' : Solid blank tokens := fun other hother =>
        hsolid other (List.mem_cons_of_mem _ hother)
      obtain ⟨d, tail, rfl, -⟩ := hrest.exists_cons
      obtain ⟨kept, hkept, hsome, heq⟩ :=
        exists_gap (hrest.not_blank_head hsolid') tail hseparators false
      rw [compressFrom_append_of_not (hsolid token List.mem_cons_self) hne, heq]
      exact .next hne htoken (hsome rfl hgap) hkept (ih hsolid')

/-- Blanks around a spelling are trimmed. -/
theorem trim_eq (hsolid : Solid blank tokens) (h : Spelled separator tokens s)
    {lead trail : List α} (hlead : ∀ c ∈ lead, blank c = true)
    (htrail : ∀ c ∈ trail, blank c = true) : trim blank (lead ++ (s ++ trail)) = s := by
  -- The spelling stops the trimming at both ends, since it starts and ends with a token.
  have hdrop : (lead ++ (s ++ trail)).dropWhile blank = s ++ trail := by
    obtain ⟨c, rest, rfl, -⟩ := h.exists_cons
    rw [List.dropWhile_append_of_pos hlead, List.cons_append, List.dropWhile_cons,
      h.not_blank_head hsolid, if_neg Bool.false_ne_true]
  have hrdrop : (s ++ trail).rdropWhile blank = s := by
    obtain ⟨front, d, hs, hd⟩ := h.not_blank_last hsolid
    have htrail' : ∀ c ∈ trail.reverse, blank c = true := by simpa using htrail
    rw [List.rdropWhile, List.reverse_append, List.dropWhile_append_of_pos htrail', hs,
      List.reverse_append, List.reverse_singleton, List.singleton_append,
      List.dropWhile_cons, hd, if_neg Bool.false_ne_true, List.reverse_cons,
      List.reverse_reverse]
  rw [trim, hdrop, hrdrop]

/-- Whatever separates the tokens and whatever blanks are around them, they are found. -/
theorem split_trimAll (hsolid : Solid blank tokens) (h : Spelled separator tokens s)
    {lead trail : List α} (hlead : ∀ c ∈ lead, blank c = true)
    (htrail : ∀ c ∈ trail, blank c = true) :
    splitCompressed separator (trimAll blank (lead ++ (s ++ trail))) = tokens := by
  rw [trimAll, h.trim_eq hsolid hlead htrail]
  exact (h.compress hsolid).splitCompressed_eq

end Spelled

end Cxx
end ULocalMagnitude
