/-
**`grep -A n`: the lines that match, each with the lines behind it.**

* `grepAfter` — the lines that are printed, and `none` for a separator, which is printed where lines have been
  left out between two that are printed.
* `mem_grepAfter` — a line is printed exactly when it matches or stands at most `n` lines behind one that
  does.
-/

import Mathlib.Data.Nat.Init
import Mathlib.Logic.Basic

namespace Ndt.Shell

variable {α : Type}

/-- Where `grep` stands: nothing has been printed yet, so many lines behind a match are still to be printed, or
lines have been left out behind what was printed. -/
inductive Context
  | before
  | inside (left : ℕ)
  | behind
  deriving DecidableEq, Repr

/-- A line that does not match. -/
def Context.next : Context → Context
  | .before => .before
  | .inside (left + 1) => .inside left
  | .inside 0 => .behind
  | .behind => .behind

/-- Such a line is printed. -/
def Context.prints : Context → Bool
  | .inside (_ + 1) => true
  | _ => false

/-- `grep -A n` -/
def grepAfter (n : ℕ) (hits : α → Bool) : Context → List α → List (Option α)
  | _, [] => []
  | context, row :: rows =>
    if hits row then
      (if context = .behind then [none] else []) ++ some row :: grepAfter n hits (.inside n) rows
    else (if context.prints then [some row] else []) ++ grepAfter n hits context.next rows

/-- How many lines are printed without a match. -/
def Context.left : Context → ℕ
  | .inside left => left
  | _ => 0

theorem Context.prints_iff (context : Context) : context.prints = true ↔ 0 < context.left := by
  rcases context with _ | _ | _
  · exact iff_of_false Bool.false_ne_true (Nat.lt_irrefl 0)
  · rename_i left
    cases left with
    | zero => exact iff_of_false Bool.false_ne_true (Nat.lt_irrefl 0)
    | succ left => exact iff_of_true rfl left.succ_pos
  · exact iff_of_false Bool.false_ne_true (Nat.lt_irrefl 0)

theorem Context.left_next (context : Context) : context.next.left = context.left - 1 := by
  rcases context with _ | _ | _
  · rfl
  · rename_i left
    cases left <;> rfl
  · rfl

/-- The line at `i` stands behind a match, at most `n` lines away. -/
def Within (n : ℕ) (hits : α → Bool) (rows : List α) (i : ℕ) : Prop :=
  ∃ j ≤ i, i ≤ j + n ∧ ∃ row, rows[j]? = some row ∧ hits row = true

theorem within_cons_succ (n : ℕ) (hits : α → Bool) (row : α) (rows : List α) (i : ℕ) :
    Within n hits (row :: rows) (i + 1) ↔
      Within n hits rows i ∨ (hits row = true ∧ i < n) := by
  constructor
  · rintro ⟨_ | j, below, close, hit, at', is⟩
    · obtain rfl := Option.some.inj at'
      exact .inr ⟨is, by omega⟩
    · exact .inl ⟨j, by omega, by omega, hit, at', is⟩
  · rintro (⟨j, below, close, hit, at', is⟩ | ⟨is, close⟩)
    · exact ⟨j + 1, by omega, by omega, hit, at', is⟩
    · exact ⟨0, by omega, by omega, row, rfl, is⟩

theorem within_cons_zero (n : ℕ) (hits : α → Bool) (row : α) (rows : List α) :
    Within n hits (row :: rows) 0 ↔ hits row = true := by
  constructor
  · rintro ⟨j, below, _, hit, at', is⟩
    obtain rfl := Nat.le_zero.mp below
    obtain rfl := Option.some.inj at'
    exact is
  · exact fun is => ⟨0, Nat.le_refl 0, Nat.zero_le _, row, rfl, is⟩

/-- What is printed from a context on. -/
theorem some_mem_grepAfter {n : ℕ} {hits : α → Bool} {rows : List α} {context : Context}
    (most : context.left ≤ n) (a : α) :
    some a ∈ grepAfter n hits context rows ↔
      ∃ i, rows[i]? = some a ∧ (i < context.left ∨ Within n hits rows i) := by
  induction rows generalizing context with
  | nil => simp [grepAfter]
  | cons row rows ih =>
    -- the first line and the later ones
    have split : (∃ i, (row :: rows)[i]? = some a ∧
          (i < context.left ∨ Within n hits (row :: rows) i)) ↔
        (row = a ∧ (0 < context.left ∨ hits row = true)) ∨
          ∃ i, rows[i]? = some a ∧
            (i + 1 < context.left ∨ Within n hits rows i ∨ (hits row = true ∧ i < n)) := by
      constructor
      · rintro ⟨_ | i, at', printed⟩
        · rw [within_cons_zero] at printed
          exact .inl ⟨Option.some.inj at', printed⟩
        · rw [within_cons_succ] at printed
          exact .inr ⟨i, at', printed⟩
      · rintro (⟨rfl, printed⟩ | ⟨i, at', printed⟩)
        · exact ⟨0, rfl, by rwa [within_cons_zero]⟩
        · exact ⟨i + 1, at', by rwa [within_cons_succ]⟩
    rw [split, grepAfter]
    by_cases hit : hits row = true
    · have tail := @ih (.inside n) (Nat.le_refl n)
      have here : some a ∈ (if context = .behind then [none] else [] : List (Option α)) ++
          some row :: grepAfter n hits (.inside n) rows ↔
          row = a ∨ some a ∈ grepAfter n hits (.inside n) rows := by
        split <;> simp [eq_comm]
      rw [if_pos hit, here, tail]
      refine or_congr (by simp [hit]) (exists_congr fun i => and_congr_right fun _ => ?_)
      show i < n ∨ Within n hits rows i ↔ _
      simp only [hit, true_and]
      constructor
      · rintro (close | within)
        · exact .inr (.inr close)
        · exact .inr (.inl within)
      · rintro (early | within | close)
        · exact .inl (by omega)
        · exact .inr within
        · exact .inl close
    · have tail := @ih context.next (by rw [Context.left_next]; omega)
      have here : some a ∈ (if context.prints then [some row] else []) ++
          grepAfter n hits context.next rows ↔
          (row = a ∧ 0 < context.left) ∨ some a ∈ grepAfter n hits context.next rows := by
        rw [← Context.prints_iff, List.mem_append]
        refine or_congr_left ?_
        cases context.prints with
        | true => simp [eq_comm]
        | false => simp
      rw [if_neg hit, here, tail, Context.left_next]
      refine or_congr (by simp [hit]) (exists_congr fun i => and_congr_right fun _ => ?_)
      have shift : i < context.left - 1 ↔ i + 1 < context.left := by omega
      simp [hit, shift]

/-- **What `grep -A n` prints**: the lines at most `n` lines behind a match. -/
theorem mem_grepAfter (n : ℕ) (hits : α → Bool) (rows : List α) (a : α) :
    some a ∈ grepAfter n hits .before rows ↔
      ∃ i, rows[i]? = some a ∧ Within n hits rows i := by
  rw [some_mem_grepAfter (Nat.zero_le n)]
  refine exists_congr fun i => and_congr_right fun _ => ?_
  exact or_iff_right (Nat.not_lt_zero i)

end Ndt.Shell
