/-
**Counting through a product: mixed-radix digits, the first one running fastest.**

* `digits radixes index` — the remainders of an index that is divided by one radix after the other.
* `tuples radixes` — the product of the ranges below the radixes, written as nested loops, the first
  component innermost.
* `map_digits_range` — counting from `0` to the product of the radixes runs through the tuples below them, in
  the order of the nested loops.
-/

import Mathlib

namespace Transition

/-- The digits of an index. -/
def digits : List ℕ → ℕ → List ℕ
  | [], _ => []
  | radix :: radixes, index => index % radix :: digits radixes (index / radix)

/-- All tuples below the radixes. -/
def tuples : List ℕ → List (List ℕ)
  | [] => [[]]
  | radix :: radixes => (tuples radixes).flatMap fun rest => (List.range radix).map (· :: rest)

/-- A range cut into pieces of one length. -/
theorem range_mul (radix rounds : ℕ) :
    List.range (radix * rounds) =
      (List.range rounds).flatMap fun round => (List.range radix).map (radix * round + ·) := by
  induction rounds with
  | zero => rfl
  | succ rounds ih =>
    rw [Nat.mul_succ, List.range_add, ih, List.range_succ, List.flatMap_append, List.flatMap_singleton]

/-- **Counting runs through the tuples.** -/
theorem map_digits_range (radixes : List ℕ) :
    (List.range radixes.prod).map (digits radixes) = tuples radixes := by
  induction radixes with
  | nil => rfl
  | cons radix radixes ih =>
    have piece : ∀ round, ((List.range radix).map (radix * round + ·)).map (digits (radix :: radixes)) =
        (List.range radix).map (· :: digits radixes round) := by
      intro round
      rw [List.map_map]
      refine List.map_congr_left fun digit member => ?_
      have small : digit < radix := List.mem_range.mp member
      show _ % radix :: digits radixes (_ / radix) = _
      rw [Nat.mul_add_mod, Nat.mod_eq_of_lt small, Nat.mul_add_div (Nat.zero_lt_of_lt small),
        Nat.div_eq_of_lt small, Nat.add_zero]
    rw [List.prod_cons, range_mul, List.map_flatMap, tuples, ← ih, List.flatMap_map]
    exact List.flatMap_congr fun round _ => piece round

/-- A list read by its indices. -/
theorem map_getD_range {α : Type} (items : List α) (default : α) :
    (List.range items.length).map (items.getD · default) = items := by
  refine List.ext_getElem (by simp) fun index first second => ?_
  rw [List.getElem_map, List.getElem_range, List.getD_eq_getElem items default second]

/-- **Counting through the pairs of two lists**, the first one innermost. -/
theorem map_pairs_range {α β γ : Type} (first : List α) (second : List β) (a : α) (b : β) (pair : α → β → γ) :
    (List.range (first.length * second.length)).map (fun index =>
        pair (first.getD (index % first.length) a) (second.getD (index / first.length % second.length) b)) =
      second.flatMap fun later => first.map fun inner => pair inner later := by
  conv_rhs => rw [← map_getD_range second b, List.flatMap_map]
  rw [range_mul, List.map_flatMap]
  refine List.flatMap_congr fun round inside => ?_
  have lower : round < second.length := List.mem_range.mp inside
  conv_rhs => rw [← map_getD_range first a]
  rw [List.map_map, List.map_map]
  refine List.map_congr_left fun digit member => ?_
  have small : digit < first.length := List.mem_range.mp member
  simp only [Function.comp_apply]
  rw [Nat.mul_add_mod, Nat.mod_eq_of_lt small, Nat.mul_add_div (Nat.zero_lt_of_lt small),
    Nat.div_eq_of_lt small, Nat.add_zero, Nat.mod_eq_of_lt lower]

end Transition
