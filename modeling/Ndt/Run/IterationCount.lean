/-
**One text, four readings: the iteration count.**

The host checks the text with a regular expression and a comparison, multiplies it into a budget, and
compares it with the passes; the guest bounds its loop with it. All of them read it as a constant of shell
arithmetic, so a leading `0` means octal: `010` is eight iterations, and `08` is no number at all.

* `budget_eq` — the budget of a digit string.
* `constant_of_small` — up to seven, leading zeros do no harm; `octal_lt` — from eight on they do.
* `one_meaning_iff` — the four readings are all the decimal value exactly when the text has no leading
  zero, or its value is at most seven, and the budget fits in 64 bits.
-/

import Ndt.Run.Pass

namespace Ndt.Run

open Shell Host Guest

/-! ### Octal and decimal values -/

/-- The value of a digit string in base `base`. -/
def valueIn (base : ℕ) (t : Text) : ℕ := Nat.ofDigitChars base t 0

theorem valueIn_concat (base : ℕ) (t : Text) (c : Char) :
    valueIn base (t ++ [c]) = base * valueIn base t + (c.toNat - '0'.toNat) := by
  rw [valueIn, Nat.ofDigitChars_append, Nat.ofDigitChars_cons]
  rfl

/-- Read in base eight a digit string is no greater, and as great only up to seven. -/
theorem octal_lt (t : Text) :
    valueIn 8 t ≤ valueIn 10 t ∧ (valueIn 8 t = valueIn 10 t →
      (∀ c ∈ t, c.toNat - '0'.toNat < 8) → valueIn 10 t ≤ 7) := by
  induction t using List.reverseRecOn with
  | nil => exact ⟨le_rfl, fun _ _ => Nat.zero_le 7⟩
  | append_singleton t c ih =>
    rw [valueIn_concat, valueIn_concat]
    refine ⟨by omega, fun same octal => ?_⟩
    have digit := octal c (by simp)
    omega

/-- Up to seven a digit string reads the same in base eight. -/
theorem octal_of_small (t : Text) (small : valueIn 10 t ≤ 7) :
    valueIn 8 t = valueIn 10 t ∧ ∀ c ∈ t, c.toNat - '0'.toNat < 8 := by
  induction t using List.reverseRecOn with
  | nil => exact ⟨rfl, by simp⟩
  | append_singleton t c ih =>
    rw [valueIn_concat] at small
    obtain ⟨same, octal⟩ := ih (by omega)
    refine ⟨?_, ?_⟩
    · rw [valueIn_concat, valueIn_concat]
      omega
    · intro d member
      rcases List.mem_append.mp member with early | last
      · exact octal d early
      · rw [List.mem_singleton.mp last]
        omega

theorem decimalValue_zero_cons (rest : Text) : decimalValue ('0' :: rest) = valueIn 10 rest := by
  rw [decimalValue, Nat.ofDigitChars_cons]
  rfl

/-- **Without a leading zero, or up to seven**, the constant is the decimal value modulo `2 ^ 64`. -/
theorem constant_of_plain {s : Text} (digits : Digits s)
    (plain : s.head? ≠ some '0' ∨ decimalValue s ≤ 7) : constant s = some (wrap (decimalValue s)) := by
  by_cases zero : s.head? = some '0'
  · obtain ⟨rest, rfl⟩ := List.head?_eq_some_iff.mp zero
    have small := plain.resolve_left (fun different => different zero)
    rw [decimalValue_zero_cons] at small ⊢
    obtain ⟨same, octal⟩ := octal_of_small rest small
    rw [constant_octal (fun c member => digits c (List.mem_cons_of_mem _ member)) octal]
    exact congrArg (fun n : ℕ => some (wrap n)) same
  · exact constant_decimal digits zero

/-! ### The budget -/

/-- The budget as it is parsed. -/
theorem parse_budget :
    parse "iters * per_iter + 120".toList =
      some (.binary .add (.binary .mul (.var "iters".toList) (.var "per_iter".toList))
        (.const 120)) := by
  decide +kernel

/-- **The budget of a digit string**, with the default time for an iteration. -/
theorem budget_eq {host : Setting} (default' : host.perIterSec = none) {s : Text} (digits : Digits s) :
    host.budget s = (constant s).map fun value => wrap (value * 600 + 120) := by
  let env := (host.vars.set "iters".toList s).set "per_iter".toList "600".toList
  have itersSet : env "iters".toList = some s := by
    show ((host.vars.set "iters".toList s).set "per_iter".toList "600".toList) "iters".toList = _
    rw [Env.set_other _ _ (by decide), Env.set_same]
  have perIterSet : env "per_iter".toList = some "600".toList := Env.set_same _ _ _
  have perIter : host.perIter = "600".toList := by rw [Setting.perIter, default']
  have readIters := eval_digits 1022 itersSet digits
  have readPerIter := eval_digits 1022 perIterSet (show Digits "600".toList by decide)
  have evaluated : host.budget s = (((evalExpr true (evalText true 1023) (.binary .add
      (.binary .mul (.var "iters".toList) (.var "per_iter".toList)) (.const 120))).exec env).1).toOption := by
    rw [Setting.budget, arith, maxDepth, evalText, parse_budget, perIter]
  rw [evaluated]
  cases value : constant s with
  | none =>
    rw [value] at readIters
    rw [evalExpr_binary_error (evalExpr_binary_error readIters)]
    rfl
  | some n =>
    rw [value] at readIters
    have product : (evalExpr true (evalText true 1023) (.binary .mul (.var "iters".toList)
        (.var "per_iter".toList))).exec env = (.ok (wrap (n * 600)), env) :=
      evalExpr_binary ⟨by decide, by decide⟩ readIters readPerIter
    have sum : (evalExpr true (evalText true 1023) (.binary .add (.binary .mul (.var "iters".toList)
        (.var "per_iter".toList)) (.const 120))).exec env = (.ok (wrap (wrap (n * 600) + 120)), env) :=
      evalExpr_binary ⟨by decide, by decide⟩ product (evalExpr_const 120)
    rw [sum, wrap_add]
    rfl

/-! ### The four readings -/

/-- **The iteration count means one number**, its decimal value `k`: the budget is `k * 600 + 120`
seconds and positive, the guest runs `./check` exactly `k` times and stops, and the host asks for
exactly `k` passes. -/
structure OneMeaning (host : Setting) (s : Text) : Prop where
  budget : ∃ budget, host.budget s = some budget ∧ budget = decimalValue s * 600 + 120 ∧ 0 < budget
  guest : ∀ (names : Pathnames) (machine : Machine) (attempts : ℕ → Attempt) (nn : Text) (follow : Bool),
    isNumeral nn = true → machine.Ready nn → ∃ enough, ∀ fuel, enough ≤ fuel → ∃ console,
      init names machine attempts (host.procCmdline ⟨.blktest nn, s, follow⟩) fuel =
        some ⟨console, .poweroff, decimalValue s⟩
  comparison : ∀ (nn : Text) (follow : Bool) (p : ℕ), p < 2 ^ 63 →
    (host.compare ⟨.blktest nn, s, follow⟩ ⟨decimal p, "0".toList, "0".toList⟩ = some .PASS ↔
      p = decimalValue s)

/-- Two counts with a budget below `2 ^ 63` do not share it. -/
theorem budget_injective {first second : ℕ} (below : first ≤ second)
    (fits : second * 600 + 120 < 2 ^ 63)
    (same : wrap ((first : ℤ) * 600 + 120) = (second : ℤ) * 600 + 120) : first = second := by
  have room : first * 600 + 120 < 2 ^ 63 := lt_of_le_of_lt (by gcongr) fits
  have small := wrap_natCast room
  push_cast at small
  rw [same] at small
  omega

/-- A budget that is exact leaves only texts that read the same in all places. -/
theorem plain_of_budget {host : Setting} (default' : host.perIterSec = none) {s : Text}
    (digits : Digits s) (exact' : host.budget s = some (decimalValue s * 600 + 120 : ℤ)) :
    (s.head? ≠ some '0' ∨ decimalValue s ≤ 7) ∧ decimalValue s * 600 + 120 < 2 ^ 63 := by
  rw [budget_eq default' digits] at exact'
  obtain ⟨value, stated, wrapped⟩ := Option.map_eq_some_iff.mp exact'
  have fits : decimalValue s * 600 + 120 < 2 ^ 63 := by
    have range := (wrap_range (value * 600 + 120)).2
    rw [wrapped] at range
    unfold intMax at range
    omega
  refine ⟨?_, fits⟩
  by_contra leading
  push Not at leading
  obtain ⟨zero, great⟩ := leading
  obtain ⟨rest, rfl⟩ := List.head?_eq_some_iff.mp zero
  have later : Digits rest := fun c member => digits c (List.mem_cons_of_mem _ member)
  rw [decimalValue_zero_cons] at great fits wrapped
  obtain ⟨below, equal⟩ := octal_lt rest
  by_cases octal : ∀ c ∈ rest, c.toNat - '0'.toNat < 8
  · rw [constant_octal later octal] at stated
    obtain rfl := Option.some.inj stated
    rw [wrap_mul_add] at wrapped
    exact absurd (equal (budget_injective below fits wrapped) octal) (not_le.mpr great)
  · push Not at octal
    rw [constant_octal_invalid later octal] at stated
    cases stated

/-- **One meaning for the iteration count**: exactly without a leading zero, or up to seven, and with a
budget that fits in 64 bits. -/
theorem one_meaning_iff {host : Setting} {s : Text} (unset : host.append = none)
    (default' : host.perIterSec = none) (accepted : host.acceptsIters s = true) :
    OneMeaning host s ↔
      (s.head? ≠ some '0' ∨ decimalValue s ≤ 7) ∧ decimalValue s * 600 + 120 < 2 ^ 63 := by
  have numeral := isNumeral_of_acceptsIters accepted
  have digits : Digits s := .of_isNumeral numeral
  constructor
  · intro meaning
    obtain ⟨budget, exact', rfl, _⟩ := meaning.budget
    exact plain_of_budget default' digits exact'
  rintro ⟨plain, fits⟩
  have value : constant s = some (decimalValue s : ℤ) := by
    rw [constant_of_plain digits plain, wrap_natCast (by omega)]
  have positive := (acceptsIters_iff numeral value).mp accepted
  refine ⟨⟨_, ?_, rfl, by omega⟩, ?_, ?_⟩
  · have small : wrap ((decimalValue s * 600 + 120 : ℕ) : ℤ) = (decimalValue s * 600 + 120 : ℕ) :=
      wrap_natCast fits
    push_cast at small
    rw [budget_eq default' digits, value, Option.map_some, small]
  · intro names machine attempts nn follow test ready
    have parsed := parseCmdline_blktest unset ⟨.blktest nn, s, follow⟩ rfl
      (Digits.signed (.of_isNumeral test)) digits names
    refine ⟨decimalValue s + 1, fun fuel enough => ?_⟩
    obtain ⟨final, _, _, boot⟩ := init_runs machine attempts parsed test numeral value (by omega)
      (by omega) ready enough
    exact ⟨_, boot⟩
  · intro nn follow p small
    have zero : Digits "0".toList := by decide
    have one : (∃ n, constant (decimal p) = some n ∧ constant s = some n) ↔ p = decimalValue s := by
      rw [value, constant_of_decimal, wrap_natCast small]
      simp only [Option.some.injEq, exists_eq_left']
      rw [eq_comm]
      exact Nat.cast_inj
    rw [compare_pass_iff rfl (digits_decimal p) zero zero digits, one]
    exact and_iff_left ⟨rfl, rfl⟩

/-- Twelve means twelve everywhere. -/
theorem one_meaning_twelve : OneMeaning plainHost "12".toList :=
  (one_meaning_iff rfl rfl ((acceptsIters_iff rfl (show constant "12".toList = some 12 by decide)).mpr
    (by norm_num))).mpr ⟨Or.inl (by decide), by decide⟩

/-- **`./ndt.sh 68 010` runs eight iterations and passes with eight**: the host accepts the text, budgets
for eight, and takes eight passes for all of them. -/
theorem one_meaning_fails_octal :
    plainHost.acceptsIters "010".toList = true ∧ decimalValue "010".toList = 10 ∧
      plainHost.budget "010".toList = some (8 * 600 + 120) ∧
      plainHost.compare ⟨.blktest "068".toList, "010".toList, false⟩
        ⟨"8".toList, "0".toList, "0".toList⟩ = some .PASS ∧
      ¬ OneMeaning plainHost "010".toList := by
  have eight : constant "010".toList = some 8 := by decide
  have accepted : plainHost.acceptsIters "010".toList = true :=
    (acceptsIters_iff rfl eight).mpr (by norm_num)
  have budget : plainHost.budget "010".toList = some (8 * 600 + 120) := by
    rw [budget_eq rfl (by decide), eight]
    rfl
  refine ⟨accepted, by decide, budget, ?_, fun meaning => ?_⟩
  · rw [compare_pass_iff rfl (by decide) (by decide) (by decide) (by decide)]
    exact ⟨⟨8, by decide, eight⟩, by decide, by decide⟩
  obtain ⟨seconds, exact', rfl, _⟩ := meaning.budget
  rw [budget] at exact'
  exact absurd exact' (by decide)

end Ndt.Run
