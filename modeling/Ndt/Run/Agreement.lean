/-
**Does the guest answer the host?**

The host waits for one result line in every batch run. It gets one in test mode, on every path through
`init`, except from the loop to the greatest 64-bit value. In KUnit mode it gets an interactive shell:
`ndt.kunit=1` is a word that `init` does not know.
-/

import Ndt.Run.CommandLine
import Ndt.Guest.Answer

namespace Ndt.Run

open Shell Host Guest

/-- **Every boot of a batch run answers**: on every machine and for all outcomes of `./check`, `init`
ends, and it ends with exactly one result line before it powers off. -/
def Answered (host : Setting) (batch : Batch) : Prop :=
  ∀ (names : Pathnames) (machine : Machine) (attempts : ℕ → Attempt),
    ∃ boot enough, (∀ fuel, enough ≤ fuel →
      init names machine attempts (host.procCmdline batch) fuel = some boot) ∧ boot.Answers

/-- **KUnit mode is never answered**: `init` starts an interactive shell. -/
theorem kunit_not_answered {host : Setting} (unset : host.append = none) {batch : Batch}
    (subject : batch.subject = .kunit) : ¬ Answered host batch := by
  intro answered
  obtain ⟨boot, enough, boots, powered, _⟩ := answered .empty readyMachine fun _ => silentAttempt
  have shell := init_bash readyMachine (fun _ => silentAttempt)
    (parseCmdline_kunit unset subject .empty) rfl enough
  rw [boots enough le_rfl] at shell
  rw [Option.some.inj shell] at powered
  cases powered

/-- The printed test number is a digit string exactly when the number is not negative. -/
theorem isNumeral_printf03d (value : ℤ) : isNumeral (printf03d value) = true ↔ 0 ≤ value := by
  cases value with
  | ofNat n =>
    refine iff_of_true (isNumeral_iff.mpr ⟨(signed_printf03d _).2, ?_⟩) (Int.natCast_nonneg n)
    intro c member
    rcases List.mem_append.mp member with zero | digit
    · rw [List.eq_of_mem_replicate zero]
      rfl
    · exact isDigit_of_mem_decimal digit
  | negSucc n => exact iff_of_false (fun numeral => by cases numeral) (by omega)

/-- **Test mode is answered**, unless the loop runs to the greatest 64-bit value. -/
theorem blktest_answered_iff {host : Setting} (unset : host.append = none) {batch : Batch}
    {testNum : Text} (subject : batch.subject = .blktest (host.nn testNum))
    (numeral : isNumeral testNum = true) (iters : isNumeral batch.iters = true) :
    Answered host batch ↔
      (constant batch.iters = some intMax → wrap (decimalValue testNum) < 0) := by
  have digits : Digits batch.iters := .of_isNumeral iters
  have test := nn_eq host numeral
  rw [test] at subject
  generalize wrap (decimalValue testNum) = value at subject ⊢
  have parsed := parseCmdline_blktest unset batch subject (signed_printf03d value).1 digits
  constructor
  · intro answered greatest
    by_contra notNegative
    have numeral' := (isNumeral_printf03d value).mpr (not_lt.mp notNegative)
    obtain ⟨boot, enough, boots, _⟩ := answered .empty readyMachine fun _ => silentAttempt
    have endless := init_endless readyMachine (fun _ => silentAttempt) (parsed .empty) numeral' iters
      greatest (readyMachine_ready _) enough
    rw [boots enough le_rfl] at endless
    cases endless
  · intro finite names machine attempts
    refine init_answers machine attempts (parsed names) (signed_printf03d value).2 fun greatest => ?_
    rw [Bool.eq_false_iff]
    intro numeral'
    exact absurd (finite greatest) (not_lt.mpr ((isNumeral_printf03d value).mp numeral'))

/-- **When the guest answers an invocation**: exactly in test mode, with an iteration count other than
the greatest 64-bit value or with a test number that `init` rejects. -/
theorem invocation_answered_iff {host : Setting} {args : List Text} {options : Options} {batch : Batch}
    (unset : host.append = none) (parsed : parseArgs args = .ok options)
    (reaches : host.invoke args = .ok (.batch batch)) :
    Answered host batch ↔ options.kunitMode = false ∧
      (constant options.count = some intMax → wrap (decimalValue options.selector) < 0) := by
  obtain ⟨options', parsed', modes⟩ := invoke_batch reaches
  rw [parsed] at parsed'
  obtain rfl := Except.ok.inj parsed'
  rcases modes with ⟨kunit, rfl⟩ | ⟨blktest, numeral, accepted, rfl⟩
  · rw [kunit]
    exact iff_of_false (kunit_not_answered unset rfl) (fun both => by cases both.1)
  · rw [blktest_answered_iff unset rfl numeral (isNumeral_of_acceptsIters accepted)]
    exact (and_iff_right blktest).symm

/-- `./ndt.sh nvme/68` is answered. -/
theorem invocation_answered_default :
    Answered plainHost ⟨.blktest "068".toList, "1".toList, false⟩ := by
  let options : Options := { Options.initial with positional := ["nvme/68".toList] }
  have parsed : parseArgs ["nvme/68".toList] = .ok options := rfl
  have reaches : plainHost.invoke ["nvme/68".toList] =
      .ok (.batch ⟨.blktest "068".toList, "1".toList, false⟩) := by
    have padded : printf03d (wrap (decimalValue "68".toList)) = "068".toList := by decide
    have dispatched := @dispatch_blktest plainHost options rfl rfl rfl (acceptsIters_one plainHost)
    rw [show options.selector = "68".toList from rfl, padded] at dispatched
    rw [invoke_parsed plainHost parsed]
    exact dispatched
  have answered := invocation_answered_iff rfl parsed reaches
  exact answered.mpr ⟨rfl, fun greatest => absurd greatest (by decide)⟩

/-- **`./ndt.sh --kunit` waits for a guest that never answers.** -/
theorem kunit_invocation_not_answered :
    plainHost.invoke ["--kunit".toList] = .ok (.batch ⟨.kunit, "1".toList, false⟩) ∧
      ¬ Answered plainHost ⟨.kunit, "1".toList, false⟩ :=
  ⟨rfl, kunit_not_answered rfl rfl⟩

end Ndt.Run
