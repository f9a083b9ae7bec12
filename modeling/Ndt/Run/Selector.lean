/-
**Test selectors and the tests they name.**

A selector is a digit string, with or without one `nvme/` before it. The host takes its decimal value with
64-bit arithmetic and prints it in three digits or more; the guest checks that it has digits and looks up the
file of this name. Below `2 ^ 63` the name states the value, whatever the number of leading zeros; from there
on it never does (`selectors_iff`).
-/

import Ndt.Run.Spelling
import Ndt.Run.CommandLine
import Ndt.Guest.Answer

namespace Ndt.Run

open Shell Host Guest

/-! ### Three digits or more -/

/-- A number in decimal, padded with zeros to three digits. -/
def padded (n : ℕ) : Text := List.replicate (3 - (decimal n).length) '0' ++ decimal n

theorem printf03d_natCast (n : ℕ) : printf03d (n : ℤ) = padded n := rfl

theorem decimalValue_zeros (k : ℕ) : decimalValue (List.replicate k '0') = 0 := by
  induction k with
  | zero => rfl
  | succ k ih => rw [List.replicate_succ', decimalValue_append, ih]; rfl

/-- The name states the number. -/
@[simp] theorem decimalValue_padded (n : ℕ) : decimalValue (padded n) = n := by
  rw [padded, decimalValue_append, decimalValue_zeros, decimalValue_decimal, Nat.mul_zero, Nat.zero_add]

theorem padded_injective : Function.Injective padded := fun first second same => by
  rw [← decimalValue_padded first, same, decimalValue_padded]

theorem isNumeral_padded (n : ℕ) : isNumeral (padded n) = true := by
  refine isNumeral_iff.mpr ⟨?_, ?_⟩
  · rw [padded]
    exact List.append_ne_nil_of_right_ne_nil _ (decimal_ne_nil n)
  · intro c member
    rcases List.mem_append.mp member with zero | digit
    · rw [List.eq_of_mem_replicate zero]
      rfl
    · exact isDigit_of_mem_decimal digit

/-- What is printed for a number is its own name only. -/
theorem eq_of_printf03d {value : ℤ} {n : ℕ} (same : printf03d value = padded n) : value = n := by
  cases value with
  | ofNat m => rw [padded_injective (show padded m = padded n from same)]; rfl
  | negSucc m =>
    have digit : ('-' : Char).isDigit = true := by
      refine (isNumeral_iff.mp (isNumeral_padded n)).2 '-' ?_
      rw [← same]
      exact List.mem_cons_self
    cases digit

/-- A 64-bit value is the number itself exactly below `2 ^ 63`. -/
theorem wrap_eq_natCast_iff (n : ℕ) : wrap (n : ℤ) = n ↔ n < 2 ^ 63 := by
  constructor
  · intro same
    have range := (wrap_range (n : ℤ)).2
    rw [same, intMax] at range
    omega
  · exact wrap_natCast

/-! ### One selector -/

/-- A digit string, with or without `nvme/`. -/
def selector (prefixed : Bool) (digits : Text) : Text :=
  if prefixed then "nvme/".toList ++ digits else digits

theorem startsWith_of_isDigit {p digits : Text} (other : p.head?.any Char.isDigit = false)
    (nonempty : p ≠ []) (all : Digits digits) : startsWith p digits = false := by
  rw [Bool.eq_false_iff]
  intro starts
  obtain ⟨tail, rfl⟩ := startsWith_iff.mp starts
  cases p with
  | nil => exact nonempty rfl
  | cons c p =>
    rw [List.head?_cons, Option.any_some, all c (by simp)] at other
    cases other

theorem selector_spec (prefixed : Bool) {digits : Text} (numeral : isNumeral digits = true) :
    selector prefixed digits ≠ [] ∧ startsWith "-".toList (selector prefixed digits) = false ∧
      trimPrefix "nvme/".toList (selector prefixed digits) = digits := by
  obtain ⟨nonempty, all⟩ := isNumeral_iff.mp numeral
  cases prefixed with
  | true => exact ⟨by simp [selector], rfl, trimPrefix_append _ _⟩
  | false =>
    exact ⟨nonempty, startsWith_of_isDigit rfl (List.cons_ne_nil _ _) all,
      trimPrefix_of_not (startsWith_of_isDigit rfl (by decide) all)⟩

/-- **The host on a selector**: the test it hands to the guest. -/
theorem invoke_selector {host : Setting} {count : Text} (accepted : host.acceptsIters count = true)
    (prefixed : Bool) {digits : Text} (numeral : isNumeral digits = true) :
    host.invoke [selector prefixed digits, count] =
      .ok (.batch ⟨.blktest (printf03d (wrap (decimalValue digits))), count, false⟩) := by
  obtain ⟨nonempty, noDash, trimmed⟩ := selector_spec prefixed numeral
  have countNumeral := isNumeral_iff.mp (isNumeral_of_acceptsIters accepted)
  have countNoDash : startsWith "-".toList count = false :=
    startsWith_of_isDigit rfl (List.cons_ne_nil _ _) countNumeral.2
  let spelling := Spelling.operands noDash countNoDash
  have parsed : parseArgs [selector prefixed digits, count] = .ok spelling.options :=
    spelling.parseArgs_eq noDash countNoDash
  have chosen : spelling.options.selector = digits := by
    rw [spelling.selector_eq nonempty, trimmed]
  have counted : spelling.options.count = count := by
    rw [spelling.count_eq, if_neg]
    rintro (empty | given)
    · exact countNumeral.1 empty
    · cases given.1
  have follow : spelling.options.follow = false := by
    show List.any [selector prefixed digits, count] isFollow = false
    rw [List.any_cons, List.any_cons, isFollow_of_noDash noDash, isFollow_of_noDash countNoDash]
    rfl
  rw [invoke_parsed host parsed, dispatch_blktest rfl rfl (by rw [chosen, numeral]) (by rw [counted, accepted]), chosen, counted, follow]

/-- **The guest looks up exactly this file**: without it, `init` gives up for the lack of it; with it, and the
device up, it goes on to run this test. -/
def LooksUp (cmdline count name : Text) : Prop :=
  ∀ names (machine : Machine) attempts fuel, validIter count = true →
    (machine.testFile name = false →
      init names machine attempts cmdline fuel = some (ndtDie (preamble machine) "test-not-found")) ∧
    (machine.testFile name = true → machine.vnvmeLoad = true → machine.hotplug = true →
      machine.nvme0n1 = true →
        init names machine attempts cmdline fuel =
          (runLoop count name attempts fuel (loopStart machine)).map fun final =>
            ⟨final.console ++ [resultLine final.tally count name], .poweroff, final.checks⟩)

/-- **A selector names a test**: the host accepts it and hands this name to the guest, which accepts it as well
formed and looks up exactly this file. -/
def Names (host : Setting) (sel count name : Text) : Prop :=
  ∃ batch, host.invoke [sel, count] = .ok (.batch batch) ∧ batch.name = name ∧
    (∀ names, isNumeral (parseCmdline names (host.procCmdline batch)).ndtTest = true) ∧
    LooksUp (host.procCmdline batch) count name

/-- Two selectors run the same test. -/
def SameTest (host : Setting) (first second count : Text) : Prop :=
  ∃ one other, host.invoke [first, count] = .ok (.batch one) ∧
    host.invoke [second, count] = .ok (.batch other) ∧ one.name = other.name

theorem looksUp_of_parsed {cmdline count nn : Text} (numeral : isNumeral nn = true)
    (parsed : ∀ names, parseCmdline names cmdline = ⟨nn, count⟩) :
    LooksUp cmdline count ("nvme/".toList ++ nn) := by
  intro names machine attempts fuel valid
  refine ⟨fun missing => ?_, fun file load hotplug device =>
    init_loop machine attempts (parsed names) numeral valid ⟨file, load, hotplug, device⟩ fuel⟩
  have test : nn ≠ [] := (isNumeral_iff.mp numeral).1
  have iter : count ≠ [] := by
    rintro rfl
    cases valid
  simp only [init, parsed names, if_neg test, if_neg iter, numeral, valid, missing, Bool.not_true,
    Bool.not_false, Bool.false_eq_true, if_false, if_true]

/-- **One selector** names the test of its value exactly below `2 ^ 63`. -/
theorem names_iff {host : Setting} (unset : host.append = none) {count : Text}
    (accepted : host.acceptsIters count = true) (prefixed : Bool) {digits : Text}
    (numeral : isNumeral digits = true) :
    Names host (selector prefixed digits) count ("nvme/".toList ++ padded (decimalValue digits)) ↔
      decimalValue digits < 2 ^ 63 := by
  have invoked := invoke_selector accepted prefixed numeral
  constructor
  · rintro ⟨batch, invoked', name, _⟩
    rw [invoked] at invoked'
    cases invoked'
    have printed : printf03d (wrap (decimalValue digits)) = padded (decimalValue digits) :=
      List.append_cancel_left (show "nvme/".toList ++ _ = "nvme/".toList ++ _ from name)
    exact (wrap_eq_natCast_iff _).mp (eq_of_printf03d printed)
  · intro small
    rw [wrap_natCast small, printf03d_natCast] at invoked
    have numeral' := isNumeral_padded (decimalValue digits)
    have parsed : ∀ names, parseCmdline names (host.procCmdline
        ⟨.blktest (padded (decimalValue digits)), count, false⟩) = ⟨padded (decimalValue digits), count⟩ :=
      parseCmdline_blktest unset _ rfl (Digits.signed (.of_isNumeral numeral'))
        (.of_isNumeral (isNumeral_of_acceptsIters accepted))
    refine ⟨_, invoked, rfl, fun names => ?_, looksUp_of_parsed numeral' parsed⟩
    rw [parsed names]
    exact numeral'

/-! ### Two selectors -/

/-- **Selectors denote numbers**, exactly below `2 ^ 63`: both name the test of their value, and they run the
same test if and only if their values are equal. -/
theorem selectors_iff {host : Setting} (unset : host.append = none) {count : Text}
    (accepted : host.acceptsIters count = true) {first second : Text}
    (firstNumeral : isNumeral first = true) (secondNumeral : isNumeral second = true)
    (firstPrefixed secondPrefixed : Bool) :
    (Names host (selector firstPrefixed first) count ("nvme/".toList ++ padded (decimalValue first)) ∧
      Names host (selector secondPrefixed second) count
        ("nvme/".toList ++ padded (decimalValue second)) ∧
      (SameTest host (selector firstPrefixed first) (selector secondPrefixed second) count ↔
        decimalValue first = decimalValue second)) ↔
      decimalValue first < 2 ^ 63 ∧ decimalValue second < 2 ^ 63 := by
  have one := names_iff unset accepted firstPrefixed firstNumeral
  have other := names_iff unset accepted secondPrefixed secondNumeral
  constructor
  · rintro ⟨firstNames, secondNames, _⟩
    exact ⟨one.mp firstNames, other.mp secondNames⟩
  · rintro ⟨firstSmall, secondSmall⟩
    refine ⟨one.mpr firstSmall, other.mpr secondSmall, ?_⟩
    have firstInvoked := invoke_selector accepted firstPrefixed firstNumeral
    have secondInvoked := invoke_selector accepted secondPrefixed secondNumeral
    rw [wrap_natCast firstSmall, printf03d_natCast] at firstInvoked
    rw [wrap_natCast secondSmall, printf03d_natCast] at secondInvoked
    constructor
    · rintro ⟨firstBatch, secondBatch, invoked, invoked', same⟩
      rw [firstInvoked] at invoked
      rw [secondInvoked] at invoked'
      cases invoked
      cases invoked'
      exact padded_injective (List.append_cancel_left same)
    · intro equal
      exact ⟨_, _, firstInvoked, secondInvoked, by rw [equal]⟩

theorem selectors_sixty_eight :
    Names plainHost "68".toList "1".toList "nvme/068".toList ∧
      SameTest plainHost "68".toList "nvme/0068".toList "1".toList := by
  have accepted := acceptsIters_one plainHost
  have both := (@selectors_iff plainHost rfl "1".toList accepted "68".toList "0068".toList
    (by decide) (by decide) false true).mpr (by decide)
  exact ⟨both.1, both.2.2.mpr (by decide)⟩

/-- **A selector that wraps**: `18446744073709551684` is `2 ^ 64 + 68`, and runs the test `nvme/068`. -/
theorem wrapped_selector :
    isNumeral "18446744073709551684".toList = true ∧
      SameTest plainHost "18446744073709551684".toList "68".toList "1".toList ∧
      ¬ Names plainHost "18446744073709551684".toList "1".toList
        ("nvme/".toList ++ padded (decimalValue "18446744073709551684".toList)) := by
  have accepted := acceptsIters_one plainHost
  have numeral : isNumeral "18446744073709551684".toList = true := by decide
  refine ⟨numeral, ?_, fun names => ?_⟩
  · have wraps := @invoke_selector plainHost "1".toList accepted false _ numeral
    have small := @invoke_selector plainHost "1".toList accepted false "68".toList (by decide)
    exact ⟨_, _, wraps, small, by decide⟩
  · have below := (@names_iff plainHost rfl "1".toList accepted false _ numeral).mp names
    exact absurd below (by decide)

end Ndt.Run
