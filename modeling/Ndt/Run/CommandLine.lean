/-
**From the host's arguments to the guest's request.**

* `invoke_batch` — what an argument vector has to be for the host to reach its wait loop.
* `nn_eq` — the test number as the host prints it: digits, or a minus sign and digits for a number
  from `2 ^ 63` on.
* `parseCmdline_blktest`, `parseCmdline_kunit` — the guest reads back the test and the iteration count
  that the host put on the kernel command line; in KUnit mode it reads neither.
-/

import Ndt.Host.Words

namespace Ndt.Run

open Shell Host Guest

/-- A host without variables of its own, in an empty directory. -/
def plainHost : Setting := ⟨fun _ => none, .empty, none, none⟩

/-! ### The batch an invocation asks for -/

theorem invoke_parsed (host : Setting) {args : List Text} {options : Options}
    (parsed : parseArgs args = .ok options) : host.invoke args = host.dispatch options := by
  rw [Setting.invoke, parsed]
  rfl

/-- **An invocation that reaches the wait loop** runs KUnit once, or one test a number of times that
the host has accepted. -/
theorem invoke_batch {host : Setting} {args : List Text} {batch : Batch}
    (reaches : host.invoke args = .ok (.batch batch)) :
    ∃ options, parseArgs args = .ok options ∧
      ((options.kunitMode = true ∧ batch = ⟨.kunit, "1".toList, options.follow⟩) ∨
        (options.kunitMode = false ∧ isNumeral options.selector = true ∧
          host.acceptsIters options.count = true ∧
          batch = ⟨.blktest (host.nn options.selector), options.count, options.follow⟩)) := by
  cases parsed : parseArgs args with
  | error exit =>
    rw [Setting.invoke, parsed] at reaches
    cases reaches
  | ok options =>
    refine ⟨options, rfl, ?_⟩
    have dispatched : host.dispatch options = .ok (.batch batch) := by
      rw [invoke_parsed host parsed] at reaches
      exact reaches
    unfold Setting.dispatch at dispatched
    split at dispatched
    · cases dispatched
    split at dispatched
    · rename_i kunit
      cases dispatched
      exact Or.inl ⟨kunit, rfl⟩
    · rename_i blktest
      rw [Bool.not_eq_true] at blktest
      split at dispatched
      · cases dispatched
      split at dispatched
      · cases dispatched
      split at dispatched
      · cases dispatched
      · rename_i numeral accepted
        rw [Bool.not_eq_true', Bool.not_eq_false] at numeral accepted
        cases dispatched
        exact Or.inr ⟨blktest, numeral, accepted, rfl⟩

/-- The iteration count of a batch run is a digit string. -/
theorem isNumeral_of_acceptsIters {host : Setting} {iters : Text}
    (accepted : host.acceptsIters iters = true) : isNumeral iters = true := by
  rw [Setting.acceptsIters, Bool.and_eq_true] at accepted
  exact accepted.1

/-- `iters < 1` as it is parsed. -/
theorem parse_iters_below :
    parse "iters < 1".toList = some (.binary .lt (.var "iters".toList) (.const 1)) := by
  decide +kernel

/-- **An iteration count is accepted** if its value is at least one. -/
theorem acceptsIters_iff {host : Setting} {s : Text} (numeral : isNumeral s = true) {value : ℤ}
    (stated : constant s = some value) : host.acceptsIters s = true ↔ 1 ≤ value := by
  let env := host.vars.set "iters".toList s
  have readIters := eval_digits 1022 (show env "iters".toList = some s from Env.set_same _ _ _)
    (.of_isNumeral numeral)
  rw [stated] at readIters
  have compared : (evalExpr true (evalText true 1023) (.binary .lt (.var "iters".toList)
      (.const 1))).exec env = (.ok (ofBool (value < 1)), env) :=
    evalExpr_binary ⟨by decide, by decide⟩ readIters (evalExpr_const 1)
  have test : arithCommand true "iters < 1".toList env = some (decide (value < 1)) := by
    rw [arithCommand, arith, maxDepth, evalText, parse_iters_below, compared]
    by_cases below : value < 1 <;> simp [status, ofBool, below]
  rw [Setting.acceptsIters, numeral, test, ← not_lt]
  simp

/-- The default iteration count is accepted. -/
theorem acceptsIters_one (host : Setting) : host.acceptsIters "1".toList = true :=
  (acceptsIters_iff rfl (show constant "1".toList = some 1 by decide)).mpr le_rfl

/-! ### The test number -/

/-- A number as `printf` prints it. -/
def Signed (t : Text) : Prop := ∀ c ∈ t, c.isDigit = true ∨ c = '-'

theorem Digits.signed {t : Text} (digits : Digits t) : Signed t :=
  fun c member => Or.inl (digits c member)

theorem Signed.solid {t : Text} (signed : Signed t) : Solid t := by
  intro c member
  rcases signed c member with digit | rfl
  · exact isBlank_of_isDigit digit
  · rfl

theorem Signed.plain {t : Text} (signed : Signed t) : Plain t := by
  intro c member
  rcases signed c member with digit | rfl
  · exact isGlob_of_isDigit digit
  · rfl

theorem Signed.not_mem {t : Text} (signed : Signed t) {c : Char} (noDigit : c.isDigit = false)
    (noMinus : c ≠ '-') : c ∉ t := by
  intro member
  rcases signed c member with digit | minus
  · rw [noDigit] at digit
    cases digit
  · exact noMinus minus

theorem signed_printf03d (value : ℤ) : Signed (printf03d value) ∧ printf03d value ≠ [] := by
  cases value with
  | ofNat n =>
    refine ⟨?_, by simp [printf03d, decimal_ne_nil]⟩
    intro c member
    rcases List.mem_append.mp member with zero | digit
    · rw [List.eq_of_mem_replicate zero]
      exact Or.inl rfl
    · exact Or.inl (isDigit_of_mem_decimal digit)
  | negSucc n =>
    refine ⟨?_, List.cons_ne_nil _ _⟩
    intro c member
    rcases List.mem_cons.mp member with rfl | later
    · exact Or.inr rfl
    rcases List.mem_append.mp later with zero | digit
    · rw [List.eq_of_mem_replicate zero]
      exact Or.inl rfl
    · exact Or.inl (isDigit_of_mem_decimal digit)

/-- **The test number**: its decimal value modulo `2 ^ 64`, in three digits or more. -/
theorem nn_eq (host : Setting) {testNum : Text} (numeral : isNumeral testNum = true) :
    host.nn testNum = printf03d (wrap (decimalValue testNum)) := by
  have constantChars : ∀ d ∈ "0#".toList ++ testNum, isConstantChar d = true := by
    have base : ∀ d ∈ "0#".toList, isConstantChar d = true := List.all_eq_true.mp rfl
    intro d member
    rcases List.mem_append.mp member with front | digit
    · exact base d front
    · exact isConstantChar_of_isDigit ((isNumeral_iff.mp numeral).2 d digit)
  have parsed : parse ("10#".toList ++ testNum) = (constant ("10#".toList ++ testNum)).map .const :=
    parse_constant rfl constantChars
  have value : (arith true ("10#".toList ++ testNum) host.vars).1 = .ok (wrap (decimalValue testNum)) := by
    rw [arith, maxDepth, evalText_constant parsed, constant_base_ten numeral]
    rfl
  rw [Setting.nn, value]

/-- **Test mode is reached** with a test number and an iteration count that the host accepts. -/
theorem dispatch_blktest {host : Setting} {options : Options} (showLast : options.showLast = false)
    (kunitMode : options.kunitMode = false) (numeral : isNumeral options.selector = true)
    (accepted : host.acceptsIters options.count = true) :
    host.dispatch options = .ok (.batch ⟨.blktest (printf03d (wrap (decimalValue options.selector))),
      options.count, options.follow⟩) := by
  rw [Setting.dispatch, showLast, kunitMode, if_neg Bool.false_ne_true, if_neg Bool.false_ne_true,
    if_neg (isNumeral_iff.mp numeral).1, numeral, accepted, nn_eq host numeral]
  rfl

/-! ### The kernel command line -/

/-- The words of the base command line. -/
theorem fields_baseCmdline :
    fields baseCmdline = ["console=ttyS0".toList, "panic=-1".toList, "memmap=64K$0x100000000".toList,
      "nvme_core.multipath=0".toList] := by
  decide

/-- A command line of one line holds no newline and no NUL byte: the guest reads what was passed. -/
theorem commandOutput_procCmdline {host : Setting} (unset : host.append = none) {batch : Batch}
    (clean : '\n' ∉ batch.cmdTest ∧ '\x00' ∉ batch.cmdTest) :
    commandOutput (host.procCmdline batch) =
      if batch.cmdTest = [] then baseCmdline else baseCmdline ++ ' ' :: batch.cmdTest := by
  have appended : host.kernelAppend batch.cmdTest =
      if batch.cmdTest = [] then baseCmdline else baseCmdline ++ ' ' :: batch.cmdTest := by
    unfold Setting.kernelAppend
    rw [unset]
    simp only [List.append_assoc]
    rfl
  have newline : '\n' ∉ baseCmdline := by decide
  have nul : '\x00' ∉ baseCmdline := by decide
  rw [Setting.procCmdline, commandOutput_line, appended]
  · rw [appended]
    split
    · exact newline
    · simp [newline, clean.1]
  · rw [appended]
    split
    · exact nul
    · simp [nul, clean.2]

/-- The base command line makes no request. -/
theorem token_baseCmdline (words : List Text) :
    (fields baseCmdline ++ words).foldl Request.token ⟨[], []⟩ =
      words.foldl Request.token ⟨[], []⟩ := by
  rw [fields_baseCmdline, List.foldl_append]
  rfl

/-- **KUnit mode**: the guest reads no request. -/
theorem parseCmdline_kunit {host : Setting} (unset : host.append = none) {batch : Batch}
    (subject : batch.subject = .kunit) (names : Pathnames) :
    parseCmdline names (host.procCmdline batch) = ⟨[], []⟩ := by
  have option : batch.cmdTest = "ndt.kunit=1".toList := by rw [Batch.cmdTest, subject]
  have words : fields (baseCmdline ++ ' ' :: "ndt.kunit=1".toList) =
      fields baseCmdline ++ ["ndt.kunit=1".toList] := fields_append_blank rfl _ _
  have plain : ∀ word ∈ fields (baseCmdline ++ ' ' :: "ndt.kunit=1".toList), Plain word := by
    rw [words, fields_baseCmdline]
    decide
  rw [parseCmdline, commandOutput_procCmdline unset (by rw [option]; decide), option,
    if_neg (by decide), names.words_of_plain plain, words, token_baseCmdline]
  rfl

/-- **Test mode**: the guest reads the test and the iteration count that the host has put there. -/
theorem parseCmdline_blktest {host : Setting} (unset : host.append = none) (batch : Batch) {nn : Text}
    (subject : batch.subject = .blktest nn) (signed : Signed nn) (iters : Digits batch.iters)
    (names : Pathnames) :
    parseCmdline names (host.procCmdline batch) = ⟨nn, batch.iters⟩ := by
  have option : batch.cmdTest = "ndt.test=".toList ++ nn ++ ' ' :: ("ndt.iter=".toList ++ batch.iters) := by
    rw [Batch.cmdTest, subject]
    simp only [List.append_assoc]
    rfl
  have signedIters : Signed batch.iters := Digits.signed iters
  have words : fields (baseCmdline ++ ' ' :: batch.cmdTest) =
      fields baseCmdline ++ ["ndt.test=".toList ++ nn, "ndt.iter=".toList ++ batch.iters] := by
    rw [option, fields_append_blank rfl, fields_append_blank rfl,
      fields_word (Solid.append (by decide) signed.solid) (by simp),
      fields_word (Solid.append (by decide) signedIters.solid) (by simp)]
    rfl
  have plain : ∀ word ∈ fields (baseCmdline ++ ' ' :: batch.cmdTest), Plain word := by
    have base : ∀ word ∈ fields baseCmdline, Plain word := by
      rw [fields_baseCmdline]
      decide
    rw [words]
    intro word member
    rcases List.mem_append.mp member with first | added
    · exact base word first
    · rcases List.mem_cons.mp added with rfl | added
      · exact Plain.append (by decide) signed.plain
      · rw [List.mem_singleton.mp added]
        exact Plain.append (by decide) signedIters.plain
  have clean : '\n' ∉ batch.cmdTest ∧ '\x00' ∉ batch.cmdTest := by
    rw [option]
    simp [signed.not_mem, signedIters.not_mem]
  have nonempty : batch.cmdTest ≠ [] := by
    rw [option]
    simp
  rw [parseCmdline, commandOutput_procCmdline unset clean, if_neg nonempty,
    names.words_of_plain plain, words, token_baseCmdline]
  rfl

end Ndt.Run
