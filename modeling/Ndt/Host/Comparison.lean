/-
**The host's comparison, for counters that may hold any text.**

`(( pass == iters && fail == 0 && skip == 0 ))` reads `pass` first, then `iters`, and looks at `fail` and
`skip` only if these two are equal.

* `compare_pass_iff` — for digit strings: the verdict is PASS exactly when `pass` and `iters` are the
  same constant and `fail` and `skip` are the constant `0`.
* `compare_of_malformed` — a `pass` that is no expression gives FAIL, whatever the other texts are.
* `compare_of_unequal` — so do digit strings `pass` and `iters` with different constants.
* `finish_passes` — a run that passes has a line with counters that satisfy the comparison.
* `finish_agrees`, `finish_passes_iff` — for counters without a name, the exit status, the banner and the
  summary state one verdict, and when it is PASS.
-/

import Ndt.Host.Verdict
import Ndt.Shell.Names

namespace Ndt.Host

open Shell

/-- `name == 0` as it is parsed. -/
def isZero (name : String) : Expr := .binary .eq (.var name.toList) (.const 0)

/-- `pass == iters` as it is parsed. -/
def isComplete : Expr := .binary .eq (.var "pass".toList) (.var "iters".toList)

/-- The comparison of a blktests run as it is parsed. -/
theorem parse_comparison :
    parse "pass == iters && fail == 0 && skip == 0".toList =
      some (.binary .land (.binary .land isComplete (isZero "fail")) (isZero "skip")) := by
  decide +kernel

section Env

variable (host : Setting) (iters : Text) (counters : Counters)

@[simp] theorem env_pass : host.env iters counters "pass".toList = some counters.pass :=
  Env.set_same _ _ _

@[simp] theorem env_fail : host.env iters counters "fail".toList = some counters.fail := by
  rw [Setting.env, Env.set_other _ _ (by decide), Env.set_same]

@[simp] theorem env_skip : host.env iters counters "skip".toList = some counters.skip := by
  rw [Setting.env, Env.set_other _ _ (by decide), Env.set_other _ _ (by decide), Env.set_same]

@[simp] theorem env_iters : host.env iters counters "iters".toList = some iters := by
  rw [Setting.env, Env.set_other _ _ (by decide), Env.set_other _ _ (by decide),
    Env.set_other _ _ (by decide), Env.set_other _ _ (by decide), Env.set_other _ _ (by decide),
    Env.set_same]

@[simp] theorem env_verdict :
    host.env iters counters "verdict".toList = some Verdict.FAIL.text := by
  rw [Setting.env, Env.set_other _ _ (by decide), Env.set_other _ _ (by decide),
    Env.set_other _ _ (by decide), Env.set_other _ _ (by decide), Env.set_same]

@[simp] theorem env_errorReason : host.env iters counters "error_reason".toList = some [] := by
  rw [Setting.env, Env.set_other _ _ (by decide), Env.set_other _ _ (by decide),
    Env.set_other _ _ (by decide), Env.set_same]

@[simp] theorem env_summary : host.env iters counters "summary".toList = some summaryPath := by
  rw [Setting.env, Env.set_other _ _ (by decide), Env.set_other _ _ (by decide),
    Env.set_other _ _ (by decide), Env.set_other _ _ (by decide), Env.set_other _ _ (by decide),
    Env.set_other _ _ (by decide), Env.set_same]

end Env

/-! ### Reading the counters -/

section Reading

variable {env : Env} (depth : ℕ)

/-- Reading a variable that holds a digit string. -/
theorem eval_digits {name t : Text} (set : env name = some t) (digits : Digits t) :
    (evalExpr true (evalText true (depth + 1)) (.var name)).exec env =
      ((constant t).elim (.error .malformed) .ok, env) := by
  rw [evalExpr_var set, evalText_digits digits]

/-- Comparing two variables that hold digit strings with valid constants. -/
theorem eval_eq {left right : Expr} {a b : ℤ} {sub : Text → ArithM ℤ}
    (first : (evalExpr true sub left).exec env = (.ok a, env))
    (second : (evalExpr true sub right).exec env = (.ok b, env)) :
    (evalExpr true sub (.binary .eq left right)).exec env = (.ok (ofBool (a = b)), env) :=
  evalExpr_binary ⟨by decide, by decide⟩ first second

/-- `name == 0` for a digit string. -/
theorem eval_isZero {name : String} {t : Text} (set : env name.toList = some t)
    (digits : Digits t) :
    (evalExpr true (evalText true (depth + 1)) (isZero name)).exec env =
      ((constant t).elim (.error .malformed) (fun value => .ok (ofBool (value = 0))), env) := by
  have read := eval_digits depth set digits
  cases value : constant t with
  | none =>
    rw [value] at read
    exact evalExpr_binary_error read
  | some value' =>
    rw [value] at read
    exact eval_eq read (evalExpr_const 0)

theorem status_isZero (value : Option ℤ) :
    status (value.elim (.error .malformed) fun value => .ok (ofBool (value = 0))) =
      some (decide (value = some 0)) := by
  cases value with
  | none => rfl
  | some value => by_cases zero : value = 0 <;> simp [status, ofBool, zero]

/-- `pass == iters` for digit strings. -/
theorem eval_isComplete {pass iters : Text} (setPass : env "pass".toList = some pass)
    (setIters : env "iters".toList = some iters) (passDigits : Digits pass)
    (itersDigits : Digits iters) :
    (evalExpr true (evalText true (depth + 1)) isComplete).exec env =
      ((constant pass).elim (.error .malformed) fun p =>
        (constant iters).elim (.error .malformed) fun k => .ok (ofBool (p = k)), env) := by
  have readPass := eval_digits depth setPass passDigits
  have readIters := eval_digits depth setIters itersDigits
  cases passValue : constant pass with
  | none =>
    rw [passValue] at readPass
    exact evalExpr_binary_error readPass
  | some p =>
    rw [passValue] at readPass
    cases itersValue : constant iters with
    | none =>
      rw [itersValue] at readIters
      rw [isComplete, evalExpr, exec_bind_ok readPass, if_neg (fun both => absurd both.1 (by decide)),
        if_neg (fun both => absurd both.1 (by decide)), exec_bind_error readIters]
      rfl
    | some k =>
      rw [itersValue] at readIters
      exact eval_eq readPass readIters

end Reading

/-! ### The verdict -/

section Verdict

variable {host : Setting} {batch : Batch} {nn : Text} {counters : Counters}

/-- The comparison, as an evaluation. -/
theorem compare_eq (subject : batch.subject = .blktest nn) :
    host.compare batch counters =
      (status ((evalExpr true (evalText true 1023)
          (.binary .land (.binary .land isComplete (isZero "fail")) (isZero "skip"))).exec
            (host.env batch.iters counters)).1).map fun holds => if holds then .PASS else .FAIL := by
  rw [Setting.compare, Batch.comparison, subject, arithCommand, arith, maxDepth, evalText,
    parse_comparison]

/-- If `pass == iters` fails to evaluate, the verdict is FAIL. -/
theorem compare_of_error (subject : batch.subject = .blktest nn) {env' : Env}
    (fails : (evalExpr true (evalText true 1023) isComplete).exec (host.env batch.iters counters) =
      (.error .malformed, env')) : host.compare batch counters = some .FAIL := by
  rw [compare_eq subject, evalExpr_binary_error (evalExpr_binary_error fails)]
  rfl

/-- If `pass == iters` is false, the verdict is FAIL. -/
theorem compare_of_zero (subject : batch.subject = .blktest nn) {env' : Env}
    (zero : (evalExpr true (evalText true 1023) isComplete).exec (host.env batch.iters counters) =
      (.ok 0, env')) : host.compare batch counters = some .FAIL := by
  rw [compare_eq subject, evalExpr_land_zero (evalExpr_land_zero zero)]
  rfl

/-- **A `pass` that is no expression gives FAIL.** -/
theorem compare_of_malformed (subject : batch.subject = .blktest nn)
    (malformed : parse counters.pass = none) : host.compare batch counters = some .FAIL := by
  have fails : (evalExpr true (evalText true 1023) (.var "pass".toList)).exec
      (host.env batch.iters counters) = (.error .malformed, host.env batch.iters counters) := by
    rw [evalExpr_var (env_pass host batch.iters counters)]
    exact evalText_malformed malformed
  exact compare_of_error subject (evalExpr_binary_error fails)

/-- **Digit strings `pass` and `iters` that are not one constant give FAIL.** -/
theorem compare_of_unequal (subject : batch.subject = .blktest nn)
    (passDigits : Digits counters.pass) (itersDigits : Digits batch.iters)
    (unequal : ∀ k, ¬ (constant counters.pass = some k ∧ constant batch.iters = some k)) :
    host.compare batch counters = some .FAIL := by
  have complete := eval_isComplete 1022 (env_pass host batch.iters counters)
    (env_iters host batch.iters counters) passDigits itersDigits
  cases passValue : constant counters.pass with
  | none =>
    rw [passValue] at complete
    exact compare_of_error subject complete
  | some p =>
    cases itersValue : constant batch.iters with
    | none =>
      rw [passValue, itersValue] at complete
      exact compare_of_error subject complete
    | some k =>
      have different : p ≠ k := fun same => unequal k ⟨by rw [passValue, same], itersValue⟩
      rw [passValue, itersValue] at complete
      have zero : ofBool (decide (p = k)) = 0 := by simp [ofBool, different]
      rw [Option.elim_some, Option.elim_some, zero] at complete
      exact compare_of_zero subject complete

/-- **Digit strings: PASS exactly when `pass` and `iters` are one constant, `fail` and `skip` zero.** -/
theorem compare_numerals (subject : batch.subject = .blktest nn)
    (passDigits : Digits counters.pass) (failDigits : Digits counters.fail)
    (skipDigits : Digits counters.skip) (itersDigits : Digits batch.iters) :
    host.compare batch counters = some (
      if (∃ k, constant counters.pass = some k ∧ constant batch.iters = some k) ∧
        constant counters.fail = some 0 ∧ constant counters.skip = some 0 then .PASS else .FAIL) := by
  by_cases equal : ∃ k, constant counters.pass = some k ∧ constant batch.iters = some k
  · obtain ⟨k, passValue, itersValue⟩ := equal
    have complete := eval_isComplete 1022 (env_pass host batch.iters counters)
      (env_iters host batch.iters counters) passDigits itersDigits
    have failZero := eval_isZero 1022 (env_fail host batch.iters counters) failDigits
    have skipZero := eval_isZero 1022 (env_skip host batch.iters counters) skipDigits
    rw [passValue, itersValue] at complete
    obtain ⟨_, evalFront, frontStatus⟩ := status_land complete failZero
    obtain ⟨_, evalAll, allStatus⟩ := status_land evalFront skipZero
    have completeHolds : status ((some k).elim (.error .malformed) fun p =>
        (some k).elim (.error .malformed) fun k => .ok (ofBool (p = k))) = some true := by
      simp [status, ofBool]
    rw [compare_eq subject, evalAll, allStatus, frontStatus, completeHolds, status_isZero,
      status_isZero, if_congr (and_iff_right ⟨k, passValue, itersValue⟩) rfl rfl]
    by_cases noFail : constant counters.fail = some 0 <;>
      by_cases noSkip : constant counters.skip = some 0 <;> simp [noFail, noSkip]
  · rw [if_neg (fun all => equal all.1)]
    exact compare_of_unequal subject passDigits itersDigits fun k both => equal ⟨k, both⟩

/-- The condition under which digit strings pass. -/
theorem compare_pass_iff (subject : batch.subject = .blktest nn) (passDigits : Digits counters.pass)
    (failDigits : Digits counters.fail) (skipDigits : Digits counters.skip)
    (itersDigits : Digits batch.iters) :
    host.compare batch counters = some .PASS ↔
      (∃ k, constant counters.pass = some k ∧ constant batch.iters = some k) ∧
        constant counters.fail = some 0 ∧ constant counters.skip = some 0 := by
  rw [compare_numerals subject passDigits failDigits skipDigits itersDigits, Option.some_inj]
  split
  · rename_i holds
    exact iff_of_true rfl holds
  · rename_i fails
    exact iff_of_false (fun same => by cases same) fails

end Verdict

/-! ### Counters without a name -/

/-- No counter has a name in it. -/
def Counters.Nameless (counters : Counters) : Prop :=
  Shell.Nameless counters.pass ∧ Shell.Nameless counters.fail ∧ Shell.Nameless counters.skip

instance (counters : Counters) : Decidable counters.Nameless := inferInstanceAs (Decidable (_ ∧ _))

/-- `pass > 0` as it is parsed. -/
def isPositive : Expr := .binary .gt (.var "pass".toList) (.const 0)

/-- The comparison of a KUnit run as it is parsed. -/
theorem parse_comparison_kunit :
    parse "pass > 0 && fail == 0 && skip == 0".toList =
      some (.binary .land (.binary .land isPositive (isZero "fail")) (isZero "skip")) := by
  decide +kernel

section Nameless

variable (host : Setting) {batch : Batch} {counters : Counters}

/-- **The comparison of counters without a name** leaves the variables alone and does not come upon an
unset one. -/
theorem comparison_inert (nameless : counters.Nameless) (iters : Nameless batch.iters) :
    (arith true batch.comparison (host.env batch.iters counters)).2 = host.env batch.iters counters ∧
      (status (arith true batch.comparison (host.env batch.iters counters)).1).isSome := by
  obtain ⟨pass, fail, skip⟩ := nameless
  have readPass := @inert_var true 1022 _ _ _ (env_pass host batch.iters counters) pass
  have readFail := @inert_var true 1022 _ _ _ (env_fail host batch.iters counters) fail
  have readSkip := @inert_var true 1022 _ _ _ (env_skip host batch.iters counters) skip
  have readIters := @inert_var true 1022 _ _ _ (env_iters host batch.iters counters) iters
  have noFail := readFail.binary .eq (.const 0)
  have noSkip := readSkip.binary .eq (.const 0)
  rw [Batch.comparison]
  cases batch.subject with
  | kunit =>
    exact Inert.arith parse_comparison_kunit
      (((readPass.binary .gt (.const 0)).binary .land noFail).binary .land noSkip)
  | blktest nn =>
    exact Inert.arith parse_comparison
      (((readPass.binary .eq readIters).binary .land noFail).binary .land noSkip)

/-- Counters without a name have a verdict. -/
theorem exists_compare (nameless : counters.Nameless) (iters : Nameless batch.iters) :
    ∃ verdict, host.compare batch counters = some verdict := by
  obtain ⟨holds, stated⟩ := Option.isSome_iff_exists.mp (comparison_inert host nameless iters).2
  rw [Setting.compare, arithCommand, stated]
  exact ⟨_, rfl⟩

end Nameless

/-! ### The three statements of a verdict -/

/-- The three places where a run states its verdict agree: the exit status, the banner, and the
verdict line of the summary. -/
def Report.Agrees (report : Report) : Prop :=
  (report.exitCode = 0 ↔ report.banner = some .PASS) ∧
    (report.exitCode = 0 ↔ ∃ rows, report.summary = some rows ∧ verdictLine .PASS ∈ rows)

/-- A line that starts with another character is no verdict line. -/
theorem verdictLine_ne {verdict : Verdict} {line : Text} (other : line.head? ≠ some 'v') :
    verdictLine verdict ≠ line := by
  rintro rfl
  exact other rfl

theorem verdictLine_injective : Function.Injective verdictLine := fun first second same => by
  cases first <;> cases second <;> first | rfl | exact absurd same (by decide)

/-- The line for a failure with a reason is not that of a pass. -/
theorem verdictLine_ne_reason {front : Text} (starts : startsWith "verdict: FAIL (".toList front = true)
    (rest : Text) : verdictLine .PASS ≠ front ++ rest := by
  intro same
  have pass := startsWith_mono (List.prefix_append front rest) starts
  rw [← same] at pass
  exact absurd pass (by decide)

theorem report_agrees (cause : Text) {lines : List Text} {verdict : Verdict}
    (stated : verdictLine .PASS ∈ lines ↔ verdict = .PASS) : (report cause lines verdict).Agrees := by
  have notCause : verdictLine .PASS ≠ "cause: ".toList ++ cause := verdictLine_ne (by simp)
  constructor
  · cases verdict <;> simp [report]
  · simp only [report, Option.some.injEq, exists_eq_left', List.mem_cons, notCause, false_or, stated]
    cases verdict <;> simp

/-- The line of the counters starts with `pass=`, whatever the variables hold. -/
theorem countsLine_head (env : Env) : (countsLine env).head? = some 'p' := by
  unfold countsLine
  extract_lets value
  clear_value value
  simp only [List.append_assoc]
  rw [List.head?_append]
  rfl

/-- The report of a verdict on counters. -/
theorem report_counts_agrees (cause : Text) (env : Env) (verdict : Verdict) :
    (report cause [countsLine env, verdictLine verdict] verdict).Agrees := by
  have notCounts : verdictLine .PASS ≠ countsLine env :=
    verdictLine_ne (by rw [countsLine_head]; decide)
  refine report_agrees cause ?_
  rw [List.mem_cons, List.mem_singleton, or_iff_right notCounts, verdictLine_injective.eq_iff]
  exact eq_comm

/-- The end of a batch run whose counters leave the variables alone. -/
theorem finish_of_compare {host : Setting} {batch : Batch} (cause : Text) {resultLine : Text}
    {counters : Counters} {verdict : Verdict} (nonempty : resultLine ≠ [])
    (parsed : parseSentinel host.names resultLine = .counters counters) (nameless : counters.Nameless)
    (iters : Nameless batch.iters) (compared : host.compare batch counters = some verdict) :
    host.finish batch cause resultLine =
      report cause [countsLine (host.env batch.iters counters), verdictLine verdict] verdict := by
  rw [Setting.finish, if_neg nonempty, parsed]
  simp only [compared, (comparison_inert host nameless iters).1]
  rw [summaryAfter]
  simp only [env_summary, env_errorReason, env_verdict, Option.getD_some]
  cases verdict <;> rfl

/-- The counters of a line, if it gives any, are without a name. -/
def Setting.Tame (host : Setting) (resultLine : Text) : Prop :=
  ∀ counters, parseSentinel host.names resultLine = .counters counters → counters.Nameless

/-- **The exit status, the banner and the summary state one verdict**, for counters without a name. -/
theorem finish_agrees {host : Setting} {batch : Batch} (cause : Text) {resultLine : Text}
    (tame : resultLine ≠ [] → host.Tame resultLine) (iters : Nameless batch.iters) :
    (host.finish batch cause resultLine).Agrees := by
  have failed : ∀ {front : Text} (rest : Text), startsWith "verdict: FAIL (".toList front = true →
      (verdictLine .PASS ∈ [front ++ rest] ↔ Verdict.FAIL = .PASS) := by
    intro front rest starts
    rw [List.mem_singleton]
    exact ⟨fun same => absurd same (verdictLine_ne_reason starts rest), fun never => by cases never⟩
  by_cases empty : resultLine = []
  · rw [Setting.finish, if_pos empty, List.append_assoc]
    exact report_agrees cause (failed _ (by decide))
  · cases parsed : parseSentinel host.names resultLine with
    | error reason =>
      rw [Setting.finish, if_neg empty, parsed]
      cases reason with
      | nil => exact report_counts_agrees _ _ _
      | cons c reason =>
        simp only [List.append_assoc]
        exact report_agrees cause (failed _ (by decide))
    | counters counters =>
      have nameless := tame empty counters parsed
      obtain ⟨verdict, compared⟩ := exists_compare host nameless iters
      rw [finish_of_compare cause empty parsed nameless iters compared]
      exact report_counts_agrees _ _ _

/-- The banner of a line that gives counters is the verdict on them. -/
theorem banner_of_counters (host : Setting) {batch : Batch} (cause : Text) {resultLine : Text}
    {counters : Counters} (nonempty : resultLine ≠ [])
    (parsed : parseSentinel host.names resultLine = .counters counters) :
    (host.finish batch cause resultLine).banner = host.compare batch counters := by
  rw [Setting.finish, if_neg nonempty, parsed]
  cases compared : host.compare batch counters with
  | none => simp only [compared]
  | some verdict => simp only [compared]

/-- The run is reported as a pass, in all three places. -/
def Report.Passes (report : Report) : Prop :=
  report.exitCode = 0 ∧ report.banner = some .PASS ∧
    ∃ rows, report.summary = some rows ∧ verdictLine .PASS ∈ rows

/-- **A run that passes** has a result line with counters that satisfy the comparison, whatever they are. -/
theorem finish_passes {host : Setting} {batch : Batch} {cause resultLine : Text}
    (passes : (host.finish batch cause resultLine).Passes) :
    resultLine ≠ [] ∧ ∃ counters, parseSentinel host.names resultLine = .counters counters ∧
      host.compare batch counters = some .PASS := by
  have banner := passes.2.1
  by_cases empty : resultLine = []
  · rw [Setting.finish, if_pos empty] at banner
    cases banner
  · refine ⟨empty, ?_⟩
    cases parsed : parseSentinel host.names resultLine with
    | error reason =>
      rw [Setting.finish, if_neg empty, parsed] at banner
      cases reason <;> cases banner
    | counters counters => exact ⟨counters, rfl, (banner_of_counters host cause empty parsed).symm.trans banner⟩

/-- **A run passes exactly when its result line gives counters that satisfy the comparison**, if they are
without a name. -/
theorem finish_passes_iff {host : Setting} {batch : Batch} (cause : Text) {resultLine : Text}
    (tame : host.Tame resultLine) (iters : Nameless batch.iters) :
    (host.finish batch cause resultLine).Passes ↔
      resultLine ≠ [] ∧ ∃ counters, parseSentinel host.names resultLine = .counters counters ∧
        host.compare batch counters = some .PASS := by
  refine ⟨finish_passes, ?_⟩
  rintro ⟨nonempty, counters, parsed, compared⟩
  rw [finish_of_compare cause nonempty parsed (tame counters parsed) iters compared]
  exact ⟨rfl, rfl, _, rfl, by simp⟩

end Ndt.Host
