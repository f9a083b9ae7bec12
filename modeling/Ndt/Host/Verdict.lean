/-
**The host's `ndt.sh`, from the result line to its exit status.**

* `parseSentinel` — prefix and suffix off, then either an error reason or the last `pass=`, `fail=` and
  `skip=` word; a counter without a word is `0`.
* `grepSentinel` — the line that the wait loop takes off the console.
* `Setting.finish` — the verdict, `summary.txt`, the banner and the exit status. The counters are compared
  by shell arithmetic, which evaluates whatever text they hold: a name in it may be read, and `verdict`,
  `error_reason` and `summary` may be assigned to.

Of a text with a name in it three things are not followed: a subscript, an assignment to another variable of
the script (`cause`, `dt`, `RUN_DIR`), and which of two errors of one text is met first. Results that such a
text could decide ask for counters without a name (`Nameless`).
-/

import Ndt.Host.Args
import Ndt.Shell.Grep

namespace Ndt.Host

open Shell

/-! ### The result line -/

/-- The three counters, as the texts they were given. -/
structure Counters where
  pass : Text
  fail : Text
  skip : Text
  deriving DecidableEq, Repr

def Counters.initial : Counters := ⟨"0".toList, "0".toList, "0".toList⟩

/-- `case "$kv" in`: the last word of a kind wins, other words are passed over. -/
def Counters.word (counters : Counters) (kv : Text) : Counters :=
  if startsWith "pass=".toList kv then { counters with pass := trimPrefix "pass=".toList kv }
  else if startsWith "fail=".toList kv then { counters with fail := trimPrefix "fail=".toList kv }
  else if startsWith "skip=".toList kv then { counters with skip := trimPrefix "skip=".toList kv }
  else counters

/-- What a result line says. -/
inductive Parsed
  | error (reason : Text)
  | counters (counters : Counters)
  deriving DecidableEq, Repr

/-- What `grep` looks for, and what the parser takes off the front of the line. -/
def sentinelPrefix : Text := "=== NDT_RESULT ".toList

/-- What the parser takes off the end of the line. -/
def sentinelSuffix : Text := " ===".toList

/-- The line without its frame. -/
def payload (resultLine : Text) : Text := trimSuffix sentinelSuffix (trimPrefix sentinelPrefix resultLine)

/-- The parser of a nonempty result line. -/
def parseSentinel (names : Pathnames) (resultLine : Text) : Parsed :=
  let payload := payload resultLine
  if startsWith "error=".toList payload then
    .error (trimSuffix "'".toList (trimPrefix "'".toList (trimPrefix "error=".toList payload)))
  else .counters ((names.words payload).foldl Counters.word .initial)

/-- `result_line=$(grep -m1 -E '^=== NDT_RESULT ' "$console")`, for a console that is a `TextFile`;
empty if no line matches. -/
def grepSentinel (console : Text) : Text := (grepFirst sentinelPrefix console).getD []

/-! ### The verdict -/

inductive Verdict
  | PASS | FAIL
  deriving DecidableEq, Repr

/-- `$verdict` -/
def Verdict.text : Verdict → Text
  | .PASS => "PASS".toList
  | .FAIL => "FAIL".toList

/-- `$summary`; `run` stands for the run id. -/
def summaryPath : Text := "/tmp/ndt/run/summary.txt".toList

/-- The shell variables at the comparison. -/
def Setting.env (host : Setting) (iters : Text) (counters : Counters) : Env :=
  let run := (host.vars.set "summary".toList summaryPath).set "iters".toList iters
  let parse := (run.set "verdict".toList Verdict.FAIL.text).set "error_reason".toList []
  ((parse.set "skip".toList counters.skip).set "fail".toList counters.fail).set "pass".toList counters.pass

/-- The comparison of a mode. -/
def Batch.comparison (batch : Batch) : Text :=
  match batch.subject with
  | .kunit => "pass > 0 && fail == 0 && skip == 0".toList
  | .blktest _ => "pass == iters && fail == 0 && skip == 0".toList

/-- The verdict on three counters; `none`: the shell exits on an unset variable. -/
def Setting.compare (host : Setting) (batch : Batch) (counters : Counters) : Option Verdict :=
  (arithCommand true batch.comparison (host.env batch.iters counters)).map fun holds =>
    if holds then .PASS else .FAIL

/-! ### Summary, banner and exit status -/

/-- A digit of a number in a base up to sixteen. -/
def hexDigit (c : Char) : ℕ :=
  if c.isDigit then c.toNat - '0'.toNat
  else if c.isLower then c.toNat - 'a'.toNat + 10
  else if c.isUpper then c.toNat - 'A'.toNat + 10
  else 36

/-- The value of the longest run of digits at the front. -/
def leadingDigits (base : ℕ) (t : Text) : ℕ :=
  (t.takeWhile fun c => hexDigit c < base).foldl (fun value c => value * base + hexDigit c) 0

/-- The magnitude of a C integer constant at the front of a text. -/
def leadingMagnitude : Text → ℕ
  | '0' :: 'x' :: rest => leadingDigits 16 rest
  | '0' :: 'X' :: rest => leadingDigits 16 rest
  | '0' :: rest => leadingDigits 8 rest
  | t => leadingDigits 10 t

/-- `printf '%d'` of a text: the number at its front, `0` if there is none, at most 64 bits. -/
def printfD (t : Text) : Text :=
  match t.dropWhile (fun c => isBlank c || c = '\r') with
  | '\'' :: c :: _ | '\"' :: c :: _ => decimal c.toNat
  | '-' :: rest => showInt (max (-(2 ^ 63)) (-(leadingMagnitude rest : ℤ)))
  | '+' :: rest => showInt (min intMax (leadingMagnitude rest))
  | rest => showInt (min intMax (leadingMagnitude rest))

/-- What a batch run leaves: the lines of `summary.txt` after the arguments and the duration, the
verdict of the banner, and the exit status. `none`: the shell exited before it. -/
structure Report where
  summary : Option (List Text)
  banner : Option Verdict
  exitCode : ℕ
  deriving DecidableEq, Repr

/-- The line of `summary.txt` that states a verdict without a reason. -/
def verdictLine (verdict : Verdict) : Text := "verdict: ".toList ++ verdict.text

/-- The summary, the banner and the exit status for a verdict. -/
def report (cause : Text) (lines : List Text) (verdict : Verdict) : Report :=
  ⟨some (("cause: ".toList ++ cause) :: lines), some verdict, if verdict = .PASS then 0 else 1⟩

/-- The line of `summary.txt` that states the counters, as the comparison left the variables. -/
def countsLine (env : Env) : Text :=
  let value (name : String) := printfD ((env name.toList).getD [])
  "pass=".toList ++ value "pass" ++ " fail=".toList ++ value "fail" ++ " skip=".toList ++
    value "skip" ++ " (of ".toList ++ value "iters" ++ " iter)".toList

/-- What `summary.txt` says with the variables as the comparison left them: an `error_reason` assigned to is
printed like a reason of the guest, and behind a `summary` assigned to is another file. -/
def summaryAfter (cause : Text) (verdict : Verdict) (env : Env) : Option (List Text) :=
  let value (name : String) := (env name.toList).getD []
  let stated := if verdict = .PASS then Verdict.PASS.text else value "verdict"
  if value "summary" ≠ summaryPath then none
  else if value "error_reason" ≠ [] then
    some ["cause: ".toList ++ cause,
      "verdict: FAIL (init error: ".toList ++ value "error_reason" ++ ")".toList]
  else some ["cause: ".toList ++ cause, countsLine env, "verdict: ".toList ++ stated]

/-- **The end of a batch run**: from the result line, empty if there is none, to the exit status. -/
def Setting.finish (host : Setting) (batch : Batch) (cause resultLine : Text) : Report :=
  if resultLine = [] then
    report cause ["verdict: FAIL (no NDT_RESULT sentinel; cause=".toList ++ cause ++ ")".toList] .FAIL
  else
    match parseSentinel host.names resultLine with
    | .error [] =>
      report cause [countsLine (host.env batch.iters .initial), verdictLine .FAIL] .FAIL
    | .error reason =>
      report cause ["verdict: FAIL (init error: ".toList ++ reason ++ ")".toList] .FAIL
    | .counters counters =>
      match host.compare batch counters with
      | none => ⟨none, none, 1⟩
      | some verdict =>
        let after := (arith true batch.comparison (host.env batch.iters counters)).2
        ⟨summaryAfter cause verdict after, some verdict, if verdict = .PASS then 0 else 1⟩

end Ndt.Host
