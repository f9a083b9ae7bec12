/-
**Error reasons, from `ndt_die` to the summary.**

`ndt_die` puts the reason between quotes and between the marker and the end of the line; the host takes all of
this off again, piece by piece, and each piece only if it stands at the very end. With `\n` at the end of the
line the reason comes back (`payload_errorLine`). A serial console ends it with `\r\n`, and then the end of
the frame and the closing quote are not at the end of what `grep` prints (`parseSentinel_carriage`). Of a console
with a NUL byte `grep` prints no line: the console of a reason that arrives is a text file (`Farewell`).
-/

import Ndt.Host.Words
import Ndt.Shell.Grep
import Ndt.Run.CommandLine

namespace Ndt.Run

open Shell Host Guest

/-- A suffix that ends in another character is not there to be taken off. -/
theorem trimSuffix_concat_of_ne {s t : Text} {last c : Char} (ends : s.getLast? = some last)
    (other : c ≠ last) : trimSuffix s (t ++ [c]) = t ++ [c] := by
  refine trimSuffix_of_not ?_
  rintro ⟨front, same⟩
  have lastOfSame := congrArg List.getLast? same
  rw [List.getLast?_append, ends, List.getLast?_concat] at lastOfSame
  exact other (Option.some.inj lastOfSame).symm

/-! ### The line -/

/-- The quotes around a reason. -/
def quoted (reason : Text) : Text := "error='".toList ++ reason ++ "'".toList

theorem errorLine_eq (reason : Text) :
    errorLine reason = sentinelPrefix ++ (quoted reason ++ sentinelSuffix) := by
  have front : "=== ".toList ++ "NDT_RESULT error='".toList = sentinelPrefix ++ "error='".toList := by
    decide
  have regroup : ∀ p e r q s : Text, (p ++ e) ++ (r ++ (q ++ s)) = p ++ (e ++ r ++ q ++ s) := by
    intro p e r q s
    simp only [List.append_assoc]
  have written : errorLine reason =
      ("=== ".toList ++ "NDT_RESULT error='".toList) ++ (reason ++ ("'".toList ++ " ===".toList)) := by
    simp only [errorLine, ndtEmit, List.append_assoc]
  exact (written.trans (congrArg (· ++ (reason ++ ("'".toList ++ " ===".toList))) front)).trans
    (regroup _ _ _ _ _)

theorem errorLine_ne_nil (reason tail : Text) : errorLine reason ++ tail ≠ [] := by
  rw [errorLine_eq]
  exact List.cons_ne_nil _ _

/-- What is left of the line without its frame. -/
theorem payload_errorLine (reason : Text) : payload (errorLine reason) = quoted reason := by
  rw [payload, errorLine_eq, trimPrefix_append, trimSuffix_append]

theorem payload_carriage (reason : Text) :
    payload (errorLine reason ++ ['\r']) = quoted reason ++ sentinelSuffix ++ ['\r'] := by
  have ends : sentinelSuffix.getLast? = some '=' := by decide
  rw [payload, errorLine_eq, List.append_assoc, trimPrefix_append, trimSuffix_concat_of_ne ends (by decide)]

/-- A payload with the quote of a reason in front. -/
theorem parseSentinel_of_payload {names : Pathnames} {line rest : Text}
    (left : payload line = "error='".toList ++ rest) :
    parseSentinel names line = .error (trimSuffix "'".toList rest) := by
  have starts : startsWith "error=".toList ("error='".toList ++ rest) = true := rfl
  have taken : trimPrefix "error=".toList ("error='".toList ++ rest) = "'".toList ++ rest := rfl
  rw [parseSentinel, left]
  simp only [if_pos starts, taken, trimPrefix_append]

/-- **With `\n`** the reason comes back. -/
theorem parseSentinel_errorLine (names : Pathnames) (reason : Text) :
    parseSentinel names (errorLine reason) = .error reason := by
  have left : payload (errorLine reason) = "error='".toList ++ (reason ++ "'".toList) :=
    (payload_errorLine reason).trans (List.append_assoc _ _ _)
  rw [parseSentinel_of_payload left, trimSuffix_append]

/-- **With `\r\n`** the closing quote, the end of the frame and the carriage return come with it. -/
theorem parseSentinel_carriage (names : Pathnames) (reason : Text) :
    parseSentinel names (errorLine reason ++ ['\r']) =
      .error (reason ++ "'".toList ++ sentinelSuffix ++ ['\r']) := by
  have regroup : ∀ e r q s c : Text, e ++ r ++ q ++ s ++ c = e ++ (r ++ q ++ s ++ c) := by
    intro e r q s c
    simp only [List.append_assoc]
  have left : payload (errorLine reason ++ ['\r']) =
      "error='".toList ++ (reason ++ "'".toList ++ sentinelSuffix ++ ['\r']) :=
    (payload_carriage reason).trans (regroup _ _ _ _ _)
  have ends : "'".toList.getLast? = some '\'' := by decide
  rw [parseSentinel_of_payload left, trimSuffix_concat_of_ne ends (by decide)]

theorem parseSentinel_reason_iff (names : Pathnames) (reason : Text) (cr : Bool) :
    parseSentinel names (errorLine reason ++ carriage cr) = .error reason ↔ cr = false := by
  cases cr with
  | false =>
    rw [carriage, if_neg Bool.false_ne_true, List.append_nil]
    exact iff_of_true (parseSentinel_errorLine names reason) rfl
  | true =>
    refine iff_of_false ?_ Bool.noConfusion
    rw [carriage, if_pos rfl, parseSentinel_carriage]
    intro same
    have length := congrArg List.length (Parsed.error.inj same)
    simp only [List.length_append, List.length_cons] at length
    omega

/-! ### The report -/

/-- The line of `summary.txt` for a reason. -/
def reasonLine (reason : Text) : Text := "verdict: FAIL (init error: ".toList ++ reason ++ ")".toList

/-- **A reason arrives**: it is what the host recovers from the console, the summary names it, and the verdict
is FAIL. -/
structure Arrives (host : Setting) (batch : Batch) (cause console reason : Text) : Prop where
  recovered : parseSentinel host.names (grepSentinel console) = .error reason
  named : ∃ rows, (host.finish batch cause (grepSentinel console)).summary = some rows ∧
    reasonLine reason ∈ rows
  failed : (host.finish batch cause (grepSentinel console)).banner = some .FAIL ∧
    (host.finish batch cause (grepSentinel console)).exitCode = 1

/-- **The console of a guest that gives up**: a text file of lines without the marker, the error line, and
anything after it. -/
structure Farewell (reason : Text) where
  rows : List Text
  cr : Bool
  rest : Text
  single : ∀ row ∈ rows, '\n' ∉ row
  others : ∀ row ∈ rows, startsWith sentinelPrefix row = false
  newline : '\n' ∉ reason
  text : TextFile (unlines rows ++ (errorLine reason ++ carriage cr ++ '\n' :: rest))

namespace Farewell

variable {reason : Text} (farewell : Farewell reason)

/-- `console.log` -/
def console : Text :=
  unlines farewell.rows ++ (errorLine reason ++ carriage farewell.cr ++ '\n' :: farewell.rest)

theorem grepSentinel_console :
    grepSentinel farewell.console = errorLine reason ++ carriage farewell.cr := by
  have lineSingle : '\n' ∉ errorLine reason ++ carriage farewell.cr := by
    have frame : '\n' ∉ sentinelPrefix ∧ '\n' ∉ sentinelSuffix := by decide
    have opening : '\n' ∉ "error='".toList := by decide
    have closing : '\n' ∉ "'".toList := by decide
    have back : '\n' ∉ carriage farewell.cr := by cases farewell.cr <;> decide
    have inside : '\n' ∉ quoted reason :=
      List.not_mem_append (List.not_mem_append opening farewell.newline) closing
    rw [errorLine_eq]
    exact List.not_mem_append
      (List.not_mem_append frame.1 (List.not_mem_append inside frame.2)) back
  have starts : startsWith sentinelPrefix (errorLine reason ++ carriage farewell.cr) = true := by
    rw [errorLine_eq, List.append_assoc]
    exact startsWith_append _ _
  rw [grepSentinel, console, grepFirst_unlines farewell.single farewell.others, grepFirst_line lineSingle,
    if_pos starts]
  rfl

end Farewell

/-- **Reasons round-trip** exactly over a console that ends its lines with `\n`, if they are not empty. -/
theorem reason_arrives_iff (host : Setting) (batch : Batch) (cause : Text) {reason : Text}
    (farewell : Farewell reason) :
    Arrives host batch cause farewell.console reason ↔ farewell.cr = false ∧ reason ≠ [] := by
  have printed := farewell.grepSentinel_console
  constructor
  · intro arrives
    have recovered := arrives.recovered
    rw [printed] at recovered
    refine ⟨(parseSentinel_reason_iff host.names reason farewell.cr).mp recovered, ?_⟩
    rintro rfl
    obtain ⟨lines, stated, member⟩ := arrives.named
    rw [printed, Setting.finish, if_neg (errorLine_ne_nil _ _), recovered] at stated
    obtain rfl := Option.some.inj stated
    rcases List.mem_cons.mp member with same | later
    · have heads : some 'v' = some 'c' := congrArg List.head? same
      exact absurd heads (by decide)
    rcases List.mem_cons.mp later with same | last
    · have heads : some 'v' = some 'p' := (congrArg List.head? same).trans (countsLine_head _)
      exact absurd heads (by decide)
    · exact absurd (List.mem_singleton.mp last) (by decide)
  · rintro ⟨plain, nonempty⟩
    rw [plain] at printed
    have recovered : parseSentinel host.names (errorLine reason ++ carriage false) = .error reason :=
      (parseSentinel_reason_iff host.names reason false).mpr rfl
    obtain ⟨c, tail, rfl⟩ := List.exists_cons_of_ne_nil nonempty
    have finished : host.finish batch cause (errorLine (c :: tail) ++ carriage false) =
        report cause [reasonLine (c :: tail)] .FAIL := by
      rw [Setting.finish, if_neg (errorLine_ne_nil _ _), recovered]
      rfl
    refine ⟨by rw [printed, recovered], ?_, ?_⟩
    · rw [printed, finished]
      exact ⟨_, rfl, List.mem_cons_of_mem _ (List.mem_singleton_self _)⟩
    · rw [printed, finished]
      exact ⟨rfl, rfl⟩

/-- **A reason never passes**, over either console. -/
theorem reason_fails (host : Setting) (batch : Batch) (cause reason : Text) (cr : Bool) :
    (host.finish batch cause (errorLine reason ++ carriage cr)).banner = some .FAIL := by
  have parsed : ∃ other, parseSentinel host.names (errorLine reason ++ carriage cr) = .error other := by
    cases cr with
    | false =>
      rw [carriage, if_neg Bool.false_ne_true, List.append_nil]
      exact ⟨_, parseSentinel_errorLine host.names reason⟩
    | true => exact ⟨_, parseSentinel_carriage host.names reason⟩
  obtain ⟨other, parsed⟩ := parsed
  rw [Setting.finish, if_neg (errorLine_ne_nil _ _), parsed]
  cases other <;> rfl

/-- The console of a run of a test that does not exist, behind a line of the kernel. -/
def notFound (cr : Bool) : Farewell "test-not-found".toList where
  rows := ["[    0.000000] Linux version 6.12.0".toList]
  cr := cr
  rest := "[    1.000000] reboot: Power down\n".toList
  single := by decide
  others := by decide
  newline := by decide
  text := by cases cr <;> decide

theorem reason_arrives_not_found :
    Arrives plainHost ⟨.kunit, "1".toList, false⟩ "sentinel".toList (notFound false).console
      "test-not-found".toList :=
  (reason_arrives_iff plainHost _ _ (notFound false)).mpr ⟨rfl, by decide⟩

/-- **Over a serial console** a run of a test that does not exist names `test-not-found' ===` and a carriage
return for its reason. -/
theorem carriage_reason :
    parseSentinel plainHost.names (grepSentinel (notFound true).console) =
      .error "test-not-found' ===\r".toList ∧
      ¬ Arrives plainHost ⟨.kunit, "1".toList, false⟩ "sentinel".toList (notFound true).console
        "test-not-found".toList := by
  have recovered : parseSentinel plainHost.names (grepSentinel (notFound true).console) =
      .error "test-not-found' ===\r".toList := by
    rw [(notFound true).grepSentinel_console]
    exact parseSentinel_carriage plainHost.names "test-not-found".toList
  refine ⟨recovered, fun arrives => ?_⟩
  have same := arrives.recovered
  rw [recovered] at same
  exact absurd (Parsed.error.inj same) (by decide)

end Ndt.Run
