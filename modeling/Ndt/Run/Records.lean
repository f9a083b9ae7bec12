/-
**The records of invocations under `/tmp/ndt`.**

A batch run makes its directory and points `latest` at it, and only then looks for QEMU, KVM, `socat` and the
boot artifacts. Its summary is written where the socket never appears, or at the very end.

* `RunDir`, `Records` — the run directories and the link.
* `Surroundings.ndt` — an invocation: what it leaves under `/tmp/ndt`, and its exit status.
* `Surroundings.Tame` — the texts of a run that shell arithmetic evaluates are without a name, so that none of
  them sends the summary elsewhere (`pass=summary=1`) or ends the shell (`pass=x`).
* `holds_iff` — a tame invocation leaves complete records, and unchanged ones where it exits with 2, exactly
  where it meets `Surroundings.Completes`; `records_iff` — so for all histories.
-/

import Ndt.Run.IterationCount

namespace Ndt.Run

open Shell Host

/-! ### Directories -/

/-- A run directory, less its logs: `args.txt` and `summary.txt`, as lines. The exit status of the run is in no
file. -/
structure RunDir where
  args : List Text
  summary : Option (List Text)
  exitCode : ℕ
  deriving DecidableEq, Repr

/-- `/tmp/ndt`. A run id names its second and its process and is never used twice: directories are numbered in
the order in which they were made, and `latest` is such a number. -/
structure Records where
  dirs : List RunDir
  latest : Option ℕ
  deriving DecidableEq, Repr

/-- `mkdir -p "$RUN_DIR"`, `ln -snf "$run_id" /tmp/ndt/latest`, and the files of the run. -/
def Records.add (records : Records) (dir : RunDir) : Records :=
  ⟨records.dirs ++ [dir], some records.dirs.length⟩

/-- The directory that `latest` names. -/
def Records.latestDir (records : Records) : Option RunDir := records.latest.bind fun n => records.dirs[n]?

/-! ### Invocations -/

/-- What an invocation finds. -/
structure Surroundings where
  host : Setting
  qemuBin : Text
  ndt : Text
  runId : Text
  /-- The revisions of the forks, for `args.txt`. -/
  forks : List Text
  qemu : Bool
  kvm : Bool
  socat : Bool
  bzImage : Bool
  initramfs : Bool
  /-- Whether QEMU creates its socket in time. -/
  socket : Bool
  /-- Whether the wait loop ends in its first round, before it looks at the budget. -/
  early : Bool
  cause : Text
  resultLine : Text
  duration : ℕ
  /-- The exit status of an interactive QEMU. -/
  qemuStatus : ℕ

/-- An error of the setup, as `preflight` and `assert_artifacts` report it. -/
inductive SetupError
  | qemuNotFound (qemuBin : Text)
  | kvmNotAccessible
  | socatNotFound
  | missingArtifact (file : Text)
  deriving DecidableEq, Repr

def SetupError.message : SetupError → List Text
  | .qemuNotFound qemuBin =>
    ["[ndt] qemu not found: ".toList ++ qemuBin,
      ("[ndt] hint: install qemu-system-x86 (apt install qemu-system-x86 / emerge " ++
        "app-emulation/qemu),").toList,
      "[ndt]       or point QEMU_BIN at a custom build.".toList]
  | .kvmNotAccessible =>
    ["[ndt] /dev/kvm not accessible — KVM acceleration unavailable.".toList,
      "[ndt] hint: add yourself to the 'kvm' group (usermod -aG kvm $USER), then re-login.".toList]
  | .socatNotFound =>
    ["[ndt] socat not found — needed to capture the guest console.".toList,
      "[ndt] hint: install socat (apt install socat / emerge net-misc/socat).".toList]
  | .missingArtifact file =>
    ["[ndt] missing artifact: ".toList ++ file, "[ndt] hint: run ./build-all.sh first".toList]

namespace Surroundings

variable (surroundings : Surroundings)

/-- `preflight`; `batch` is its argument. -/
def preflight (batch : Bool) : Except SetupError Unit :=
  if !surroundings.qemu then .error (.qemuNotFound surroundings.qemuBin)
  else if !surroundings.kvm then .error .kvmNotAccessible
  else if batch && !surroundings.socat then .error .socatNotFound
  else .ok ()

def assertArtifacts : Except SetupError Unit :=
  if !surroundings.bzImage then .error (.missingArtifact (surroundings.ndt ++ "/initramfs/bzImage".toList))
  else if !surroundings.initramfs then
    .error (.missingArtifact (surroundings.ndt ++ "/initramfs/initramfs.cpio.gz".toList))
  else .ok ()

/-- `args.txt` -/
def argsLines (args : List Text) (batch : Batch) : List Text :=
  ["ndt run ".toList ++ surroundings.runId, "args: ".toList ++ [' '].intercalate args,
    "test: ".toList ++ batch.name, "iter: ".toList ++ batch.iters] ++ surroundings.forks

/-- The summary of a run without a socket. -/
def socketLine : Text :=
  "[ndt] FAIL: qemu never created serial socket (see /tmp/ndt/".toList ++ surroundings.runId ++
    "/qemu.log)".toList

/-- `budget=$(( iters * per_iter + 120 ))`: the value, or why there is none, and the variables after it. -/
def budgetEval (batch : Batch) : Except ArithError ℤ × Env :=
  arith true "iters * per_iter + 120".toList
    ((surroundings.host.vars.set "iters".toList batch.iters).set "per_iter".toList surroundings.host.perIter)

/-- The shell exits on a variable that is not set. -/
def budgetExits (batch : Batch) : Bool := (status (surroundings.budgetEval batch).1).isNone

/-- The variables as the budget left them, which may assign to some. -/
def laterHost (batch : Batch) : Setting := { surroundings.host with vars := (surroundings.budgetEval batch).2 }

def laterBatch (batch : Batch) : Batch :=
  { batch with iters := ((surroundings.budgetEval batch).2 "iters".toList).getD batch.iters }

/-- The report of a batch run. -/
def finish (batch : Batch) : Report :=
  (surroundings.laterHost batch).finish (surroundings.laterBatch batch) surroundings.cause
    surroundings.resultLine

/-- A batch run after its setup: the summary, if it comes to one, and the exit status. -/
def conclude (args : List Text) (batch : Batch) : Option (List Text) × ℕ :=
  if !surroundings.socket then (some [surroundings.socketLine], 1)
  -- `(( dt > budget ))` where `budget` was not set
  else if !surroundings.early && (surroundings.budgetEval batch).1.toOption.isNone then (none, 1)
  else
    ((surroundings.finish batch).summary.map fun lines => surroundings.argsLines args batch ++
        ("duration: ".toList ++ decimal surroundings.duration ++ "s".toList) :: lines,
      (surroundings.finish batch).exitCode)

/-- A batch run from `preflight` on: the summary, if it comes to one, and the exit status. -/
def batchEnd (args : List Text) (batch : Batch) : Option (List Text) × ℕ :=
  match surroundings.preflight true with
  | .error _ => (none, 2)
  | .ok () =>
    if surroundings.budgetExits batch then (none, 1)
    else
      match surroundings.assertArtifacts with
      | .error _ => (none, 2)
      | .ok () => surroundings.conclude args batch

/-- A batch run: it has its directory before anything is looked for. -/
def batchDir (args : List Text) (batch : Batch) : RunDir :=
  ⟨surroundings.argsLines args batch, (surroundings.batchEnd args batch).1, (surroundings.batchEnd args batch).2⟩

/-- `--last`: 2 where there is no link, or one that dangles. -/
def lastStatus (records : Records) : ℕ := if records.latestDir.isNone then 2 else 0

/-- An interactive session. -/
def interactiveStatus : ℕ :=
  match (do surroundings.assertArtifacts; surroundings.preflight false) with
  | .error _ => 2
  | .ok () => surroundings.qemuStatus

/-- **An invocation**: `/tmp/ndt` after it, and its exit status. -/
def invocation (args : List Text) (records : Records) : Records × ℕ :=
  match surroundings.host.invoke args with
  | .error exit => (records, exit.code)
  | .ok .last => (records, lastStatus records)
  | .ok .interactive => (records, surroundings.interactiveStatus)
  | .ok (.batch batch) =>
    let dir := surroundings.batchDir args batch
    (records.add dir, dir.exitCode)

end Surroundings

/-! ### Complete records -/

/-- The verdict that an exit status stands for. -/
def verdictOf (exitCode : ℕ) : Verdict := if exitCode = 0 then .PASS else .FAIL

/-- The last line of a summary states a verdict: the one of the sentinel, or the one of a missing socket. -/
def States (lines : List Text) (verdict : Verdict) : Prop :=
  ∃ line, lines.getLast? = some line ∧
    (startsWith (verdictLine verdict) line = true ∨
      verdict = .FAIL ∧ startsWith "[ndt] FAIL: ".toList line = true)

/-- A directory with the summary of its run. -/
def RunDir.Complete (dir : RunDir) : Prop :=
  ∃ lines, dir.summary = some lines ∧ States lines (verdictOf dir.exitCode)

/-- **Complete records**: `latest`, if present, names a directory with the summary of its run. -/
def Records.Complete (records : Records) : Prop :=
  records.latest ≠ none → ∃ dir, records.latestDir = some dir ∧ dir.Complete

theorem latestDir_add (records : Records) (dir : RunDir) : (records.add dir).latestDir = some dir := by
  simp [Records.add, Records.latestDir]

theorem complete_add_iff (records : Records) (dir : RunDir) :
    (records.add dir).Complete ↔ dir.Complete := by
  rw [Records.Complete, latestDir_add]
  constructor
  · intro complete
    obtain ⟨_, same, stated⟩ := complete nofun
    rwa [Option.some.inj same]
  · exact fun stated _ => ⟨dir, rfl, stated⟩

/-- A new directory is a change. -/
theorem add_ne (records : Records) (dir : RunDir) : records.add dir ≠ records := by
  intro same
  have longer := congrArg (fun records => records.dirs.length) same
  simp [Records.add] at longer

/-! ### What a run states -/

theorem states_of_last {lines : List Text} {line : Text} {verdict : Verdict}
    (last : lines.getLast? = some line) (stated : startsWith (verdictLine verdict) line = true)
    (head : List Text) : States (head ++ lines) verdict :=
  ⟨line, by rw [List.getLast?_append, last]; rfl, .inl stated⟩

theorem verdictOf_report (cause : Text) (lines : List Text) (verdict : Verdict) :
    verdictOf (report cause lines verdict).exitCode = verdict := by
  cases verdict <;> rfl

/-- **The end of a batch run** comes to a summary that states its verdict, if its counters are without a
name. -/
theorem finish_states {host : Setting} {batch : Batch} (cause : Text) {resultLine : Text}
    (tame : host.Tame resultLine) (iters : Nameless batch.iters) :
    ∃ lines, (host.finish batch cause resultLine).summary = some lines ∧
      ∀ head, States (head ++ lines) (verdictOf (host.finish batch cause resultLine).exitCode) := by
  have stated : ∀ {lines : List Text} {line : Text} {verdict : Verdict},
      host.finish batch cause resultLine = report cause lines verdict → lines.getLast? = some line →
      startsWith (verdictLine verdict) line = true →
      ∃ lines, (host.finish batch cause resultLine).summary = some lines ∧
        ∀ head, States (head ++ lines) (verdictOf (host.finish batch cause resultLine).exitCode) := by
    intro lines line verdict reported last starts
    rw [reported, verdictOf_report]
    exact ⟨_, rfl, states_of_last (by rw [List.getLast?_cons, last]; rfl) starts⟩
  by_cases empty : resultLine = []
  · have reported : host.finish batch cause resultLine = report cause
        ["verdict: FAIL (no NDT_RESULT sentinel; cause=".toList ++ cause ++ ")".toList] .FAIL := by
      rw [Setting.finish, if_pos empty]
    exact stated reported rfl rfl
  · cases parsed : parseSentinel host.names resultLine with
    | error reason =>
      cases reason with
      | nil =>
        have reported : host.finish batch cause resultLine = report cause
            [countsLine (host.env batch.iters .initial), verdictLine .FAIL] .FAIL := by
          rw [Setting.finish, if_neg empty, parsed]
        exact stated reported rfl rfl
      | cons c reason =>
        have reported : host.finish batch cause resultLine = report cause
            ["verdict: FAIL (init error: ".toList ++ (c :: reason) ++ ")".toList] .FAIL := by
          rw [Setting.finish, if_neg empty, parsed]
        exact stated reported rfl rfl
    | counters counters =>
      have nameless := tame counters parsed
      obtain ⟨verdict, compared⟩ := exists_compare host nameless iters
      exact stated (finish_of_compare cause empty parsed nameless iters compared) rfl
        (startsWith_iff.mpr List.prefix_rfl)

/-- No batch run exits with 2 at its end. -/
theorem finish_exitCode (host : Setting) (batch : Batch) (cause resultLine : Text) :
    (host.finish batch cause resultLine).exitCode ≠ 2 := by
  have one : (1 : ℕ) ≠ 2 := by decide
  unfold Setting.finish
  split
  · exact one
  · split
    · exact one
    · exact one
    · split
      · exact one
      · dsimp only
        split
        · exact nofun
        · exact one

/-! ### One invocation -/

namespace Surroundings

variable (surroundings : Surroundings)

/-- **What is asked of an invocation**: complete records, and unchanged ones where it exits with 2. -/
def Holds (args : List Text) (records : Records) : Prop :=
  ((surroundings.invocation args records).2 = 2 → (surroundings.invocation args records).1 = records) ∧
    (surroundings.invocation args records).1.Complete

/-- The setup of a batch run goes through. -/
def Prepared : Prop :=
  surroundings.qemu = true ∧ surroundings.kvm = true ∧ surroundings.socat = true ∧
    surroundings.bzImage = true ∧ surroundings.initramfs = true

/-- The loop comes to a budget that could not be computed, and the shell exits on it. -/
def Aborts (batch : Batch) : Prop :=
  surroundings.early = false ∧ (surroundings.budgetEval batch).1.toOption = none

/-- **When an invocation completes its records**: it starts no batch run, or one whose setup goes through and
which, if it finds its socket, does not abort. -/
def Completes (args : List Text) : Prop :=
  ∀ batch, surroundings.host.invoke args = .ok (.batch batch) →
    surroundings.Prepared ∧ (surroundings.socket = true → ¬ surroundings.Aborts batch)

/-- The time for an iteration and the counters of the result line, which the script evaluates, are without a
name. -/
def Tame (args : List Text) : Prop :=
  ∀ batch, surroundings.host.invoke args = .ok (.batch batch) →
    Nameless surroundings.host.perIter ∧ surroundings.host.Tame surroundings.resultLine

theorem preflight_ok_iff : surroundings.preflight true = .ok () ↔
    surroundings.qemu = true ∧ surroundings.kvm = true ∧ surroundings.socat = true := by
  rw [preflight]
  cases surroundings.qemu <;> cases surroundings.kvm <;> cases surroundings.socat <;> simp

theorem assertArtifacts_ok_iff : surroundings.assertArtifacts = .ok () ↔
    surroundings.bzImage = true ∧ surroundings.initramfs = true := by
  rw [assertArtifacts]
  cases surroundings.bzImage <;> cases surroundings.initramfs <;> simp

theorem prepared_iff : surroundings.Prepared ↔
    surroundings.preflight true = .ok () ∧ surroundings.assertArtifacts = .ok () := by
  rw [Prepared, preflight_ok_iff, assertArtifacts_ok_iff, and_assoc, and_assoc]

section Tame

variable {surroundings} {batch : Batch}

/-- The budget of texts without a name leaves the variables alone and does not come upon an unset one. -/
theorem budget_inert (perIter : Nameless surroundings.host.perIter) (iters : Nameless batch.iters) :
    (surroundings.budgetEval batch).2 = (surroundings.host.vars.set "iters".toList batch.iters).set
        "per_iter".toList surroundings.host.perIter ∧
      (status (surroundings.budgetEval batch).1).isSome := by
  let env := (surroundings.host.vars.set "iters".toList batch.iters).set "per_iter".toList
    surroundings.host.perIter
  have itersSet : env "iters".toList = some batch.iters := by
    show ((surroundings.host.vars.set "iters".toList batch.iters).set "per_iter".toList
      surroundings.host.perIter) "iters".toList = _
    rw [Env.set_other _ _ (by decide), Env.set_same]
  have perIterSet : env "per_iter".toList = some surroundings.host.perIter := Env.set_same _ _ _
  have readIters := @inert_var true 1022 _ _ _ itersSet iters
  have readPerIter := @inert_var true 1022 _ _ _ perIterSet perIter
  exact Inert.arith parse_budget ((readIters.binary .mul readPerIter).binary .add (.const 120))

theorem budgetExits_of_tame (perIter : Nameless surroundings.host.perIter) (iters : Nameless batch.iters) :
    surroundings.budgetExits batch = false := by
  rw [budgetExits, Option.isNone_eq_false_iff]
  exact (budget_inert perIter iters).2

theorem laterBatch_of_tame (perIter : Nameless surroundings.host.perIter) (iters : Nameless batch.iters) :
    surroundings.laterBatch batch = batch := by
  rw [laterBatch, (budget_inert perIter iters).1, Env.set_other _ _ (by decide), Env.set_same,
    Option.getD_some]

/-- **A tame run whose setup goes through** is the one after the setup; any other has no summary. -/
theorem batchEnd_cases (perIter : Nameless surroundings.host.perIter) (iters : Nameless batch.iters)
    (args : List Text) :
    surroundings.Prepared ∧ surroundings.batchEnd args batch = surroundings.conclude args batch ∨
      ¬ surroundings.Prepared ∧ (surroundings.batchEnd args batch).1 = none := by
  rw [prepared_iff, batchEnd, budgetExits_of_tame perIter iters, if_neg Bool.false_ne_true]
  -- the run after the setup is too large a term to compute with
  generalize surroundings.conclude args batch = ended
  cases surroundings.preflight true with
  | error setupError => exact .inr ⟨fun prepared => (nomatch prepared.1), rfl⟩
  | ok done =>
    cases surroundings.assertArtifacts with
    | error setupError => exact .inr ⟨fun prepared => (nomatch prepared.2), rfl⟩
    | ok done => exact .inl ⟨⟨rfl, rfl⟩, rfl⟩

theorem laterHost_names (batch : Batch) :
    (surroundings.laterHost batch).names = surroundings.host.names := by
  rw [laterHost]

/-- **A tame run past its setup** aborts, or comes to a summary that states its verdict. -/
theorem conclude_cases (perIter : Nameless surroundings.host.perIter) (iters : Nameless batch.iters)
    (tame : surroundings.host.Tame surroundings.resultLine) (args : List Text) :
    (surroundings.socket = true ∧ surroundings.Aborts batch) ∧
        (surroundings.conclude args batch).1 = none ∨
      ¬ (surroundings.socket = true ∧ surroundings.Aborts batch) ∧
        ∃ lines, (surroundings.conclude args batch).1 = some lines ∧
          States lines (verdictOf (surroundings.conclude args batch).2) := by
  have finished : ∃ lines, (surroundings.finish batch).summary = some lines ∧
      ∀ head, States (head ++ lines) (verdictOf (surroundings.finish batch).exitCode) := by
    have same := laterBatch_of_tame perIter iters
    have laterTame : (surroundings.laterHost batch).Tame surroundings.resultLine := by
      rw [Setting.Tame, laterHost_names]
      exact tame
    exact finish_states surroundings.cause laterTame (by rw [same]; exact iters)
  obtain ⟨lines, written, states⟩ := finished
  rw [conclude, Aborts]
  -- neither the report nor the budget is to be computed here
  generalize surroundings.finish batch = report at written states ⊢
  generalize (surroundings.budgetEval batch).1.toOption = budget
  have whole : States (surroundings.argsLines args batch ++
      ("duration: ".toList ++ decimal surroundings.duration ++ "s".toList) :: lines)
        (verdictOf report.exitCode) := by
    rw [List.append_cons]
    exact states _
  cases surroundings.socket with
  | false => exact .inr ⟨nofun, _, rfl, _, rfl, .inr ⟨rfl, rfl⟩⟩
  | true =>
    cases surroundings.early with
    | false =>
      cases budget with
      | none => exact .inl ⟨⟨rfl, rfl, rfl⟩, rfl⟩
      | some seconds => exact .inr ⟨nofun, _, congrArg (Option.map _) written, whole⟩
    | true => exact .inr ⟨nofun, _, congrArg (Option.map _) written, whole⟩

/-- **A tame batch run leaves a complete directory** exactly where its setup goes through and it does not
abort. -/
theorem batchDir_complete_iff (perIter : Nameless surroundings.host.perIter) (iters : Nameless batch.iters)
    (tame : surroundings.host.Tame surroundings.resultLine) (args : List Text) :
    (surroundings.batchDir args batch).Complete ↔
      surroundings.Prepared ∧ (surroundings.socket = true → ¬ surroundings.Aborts batch) := by
  rw [← not_and, RunDir.Complete, batchDir]
  rcases batchEnd_cases perIter iters args with ⟨prepared, goesOn⟩ | ⟨stops, empty⟩
  · rw [goesOn, and_iff_right prepared]
    rcases conclude_cases perIter iters tame args with ⟨aborts, none⟩ | ⟨goesThrough, complete⟩
    · refine iff_of_false ?_ (not_not.mpr aborts)
      rintro ⟨lines, written, _⟩
      exact nomatch written.symm.trans none
    · exact iff_of_true complete goesThrough
  · refine iff_of_false ?_ fun ⟨prepared, _⟩ => stops prepared
    rintro ⟨lines, written, _⟩
    exact nomatch written.symm.trans empty

end Tame

/-- A run past its setup does not exit with 2. -/
theorem conclude_exitCode (args : List Text) (batch : Batch) : (surroundings.conclude args batch).2 ≠ 2 := by
  have one : (1 : ℕ) ≠ 2 := by decide
  unfold conclude
  split_ifs
  · exact one
  · exact one
  · exact finish_exitCode _ _ _ _

/-- An accepted count is without a name. -/
theorem nameless_iters {host : Setting} {args : List Text} {batch : Batch}
    (reaches : host.invoke args = .ok (.batch batch)) : Nameless batch.iters := by
  cases parsed : parseArgs args with
  | error exit =>
    rw [Setting.invoke, parsed] at reaches
    cases reaches
  | ok options =>
    have dispatched : host.dispatch options = .ok (.batch batch) := by
      rw [Setting.invoke, parsed] at reaches
      exact reaches
    rw [Setting.dispatch] at dispatched
    split at dispatched
    · cases dispatched
    split at dispatched
    · obtain rfl := Mode.batch.inj (Except.ok.inj dispatched)
      exact Digits.nameless (show Digits "1".toList by decide)
    split at dispatched
    · cases dispatched
    split at dispatched
    · cases dispatched
    split at dispatched
    · cases dispatched
    · rename_i accepted
      obtain rfl := Mode.batch.inj (Except.ok.inj dispatched)
      rw [Bool.not_eq_true, Bool.not_eq_false'] at accepted
      exact (Digits.of_isNumeral (isNumeral_of_acceptsIters accepted)).nameless

/-- **One invocation** whose texts are without a name. -/
theorem holds_iff {args : List Text} (tame : surroundings.Tame args) {records : Records}
    (complete : records.Complete) : surroundings.Holds args records ↔ surroundings.Completes args := by
  rw [Holds, Completes, invocation]
  cases reaches : surroundings.host.invoke args with
  | error exit => exact iff_of_true ⟨fun _ => rfl, complete⟩ nofun
  | ok mode =>
    cases mode with
    | last => exact iff_of_true ⟨fun _ => rfl, complete⟩ nofun
    | interactive => exact iff_of_true ⟨fun _ => rfl, complete⟩ nofun
    | batch batch =>
      obtain ⟨perIter, counters⟩ := tame batch reaches
      have iters := nameless_iters reaches
      have whole := batchDir_complete_iff perIter iters counters args
      rw [← complete_add_iff records] at whole
      constructor
      · rintro ⟨_, completed⟩ other same
        obtain rfl := Mode.batch.inj (Except.ok.inj same)
        exact whole.mp completed
      · intro completes
        have goesOn := completes batch rfl
        refine ⟨fun code => ?_, whole.mpr goesOn⟩
        rcases batchEnd_cases perIter iters args with ⟨_, same⟩ | ⟨stops, _⟩
        · have late : (surroundings.batchEnd args batch).2 = 2 := code
          rw [same] at late
          exact absurd late (surroundings.conclude_exitCode args batch)
        · exact absurd goesOn.1 stops

end Surroundings

/-! ### Histories -/

/-- What is asked of each invocation of a history. -/
def Throughout : Records → List (Surroundings × List Text) → Prop
  | _, [] => True
  | records, (surroundings, args) :: rest =>
    surroundings.Holds args records ∧ Throughout (surroundings.invocation args records).1 rest

/-- **Records of histories** of tame invocations: every one leaves complete records, and unchanged ones where
it exits with 2, if and only if every batch run gets through its setup and, if it finds its socket, does not
abort. -/
theorem records_iff {records : Records} (complete : records.Complete)
    {history : List (Surroundings × List Text)}
    (tame : ∀ invocation ∈ history, invocation.1.Tame invocation.2) :
    Throughout records history ↔ ∀ invocation ∈ history, invocation.1.Completes invocation.2 := by
  induction history generalizing records with
  | nil => exact iff_of_true trivial fun _ member => absurd member List.not_mem_nil
  | cons invocation rest ih =>
    obtain ⟨surroundings, args⟩ := invocation
    rw [List.forall_mem_cons] at tame
    rw [Throughout, List.forall_mem_cons, ← surroundings.holds_iff tame.1 complete]
    exact and_congr_right fun holds => ih holds.2 tame.2

/-! ### Two short histories -/

/-- A machine on which everything is found, and a run that is not answered. -/
def ready : Surroundings where
  host := plainHost
  qemuBin := "qemu-system-x86_64".toList
  ndt := "/root/ndt".toList
  runId := "20260101-000000-1".toList
  forks := []
  qemu := true
  kvm := true
  socat := true
  bzImage := true
  initramfs := true
  socket := true
  early := false
  cause := "timeout".toList
  resultLine := []
  duration := 721
  qemuStatus := 0

theorem complete_empty : (⟨[], none⟩ : Records).Complete := fun present => absurd rfl present

/-- The default time for an iteration and no result line: nothing has a name. -/
theorem tame_ready (args : List Text) : ready.Tame args := by
  refine fun _ _ => ⟨Digits.nameless (show Digits "600".toList by decide), fun counters parsed => ?_⟩
  have none : parseSentinel plainHost.names [] = .counters .initial := rfl
  have zero : Nameless "0".toList := Digits.nameless (by decide)
  obtain rfl := Parsed.counters.inj (none.symm.trans parsed)
  exact ⟨zero, zero, zero⟩

/-- A run that is not answered, and a look at it. -/
theorem records_iff_timeout :
    Throughout ⟨[], none⟩ [(ready, ["--kunit".toList]), (ready, ["--last".toList])] := by
  have tame : ∀ invocation ∈ [(ready, ["--kunit".toList]), (ready, ["--last".toList])],
      invocation.1.Tame invocation.2 := by
    rw [List.forall_mem_cons, List.forall_mem_singleton]
    exact ⟨tame_ready _, tame_ready _⟩
  refine (records_iff complete_empty tame).mpr ?_
  rw [List.forall_mem_cons, List.forall_mem_singleton]
  refine ⟨fun batch reaches => ?_, fun batch reaches => ?_⟩
  · have kunit : plainHost.invoke ["--kunit".toList] = .ok (.batch ⟨.kunit, "1".toList, false⟩) := rfl
    obtain rfl := Mode.batch.inj (Except.ok.inj (kunit.symm.trans reaches))
    have one : constant "1".toList = some 1 := by decide
    have budget : (ready.budgetEval ⟨.kunit, "1".toList, false⟩).1.toOption = some 720 := by
      refine (budget_eq rfl (by decide)).trans ?_
      rw [one]
      decide
    refine ⟨⟨rfl, rfl, rfl, rfl, rfl⟩, fun _ aborts => ?_⟩
    exact nomatch budget.symm.trans aborts.2
  · have last : plainHost.invoke ["--last".toList] = .ok .last := rfl
    exact nomatch last.symm.trans reaches

/-- **Without `socat`** a KUnit run exits with 2, but `latest` names its directory, which has no summary. -/
theorem half_made_records :
    ({ ready with socat := false }.invocation ["--kunit".toList] ⟨[], none⟩).2 = 2 ∧
      ¬ Throughout ⟨[], none⟩ [({ ready with socat := false }, ["--kunit".toList])] := by
  refine ⟨rfl, ?_⟩
  rintro ⟨⟨unchanged, _⟩, _⟩
  have same : (Records.add ⟨[], none⟩ _) = ⟨[], none⟩ := unchanged rfl
  exact add_ne _ _ same

end Ndt.Run
