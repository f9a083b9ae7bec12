/-
**`_run_test`: the calls of a test function under every condition and on every device.**

* `callTest`, `checkAndCallTest`, `checkAndCallTestDevice`, `checkAndCallTestDeviceArray`, `runTest` — the
  functions of `check`, on the variables that they share. A test function that calls `exit` ends the
  subshell.
* `runTest_scoped` — a reason to skip is in force for the condition or the device it was raised for, and
  nowhere else.
* `runTest_status` — the exit status of `_run_test`: a `test()` that fails leaves it at `0`, a
  `test_device()` or `test_device_array()` that fails makes it `1`.
* `runTest_refines` — what `_run_test` leaves in the directory of the results is what `callTests` leaves for
  a checklist.

`TEST_DEVS` is `()` or `(fallback)` between the conditions of a test that made its own device; the loop does
the same for both, so a test without devices that can make one is `checkFallback` here.

Two things are taken for granted. A test function leaves the variables of its callers alone: one that assigns to
a `ret` it has not declared changes the `ret` of the function that called it. And `mktemp`, `pushd` and `popd`
succeed: where one of them fails `_call_test` returns without a record, and the loops go on.
-/

import Ndt.Check.Conditions
import Ndt.Shell.Path
import Ndt.Guest.Check

namespace Ndt.Check

open Shell Guest

variable {World : Type}

/-! ### The subshell -/

/-- **The variables of the subshell of a test**; `env` holds those of the test itself, `COND_DESC` among them,
and `world` is the system. -/
structure Sub (World : Type) where
  skipReasons : Option (List Text)
  modulesToUnload : List Text
  env : Env
  world : World

/-- `SKIP_REASONS+=("...")` -/
def Sub.raise (reason : Text) (sub : Sub World) : Sub World :=
  { sub with skipReasons := some (sub.skipReasons.getD [] ++ [reason]) }

/-- `unset SKIP_REASONS` -/
def Sub.unset (sub : Sub World) : Sub World := { sub with skipReasons := none }

/-- `COND_DESC` -/
def Sub.condDesc (sub : Sub World) : Text := value sub.env "COND_DESC"

/-- What `_call_test` finds when a test function has returned. -/
structure Returned (World : Type) where
  outputMatches : Bool
  exitStatus : ℕ
  dmesgClean : Bool
  kmemleakClean : Bool
  keys : Keys
  sub : Sub World

/-- A test function has been called. -/
inductive Ran (World : Type)
  | exits (status : ℕ) (world : World)
  | returns (returned : Returned World)

/-- Which of its functions a test defines. -/
inductive Kind
  | test | device | deviceArray
  deriving DecidableEq, Repr

/-- **What a test file defines.** A function that is not defined changes nothing. -/
structure TestFile (World : Type) where
  name : Text
  kind : Kind
  canBeZoned : Bool
  setConditions : Option Hook
  requires : Sub World → Sub World
  deviceRequires : Text → Sub World → Sub World
  /-- The device it makes, if it makes one. -/
  fallbackDevice : Option (Sub World → Option Text × Sub World)
  cleanupFallbackDevice : World → World
  /-- `test`, `test_device` or `test_device_array`, on the devices it is given; its callers' `ret` stays. -/
  body : List Text → Sub World → Ran World
  /-- The other lines of the record of a call that is skipped. -/
  skippedKeys : Keys

/-- **The system and the configuration**, as far as `check` asks for them. -/
structure Host (World : Type) where
  /-- `TEST_DEVS` -/
  testDevs : List Text
  /-- The devices of `TEST_CASE_DEV_ARRAY` for the test. -/
  arrayDevs : List Text
  /-- `_test_dev_is_zoned` -/
  isZoned : Text → World → Bool
  /-- `_find_sysfs_dirs` -/
  hasSysfs : Text → World → Bool
  /-- `_patient_rmmod` on one module after the other -/
  rmmod : List Text → World → World

/-- `_unload_modules`, the last module first. -/
def Sub.unloadModules (host : Host World) (sub : Sub World) : Sub World :=
  { sub with modulesToUnload := [], world := host.rmmod sub.modulesToUnload.reverse sub.world }

/-- **How a function of `check` ends**: what it wrote to the directories of the results, in its order, a
directory without a record for a call that did not come back; and its status with the variables it leaves, or
the status with which the subshell ended. -/
structure Ended (World : Type) where
  writes : List (Text × Option Record)
  rest : Except (ℕ × World) (ℕ × Sub World)

/-- A function that returns without having written anything. -/
def Ended.done (status : ℕ) (sub : Sub World) : Ended World := ⟨[], .ok (status, sub)⟩

/-- One function after another. -/
def Ended.andThen (first : Ended World) (next : ℕ → Sub World → Ended World) : Ended World :=
  match first.rest with
  | .error ended => ⟨first.writes, .error ended⟩
  | .ok (status, sub) => ⟨first.writes ++ (next status sub).writes, (next status sub).rest⟩

/-! ### One call -/

/-- What is judged. -/
def Returned.judged (returned : Returned World) : Judged :=
  ⟨returned.sub.skipReasons.isSome, returned.outputMatches, returned.exitStatus, returned.dmesgClean,
    returned.kmemleakClean⟩

/-- `_call_test`, with `RESULTS_DIR` below `$OUTPUT`, once it has its `TMPDIR` and can change directories. -/
def callTest (file : TestFile World) (resultsDir : Text) (devs : List Text) (sub : Sub World) : Ended World :=
  if sub.skipReasons.isSome then
    ⟨[(resultsDir, some (Guest.writeTestRun file.skippedKeys .notRun))], .ok (0, sub)⟩
  else
    match file.body devs sub with
    | .exits status world => ⟨[(resultsDir, none)], .error (status, world)⟩
    | .returns returned =>
      ⟨[(resultsDir, some (Guest.writeTestRun returned.keys returned.judged.status))],
        .ok (if returned.judged.status = .fail then 1 else 0, returned.sub)⟩

/-- `_check_and_call_test`. Its status is that of `_unload_modules`, whose last command is `unset`. -/
def checkAndCallTest (host : Host World) (file : TestFile World) (start : Sub World) : Ended World :=
  let sub := file.requires start
  (callTest file ("nodev".toList ++ postfixOf sub.condDesc) [] sub).andThen fun _ after =>
    .done 0 (after.unloadModules host)

/-- What is held against a device. -/
def deviceReasons (host : Host World) (file : TestFile World) (dev : Text) (sub : Sub World) : Sub World :=
  if !file.canBeZoned && host.isZoned dev sub.world then
    sub.raise (dev ++ " is a zoned block device".toList)
  else file.deviceRequires dev sub

/-- `basename` -/
def baseName (t : Text) : Text :=
  match (components t).filter (· ≠ []) |>.getLast? with
  | some last => last
  | none => t.take 1

/-- One round of `for TEST_DEV in "${TEST_DEVS[@]}"`, up to `_unload_modules`; `cleanup` is what a device
that the test made needs. -/
def callDevice (host : Host World) (file : TestFile World) (suffix : Text) (cleanup : World → World)
    (dev : Text) (sub : Sub World) : Ended World :=
  if sub.skipReasons.isNone then
    (callTest file (baseName dev ++ suffix) [dev] (deviceReasons host file dev sub)).andThen
      fun status after =>
        .done status ({ after.unset with world := cleanup after.world }.unloadModules host)
  else
    (callTest file (baseName dev ++ suffix) [dev] sub).andThen fun status after =>
      .done status ({ after with world := cleanup after.world }.unloadModules host)

/-- The loop over the devices. -/
def deviceLoop (host : Host World) (file : TestFile World) (suffix : Text) :
    List Text → ℕ → Sub World → Ended World
  | [], ret, sub => .done ret sub
  | dev :: devs, ret, sub =>
    (callDevice host file suffix id dev sub).andThen fun status after =>
      deviceLoop host file suffix devs (if status ≠ 0 then 1 else ret) after

/-- The one round for a device that the test makes itself. -/
def checkFallback (host : Host World) (file : TestFile World) (suffix : Text)
    (fallbackDevice : Sub World → Option Text × Sub World) (sub : Sub World) : Ended World :=
  if sub.skipReasons.isSome then .done 0 sub
  else
    match fallbackDevice sub with
    | (none, after) => .done 0 after
    | (some dev, after) =>
      if host.hasSysfs dev after.world then
        (callDevice host file suffix file.cleanupFallbackDevice dev after).andThen fun status last =>
          .done (if status ≠ 0 then 1 else 0) last
      else .done 0 { after with world := file.cleanupFallbackDevice after.world }

/-- `_check_and_call_test_device` -/
def checkAndCallTestDevice (host : Host World) (file : TestFile World) (start : Sub World) : Ended World :=
  let sub := file.requires start
  match host.testDevs, file.fallbackDevice with
  | [], some fallbackDevice => checkFallback host file (postfixOf sub.condDesc) fallbackDevice sub
  | devs, _ => deviceLoop host file (postfixOf sub.condDesc) devs 0 sub

/-- `_check_and_call_test_device_array`. Its directory has no postfix: the variable belongs to the other two
functions. -/
def checkAndCallTestDeviceArray (host : Host World) (file : TestFile World) (start : Sub World) :
    Ended World :=
  let sub := host.arrayDevs.foldl (fun sub dev => deviceReasons host file dev sub) (file.requires start)
  let sub := if host.arrayDevs = [] then
    sub.raise ("TEST_CASE_DEV_ARRAY is not defined for ".toList ++ file.name) else sub
  (callTest file (['_'].intercalate (host.arrayDevs.map baseName)) host.arrayDevs sub).andThen
    fun status after => .done (if status ≠ 0 then 1 else 0) (after.unloadModules host)

/-! ### The conditions -/

/-- `for ((cond_i = 0; cond_i < nr_conds; cond_i++))` -/
def runTestConditions (call : Sub World → Ended World) (setConditions : Hook) :
    ℕ → ℕ → ℕ → Sub World → Ended World
  | 0, _, ret, sub => .done ret sub
  | more + 1, cond, ret, sub =>
    (call { sub with env := setConditions.set cond sub.env }).andThen fun status after =>
      runTestConditions call setConditions more (cond + 1) (if ret ≠ 0 ∨ status ≠ 0 then 1 else 0)
        after.unset

/-- The function that calls the test. -/
def TestFile.caller (file : TestFile World) (host : Host World) : Sub World → Ended World :=
  match file.kind with
  | .test => checkAndCallTest host file
  | .device => checkAndCallTestDevice host file
  | .deviceArray => checkAndCallTestDeviceArray host file

/-- The calls of `_run_test`: under every condition, if the test has conditions. -/
def runCalls (file : TestFile World) (call : Sub World → Ended World) (sub : Sub World) : Ended World :=
  match file.kind, file.setConditions with
  | .deviceArray, _ => call sub
  | _, none => call sub
  | _, some setConditions =>
    runTestConditions call setConditions (setConditions.count sub.env) 0 0 sub

/-- `COND_DESC=""` and `MODULES_TO_UNLOAD=()` -/
def testStart (group : Sub World) : Sub World :=
  { group with modulesToUnload := [], env := group.env.set "COND_DESC".toList [] }

/-- **`_run_test`**, from the variables that `_run_group` has set. -/
def runTest (host : Host World) (file : TestFile World) (group : Sub World) : Ended World :=
  runCalls file (file.caller host) (testStart group)

/-- A system with one device, on which modules leave no trace. -/
def oneDevice : Host Unit where
  testDevs := ["/dev/nvme0n1".toList]
  arrayDevs := []
  isZoned _ _ := false
  hasSysfs _ _ := true
  rmmod _ world := world

/-- A test on a device that returns with an exit status. -/
def deviceTest (exitStatus : ℕ) : TestFile Unit where
  name := "nvme/069".toList
  kind := .device
  canBeZoned := false
  setConditions := none
  requires := id
  deviceRequires _ := id
  fallbackDevice := none
  cleanupFallbackDevice := id
  body _ sub := .returns ⟨true, exitStatus, true, true, noKeys, sub⟩
  skippedKeys := noKeys

/-- No variables are set. -/
def bareSub : Sub Unit := ⟨none, [], fun _ => none, ()⟩

/-! ### Functions that return -/

theorem Ended.andThen_ok {first : Ended World} {next : ℕ → Sub World → Ended World} {status : ℕ}
    {sub : Sub World} (returned : first.rest = .ok (status, sub)) :
    first.andThen next = ⟨first.writes ++ (next status sub).writes, (next status sub).rest⟩ := by
  rw [Ended.andThen, returned]

theorem Ended.andThen_error {first : Ended World} {next : ℕ → Sub World → Ended World} {ended : ℕ × World}
    (exited : first.rest = .error ended) : first.andThen next = ⟨first.writes, .error ended⟩ := by
  rw [Ended.andThen, exited]

/-- What comes after a function that does not return does not matter. -/
theorem Ended.andThen_congr {first : Ended World} {next other : ℕ → Sub World → Ended World}
    (same : ∀ status sub, first.rest = .ok (status, sub) → next status sub = other status sub) :
    first.andThen next = first.andThen other := by
  cases rest : first.rest with
  | error ended => rw [andThen_error rest, andThen_error rest]
  | ok returned => rw [andThen_ok rest, andThen_ok rest, same _ _ rest]

/-- Both functions have returned. -/
theorem Ended.of_andThen_ok {first : Ended World} {next : ℕ → Sub World → Ended World} {status : ℕ}
    {sub : Sub World} (returned : (first.andThen next).rest = .ok (status, sub)) :
    ∃ before between, first.rest = .ok (before, between) ∧ (next before between).rest = .ok (status, sub) ∧
      (first.andThen next).writes = first.writes ++ (next before between).writes := by
  cases rest : first.rest with
  | error ended =>
    rw [andThen_error rest] at returned
    cases returned
  | ok between =>
    rw [andThen_ok rest] at returned ⊢
    exact ⟨_, _, rfl, returned, rfl⟩

/-! ### Reasons to skip -/

/-- A call on a device leaves `SKIP_REASONS` as it found it. -/
theorem callDevice_skipReasons {host : Host World} {file : TestFile World} {suffix dev : Text}
    {cleanup : World → World} {sub after : Sub World} {status : ℕ}
    (returned : (callDevice host file suffix cleanup dev sub).rest = .ok (status, after)) :
    after.skipReasons = sub.skipReasons := by
  unfold callDevice at returned
  by_cases unset : sub.skipReasons.isNone = true
  · rw [if_pos unset] at returned
    obtain ⟨_, between, _, last, _⟩ := Ended.of_andThen_ok returned
    cases last
    exact (Option.isNone_iff_eq_none.mp unset).symm
  · rw [if_neg unset] at returned
    obtain ⟨_, between, called, last, _⟩ := Ended.of_andThen_ok returned
    rw [callTest, if_pos (by simpa [Option.isSome_iff_ne_none] using unset)] at called
    cases called
    cases last
    rfl

/-- The loop over the devices with `SKIP_REASONS` set to `reasons` in front of every round. -/
def scopedDevices (host : Host World) (file : TestFile World) (suffix : Text) (reasons : Option (List Text)) :
    List Text → ℕ → Sub World → Ended World
  | [], ret, sub => .done ret sub
  | dev :: devs, ret, sub =>
    (callDevice host file suffix id dev { sub with skipReasons := reasons }).andThen fun status after =>
      scopedDevices host file suffix reasons devs (if status ≠ 0 then 1 else ret) after

/-- **A device is skipped for reasons of its own**, or for those that `requires` gave for all devices. -/
theorem deviceLoop_scoped (host : Host World) (file : TestFile World) (suffix : Text) (devs : List Text)
    (ret : ℕ) (sub : Sub World) :
    deviceLoop host file suffix devs ret sub =
      scopedDevices host file suffix sub.skipReasons devs ret sub := by
  induction devs generalizing ret sub with
  | nil => rfl
  | cons dev devs ih =>
    refine Ended.andThen_congr fun status after returned => ?_
    rw [ih, callDevice_skipReasons returned]

/-- The function that calls the test, with `SKIP_REASONS` unset in front of it, and in front of every device
set to what `requires` left. The devices of an array are one call, for which their reasons are collected. -/
def TestFile.scopedCaller (file : TestFile World) (host : Host World) (start : Sub World) : Ended World :=
  match file.kind, host.testDevs, file.fallbackDevice with
  | .device, dev :: devs, _ =>
    let sub := file.requires start.unset
    scopedDevices host file (postfixOf sub.condDesc) sub.skipReasons (dev :: devs) 0 sub
  | _, _, _ => file.caller host start.unset

theorem scopedCaller_eq (host : Host World) (file : TestFile World) {start : Sub World}
    (none : start.skipReasons = none) : file.scopedCaller host start = file.caller host start := by
  have same : start.unset = start := by rw [Sub.unset, ← none]
  unfold TestFile.scopedCaller TestFile.caller
  rw [same]
  cases file.kind with
  | test => rfl
  | deviceArray => rfl
  | device =>
    unfold checkAndCallTestDevice
    cases host.testDevs with
    | nil => rfl
    | cons dev devs => exact (deviceLoop_scoped host file _ _ 0 _).symm

theorem runTestConditions_congr {call other : Sub World → Ended World}
    (same : ∀ start, start.skipReasons = none → call start = other start) (setConditions : Hook)
    (more cond ret : ℕ) {sub : Sub World} (none : sub.skipReasons = none) :
    runTestConditions call setConditions more cond ret sub =
      runTestConditions other setConditions more cond ret sub := by
  induction more generalizing cond ret sub with
  | zero => rfl
  | succ more ih =>
    rw [runTestConditions, runTestConditions, same { sub with env := setConditions.set cond sub.env } none]
    exact Ended.andThen_congr fun status after _ => ih _ _ rfl

/-- **No reason to skip reaches another condition or another device**: a `_run_test` that puts
`SKIP_REASONS` back by hand in front of every condition and every device does the same. -/
theorem runTest_scoped (host : Host World) (file : TestFile World) {group : Sub World}
    (none : group.skipReasons = none) :
    runTest host file group = runCalls file (file.scopedCaller host) (testStart group) := by
  have calls : ∀ start : Sub World, start.skipReasons = .none →
      file.caller host start = file.scopedCaller host start :=
    fun start unset => (scopedCaller_eq host file unset).symm
  unfold runTest runCalls
  cases file.kind with
  | deviceArray => exact calls _ none
  | test =>
    cases file.setConditions with
    | none => exact calls _ none
    | some setConditions => exact runTestConditions_congr calls setConditions _ _ _ none
  | device =>
    cases file.setConditions with
    | none => exact calls _ none
    | some setConditions => exact runTestConditions_congr calls setConditions _ _ _ none

theorem runTest_scoped_device :
    runTest oneDevice (deviceTest 1) bareSub =
      runCalls (deviceTest 1) ((deviceTest 1).scopedCaller oneDevice) (testStart bareSub) :=
  runTest_scoped oneDevice (deviceTest 1) rfl

/-! ### The exit status -/

/-- The record on file states the status. -/
def States (status : Status) (entry : Text × Option Record) : Prop :=
  ∃ record, entry.2 = some record ∧ record.status? = some status.text

theorem text_injective : Function.Injective Status.text := by
  intro first second same
  cases first <;> cases second <;> first | rfl | exact absurd same (by decide)

theorem states_writeTestRun {resultsDir : Text} {keys : Keys} {status stated : Status} :
    States stated (resultsDir, some (Guest.writeTestRun keys status)) ↔ status = stated := by
  constructor
  · rintro ⟨record, onFile, same⟩
    cases onFile
    rw [status?_writeTestRun, Option.some_inj] at same
    exact text_injective same
  · rintro rfl
    exact ⟨_, rfl, status?_writeTestRun keys status⟩

/-- A function that returns tells by its status whether a record says `fail`, or the status before it did. -/
def Ended.Tells (before : ℕ) (ended : Ended World) : Prop :=
  ∀ status sub, ended.rest = .ok (status, sub) →
    (status ≠ 0 ↔ before ≠ 0 ∨ ∃ entry ∈ ended.writes, States .fail entry)

theorem Ended.tells_done (status : ℕ) (sub : Sub World) : (Ended.done status sub).Tells status := by
  rintro _ _ ⟨⟩
  simp [Ended.done]

/-- **One function after another**: the second one is told by `combine` what the first one told. -/
theorem Ended.Tells.andThen {before : ℕ} {first : Ended World} (tells : first.Tells 0)
    (combine : ℕ → ℕ) (combined : ∀ status, combine status ≠ 0 ↔ before ≠ 0 ∨ status ≠ 0)
    {next : ℕ → Sub World → Ended World} (later : ∀ status sub, (next status sub).Tells (combine status)) :
    (first.andThen next).Tells before := by
  intro status sub returned
  obtain ⟨middle, between, firstReturned, nextReturned, writes⟩ := Ended.of_andThen_ok returned
  have told := tells middle between firstReturned
  rw [writes, later middle between status sub nextReturned, combined, told]
  simp only [ne_eq, not_true_eq_false, false_or, List.mem_append, or_and_right, exists_or, or_assoc]

/-- **What a call can do**: it is skipped, it exits, or it is judged. -/
theorem callTest_cases (file : TestFile World) (resultsDir : Text) (devs : List Text) (sub : Sub World) :
    (sub.skipReasons.isSome = true ∧ callTest file resultsDir devs sub =
        ⟨[(resultsDir, some (Guest.writeTestRun file.skippedKeys .notRun))], .ok (0, sub)⟩) ∨
      (∃ status world, callTest file resultsDir devs sub =
        ⟨[(resultsDir, none)], .error (status, world)⟩) ∨
      ∃ returned : Returned World, callTest file resultsDir devs sub =
        ⟨[(resultsDir, some (Guest.writeTestRun returned.keys returned.judged.status))],
          .ok (if returned.judged.status = .fail then 1 else 0, returned.sub)⟩ := by
  by_cases skipped : sub.skipReasons.isSome = true
  · exact .inl ⟨skipped, if_pos skipped⟩
  · rw [callTest, if_neg skipped]
    cases file.body devs sub with
    | exits status world => exact .inr (.inl ⟨status, world, rfl⟩)
    | returns returned => exact .inr (.inr ⟨returned, rfl⟩)

theorem callTest_tells (file : TestFile World) (resultsDir : Text) (devs : List Text) (sub : Sub World) :
    (callTest file resultsDir devs sub).Tells 0 := by
  rcases callTest_cases file resultsDir devs sub with ⟨_, skipped⟩ | ⟨_, _, exited⟩ | ⟨returned, judged⟩
  · rw [skipped]
    rintro _ _ ⟨⟩
    simp [states_writeTestRun]
  · rw [exited]
    rintro _ _ ⟨⟩
  · rw [judged]
    rintro _ _ ⟨⟩
    simp [states_writeTestRun]

/-- What only cleans up keeps the status. -/
theorem Ended.Tells.keep {first : Ended World} (tells : first.Tells 0) (clean : Sub World → Sub World) :
    (first.andThen fun status after => .done status (clean after)).Tells 0 :=
  tells.andThen id (fun status => by simp) fun status after => Ended.tells_done status _

theorem callDevice_tells (host : Host World) (file : TestFile World) (suffix : Text)
    (cleanup : World → World) (dev : Text) (sub : Sub World) :
    (callDevice host file suffix cleanup dev sub).Tells 0 := by
  unfold callDevice
  split
  · exact (callTest_tells file _ _ _).keep fun after =>
      { after.unset with world := cleanup after.world }.unloadModules host
  · exact (callTest_tells file _ _ _).keep fun after =>
      { after with world := cleanup after.world }.unloadModules host

theorem deviceLoop_tells (host : Host World) (file : TestFile World) (suffix : Text) (devs : List Text)
    (ret : ℕ) (sub : Sub World) : (deviceLoop host file suffix devs ret sub).Tells ret := by
  induction devs generalizing ret sub with
  | nil => exact Ended.tells_done ret sub
  | cons dev devs ih =>
    refine (callDevice_tells host file suffix id dev sub).andThen
      (fun status => if status ≠ 0 then 1 else ret) (fun status => ?_) fun status after => ih _ after
    by_cases zero : status = 0 <;> simp [zero]

/-- `ret=1` for a status other than `0`. -/
theorem Ended.Tells.one {first : Ended World} (tells : first.Tells 0) (clean : Sub World → Sub World) :
    (first.andThen fun status after => .done (if status ≠ 0 then 1 else 0) (clean after)).Tells 0 :=
  tells.andThen (fun status => if status ≠ 0 then 1 else 0) (fun status => by simp)
    fun status after => Ended.tells_done _ _

theorem checkFallback_tells (host : Host World) (file : TestFile World) (suffix : Text)
    (fallbackDevice : Sub World → Option Text × Sub World) (sub : Sub World) :
    (checkFallback host file suffix fallbackDevice sub).Tells 0 := by
  unfold checkFallback
  split
  · exact Ended.tells_done 0 _
  · split
    · exact Ended.tells_done 0 _
    · split
      · exact (callDevice_tells host file _ _ _ _).one id
      · exact Ended.tells_done 0 _

theorem checkAndCallTestDevice_tells (host : Host World) (file : TestFile World) (start : Sub World) :
    (checkAndCallTestDevice host file start).Tells 0 := by
  unfold checkAndCallTestDevice
  cases host.testDevs with
  | cons dev devs => exact deviceLoop_tells host file _ _ 0 _
  | nil =>
    cases file.fallbackDevice with
    | none => exact deviceLoop_tells host file _ [] 0 _
    | some fallbackDevice => exact checkFallback_tells host file _ fallbackDevice _

theorem checkAndCallTestDeviceArray_tells (host : Host World) (file : TestFile World) (start : Sub World) :
    (checkAndCallTestDeviceArray host file start).Tells 0 :=
  (callTest_tells file _ _ _).one fun after => after.unloadModules host

theorem runTestConditions_tells {call : Sub World → Ended World} (tells : ∀ start, (call start).Tells 0)
    (setConditions : Hook) (more cond ret : ℕ) (sub : Sub World) :
    (runTestConditions call setConditions more cond ret sub).Tells ret := by
  induction more generalizing cond ret sub with
  | zero => exact Ended.tells_done ret sub
  | succ more ih =>
    refine (tells _).andThen (fun status => if ret ≠ 0 ∨ status ≠ 0 then 1 else 0)
      (fun status => ?_) fun status after => ih _ _ _
    by_cases zero : ret = 0 <;> simp [zero]

/-- A function that returns returns `0`. -/
def Ended.Mute (ended : Ended World) : Prop := ∀ status sub, ended.rest = .ok (status, sub) → status = 0

theorem Ended.Mute.andThen (first : Ended World) {next : ℕ → Sub World → Ended World}
    (mute : ∀ status sub, first.rest = .ok (status, sub) → (next status sub).Mute) :
    (first.andThen next).Mute := by
  intro status sub returned
  obtain ⟨_, _, firstReturned, nextReturned, _⟩ := Ended.of_andThen_ok returned
  exact mute _ _ firstReturned status sub nextReturned

theorem checkAndCallTest_mute (host : Host World) (file : TestFile World) (start : Sub World) :
    (checkAndCallTest host file start).Mute :=
  .andThen _ fun _ _ _ => by rintro _ _ ⟨⟩; rfl

theorem runTestConditions_mute {call : Sub World → Ended World} (mute : ∀ start, (call start).Mute)
    (setConditions : Hook) (more cond : ℕ) (sub : Sub World) :
    (runTestConditions call setConditions more cond 0 sub).Mute := by
  induction more generalizing cond sub with
  | zero => rintro _ _ ⟨⟩; rfl
  | succ more ih =>
    refine .andThen _ fun status after returned => ?_
    rw [mute _ status after returned]
    exact ih _ _

/-- Where a test works on devices, its status tells. -/
theorem runTest_tells (host : Host World) {file : TestFile World} (kind : file.kind ≠ .test)
    (group : Sub World) : (runTest host file group).Tells 0 := by
  unfold runTest runCalls TestFile.caller
  cases stated : file.kind with
  | test => exact absurd stated kind
  | deviceArray => exact checkAndCallTestDeviceArray_tells host file _
  | device =>
    cases file.setConditions with
    | none => exact checkAndCallTestDevice_tells host file _
    | some setConditions =>
      exact runTestConditions_tells (checkAndCallTestDevice_tells host file) setConditions _ 0 0 _

/-- A `test()` makes no difference to the status. -/
theorem runTest_mute (host : Host World) {file : TestFile World} (kind : file.kind = .test)
    (group : Sub World) : (runTest host file group).Mute := by
  unfold runTest runCalls TestFile.caller
  rw [kind]
  cases file.setConditions with
  | none => exact checkAndCallTest_mute host file _
  | some setConditions =>
    exact runTestConditions_mute (checkAndCallTest_mute host file) setConditions _ 0 _

/-- **The exit status of a `_run_test` that comes to its end.** Where the test works on devices it tells
whether a record says `fail`. A `test()` may fail under every condition: the status is `0`. -/
theorem runTest_status (host : Host World) (file : TestFile World) (group : Sub World) {status : ℕ}
    {sub : Sub World} (returned : (runTest host file group).rest = .ok (status, sub)) :
    (file.kind = .test → status = 0) ∧
      (file.kind ≠ .test →
        (status ≠ 0 ↔ ∃ entry ∈ (runTest host file group).writes, States .fail entry)) :=
  ⟨fun kind => runTest_mute host kind group status sub returned,
    fun kind => (runTest_tells host kind group status sub returned).trans (by simp)⟩

theorem runTest_status_device :
    ((deviceTest 1).kind = .test → (1 : ℕ) = 0) ∧
      ((deviceTest 1).kind ≠ .test → ((1 : ℕ) ≠ 0 ↔
        ∃ entry ∈ (runTest oneDevice (deviceTest 1) bareSub).writes, States .fail entry)) := by
  have returned : (runTest oneDevice (deviceTest 1) bareSub).rest = .ok (1, testStart bareSub) := rfl
  exact runTest_status oneDevice (deviceTest 1) bareSub returned

/-! ### Refinement -/

/-- A call, by its directory, by what happened to it and by the other lines of its record. -/
structure Called where
  dir : Text
  condition : Condition
  keys : Keys

/-- What a call leaves. -/
def Called.write (called : Called) : Text × Option Record :=
  (called.dir, called.condition.recorded.map (Guest.writeTestRun called.keys))

/-- **The calls of a function**: all of them came back, or all but the last one. -/
structure Ended.Realizes (ended : Ended World) (calls : List Called) : Prop where
  writes : ended.writes = calls.map Called.write
  back : ∀ called ∈ calls.dropLast, called.condition.recorded ≠ none
  last : (∃ exited, ended.rest = .error exited) ↔ ∃ called ∈ calls, called.condition.recorded = none

theorem Ended.realizes_done (status : ℕ) (sub : Sub World) : (Ended.done status sub).Realizes [] where
  writes := rfl
  back _ member := absurd member List.not_mem_nil
  last := by simp [Ended.done]

theorem Ended.Realizes.andThen {first : Ended World} {calls : List Called} (real : first.Realizes calls)
    {next : ℕ → Sub World → Ended World}
    (later : ∀ status sub, ∃ more, (next status sub).Realizes more) :
    ∃ all, (first.andThen next).Realizes all := by
  cases rest : first.rest with
  | error exited =>
    refine ⟨calls, ?_⟩
    rw [andThen_error rest]
    exact ⟨real.writes, real.back, by rw [← real.last, rest]⟩
  | ok returned =>
    obtain ⟨more, realMore⟩ := later returned.1 returned.2
    refine ⟨calls ++ more, ?_⟩
    rw [andThen_ok rest]
    have came : ∀ called ∈ calls, called.condition.recorded ≠ none := by
      intro called member none
      obtain ⟨exited, error⟩ := real.last.mpr ⟨called, member, none⟩
      rw [rest] at error
      cases error
    refine ⟨by rw [real.writes, realMore.writes, List.map_append], ?_, ?_⟩
    · intro called member
      cases more with
      | nil => exact came called (by simpa using List.mem_of_mem_dropLast member)
      | cons next others =>
        rw [List.dropLast_append_of_ne_nil (List.cons_ne_nil next others)] at member
        rcases List.mem_append.mp member with early | late
        · exact came called early
        · exact realMore.back called late
    · rw [realMore.last]
      constructor
      · rintro ⟨called, member, none⟩
        exact ⟨called, List.mem_append_right _ member, none⟩
      · rintro ⟨called, member, none⟩
        rcases List.mem_append.mp member with early | late
        · exact absurd none (came called early)
        · exact ⟨called, late, none⟩

theorem Ended.Realizes.andThen_done {first : Ended World} {calls : List Called} (real : first.Realizes calls)
    (status : ℕ → ℕ) (clean : Sub World → Sub World) :
    ∃ all, (first.andThen fun before after => .done (status before) (clean after)).Realizes all :=
  real.andThen fun _ _ => ⟨[], Ended.realizes_done _ _⟩

theorem callTest_realizes (file : TestFile World) (resultsDir : Text) (devs : List Text) (sub : Sub World) :
    ∃ calls, (callTest file resultsDir devs sub).Realizes calls := by
  rcases callTest_cases file resultsDir devs sub with ⟨_, skipped⟩ | ⟨_, _, exited⟩ | ⟨returned, judged⟩
  · rw [skipped]
    exact ⟨[⟨resultsDir, .skipped, file.skippedKeys⟩], rfl, by simp, by simp [Condition.recorded]⟩
  · rw [exited]
    exact ⟨[⟨resultsDir, .exits, file.skippedKeys⟩], rfl, by simp, by simp [Condition.recorded]⟩
  · rw [judged]
    exact ⟨[⟨resultsDir, .returns returned.judged, returned.keys⟩], rfl, by simp, by simp [Condition.recorded]⟩

theorem callDevice_realizes (host : Host World) (file : TestFile World) (suffix : Text)
    (cleanup : World → World) (dev : Text) (sub : Sub World) :
    ∃ calls, (callDevice host file suffix cleanup dev sub).Realizes calls := by
  unfold callDevice
  split
  · obtain ⟨calls, real⟩ := callTest_realizes file (baseName dev ++ suffix) [dev] (deviceReasons host file dev sub)
    exact real.andThen_done id fun after =>
      { after.unset with world := cleanup after.world }.unloadModules host
  · obtain ⟨calls, real⟩ := callTest_realizes file (baseName dev ++ suffix) [dev] sub
    exact real.andThen_done id fun after =>
      { after with world := cleanup after.world }.unloadModules host

theorem deviceLoop_realizes (host : Host World) (file : TestFile World) (suffix : Text) (devs : List Text)
    (ret : ℕ) (sub : Sub World) : ∃ calls, (deviceLoop host file suffix devs ret sub).Realizes calls := by
  induction devs generalizing ret sub with
  | nil => exact ⟨[], Ended.realizes_done ret sub⟩
  | cons dev devs ih =>
    obtain ⟨calls, real⟩ := callDevice_realizes host file suffix id dev sub
    exact real.andThen fun status after => ih _ after

theorem checkFallback_realizes (host : Host World) (file : TestFile World) (suffix : Text)
    (fallbackDevice : Sub World → Option Text × Sub World) (sub : Sub World) :
    ∃ calls, (checkFallback host file suffix fallbackDevice sub).Realizes calls := by
  unfold checkFallback
  split
  · exact ⟨[], Ended.realizes_done 0 _⟩
  · split
    · exact ⟨[], Ended.realizes_done 0 _⟩
    · split
      · rename_i dev after _ _
        obtain ⟨calls, real⟩ := callDevice_realizes host file suffix file.cleanupFallbackDevice dev after
        exact real.andThen_done (fun status => if status ≠ 0 then 1 else 0) id
      · exact ⟨[], Ended.realizes_done 0 _⟩

/-- **Every way to call a test is a list of calls.** -/
theorem caller_realizes (host : Host World) (file : TestFile World) (start : Sub World) :
    ∃ calls, (file.caller host start).Realizes calls := by
  unfold TestFile.caller
  cases file.kind with
  | test =>
    obtain ⟨calls, real⟩ := callTest_realizes file
      ("nodev".toList ++ postfixOf (file.requires start).condDesc) [] (file.requires start)
    exact real.andThen_done (fun _ => 0) fun after => after.unloadModules host
  | device =>
    show ∃ calls, (checkAndCallTestDevice host file start).Realizes calls
    unfold checkAndCallTestDevice
    cases host.testDevs with
    | cons dev devs => exact deviceLoop_realizes host file _ _ 0 _
    | nil =>
      cases file.fallbackDevice with
      | none => exact deviceLoop_realizes host file _ [] 0 _
      | some fallbackDevice => exact checkFallback_realizes host file _ fallbackDevice _
  | deviceArray =>
    show ∃ calls, (checkAndCallTestDeviceArray host file start).Realizes calls
    unfold checkAndCallTestDeviceArray
    obtain ⟨calls, real⟩ := callTest_realizes file _ host.arrayDevs _
    exact real.andThen_done (fun status => if status ≠ 0 then 1 else 0) fun after => after.unloadModules host

theorem runTestConditions_realizes {call : Sub World → Ended World}
    (real : ∀ start, ∃ calls, (call start).Realizes calls) (setConditions : Hook) (more cond ret : ℕ)
    (sub : Sub World) : ∃ calls, (runTestConditions call setConditions more cond ret sub).Realizes calls := by
  induction more generalizing cond ret sub with
  | zero => exact ⟨[], Ended.realizes_done ret sub⟩
  | succ more ih =>
    obtain ⟨calls, first⟩ := real { sub with env := setConditions.set cond sub.env }
    exact first.andThen fun status after => ih _ _ _

theorem runTest_realizes (host : Host World) (file : TestFile World) (group : Sub World) :
    ∃ calls, (runTest host file group).Realizes calls := by
  unfold runTest runCalls
  split
  · exact caller_realizes host file _
  · exact caller_realizes host file _
  · exact runTestConditions_realizes (caller_realizes host file) _ _ _ _ _

/-- The glob of `init` finds the directory. -/
def Visible (dir : Text) : Prop := dir ≠ [] ∧ dir.head? ≠ some '.' ∧ '/' ∉ dir

/-- A call as a slot of a checklist. -/
def Called.slot (called : Called) (visible : Visible called.dir) : Slot :=
  ⟨⟨called.dir, visible⟩, called.condition, called.keys⟩

theorem exists_slots {calls : List Called} (visible : ∀ called ∈ calls, Visible called.dir) :
    ∃ slots : List Slot, slots.map (fun slot => ⟨slot.dir.name, slot.condition, slot.keys⟩) = calls := by
  induction calls with
  | nil => exact ⟨[], rfl⟩
  | cons called calls ih =>
    obtain ⟨slots, same⟩ := ih fun other inside => visible other (List.mem_cons_of_mem _ inside)
    refine ⟨called.slot (visible called List.mem_cons_self) :: slots, ?_⟩
    rw [List.map_cons, same]
    rfl

/-- What `callTests` leaves, when all but the last of its slots come back. -/
theorem callTests_eq {slots : List Slot} (back : ∀ slot ∈ slots.dropLast, slot.condition.recorded ≠ none) :
    callTests slots = slots.map fun slot =>
      (slot.dir, slot.condition.recorded.map (Guest.writeTestRun slot.keys)) := by
  induction slots with
  | nil => rfl
  | cons slot later ih =>
    rw [callTests, List.map_cons]
    cases later with
    | nil => cases slot.condition.recorded <;> rfl
    | cons next rest =>
      rw [List.dropLast_cons_cons] at back
      have tail := ih fun other inside => back other (List.mem_cons_of_mem _ inside)
      cases recorded : slot.condition.recorded with
      | none => exact absurd recorded (back slot List.mem_cons_self)
      | some status => exact congrArg _ tail

theorem completed_eq {slots : List Slot} (back : ∀ slot ∈ slots.dropLast, slot.condition.recorded ≠ none) :
    completed slots = slots.filterMap fun slot => slot.condition.recorded := by
  induction slots with
  | nil => rfl
  | cons slot later ih =>
    rw [completed]
    cases later with
    | nil => cases recorded : slot.condition.recorded <;> simp [recorded, completed]
    | cons next rest =>
      rw [List.dropLast_cons_cons] at back
      have tail := ih fun other inside => back other (List.mem_cons_of_mem _ inside)
      cases recorded : slot.condition.recorded with
      | none => exact absurd recorded (back slot List.mem_cons_self)
      | some status =>
        rw [List.filterMap_cons, recorded]
        exact congrArg _ tail

theorem states_write {status : Status} {called : Called} :
    States status called.write ↔ called.condition.recorded = some status := by
  rw [Called.write]
  cases recorded : called.condition.recorded with
  | none => simp [States]
  | some stated => rw [Option.map_some, states_writeTestRun, Option.some_inj]

/-- **`_run_test` is the loop over a checklist.** For a test whose calls write to directories of their own:
what it leaves there is what `callTests` leaves for some checklist, a call that exits is an abort of it, and
`init` counts the iteration as a pass exactly when a record says `pass` and none says `fail`. -/
theorem runTest_refines {host : Host World} {file : TestFile World} {group : Sub World}
    (visible : ∀ entry ∈ (runTest host file group).writes, Visible entry.1)
    (nodup : ((runTest host file group).writes.map Prod.fst).Nodup) :
    ∃ checklist : Checklist,
      checklist.outcome.entries.map (fun entry => (entry.1.name, entry.2)) =
        (runTest host file group).writes ∧
      (checklist.Aborts ↔ ∃ exited, (runTest host file group).rest = .error exited) ∧
      (checklist.CountsPass ↔ (∃ entry ∈ (runTest host file group).writes, States .pass entry) ∧
        ∀ entry ∈ (runTest host file group).writes, ¬ States .fail entry) := by
  obtain ⟨calls, real⟩ := runTest_realizes host file group
  rw [real.writes] at visible nodup ⊢
  have seen : ∀ called ∈ calls, Visible called.dir :=
    fun called member => visible called.write (List.mem_map_of_mem member)
  obtain ⟨slots, rfl⟩ := exists_slots seen
  have back : ∀ slot ∈ slots.dropLast, slot.condition.recorded ≠ none := by
    intro slot member
    refine real.back ⟨slot.dir.name, slot.condition, slot.keys⟩ ?_
    rw [← List.map_dropLast]
    exact List.mem_map_of_mem member
  have dirs : (slots.map Slot.dir).Nodup := by
    rw [List.map_map, List.map_map] at nodup
    refine List.Nodup.of_map SubDir.name ?_
    rw [List.map_map]
    exact nodup
  refine ⟨⟨slots, dirs⟩, ?_, ?_, ?_⟩
  · show (callTests slots).map _ = _
    rw [callTests_eq back, List.map_map, List.map_map]
    rfl
  · rw [real.last, Checklist.Aborts]
    simp only [List.mem_map, exists_exists_and_eq_and]
  · have stated : ∀ status, status ∈ completed slots ↔ ∃ entry ∈ (slots.map fun slot =>
        (⟨slot.dir.name, slot.condition, slot.keys⟩ : Called)).map Called.write, States status entry := by
      intro status
      simp only [completed_eq back, List.mem_filterMap, List.mem_map, exists_exists_and_eq_and, states_write]
    rw [countsPass_iff]
    refine and_congr (stated .pass) ?_
    rw [stated .fail]
    simp only [not_exists, not_and]

theorem runTest_refines_device :
    ∃ checklist : Checklist,
      checklist.outcome.entries.map (fun entry => (entry.1.name, entry.2)) =
        (runTest oneDevice (deviceTest 0) bareSub).writes ∧
      (checklist.Aborts ↔ ∃ exited, (runTest oneDevice (deviceTest 0) bareSub).rest = .error exited) ∧
      (checklist.CountsPass ↔
        (∃ entry ∈ (runTest oneDevice (deviceTest 0) bareSub).writes, States .pass entry) ∧
        ∀ entry ∈ (runTest oneDevice (deviceTest 0) bareSub).writes, ¬ States .fail entry) := by
  have writes : (runTest oneDevice (deviceTest 0) bareSub).writes =
      [("nvme0n1".toList, some (Guest.writeTestRun noKeys .pass))] := rfl
  refine runTest_refines ?_ ?_
  · rw [writes]
    rintro entry (_ | ⟨_, ⟨⟩⟩)
    exact ⟨by decide, by decide, by decide⟩
  · rw [writes]
    exact List.nodup_singleton _

end Ndt.Check
