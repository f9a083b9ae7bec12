/-
**The whole of `./check`: from the filters on its command line to its exit status.**

* `runGroup` — `_run_group`: the group may be skipped as a whole, devices may be taken out of it, and every
  test is run in a subshell, of which only the system remembers anything.
* `check_status` — `./check` ends with `0` exactly when every test that was run is `Quiet`: a `test()` came
  back, however it was judged; a test on devices came back and no record of it says `fail`; or its subshell
  ended with `0`, whatever was recorded before. No test is run twice.

`TEST_CASE_DEV_ARRAY` is not filtered by group here; the configuration does not set it. The tests leave their
standard input, the pipe of the names, and their callers' variable `ret` alone.
-/

import Ndt.Check.Batches
import Ndt.Check.RunTest

namespace Ndt.Check

open Shell Transition

variable {World : Type}

/-! ### `_run_group` -/

/-- **What the `rc` file of a group defines.** -/
structure GroupFile (World : Type) where
  /-- `group_setup` -/
  setup : Sub World → Sub World
  /-- `group_requires`, if it is defined -/
  requires : Option (Sub World → Sub World)
  /-- `group_device_requires`, if it is defined -/
  deviceRequires : Option (Text → Sub World → Sub World)

/-- The files of a run, and the variables and the system it starts with. -/
structure Rig (World : Type) where
  host : Host World
  env : Env
  group : Text → GroupFile World
  test : Text → TestFile World

/-- The loop of `_run_group` over `TEST_DEVS`: a device for which there is a reason to skip is taken out. -/
def groupDevices (deviceRequires : Text → Sub World → Sub World) :
    List Text → Sub World → List Text × Sub World
  | [], sub => ([], sub)
  | dev :: devs, sub =>
    let after := deviceRequires dev sub
    if after.skipReasons.isSome then groupDevices deviceRequires devs after.unset
    else
      let (kept, last) := groupDevices deviceRequires devs after
      (dev :: kept, last)

/-- The tests that were run, each with how it ended. -/
abbrev Log (World : Type) := List (Text × Ended World)

/-- `( _run_test "$test_name" )`: its status, and the system after it. -/
def Ended.leave (ended : Ended World) : ℕ × World :=
  match ended.rest with
  | .error exited => exited
  | .ok (status, sub) => (status, sub.world)

/-- The loop of `_run_group` over its tests. -/
def testLoop (rig : Rig World) (host : Host World) (sub : Sub World) :
    List Text → ℕ → World × Log World → ℕ × World × Log World
  | [], ret, state => (ret, state)
  | name :: names, ret, (world, log) =>
    let ended := runTest host (rig.test name) { sub with world := world }
    let (status, after) := ended.leave
    testLoop rig host sub names (if status ≠ 0 then 1 else ret) (after, log ++ [(name, ended)])

/-- `_run_group` behind `group_requires`. -/
def groupTests (rig : Rig World) (file : GroupFile World) (tests : List Text) (sub : Sub World)
    (log : Log World) : ℕ × World × Log World :=
  match file.deviceRequires with
  | none => testLoop rig rig.host sub tests 0 (sub.world, log)
  | some deviceRequires =>
    let (testDevs, after) := groupDevices deviceRequires rig.host.testDevs sub
    testLoop rig { rig.host with testDevs := testDevs } after tests 0 (after.world, log)

/-- **`_run_group`**, on the tests of a batch. -/
def runGroup (rig : Rig World) (tests : List Text) (state : World × Log World) : ℕ × World × Log World :=
  let file := rig.group (dirPart (tests.headD []))
  let sub := file.setup ⟨none, [], rig.env, state.1⟩
  match file.requires with
  | none => groupTests rig file tests sub state.2
  | some requires =>
    -- the reasons are looked at only where `group_requires` is defined
    if (requires sub).skipReasons.isSome then (0, (requires sub).world, state.2)
    else groupTests rig file tests (requires sub) state.2

/-- **`_check`**, behind the tests of the devices: its status, the system it leaves, and what it ran. -/
def check (rig : Rig World) (suite : Suite) (options : Options) (filters : List Text) (world : World) :
    ℕ × World × Log World :=
  checkLoop (runGroup rig) (suite.selected options filters) (world, [])

/-! ### The exit status -/

/-- **A run that leaves the exit status of `./check` alone**: its subshell called `exit 0`, also behind a record
that says `fail`; or it came to its end, a `test()` however it was judged, a test on devices without such a
record. -/
def Quiet (rig : Rig World) (run : Text × Ended World) : Prop :=
  match run.2.rest with
  | .error (status, _) => status = 0
  | .ok _ => (rig.test run.1).kind = .test ∨ ∀ entry ∈ run.2.writes, ¬ States .fail entry

/-- The status of a subshell is `0` exactly for a quiet run. -/
theorem leave_eq_zero_iff (rig : Rig World) (host : Host World) (name : Text) (sub : Sub World) :
    (runTest host (rig.test name) sub).leave.1 = 0 ↔ Quiet rig (name, runTest host (rig.test name) sub) := by
  unfold Quiet Ended.leave
  cases rest : (runTest host (rig.test name) sub).rest with
  | error exited => exact Iff.rfl
  | ok returned =>
    by_cases kind : (rig.test name).kind = .test
    · simp [kind, runTest_mute host kind sub _ _ rest]
    · have tells := runTest_tells host kind sub _ _ rest
      simp only [kind, false_or]
      rw [← not_iff_not, ← ne_eq, tells]
      simp

/-- What a loop over tests adds to the log, and its status. -/
theorem testLoop_spec (rig : Rig World) (host : Host World) (sub : Sub World) (names : List Text) (ret : ℕ)
    (state : World × Log World) :
    ∃ runs, (testLoop rig host sub names ret state).2.2 = state.2 ++ runs ∧ runs.map Prod.fst = names ∧
      ((testLoop rig host sub names ret state).1 = 0 ↔ ret = 0 ∧ ∀ run ∈ runs, Quiet rig run) := by
  induction names generalizing ret state with
  | nil => exact ⟨[], by simp [testLoop], rfl, by simp [testLoop]⟩
  | cons name names ih =>
    obtain ⟨world, log⟩ := state
    obtain ⟨runs, added, ran, zero⟩ := ih
      (if (runTest host (rig.test name) { sub with world := world }).leave.1 ≠ 0 then 1 else ret)
      ((runTest host (rig.test name) { sub with world := world }).leave.2,
        log ++ [(name, runTest host (rig.test name) { sub with world := world })])
    have quiet := leave_eq_zero_iff rig host name { sub with world := world }
    refine ⟨(name, runTest host (rig.test name) { sub with world := world }) :: runs, ?_, ?_, ?_⟩
    · rw [← List.append_cons] at added
      exact added
    · rw [List.map_cons, ran]
    · refine zero.trans ?_
      rw [List.forall_mem_cons, ← quiet]
      by_cases status : (runTest host (rig.test name) { sub with world := world }).leave.1 = 0
      · simp [status]
      · simp [status]

/-- What `_run_group` adds to the log when the group is not skipped, and its status. -/
theorem groupTests_spec (rig : Rig World) (file : GroupFile World) (tests : List Text) (sub : Sub World)
    (log : Log World) :
    ∃ runs, (groupTests rig file tests sub log).2.2 = log ++ runs ∧ (runs.map Prod.fst).Sublist tests ∧
      ((groupTests rig file tests sub log).1 = 0 ↔ ∀ run ∈ runs, Quiet rig run) := by
  have loop : ∀ (host : Host World) (sub : Sub World) (world : World),
      ∃ runs, (testLoop rig host sub tests 0 (world, log)).2.2 = log ++ runs ∧
        (runs.map Prod.fst).Sublist tests ∧
        ((testLoop rig host sub tests 0 (world, log)).1 = 0 ↔ ∀ run ∈ runs, Quiet rig run) := by
    intro host sub world
    obtain ⟨runs, added, ran, zero⟩ := testLoop_spec rig host sub tests 0 (world, log)
    exact ⟨runs, added, by rw [ran], zero.trans (by simp)⟩
  unfold groupTests
  split
  · exact loop _ _ _
  · exact loop _ _ _

/-- What `_run_group` adds to the log, all tests of the batch or none, and its status. -/
theorem runGroup_spec (rig : Rig World) (tests : List Text) (state : World × Log World) :
    ∃ runs, (runGroup rig tests state).2.2 = state.2 ++ runs ∧ (runs.map Prod.fst).Sublist tests ∧
      ((runGroup rig tests state).1 = 0 ↔ ∀ run ∈ runs, Quiet rig run) := by
  unfold runGroup
  simp only
  split
  · exact groupTests_spec rig _ tests _ state.2
  · split
    · exact ⟨[], by simp, List.nil_sublist tests, by simp⟩
    · exact groupTests_spec rig _ tests _ state.2

/-- **The exit status of `./check`** for any filters, groups and tests: it is `0` exactly when every run was
quiet. The runs are some of the selected tests, each at most once and in their order. -/
theorem check_status (rig : Rig World) (suite : Suite) (options : Options) (filters : List Text)
    (world : World) :
    ((check rig suite options filters world).1 = 0 ↔
        ∀ run ∈ (check rig suite options filters world).2.2, Quiet rig run) ∧
      ((check rig suite options filters world).2.2.map Prod.fst).Sublist
        (suite.selected options filters) := by
  have fold : ∀ (parts : List (List Text)) (ret : ℕ) (state : World × Log World),
      ∃ runs, (parts.foldl (fun state tests => account (runGroup rig) tests state) (ret, state)).2.2 =
          state.2 ++ runs ∧
        (runs.map Prod.fst).Sublist parts.flatten ∧
        ((parts.foldl (fun state tests => account (runGroup rig) tests state) (ret, state)).1 = 0 ↔
          ret = 0 ∧ ∀ run ∈ runs, Quiet rig run) := by
    intro parts
    induction parts with
    | nil => exact fun ret state => ⟨[], by simp, List.Sublist.refl _, by simp⟩
    | cons tests parts ih =>
      intro ret state
      obtain ⟨first, added, ran, zero⟩ := runGroup_spec rig tests state
      obtain ⟨later, laterAdded, laterRan, laterZero⟩ := ih
        (if (runGroup rig tests state).1 ≠ 0 then 1 else ret) (runGroup rig tests state).2
      refine ⟨first ++ later, ?_, ?_, ?_⟩
      · rw [added, List.append_assoc] at laterAdded
        exact laterAdded
      · rw [List.map_append, List.flatten_cons]
        exact ran.append laterRan
      · refine laterZero.trans ?_
        rw [List.forall_mem_append, ← zero]
        by_cases status : (runGroup rig tests state).1 = 0
        · simp [status]
        · simp [status]
  obtain ⟨runs, added, ran, zero⟩ := fold (batches (suite.selected options filters)) 0 (world, [])
  rw [check, checkLoop_eq]
  rw [List.nil_append] at added
  rw [batches, groups_flatten, ← added] at ran
  rw [← added] at zero
  exact ⟨zero.trans (by simp), ran⟩

end Ndt.Check
