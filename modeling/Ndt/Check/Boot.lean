/-
**From the runs of a test to PASS: one boot of the guest.**

`passes_iff_every_iteration` is about any records that `./check` leaves. Here they are those of `_check`:

* `checkHead` — `_check` with its look at the devices, which ends it before anything is run.
* `Bench.worldAt` — the system before each iteration; `init` wipes the results in between and nothing else,
  so a run finds what the runs before it left behind.
* `passes_iff_runs` — the host passes a test exactly when in every iteration the test was run once, with a
  `pass` on record and no `fail`. An iteration without a device, or whose group is skipped, is no pass.
-/

import Ndt.Check.Whole
import Ndt.Run.Pass

namespace Ndt.Check

open Shell Guest Run Ndt.Host

variable {World : Type}

/-! ### `_check` -/

/-- **What a boot runs `./check` on.** -/
structure Bench (World : Type) where
  rig : Rig World
  suite : Suite
  options : Options
  /-- `-e` on a device -/
  isThere : Text → World → Bool
  /-- `-b` on a device -/
  isBlock : Text → World → Bool
  /-- The system behind the wait for the device. -/
  world : World

namespace Bench

variable (bench : Bench World)

/-- The loops over `TEST_DEVS` at the head of `_check`: no device is an `_error`. -/
def devicesFine (world : World) : Bool :=
  (bench.rig.host.testDevs.all fun dev => bench.isThere dev world && bench.isBlock dev world) &&
    bench.rig.host.testDevs.all fun dev => bench.rig.host.hasSysfs dev world

/-- `./check "$ndt_blktest"` -/
def checkHead (ndtBlktest : Text) (world : World) : ℕ × World × Log World :=
  if bench.devicesFine world then check bench.rig bench.suite bench.options [ndtBlktest] world
  else (1, world, [])

/-- The system before iteration `n`. -/
def worldAt (ndtBlktest : Text) : ℕ → World
  | 0 => bench.world
  | n + 1 => (bench.checkHead ndtBlktest (worldAt ndtBlktest n)).2.1

/-- What iteration `n` runs. -/
def logAt (ndtBlktest : Text) (n : ℕ) : Log World :=
  (bench.checkHead ndtBlktest (bench.worldAt ndtBlktest n)).2.2

end Bench

/-- What the runs write to the directories of the results. -/
def records (log : Log World) : List (Text × Option Record) := log.flatMap fun run => run.2.writes

/-! ### The name of a test selects that test -/

section Name

variable {nn : Text}

theorem components_blktest (digits : Digits nn) :
    components ("nvme/".toList ++ nn) = ["nvme".toList, nn] := by
  have slashless : '/' ∉ nn := fun slash => absurd (digits '/' slash) (by decide)
  have whole : Parts ["nvme".toList, nn] := by
    intro part member
    rcases List.mem_cons.mp member with rfl | last
    · decide
    · obtain rfl := List.mem_singleton.mp last
      exact slashless
  have split : "nvme/".toList ++ nn = path ["nvme".toList, nn] := by
    rw [path_cons _ (List.cons_ne_nil _ _), path_singleton]
    rfl
  rw [split, components_path whole (List.cons_ne_nil _ _)]

/-- A name as `init` passes it is looked up as it stands. -/
theorem testName_blktest (numeral : isNumeral nn = true) :
    testName ("nvme/".toList ++ nn) = "nvme/".toList ++ nn := by
  obtain ⟨nonempty, digits⟩ := isNumeral_iff.mp numeral
  have parts := components_blktest digits
  have named : proper nn = true := by
    have noDot : nn ≠ ['.'] := by
      rintro rfl
      exact absurd (digits '.' List.mem_cons_self) (by decide)
    simp [proper, nonempty, noDot]
  have clean : Clean ("nvme/".toList ++ nn) := by
    refine ⟨?_, rfl⟩
    rw [parts]
    rintro part ⟨⟩
    exact named
  have nvme : proper "nvme".toList = true := by decide
  have inside : ¬ ((["nvme".toList, nn] : List Text).head? = some "tests".toList ∧
      1 < (["nvme".toList, nn] : List Text).length) :=
    fun both => absurd (Option.some.inj both.1) (by decide)
  rw [testName_eq_path clean, filePath, parts, List.filter_cons_of_pos nvme,
    List.filter_cons_of_pos named, List.filter_nil, withoutTests, if_neg inside, ← parts, path_components]

/-- **Nothing else is run.** -/
theorem selected_blktest (suite : Suite) (options : Options) (numeral : isNumeral nn = true)
    (file : suite.isDir ("nvme/".toList ++ nn) = false) :
    ∀ name ∈ suite.selected options ["nvme/".toList ++ nn], name = "nvme/".toList ++ nn := by
  intro name member
  rw [suite.mem_selected_iff, Suite.Wanted, if_neg (List.cons_ne_nil _ _)] at member
  obtain ⟨filter, asked, wanted⟩ := member
  obtain rfl := List.mem_singleton.mp asked
  rw [Suite.Asks, testName_blktest numeral, file] at wanted
  exact wanted.2.2.1

end Name

/-! ### The records of a run -/

/-- Every record states one of the three statuses. -/
def Stated (writes : List (Text × Option Record)) : Prop :=
  ∀ entry ∈ writes, ∀ record, entry.2 = some record → ∃ status : Status, record.status? = some status.text

theorem stated_runTest (host : Host World) (file : TestFile World) (group : Sub World) :
    Stated (runTest host file group).writes := by
  obtain ⟨calls, real⟩ := runTest_realizes host file group
  rw [real.writes]
  intro entry member record found
  obtain ⟨called, _, rfl⟩ := List.mem_map.mp member
  obtain ⟨status, _, rfl⟩ := Option.map_eq_some_iff.mp found
  exact ⟨status, status?_writeTestRun called.keys status⟩

theorem stated_testLoop {rig : Rig World} {host : Host World} {sub : Sub World} {names : List Text}
    {ret : ℕ} {state : World × Log World} (before : ∀ run ∈ state.2, Stated run.2.writes) :
    ∀ run ∈ (testLoop rig host sub names ret state).2.2, Stated run.2.writes := by
  induction names generalizing ret state with
  | nil => exact before
  | cons name names ih =>
    obtain ⟨world, log⟩ := state
    refine ih fun run member => ?_
    rcases List.mem_append.mp member with early | last
    · exact before run early
    · obtain rfl := List.mem_singleton.mp last
      exact stated_runTest host (rig.test name) _

theorem stated_runGroup {rig : Rig World} {tests : List Text} {state : World × Log World}
    (before : ∀ run ∈ state.2, Stated run.2.writes) :
    ∀ run ∈ (runGroup rig tests state).2.2, Stated run.2.writes := by
  have grouped : ∀ (file : GroupFile World) (sub : Sub World),
      ∀ run ∈ (groupTests rig file tests sub state.2).2.2, Stated run.2.writes := by
    intro file sub
    unfold groupTests
    split
    · exact stated_testLoop before
    · exact stated_testLoop before
  unfold runGroup
  simp only
  split
  · exact grouped _ _
  · split
    · exact before
    · exact grouped _ _

theorem stated_check (rig : Rig World) (suite : Suite) (options : Options) (filters : List Text)
    (world : World) : ∀ run ∈ (check rig suite options filters world).2.2, Stated run.2.writes := by
  have fold : ∀ (parts : List (List Text)) (state : ℕ × World × Log World),
      (∀ run ∈ state.2.2, Stated run.2.writes) →
      ∀ run ∈ (parts.foldl (fun state tests => account (runGroup rig) tests state) state).2.2,
        Stated run.2.writes := by
    intro parts
    induction parts with
    | nil => exact fun state before => before
    | cons tests parts ih => exact fun state before => ih _ (stated_runGroup before)
  rw [check, checkLoop_eq]
  exact fold _ _ fun run member => absurd member List.not_mem_nil

/-- **An iteration passes by its records**, when these are what stands in the results. -/
theorem passed_iff {outcome : Outcome} {writes : List (Text × Option Record)} (stated : Stated writes)
    (left : outcome.entries.map (fun entry => (entry.1.name, entry.2)) = writes) :
    Passed outcome ↔
      (∃ entry ∈ writes, States .pass entry) ∧ ∀ entry ∈ writes, ¬ States .fail entry := by
  subst left
  refine and_congr ?_ ?_
  · constructor
    · rintro ⟨dir, record, member, pass⟩
      exact ⟨_, List.mem_map_of_mem member, record, rfl, pass⟩
    · rintro ⟨entry, member, record, found, pass⟩
      obtain ⟨⟨dir, content⟩, inside, rfl⟩ := List.mem_map.mp member
      obtain rfl : content = some record := found
      exact ⟨dir, record, inside, pass⟩
  · constructor
    · rintro benign entry member ⟨record, found, fail⟩
      obtain ⟨⟨dir, content⟩, inside, rfl⟩ := List.mem_map.mp member
      obtain rfl : content = some record := found
      have allowed := benign dir record inside
      rw [fail] at allowed
      exact absurd allowed (by decide)
    · intro noFail dir record inside
      have member := List.mem_map_of_mem (f := fun entry : SubDir × Option Record =>
        (entry.1.name, entry.2)) inside
      obtain ⟨status, known⟩ := stated _ member record rfl
      rw [known]
      cases status with
      | pass => decide
      | notRun => decide
      | fail => exact absurd ⟨record, rfl, known⟩ (noFail _ member)

/-! ### One boot -/

section Boot

variable {nn : Text} (bench : Bench World)

/-- An iteration runs the test, or nothing. -/
theorem logAt_cases (numeral : isNumeral nn = true)
    (file : bench.suite.isDir ("nvme/".toList ++ nn) = false) (n : ℕ) :
    bench.logAt ("nvme/".toList ++ nn) n = [] ∨
      ∃ ended, bench.logAt ("nvme/".toList ++ nn) n = [("nvme/".toList ++ nn, ended)] ∧
        Stated ended.writes := by
  unfold Bench.logAt Bench.checkHead
  split
  · have only := selected_blktest bench.suite bench.options numeral file
    have within := (check_status bench.rig bench.suite bench.options ["nvme/".toList ++ nn]
      (bench.worldAt ("nvme/".toList ++ nn) n)).2
    have stated := stated_check bench.rig bench.suite bench.options ["nvme/".toList ++ nn]
      (bench.worldAt ("nvme/".toList ++ nn) n)
    have nodup : (bench.suite.selected bench.options ["nvme/".toList ++ nn]).Nodup :=
      (sortUnique_sorted _).imp ne_of_lt
    generalize (check bench.rig bench.suite bench.options ["nvme/".toList ++ nn]
      (bench.worldAt ("nvme/".toList ++ nn) n)).2.2 = log at within stated
    cases log with
    | nil => exact .inl rfl
    | cons run later =>
      have first : run.1 = "nvme/".toList ++ nn := only _ (within.subset List.mem_cons_self)
      cases later with
      | nil => exact .inr ⟨run.2, by rw [← first], stated run List.mem_cons_self⟩
      | cons next rest =>
        -- a second run would be a second test
        have second : next.1 = "nvme/".toList ++ nn :=
          only _ (within.subset (List.mem_cons_of_mem _ List.mem_cons_self))
        have distinct := nodup.sublist within
        rw [List.map_cons, List.map_cons, first, second, List.nodup_cons] at distinct
        exact absurd List.mem_cons_self distinct.1
  · exact .inl rfl

/-- **What PASS says about the runs of a test.** The host passes exactly when every one of the `K` iterations
ran the test, once, on the system that the iterations before it left, with a `pass` among its records and no
`fail`. -/
theorem passes_iff_runs {host : Setting} {machine : Machine} {k : ℕ} (unset : host.append = none)
    (numeral : isNumeral nn = true) (positive : 1 ≤ k) (room : k < 2 ^ 63 - 1) (ready : machine.Ready nn)
    (fresh : machine.results = []) (file : bench.suite.isDir ("nvme/".toList ++ nn) = false)
    {attempts : ℕ → Attempt}
    (left : ∀ n < k, (attempts n).outcome.entries.map (fun entry => (entry.1.name, entry.2)) =
      records (bench.logAt ("nvme/".toList ++ nn) n))
    (follow : Bool) (names : Pathnames) {fuel : ℕ} (enough : k < fuel) :
    ∃ console line,
      init names machine attempts (host.procCmdline (testBatch nn k follow)) fuel =
        some ⟨console ++ [line], .poweroff, k⟩ ∧
      ∀ cause cr, (host.finish (testBatch nn k follow) cause (line ++ carriage cr)).Passes ↔
        ∀ n < k, ∃ ended, bench.logAt ("nvme/".toList ++ nn) n = [("nvme/".toList ++ nn, ended)] ∧
          (∃ entry ∈ ended.writes, States .pass entry) ∧
          ∀ entry ∈ ended.writes, ¬ States .fail entry := by
  obtain ⟨console, boot⟩ := init_countedTally attempts follow unset numeral positive room ready fresh
    names enough
  refine ⟨console, _, boot, fun cause cr => ?_⟩
  refine (finish_countedTally attempts follow (.of_isNumeral numeral) (by omega) cause cr).trans ?_
  refine forall₂_congr fun n below => ?_
  have here := left n below
  rcases logAt_cases bench numeral file n with none | ⟨ended, log, stated⟩
  · rw [none] at here ⊢
    refine iff_of_false ?_ ?_
    · rintro ⟨⟨dir, record, member, _⟩, _⟩
      rw [List.map_eq_nil_iff.mp here] at member
      cases member
    · rintro ⟨ended, same, _⟩
      cases same
  · rw [log] at here ⊢
    rw [records, List.flatMap_singleton] at here
    rw [passed_iff stated here]
    constructor
    · exact fun passed => ⟨ended, rfl, passed⟩
    · rintro ⟨other, same, passed⟩
      obtain rfl : ended = other := congrArg Prod.snd (List.singleton_inj.mp same)
      exact passed

end Boot

/-- A system that counts what was run on it, and its device. -/
def countingHost : Host ℕ where
  testDevs := ["/dev/nvme0n1".toList]
  arrayDevs := []
  isZoned _ _ := false
  hasSysfs _ _ := true
  rmmod _ world := world

/-- A test on a device that passes the first time only. -/
def wearingTest : TestFile ℕ where
  name := "nvme/069".toList
  kind := .device
  canBeZoned := false
  setConditions := none
  requires := id
  deviceRequires _ := id
  fallbackDevice := none
  cleanupFallbackDevice := id
  body _ sub := .returns ⟨true, if sub.world = 0 then 0 else 1, true, true, noKeys,
    { sub with world := sub.world + 1 }⟩
  skippedKeys := noKeys

def wearingBench : Bench ℕ where
  rig := ⟨countingHost, fun _ => none, fun _ => ⟨id, none, none⟩, fun _ => wearingTest⟩
  suite := twoGroups
  options := ⟨false, false, []⟩
  isThere _ _ := true
  isBlock _ _ := true
  world := 0

theorem visible_nvme0n1 : Visible "nvme0n1".toList := ⟨by decide, by decide, by decide⟩

/-- What an iteration on `wearingBench` leaves. -/
def wearingAttempt (n : ℕ) : Attempt :=
  ⟨⟨[(⟨"nvme0n1".toList, visible_nvme0n1⟩,
    some (Guest.writeTestRun noKeys (if n = 0 then .pass else .fail)))], List.nodup_singleton _⟩, .stored⟩

theorem records_wearingBench : ∀ n < 2, records (wearingBench.logAt "nvme/069".toList n) =
    [("nvme0n1".toList, some (Guest.writeTestRun noKeys (if n = 0 then .pass else .fail)))]
  | 0, _ => rfl
  | 1, _ => rfl

theorem passes_iff_runs_wearing :
    ∃ console line, init .empty readyMachine wearingAttempt
        (plainHost.procCmdline (testBatch "069".toList 2 false)) 3 = some ⟨console ++ [line], .poweroff, 2⟩ ∧
      ∀ cause cr, (plainHost.finish (testBatch "069".toList 2 false) cause (line ++ carriage cr)).Passes ↔
        ∀ n < 2, ∃ ended, wearingBench.logAt "nvme/069".toList n = [("nvme/069".toList, ended)] ∧
          (∃ entry ∈ ended.writes, States .pass entry) ∧ ∀ entry ∈ ended.writes, ¬ States .fail entry := by
  have left : ∀ n < 2, (wearingAttempt n).outcome.entries.map (fun entry => (entry.1.name, entry.2)) =
      records (wearingBench.logAt ("nvme/".toList ++ "069".toList) n) :=
    fun n below => (records_wearingBench n below).symm
  exact @passes_iff_runs ℕ "069".toList wearingBench plainHost readyMachine 2 rfl rfl (by decide) (by decide)
    (readyMachine_ready _) rfl rfl wearingAttempt left false .empty 3 (by decide)

end Ndt.Check
