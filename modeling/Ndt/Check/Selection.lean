/-
**The tests of a `./check`: `_find_tests` and the sort behind it.**

* `foundTest`, `foundGroup`, `findTests` — the lines that `_find_tests` prints, names and warnings, in
  their order. A test that a filter names is listed whatever the options say; the tests of a group are
  held against the options one by one, also when a filter names the group.
* `selected` — the names behind `sort -zu`, in the collation of the `C` locale.
* `mem_selected_iff` — which tests are selected, read off the filters.
* `selected_eq_of_paths` — neither the order nor the repetition nor the spelling of the filters matters.

What a test file defines is a value here, `none` when it cannot be sourced.
-/

import Ndt.Check.Filter

namespace Ndt.Check

open Shell

/-! ### What a test file defines -/

/-- The variables and functions that `_found_test` looks at when it has sourced a test. -/
structure Definition where
  description : Text
  canBeZoned : Text
  quick : Bool
  timed : Bool
  test : Bool
  testDevice : Bool
  testDeviceArray : Bool
  deviceRequires : Bool
  fallbackDevice : Bool
  cleanupFallbackDevice : Bool
  setConditions : Bool
  deriving DecidableEq, Repr

/-- What `_found_test` warns of, in the order of its checks. -/
def Definition.fault (definition : Definition) (testName : Text) : Option Text :=
  let reports (message : String) : Option Text := some (testName ++ message.toList)
  if definition.description = [] then reports " does not define DESCRIPTION"
  else if definition.test && definition.testDevice then reports " defines both test and test_device"
  else if definition.test && definition.testDeviceArray then
    reports " defines both test and test_device_array"
  else if definition.testDevice && definition.testDeviceArray then
    reports " defines both test_device and test_device_array"
  else if !definition.test && !definition.testDevice && !definition.testDeviceArray then
    reports " does not define test(), test_device() or test_device_array()"
  else if definition.deviceRequires && !definition.testDevice && !definition.testDeviceArray then
    reports " defines device_requires() but not either test_device() or test_device_array()"
  else if definition.fallbackDevice && !definition.cleanupFallbackDevice then
    reports " defines fallback_device() but not cleanup_fallback_device()"
  else if definition.cleanupFallbackDevice && !definition.fallbackDevice then
    reports " defines cleanup_fallback_device() but not fallback_device()"
  else if definition.canBeZoned ≠ [] && definition.test && definition.setConditions then
    reports " defines both CAN_BE_ZONED and set_conditions()"
  else if definition.quick && definition.timed then reports " cannot be both QUICK and TIMED"
  else none

/-- The options that narrow a run. -/
structure Options where
  deviceOnly : Bool
  quickRun : Bool
  exclude : List Text

/-- A test that is not named by a filter is passed over. -/
def Options.passesOver (options : Options) (testName : Text) (definition : Definition) : Bool :=
  (options.deviceOnly && !definition.testDevice && !definition.testDeviceArray) ||
    (options.quickRun && !definition.quick && !definition.timed) ||
    options.exclude.contains testName

/-! ### `_find_tests` -/

/-- **The directory `tests`**, as `_find_tests` looks at it. -/
structure Suite where
  /-- `-d tests/$filter` -/
  isDir : Text → Bool
  /-- `-f tests/$filter` -/
  isFile : Text → Bool
  /-- `find tests -mindepth 2 -type f -name rc -printf '%h\0'` -/
  groupPaths : List Text
  /-- `find "tests/$group" -type f -name '[0-9][0-9][0-9]' -print0` -/
  testPaths : Text → List Text
  /-- `. "tests/${test_name}"` -/
  source : Text → Option Definition

/-- A line of `_find_tests`, on its output or on its error output. -/
inductive Line
  | name (testName : Text)
  | warning (message : Text)
  deriving DecidableEq, Repr

namespace Suite

variable (suite : Suite) (options : Options)

/-- `_found_test` -/
def foundTest (testName : Text) (explicit : Bool) : List Line :=
  match suite.source testName with
  | none => []
  | some definition =>
    match definition.fault testName with
    | some message => [.warning message]
    | none => if !explicit && options.passesOver testName definition then [] else [.name testName]

/-- `_found_group` -/
def foundGroup (group : Text) (explicit : Bool) : List Line :=
  if !explicit && options.exclude.contains group then []
  else (suite.testPaths group).flatMap fun testPath =>
    suite.foundTest options (trimPrefix "tests/".toList testPath) false

/-- One round of the loop over the filters. -/
def foundFilter (filter : Text) : List Line :=
  if isBad filter then [.warning ("bad filter ".toList ++ filter)]
  else if suite.isDir (testName filter) then suite.foundGroup options (testName filter) true
  else if suite.isFile (testName filter) then suite.foundTest options (testName filter) true
  else [.warning ("no group or test named ".toList ++ testName filter)]

/-- `_find_tests` -/
def findTests (filters : List Text) : List Line :=
  if filters = [] then
    (suite.groupPaths.filter (· ≠ "tests/meta".toList)).flatMap fun groupPath =>
      suite.foundGroup options (trimPrefix "tests/".toList groupPath) false
  else filters.flatMap (suite.foundFilter options)

end Suite

/-- The name on a line of the output. -/
def Line.name? : Line → Option Text
  | name testName => some testName
  | warning _ => none

/-- `sort -zu` -/
def sortUnique (names : List Text) : List Text := names.dedup.insertionSort (· ≤ ·)

/-- **The tests of a run**, in the order in which they are run. -/
def Suite.selected (suite : Suite) (options : Options) (filters : List Text) : List Text :=
  sortUnique ((suite.findTests options filters).filterMap Line.name?)

@[simp] theorem mem_sortUnique {name : Text} {names : List Text} :
    name ∈ sortUnique names ↔ name ∈ names := by
  rw [sortUnique, List.mem_insertionSort, List.mem_dedup]

theorem sortUnique_sorted (names : List Text) : (sortUnique names).Pairwise (· < ·) := by
  have sorted : (sortUnique names).Pairwise (· ≤ ·) := List.pairwise_insertionSort _ _
  have nodup : (sortUnique names).Nodup :=
    (List.perm_insertionSort _ _).nodup_iff.mpr (List.nodup_dedup names)
  exact (sorted.and nodup).imp fun both => lt_of_le_of_ne both.1 both.2

/-! ### Which tests are selected -/

namespace Suite

variable (suite : Suite) (options : Options)

/-- The test can be sourced and nothing is wrong with it. -/
def Sound (testName : Text) : Prop :=
  ∃ definition, suite.source testName = some definition ∧ definition.fault testName = none

/-- A sound test that the options leave in. -/
def Open (testName : Text) : Prop :=
  ∃ definition, suite.source testName = some definition ∧ definition.fault testName = none ∧
    options.passesOver testName definition = false

/-- The names of the tests below a group. -/
def testsOf (group : Text) : List Text := (suite.testPaths group).map (trimPrefix "tests/".toList)

/-- **The tests that a filter asks for**: every open test of the group it names, or the one sound test it
names. -/
def Asks (filter testName : Text) : Prop :=
  isBad filter = false ∧
    if suite.isDir (Check.testName filter) then
      testName ∈ suite.testsOf (Check.testName filter) ∧ suite.Open options testName
    else suite.isFile (Check.testName filter) = true ∧ testName = Check.testName filter ∧
      suite.Sound testName

/-- **The tests that a run is to cover.** Without filters these are the open tests of every group that is
not excluded, other than `meta`. -/
def Wanted (filters : List Text) (testName : Text) : Prop :=
  if filters = [] then
    ∃ groupPath ∈ suite.groupPaths, groupPath ≠ "tests/meta".toList ∧
      trimPrefix "tests/".toList groupPath ∉ options.exclude ∧
      testName ∈ suite.testsOf (trimPrefix "tests/".toList groupPath) ∧ suite.Open options testName
  else ∃ filter ∈ filters, suite.Asks options filter testName

theorem name_mem_foundTest {listed testName : Text} {explicit : Bool} :
    .name listed ∈ suite.foundTest options testName explicit ↔
      listed = testName ∧ if explicit then suite.Sound testName else suite.Open options testName := by
  unfold foundTest Sound Open
  cases suite.source testName with
  | none => simp
  | some definition =>
    cases fault : definition.fault testName with
    | some message => simp [fault]
    | none =>
      cases explicit with
      | true => simp [fault]
      | false => cases left : options.passesOver testName definition <;> simp [fault, left]

theorem name_mem_foundGroup {listed group : Text} {explicit : Bool} :
    .name listed ∈ suite.foundGroup options group explicit ↔
      (explicit = false → group ∉ options.exclude) ∧ listed ∈ suite.testsOf group ∧
        suite.Open options listed := by
  have tests : .name listed ∈ ((suite.testPaths group).flatMap fun testPath =>
      suite.foundTest options (trimPrefix "tests/".toList testPath) false) ↔
      listed ∈ suite.testsOf group ∧ suite.Open options listed := by
    simp only [List.mem_flatMap, name_mem_foundTest, testsOf, List.mem_map]
    constructor
    · rintro ⟨testPath, member, rfl, isOpen⟩
      exact ⟨⟨testPath, member, rfl⟩, isOpen⟩
    · rintro ⟨⟨testPath, member, rfl⟩, isOpen⟩
      exact ⟨testPath, member, rfl, isOpen⟩
  rw [foundGroup, ← tests]
  cases explicit with
  | true => simp
  | false =>
    by_cases excluded : group ∈ options.exclude
    · simp [excluded]
    · rw [if_neg (by simp [excluded]), eq_true (fun _ => excluded : false = false → group ∉ options.exclude),
        true_and]

theorem name_mem_foundFilter {listed filter : Text} :
    .name listed ∈ suite.foundFilter options filter ↔ suite.Asks options filter listed := by
  unfold foundFilter Asks
  cases isBad filter with
  | true => simp
  | false =>
    cases suite.isDir (Check.testName filter) with
    | true => simp [name_mem_foundGroup]
    | false =>
      cases suite.isFile (Check.testName filter) with
      | true =>
        simp only [Bool.false_eq_true, if_false, if_true, name_mem_foundTest, true_and]
        refine and_congr_right ?_
        rintro rfl
        rfl
      | false => simp

theorem mem_names {lines : List Line} {name : Text} :
    name ∈ lines.filterMap Line.name? ↔ .name name ∈ lines := by
  rw [List.mem_filterMap]
  constructor
  · rintro ⟨line, member, stated⟩
    cases line <;> cases stated
    exact member
  · exact fun member => ⟨_, member, rfl⟩

/-- **What is selected is what the run is to cover.** -/
theorem mem_selected_iff (filters : List Text) (testName : Text) :
    testName ∈ suite.selected options filters ↔ suite.Wanted options filters testName := by
  rw [selected, mem_sortUnique, mem_names, findTests, Wanted]
  by_cases none : filters = []
  · rw [if_pos none, if_pos none]
    simp only [List.mem_flatMap, List.mem_filter, decide_eq_true_eq, name_mem_foundGroup, forall_const,
      and_assoc]
  · rw [if_neg none, if_neg none]
    simp only [List.mem_flatMap, name_mem_foundFilter]

/-- **Neither the order nor the repetition nor the spelling of the filters matters**: two lists of clean filters
that name the same files select the same tests. -/
theorem selected_eq_of_paths {filters others : List Text}
    (clean : ∀ filter ∈ filters ++ others, isBad filter = false ∧ Clean filter)
    (same : filters.map filePath ⊆ others.map filePath ∧ others.map filePath ⊆ filters.map filePath) :
    suite.selected options filters = suite.selected options others := by
  have names : ∀ {first second : List Text},
      (∀ filter ∈ first, isBad filter = false ∧ Clean filter) →
      (∀ filter ∈ second, isBad filter = false ∧ Clean filter) →
      first.map filePath ⊆ second.map filePath → ∀ filter ∈ first, ∃ other ∈ second,
        isBad other = isBad filter ∧ testName other = testName filter := by
    intro first second firstClean secondClean within filter member
    obtain ⟨other, inside, path⟩ := List.mem_map.mp (within (List.mem_map_of_mem member))
    obtain ⟨good, tidied⟩ := firstClean filter member
    obtain ⟨otherGood, otherTidied⟩ := secondClean other inside
    refine ⟨other, inside, otherGood.trans good.symm, ?_⟩
    rw [testName_eq_path tidied, testName_eq_path otherTidied]
    exact congrArg _ path
  have asks : ∀ {first second : List Text}, (∀ filter ∈ first, ∃ other ∈ second,
        isBad other = isBad filter ∧ testName other = testName filter) →
      ∀ name, (∃ filter ∈ first, suite.Asks options filter name) →
        ∃ filter ∈ second, suite.Asks options filter name := by
    rintro first second matched name ⟨filter, member, asked⟩
    obtain ⟨other, inside, bad, named⟩ := matched filter member
    refine ⟨other, inside, ?_⟩
    unfold Asks at asked ⊢
    rw [bad, named]
    exact asked
  have filtersClean := fun filter member => clean filter (List.mem_append_left _ member)
  have othersClean := fun filter member => clean filter (List.mem_append_right _ member)
  have wanted : ∀ name, suite.Wanted options filters name ↔ suite.Wanted options others name := by
    intro name
    by_cases none : filters = []
    · have noOthers : others = [] := by
        rw [none] at same
        exact List.map_eq_nil_iff.mp (List.subset_nil.mp same.2)
      rw [none, noOthers]
    · have someOthers : others ≠ [] := by
        rintro rfl
        exact none (List.map_eq_nil_iff.mp (List.subset_nil.mp same.1))
      rw [Wanted, Wanted, if_neg none, if_neg someOthers]
      exact ⟨asks (names filtersClean othersClean same.1) name,
        asks (names othersClean filtersClean same.2) name⟩
  refine (sortUnique_sorted _).eq_of_mem_iff (sortUnique_sorted _) fun name => ?_
  show name ∈ suite.selected options filters ↔ name ∈ suite.selected options others
  rw [mem_selected_iff, mem_selected_iff, wanted]

end Suite

/-- Two groups with one test each. -/
def twoGroups : Suite where
  isDir name := name = "meta".toList || name = "nvme".toList
  isFile name := name = "meta/001".toList || name = "nvme/069".toList
  groupPaths := ["tests/nvme".toList, "tests/meta".toList]
  testPaths group := if group = "nvme".toList then ["tests/nvme/069".toList]
    else if group = "meta".toList then ["tests/meta/001".toList] else []
  source _ := some ⟨"a test".toList, [], false, false, true, false, false, false, false, false, false⟩

/-- Two groups with two tests each. -/
def fourTests : Suite where
  isDir name := name = "meta".toList || name = "nvme".toList
  isFile _ := true
  groupPaths := ["tests/nvme".toList, "tests/meta".toList]
  testPaths group := if group = "nvme".toList then ["tests/nvme/070".toList, "tests/nvme/069".toList]
    else if group = "meta".toList then ["tests/meta/001".toList, "tests/meta/002".toList] else []
  source _ := some ⟨"a test".toList, [], false, false, true, false, false, false, false, false, false⟩

theorem selected_eq_of_paths_twoGroups :
    twoGroups.selected ⟨false, false, []⟩ ["nvme".toList, "./tests/meta//001".toList] =
      twoGroups.selected ⟨false, false, []⟩
        ["meta/./001".toList, "nvme".toList, "././nvme".toList, "tests/nvme".toList] :=
  twoGroups.selected_eq_of_paths _ (by decide) (by decide)

end Ndt.Check
