/-
**The loop of `_check`: the selected tests, one `_run_group` for each run of tests of one group.**

* `checkLoop` — `_check` behind `sort -zu`: the tests are gathered until the group changes, the groups are
  run in subshells, and a group that fails makes the exit status `1`.
* `checkLoop_eq` — so the groups of the list are run, in their order.
* `check_covers` — every wanted test is handed to `_run_group` once and no other test is.
* `one_call` — and all tests of a group in one call, when no group lies inside another.

A `_run_group` is a parameter here: its exit status and what it leaves of the system, for the tests it is
given and the system it finds. It leaves the standard input of the loop alone: that is the pipe of the names, and
a test that read from it would take names from the list.
-/

import Ndt.Check.Selection
import Ndt.Transition.Grouping

namespace Ndt.Check

open Shell Transition

variable {World : Type}

/-- `( _run_group "${tests[@]}" )` and `(($? != 0)) && ret=1`, from the exit status so far. -/
def account (runGroup : List Text → World → ℕ × World) (tests : List Text) (state : ℕ × World) : ℕ × World :=
  let (status, world) := runGroup tests state.2
  (if status ≠ 0 then 1 else state.1, world)

/-- `while IFS= read -r -d '' test_name`, with `prev_group` unset at first: the exit status of `_check`, and
the system after it. All names come through the pipe that the groups inherit and do not read. -/
def checkLoop (runGroup : List Text → World → ℕ × World) (names : List Text) (world : World) : ℕ × World :=
  stream dirPart (account runGroup) [] names (0, world)

/-- The tests of each `_run_group`. -/
def batches (names : List Text) : List (List Text) := groups dirPart names

/-- **The loop runs the batches**, in their order. -/
theorem checkLoop_eq (runGroup : List Text → World → ℕ × World) (names : List Text) (world : World) :
    checkLoop runGroup names world =
      (batches names).foldl (fun state tests => account runGroup tests state) (0, world) :=
  stream_eq (account runGroup) [] names (0, world)

/-- No group lies inside another. -/
def Unnested (names : List Text) : Prop :=
  ∀ first ∈ names, '/' ∈ first ∧ ∀ second ∈ names, ¬ dirPart first ++ ['/'] <+: dirPart second

instance (names : List Text) : Decidable (Unnested names) :=
  inferInstanceAs (Decidable (∀ first ∈ names, '/' ∈ first ∧ ∀ second ∈ names, ¬ _ <+: _))

/-- What stands between two tests of a group, in the order of the names, is a test of that group. -/
theorem Unnested.convex {names : List Text} (unnested : Unnested names) : Convex dirPart names := by
  intro first firstIn between betweenIn last lastIn low high same
  obtain ⟨firstName, _, firstEq⟩ := exists_last (unnested first firstIn).1
  obtain ⟨lastName, _, lastEq⟩ := exists_last (unnested last lastIn).1
  obtain ⟨name, absent, betweenEq⟩ := exists_last (unnested between betweenIn).1
  have front : dirPart first ++ ['/'] <+: first := ⟨firstName, by rw [List.append_assoc]; exact firstEq.symm⟩
  have back : dirPart first ++ ['/'] <+: last :=
    ⟨lastName, by rw [List.append_assoc, same]; exact lastEq.symm⟩
  have starts := prefix_of_between front back low high
  -- the group of `between` is that of `first`, or lies inside it
  have within : dirPart first ++ ['/'] <+: dirPart between ++ ['/'] := by
    have split : between = dirPart between ++ ['/'] ++ name := by rw [List.append_assoc]; exact betweenEq
    rw [split] at starts
    exact prefix_of_concat absent starts
  rcases List.prefix_concat_iff.mp within with equal | inside
  · exact (List.append_left_injective _ equal).symm
  · exact absurd inside ((unnested first firstIn).2 between betweenIn)

/-- The order of `sort`. -/
theorem selected_sorted (suite : Suite) (options : Options) (filters : List Text) :
    (suite.selected options filters).Pairwise (· ≤ ·) :=
  (sortUnique_sorted _).imp le_of_lt

/-- **Every wanted test is run once, and no other test is run.** The loop runs batches of tests; a batch has
tests of one group, and the next one tests of another. -/
theorem check_covers (suite : Suite) (options : Options) (filters : List Text)
    (runGroup : List Text → World → ℕ × World) (world : World) :
    checkLoop runGroup (suite.selected options filters) world =
        (batches (suite.selected options filters)).foldl (fun state tests => account runGroup tests state)
          (0, world) ∧
      (∀ testName,
        (suite.Wanted options filters testName →
          (batches (suite.selected options filters)).flatten.count testName = 1) ∧
        (¬ suite.Wanted options filters testName →
          (batches (suite.selected options filters)).flatten.count testName = 0)) ∧
      (∀ batch ∈ batches (suite.selected options filters), batch ≠ [] ∧
        ∀ first ∈ batch, ∀ second ∈ batch, dirPart first = dirPart second) ∧
      (batches (suite.selected options filters)).IsChain
        fun batch next => ∀ first ∈ batch, ∀ second ∈ next, dirPart first ≠ dirPart second := by
  have nodup : (suite.selected options filters).Nodup := (sortUnique_sorted _).imp ne_of_lt
  refine ⟨checkLoop_eq runGroup _ world, fun testName => ?_, fun batch member => ?_, groups_chain⟩
  · rw [batches, groups_flatten, ← suite.mem_selected_iff]
    exact ⟨List.count_eq_one_of_mem nodup, List.count_eq_zero_of_not_mem⟩
  · exact ⟨ne_nil_of_mem_groups member, fun first inside second alsoInside =>
      key_eq_of_mem_groups member inside alsoInside⟩

/-- **All tests of a group are run in one call**, when no group lies inside another: what is sourced and set
up for the group is sourced and set up once. -/
theorem one_call {suite : Suite} {options : Options} {filters : List Text}
    (unnested : Unnested (suite.selected options filters)) {batch : List Text}
    (member : batch ∈ batches (suite.selected options filters)) {testName other : Text}
    (inside : testName ∈ batch) (wanted : suite.Wanted options filters other) :
    other ∈ batch ↔ dirPart other = dirPart testName := by
  constructor
  · exact fun follows => key_eq_of_mem_groups member follows inside
  · exact fun same => mem_of_key_eq (selected_sorted suite options filters) unnested.convex member inside
      ((suite.mem_selected_iff options filters other).mpr wanted) same

/-- The four tests of two groups are run in two calls. -/
theorem one_call_fourTests :
    batches (fourTests.selected ⟨false, false, []⟩ ["nvme".toList, "meta".toList]) =
        [["meta/001".toList, "meta/002".toList], ["nvme/069".toList, "nvme/070".toList]] ∧
      ("nvme/070".toList ∈ ["nvme/069".toList, "nvme/070".toList] ↔
        dirPart "nvme/070".toList = dirPart "nvme/069".toList) ∧
      ("meta/001".toList ∈ ["nvme/069".toList, "nvme/070".toList] ↔
        dirPart "meta/001".toList = dirPart "nvme/069".toList) := by
  have split : batches (fourTests.selected ⟨false, false, []⟩ ["nvme".toList, "meta".toList]) =
      [["meta/001".toList, "meta/002".toList], ["nvme/069".toList, "nvme/070".toList]] := by decide
  have unnested : Unnested (fourTests.selected ⟨false, false, []⟩ ["nvme".toList, "meta".toList]) := by
    decide
  have member : ["nvme/069".toList, "nvme/070".toList] ∈
      batches (fourTests.selected ⟨false, false, []⟩ ["nvme".toList, "meta".toList]) := by
    rw [split]
    exact List.mem_cons_of_mem _ List.mem_cons_self
  have second : "nvme/070".toList ∈ fourTests.selected ⟨false, false, []⟩ ["nvme".toList, "meta".toList] := by
    decide
  have other : "meta/001".toList ∈ fourTests.selected ⟨false, false, []⟩ ["nvme".toList, "meta".toList] := by
    decide
  exact ⟨split,
    one_call unnested member List.mem_cons_self ((fourTests.mem_selected_iff _ _ _).mp second),
    one_call unnested member List.mem_cons_self ((fourTests.mem_selected_iff _ _ _).mp other)⟩

end Ndt.Check
