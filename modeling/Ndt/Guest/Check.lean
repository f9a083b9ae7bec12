/-
**`./check` on one test, and what `init` makes of an abort.**

* `Judged.status` — the status that `_call_test` gives a test function that has returned.
* `callTests` — `_run_test` in its subshell: the conditions of the test one after the other, each with a
  sub-directory of its own. A test function that calls `exit` ends the subshell: its condition and all
  later ones leave no record.
* `countsPass_iff` — `init` counts the iteration as a pass when the conditions before the first abort have
  a pass and no failure among them.
* `sound_iff_not_masked` — so the count is right exactly when no abort is `Masked` by an earlier pass.

`mktemp` and `pushd` are taken to succeed; the exit status of `./check` is discarded by `init`.
-/

import Ndt.Guest.Answer

namespace Ndt.Guest

open Shell

/-! ### One condition -/

/-- `TEST_RUN["status"]` -/
inductive Status
  | pass | fail | notRun
  deriving DecidableEq, Repr

def Status.text : Status → Text
  | .pass => "pass".toList
  | .fail => "fail".toList
  | .notRun => "not run".toList

/-- What `_call_test` looks at when the test function has returned. -/
structure Judged where
  skipReasons : Bool
  outputMatches : Bool
  exitStatus : ℕ
  dmesgClean : Bool
  kmemleakClean : Bool
  deriving DecidableEq, Repr

/-- The status of a test function that has returned. -/
def Judged.status (run : Judged) : Status :=
  if run.skipReasons then .notRun
  else if !run.outputMatches then .fail
  else if run.exitStatus ≠ 0 then .fail
  else if !run.dmesgClean then .fail
  else if !run.kmemleakClean then .fail
  else .pass

/-- A condition of the test, by what happens under it: skipped before the test function is called, or
called with a function that exits or returns. -/
inductive Condition
  | skipped
  | exits
  | returns (run : Judged)
  deriving DecidableEq, Repr

/-- The status on record; `none`: the subshell ended before there was one. -/
def Condition.recorded : Condition → Option Status
  | .skipped => some .notRun
  | .exits => none
  | .returns run => some run.status

/-- **The other lines of a record**: `_write_test_run` writes the keys in the order of an associative
array. -/
structure Keys where
  before : List Text
  after : List Text
  quiet : ∀ row ∈ before ++ after, startsWith "status\t".toList row = false ∧ '\n' ∉ row ∧ '\x00' ∉ row

/-- No other lines. -/
def noKeys : Keys := ⟨[], [], by simp⟩

/-- The lines of a record. -/
def Keys.rows (keys : Keys) (status : Status) : List Text :=
  keys.before ++ ("status\t".toList ++ status.text) :: keys.after

theorem Keys.rows_clean (keys : Keys) (status : Status) :
    ∀ row ∈ keys.rows status, '\n' ∉ row ∧ '\x00' ∉ row := by
  intro row member
  rcases List.mem_append.mp member with early | late
  · exact (keys.quiet row (List.mem_append_left _ early)).2
  rcases List.mem_cons.mp late with rfl | later
  · cases status <;> decide
  · exact (keys.quiet row (List.mem_append_right _ later)).2

/-- `_write_test_run` -/
def writeTestRun (keys : Keys) (status : Status) : Record where
  text := unlines (keys.rows status)
  clean := by
    intro nul
    obtain ⟨row, member, inside⟩ := List.mem_flatMap.mp nul
    rcases List.mem_append.mp inside with inRow | newline
    · exact (keys.rows_clean status row member).2 inRow
    · exact absurd (List.mem_singleton.mp newline) (by decide)

/-- **A record states the status it was written with.** -/
theorem status?_writeTestRun (keys : Keys) (status : Status) :
    (writeTestRun keys status).status? = some status.text := by
  have rows : lines (writeTestRun keys status).text = keys.rows status := by
    have split := lines_unlines (keys.rows status) (fun row member => (keys.rows_clean status row member).1) []
    rwa [List.append_nil, lines_nil, List.append_nil] at split
  have none : ∀ row ∈ keys.before, (if startsWith "status\t".toList row then
      some (trimPrefix "status\t".toList row) else Option.none) = Option.none := by
    intro row member
    rw [(keys.quiet row (List.mem_append_left _ member)).1]
    rfl
  rw [Record.status?, Record.statusLines, rows, Keys.rows, List.filterMap_append,
    List.filterMap_eq_nil_iff.mpr none, List.nil_append, List.filterMap_cons_some (b := status.text)]
  · rfl
  · rw [startsWith_append, if_pos rfl, trimPrefix_append]

theorem s_writeTestRun (keys : Keys) (status : Status) : (writeTestRun keys status).s = status.text := by
  rw [Record.s_eq, status?_writeTestRun]
  rfl

/-! ### One test -/

/-- A condition with its sub-directory of `results` and the other lines of its record. -/
structure Slot where
  dir : SubDir
  condition : Condition
  keys : Keys

/-- **The conditions of a test**, in the order in which they are run. -/
structure Checklist where
  slots : List Slot
  nodup : (slots.map Slot.dir).Nodup

/-- The loop over the conditions, in the subshell of the test. The old record of a condition is gone
before its test function runs. -/
def callTests : List Slot → Results
  | [] => []
  | slot :: later =>
    match slot.condition.recorded with
    | none => [(slot.dir, none)]
    | some status => (slot.dir, some (writeTestRun slot.keys status)) :: callTests later

theorem callTests_dirs (slots : List Slot) :
    (callTests slots).map Prod.fst <+: slots.map Slot.dir := by
  induction slots with
  | nil => exact List.prefix_rfl
  | cons slot later ih =>
    rw [callTests]
    cases slot.condition.recorded with
    | none => exact List.cons_prefix_cons.mpr ⟨rfl, List.nil_prefix⟩
    | some status => exact List.cons_prefix_cons.mpr ⟨rfl, ih⟩

/-- What `./check` leaves of a test. -/
def Checklist.outcome (checklist : Checklist) : Outcome :=
  ⟨callTests checklist.slots, checklist.nodup.sublist (callTests_dirs _).sublist⟩

/-- The statuses on record when the subshell ends. -/
def completed : List Slot → List Status
  | [] => []
  | slot :: later =>
    match slot.condition.recorded with
    | none => []
    | some status => status :: completed later

theorem statuses_callTests (slots : List Slot) :
    statuses (callTests slots) = (completed slots).map Status.text := by
  induction slots with
  | nil => rfl
  | cons slot later ih =>
    rw [callTests, completed]
    cases slot.condition.recorded with
    | none => rfl
    | some status =>
      rw [List.map_cons, ← ih, ← s_writeTestRun slot.keys status]
      rfl

theorem classify_text (status : Status) :
    classify status.text = match status with
      | .pass => .pass
      | .fail => .fail
      | .notRun => .skip := by
  cases status <;> decide

/-- The flag of a test is a pass when a pass and no failure is on record. -/
theorem flagOf_outcome_eq_pass_iff (checklist : Checklist) :
    flagOf checklist.outcome = .pass ↔
      .pass ∈ completed checklist.slots ∧ .fail ∉ completed checklist.slots := by
  have kinds : ∀ flag : Flag, (∃ s ∈ (completed checklist.slots).map Status.text, classify s = flag) ↔
      ∃ status ∈ completed checklist.slots, classify status.text = flag := by
    intro flag
    simp only [List.mem_map, exists_exists_and_eq_and]
  rw [flagOf, Checklist.outcome, statuses_callTests, aggregate_eq_pass_iff]
  refine and_congr ?_ ?_
  · rw [kinds]
    constructor
    · rintro ⟨status, member, pass⟩
      cases status <;> simp [classify_text] at pass
      exact member
    · exact fun member => ⟨.pass, member, by simp [classify_text]⟩
  · rw [List.forall_mem_map]
    constructor
    · exact fun noFail member => noFail .fail member (by simp [classify_text])
    · intro absent status member fail
      cases status <;> simp [classify_text] at fail
      exact absent member

/-! ### Aborts -/

/-- A condition of the test is not run to its end. -/
def Checklist.Aborts (checklist : Checklist) : Prop :=
  ∃ slot ∈ checklist.slots, slot.condition.recorded = none

/-- **The whole test ran and nothing failed.** -/
def Checklist.Sound (checklist : Checklist) : Prop :=
  ∀ slot ∈ checklist.slots, ∃ status, slot.condition.recorded = some status ∧ status ≠ .fail

/-- **An abort behind a pass**: the conditions before the first abort have a recorded pass and no
recorded failure among them. -/
def Checklist.Masked (checklist : Checklist) : Prop :=
  ∃ before slot after, checklist.slots = before ++ slot :: after ∧ slot.condition.recorded = none ∧
    (∀ earlier ∈ before, earlier.condition.recorded ≠ none) ∧
    (∃ earlier ∈ before, earlier.condition.recorded = some .pass) ∧
    ∀ earlier ∈ before, earlier.condition.recorded ≠ some .fail

/-- `init` counts the iteration as a pass, from an empty `results` on. -/
def Checklist.CountsPass (checklist : Checklist) : Prop :=
  ∀ (listing : Listing) (ndtIter ndtBlktest : Text) (state : LoopState), state.results = [] →
    (iteration ndtIter ndtBlktest ⟨checklist.outcome, listing⟩ state).tally = state.tally.add .pass

/-- Up to an abort the statuses on record are those of the conditions. -/
theorem mem_completed_append {before : List Slot}
    (none : ∀ earlier ∈ before, earlier.condition.recorded ≠ none) {later : List Slot}
    (last : completed later = []) (status : Status) :
    status ∈ completed (before ++ later) ↔
      ∃ earlier ∈ before, earlier.condition.recorded = some status := by
  induction before with
  | nil => simp [last]
  | cons slot before ih =>
    have tail := ih fun earlier member => none earlier (List.mem_cons_of_mem _ member)
    rw [List.cons_append, completed]
    cases recorded : slot.condition.recorded with
    | none => exact absurd recorded (none slot List.mem_cons_self)
    | some first =>
      rw [List.mem_cons, tail, List.exists_mem_cons_iff, recorded, Option.some_inj]
      exact or_congr_left eq_comm

/-- The first condition that leaves no record. -/
theorem Checklist.first_abort {checklist : Checklist} (aborts : checklist.Aborts) :
    ∃ before slot after, checklist.slots = before ++ slot :: after ∧ slot.condition.recorded = none ∧
      ∀ earlier ∈ before, earlier.condition.recorded ≠ none := by
  obtain ⟨slot, member, abort⟩ := aborts
  have some : (checklist.slots.find? fun slot => slot.condition.recorded = none).isSome = true :=
    List.find?_isSome.mpr ⟨slot, member, decide_eq_true abort⟩
  obtain ⟨first, found⟩ := Option.isSome_iff_exists.mp some
  obtain ⟨recorded, before, after, split, earlier⟩ := List.find?_eq_some_iff_append.mp found
  refine ⟨before, first, after, split, of_decide_eq_true recorded, fun other inside none => ?_⟩
  have kept := earlier other inside
  rw [decide_eq_true none] at kept
  cases kept

/-- What stands on record when the first abort is after `before`. -/
theorem mem_completed_of_split {checklist : Checklist} {before after : List Slot} {slot : Slot}
    (split : checklist.slots = before ++ slot :: after) (abort : slot.condition.recorded = none)
    (none : ∀ earlier ∈ before, earlier.condition.recorded ≠ none) (status : Status) :
    status ∈ completed checklist.slots ↔
      ∃ earlier ∈ before, earlier.condition.recorded = some status := by
  have last : completed (slot :: after) = [] := by
    rw [completed, abort]
  rw [split]
  exact mem_completed_append none last status

theorem add_zero_injective : Function.Injective Tally.zero.add := fun first second same => by
  cases first <;> cases second <;> first | rfl | exact absurd same (by decide)

/-- **When `init` counts the iteration as a pass.** -/
theorem countsPass_iff (checklist : Checklist) :
    checklist.CountsPass ↔
      .pass ∈ completed checklist.slots ∧ .fail ∉ completed checklist.slots := by
  rw [← flagOf_outcome_eq_pass_iff]
  have counted : ∀ (listing : Listing) (ndtIter ndtBlktest : Text) (state : LoopState),
      state.results = [] →
      (iteration ndtIter ndtBlktest ⟨checklist.outcome, listing⟩ state).tally =
        state.tally.add (flagOf checklist.outcome) := by
    intro listing ndtIter ndtBlktest state wiped
    rw [iteration_tally, wiped, Results.write]
    simp [flagOf]
  constructor
  · intro passes
    have first := passes .stored [] [] ⟨1, .zero, [], [], 0⟩ rfl
    rw [counted .stored [] [] _ rfl] at first
    exact add_zero_injective first
  · intro pass listing ndtIter ndtBlktest state wiped
    rw [counted listing ndtIter ndtBlktest state wiped, pass]

/-- **The count is right exactly when no abort is masked.** -/
theorem sound_iff_not_masked (checklist : Checklist) :
    (checklist.CountsPass → checklist.Sound) ↔ ¬ checklist.Masked := by
  rw [countsPass_iff]
  constructor
  · rintro sound ⟨before, slot, after, split, abort, none, pass, noFail⟩
    have recorded := mem_completed_of_split split abort none
    have both : Status.pass ∈ completed checklist.slots ∧ Status.fail ∉ completed checklist.slots := by
      rw [recorded, recorded]
      refine ⟨pass, ?_⟩
      rintro ⟨earlier, member, fail⟩
      exact noFail earlier member fail
    obtain ⟨status, stated, _⟩ := sound both slot (by rw [split]; simp)
    rw [abort] at stated
    cases stated
  · rintro notMasked ⟨pass, noFail⟩
    by_cases aborts : checklist.Aborts
    · obtain ⟨before, slot, after, split, abort, none⟩ := Checklist.first_abort aborts
      have recorded := mem_completed_of_split split abort none
      rw [recorded] at pass noFail
      exact absurd ⟨before, slot, after, split, abort, none, pass,
        fun earlier member fail => noFail ⟨earlier, member, fail⟩⟩ notMasked
    · intro slot member
      have all : ∀ other ∈ checklist.slots, other.condition.recorded ≠ none :=
        fun other inside none => aborts ⟨other, inside, none⟩
      have recorded : ∀ status, status ∈ completed (checklist.slots ++ []) ↔
          ∃ earlier ∈ checklist.slots, earlier.condition.recorded = some status :=
        mem_completed_append all rfl
      rw [List.append_nil] at recorded
      cases stated : slot.condition.recorded with
      | none => exact absurd stated (all slot member)
      | some status =>
        refine ⟨status, rfl, ?_⟩
        rintro rfl
        exact noFail ((recorded .fail).mpr ⟨slot, member, stated⟩)

end Ndt.Guest
