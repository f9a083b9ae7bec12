/-
**What the test loop counts.**

* `aggregate` — the flag of a set of statuses, without flags or order: any fail, else any pass, else
  skip. `look_fold` and `count_fold` connect it to the loop over the sub-directories.
* `flagOf` — the flag of the records of one `./check`; it is a pass exactly when the iteration has
  `Passed`. From an empty `results` on, each iteration counts by its own records (`tallyOf_flagsOf`), in
  whatever order they are enumerated (`countedTally_perm`).
* `Reached` — the loop invariant; `Reached.step` is one iteration, `runLoop_finishes` the whole loop
  for a bound below `2 ^ 63 - 1`, `runLoop_endless` the loop that never ends.
-/

import Ndt.Guest.Init

namespace Ndt.Guest

open Shell

/-! ### Statuses -/

/-- A line of a `status` field survives `$(...)`: it holds neither a newline nor a NUL byte. -/
theorem statusLine_plain (record : Record) {status : Text} (member : status ∈ record.statusLines) :
    '\n' ∉ status ∧ '\x00' ∉ status := by
  obtain ⟨row, rowMember, found⟩ := List.mem_filterMap.mp member
  split at found
  · rename_i starts
    obtain rfl := Option.some.inj found
    have inside : ∀ c ∈ trimPrefix "status\t".toList row, c ∈ row := by
      intro c taken
      rw [trimPrefix, if_pos starts] at taken
      exact List.mem_of_mem_drop taken
    refine ⟨fun newline => newline_not_mem_line rowMember (inside _ newline), fun nul => ?_⟩
    exact record.clean (mem_of_mem_lines rowMember (inside _ nul))
  · cases found

/-- **`$s` is the status the record states**, and empty if it states none. -/
theorem Record.s_eq (record : Record) : record.s = record.status?.getD [] := by
  unfold Record.s Record.status?
  cases stated : record.statusLines with
  | nil => rfl
  | cons status others =>
    have member : status ∈ record.statusLines := by rw [stated]; exact List.mem_cons_self
    obtain ⟨single, clean⟩ := statusLine_plain record member
    rw [List.take_succ_cons, List.take_zero, unlines_cons, unlines_nil]
    exact commandOutput_line single clean

/-- The statuses that the loop over the sub-directories looks at. -/
def statuses (results : Results) : List Text := results.filterMap fun entry => entry.2.map Record.s

/-- **The flag of an iteration**: any fail, else any pass, else skip. -/
def aggregate (texts : List Text) : Flag :=
  if ∃ s ∈ texts, classify s = .fail then .fail
  else if ∃ s ∈ texts, classify s = .pass then .pass
  else .skip

theorem aggregate_perm {first second : List Text} (perm : first.Perm second) :
    aggregate first = aggregate second := by
  unfold aggregate
  simp only [perm.mem_iff]

/-- An iteration passes when some record passes and none fails. -/
theorem aggregate_eq_pass_iff (texts : List Text) :
    aggregate texts = .pass ↔
      (∃ s ∈ texts, classify s = .pass) ∧ ∀ s ∈ texts, classify s ≠ .fail := by
  unfold aggregate
  split
  · rename_i failed
    simpa using fun _ _ _ => failed
  · rename_i noFail
    push Not at noFail
    split
    · rename_i passed
      exact ⟨fun _ => ⟨passed, noFail⟩, fun _ => rfl⟩
    · rename_i noPass
      exact ⟨fun same => (by cases same), fun both => absurd both.1 noPass⟩

/-- The flags after the loop over the sub-directories. -/
theorem look_fold (results : Results) (flags : Flags) :
    ((results.foldl Flags.look flags).anyFail = true ↔
        flags.anyFail = true ∨ ∃ s ∈ statuses results, classify s = .fail) ∧
      ((results.foldl Flags.look flags).anyPass = true ↔
        flags.anyPass = true ∨ ∃ s ∈ statuses results, classify s = .pass) := by
  induction results generalizing flags with
  | nil => simp [statuses]
  | cons entry results ih =>
    obtain ⟨dir, record⟩ := entry
    have tail := ih (flags.look (dir, record))
    cases record with
    | none => exact tail
    | some record =>
      have all : statuses ((dir, some record) :: results) = record.s :: statuses results := rfl
      rw [List.foldl_cons, tail.1, tail.2, all]
      simp only [List.exists_mem_cons_iff, ← or_assoc]
      cases kind : classify record.s <;> simp [Flags.look, Flags.raise, kind]

/-- One iteration's flag, added to the counters. -/
def Tally.add (tally : Tally) : Flag → Tally
  | .pass => { tally with pass := wrap (tally.pass + 1) }
  | .fail => { tally with fail := wrap (tally.fail + 1) }
  | .skip => { tally with skip := wrap (tally.skip + 1) }

/-- **The loop over the sub-directories counts the flag of their statuses.** -/
theorem count_fold (tally : Tally) (results : Results) :
    tally.count (results.foldl Flags.look Flags.clear) = tally.add (aggregate (statuses results)) := by
  obtain ⟨fails, passes⟩ := look_fold results Flags.clear
  rw [show Flags.clear.anyFail = false from rfl] at fails
  rw [show Flags.clear.anyPass = false from rfl] at passes
  simp only [Bool.false_eq_true, false_or] at fails passes
  unfold Tally.count aggregate
  simp only [fails, passes]
  split
  · rfl
  · split <;> rfl

/-- **An iteration counts the flag of what stands in `results`**, whatever the order of the listing. -/
theorem iteration_tally (ndtIter ndtBlktest : Text) (attempt : Attempt) (state : LoopState) :
    (iteration ndtIter ndtBlktest attempt state).tally =
      state.tally.add (aggregate (statuses (state.results.write attempt.outcome))) := by
  have listed := attempt.listing.perm (state.results.write attempt.outcome)
  have same : aggregate (statuses (attempt.listing.order (state.results.write attempt.outcome))) =
      aggregate (statuses (state.results.write attempt.outcome)) := aggregate_perm (listed.filterMap _)
  show state.tally.count _ = _
  rw [count_fold, same]

/-! ### The counters after some iterations -/

/-- The flag of iteration `n`, for the content of `results` at boot. -/
def flagAt (initial : Results) (attempts : ℕ → Attempt) (n : ℕ) : Flag :=
  aggregate (statuses ((if n = 0 then initial else []).write (attempts n).outcome))

/-- The flags of the first `n` iterations. -/
def flagsOf (initial : Results) (attempts : ℕ → Attempt) (n : ℕ) : List Flag :=
  (List.range n).map (flagAt initial attempts)

/-- The counters for a list of flags. -/
def tallyOf (flags : List Flag) : Tally :=
  ⟨(flags.count .pass : ℕ), (flags.count .fail : ℕ), (flags.count .skip : ℕ)⟩

theorem flagsOf_succ (initial : Results) (attempts : ℕ → Attempt) (n : ℕ) :
    flagsOf initial attempts (n + 1) = flagsOf initial attempts n ++ [flagAt initial attempts n] := by
  rw [flagsOf, List.range_succ, List.map_append]
  rfl

@[simp] theorem flagsOf_length (initial : Results) (attempts : ℕ → Attempt) (n : ℕ) :
    (flagsOf initial attempts n).length = n := by
  simp [flagsOf]

/-- Every flag is counted once. -/
theorem count_flags (flags : List Flag) :
    flags.count .pass + flags.count .fail + flags.count .skip = flags.length := by
  induction flags with
  | nil => rfl
  | cons flag flags ih =>
    cases flag <;> simp only [List.count_cons, List.length_cons, beq_iff_eq] <;> simp <;> omega

/-- **The counters add up to the number of iterations.** -/
theorem tallyOf_sum (flags : List Flag) :
    (tallyOf flags).pass + (tallyOf flags).fail + (tallyOf flags).skip = flags.length := by
  have total := count_flags flags
  simp only [tallyOf]
  omega

theorem tallyOf_add (flags : List Flag) (flag : Flag) (room : flags.length < 2 ^ 63 - 1) :
    (tallyOf flags).add flag = tallyOf (flags ++ [flag]) := by
  have total := count_flags flags
  have bump : ∀ kind : Flag, wrap (((flags.count kind : ℕ) : ℤ) + 1) = (flags.count kind + 1 : ℕ) := by
    intro kind
    have fits : flags.count kind + 1 < 2 ^ 63 := by
      have := List.count_le_length (a := kind) (l := flags)
      omega
    have exact' := wrap_natCast fits
    push_cast at exact' ⊢
    exact exact'
  unfold tallyOf
  simp only [List.count_append]
  cases flag <;> simp only [Tally.add, bump] <;> rfl

/-- All the iterations pass exactly when the other counters stay at zero and the first one is the
number of iterations. -/
theorem tallyOf_all_pass_iff (flags : List Flag) :
    ((tallyOf flags).pass = flags.length ∧ (tallyOf flags).fail = 0 ∧ (tallyOf flags).skip = 0) ↔
      ∀ flag ∈ flags, flag = .pass := by
  have total := count_flags flags
  have all : flags.count .pass = flags.length ↔ ∀ flag ∈ flags, flag = .pass := by
    rw [List.count_eq_length]
    exact forall₂_congr fun _ _ => eq_comm
  rw [← all]
  simp only [tallyOf]
  omega

/-! ### The records of one iteration -/

/-- **An iteration that passes**: some record passes, no record fails. -/
def Passed (outcome : Outcome) : Prop :=
  (∃ dir record, (dir, some record) ∈ outcome.entries ∧ record.status? = some "pass".toList) ∧
    ∀ dir record, (dir, some record) ∈ outcome.entries →
      record.status?.getD [] ∈ ["pass".toList, "not run".toList, "skipped".toList, []]

/-- The flag of the records of one `./check`. -/
def flagOf (outcome : Outcome) : Flag := aggregate (statuses outcome.entries)

/-- From an empty `results` on, the flag of an iteration is that of its own records. -/
theorem flagAt_eq_flagOf (attempts : ℕ → Attempt) (n : ℕ) :
    flagAt [] attempts n = flagOf (attempts n).outcome := by
  rw [flagAt, ite_self, Results.write]
  simp [flagOf]

theorem classify_eq_pass_iff (s : Text) : classify s = .pass ↔ s = "pass".toList := by
  unfold classify
  split
  · rename_i pass
    exact iff_of_true rfl pass
  · rename_i other
    refine iff_of_false ?_ other
    split <;> exact fun same => by cases same

theorem classify_ne_fail_iff (s : Text) :
    classify s ≠ .fail ↔ s ∈ ["pass".toList, "not run".toList, "skipped".toList, []] := by
  simp only [List.mem_cons, List.not_mem_nil, or_false]
  unfold classify
  split
  · rename_i pass
    exact iff_of_true (fun same => by cases same) (Or.inl pass)
  · rename_i notPass
    split
    · rename_i skip
      exact iff_of_true (fun same => by cases same) (Or.inr skip)
    · rename_i notSkip
      exact iff_of_false (fun different => different rfl) (not_or.mpr ⟨notPass, notSkip⟩)

theorem mem_statuses {results : Results} {s : Text} :
    s ∈ statuses results ↔ ∃ dir record, (dir, some record) ∈ results ∧ record.status?.getD [] = s := by
  rw [statuses, List.mem_filterMap]
  constructor
  · rintro ⟨⟨dir, content⟩, member, found⟩
    obtain ⟨record, rfl, rfl⟩ := Option.map_eq_some_iff.mp found
    exact ⟨dir, record, member, (record.s_eq).symm⟩
  · rintro ⟨dir, record, member, rfl⟩
    exact ⟨(dir, some record), member, congrArg some record.s_eq⟩

/-- **The flag of an iteration is a pass exactly when the iteration passes.** -/
theorem flagOf_eq_pass_iff (outcome : Outcome) : flagOf outcome = .pass ↔ Passed outcome := by
  rw [flagOf, aggregate_eq_pass_iff]
  refine and_congr ?_ ?_
  · constructor
    · rintro ⟨s, member, pass⟩
      obtain ⟨dir, record, inside, rfl⟩ := mem_statuses.mp member
      refine ⟨dir, record, inside, ?_⟩
      rw [classify_eq_pass_iff] at pass
      cases stated : record.status? with
      | none =>
        rw [stated] at pass
        cases pass
      | some status =>
        rw [stated] at pass
        exact congrArg some pass
    · rintro ⟨dir, record, inside, pass⟩
      exact ⟨_, mem_statuses.mpr ⟨dir, record, inside, rfl⟩, by rw [pass]; rfl⟩
  · constructor
    · intro noFail dir record inside
      exact (classify_ne_fail_iff _).mp (noFail _ (mem_statuses.mpr ⟨dir, record, inside, rfl⟩))
    · intro benign s member
      obtain ⟨dir, record, inside, rfl⟩ := mem_statuses.mp member
      exact (classify_ne_fail_iff _).mpr (benign dir record inside)

/-! ### The counters of a run from an empty `results` -/

/-- The counters of `k` iterations, each from its own records. -/
def countedTally (attempts : ℕ → Attempt) (k : ℕ) : Tally :=
  tallyOf ((List.range k).map fun n => flagOf (attempts n).outcome)

/-- The counters that a run from an empty `results` ends with. -/
theorem tallyOf_flagsOf (attempts : ℕ → Attempt) (k : ℕ) :
    tallyOf (flagsOf [] attempts k) = countedTally attempts k := by
  rw [countedTally, flagsOf]
  congr 2
  funext n
  exact flagAt_eq_flagOf attempts n

theorem countedTally_perm {attempts others : ℕ → Attempt} {k : ℕ}
    (same : ∀ n < k, (others n).outcome.entries.Perm (attempts n).outcome.entries) :
    countedTally others k = countedTally attempts k := by
  unfold countedTally
  congr 1
  refine List.map_congr_left fun n member => ?_
  exact aggregate_perm ((same n (List.mem_range.mp member)).filterMap _)

/-! ### The loop -/

/-- The result lines among the lines of a console. -/
def marker : Text := "=== NDT_RESULT ".toList

/-- **The loop invariant** after `n` iterations. -/
structure Reached (initial : Results) (attempts : ℕ → Attempt) (n : ℕ) (state : LoopState) :
    Prop where
  i : state.i = n + 1
  checks : state.checks = n
  results : state.results = if n = 0 then initial else []
  tally : state.tally = tallyOf (flagsOf initial attempts n)
  console : ∀ line ∈ state.console, startsWith marker line = false

theorem preamble_quiet (machine : Machine) :
    ∀ line ∈ preamble machine, startsWith marker line = false := by
  intro line member
  simp only [preamble, List.mem_cons, List.not_mem_nil, or_false] at member
  rcases member with rfl | rfl | rfl | rfl <;> rfl

theorem Reached.start (machine : Machine) (attempts : ℕ → Attempt) :
    Reached machine.results attempts 0 (loopStart machine) :=
  ⟨rfl, rfl, rfl, rfl, preamble_quiet machine⟩

section Loop

variable {initial : Results} {attempts : ℕ → Attempt} {ndtIter ndtBlktest : Text} {n : ℕ}
  {state : LoopState}

/-- **One iteration.** -/
theorem Reached.step (reached : Reached initial attempts n state) (room : n + 2 < 2 ^ 63) :
    Reached initial attempts (n + 1)
      (iteration ndtIter ndtBlktest (attempts state.checks) state) := by
  rw [reached.checks]
  refine ⟨?_, ?_, rfl, ?_, ?_⟩
  · show wrap (state.i + 1) = _
    rw [reached.i]
    have fits : wrap ((n + 1 + 1 : ℕ) : ℤ) = (n + 1 + 1 : ℕ) := wrap_natCast room
    push_cast at fits ⊢
    exact fits
  · show state.checks + 1 = n + 1
    rw [reached.checks]
  · have room' : (flagsOf initial attempts n).length < 2 ^ 63 - 1 := by
      rw [flagsOf_length]
      omega
    rw [iteration_tally, reached.results, reached.tally, flagsOf_succ]
    exact tallyOf_add _ (flagAt initial attempts n) room'
  · intro line member
    rcases List.mem_append.mp member with old | new
    · exact reached.console line old
    · rw [List.mem_singleton.mp new]
      rfl

theorem loopGuard_of_value {bound : ℤ} (value : textValue ndtIter = some bound) :
    loopGuard ndtIter state = decide (state.i ≤ bound) := by
  rw [loopGuard, value]
  rfl

/-- The loop from iteration `n` on. -/
theorem runLoop_from {k : ℕ} (value : textValue ndtIter = some (k : ℤ)) (room : k < 2 ^ 63 - 1)
    (remaining : ℕ) : ∀ {n : ℕ} {state : LoopState}, n + remaining = k →
      Reached initial attempts n state → ∀ fuel, remaining < fuel →
      ∃ final, runLoop ndtIter ndtBlktest attempts fuel state = some final ∧
        Reached initial attempts k final := by
  induction remaining with
  | zero =>
    intro n state last reached fuel enough
    obtain ⟨fuel, rfl⟩ := Nat.exists_eq_add_of_lt enough
    obtain rfl : n = k := last
    have done : loopGuard ndtIter state = false := by
      rw [loopGuard_of_value value, reached.i]
      exact decide_eq_false (by omega)
    refine ⟨state, ?_, reached⟩
    rw [Nat.zero_add, runLoop, done]
    rfl
  | succ remaining ih =>
    intro n state more reached fuel enough
    obtain ⟨fuel, rfl⟩ : ∃ less, fuel = less + 1 := ⟨fuel - 1, by omega⟩
    have again : loopGuard ndtIter state = true := by
      rw [loopGuard_of_value value, reached.i]
      exact decide_eq_true (by omega)
    obtain ⟨final, run, after⟩ := ih (n := n + 1) (by omega) (reached.step (by omega)) fuel (by omega)
    refine ⟨final, ?_, after⟩
    rw [runLoop, if_pos again]
    exact run

/-- **The test loop runs `./check` exactly `k` times and stops**, for a bound `k` below
`2 ^ 63 - 1`. -/
theorem runLoop_finishes (machine : Machine) {k : ℕ} (value : textValue ndtIter = some (k : ℤ))
    (room : k < 2 ^ 63 - 1) {fuel : ℕ} (enough : k < fuel) :
    ∃ final, runLoop ndtIter ndtBlktest attempts fuel (loopStart machine) = some final ∧
      Reached machine.results attempts k final :=
  runLoop_from value room k (Nat.zero_add k) (Reached.start machine attempts) fuel enough

/-- **The loop with the bound `2 ^ 63 - 1` never ends**: no 64-bit value is above it. -/
theorem runLoop_endless (value : textValue ndtIter = some intMax) (fuel : ℕ) :
    ∀ {state : LoopState}, InRange state.i →
      runLoop ndtIter ndtBlktest attempts fuel state = none := by
  induction fuel with
  | zero => exact fun _ => rfl
  | succ fuel ih =>
    intro state fits
    have again : loopGuard ndtIter state = true := by
      rw [loopGuard_of_value value]
      exact decide_eq_true fits.2
    rw [runLoop, if_pos again]
    exact ih (wrap_range _)

/-- Enough fuel is enough: the loop ends in one state only. -/
theorem runLoop_unique {first second : ℕ} :
    ∀ {state final other : LoopState}, runLoop ndtIter ndtBlktest attempts first state = some final →
      runLoop ndtIter ndtBlktest attempts second state = some other → final = other := by
  induction first generalizing second with
  | zero => exact fun run => by cases run
  | succ first ih =>
    intro state final other run run'
    cases second with
    | zero => cases run'
    | succ second =>
      rw [runLoop] at run run'
      split at run
      · rename_i again
        rw [if_pos again] at run'
        exact ih run run'
      · rename_i stop
        rw [if_neg stop] at run'
        exact Option.some.inj (run.symm.trans run')

end Loop

/-! ### The value of an iteration count -/

/-- The value of a digit string is its constant. -/
theorem textValue_digits {t : Text} (digits : Digits t) : textValue t = constant t := by
  have value : (evalText false 1024 t).exec (fun _ => none) =
      ((constant t).elim (.error .malformed) .ok, fun _ => none) := evalText_digits digits
  rw [textValue, arith, maxDepth, value]
  cases constant t <;> rfl

end Ndt.Guest
