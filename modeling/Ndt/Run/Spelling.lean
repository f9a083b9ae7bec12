/-
**All spellings of one invocation.**

The test and the iteration count are each given by an operand or by an option, and follow flags may stand
anywhere (`Spelling`). The argument loop collects options and operands apart, so the flags do not matter for
the rest (`parseArgs_flags`). An operand has its meaning by its index among the operands: where `--test=`
gives the test, a count that is given as an operand stands at the first index, which nobody looks at, and the
count is `1` (`same_meaning_iff`).
-/

import Ndt.Host.Args

namespace Ndt.Run

open Shell Host

/-! ### One argument -/

/-- `-f` and `--follow` -/
def isFollow (arg : Text) : Bool := arg = "-f".toList ∨ arg = "--follow".toList

/-- The options with another `follow`. -/
def withFollow (follow : Bool) (options : Options) : Options := { options with follow := follow }

theorem arg_follow {arg : Text} (flag : isFollow arg = true) (options : Options) :
    options.arg arg = .ok (withFollow true options) := by
  rw [isFollow, decide_eq_true_iff] at flag
  rcases flag with rfl | rfl <;> rfl

/-- An argument that is no follow flag leaves `follow` as it is, and does not look at it. -/
theorem arg_withFollow {arg : Text} (other : isFollow arg = false) (follow : Bool) (options : Options) :
    (withFollow follow options).arg arg = (options.arg arg).map (withFollow follow) := by
  rw [isFollow, decide_eq_false_iff_not] at other
  unfold Options.arg
  rw [if_neg other, if_neg other]
  repeat' split
  all_goals rfl

theorem foldlM_withFollow {args : List Text} (others : ∀ arg ∈ args, isFollow arg = false) (follow : Bool)
    (options : Options) :
    args.foldlM Options.arg (withFollow follow options) =
      (args.foldlM Options.arg options).map (withFollow follow) := by
  induction args generalizing options with
  | nil => rfl
  | cons arg args ih =>
    rw [List.foldlM_cons, List.foldlM_cons, arg_withFollow (others arg List.mem_cons_self)]
    cases options.arg arg with
    | error exit => rfl
    | ok next => exact ih (fun other member => others other (List.mem_cons_of_mem _ member)) next

/-- **Flags anywhere**: the argument loop is the loop without the follow flags, then the flags. -/
theorem foldlM_flags (args : List Text) (options : Options) :
    args.foldlM Options.arg options =
      ((args.filter fun arg => !isFollow arg).foldlM Options.arg options).map fun last =>
        withFollow (last.follow || args.any isFollow) last := by
  have others : ∀ (args : List Text), ∀ arg ∈ args.filter (fun arg => !isFollow arg), isFollow arg = false :=
    fun args arg member => by simpa using (List.mem_filter.mp member).2
  induction args generalizing options with
  | nil =>
    show Except.ok options = Except.ok (withFollow (options.follow || false) options)
    rw [Bool.or_false]
    rfl
  | cons arg args ih =>
    rw [List.foldlM_cons, List.any_cons]
    cases flag : isFollow arg with
    | true =>
      have passed : (arg :: args).filter (fun arg => !isFollow arg) = args.filter fun arg => !isFollow arg :=
        List.filter_cons_of_neg (by simp [flag])
      have step : (options.arg arg >>= fun next => args.foldlM Options.arg next) =
          args.foldlM Options.arg (withFollow true options) := by
        rw [arg_follow flag]
        rfl
      rw [step, ih, foldlM_withFollow (others args), passed]
      cases (args.filter fun arg => !isFollow arg).foldlM Options.arg options with
      | error exit => rfl
      | ok last =>
        show Except.ok (withFollow (true || args.any isFollow) (withFollow true last)) =
          Except.ok (withFollow (last.follow || (true || args.any isFollow)) last)
        rw [Bool.true_or, Bool.or_true]
        rfl
    | false =>
      have kept : (arg :: args).filter (fun arg => !isFollow arg) =
          arg :: args.filter fun arg => !isFollow arg :=
        List.filter_cons_of_pos (by simp [flag])
      rw [kept, List.foldlM_cons, Bool.false_or]
      cases options.arg arg with
      | error exit => rfl
      | ok next => exact ih next

theorem parseArgs_flags (args : List Text) :
    parseArgs args =
      (parseArgs (args.filter fun arg => !isFollow arg)).map fun last =>
        withFollow (last.follow || args.any isFollow) last :=
  foldlM_flags args .initial

/-! ### Operands and the two options -/

theorem arg_operand {t : Text} (noDash : startsWith "-".toList t = false) (options : Options) :
    options.arg t = .ok { options with positional := options.positional ++ [t] } := by
  have other : ∀ word : Text, startsWith "-".toList word = true → t ≠ word := by
    rintro word dash rfl
    rw [noDash] at dash
    cases dash
  have unprefixed : ∀ word : Text, startsWith "-".toList word = true → startsWith word t = false := by
    intro word dash
    rw [Bool.eq_false_iff]
    intro starts
    rw [startsWith_mono (startsWith_iff.mp starts) dash] at noDash
    cases noDash
  unfold Options.arg
  rw [if_neg (not_or.mpr ⟨other _ rfl, other _ rfl⟩), if_neg (other _ rfl),
    if_neg (not_or.mpr ⟨other _ rfl, other _ rfl⟩), if_neg (not_or.mpr ⟨other _ rfl, other _ rfl⟩),
    if_neg (by rw [unprefixed _ rfl]; exact Bool.false_ne_true),
    if_neg (by rw [unprefixed _ rfl]; exact Bool.false_ne_true),
    if_neg (not_or.mpr ⟨other _ rfl, other _ rfl⟩), if_neg (by rw [noDash]; exact Bool.false_ne_true)]

theorem arg_testOption (t : Text) (options : Options) :
    options.arg ("--test=".toList ++ t) = .ok { options with testNum := t } := by
  unfold Options.arg
  rw [if_neg (by simp), if_neg (by simp), if_neg (by simp), if_neg (by simp),
    if_pos (startsWith_append _ _), trimPrefix_append]

theorem arg_iterationOption (t : Text) (options : Options) :
    options.arg ("--iteration=".toList ++ t) = .ok { options with iters := t } := by
  unfold Options.arg
  rw [if_neg (by simp), if_neg (by simp), if_neg (by simp), if_neg (by simp), if_neg ?_,
    if_pos (startsWith_append _ _), trimPrefix_append]
  simp [startsWith]

/-! ### Spellings -/

/-- How a value is given. -/
inductive Source
  | operand | option
  deriving DecidableEq, Repr

/-- The argument that gives the test. -/
def Source.test : Source → Text → Text
  | .operand, t => t
  | .option, t => "--test=".toList ++ t

/-- The argument that gives the iteration count. -/
def Source.count : Source → Text → Text
  | .operand, t => t
  | .option, t => "--iteration=".toList ++ t

/-- The options once the test has been given. -/
def Source.giveTest (source : Source) (t : Text) (options : Options) : Options :=
  match source with
  | .operand => { options with positional := options.positional ++ [t] }
  | .option => { options with testNum := t }

/-- The options once the count has been given. -/
def Source.giveCount (source : Source) (t : Text) (options : Options) : Options :=
  match source with
  | .operand => { options with positional := options.positional ++ [t] }
  | .option => { options with iters := t }

theorem Source.arg_test (source : Source) {t : Text} (noDash : startsWith "-".toList t = false)
    (options : Options) : options.arg (source.test t) = .ok (source.giveTest t options) := by
  cases source with
  | operand => exact arg_operand noDash options
  | option => exact arg_testOption t options

theorem Source.arg_count (source : Source) {t : Text} (noDash : startsWith "-".toList t = false)
    (options : Options) : options.arg (source.count t) = .ok (source.giveCount t options) := by
  cases source with
  | operand => exact arg_operand noDash options
  | option => exact arg_iterationOption t options

/-- **A spelling** of a test and a count: one argument for each, follow flags anywhere, and the test first if
both are operands. -/
structure Spelling (test count : Text) where
  testSource : Source
  countSource : Source
  args : List Text
  order : args.filter (fun arg => !isFollow arg) = [testSource.test test, countSource.count count] ∨
    args.filter (fun arg => !isFollow arg) = [countSource.count count, testSource.test test] ∧
      ¬ (testSource = .operand ∧ countSource = .operand)

theorem isFollow_of_noDash {t : Text} (noDash : startsWith "-".toList t = false) : isFollow t = false := by
  rw [Bool.eq_false_iff]
  intro flag
  rw [isFollow, decide_eq_true_iff] at flag
  rcases flag with rfl | rfl <;> exact absurd noDash (by decide)

/-- The spelling by two operands alone. -/
def Spelling.operands {test count : Text} (testNoDash : startsWith "-".toList test = false)
    (countNoDash : startsWith "-".toList count = false) : Spelling test count where
  testSource := .operand
  countSource := .operand
  args := [test, count]
  order := by
    refine .inl (List.filter_eq_self.mpr ?_)
    intro arg member
    rw [Bool.not_eq_true']
    rcases List.mem_pair.mp member with rfl | rfl
    · exact isFollow_of_noDash testNoDash
    · exact isFollow_of_noDash countNoDash

/-- The arguments mean this test, this count, and `follow` if a flag asks for it. -/
def Means (args : List Text) (test count : Text) : Prop :=
  ∃ options, parseArgs args = .ok options ∧ options.selector = trimPrefix "nvme/".toList test ∧
    options.count = count ∧ options.follow = args.any isFollow ∧ options.kunitMode = false ∧
    options.showLast = false

/-- What the loop collects from a spelling. -/
def Spelling.options {test count : Text} (spelling : Spelling test count) : Options where
  testNum := if spelling.testSource = .option then test else []
  iters := if spelling.countSource = .option then count else []
  kunitMode := false
  follow := spelling.args.any isFollow
  showLast := false
  positional :=
    (if spelling.testSource = .operand then [test] else []) ++
      if spelling.countSource = .operand then [count] else []

theorem parseArgs_pair {first second : Text} {next last : Options}
    (one : Options.initial.arg first = .ok next) (other : next.arg second = .ok last) :
    parseArgs [first, second] = .ok last := by
  show (Options.initial.arg first >>= fun next => next.arg second >>= fun last => pure last) = _
  rw [one]
  show (next.arg second >>= fun last => pure last) = _
  rw [other]
  rfl

/-- **What the loop collects** from a spelling. -/
theorem Spelling.parseArgs_eq {test count : Text} (spelling : Spelling test count)
    (testNoDash : startsWith "-".toList test = false) (countNoDash : startsWith "-".toList count = false) :
    parseArgs spelling.args = .ok spelling.options := by
  have collected : parseArgs (spelling.args.filter fun arg => !isFollow arg) =
      .ok (withFollow false spelling.options) := by
    rcases spelling.order with order | ⟨order, mixed⟩
    · rw [order, parseArgs_pair (spelling.testSource.arg_test testNoDash _)
        (spelling.countSource.arg_count countNoDash _), Spelling.options]
      cases spelling.testSource <;> cases spelling.countSource <;> rfl
    · rw [order, parseArgs_pair (spelling.countSource.arg_count countNoDash _)
        (spelling.testSource.arg_test testNoDash _), Spelling.options]
      -- two operands come in the other order only
      cases testGiven : spelling.testSource <;> cases countGiven : spelling.countSource
      · exact absurd ⟨testGiven, countGiven⟩ mixed
      all_goals rfl
  rw [parseArgs_flags, collected]
  rfl

theorem Spelling.selector_eq {test count : Text} (spelling : Spelling test count) (nonempty : test ≠ []) :
    spelling.options.selector = trimPrefix "nvme/".toList test := by
  unfold Options.selector Spelling.options
  cases spelling.testSource with
  | operand => simp
  | option => simp [nonempty]

/-- **The count of a spelling**: a count that is given as an operand after `--test=` is dropped. -/
theorem Spelling.count_eq {test count : Text} (spelling : Spelling test count) :
    spelling.options.count =
      if count = [] ∨ spelling.testSource = .option ∧ spelling.countSource = .operand then "1".toList
      else count := by
  unfold Options.count Spelling.options
  cases spelling.testSource with
  | operand => cases spelling.countSource <;> by_cases empty : count = [] <;> simp [empty]
  | option => cases spelling.countSource <;> by_cases empty : count = [] <;> simp [empty]

/-- **All spellings mean the same**, except that a count of the form of an operand is dropped where the test is
given by `--test=`, which shows unless the count is `1`; and there is no empty count. -/
theorem same_meaning_iff {test count : Text} (nonempty : test ≠ [])
    (testNoDash : startsWith "-".toList test = false) (countNoDash : startsWith "-".toList count = false)
    (spelling : Spelling test count) :
    Means spelling.args test count ↔
      count ≠ [] ∧ (spelling.testSource = .option ∧ spelling.countSource = .operand → count = "1".toList) := by
  have parsed := spelling.parseArgs_eq testNoDash countNoDash
  have means : Means spelling.args test count ↔ spelling.options.count = count := by
    constructor
    · rintro ⟨options, parsed', _, same, _⟩
      rw [parsed] at parsed'
      rw [Except.ok.inj parsed', same]
    · intro same
      exact ⟨_, parsed, spelling.selector_eq nonempty, same, rfl, rfl, rfl⟩
  rw [means, spelling.count_eq]
  by_cases empty : count = []
  · rw [if_pos (Or.inl empty)]
    refine iff_of_false ?_ fun both => both.1 empty
    rw [empty]
    decide
  · by_cases dropped : spelling.testSource = .option ∧ spelling.countSource = .operand
    · rw [if_pos (Or.inr dropped)]
      exact ⟨fun one => ⟨empty, fun _ => one.symm⟩, fun both => (both.2 dropped).symm⟩
    · rw [if_neg (not_or.mpr ⟨empty, dropped⟩)]
      exact iff_of_true rfl ⟨empty, fun given => absurd given dropped⟩

theorem same_meaning_mixed :
    Means ["-f".toList, "10".toList, "--follow".toList, "--iteration=2".toList] "10".toList "2".toList := by
  let spelling : Spelling "10".toList "2".toList :=
    ⟨.operand, .option, ["-f".toList, "10".toList, "--follow".toList, "--iteration=2".toList],
      .inl (by decide)⟩
  exact (same_meaning_iff (by decide) (by decide) (by decide) spelling).mpr ⟨by decide, nofun⟩

/-- **A dropped count**: `--test=68 10` runs the test once. -/
theorem dropped_count :
    (parseArgs ["--test=68".toList, "10".toList]).map Options.count = .ok "1".toList ∧
      ¬ Means ["--test=68".toList, "10".toList] "68".toList "10".toList := by
  have once : (parseArgs ["--test=68".toList, "10".toList]).map Options.count = .ok "1".toList := by
    decide
  refine ⟨once, ?_⟩
  rintro ⟨options, parsed, _, count, _⟩
  rw [parsed] at once
  have same : options.count = "1".toList := Except.ok.inj once
  rw [count] at same
  exact absurd same (by decide)

end Ndt.Run
