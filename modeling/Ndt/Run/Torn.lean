/-
**No false PASS from a torn console.**

The console may show the guest's line cut off after any byte and split by kernel log lines at any byte
(`Torn`). What the host takes for the result line is then a first part of the guest's line, perhaps with
a first part of a kernel line behind it (`Torn.shown`). The parser takes a missing counter for `0` and
does not ask for the end of the line, so the counter of passes is all that protects the verdict:

* `pass_of_cut` — what is left of it is nothing, some of its first digits, or digits with a bracket behind
  them;
* `no_false_pass` — the first two are the number of iterations only if the counter is complete and all
  iterations have passed; the third is no expression.
-/

import Ndt.Run.Pass

namespace Ndt.Run

open Shell Host Guest

/-! ### The console -/

/-- **A complete kernel log line**: it starts with a bracket, and no word of it is a counter. -/
structure KernelLine where
  text : Text
  bracket : text.head? = some '['
  single : '\n' ∉ text
  quiet : ∀ word ∈ fields text, startsWith "pass=".toList word = false ∧
    startsWith "fail=".toList word = false ∧ startsWith "skip=".toList word = false

/-- **A console with a line in it that kernel lines split**: pieces of the line, each but the last with a
kernel line behind it. No other line starts with the marker. -/
structure Torn (line : Text) where
  before : List Text
  pieces : List (Text × KernelLine)
  last : Text
  after : List Text
  whole : pieces.flatMap Prod.fst ++ last = line
  single : ∀ row ∈ before ++ after, '\n' ∉ row
  others : ∀ row ∈ before ++ after, startsWith sentinelPrefix row = false

/-- The lines of the console. -/
def Torn.rows {line : Text} (torn : Torn line) : List Text :=
  torn.before ++ (torn.pieces.map fun piece => piece.1 ++ piece.2.text) ++ torn.last :: torn.after

/-- The first `n` bytes of the console. -/
def Torn.content {line : Text} (torn : Torn line) (n : ℕ) : Text := (unlines torn.rows).take n

/-- What may stand behind a part of the guest's line: nothing, or a first part of a kernel line. -/
structure Tail (tail : Text) : Prop where
  bracket : tail = [] ∨ ∃ rest, tail = '[' :: rest
  quiet : ∀ word ∈ fields tail, startsWith "pass=".toList word = false

theorem Tail.nil : Tail [] := ⟨Or.inl rfl, by simp⟩

theorem KernelLine.tail (kernel : KernelLine) (n : ℕ) : Tail (kernel.text.take n) := by
  constructor
  · cases shape : kernel.text with
    | nil => exact Or.inl List.take_nil
    | cons c rest =>
      have bracket := kernel.bracket
      rw [shape] at bracket
      obtain rfl := Option.some.inj bracket
      cases n with
      | zero => exact Or.inl rfl
      | succ n => exact Or.inr ⟨rest.take n, rfl⟩
  · intro word member
    obtain ⟨all, inside, cut⟩ := exists_field_of_prefix (List.take_prefix _ _) member
    rw [Bool.eq_false_iff]
    intro pass
    have whole := startsWith_mono cut pass
    rw [(kernel.quiet all inside).1] at whole
    cases whole

/-! ### Where the marker stands -/

/-- **The marker stands at the front of the guest's line only**: it is the one place with an `N`. -/
theorem marker_once {body front back : Text} (clean : 'N' ∉ body)
    (same : front ++ back = sentinelPrefix ++ body) (starts : sentinelPrefix <+: back) :
    front = [] := by
  obtain ⟨rest, rfl⟩ := starts
  have inside : 'N' ∈ sentinelPrefix := by decide
  have none : 'N' ∉ front := by
    have once := congrArg (List.count 'N') same
    have one : sentinelPrefix.count 'N' = 1 := by decide
    rw [List.count_append, List.count_append, List.count_append, List.count_eq_zero_of_not_mem clean,
      one] at once
    rw [← List.count_eq_zero]
    omega
  have place := congrArg (List.idxOf 'N') same
  rw [List.idxOf_append_of_notMem none, List.idxOf_append_of_mem inside,
    List.idxOf_append_of_mem inside] at place
  exact List.length_eq_zero_iff.mp (by omega)

/-- A line of the console is another line, or a piece of the guest's line with nothing or a kernel line
behind it. -/
theorem Torn.row_cases {line : Text} (torn : Torn line) {row : Text} (member : row ∈ torn.rows) :
    row ∈ torn.before ++ torn.after ∨
      ∃ front piece back behind, front ++ (piece ++ back) = line ∧ row = piece ++ behind ∧
        '\n' ∉ behind ∧ (behind = [] ∨ ∃ kernel : KernelLine, behind = kernel.text) := by
  rw [Torn.rows, List.mem_append, List.mem_append, List.mem_map] at member
  rcases member with (early | ⟨⟨piece, kernel⟩, inside, rfl⟩) | late
  · exact Or.inl (List.mem_append_left _ early)
  · obtain ⟨xs, ys, pieces⟩ := List.append_of_mem inside
    refine Or.inr ⟨xs.flatMap Prod.fst, piece, ys.flatMap Prod.fst ++ torn.last, kernel.text, ?_, rfl,
      kernel.single, Or.inr ⟨kernel, rfl⟩⟩
    have whole := torn.whole
    rw [pieces, List.flatMap_append, List.flatMap_cons] at whole
    simpa only [List.append_assoc] using whole
  · rcases List.mem_cons.mp late with rfl | later
    · exact Or.inr ⟨torn.pieces.flatMap Prod.fst, torn.last, [], [], by rw [List.append_nil, torn.whole],
        (List.append_nil _).symm, List.not_mem_nil, Or.inl rfl⟩
    · exact Or.inl (List.mem_append_right _ later)

theorem Torn.rows_single {line : Text} (newline : '\n' ∉ line) (torn : Torn line) :
    ∀ row ∈ torn.rows, '\n' ∉ row := by
  intro row member
  rcases torn.row_cases member with other | ⟨front, piece, back, behind, whole, rfl, single, _⟩
  · exact torn.single row other
  · rw [← whole] at newline
    simp only [List.mem_append, not_or] at newline ⊢
    exact ⟨newline.2.1, single⟩

/-- **What the host takes for the result line**: a first part of the guest's line, with at most a first
part of a kernel line behind it. -/
theorem Torn.shown {body : Text} (clean : 'N' ∉ body) (newline : '\n' ∉ body)
    (torn : Torn (sentinelPrefix ++ body)) {n : ℕ} {shown : Text}
    (found : grepFirst sentinelPrefix (torn.content n) = some shown) :
    ∃ i tail, shown = sentinelPrefix ++ (body.take i ++ tail) ∧ Tail tail := by
  have single : '\n' ∉ sentinelPrefix ++ body := by
    rw [List.mem_append, not_or]
    exact ⟨by decide, newline⟩
  have rows : lines (unlines torn.rows) = torn.rows := by
    have split := lines_unlines torn.rows (torn.rows_single single) []
    rwa [List.append_nil, lines_nil, List.append_nil] at split
  have visible := grepFirst_starts found
  obtain ⟨row, member, starts, m, rfl⟩ := exists_line_of_grepFirst_take (by decide) found
  rw [rows] at member
  rcases torn.row_cases member with other | ⟨front, piece, back, behind, whole, rfl, _, kernel⟩
  · rw [torn.others row other] at starts
    cases starts
  -- the marker stands in the piece, and the piece at the front of the guest's line
  have inPiece : sentinelPrefix <+: piece := by
    rw [startsWith_iff] at starts
    rcases kernel with rfl | ⟨kernel, rfl⟩
    · rwa [List.append_nil] at starts
    · obtain ⟨rest, shape⟩ := List.head?_eq_some_iff.mp kernel.bracket
      rw [shape] at starts
      exact prefix_of_stop (by decide) starts
  have first : front = [] := marker_once clean whole (inPiece.trans (List.prefix_append _ _))
  obtain ⟨part, rfl⟩ := inPiece
  rw [first, List.nil_append, List.append_assoc] at whole
  have body_eq : part ++ back = body := List.append_cancel_left whole
  obtain ⟨more, rfl⟩ : ∃ more, m = sentinelPrefix.length + more := by
    have long := (startsWith_iff.mp visible).length_le
    rw [List.length_take] at long
    exact ⟨m - sentinelPrefix.length, by omega⟩
  refine ⟨min more part.length, behind.take (more - part.length), ?_, ?_⟩
  · rw [List.append_assoc, List.take_length_add_append, List.take_append, ← body_eq,
      List.take_append_of_le_length (Nat.min_le_right _ _), List.take_eq_take_min]
  · rcases kernel with rfl | ⟨kernel, rfl⟩
    · rw [List.take_nil]
      exact Tail.nil
    · exact kernel.tail _

/-! ### What is left of the counter of passes -/

/-- No word is a counter of passes. -/
def Quiet (t : Text) : Prop := ∀ word ∈ fields t, startsWith "pass=".toList word = false

/-- A first part of a quiet text with a tail behind it is quiet. -/
theorem Quiet.take_append {t tail : Text} (quiet : Quiet t) (isTail : Tail tail) (n : ℕ) :
    Quiet (t.take n ++ tail) := by
  have cut : Quiet (t.take n) := by
    intro word member
    obtain ⟨all, inside, isCut⟩ := exists_field_of_prefix (List.take_prefix _ _) member
    rw [Bool.eq_false_iff]
    intro pass
    have whole := startsWith_mono isCut pass
    rw [quiet all inside] at whole
    cases whole
  intro word member
  rcases fields_append (t.take n) tail with apart | ⟨before, last, first, after, split, split', starts,
    glued⟩
  · rw [apart] at member
    rcases List.mem_append.mp member with early | late
    · exact cut word early
    · exact isTail.quiet word late
  · rw [glued] at member
    rcases List.mem_append.mp member with early | late
    · exact cut word (by rw [split]; exact List.mem_append_left _ early)
    rcases List.mem_cons.mp late with rfl | later
    · rw [Bool.eq_false_iff]
      intro pass
      have inLast : startsWith "pass=".toList last = true := by
        rw [startsWith_iff] at pass ⊢
        cases first with
        | nil => rwa [List.append_nil] at pass
        | cons c first =>
          rcases isTail.bracket with rfl | ⟨rest, rfl⟩
          · exact absurd starts (by simp)
          · obtain ⟨rfl, _⟩ := List.cons_prefix_cons.mp starts
            exact prefix_of_stop (by decide) pass
      rw [cut last (by rw [split]; simp)] at inLast
      cases inLast
    · exact isTail.quiet word (by rw [split']; exact List.mem_cons_of_mem _ later)

/-- **What can be left of a counter**: nothing, some first digits, or some first digits with a bracket
behind them. -/
inductive Remains (count : Text) : Text → Prop
  | absent : Remains count "0".toList
  | cut (m : ℕ) : Remains count (count.take m)
  | glued (m : ℕ) (rest : Text) : Remains count (count.take m ++ '[' :: rest)

/-- **The counter of passes of a torn line.** -/
theorem pass_of_cut {count later tail : Text} (solid : Solid count) (quiet : Quiet later)
    (isTail : Tail tail) (i : ℕ) :
    Remains count (countersOf (("pass=".toList ++ (count ++ ' ' :: later)).take i ++ tail)).pass := by
  rcases Nat.lt_or_ge i 5 with short | long
  · -- the cut is inside `pass=`
    have front : ("pass=".toList ++ (count ++ ' ' :: later)).take i = ("pass=".toList).take i :=
      List.take_append_of_le_length (Nat.le_of_lt short)
    have noPass : Quiet (("pass=".toList).take i) := by
      intro word member
      interval_cases i <;> revert word <;> decide
    have absent := noPass.take_append isTail i
    rw [List.take_take, Nat.min_self] at absent
    rw [front, countersOf, lastValue_of_none absent]
    exact Remains.absent
  obtain ⟨j, rfl⟩ : ∃ j, i = "pass=".toList.length + j := ⟨i - 5, (Nat.add_sub_cancel' long).symm⟩
  rw [List.take_length_add_append]
  rcases Nat.lt_or_ge count.length j with beyond | inside
  · -- the counter is complete
    obtain ⟨more, rfl⟩ : ∃ more, j = count.length + (more + 1) := ⟨j - count.length - 1, by omega⟩
    have words : fields ("pass=".toList ++ (count ++ ' ' :: later).take (count.length + (more + 1)) ++
        tail) = ("pass=".toList ++ count) :: fields (later.take more ++ tail) := by
      rw [List.take_length_add_append, List.take_succ_cons, List.append_assoc, List.append_assoc,
        List.cons_append, ← List.append_assoc]
      exact fields_word_blank (Solid.append (by decide) solid) (by simp) rfl _
    have pass : (countersOf ("pass=".toList ++ (count ++ ' ' :: later).take
        (count.length + (more + 1)) ++ tail)).pass = count := by
      rw [countersOf, words]
      exact lastValue_cons count (quiet.take_append isTail more)
    rw [pass]
    have whole : Remains count (count.take count.length) := Remains.cut count.length
    rwa [List.take_length] at whole
  · -- the cut is inside the counter
    have front : (count ++ ' ' :: later).take j = count.take j := List.take_append_of_le_length inside
    have solid' : Solid ("pass=".toList ++ count.take j) :=
      Solid.append (by decide) fun c member => solid c (List.mem_of_mem_take member)
    have words := fields_glued solid' (by simp) tail
    have quietTail : ∀ word ∈ fields (tail.dropWhile (!isBlank ·)),
        startsWith "pass=".toList word = false := by
      intro word member
      rcases isTail.bracket with rfl | ⟨rest, rfl⟩
      · cases member
      · refine isTail.quiet word ?_
        rw [fields_span (by simp [isBlank])]
        exact List.mem_cons_of_mem _ member
    have pass : (countersOf ("pass=".toList ++ count.take j ++ tail)).pass =
        count.take j ++ tail.takeWhile (!isBlank ·) := by
      rw [countersOf, words, List.append_assoc]
      exact lastValue_cons _ quietTail
    rw [front, pass]
    rcases isTail.bracket with rfl | ⟨rest, rfl⟩
    · rw [List.takeWhile_nil, List.append_nil]
      exact Remains.cut j
    · rw [List.takeWhile_cons_of_pos rfl]
      exact Remains.glued j _

/-! ### The verdict -/

/-- A first part of a printed number is no greater, and no leading zero comes in. -/
theorem constant_take_decimal (p m : ℕ) :
    ∃ q ≤ p, constant ((decimal p).take m) = some (wrap q) := by
  have digits : Digits ((decimal p).take m) :=
    fun c member => digits_decimal p c (List.mem_of_mem_take member)
  have split := decimalValue_append ((decimal p).take m) ((decimal p).drop m)
  rw [List.take_append_drop, decimalValue_decimal] at split
  have smaller : decimalValue ((decimal p).take m) ≤ p := by
    have positive : 1 ≤ 10 ^ ((decimal p).drop m).length := Nat.one_le_pow _ _ (by norm_num)
    have scaled := Nat.le_mul_of_pos_left (decimalValue ((decimal p).take m)) positive
    omega
  by_cases zero : ((decimal p).take m).head? = some '0'
  · refine ⟨0, Nat.zero_le p, ?_⟩
    cases m with
    | zero => rfl
    | succ m =>
      cases shape : decimal p with
      | nil => exact absurd shape (decimal_ne_nil p)
      | cons c rest =>
        rw [shape, List.take_succ_cons] at zero
        obtain rfl := Option.some.inj zero
        obtain ⟨_, rfl⟩ := decimal_of_head_zero shape
        rw [List.take_succ_cons, List.take_nil]
        rfl
  · exact ⟨_, smaller, constant_decimal digits zero⟩

/-- **What is left of the counter passes the comparison only if all iterations have passed.** -/
theorem compare_remains {host : Setting} {batch : Batch} {nn : Text}
    (subject : batch.subject = .blktest nn) {k p : ℕ} (iters : batch.iters = decimal k)
    (positive : 1 ≤ k) (small : k < 2 ^ 63) (most : p ≤ k) {counters : Counters}
    (remains : Remains (decimal p) counters.pass)
    (passes : host.compare batch counters = some .PASS) : p = k := by
  have itersDigits : Digits batch.iters := iters ▸ digits_decimal k
  -- digit strings for a number below `k` are refused
  have numeral : ∀ q ≤ p, Digits counters.pass → constant counters.pass = some (wrap q) → p = k := by
    intro q below digits value
    by_contra different
    have unequal : ∀ n, ¬ (constant counters.pass = some n ∧ constant batch.iters = some n) := by
      rintro n ⟨passValue, itersValue⟩
      rw [iters, constant_of_decimal, ← passValue, value, Option.some_inj,
        wrap_inj small (by omega)] at itersValue
      omega
    rw [compare_of_unequal subject digits itersDigits unequal] at passes
    cases passes
  obtain ⟨pass, fail, skip⟩ := counters
  cases remains with
  | absent => exact numeral 0 (Nat.zero_le p) (show Digits "0".toList by decide) rfl
  | cut m =>
    obtain ⟨q, below, value⟩ := constant_take_decimal p m
    exact numeral q below (fun c member => digits_decimal p c (List.mem_of_mem_take member)) value
  | glued m rest =>
    have malformed : parse ((decimal p).take m ++ '[' :: rest) = none :=
      parse_digits_bracket (fun c member => digits_decimal p c (List.mem_of_mem_take member)) rest
    rw [compare_of_malformed subject malformed] at passes
    cases passes

/-- **The counters of a finished run of `k` iterations**: numbers below `2 ^ 63`. A count of `2 ^ 63 - 1`
or more is no run of so many iterations: the loop never ends, or the value of the text is another one. -/
theorem tally_of_run {ndtBlktest : Text} {attempts : ℕ → Attempt} {machine : Machine} {k fuel : ℕ}
    {final : LoopState} (positive : 1 ≤ k)
    (run : runLoop (decimal k) ndtBlktest attempts fuel (loopStart machine) = some final)
    (total : final.tally.pass + final.tally.fail + final.tally.skip = k) :
    k < 2 ^ 63 ∧ ∃ flags : List Flag, flags.length = k ∧ final.tally = tallyOf flags := by
  have value : textValue (decimal k) = some (wrap k) := by
    rw [textValue_digits (digits_decimal k), constant_of_decimal]
  have range := wrap_range k
  have notGreatest : wrap k ≠ intMax := by
    intro greatest
    rw [greatest] at value
    rw [runLoop_endless value fuel (show InRange 1 by decide)] at run
    cases run
  rcases Int.lt_or_le (wrap k) 1 with below | above
  · -- the loop ends before its first iteration
    have stop : loopGuard (decimal k) (loopStart machine) = false := by
      rw [loopGuard_of_value value]
      exact decide_eq_false (not_le.mpr below)
    cases fuel with
    | zero => cases run
    | succ fuel =>
      rw [runLoop, stop] at run
      obtain rfl := Option.some.inj run
      have zero : (0 : ℤ) = k := total
      omega
  · obtain ⟨bound, same⟩ := Int.eq_ofNat_of_zero_le (le_trans zero_le_one above)
    rw [same] at value notGreatest range
    have room : bound < 2 ^ 63 - 1 := by
      have upper := range.2
      unfold intMax at upper notGreatest
      omega
    obtain ⟨other, run', reached⟩ : ∃ other, runLoop (decimal k) ndtBlktest attempts (bound + 1)
        (loopStart machine) = some other ∧ Reached machine.results attempts bound other :=
      runLoop_finishes machine value room (Nat.lt_succ_self bound)
    obtain rfl := runLoop_unique run run'
    have sum := tallyOf_sum (flagsOf machine.results attempts bound)
    rw [← reached.tally, total, flagsOf_length] at sum
    obtain rfl : k = bound := by exact_mod_cast sum
    exact ⟨by omega, _, flagsOf_length _ _ _, reached.tally⟩

/-- The guest's line after the marker: the counter of passes, then words that are none. It holds no `N`
and no newline. -/
theorem resultLine_body (flags : List Flag) (k : ℕ) {nn : Text} (digits : Digits nn) (cr : Bool) :
    ∃ later, resultLine (tallyOf flags) (decimal k) ("nvme/".toList ++ nn) ++ carriage cr =
        sentinelPrefix ++ ("pass=".toList ++ (decimal (flags.count .pass) ++ ' ' :: later)) ∧
      Quiet later ∧ 'N' ∉ "pass=".toList ++ (decimal (flags.count .pass) ++ ' ' :: later) ∧
      '\n' ∉ "pass=".toList ++ (decimal (flags.count .pass) ++ ' ' :: later) := by
  have notDecimal : ∀ n, 'N' ∉ decimal n ∧ '\n' ∉ decimal n := fun n =>
    ⟨(Digits.signed (digits_decimal n)).not_mem rfl (by decide),
      (Digits.signed (digits_decimal n)).not_mem rfl (by decide)⟩
  have notTest : 'N' ∉ nn ∧ '\n' ∉ nn :=
    ⟨(Digits.signed digits).not_mem rfl (by decide), (Digits.signed digits).not_mem rfl (by decide)⟩
  have notCarriage : 'N' ∉ carriage cr ∧ '\n' ∉ carriage cr := by
    cases cr <;> decide
  refine ⟨laterWords (tallyOf flags) (decimal k) ("nvme/".toList ++ nn) ++ carriage cr, ?_, ?_, ?_, ?_⟩
  · rw [resultLine_eq]
    simp only [List.append_assoc, List.cons_append, tallyOf, showInt_natCast]
  · exact laterWords_pass _ (digits_decimal k).solid (Solid.append (by decide) digits.solid) cr
  · simp [laterWords, tallyOf, sentinelSuffix, notDecimal, notTest, notCarriage]
  · simp [laterWords, tallyOf, sentinelSuffix, notDecimal, notTest, notCarriage]

/-- What a pass says of a torn console. -/
theorem Torn.passes {host : Setting} (alone : ∀ word, host.names.expand word = [word]) {batch : Batch}
    {cause line count later : Text}
    (shape : line = sentinelPrefix ++ ("pass=".toList ++ (count ++ ' ' :: later)))
    (clean : 'N' ∉ "pass=".toList ++ (count ++ ' ' :: later))
    (newline : '\n' ∉ "pass=".toList ++ (count ++ ' ' :: later)) (solid : Solid count)
    (quiet : Quiet later) (torn : Torn line) {n : ℕ}
    (passes : (host.finish batch cause (grepSentinel (torn.content n))).Passes) :
    ∃ counters : Counters, Remains count counters.pass ∧ host.compare batch counters = some .PASS := by
  subst shape
  obtain ⟨nonempty, counters, parsed, compared⟩ := finish_passes passes
  refine ⟨counters, ?_, compared⟩
  cases found : grepFirst sentinelPrefix (torn.content n) with
  | none =>
    rw [grepSentinel, found] at nonempty
    exact absurd rfl nonempty
  | some shown =>
    obtain ⟨i, tail, rfl, isTail⟩ := torn.shown clean newline found
    rw [grepSentinel, found, Option.getD_some, parseSentinel_frame fun word _ => alone word] at parsed
    split at parsed
    · cases parsed
    · obtain rfl := Parsed.counters.inj parsed
      exact pass_of_cut solid quiet isTail i

/-- **No false PASS from a torn console.** For every finished run of `K` iterations, whatever part of its
line the console shows, and wherever kernel lines split it, the host reports PASS only if all `K`
iterations have passed. -/
theorem no_false_pass {host : Setting} (alone : ∀ word, host.names.expand word = [word]) {nn : Text}
    (numeral : isNumeral nn = true) {k : ℕ} (positive : 1 ≤ k) {machine : Machine}
    {attempts : ℕ → Attempt} {fuel : ℕ} {final : LoopState}
    (run : runLoop (decimal k) ("nvme/".toList ++ nn) attempts fuel (loopStart machine) = some final)
    (total : final.tally.pass + final.tally.fail + final.tally.skip = k) {cr : Bool}
    (torn : Torn (resultLine final.tally (decimal k) ("nvme/".toList ++ nn) ++ carriage cr)) {n : ℕ}
    {follow : Bool} {cause : Text}
    (passes : (host.finish (testBatch nn k follow) cause (grepSentinel (torn.content n))).Passes) :
    final.tally.pass = k ∧ final.tally.fail = 0 ∧ final.tally.skip = 0 := by
  have digits : Digits nn := .of_isNumeral numeral
  obtain ⟨small, flags, count, tally⟩ := tally_of_run positive run total
  obtain ⟨later, shape, quiet, clean, newline⟩ := resultLine_body flags k digits cr
  rw [← tally] at shape
  obtain ⟨counters, remains, compared⟩ :=
    torn.passes alone shape clean newline (digits_decimal _).solid quiet passes
  have sum := count_flags flags
  have complete : flags.count .pass = k :=
    compare_remains rfl rfl positive small (by omega) remains compared
  rw [tally]
  simp only [tallyOf]
  omega

/-- A kernel line splits the line behind its counters, and the console ends inside the rest of it: the host
passes, and all is well. -/
theorem no_false_pass_one_iteration :
    ∃ final : LoopState,
      runLoop (decimal 1) ("nvme/".toList ++ "068".toList) (fun _ => passingAttempt) 2
        (loopStart readyMachine) = some final ∧
      final.tally.pass = (1 : ℕ) ∧ final.tally.fail = 0 ∧ final.tally.skip = 0 := by
  have value : textValue (decimal 1) = some ((1 : ℕ) : ℤ) := by
    rw [textValue_digits (digits_decimal 1)]
    rfl
  obtain ⟨final, run, reached⟩ : ∃ final, runLoop (decimal 1) ("nvme/".toList ++ "068".toList)
      (fun _ => passingAttempt) 2 (loopStart readyMachine) = some final ∧
      Reached [] (fun _ => passingAttempt) 1 final :=
    runLoop_finishes readyMachine value (by decide) (by decide)
  obtain ⟨i, tally, results, console, checks⟩ := final
  obtain rfl : tally = ⟨(1 : ℕ), (0 : ℕ), (0 : ℕ)⟩ := reached.tally.trans (by decide)
  let line : Text := resultLine ⟨(1 : ℕ), (0 : ℕ), (0 : ℕ)⟩ (decimal 1) ("nvme/".toList ++ "068".toList) ++
    carriage true
  let kernel : KernelLine := ⟨"[    9.81] reboot: Power down".toList, rfl, by decide, by decide⟩
  let torn : Torn line := ⟨["init: blktests".toList], [("=== NDT_RESULT pass=1 fail=0 skip=0 it".toList, kernel)],
    "er=1 test=nvme/068 ===\r".toList, [], by decide, by decide, by decide⟩
  have visible : grepSentinel (torn.content 90) =
      sentinelPrefix ++ "pass=1 fail=0 skip=0 it[    9.81] reboot: Power down".toList := by decide
  have parsed : parseSentinel plainHost.names (sentinelPrefix ++
      "pass=1 fail=0 skip=0 it[    9.81] reboot: Power down".toList) =
      .counters ⟨decimal 1, decimal 0, decimal 0⟩ := by
    rw [parseSentinel_frame fun _ _ => rfl]
    decide
  have tame : plainHost.Tame (sentinelPrefix ++
      "pass=1 fail=0 skip=0 it[    9.81] reboot: Power down".toList) := by
    intro counters same
    obtain rfl := Parsed.counters.inj (parsed.symm.trans same)
    exact ⟨(digits_decimal 1).nameless, (digits_decimal 0).nameless, (digits_decimal 0).nameless⟩
  refine ⟨_, run, @no_false_pass plainHost (fun _ => rfl) "068".toList rfl 1 le_rfl readyMachine _ 2 _
    run rfl true torn 90 false "sentinel".toList ?_⟩
  rw [visible, finish_passes_iff _ tame (digits_decimal 1).nameless]
  exact ⟨by decide, _, parsed, (compare_decimals plainHost rfl rfl (by decide)).mpr ⟨rfl, rfl, rfl⟩⟩

end Ndt.Run
