/-
**The record of a test from one run to the next: `_write_test_run` and `_read_last_test_run`.**

* `writeTestRun`, `readLastTestRun` — a line for each key and value of `TEST_RUN`, and `read` with a tab as
  `IFS`, which takes tabs off both ends of a value. The keys that every run writes anew are passed over.
* `lastRun_iff` — what is read back is what was written, exactly when no other value has a newline or a tab
  at an end; `lastRun_stable` — so it is when the values have been read from a record before.
* `lastRun_stops_iff` — a value with a line of its own that is blank ends the subshell of the next run:
  the subscript is empty.
* `status_survives` — `init` reads the status of the run from the record, whatever else a test puts there;
  `exists_keys` — a record with values in one line each is one that the conditions of `./check` leave.
* `report_redraws` — the report of a run covers that of the last run line by line.

A shell variable holds no NUL byte. `sort` is in the collation of the `C` locale; `column`, which aligns what
it is given and drops lines without a character, is left out, and so is the line with the name of the test.
-/

import Mathlib.Data.List.AList
import Ndt.Guest.Check

namespace Ndt.Check

open Shell

/-! ### Records -/

/-- `declare -A`; the order of the entries is that of `"${!TEST_RUN[@]}"`. -/
abbrev Table := AList fun _ : Text => Text

/-- `[[ $key =~ ^description|date|status|reason|exit_status$ ]]`: only the first and the last alternative are
anchored. -/
def standard (key : Text) : Bool :=
  startsWith "description".toList key || decide ("date".toList <:+: key) ||
    decide ("status".toList <:+: key) || decide ("reason".toList <:+: key) ||
    decide ("exit_status".toList <:+ key)

/-- A text without the tabs at its ends. -/
def trimTabs (t : Text) : Text := (t.dropWhile (· = '\t')).rdropWhile (· = '\t')

/-- `IFS=$'\t' read -r key value`, on a line. -/
def readFields (row : Text) : Text × Text :=
  let front := row.dropWhile (· = '\t')
  (front.takeWhile (· ≠ '\t'), trimTabs (front.dropWhile (· ≠ '\t')))

/-- The lines for which `read` succeeds: what follows the last newline is not one of them. -/
def readLines (t : Text) : List Text := lines (t.rdropWhile (· ≠ '\n'))

/-- The loop of `_read_last_test_run`; `none`: an empty subscript, which ends the subshell. -/
def readLoop : List Text → Table → Option Table
  | [], table => some table
  | row :: rows, table =>
    let (key, value) := readFields row
    if standard key then readLoop rows table
    else if key = [] then none
    else readLoop rows (table.insert key value)

/-- `_read_last_test_run`, for the content of `$seqres`, if there is one. -/
def readLastTestRun : Option Text → Option Table
  | none => some ∅
  | some seqres => readLoop (readLines seqres) ∅

/-- `'%s\t%s'` -/
def recordRow (entry : (_ : Text) × Text) : Text := entry.1 ++ '\t' :: entry.2

/-- `_write_test_run` -/
def writeTestRun (table : Table) : Text := unlines (table.entries.map recordRow)

/-- **What `TEST_RUN` holds**: a subscript is not empty, and has no tab and no newline in any test. -/
def Subscripts (table : Table) : Prop :=
  ∀ entry ∈ table.entries, entry.1 ≠ [] ∧ '\t' ∉ entry.1 ∧ '\n' ∉ entry.1

instance (table : Table) : Decidable (Subscripts table) :=
  inferInstanceAs (Decidable (∀ entry ∈ table.entries, entry.1 ≠ [] ∧ '\t' ∉ entry.1 ∧ '\n' ∉ entry.1))

/-- A value that `read` gives back: in one line, with no tab at an end. -/
def Kept (value : Text) : Prop := '\n' ∉ value ∧ value.head? ≠ some '\t' ∧ value.getLast? ≠ some '\t'

/-! ### One line -/

/-- A row of a record has the key in front of its first tab. -/
theorem takeWhile_row {key : Text} (tabless : '\t' ∉ key) (rest : Text) :
    (key ++ '\t' :: rest).takeWhile (· ≠ '\t') = key := by
  have each : ∀ c ∈ key, decide (c ≠ '\t') = true := by
    intro c member
    refine decide_eq_true ?_
    rintro rfl
    exact tabless member
  rw [List.takeWhile_append_of_pos each]
  simp

/-- A row of a record is read as its key and its value, as far as that is kept. -/
theorem readFields_row {key : Text} (nonempty : key ≠ []) (tabless : '\t' ∉ key) (rest : Text) :
    readFields (key ++ '\t' :: rest) = (key, trimTabs rest) := by
  obtain ⟨c, others, rfl⟩ := List.exists_cons_of_ne_nil nonempty
  have first : c ≠ '\t' := fun same => tabless (same ▸ List.mem_cons_self)
  have each : ∀ d ∈ c :: others, decide (d ≠ '\t') = true :=
    fun d member => decide_eq_true fun same => tabless (same ▸ member)
  have front : ((c :: others) ++ '\t' :: rest).dropWhile (· = '\t') = (c :: others) ++ '\t' :: rest := by
    rw [List.cons_append, List.dropWhile_cons_of_neg (by simpa using first)]
  have left : ((c :: others) ++ '\t' :: rest).dropWhile (· ≠ '\t') = '\t' :: rest := by
    rw [List.dropWhile_append_of_pos each]
    simp
  rw [readFields, front, takeWhile_row tabless, left, trimTabs, List.dropWhile_cons_of_pos (by simp), trimTabs]

/-- A text with no tab at an end stays as it is. -/
theorem trimTabs_eq {t : Text} (front : t.head? ≠ some '\t') (back : t.getLast? ≠ some '\t') :
    trimTabs t = t := by
  have whole : t.dropWhile (· = '\t') = t := by
    cases t with
    | nil => rfl
    | cons c rest =>
      have first : c ≠ '\t' := fun same => front (same ▸ rfl)
      exact List.dropWhile_cons_of_neg (by simpa using first)
  rw [trimTabs, whole, List.rdropWhile_eq_self_iff]
  intro nonempty tab
  refine back ?_
  rw [List.getLast?_eq_some_getLast nonempty, of_decide_eq_true tab]

theorem trimTabs_subset (t : Text) : trimTabs t ⊆ t :=
  List.Subset.trans (List.rdropWhile_prefix _ _).subset (List.dropWhile_sublist _).subset

theorem head?_trimTabs (t : Text) : (trimTabs t).head? ≠ some '\t' := by
  intro tab
  rw [trimTabs] at tab
  cases rest : t.dropWhile (· = '\t') with
  | nil =>
    rw [rest] at tab
    cases tab
  | cons c others =>
    have first := List.head?_dropWhile_not (fun c => decide (c = '\t')) t
    obtain ⟨back, whole⟩ := List.rdropWhile_prefix (fun c => decide (c = '\t')) (c :: others)
    rw [rest] at first tab
    have same : (c :: others).head? = some '\t' := by
      rw [← whole, List.head?_append, tab]
      rfl
    rw [same] at first
    exact absurd first (by simp)

theorem getLast?_trimTabs (t : Text) : (trimTabs t).getLast? ≠ some '\t' := by
  intro tab
  obtain ⟨nonempty, last⟩ := List.mem_getLast?_eq_getLast tab
  have stuck := List.rdropWhile_last_not (fun c => decide (c = '\t')) (t.dropWhile (· = '\t')) nonempty
  refine stuck (decide_eq_true ?_)
  exact last.symm

/-- **What `read` gives is kept.** -/
theorem kept_readFields {row : Text} (single : '\n' ∉ row) : Kept (readFields row).2 := by
  refine ⟨fun newline => single ?_, head?_trimTabs _, getLast?_trimTabs _⟩
  exact (List.dropWhile_sublist _).subset ((List.dropWhile_sublist _).subset (trimTabs_subset _ newline))

/-- The subscript is empty on a blank line only. -/
theorem readFields_eq_nil_iff (row : Text) : (readFields row).1 = [] ↔ ∀ c ∈ row, c = '\t' := by
  rw [readFields]
  constructor
  · intro empty
    have none : row.dropWhile (· = '\t') = [] := by
      cases rest : row.dropWhile (· = '\t') with
      | nil => rfl
      | cons c others =>
        have stuck := List.head?_dropWhile_not (fun c => decide (c = '\t')) row
        rw [rest] at stuck
        have first : c ≠ '\t' := by simpa using stuck
        rw [rest, List.takeWhile_cons_of_pos (by simpa using first)] at empty
        cases empty
    simpa using List.dropWhile_eq_nil_iff.mp none
  · intro tabs
    rw [List.dropWhile_eq_nil_iff.mpr fun c member => decide_eq_true (tabs c member)]
    rfl

/-! ### The lines of a record -/

/-- What stands behind a newline begins a line. -/
theorem lines_append_newline (t rest : Text) : lines (t ++ '\n' :: rest) = lines (t ++ ['\n']) ++ lines rest := by
  induction t using line_induction with
  | last line single =>
    rw [lines_line line single, lines_line line single]
    rfl
  | more line later single ih =>
    rw [List.append_assoc, List.cons_append, lines_line line single, ih, List.append_assoc, List.cons_append,
      lines_line line single]
    rfl

/-- A text in front of the lines of another one. -/
theorem lines_front {front : Text} (single : '\n' ∉ front) (t : Text) :
    ∃ first later, lines (t ++ ['\n']) = first :: later ∧
      lines (front ++ t ++ ['\n']) = (front ++ first) :: later := by
  induction t using line_induction with
  | last line alone =>
    have both : '\n' ∉ front ++ line := by simp [single, alone]
    exact ⟨line, [], lines_line line alone [], lines_line (front ++ line) both []⟩
  | more line rest alone _ =>
    have both : '\n' ∉ front ++ line := by simp [single, alone]
    refine ⟨line, lines (rest ++ ['\n']), ?_, ?_⟩
    · rw [List.append_assoc, List.cons_append, lines_line line alone]
    · rw [← List.append_assoc, List.append_assoc, List.cons_append, lines_line (front ++ line) both]

theorem readLines_unlines (rows : List Text) :
    readLines (unlines rows) = rows.flatMap fun row => lines (row ++ ['\n']) := by
  have complete : (unlines rows).rdropWhile (· ≠ '\n') = unlines rows := by
    rw [List.rdropWhile_eq_self_iff]
    intro nonempty
    cases rows using List.reverseRecOn with
    | nil => exact absurd rfl nonempty
    | append_singleton rows row =>
      have shape : unlines (rows ++ [row]) = (unlines rows ++ row) ++ ['\n'] := by
        simp [unlines]
      simp only [shape, List.getLast_append_singleton]
      decide
  rw [readLines, complete]
  clear complete
  induction rows with
  | nil => rfl
  | cons row rows ih => rw [unlines_cons, lines_append_newline, ih, List.flatMap_cons]

/-- The lines of a record that was written: for each entry one that begins with its key, and one more for
every newline in its value. -/
theorem readLines_writeTestRun (table : Table) :
    readLines (writeTestRun table) =
      table.entries.flatMap fun entry => lines (recordRow entry ++ ['\n']) := by
  rw [writeTestRun, readLines_unlines, List.flatMap_map]

theorem newline_not_mem_recordRow {entry : (_ : Text) × Text} (key : '\n' ∉ entry.1) (value : '\n' ∉ entry.2) :
    '\n' ∉ recordRow entry := by
  simp [recordRow, key, value]

/-- Entries in one line each are the lines of the record. -/
theorem readLines_single {table : Table} (subscripts : Subscripts table)
    (single : ∀ entry ∈ table.entries, '\n' ∉ entry.2) :
    readLines (writeTestRun table) = table.entries.map recordRow := by
  rw [readLines_writeTestRun]
  have each : ∀ entry ∈ table.entries, lines (recordRow entry ++ ['\n']) = [recordRow entry] :=
    fun entry member => lines_line _
      (newline_not_mem_recordRow (subscripts entry member).2.2 (single entry member)) []
  rw [List.flatMap_congr each, List.map_eq_flatMap]

/-! ### The loop -/

theorem readLoop_cons (row : Text) (rows : List Text) (table : Table) :
    readLoop (row :: rows) table =
      if standard (readFields row).1 then readLoop rows table
      else if (readFields row).1 = [] then none
      else readLoop rows (table.insert (readFields row).1 (readFields row).2) := rfl

/-- What the loop does not set stays; every value it sets is kept. -/
theorem kept_readLoop {rows : List Text} {table last : Table} (single : ∀ row ∈ rows, '\n' ∉ row)
    (before : ∀ key value, table.lookup key = some value → Kept value)
    (read : readLoop rows table = some last) : ∀ key value, last.lookup key = some value → Kept value := by
  induction rows generalizing table with
  | nil =>
    obtain rfl := Option.some.inj read
    exact before
  | cons row rows ih =>
    have later := fun other member => single other (List.mem_cons_of_mem _ member)
    rw [readLoop_cons] at read
    split at read
    · exact ih later before read
    split at read
    · cases read
    refine ih later ?_ read
    intro key value found
    by_cases same : key = (readFields row).1
    · rw [same, AList.lookup_insert] at found
      obtain rfl := Option.some.inj found
      exact kept_readFields (single row List.mem_cons_self)
    · rw [AList.lookup_insert_ne same] at found
      exact before key value found

/-- The loop ends the subshell on a blank line, and on no other. -/
theorem readLoop_eq_none_iff (rows : List Text) (table : Table) :
    readLoop rows table = none ↔ ∃ row ∈ rows, ∀ c ∈ row, c = '\t' := by
  induction rows generalizing table with
  | nil => simp [readLoop]
  | cons row rows ih =>
    rw [readLoop_cons, List.exists_mem_cons_iff, ← readFields_eq_nil_iff]
    by_cases empty : (readFields row).1 = []
    · have other : standard [] = false := by decide
      simp [empty, other]
    · simp only [empty, if_false, false_or]
      split <;> exact ih _

/-- **A record read back**, when every line of it is an entry. -/
theorem readLoop_entries {entries : List ((_ : Text) × Text)} (nodup : entries.NodupKeys) (table : Table)
    (subscripts : ∀ entry ∈ entries, entry.1 ≠ [] ∧ '\t' ∉ entry.1)
    (kept : ∀ entry ∈ entries, standard entry.1 = false → Kept entry.2) :
    ∃ last, readLoop (entries.map recordRow) table = some last ∧
      ∀ key, last.lookup key =
        if standard key then table.lookup key else (entries.dlookup key).or (table.lookup key) := by
  induction entries generalizing table with
  | nil => exact ⟨table, rfl, by simp⟩
  | cons entry entries ih =>
    obtain ⟨key, value⟩ := entry
    obtain ⟨nonempty, tabless⟩ := subscripts ⟨key, value⟩ List.mem_cons_self
    obtain ⟨fresh, tail⟩ := List.nodupKeys_cons.mp nodup
    have named := fun other member => subscripts other (List.mem_cons_of_mem _ member)
    have whole := fun other member => kept other (List.mem_cons_of_mem _ member)
    have front : readFields (recordRow ⟨key, value⟩) = (key, trimTabs value) :=
      readFields_row nonempty tabless value
    have behind : ∀ other ≠ key, List.dlookup other (⟨key, value⟩ :: entries) = entries.dlookup other :=
      fun other different => List.dlookup_cons_ne entries (⟨key, value⟩ : (_ : Text) × Text) different
    rw [List.map_cons, readLoop_cons, front]
    by_cases passed : standard key = true
    · obtain ⟨last, read, found⟩ := ih tail table named whole
      refine ⟨last, by rw [if_pos passed, read], fun other => ?_⟩
      rw [found other]
      by_cases same : other = key
      · rw [same, if_pos passed, if_pos passed]
      · rw [behind other same]
    · obtain ⟨_, head, back⟩ := kept ⟨key, value⟩ List.mem_cons_self (by simpa using passed)
      obtain ⟨last, read, found⟩ := ih tail (table.insert key value) named whole
      have trimmed : trimTabs value = value := trimTabs_eq head back
      refine ⟨last, by rw [if_neg passed, if_neg nonempty, trimmed, read], fun other => ?_⟩
      rw [found other]
      by_cases same : other = key
      · have absent : entries.dlookup key = none := List.dlookup_eq_none.mpr fresh
        rw [same, if_neg passed, if_neg passed, absent, AList.lookup_insert, List.dlookup_cons_eq]
        rfl
      · by_cases skipped : standard other = true
        · rw [if_pos skipped, if_pos skipped, AList.lookup_insert_ne same]
        · rw [if_neg skipped, if_neg skipped, AList.lookup_insert_ne same,
            behind other same]

/-! ### What is read back -/

/-- What the loop makes of a record whose values are kept. -/
theorem readLastTestRun_written {table : Table} (subscripts : Subscripts table)
    (oneLine : ∀ entry ∈ table.entries, standard entry.1 = true → '\n' ∉ entry.2)
    (kept : ∀ entry ∈ table.entries, standard entry.1 = false → Kept entry.2) :
    ∃ last, readLastTestRun (some (writeTestRun table)) = some last ∧
      ∀ key, last.lookup key = if standard key then none else table.lookup key := by
  have single : ∀ entry ∈ table.entries, '\n' ∉ entry.2 := by
    intro entry member
    cases passed : standard entry.1 with
    | true => exact oneLine entry member passed
    | false => exact (kept entry member passed).1
  obtain ⟨last, read, found⟩ := readLoop_entries table.nodupKeys ∅
    (fun entry member => ⟨(subscripts entry member).1, (subscripts entry member).2.1⟩) kept
  refine ⟨last, ?_, fun key => ?_⟩
  · rw [readLastTestRun, readLines_single subscripts single, read]
  · rw [found key, AList.lookup_empty, Option.or_none]
    rfl

/-- **What a run knows of the last one.** The values of the last run are read back as they were written
exactly when those that are not passed over are in one line, with no tab at an end. -/
theorem lastRun_iff {table : Table} (subscripts : Subscripts table)
    (oneLine : ∀ entry ∈ table.entries, standard entry.1 = true → '\n' ∉ entry.2) :
    (∃ last, readLastTestRun (some (writeTestRun table)) = some last ∧
        ∀ key, last.lookup key = if standard key then none else table.lookup key) ↔
      ∀ entry ∈ table.entries, standard entry.1 = false → Kept entry.2 := by
  refine ⟨?_, readLastTestRun_written subscripts oneLine⟩
  rintro ⟨last, read, same⟩ ⟨key, value⟩ member passed
  have single : ∀ row ∈ readLines (writeTestRun table), '\n' ∉ row := fun row => newline_not_mem_line
  have known : table.lookup key = some value := AList.mem_lookup_iff.mpr member
  refine kept_readLoop single (fun key value found => ?_) read key value ?_
  · rw [AList.lookup_empty] at found
    cases found
  · rw [same key, if_neg (by rw [passed]; exact Bool.false_ne_true), known]

theorem nodupKeys_sample : List.NodupKeys [(⟨"read iops".toList, "1200".toList⟩ : (_ : Text) × Text),
    ⟨"status".toList, "pass".toList⟩] := by
  show ["read iops".toList, "status".toList].Nodup
  decide

/-- A record with a value that the next run is to know. -/
def sampleTable : Table := ⟨_, nodupKeys_sample⟩

theorem subscripts_sampleTable : Subscripts sampleTable := by decide

theorem lastRun_iff_sample :
    (∃ last, readLastTestRun (some (writeTestRun sampleTable)) = some last ∧
        ∀ key, last.lookup key = if standard key then none else sampleTable.lookup key) ↔
      ∀ entry ∈ sampleTable.entries, standard entry.1 = false → Kept entry.2 :=
  lastRun_iff subscripts_sampleTable (by decide)

/-- **The next run stops on a blank line**: some value has a line behind its first one that is empty or made
of tabs. -/
theorem lastRun_stops_iff {table : Table} (subscripts : Subscripts table) :
    readLastTestRun (some (writeTestRun table)) = none ↔
      ∃ entry ∈ table.entries, ∃ row ∈ (lines (entry.2 ++ ['\n'])).tail, ∀ c ∈ row, c = '\t' := by
  rw [readLastTestRun, readLoop_eq_none_iff, readLines_writeTestRun]
  have each : ∀ entry ∈ table.entries, (∃ row ∈ lines (recordRow entry ++ ['\n']), ∀ c ∈ row, c = '\t') ↔
      ∃ row ∈ (lines (entry.2 ++ ['\n'])).tail, ∀ c ∈ row, c = '\t' := by
    intro entry member
    obtain ⟨nonempty, tabless, single⟩ := subscripts entry member
    have front : '\n' ∉ entry.1 ++ ['\t'] := by simp [single]
    obtain ⟨first, later, split, whole⟩ := lines_front front entry.2
    have shape : entry.1 ++ ['\t'] ++ entry.2 = recordRow entry := by rw [recordRow, List.append_assoc]; rfl
    obtain ⟨c, rest, key⟩ := List.exists_cons_of_ne_nil nonempty
    have named : ¬ ∀ d ∈ entry.1 ++ ['\t'] ++ first, d = '\t' := by
      intro tabs
      refine tabless ?_
      rw [key, ← tabs c (by rw [key]; simp)]
      exact List.mem_cons_self
    rw [← shape, whole, split, List.exists_mem_cons_iff, List.tail_cons]
    exact or_iff_right named
  constructor
  · rintro ⟨row, member, tabs⟩
    obtain ⟨entry, inside, inRow⟩ := List.mem_flatMap.mp member
    exact ⟨entry, inside, (each entry inside).mp ⟨row, inRow, tabs⟩⟩
  · rintro ⟨entry, inside, blank⟩
    obtain ⟨row, inRow, tabs⟩ := (each entry inside).mpr blank
    exact ⟨row, List.mem_flatMap.mpr ⟨entry, inside, inRow⟩, tabs⟩

theorem lastRun_stops_iff_sample :
    readLastTestRun (some (writeTestRun sampleTable)) = none ↔
      ∃ entry ∈ sampleTable.entries, ∃ row ∈ (lines (entry.2 ++ ['\n'])).tail, ∀ c ∈ row, c = '\t' :=
  lastRun_stops_iff subscripts_sampleTable

/-- What the loop sets has a subscript that can be written, and is not passed over. -/
theorem subscripts_readLoop {rows : List Text} {table last : Table} (single : ∀ row ∈ rows, '\n' ∉ row)
    (before : ∀ key ∈ table, key ≠ [] ∧ '\t' ∉ key ∧ '\n' ∉ key ∧ standard key = false)
    (read : readLoop rows table = some last) :
    ∀ key ∈ last, key ≠ [] ∧ '\t' ∉ key ∧ '\n' ∉ key ∧ standard key = false := by
  induction rows generalizing table with
  | nil =>
    obtain rfl := Option.some.inj read
    exact before
  | cons row rows ih =>
    have later := fun other member => single other (List.mem_cons_of_mem _ member)
    rw [readLoop_cons] at read
    split at read
    · exact ih later before read
    rename_i passed
    split at read
    · cases read
    rename_i nonempty
    refine ih later ?_ read
    intro key member
    rcases (AList.mem_insert table).mp member with rfl | old
    · have taken : ∀ c ∈ (readFields row).1, c ≠ '\t' ∧ c ∈ row := by
        intro c inside
        refine ⟨by simpa using List.mem_takeWhile_imp inside, ?_⟩
        exact (List.dropWhile_sublist _).subset ((List.takeWhile_sublist _).subset inside)
      exact ⟨nonempty, fun tab => (taken _ tab).1 rfl,
        fun newline => single row List.mem_cons_self (taken _ newline).2, by simpa using passed⟩
    · exact before key old

/-- **What `LAST_TEST_RUN` holds**, whatever was in the record: its subscripts can be written, none of them is
passed over, and its values are kept. -/
theorem readLastTestRun_clean {seqres : Option Text} {last : Table}
    (read : readLastTestRun seqres = some last) :
    Subscripts last ∧ (∀ entry ∈ last.entries, standard entry.1 = false) ∧
      ∀ entry ∈ last.entries, Kept entry.2 := by
  cases seqres with
  | none =>
    obtain rfl := Option.some.inj read
    exact ⟨fun entry member => (by cases member), fun entry member => (by cases member),
      fun entry member => (by cases member)⟩
  | some seqres =>
    have single : ∀ row ∈ readLines seqres, '\n' ∉ row := fun row => newline_not_mem_line
    have subscripts :=
      subscripts_readLoop single (fun key member => absurd member (AList.notMem_empty key)) read
    have kept := kept_readLoop single
      (fun key value found => by rw [AList.lookup_empty] at found; cases found) read
    have named : ∀ entry ∈ last.entries, entry.1 ∈ last := fun entry member => List.mem_keys_of_mem member
    refine ⟨fun entry member => ?_, fun entry member => ?_, fun entry member => ?_⟩
    · obtain ⟨nonempty, tabless, alone, _⟩ := subscripts _ (named entry member)
      exact ⟨nonempty, tabless, alone⟩
    · exact (subscripts _ (named entry member)).2.2.2
    · exact kept entry.1 entry.2 (AList.mem_lookup_iff.mpr member)

/-- **What was read once is read again**, from any record at all. -/
theorem lastRun_stable {seqres : Text} {last : Table} (read : readLastTestRun (some seqres) = some last) :
    ∃ again, readLastTestRun (some (writeTestRun last)) = some again ∧
      ∀ key, again.lookup key = last.lookup key := by
  obtain ⟨subscripts, other, kept⟩ := readLastTestRun_clean read
  obtain ⟨again, reread, found⟩ := readLastTestRun_written subscripts
    (fun entry member passed => by
      rw [other entry member] at passed
      cases passed)
    fun entry member _ => kept entry member
  refine ⟨again, reread, fun key => ?_⟩
  rw [found key]
  by_cases passed : standard key = true
  · rw [if_pos passed, eq_comm, AList.lookup_eq_none]
    intro member
    obtain ⟨entry, inside, rfl⟩ := List.mem_map.mp (AList.mem_keys.mp member)
    rw [other entry inside] at passed
    cases passed
  · rw [if_neg passed]

theorem lastRun_stable_sample :
    ∃ again, readLastTestRun (some (writeTestRun (AList.singleton "read iops".toList "1200".toList))) =
        some again ∧
      ∀ key, again.lookup key =
        (AList.singleton "read iops".toList "1200".toList : Table).lookup key := by
  have read : readLastTestRun (some "read iops\t1200\t\nstatus\tpass\n".toList) =
      some (AList.singleton "read iops".toList "1200".toList) := rfl
  exact lastRun_stable read

/-! ### The status -/

/-- The key that `init` looks for. -/
def statusKey : Text := "status".toList

/-- What `sed` prints of a line. -/
def statusRow (row : Text) : Option Text :=
  if startsWith "status\t".toList row then some (trimPrefix "status\t".toList row) else none

/-- The statuses that a value states behind its first line. -/
def strays (value : Text) : List Text := (lines (value ++ ['\n'])).tail.filterMap statusRow

/-- Of the keys only `status` begins a line that `sed` prints. -/
theorem statusRow_recordRow {key : Text} (tabless : '\t' ∉ key) (value : Text) :
    statusRow (key ++ '\t' :: value) = if key = statusKey then some value else none := by
  have unit : "status\t".toList = statusKey ++ ['\t'] := by decide
  by_cases same : key = statusKey
  · have shape : key ++ '\t' :: value = "status\t".toList ++ value := by rw [same]; rfl
    rw [statusRow, shape, startsWith_append, if_pos rfl, trimPrefix_append, if_pos same]
  · have other : startsWith "status\t".toList (key ++ '\t' :: value) = false := by
      rw [startsWith, Bool.eq_false_iff, ne_eq, List.isPrefixOf_iff_prefix, unit]
      rintro ⟨rest, whole⟩
      rw [List.append_assoc] at whole
      have front := takeWhile_row tabless value
      rw [← whole] at front
      exact same (front.symm.trans (takeWhile_row (by decide) rest))
    rw [statusRow, other, if_neg Bool.false_ne_true, if_neg same]

/-- The statuses on the lines of an entry. -/
theorem statusRows_entry {entry : (_ : Text) × Text} (tabless : '\t' ∉ entry.1) (single : '\n' ∉ entry.1) :
    ∃ first, (lines (entry.2 ++ ['\n'])).head? = some first ∧
      (lines (recordRow entry ++ ['\n'])).filterMap statusRow =
        (if entry.1 = statusKey then [first] else []) ++ strays entry.2 := by
  have front : '\n' ∉ entry.1 ++ ['\t'] := by simp [single]
  obtain ⟨first, later, split, whole⟩ := lines_front front entry.2
  have shape : entry.1 ++ ['\t'] ++ entry.2 = recordRow entry := by rw [recordRow, List.append_assoc]; rfl
  refine ⟨first, by rw [split]; rfl, ?_⟩
  rw [← shape, whole, strays, split, List.tail_cons, List.filterMap_cons, List.append_assoc]
  rw [show ['\t'] ++ first = '\t' :: first from rfl, statusRow_recordRow tabless]
  by_cases same : entry.1 = statusKey
  · rw [if_pos same, if_pos same]
    rfl
  · rw [if_neg same, if_neg same]
    rfl

/-- What stands first in one of several lists, when all that stands first in any is the same. -/
theorem head?_flatMap {α β : Type} {f : α → List β} {items : List α} {b : β}
    (all : ∀ a ∈ items, ∀ c, (f a).head? = some c → c = b) (full : ∃ a ∈ items, f a ≠ []) :
    (items.flatMap f).head? = some b := by
  induction items with
  | nil =>
    obtain ⟨a, member, _⟩ := full
    cases member
  | cons a items ih =>
    rw [List.flatMap_cons, List.head?_append]
    cases here : (f a).head? with
    | some c => rw [all a List.mem_cons_self c here]; rfl
    | none =>
      have empty : f a = [] := List.head?_eq_none_iff.mp here
      refine ih (fun other member => all other (List.mem_cons_of_mem _ member)) ?_
      obtain ⟨other, member, nonempty⟩ := full
      rcases List.mem_cons.mp member with rfl | later
      · exact absurd empty nonempty
      · exact ⟨other, later, nonempty⟩

/-- The statuses on the lines of a record. -/
theorem status?_written {table : Table} {record : Guest.Record} (stored : record.text = writeTestRun table) :
    record.status? =
      (table.entries.flatMap fun entry => (lines (recordRow entry ++ ['\n'])).filterMap statusRow).head? := by
  have rows : lines (writeTestRun table) =
      table.entries.flatMap fun entry => lines (recordRow entry ++ ['\n']) := by
    rw [writeTestRun]
    induction table.entries with
    | nil => rfl
    | cons entry entries ih => rw [List.map_cons, unlines_cons, lines_append_newline, ih, List.flatMap_cons]
  rw [Guest.Record.status?, Guest.Record.statusLines, stored, rows]
  congr 1
  exact List.filterMap_flatMap

/-- **The status survives.** `init` reads from the record the status that `_call_test` has put there, in
whatever order the entries are written, exactly when no value states another status on a line of its own. -/
theorem status_survives {table : Table} {status : Text} (subscripts : Subscripts table)
    (clean : '\x00' ∉ writeTestRun table) (stated : table.lookup statusKey = some status)
    (single : '\n' ∉ status) :
    (∀ order : Table, order.entries.Perm table.entries →
        ∀ record : Guest.Record, record.text = writeTestRun order → record.s = status) ↔
      ∀ entry ∈ table.entries, ∀ stray, (strays entry.2).head? = some stray → stray = status := by
  have own : ⟨statusKey, status⟩ ∈ table.entries := AList.mem_lookup_iff.mp stated
  -- the lines of an entry: the entry of the status has one, the others have what strays
  have rows : ∀ entry ∈ table.entries, (lines (recordRow entry ++ ['\n'])).filterMap statusRow =
      if entry.1 = statusKey then [status] else strays entry.2 := by
    rintro ⟨key, value⟩ member
    obtain ⟨_, tabless, alone⟩ := subscripts _ member
    obtain ⟨first, front, split⟩ := statusRows_entry tabless alone
    rw [split]
    by_cases same : key = statusKey
    · obtain rfl : value = status := table.nodupKeys.eq_of_mk_mem (same ▸ member) own
      have line := lines_line value single []
      rw [show lines [] = [] from rfl] at line
      rw [show (lines (value ++ ['\n'])).head? = some value by rw [line]; rfl, Option.some_inj] at front
      rw [if_pos same, if_pos same, strays, line, front]
      rfl
    · rw [if_neg same, if_neg same]
      rfl
  constructor
  · intro survives entry member stray found
    -- the record that begins with this entry
    have perm : (entry :: table.entries.erase entry).Perm table.entries :=
      (List.perm_cons_erase member).symm
    let order : Table := ⟨entry :: table.entries.erase entry, (List.perm_nodupKeys perm).mpr table.nodupKeys⟩
    have clean' : '\x00' ∉ writeTestRun order := by
      intro nul
      refine clean ?_
      obtain ⟨row, inRows, inside⟩ := List.mem_flatMap.mp nul
      exact List.mem_flatMap.mpr ⟨row, (perm.map recordRow).mem_iff.mp inRows, inside⟩
    have read := survives order perm ⟨writeTestRun order, clean'⟩ rfl
    have front := rows entry member
    by_cases same : entry.1 = statusKey
    · obtain ⟨key, value⟩ := entry
      obtain rfl : value = status := table.nodupKeys.eq_of_mk_mem (same ▸ member) own
      rw [strays, show lines (value ++ ['\n']) = [value] from lines_line value single []] at found
      cases found
    · rw [if_neg same] at front
      have first : Guest.Record.status? ⟨writeTestRun order, clean'⟩ = some stray := by
        rw [status?_written rfl, List.flatMap_cons, List.head?_append, front, found]
        rfl
      rw [Guest.Record.s_eq, first] at read
      exact read
  · intro tame order perm record stored
    have first : record.status? = some status := by
      rw [status?_written stored]
      refine head?_flatMap ?_ ⟨_, perm.mem_iff.mpr own, ?_⟩
      · intro entry inOrder stray found
        have member := perm.mem_iff.mp inOrder
        rw [rows entry member] at found
        by_cases same : entry.1 = statusKey
        · rw [if_pos same] at found
          exact (Option.some.inj found).symm
        · rw [if_neg same] at found
          exact tame entry member stray found
      · rw [rows _ own, if_pos rfl]
        exact List.cons_ne_nil _ _
    rw [Guest.Record.s_eq, first]
    rfl

theorem status_survives_sample :
    (∀ order : Table, order.entries.Perm sampleTable.entries →
        ∀ record : Guest.Record, record.text = writeTestRun order → record.s = "pass".toList) ↔
      ∀ entry ∈ sampleTable.entries, ∀ stray, (strays entry.2).head? = some stray → stray = "pass".toList :=
  status_survives subscripts_sampleTable (by decide) (by decide) (by decide)

/-- **A record with values in one line each is one that `callTests` leaves**: the other keys stand around the
status. -/
theorem exists_keys {table : Table} {status : Guest.Status} (subscripts : Subscripts table)
    (single : ∀ entry ∈ table.entries, '\n' ∉ entry.2) (clean : '\x00' ∉ writeTestRun table)
    (stated : table.lookup statusKey = some status.text) :
    ∃ keys : Guest.Keys, (Guest.writeTestRun keys status).text = writeTestRun table := by
  have own : ⟨statusKey, status.text⟩ ∈ table.entries := AList.mem_lookup_iff.mp stated
  obtain ⟨front, back, split⟩ := List.append_of_mem own
  have others : ∀ entry ∈ front ++ back, entry ∈ table.entries ∧ entry.1 ≠ statusKey := by
    intro entry member
    have inside : entry ∈ table.entries := by
      rw [split, List.perm_middle.mem_iff]
      exact List.mem_cons_of_mem _ member
    refine ⟨inside, fun same => ?_⟩
    obtain ⟨key, value⟩ := entry
    obtain rfl : key = statusKey := same
    obtain rfl := table.nodupKeys.eq_of_mk_mem inside own
    have nodup := table.nodupKeys.nodup
    rw [split, List.nodup_middle] at nodup
    exact (List.nodup_cons.mp nodup).1 member
  have quiet : ∀ row ∈ front.map recordRow ++ back.map recordRow,
      startsWith "status\t".toList row = false ∧ '\n' ∉ row ∧ '\x00' ∉ row := by
    intro row member
    rw [← List.map_append] at member
    obtain ⟨entry, inside, rfl⟩ := List.mem_map.mp member
    obtain ⟨inTable, different⟩ := others entry inside
    obtain ⟨_, tabless, alone⟩ := subscripts entry inTable
    refine ⟨?_, newline_not_mem_recordRow alone (single entry inTable), fun nul => clean ?_⟩
    · have silent := statusRow_recordRow tabless entry.2
      rw [if_neg different, statusRow] at silent
      rw [Bool.eq_false_iff]
      intro starts
      rw [recordRow] at starts
      rw [if_pos starts] at silent
      cases silent
    · exact List.mem_flatMap.mpr
        ⟨recordRow entry, List.mem_map_of_mem inTable, List.mem_append_left _ nul⟩
  refine ⟨⟨front.map recordRow, back.map recordRow, quiet⟩, ?_⟩
  rw [writeTestRun, split, List.map_append, List.map_cons]
  rfl

/-! ### The report -/

/-- `'    %s\t%s\t...\n'` -/
def lastRow (entry : (_ : Text) × Text) : Text :=
  "    ".toList ++ entry.1 ++ '\t' :: (entry.2 ++ "\t...".toList)

/-- `'    %s\t%s\t...\t%s\n'` -/
def bothRow (testRun : Table) (entry : (_ : Text) × Text) : Text :=
  "    ".toList ++ entry.1 ++ '\t' :: (entry.2 ++ "\t...\t".toList ++ (testRun.lookup entry.1).getD [])

/-- `'    %s\t\t...\t%s\n'` -/
def newRow (entry : (_ : Text) × Text) : Text :=
  "    ".toList ++ entry.1 ++ '\t' :: ("\t...\t".toList ++ entry.2)

/-- The field that `sort` looks at first. -/
def firstField (row : Text) : Text := row.takeWhile (· ≠ '\t')

/-- `sort -t $'\t' -k 1,1` of the lines of what is printed; lines with the same field are compared as a
whole. -/
def sortRows (printed : List Text) : List Text :=
  (lines (unlines printed)).insertionSort (Order.Preimage (fun row => toLex (firstField row, row)) (· ≤ ·))

/-- The keys that the last run does not know. -/
def isNew (lastTestRun : Table) (entry : (_ : Text) × Text) : Bool :=
  !standard entry.1 && (lastTestRun.lookup entry.1).isNone

/-- `_output_last_test_run`, below the name of the test. -/
def outputLastTestRun (lastTestRun : Table) : List Text := sortRows (lastTestRun.entries.map lastRow)

/-- `_output_test_run`, below the name of the test. -/
def outputTestRun (lastTestRun testRun : Table) : List Text :=
  sortRows (lastTestRun.entries.map (bothRow testRun)) ++
    sortRows ((testRun.entries.filter (isNew lastTestRun)).map newRow)

/-- `tput cuu`: how far the cursor goes up, to the name of the test. -/
def cursorUp (lastTestRun : Table) : ℕ := lastTestRun.entries.length + 1

theorem sortRows_perm {rows : List Text} (single : ∀ row ∈ rows, '\n' ∉ row) : (sortRows rows).Perm rows := by
  have whole := lines_unlines rows single []
  rw [List.append_nil, lines_nil, List.append_nil] at whole
  refine (List.perm_insertionSort _ _).trans (.of_eq whole)

/-- The rows stand in the order of their first fields. -/
theorem map_firstField_sortRows {rows : List Text} (single : ∀ row ∈ rows, '\n' ∉ row) :
    (sortRows rows).map firstField = (rows.map firstField).insertionSort (· ≤ ·) := by
  have sorted : (sortRows rows).Pairwise (Order.Preimage (fun row => toLex (firstField row, row)) (· ≤ ·)) :=
    List.pairwise_insertionSort _ _
  have fields : ((sortRows rows).map firstField).Pairwise (· ≤ ·) := by
    rw [List.pairwise_map]
    refine sorted.imp fun {first second} below => ?_
    rcases Prod.Lex.toLex_le_toLex.mp below with less | ⟨same, _⟩
    · exact less.le
    · exact same.le
  have perm : ((sortRows rows).map firstField).Perm ((rows.map firstField).insertionSort (· ≤ ·)) :=
    ((sortRows_perm single).map firstField).trans (List.perm_insertionSort _ _).symm
  exact perm.eq_of_pairwise' fields (List.pairwise_insertionSort _ _)

/-- Rows that begin with an indented key and a tab have that for their first field. -/
theorem firstField_indented {key : Text} (tabless : '\t' ∉ key) (rest : Text) :
    firstField ("    ".toList ++ key ++ '\t' :: rest) = "    ".toList ++ key := by
  refine takeWhile_row ?_ rest
  rw [List.mem_append, not_or]
  exact ⟨by decide, tabless⟩

/-- **The report redraws the table of the last run.** The cursor goes up over the lines that were printed for
the last run. Each of them is written over by the line of the same key; behind them every key that the last
run does not know has one line. -/
theorem report_redraws {seqres : Option Text} {lastTestRun testRun : Table}
    (read : readLastTestRun seqres = some lastTestRun) (subscripts : Subscripts testRun)
    (single : ∀ entry ∈ testRun.entries, '\n' ∉ entry.2) :
    (outputLastTestRun lastTestRun).length + 1 = cursorUp lastTestRun ∧
      ((outputTestRun lastTestRun testRun).map firstField).take (outputLastTestRun lastTestRun).length =
        (outputLastTestRun lastTestRun).map firstField ∧
      ((outputTestRun lastTestRun testRun).map firstField).Perm
        ((lastTestRun.keys ++ testRun.keys.filter fun key =>
          !standard key && (lastTestRun.lookup key).isNone).map ("    ".toList ++ ·)) := by
  obtain ⟨before, _, kept⟩ := readLastTestRun_clean read
  -- a value of this run, under a key of either run, is in one line
  have value : ∀ key, '\n' ∉ (testRun.lookup key).getD [] := by
    intro key
    cases found : testRun.lookup key with
    | none => exact List.not_mem_nil
    | some value => exact single ⟨key, value⟩ (AList.mem_lookup_iff.mp found)
  have lastRows : ∀ row ∈ lastTestRun.entries.map lastRow, '\n' ∉ row :=
    List.forall_mem_map.mpr fun entry inside => by
      simp [lastRow, (before entry inside).2.2, (kept entry inside).1]
  have bothRows : ∀ row ∈ lastTestRun.entries.map (bothRow testRun), '\n' ∉ row :=
    List.forall_mem_map.mpr fun entry inside => by
      simp [bothRow, (before entry inside).2.2, (kept entry inside).1, value entry.1]
  have newRows : ∀ row ∈ (testRun.entries.filter (isNew lastTestRun)).map newRow, '\n' ∉ row :=
    List.forall_mem_map.mpr fun entry inside => by
      have original := List.mem_of_mem_filter inside
      simp [newRow, (subscripts entry original).2.2, single entry original]
  have length : (outputLastTestRun lastTestRun).length = lastTestRun.entries.length := by
    rw [outputLastTestRun, (sortRows_perm lastRows).length_eq, List.length_map]
  have shown : ∀ row : (_ : Text) × Text → Text, (∀ line ∈ lastTestRun.entries.map row, '\n' ∉ line) →
      (∀ entry ∈ lastTestRun.entries, firstField (row entry) = "    ".toList ++ entry.1) →
      (sortRows (lastTestRun.entries.map row)).map firstField =
        (lastTestRun.keys.map ("    ".toList ++ ·)).insertionSort (· ≤ ·) := by
    intro row alone indented
    rw [map_firstField_sortRows alone, List.map_map, AList.keys, List.keys, List.map_map]
    congr 1
    exact List.map_congr_left indented
  have last := shown lastRow lastRows fun entry member => firstField_indented (before entry member).2.1 _
  have both := shown (bothRow testRun) bothRows fun entry member =>
    firstField_indented (before entry member).2.1 _
  have new : ((sortRows ((testRun.entries.filter (isNew lastTestRun)).map newRow)).map firstField).Perm
      ((testRun.keys.filter fun key => !standard key && (lastTestRun.lookup key).isNone).map
        ("    ".toList ++ ·)) := by
    refine ((sortRows_perm newRows).map firstField).trans (.of_eq ?_)
    rw [AList.keys, List.keys, List.filter_map, List.map_map, List.map_map]
    refine List.map_congr_left fun entry member => ?_
    exact firstField_indented (subscripts entry (List.mem_of_mem_filter member)).2.1 _
  refine ⟨by rw [length, cursorUp], ?_, ?_⟩
  · rw [outputTestRun, List.map_append, both, outputLastTestRun, last, ← List.length_map (f := firstField),
      last, List.take_left']
    rfl
  · rw [outputTestRun, List.map_append, List.map_append, both]
    exact (List.perm_insertionSort _ _).append new

/-- The record of a run that has measured one rate. -/
def lastRecord : Text := "status\tpass\nread iops\t1200\nruntime\t31s\n".toList

/-- What the last run is known to have measured. -/
def lastTable : Table := (AList.singleton "read iops".toList "1200".toList).insert "runtime".toList "31s".toList

theorem nodupKeys_newTable : List.NodupKeys [(⟨"write iops".toList, "900".toList⟩ : (_ : Text) × Text),
    ⟨"runtime".toList, "29s".toList⟩, ⟨"read iops".toList, "1250".toList⟩, ⟨"status".toList, "pass".toList⟩] := by
  show ["write iops".toList, "runtime".toList, "read iops".toList, "status".toList].Nodup
  decide

/-- This run has measured a second rate. -/
def newTable : Table := ⟨_, nodupKeys_newTable⟩

theorem report_redraws_sample :
    (outputLastTestRun lastTable).length + 1 = cursorUp lastTable ∧
      ((outputTestRun lastTable newTable).map firstField).take (outputLastTestRun lastTable).length =
        (outputLastTestRun lastTable).map firstField ∧
      ((outputTestRun lastTable newTable).map firstField).Perm
        ((lastTable.keys ++ newTable.keys.filter fun key =>
          !standard key && (lastTable.lookup key).isNone).map ("    ".toList ++ ·)) :=
  have read : readLastTestRun (some lastRecord) = some lastTable := rfl
  report_redraws read (by decide) (by decide)

end Ndt.Check
