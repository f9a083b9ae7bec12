/-
**`grep -m1` on a file that is being appended to.**

`grepFirst p t` is the output of `grep -m1 -E '^p'` on a text file with content `t`, for a `p` without
special characters: the first line that starts with `p`. An unterminated last line counts as a line.

`locate p t` is that line with the offset of its first byte. `grepFirst_take` is the whole story of a
reader who polls a growing file: a copy of the first `n` bytes of `t` shows nothing before the marker
`p` itself has been copied, a cut-off line while the copy ends inside the line, and the line from then
on.
-/

import Ndt.Shell.Text

namespace Ndt.Shell

/-- The first row that starts with `p`, and the offset of its first byte when the rows start at
`offset`. -/
def locateFrom (p : Text) (offset : ℕ) : List Text → Option (ℕ × Text)
  | [] => none
  | row :: rows =>
    if startsWith p row then some (offset, row) else locateFrom p (offset + row.length + 1) rows

/-- The first line that starts with `p`, and the offset of its first byte. -/
def locate (p t : Text) : Option (ℕ × Text) := locateFrom p 0 (lines t)

/-- What `grep` takes for a text file, in the `C` locale, where every byte is a character: no byte of it is NUL.
Of a file with a NUL byte it prints no line, only that it matches, unless it has found the line in an earlier
piece of the file. -/
def TextFile (t : Text) : Prop := '\x00' ∉ t

instance (t : Text) : Decidable (TextFile t) := inferInstanceAs (Decidable ('\x00' ∉ t))

/-- `grep -m1 -E '^p'` of a text file: the first line that starts with `p`. -/
def grepFirst (p t : Text) : Option Text := (lines t).find? (startsWith p)

theorem locateFrom_map_snd (p : Text) (offset : ℕ) (rows : List Text) :
    (locateFrom p offset rows).map Prod.snd = rows.find? (startsWith p) := by
  induction rows generalizing offset with
  | nil => rfl
  | cons row rows ih =>
    rw [locateFrom, List.find?_cons]
    cases startsWith p row with
    | true => rfl
    | false => exact ih _

theorem le_of_locateFrom {p : Text} {offset : ℕ} {rows : List Text} {hit : ℕ × Text}
    (found : locateFrom p offset rows = some hit) : offset ≤ hit.1 := by
  induction rows generalizing offset with
  | nil => cases found
  | cons row rows ih =>
    rw [locateFrom] at found
    split at found
    · cases found
      exact le_rfl
    · have later := ih found
      omega

theorem grepFirst_eq_locate (p t : Text) : grepFirst p t = (locate p t).map Prod.snd :=
  (locateFrom_map_snd p 0 (lines t)).symm

theorem grepFirst_starts {p t line : Text} (found : grepFirst p t = some line) :
    startsWith p line = true := by
  simpa using List.find?_some found

/-- Complete lines that do not match are passed over. -/
theorem grepFirst_unlines {p : Text} {rows : List Text} (single : ∀ row ∈ rows, '\n' ∉ row)
    (others : ∀ row ∈ rows, startsWith p row = false) (rest : Text) :
    grepFirst p (unlines rows ++ rest) = grepFirst p rest := by
  rw [grepFirst, lines_unlines rows single, List.find?_append, List.find?_eq_none.mpr]
  · rfl
  · intro row member
    rw [others row member]
    exact Bool.false_ne_true

theorem grepFirst_line {p line : Text} (single : '\n' ∉ line) (rest : Text) :
    grepFirst p (line ++ '\n' :: rest) =
      if startsWith p line then some line else grepFirst p rest := by
  rw [grepFirst, lines_line line single, List.find?_cons]
  cases startsWith p line <;> rfl

theorem locateFrom_append {p : Text} {rows : List Text}
    (others : ∀ row ∈ rows, startsWith p row = false) (offset : ℕ) (more : List Text) :
    locateFrom p offset (rows ++ more) = locateFrom p (offset + (unlines rows).length) more := by
  induction rows generalizing offset with
  | nil => rfl
  | cons row rows ih =>
    have passed : ¬ startsWith p row = true := by
      rw [others row List.mem_cons_self]
      exact Bool.false_ne_true
    have length : (unlines (row :: rows)).length = row.length + 1 + (unlines rows).length := by
      rw [unlines_cons, List.length_append, List.length_cons]
      omega
    rw [List.cons_append, locateFrom, if_neg passed, ih fun other member => others other (by simp [member]),
      length, Nat.add_assoc, ← Nat.add_assoc offset]
    congr 1
    omega

/-- The first matching line, behind complete lines that do not match. -/
theorem locate_unlines {p line : Text} {rows : List Text} (single : ∀ row ∈ rows, '\n' ∉ row)
    (others : ∀ row ∈ rows, startsWith p row = false) (lineSingle : '\n' ∉ line)
    (starts : startsWith p line = true) (rest : Text) :
    locate p (unlines rows ++ (line ++ '\n' :: rest)) = some ((unlines rows).length, line) := by
  rw [locate, lines_unlines rows single, lines_line line lineSingle, locateFrom_append others, locateFrom,
    if_pos starts, Nat.zero_add]

/-! ### A copy of the first bytes -/

/-- **The lines of a cut-off file**: some lines of the file, then perhaps a cut-off copy of the next
line. -/
theorem lines_take_line {line : Text} (single : '\n' ∉ line) (rest : Text) (n : ℕ) :
    lines ((line ++ '\n' :: rest).take n) =
      if n ≤ line.length then lines (line.take n)
      else line :: lines (rest.take (n - line.length - 1)) := by
  split
  · rename_i short
    rw [List.take_append_of_le_length short]
  · rename_i long
    obtain ⟨more, rfl⟩ : ∃ more, n = line.length + (more + 1) := ⟨n - line.length - 1, by omega⟩
    rw [List.take_length_add_append, List.take_succ_cons, lines_line line single]
    congr 3
    omega

/-- The matching line, if any, of a cut-off copy of one line. -/
theorem find_lines_take {p line : Text} (marker : p ≠ []) (single : '\n' ∉ line) (n : ℕ) :
    (lines (line.take n)).find? (startsWith p) =
      if startsWith p (line.take n) then some (line.take n) else none := by
  by_cases empty : line.take n = []
  · rw [empty, lines_nil, if_neg]
    · rfl
    · rw [startsWith_iff, List.prefix_nil]
      exact marker
  · rw [lines_unterminated (fun inside => single (List.mem_of_mem_take inside)) empty, List.find?_cons]
    cases startsWith p (line.take n) <;> rfl

/-- A cut-off copy of a line starts with `p` once all of `p` has been copied. -/
theorem startsWith_take {p line : Text} (starts : startsWith p line = true) (n : ℕ) :
    startsWith p (line.take n) = decide (p.length ≤ n) := by
  obtain ⟨tail, rfl⟩ := startsWith_iff.mp starts
  by_cases enough : p.length ≤ n
  · rw [decide_eq_true enough, startsWith_iff, List.take_append]
    rw [List.take_of_length_le enough]
    exact List.prefix_append _ _
  · rw [decide_eq_false enough, Bool.eq_false_iff]
    intro yes
    have short := (startsWith_iff.mp yes).length_le
    rw [List.length_take] at short
    omega

/-- What `grep -m1` prints of the copied bytes, when the first matching line starts at `start`. -/
def seen (p : Text) (start : ℕ) (line : Text) (n : ℕ) : Option Text :=
  if start + p.length ≤ n then some (line.take (n - start)) else none

/-- **What a reader of the first `n` bytes sees**, when the rows start at `offset`. -/
theorem find_take_eq_seen {p : Text} (marker : p ≠ []) (t : Text) :
    ∀ offset n, (lines (t.take n)).find? (startsWith p) =
      (locateFrom p offset (lines t)).bind fun hit => seen p hit.1 hit.2 (offset + n) := by
  induction t using line_induction with
  | last line single =>
    intro offset n
    rw [find_lines_take marker single]
    by_cases empty : line = []
    · subst empty
      rw [List.take_nil, if_neg (by rw [startsWith_iff, List.prefix_nil]; exact marker)]
      rfl
    rw [lines_unterminated single empty, locateFrom]
    cases starts : startsWith p line with
    | true =>
      rw [startsWith_take starts, if_pos rfl, Option.bind_some, seen]
      simp
    | false =>
      rw [if_neg, if_neg Bool.false_ne_true]
      · rfl
      · intro cut
        rw [startsWith_mono (List.take_prefix _ _) cut] at starts
        cases starts
  | more line rest single ih =>
    intro offset n
    rw [lines_take_line single, lines_line line single, locateFrom]
    cases starts : startsWith p line with
    | true =>
      rw [if_pos rfl, Option.bind_some, seen, Nat.add_sub_cancel_left]
      have fits := (startsWith_iff.mp starts).length_le
      split
      · rw [find_lines_take marker single, startsWith_take starts]
        simp
      · rename_i long
        have whole : line.take n = line := List.take_of_length_le (by omega)
        rw [List.find?_cons_of_pos starts, if_pos (by omega), whole]
    | false =>
      rw [if_neg Bool.false_ne_true]
      split
      · rename_i short
        rw [find_lines_take marker single, if_neg]
        · symm
          rw [Option.bind_eq_none_iff]
          intro hit found
          rw [seen, if_neg]
          have later := le_of_locateFrom found
          have positive := List.length_pos_iff.mpr marker
          omega
        · intro cut
          rw [startsWith_mono (List.take_prefix _ _) cut] at starts
          cases starts
      · rename_i long
        have passed : ¬ startsWith p line = true := by rw [starts]; exact Bool.false_ne_true
        have copied : offset + line.length + 1 + (n - line.length - 1) = offset + n := by omega
        rw [List.find?_cons_of_neg passed, ih (offset + line.length + 1), copied]

/-- **`grep -m1` on the first `n` bytes of a file**: nothing before the marker has been copied, a
cut-off line while the copy ends inside the line, the whole line from then on. -/
theorem grepFirst_take {p : Text} (marker : p ≠ []) (t : Text) (n : ℕ) :
    grepFirst p (t.take n) = (locate p t).bind fun hit => seen p hit.1 hit.2 n := by
  have general := find_take_eq_seen marker t 0 n
  rw [Nat.zero_add] at general
  exact general

/-- What `grep -m1` prints of a cut-off file is a line of the file, perhaps cut off. -/
theorem exists_line_of_grepFirst_take {p : Text} (marker : p ≠ []) {t shown : Text} {n : ℕ}
    (found : grepFirst p (t.take n) = some shown) :
    ∃ row ∈ lines t, startsWith p row = true ∧ ∃ m, shown = row.take m := by
  rw [grepFirst_take marker, Option.bind_eq_some_iff] at found
  obtain ⟨hit, located, visible⟩ := found
  have printed : grepFirst p t = some hit.2 := by
    rw [grepFirst_eq_locate, located]
    rfl
  refine ⟨hit.2, List.mem_of_find?_eq_some printed, grepFirst_starts printed, ?_⟩
  unfold seen at visible
  split at visible
  · exact ⟨_, (Option.some.inj visible).symm⟩
  · cases visible

/-- The marker has been copied, the end of the line has not. -/
def Inside (p : Text) (start : ℕ) (line : Text) (n : ℕ) : Prop :=
  start + p.length ≤ n ∧ n < start + line.length

instance (p : Text) (start : ℕ) (line : Text) (n : ℕ) : Decidable (Inside p start line n) :=
  inferInstanceAs (Decidable (_ ∧ _))

/-- A reader who sees the line sees all of it exactly when the copy does not end inside it. -/
theorem seen_eq_some_iff {p : Text} {start : ℕ} {line : Text} {n : ℕ} (shown : Text)
    (found : seen p start line n = some shown) :
    shown = line ↔ ¬ Inside p start line n := by
  unfold seen at found
  split at found
  · rename_i copied
    cases found
    rw [Inside, not_and, not_lt, List.take_eq_self_iff]
    omega
  · cases found

/-- A reader sees the whole line once all of it has been copied. -/
theorem seen_of_le {p : Text} {start : ℕ} {line : Text} {n : ℕ} (starts : startsWith p line = true)
    (copied : start + line.length ≤ n) : seen p start line n = some line := by
  have fits := (startsWith_iff.mp starts).length_le
  rw [seen, if_pos (by omega), List.take_of_length_le (by omega)]

end Ndt.Shell
