/-
**Shell text: the operations a script applies to strings.**

* `trimPrefix`, `trimSuffix` — `${t#p}` and `${t%s}` for a literal pattern.
* `fields` — field splitting of an unquoted expansion under the default `IFS`; `Pathnames.words`
  adds the pathname expansion that follows it.
* `lines` — the lines of a file as line tools see them: an unterminated last line is a line.
* `commandOutput` — what `$(...)` keeps of an output: no NUL, no trailing newlines.
* `isNumeral` — `[[ t =~ ^[0-9]+$ ]]`.

A text is a list of characters, one for each byte.
-/

import Mathlib

namespace Ndt.Shell

/-- A string of the shell, or the content of a file. -/
abbrev Text := List Char

/-! ### Prefixes and suffixes -/

/-- The `case` pattern `p*` for a literal `p`. -/
def startsWith (p t : Text) : Bool := p.isPrefixOf t

/-- `${t#p}` for a literal `p`: one copy of `p` off the front, if it is there. -/
def trimPrefix (p t : Text) : Text := if startsWith p t then t.drop p.length else t

/-- `${t%s}` for a literal `s`: one copy of `s` off the end, if it is there. -/
def trimSuffix (s t : Text) : Text := if s.isSuffixOf t then t.take (t.length - s.length) else t

theorem startsWith_iff {p t : Text} : startsWith p t = true ↔ p <+: t :=
  List.isPrefixOf_iff_prefix

@[simp] theorem startsWith_append (p t : Text) : startsWith p (p ++ t) = true :=
  startsWith_iff.mpr (List.prefix_append p t)

/-- A cut-off copy of a text starts with nothing the whole text does not start with. -/
theorem startsWith_mono {p cut whole : Text} (isCut : cut <+: whole)
    (starts : startsWith p cut = true) : startsWith p whole = true :=
  startsWith_iff.mpr ((startsWith_iff.mp starts).trans isCut)

/-- A text that ends where a character outside `p` follows starts with all of `p` or with none. -/
theorem prefix_of_stop {p front back : Text} {stop : Char} (outside : stop ∉ p)
    (starts : p <+: front ++ stop :: back) : p <+: front := by
  rcases Nat.lt_or_ge front.length p.length with long | short
  · exfalso
    have through : front ++ [stop] <+: p := by
      refine List.prefix_of_prefix_length_le ⟨back, ?_⟩ starts ?_
      · rw [List.append_assoc]
        rfl
      · rw [List.length_append]
        exact long
    exact outside (through.subset (by simp))
  · exact List.prefix_of_prefix_length_le starts (List.prefix_append _ _) short

@[simp] theorem trimPrefix_append (p t : Text) : trimPrefix p (p ++ t) = t := by
  rw [trimPrefix, if_pos (startsWith_append p t), List.drop_left]

theorem trimPrefix_of_not {p t : Text} (absent : startsWith p t = false) : trimPrefix p t = t := by
  rw [trimPrefix, absent]
  rfl

@[simp] theorem trimSuffix_append (s t : Text) : trimSuffix s (t ++ s) = t := by
  have there : s.isSuffixOf (t ++ s) = true := List.isSuffixOf_iff_suffix.mpr (List.suffix_append t s)
  rw [trimSuffix, if_pos there, List.length_append, Nat.add_sub_cancel, List.take_left]

theorem trimSuffix_isPrefix (s t : Text) : trimSuffix s t <+: t := by
  unfold trimSuffix
  split
  · exact List.take_prefix _ _
  · exact List.prefix_rfl

theorem trimSuffix_of_not {s t : Text} (absent : ¬ s <:+ t) : trimSuffix s t = t := by
  rw [trimSuffix, if_neg (fun there => absent (List.isSuffixOf_iff_suffix.mp there))]

/-! ### Field splitting -/

/-- The characters of the default `IFS`. -/
def isBlank (c : Char) : Bool := c = ' ' || c = '\t' || c = '\n'

/-- No character separates fields. -/
def Solid (word : Text) : Prop := ∀ c ∈ word, isBlank c = false

instance (word : Text) : Decidable (Solid word) :=
  decidable_of_iff (word.all (!isBlank ·) = true) (by simp [Solid])

theorem Solid.append {front back : Text} (first : Solid front) (second : Solid back) :
    Solid (front ++ back) := by
  intro c member
  rcases List.mem_append.mp member with inside | inside
  · exact first c inside
  · exact second c inside

/-- Field splitting of an unquoted expansion under the default `IFS`. -/
def fields (t : Text) : List Text := (t.splitOnP isBlank).filter (fun word => !word.isEmpty)

@[simp] theorem fields_nil : fields [] = [] := rfl

/-- **Fields split at a blank.** -/
theorem fields_append_blank {c : Char} (blank : isBlank c = true) (front back : Text) :
    fields (front ++ c :: back) = fields front ++ fields back := by
  unfold fields
  rw [List.splitOnP_append_cons front back blank, List.filter_append]

theorem fields_blank {c : Char} (blank : isBlank c = true) (t : Text) : fields (c :: t) = fields t :=
  fields_append_blank blank [] t

theorem fields_word {word : Text} (solid : Solid word) (nonempty : word ≠ []) :
    fields word = [word] := by
  rw [fields, List.splitOnP_eq_singleton solid, List.filter_cons_of_pos (by simpa using nonempty)]
  rfl

theorem fields_word_blank {word : Text} (solid : Solid word) (nonempty : word ≠ []) {c : Char}
    (blank : isBlank c = true) (t : Text) : fields (word ++ c :: t) = word :: fields t := by
  rw [fields_append_blank blank, fields_word solid nonempty]
  rfl

/-- The first field of a text that starts with a nonblank character. -/
theorem fields_span {t : Text} (starts : t.takeWhile (!isBlank ·) ≠ []) :
    fields t = t.takeWhile (!isBlank ·) :: fields (t.dropWhile (!isBlank ·)) := by
  have solid : Solid (t.takeWhile (!isBlank ·)) := fun c taken => by
    simpa using List.mem_takeWhile_imp taken
  have parts := List.takeWhile_append_dropWhile (p := (!isBlank ·)) (l := t)
  cases rest : t.dropWhile (!isBlank ·) with
  | nil =>
    rw [rest, List.append_nil] at parts
    rw [parts] at solid starts ⊢
    exact fields_word solid starts
  | cons sep later =>
    have stop : isBlank sep = true := by
      have head := List.head_dropWhile_not (!isBlank ·) (l := t) (by rw [rest]; simp)
      simpa [rest] using head
    rw [fields_blank stop]
    conv_lhs => rw [← parts, rest]
    exact fields_word_blank solid starts stop later

/-- A solid word glued to a text: the first field grows, the others are those of the text. -/
theorem fields_glued {word : Text} (solid : Solid word) (nonempty : word ≠ []) (t : Text) :
    fields (word ++ t) = (word ++ t.takeWhile (!isBlank ·)) :: fields (t.dropWhile (!isBlank ·)) := by
  have all : ∀ c ∈ word, (!isBlank c) = true := fun c member => by simp [solid c member]
  have first : (word ++ t).takeWhile (!isBlank ·) = word ++ t.takeWhile (!isBlank ·) :=
    List.takeWhile_append_of_pos all
  have others : (word ++ t).dropWhile (!isBlank ·) = t.dropWhile (!isBlank ·) :=
    List.dropWhile_append_of_pos all
  rw [fields_span (by rw [first]; simp [nonempty]), first, others]

/-- **The fields of two texts put together**: those of each, except that the last field of the first
text and the first field of the second become one if no blank stands between them. -/
theorem fields_append (front back : Text) :
    fields (front ++ back) = fields front ++ fields back ∨
      ∃ before last first after, fields front = before ++ [last] ∧ fields back = first :: after ∧
        first <+: back ∧ fields (front ++ back) = before ++ (last ++ first) :: after := by
  induction size : front.length using Nat.strong_induction_on generalizing front with
  | _ count ih =>
    by_cases blanks : ∃ c ∈ front, isBlank c = true
    · obtain ⟨c, member, blank⟩ := blanks
      obtain ⟨start, rest, rfl⟩ := List.append_of_mem member
      have shorter : rest.length < count := by
        rw [← size, List.length_append, List.length_cons]
        omega
      rw [List.append_assoc, List.cons_append, fields_append_blank blank, fields_append_blank blank]
      rcases ih rest.length shorter rest rfl with apart | ⟨before, last, first, after, split, split',
        starts, glued⟩
      · exact Or.inl (by rw [apart, List.append_assoc])
      · refine Or.inr ⟨fields start ++ before, last, first, after, ?_, split', starts, ?_⟩
        · rw [split, List.append_assoc]
        · rw [glued, List.append_assoc]
    · have solid : Solid front := fun c member => by
        rw [Bool.eq_false_iff]
        exact fun blank => blanks ⟨c, member, blank⟩
      by_cases empty : front = []
      · subst empty
        exact Or.inl rfl
      rw [fields_word solid empty]
      by_cases starts : back.takeWhile (!isBlank ·) = []
      · left
        cases back with
        | nil => rw [List.append_nil, fields_word solid empty]; rfl
        | cons c back =>
          have blank : isBlank c = true := by simpa using starts
          rw [fields_word_blank solid empty blank, fields_blank blank]
          rfl
      · exact Or.inr ⟨[], front, _, _, rfl, fields_span starts, List.takeWhile_prefix _,
          fields_glued solid empty back⟩

/-- The fields of a cut-off text are fields of the text, but for the last one, which may be cut
off. -/
theorem exists_field_of_prefix {cut whole : Text} (isCut : cut <+: whole) {word : Text}
    (member : word ∈ fields cut) : ∃ all ∈ fields whole, word <+: all := by
  obtain ⟨rest, rfl⟩ := isCut
  rcases fields_append cut rest with apart | ⟨before, last, first, after, split, _, _, glued⟩
  · exact ⟨word, by rw [apart]; exact List.mem_append_left _ member, List.prefix_rfl⟩
  · rw [split] at member
    rw [glued]
    rcases List.mem_append.mp member with early | late
    · exact ⟨word, List.mem_append_left _ early, List.prefix_rfl⟩
    · rw [List.mem_singleton.mp late]
      exact ⟨last ++ first, by simp, List.prefix_append _ _⟩

/-! ### Pathname expansion -/

/-- The characters that make a word a pattern. -/
def isGlob (c : Char) : Bool := c = '*' || c = '?' || c = '[' || c = '\\'

/-- No character of the word makes it a pattern. -/
def Plain (word : Text) : Prop := ∀ c ∈ word, isGlob c = false

instance (word : Text) : Decidable (Plain word) :=
  decidable_of_iff (word.all (!isGlob ·) = true) (by simp [Plain])

theorem Plain.append {front back : Text} (first : Plain front) (second : Plain back) :
    Plain (front ++ back) := by
  intro c member
  rcases List.mem_append.mp member with inside | inside
  · exact first c inside
  · exact second c inside

/-- **The files of a working directory, as pathname expansion sees them.** `expand` gives the words
that replace a word; a word that is no pattern is left alone. -/
structure Pathnames where
  expand : Text → List Text
  plain : ∀ word, Plain word → expand word = [word]

namespace Pathnames

/-- A directory in which no pattern matches a file: every word is left alone. -/
def empty : Pathnames := ⟨fun word => [word], fun _ _ => rfl⟩

/-- The words of an unquoted expansion: field splitting, then pathname expansion. -/
def words (names : Pathnames) (t : Text) : List Text := (fields t).flatMap names.expand

theorem words_of_expand {names : Pathnames} {t : Text}
    (alone : ∀ word ∈ fields t, names.expand word = [word]) : names.words t = fields t := by
  rw [words, List.flatMap_congr alone]
  exact List.flatMap_singleton' _

theorem words_of_plain (names : Pathnames) {t : Text} (plain : ∀ word ∈ fields t, Plain word) :
    names.words t = fields t :=
  words_of_expand fun word member => names.plain word (plain word member)

end Pathnames

/-! ### Lines -/

/-- The lines of a file. What follows the last newline is a line if it is not empty. -/
def lines : Text → List Text
  | [] => []
  | c :: rest =>
    if c = '\n' then [] :: lines rest
    else match lines rest with
      | [] => [[c]]
      | line :: later => (c :: line) :: later

@[simp] theorem lines_nil : lines [] = [] := rfl

theorem lines_line (line : Text) (single : '\n' ∉ line) (rest : Text) :
    lines (line ++ '\n' :: rest) = line :: lines rest := by
  induction line with
  | nil => rfl
  | cons c line ih =>
    have notNewline : c ≠ '\n' := fun same => single (by rw [same]; exact List.mem_cons_self)
    have shorter := ih fun inside => single (List.mem_cons_of_mem _ inside)
    rw [List.cons_append, lines, if_neg notNewline, shorter]

theorem lines_unterminated {line : Text} (single : '\n' ∉ line) (nonempty : line ≠ []) :
    lines line = [line] := by
  induction line with
  | nil => exact absurd rfl nonempty
  | cons c line ih =>
    have notNewline : c ≠ '\n' := fun same => single (by rw [same]; exact List.mem_cons_self)
    rw [lines, if_neg notNewline]
    cases line with
    | nil => rfl
    | cons d line =>
      rw [ih (fun inside => single (List.mem_cons_of_mem _ inside)) (List.cons_ne_nil _ _)]

/-- **Induction over the lines of a text**: an unterminated line, or a line, its newline and more. -/
theorem line_induction {P : Text → Prop} (last : ∀ line, '\n' ∉ line → P line)
    (more : ∀ line rest, '\n' ∉ line → P rest → P (line ++ '\n' :: rest)) (t : Text) : P t := by
  induction size : t.length using Nat.strong_induction_on generalizing t with
  | _ size ih =>
    by_cases broken : '\n' ∈ t
    · obtain ⟨line, rest, rfl, single⟩ := List.eq_append_cons_of_mem broken
      refine more line rest single (ih rest.length ?_ rest rfl)
      rw [← size, List.length_append, List.length_cons]
      omega
    · exact last t broken

/-- The text of complete lines: each with its newline. -/
def unlines (rows : List Text) : Text := rows.flatMap (· ++ ['\n'])

@[simp] theorem unlines_nil : unlines [] = [] := rfl

@[simp] theorem unlines_cons (row : Text) (rows : List Text) :
    unlines (row :: rows) = row ++ '\n' :: unlines rows := by
  simp [unlines]

theorem lines_unlines (rows : List Text) (single : ∀ row ∈ rows, '\n' ∉ row) (rest : Text) :
    lines (unlines rows ++ rest) = rows ++ lines rest := by
  induction rows with
  | nil => rfl
  | cons row rows ih =>
    rw [unlines_cons, List.append_assoc, List.cons_append, lines_line row (single row (by simp)),
      ih fun other member => single other (by simp [member])]
    rfl

/-- No line holds a newline. -/
theorem newline_not_mem_line {line : Text} : ∀ {t : Text}, line ∈ lines t → '\n' ∉ line
  | [], member => by cases member
  | c :: rest, member => by
    rw [lines] at member
    split at member
    · rcases List.mem_cons.mp member with rfl | later
      · exact List.not_mem_nil
      · exact newline_not_mem_line later
    · rename_i notNewline
      cases found : lines rest with
      | nil =>
        rw [found] at member
        rw [List.mem_singleton.mp member, List.mem_singleton]
        exact fun same => notNewline same.symm
      | cons first later =>
        rw [found] at member
        rcases List.mem_cons.mp member with rfl | inLater
        · have there : first ∈ lines rest := by rw [found]; exact List.mem_cons_self
          have clean := newline_not_mem_line there
          rw [List.mem_cons, not_or]
          exact ⟨fun same => notNewline same.symm, clean⟩
        · exact newline_not_mem_line (t := rest) (by rw [found]; exact List.mem_cons_of_mem _ inLater)

/-- A character of a line is a character of the file. -/
theorem mem_of_mem_lines {line : Text} {c : Char} {t : Text} (member : line ∈ lines t)
    (inside : c ∈ line) : c ∈ t := by
  induction t using line_induction with
  | last row single =>
    by_cases empty : row = []
    · subst empty
      cases member
    · rw [lines_unterminated single empty, List.mem_singleton] at member
      rwa [← member]
  | more row rest single ih =>
    rw [lines_line row single] at member
    rcases List.mem_cons.mp member with rfl | later
    · exact List.mem_append_left _ inside
    · exact List.mem_append_right _ (List.mem_cons_of_mem _ (ih later))

/-! ### Command output and numerals -/

/-- What `$(...)` keeps of a command's output: NUL bytes and trailing newlines are dropped. -/
def commandOutput (output : Text) : Text := (output.filter (· ≠ '\x00')).rdropWhile (· = '\n')

theorem commandOutput_line {line : Text} (single : '\n' ∉ line) (clean : '\x00' ∉ line) :
    commandOutput (line ++ ['\n']) = line := by
  have kept : (line ++ ['\n']).filter (· ≠ '\x00') = line ++ ['\n'] := by
    rw [List.filter_eq_self]
    intro c member
    rcases List.mem_append.mp member with inside | last
    · exact decide_eq_true fun same => clean (same ▸ inside)
    · rw [List.mem_singleton.mp last]
      decide
  rw [commandOutput, kept, List.rdropWhile_concat_pos _ _ _ (by decide)]
  cases line using List.reverseRecOn with
  | nil => rfl
  | append_singleton front last =>
    apply List.rdropWhile_concat_neg
    simp only [decide_eq_true_eq]
    rintro rfl
    exact single (by simp)

/-- `[[ t =~ ^[0-9]+$ ]]`. -/
def isNumeral (t : Text) : Bool := !t.isEmpty && t.all Char.isDigit

/-- No character but digits; the text may be empty. -/
def Digits (t : Text) : Prop := ∀ c ∈ t, c.isDigit = true

instance (t : Text) : Decidable (Digits t) :=
  decidable_of_iff (t.all Char.isDigit = true) (by simp [Digits])

theorem isNumeral_iff {t : Text} : isNumeral t = true ↔ t ≠ [] ∧ Digits t := by
  simp [isNumeral, Digits]

theorem Digits.of_isNumeral {t : Text} (numeral : isNumeral t = true) : Digits t :=
  (isNumeral_iff.mp numeral).2

/-- A digit separates no fields. -/
theorem isBlank_of_isDigit {c : Char} (digit : c.isDigit = true) : isBlank c = false := by
  by_contra blank
  rw [Bool.not_eq_false, isBlank, Bool.or_eq_true, Bool.or_eq_true] at blank
  rcases blank with (same | same) | same <;>
    rw [of_decide_eq_true same] at digit <;> exact absurd digit (by decide)

/-- A digit makes no pattern. -/
theorem isGlob_of_isDigit {c : Char} (digit : c.isDigit = true) : isGlob c = false := by
  by_contra glob
  rw [Bool.not_eq_false, isGlob, Bool.or_eq_true, Bool.or_eq_true, Bool.or_eq_true] at glob
  rcases glob with ((same | same) | same) | same <;>
    rw [of_decide_eq_true same] at digit <;> exact absurd digit (by decide)

theorem Digits.solid {t : Text} (digits : Digits t) : Solid t :=
  fun c member => isBlank_of_isDigit (digits c member)

theorem Digits.plain {t : Text} (digits : Digits t) : Plain t :=
  fun c member => isGlob_of_isDigit (digits c member)

end Ndt.Shell
