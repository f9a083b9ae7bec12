/-
**What the words of a payload say.**

The parser goes through the words from left to right. What it ends with is, for each of the three kinds,
the value of the last word of that kind (`lastValue`), and `0` without one: `fold_word`.

* `values_framed` — the frame of the line counts for nothing: ` ===` adds no word of a kind.
* `parseSentinel_frame` — the parser on a line that starts with the marker.
* `parseSentinel_resultLine` — the guest's line is read back as it was written, with or without the
  carriage return of a serial console.
-/

import Ndt.Host.Comparison
import Ndt.Guest.Tally

namespace Ndt.Host

open Shell

/-- The values of the words of a kind, in their order. -/
def values (kind : Text) (words : List Text) : List Text :=
  words.filterMap fun word => if startsWith kind word then some (trimPrefix kind word) else none

/-- The value of the last word of a kind, `0` if there is none. -/
def lastValue (kind : Text) (words : List Text) : Text := (values kind words).getLast?.getD "0".toList

theorem values_append (kind : Text) (front back : List Text) :
    values kind (front ++ back) = values kind front ++ values kind back := List.filterMap_append

theorem values_of_none {kind : Text} {words : List Text}
    (absent : ∀ word ∈ words, startsWith kind word = false) : values kind words = [] := by
  rw [values, List.filterMap_eq_nil_iff]
  intro word member
  rw [absent word member]
  rfl

theorem lastValue_of_none {kind : Text} {words : List Text}
    (absent : ∀ word ∈ words, startsWith kind word = false) : lastValue kind words = "0".toList := by
  rw [lastValue, values_of_none absent]
  rfl

theorem lastValue_cons {kind : Text} {words : List Text} (value : Text)
    (absent : ∀ word ∈ words, startsWith kind word = false) :
    lastValue kind ((kind ++ value) :: words) = value := by
  have front : values kind [kind ++ value] = [value] := by
    simp [values]
  rw [lastValue, ← List.singleton_append, values_append, values_of_none absent, front]
  rfl

theorem lastValue_concat (kind : Text) (words : List Text) (word : Text) :
    lastValue kind (words ++ [word]) =
      if startsWith kind word then trimPrefix kind word else lastValue kind words := by
  rw [lastValue, values_append]
  cases starts : startsWith kind word with
  | true => simp [values, starts]
  | false => simp [values, starts, lastValue]

/-- Two words of one length that are both prefixes are equal: a word is of one kind at most. -/
theorem kind_unique {first second word : Text} (starts : startsWith first word = true)
    (length : first.length = second.length) (different : first ≠ second) :
    startsWith second word = false := by
  rw [Bool.eq_false_iff]
  intro other
  refine different (List.IsPrefix.eq_of_length ?_ length)
  exact List.prefix_of_prefix_length_le (startsWith_iff.mp starts) (startsWith_iff.mp other) length.le

/-- **The parser keeps the last value of each kind.** -/
theorem fold_word (words : List Text) :
    words.foldl Counters.word .initial =
      ⟨lastValue "pass=".toList words, lastValue "fail=".toList words,
        lastValue "skip=".toList words⟩ := by
  have lengths : "pass=".toList.length = 5 ∧ "fail=".toList.length = 5 ∧ "skip=".toList.length = 5 := by
    decide
  obtain ⟨passLength, failLength, skipLength⟩ := lengths
  induction words using List.reverseRecOn with
  | nil => rfl
  | append_singleton words word ih =>
    rw [List.foldl_append, ih]
    simp only [lastValue_concat, List.foldl_cons, List.foldl_nil, Counters.word]
    cases pass : startsWith "pass=".toList word with
    | true =>
      have noFail : startsWith "fail=".toList word = false :=
        kind_unique pass (passLength.trans failLength.symm) (by decide)
      have noSkip : startsWith "skip=".toList word = false :=
        kind_unique pass (passLength.trans skipLength.symm) (by decide)
      rw [noFail, noSkip]
      rfl
    | false =>
      cases fail : startsWith "fail=".toList word with
      | true =>
        have noSkip : startsWith "skip=".toList word = false :=
          kind_unique fail (failLength.trans skipLength.symm) (by decide)
        rw [noSkip]
        rfl
      | false => cases skip : startsWith "skip=".toList word <;> rfl

/-! ### The frame of the line -/

/-- The frame of the line holds no word of a kind. -/
theorem fields_trimSuffix (t : Text) :
    fields t = fields (trimSuffix sentinelSuffix t) ∨
      fields t = fields (trimSuffix sentinelSuffix t) ++ ["===".toList] := by
  by_cases framed : sentinelSuffix <:+ t
  · right
    obtain ⟨front, rfl⟩ := framed
    rw [trimSuffix_append]
    exact fields_append_blank rfl front "===".toList
  · left
    rw [trimSuffix_of_not framed]

theorem lastValue_trimSuffix {kind : Text} (other : startsWith kind "===".toList = false) (t : Text) :
    lastValue kind (fields (trimSuffix sentinelSuffix t)) = lastValue kind (fields t) := by
  rcases fields_trimSuffix t with same | framed
  · rw [same]
  · rw [framed, lastValue_concat, other]
    rfl

/-- The counters of a text in which no word is expanded. -/
def countersOf (t : Text) : Counters :=
  ⟨lastValue "pass=".toList (fields t), lastValue "fail=".toList (fields t),
    lastValue "skip=".toList (fields t)⟩

/-- **The parser on a line that starts with the marker**: the text after it is an error, or it gives
the counters of its words. -/
theorem parseSentinel_frame {names : Pathnames} {t : Text}
    (alone : ∀ word ∈ fields t, names.expand word = [word]) :
    parseSentinel names (sentinelPrefix ++ t) =
      if startsWith "error=".toList (trimSuffix sentinelSuffix t) then
        .error (trimSuffix "'".toList (trimPrefix "'".toList
          (trimPrefix "error=".toList (trimSuffix sentinelSuffix t))))
      else .counters (countersOf t) := by
  have words : names.words (trimSuffix sentinelSuffix t) = fields (trimSuffix sentinelSuffix t) := by
    refine Pathnames.words_of_expand fun word member => alone word ?_
    rcases fields_trimSuffix t with same | framed
    · rwa [same]
    · rw [framed]
      exact List.mem_append_left _ member
  rw [parseSentinel, payload, trimPrefix_append, words, fold_word, lastValue_trimSuffix rfl,
    lastValue_trimSuffix rfl, lastValue_trimSuffix rfl]
  rfl

/-! ### The guest's line -/

open Guest (Tally resultLine)

/-- What may follow the line on a serial console. -/
def carriage (cr : Bool) : Text := if cr then ['\r'] else []

/-- The words of the guest's line after the first one. -/
def laterWords (tally : Tally) (ndtIter ndtBlktest : Text) : Text :=
  "fail=".toList ++ showInt tally.fail ++ ' ' :: ("skip=".toList ++ showInt tally.skip ++
    ' ' :: ("iter=".toList ++ ndtIter ++ ' ' :: ("test=".toList ++ ndtBlktest ++ sentinelSuffix)))

/-- The guest's line, taken apart at the counter of passes. -/
theorem resultLine_eq (tally : Tally) (ndtIter ndtBlktest : Text) :
    resultLine tally ndtIter ndtBlktest = sentinelPrefix ++ ("pass=".toList ++
      (showInt tally.pass ++ ' ' :: laterWords tally ndtIter ndtBlktest)) := by
  have front : "=== ".toList ++ "NDT_RESULT pass=".toList = sentinelPrefix ++ "pass=".toList := by
    decide
  have fail : " fail=".toList = ' ' :: "fail=".toList := rfl
  have skip : " skip=".toList = ' ' :: "skip=".toList := rfl
  have iter : " iter=".toList = ' ' :: "iter=".toList := rfl
  have test : " test=".toList = ' ' :: "test=".toList := rfl
  rw [← List.append_assoc sentinelPrefix, ← front]
  unfold resultLine Guest.ndtEmit laterWords
  simp only [fail, skip, iter, test, List.append_assoc, List.cons_append]
  rfl

/-- The words after the first one, and a carriage return. -/
theorem fields_laterWords (tally : Tally) {ndtIter ndtBlktest : Text} (iter : Solid ndtIter)
    (test : Solid ndtBlktest) (cr : Bool) :
    fields (laterWords tally ndtIter ndtBlktest ++ carriage cr) =
      ["fail=".toList ++ showInt tally.fail, "skip=".toList ++ showInt tally.skip,
        "iter=".toList ++ ndtIter, "test=".toList ++ ndtBlktest, "===".toList ++ carriage cr] := by
  have word : ∀ (name : Text) {value : Text} (rest : Text), Solid value → Solid name → name ≠ [] →
      fields (name ++ value ++ ' ' :: rest) = (name ++ value) :: fields rest := by
    intro name value rest solid' solid nonempty
    exact fields_word_blank (solid.append solid') (by simp [nonempty]) rfl rest
  have last : fields ("===".toList ++ carriage cr) = ["===".toList ++ carriage cr] := by
    cases cr <;> decide
  have suffix : sentinelSuffix ++ carriage cr = ' ' :: ("===".toList ++ carriage cr) := rfl
  have shape : laterWords tally ndtIter ndtBlktest ++ carriage cr =
      "fail=".toList ++ showInt tally.fail ++ ' ' :: ("skip=".toList ++ showInt tally.skip ++
        ' ' :: ("iter=".toList ++ ndtIter ++ ' ' :: ("test=".toList ++ ndtBlktest ++
          ' ' :: ("===".toList ++ carriage cr)))) := by
    rw [← suffix]
    unfold laterWords
    simp only [List.append_assoc, List.cons_append]
  rw [shape, word "fail=".toList _ (solid_showInt _) (by decide) (by decide),
    word "skip=".toList _ (solid_showInt _) (by decide) (by decide),
    word "iter=".toList _ iter (by decide) (by decide),
    word "test=".toList _ test (by decide) (by decide), last]

/-- No later word is a counter of passes. -/
theorem laterWords_pass (tally : Tally) {ndtIter ndtBlktest : Text} (iter : Solid ndtIter)
    (test : Solid ndtBlktest) (cr : Bool) :
    ∀ word ∈ fields (laterWords tally ndtIter ndtBlktest ++ carriage cr),
      startsWith "pass=".toList word = false := by
  rw [fields_laterWords tally iter test]
  intro word member
  simp only [List.mem_cons, List.not_mem_nil, or_false] at member
  rcases member with rfl | rfl | rfl | rfl | rfl <;> rfl

/-- The words of the guest's line. -/
theorem fields_resultLine (tally : Tally) {ndtIter ndtBlktest : Text} (iter : Solid ndtIter)
    (test : Solid ndtBlktest) (cr : Bool) :
    fields ("pass=".toList ++ (showInt tally.pass ++ ' ' :: laterWords tally ndtIter ndtBlktest) ++
        carriage cr) =
      ["pass=".toList ++ showInt tally.pass, "fail=".toList ++ showInt tally.fail,
        "skip=".toList ++ showInt tally.skip, "iter=".toList ++ ndtIter,
        "test=".toList ++ ndtBlktest, "===".toList ++ carriage cr] := by
  have first : Solid ("pass=".toList ++ showInt tally.pass) :=
    Solid.append (by decide) (solid_showInt _)
  rw [← List.append_assoc, List.append_assoc, List.cons_append,
    fields_word_blank first (by simp) rfl, fields_laterWords tally iter test]

/-- **The host reads the guest's line back as it was written**, with or without a carriage return. -/
theorem parseSentinel_resultLine (names : Pathnames) (tally : Tally) {ndtIter ndtBlktest : Text}
    (iter : Digits ndtIter) (test : Solid ndtBlktest) (plain : Plain ndtBlktest) (cr : Bool) :
    parseSentinel names (resultLine tally ndtIter ndtBlktest ++ carriage cr) =
      .counters ⟨showInt tally.pass, showInt tally.fail, showInt tally.skip⟩ := by
  have words := fields_resultLine tally iter.solid test cr
  have alone : ∀ word ∈ fields ("pass=".toList ++ (showInt tally.pass ++ ' ' ::
      laterWords tally ndtIter ndtBlktest) ++ carriage cr), names.expand word = [word] := by
    intro word member
    rw [words] at member
    refine names.plain word ?_
    simp only [List.mem_cons, List.not_mem_nil, or_false] at member
    rcases member with rfl | rfl | rfl | rfl | rfl | rfl
    · exact Plain.append (by decide) (plain_showInt _)
    · exact Plain.append (by decide) (plain_showInt _)
    · exact Plain.append (by decide) (plain_showInt _)
    · exact Plain.append (by decide) iter.plain
    · exact Plain.append (by decide) plain
    · cases cr <;> decide
  have noError : startsWith "error=".toList (trimSuffix sentinelSuffix ("pass=".toList ++
      (showInt tally.pass ++ ' ' :: laterWords tally ndtIter ndtBlktest) ++ carriage cr)) = false := by
    rw [Bool.eq_false_iff]
    intro error
    have all := startsWith_mono (trimSuffix_isPrefix _ _) error
    exact absurd all Bool.false_ne_true
  rw [resultLine_eq, List.append_assoc, parseSentinel_frame alone, noError, countersOf, words]
  rfl

end Ndt.Host
