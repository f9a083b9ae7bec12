/-
**The filters of `./check`: under which name `_find_tests` looks a filter up.**

* `isBad` — the filters that are rejected: absolute, or with a component `..` (`isBad_iff`).
* `testName` — the substitutions on a filter that is not.
* `components_testName` — what they amount to: the components that name something, the last component as
  it stands, and no leading `tests`. The first substitution leaves a slash behind a leading `./` alone,
  and that slash stays.
* `testName_eq_path` — so two spellings of one path give one name, when the last component names
  something.
-/

import Ndt.Shell.Path

namespace Ndt.Check

open Shell

/-! ### Bad filters -/

/-- `\.\.(/|$)` matches at the front. -/
def parentAhead (t : Text) : Bool := t = ['.', '.'] || startsWith ['.', '.', '/'] t

/-- `(^|/)\.\.(/|$)` matches somewhere; `start`: what is left starts the filter or follows a slash. -/
def hasParentFrom : Bool → Text → Bool
  | start, [] => start && parentAhead []
  | start, c :: rest => (start && parentAhead (c :: rest)) || hasParentFrom (c = '/') rest

/-- `[[ $filter =~ ^/|(^|/)\.\.(/|$) ]]` -/
def isBad (filter : Text) : Bool := startsWith ['/'] filter || hasParentFrom true filter

theorem parentAhead_last {part : Text} (absent : '/' ∉ part) :
    parentAhead part = decide (part = ['.', '.']) := by
  have last : startsWith (['.', '.'] ++ ['/']) part = false := startsWith_unit_last absent
  rw [parentAhead, show ['.', '.', '/'] = ['.', '.'] ++ ['/'] from rfl, last, Bool.or_false]

theorem parentAhead_part {part : Text} (absent : '/' ∉ part) (t : Text) :
    parentAhead (part ++ '/' :: t) = decide (part = ['.', '.']) := by
  have starts : startsWith (['.', '.'] ++ ['/']) (part ++ '/' :: t) = decide (part = ['.', '.']) :=
    startsWith_unit (by decide) absent t
  have longer : part ++ '/' :: t ≠ ['.', '.'] := by
    intro same
    have slash : '/' ∈ part ++ '/' :: t := by simp
    rw [same] at slash
    exact absurd slash (by decide)
  rw [parentAhead, show ['.', '.', '/'] = ['.', '.'] ++ ['/'] from rfl, starts, decide_eq_false longer,
    Bool.false_or]

/-- Inside a component there is nothing to find. -/
theorem hasParentFrom_part {part : Text} (absent : '/' ∉ part) (t : Text) :
    hasParentFrom false (part ++ '/' :: t) = hasParentFrom true t := by
  induction part with
  | nil => rfl
  | cons c rest ih =>
    have plain : c ≠ '/' := fun slash => absent (slash ▸ List.mem_cons_self)
    rw [List.cons_append, hasParentFrom, decide_eq_false plain,
      ih fun inside => absent (List.mem_cons_of_mem _ inside)]
    rfl

theorem hasParentFrom_slashless {part : Text} (absent : '/' ∉ part) : hasParentFrom false part = false := by
  induction part with
  | nil => rfl
  | cons c rest ih =>
    have plain : c ≠ '/' := fun slash => absent (slash ▸ List.mem_cons_self)
    rw [hasParentFrom, decide_eq_false plain, ih fun inside => absent (List.mem_cons_of_mem _ inside)]
    rfl

theorem hasParentFrom_path {parts : List Text} (whole : Parts parts) (some : parts ≠ []) :
    hasParentFrom true (path parts) = true ↔ ['.', '.'] ∈ parts := by
  induction parts with
  | nil => exact absurd rfl some
  | cons part parts ih =>
    have absent : '/' ∉ part := whole part List.mem_cons_self
    have later := ih fun other inside => whole other (List.mem_cons_of_mem _ inside)
    -- the component at the front, and what comes behind it
    have front : ∀ t, hasParentFrom true (part ++ t) =
        (parentAhead (part ++ t) || hasParentFrom false (part ++ t)) := by
      intro t
      cases part ++ t with
      | nil => rfl
      | cons c rest => rfl
    cases parts with
    | nil =>
      have here := front []
      rw [List.append_nil, parentAhead_last absent, hasParentFrom_slashless absent, Bool.or_false] at here
      rw [path_singleton, here, decide_eq_true_iff, List.mem_singleton, eq_comm]
    | cons next rest =>
      have more : next :: rest ≠ [] := List.cons_ne_nil _ _
      rw [path_cons part more, front, parentAhead_part absent, hasParentFrom_part absent, Bool.or_eq_true,
        decide_eq_true_iff, later more, List.mem_cons (a := ['.', '.']) (b := part), eq_comm]

/-- **A filter is bad** if it is absolute or has a component `..`. -/
theorem isBad_iff (filter : Text) :
    isBad filter = true ↔ startsWith ['/'] filter = true ∨ ['.', '.'] ∈ components filter := by
  have parents := hasParentFrom_path (parts_components filter) (components_ne_nil filter)
  rw [path_components] at parents
  rw [isBad, Bool.or_eq_true, parents]

/-! ### The name of a filter -/

/-- The filter after its substitutions: leading and internal `.` components, repeated slashes and a leading
`tests/` are removed. -/
def testName (filter : Text) : Text :=
  trimPrefix "tests/".toList (squeeze [] (squeeze ['.'] (dropFront ['.'] filter)))

/-- A component that names something. -/
def proper (part : Text) : Bool := part ≠ [] && part ≠ ['.']

/-- Without one leading `tests`, if that is not all. -/
def withoutTests (parts : List Text) : List Text :=
  if parts.head? = some "tests".toList ∧ 1 < parts.length then parts.tail else parts

/-- The components that name something, behind a first one, and the last one. -/
def tidy (parts : List Text) : List Text := parts.dropLast.filter proper ++ parts.getLast?.toList

theorem dropInner_both (parts : List Text) : dropInner [] (dropInner ['.'] parts) = tidy parts := by
  cases parts using List.reverseRecOn with
  | nil => rfl
  | append_singleton front last =>
    simp only [dropInner, tidy, List.dropLast_concat, List.getLast?_concat, Option.toList_some,
      List.filter_filter]
    congr 2

theorem trimPrefix_tests {parts : List Text} (whole : Parts parts) :
    trimPrefix "tests/".toList (path parts) = path (withoutTests parts) := by
  have unit : "tests/".toList = "tests".toList ++ ['/'] := by decide
  cases parts with
  | nil => decide
  | cons part parts =>
    have absent : '/' ∉ part := whole part List.mem_cons_self
    cases parts with
    | nil =>
      rw [path_singleton, trimPrefix_of_not (by rw [unit]; exact startsWith_unit_last absent), withoutTests,
        if_neg (by simp), path_singleton]
    | cons next rest =>
      have more : next :: rest ≠ [] := List.cons_ne_nil _ _
      rw [path_cons part more, withoutTests]
      by_cases same : part = "tests".toList
      · rw [if_pos ⟨by rw [same]; rfl, by simp⟩, same, unit]
        have trimmed := trimPrefix_append ("tests".toList ++ ['/']) (path (next :: rest))
        rw [List.append_assoc] at trimmed
        exact trimmed
      · rw [if_neg fun both => same (Option.some.inj both.1), ← path_cons part more, trimPrefix_of_not]
        rw [path_cons part more, unit, startsWith_unit (by decide) absent, decide_eq_false same]

theorem tidy_cons {parts : List Text} (part : Text) (some : parts ≠ []) :
    tidy (part :: parts) = if proper part then part :: tidy parts else tidy parts := by
  obtain ⟨next, rest, rfl⟩ := List.exists_cons_of_ne_nil some
  unfold tidy
  rw [List.dropLast_cons_cons, List.getLast?_cons_cons, List.filter_cons]
  cases proper part <;> rfl

theorem tidy_ne_nil {parts : List Text} (some : parts ≠ []) : tidy parts ≠ [] := by
  rw [tidy, List.getLast?_eq_some_getLast some]
  simp

/-- Leading `.` components are no part of the tidy components. -/
theorem tidy_dropLeading (parts : List Text) : tidy (dropLeading ['.'] parts) = tidy parts := by
  induction parts with
  | nil => rfl
  | cons part parts ih =>
    cases parts with
    | nil => rfl
    | cons next rest =>
      have more : next :: rest ≠ [] := List.cons_ne_nil _ _
      rw [dropLeading_cons _ _ more]
      by_cases dot : part = ['.']
      · rw [if_pos dot, ih, tidy_cons part more, if_neg (by rw [dot]; decide)]
      · rw [if_neg dot]

theorem mem_tidy {part : Text} {parts : List Text} (member : part ∈ tidy parts) : part ∈ parts := by
  rcases List.mem_append.mp member with front | last
  · exact List.mem_of_mem_dropLast (List.mem_of_mem_filter front)
  · exact List.mem_of_getLast? (Option.mem_toList.mp last)

/-- What is left at the front when the leading `.` components are gone, if that is a slash. -/
def leadingSlash (filter : Text) : List Text :=
  if startsWith ['/'] (dropFront ['.'] filter) then [[]] else []

/-- The first component stays; those behind it are tidied. -/
theorem spelled_eq (filter : Text) :
    squeeze [] (squeeze ['.'] (dropFront ['.'] filter)) =
      path (leadingSlash filter ++ tidy (components filter)) := by
  have whole := parts_components filter
  have front : dropFront ['.'] filter = path (dropLeading ['.'] (components filter)) := by
    rw [← dropFront_path (by decide) whole, path_components]
  rw [leadingSlash, front, ← tidy_dropLeading]
  have left : Parts (dropLeading ['.'] (components filter)) := fun part inside => whole part (mem_dropLeading inside)
  cases split : dropLeading ['.'] (components filter) with
  | nil => rfl
  | cons part parts =>
    rw [split] at left
    have absent : '/' ∉ part := left part List.mem_cons_self
    have tail : Parts (part :: dropInner ['.'] parts) := by
      rintro other (_ | ⟨_, inside⟩)
      · exact absent
      · exact left other (List.mem_cons_of_mem _ (mem_dropInner inside))
    rw [squeeze_path (by decide) part left, squeeze_path (by decide) part tail, dropInner_both]
    cases parts with
    | nil =>
      rw [path_singleton, show (['/'] : Text) = [] ++ ['/'] from rfl, startsWith_unit_last absent]
      rfl
    | cons next rest =>
      have more : next :: rest ≠ [] := List.cons_ne_nil _ _
      have slash : startsWith ([] ++ ['/']) (part ++ '/' :: path (next :: rest)) = decide (part = []) :=
        startsWith_unit List.not_mem_nil absent (path (next :: rest))
      rw [path_cons part more, show (['/'] : Text) = [] ++ ['/'] from rfl, slash, tidy_cons part more]
      by_cases empty : part = []
      · rw [empty]
        rfl
      · have named : proper part = true := by simp [proper, empty, ne_of_dropLeading split]
        rw [decide_eq_false empty, if_neg Bool.false_ne_true, if_pos named]
        rfl

theorem mem_withoutTests {part : Text} {parts : List Text} (member : part ∈ withoutTests parts) :
    part ∈ parts := by
  unfold withoutTests at member
  split at member
  · exact List.mem_of_mem_tail member
  · exact member

theorem withoutTests_ne_nil {parts : List Text} (some : parts ≠ []) : withoutTests parts ≠ [] := by
  unfold withoutTests
  split
  · rename_i both
    rw [← List.length_pos_iff, List.length_tail]
    omega
  · exact some

/-- The components of a spelling are components of the filter, or the empty one in front. -/
theorem mem_spelled {part : Text} {filter : Text}
    (member : part ∈ leadingSlash filter ++ tidy (components filter)) :
    part = [] ∨ part ∈ components filter := by
  rcases List.mem_append.mp member with lead | inside
  · refine .inl ?_
    unfold leadingSlash at lead
    split at lead
    · exact List.mem_singleton.mp lead
    · exact absurd lead List.not_mem_nil
  · exact .inr (mem_tidy inside)

theorem parts_spelled (filter : Text) : Parts (leadingSlash filter ++ tidy (components filter)) := by
  intro part member
  rcases mem_spelled member with rfl | inside
  · exact List.not_mem_nil
  · exact parts_components filter part inside

theorem testName_eq (filter : Text) :
    testName filter = path (withoutTests (leadingSlash filter ++ tidy (components filter))) := by
  rw [testName, spelled_eq, trimPrefix_tests (parts_spelled filter)]

/-- **The name of a filter that is not rejected**: its components without those that name nothing, the last
one as it stands, and without a leading `tests`. No step leads out of `tests`. -/
theorem components_testName {filter : Text} (good : isBad filter = false) :
    components (testName filter) = withoutTests (leadingSlash filter ++ tidy (components filter)) ∧
      ['.', '.'] ∉ components (testName filter) := by
  have some : leadingSlash filter ++ tidy (components filter) ≠ [] :=
    List.append_ne_nil_of_right_ne_nil _ (tidy_ne_nil (components_ne_nil filter))
  have whole : Parts (withoutTests (leadingSlash filter ++ tidy (components filter))) :=
    fun part inside => parts_spelled filter part (mem_withoutTests inside)
  have named : components (testName filter) =
      withoutTests (leadingSlash filter ++ tidy (components filter)) := by
    rw [testName_eq, components_path whole (withoutTests_ne_nil some)]
  refine ⟨named, fun parent => ?_⟩
  rw [named] at parent
  rcases mem_spelled (mem_withoutTests parent) with empty | inside
  · exact absurd empty (by decide)
  · have bad := (isBad_iff filter).mpr (.inr inside)
    rw [good] at bad
    cases bad

theorem components_testName_meta :
    components (testName "./tests//./meta/.//007".toList) = ["meta".toList, "007".toList] ∧
      ['.', '.'] ∉ components (testName "./tests//./meta/.//007".toList) := by
  have good : isBad "./tests//./meta/.//007".toList = false := by decide
  have named := components_testName good
  refine ⟨named.1.trans ?_, named.2⟩
  decide

theorem tidy_of_last {parts : List Text} (last : ∀ part ∈ parts.getLast?, proper part = true) :
    tidy parts = parts.filter proper := by
  cases parts using List.reverseRecOn with
  | nil => rfl
  | append_singleton front final =>
    have named : proper final = true := last final (by simp)
    rw [tidy, List.dropLast_concat, List.getLast?_concat, List.filter_append,
      List.filter_cons_of_pos named]
    rfl

/-- A filter whose last component names something, and in which no removed leading `./` lays a slash bare. -/
structure Clean (filter : Text) : Prop where
  last : ∀ part ∈ (components filter).getLast?, proper part = true
  noSlash : leadingSlash filter = []

instance (filter : Text) : Decidable (Clean filter) :=
  decidable_of_iff ((∀ part ∈ (components filter).getLast?, proper part = true) ∧ leadingSlash filter = [])
    ⟨fun both => ⟨both.1, both.2⟩, fun clean => ⟨clean.last, clean.noSlash⟩⟩

/-- **The file a filter names**, whatever its spelling. -/
def filePath (filter : Text) : List Text := withoutTests ((components filter).filter proper)

/-- **Spellings of one path have one name.** -/
theorem testName_eq_path {filter : Text} (clean : Clean filter) : testName filter = path (filePath filter) := by
  rw [testName_eq, clean.noSlash, List.nil_append, tidy_of_last clean.last, filePath]

end Ndt.Check
