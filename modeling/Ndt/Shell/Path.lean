/-
**Paths: the components of a text between its slashes, and the substitutions that edit them.**

* `components`, `path` — a text is split at every `/` and joined again.
* `dropFront unit` — `${t##+(unit/)}`: the components `unit` off the front.
* `squeeze unit` — `${t//\/+(unit\/)/\/}`: the components `unit` out of the middle. With the empty unit
  it makes one slash of several.
* `dirPart` — `${t%/*}`: a text up to its last slash.

Each substitution scans the characters from left to right; `path_dropFront`, `path_squeeze` and
`dirPart_path` say what it does to the components. None of the first two touches the last component.
-/

import Ndt.Shell.Text

namespace Ndt.Shell

/-! ### Components -/

/-- What stands between the slashes. -/
def components (t : Text) : List Text := t.splitOn '/'

/-- Components with slashes between them. -/
def path (parts : List Text) : Text := ['/'].intercalate parts

/-- No component holds a slash. -/
def Parts (parts : List Text) : Prop := ∀ part ∈ parts, '/' ∉ part

@[simp] theorem path_components (t : Text) : path (components t) = t := List.intercalate_splitOn '/'

theorem components_path {parts : List Text} (slashless : Parts parts) (some : parts ≠ []) :
    components (path parts) = parts :=
  List.splitOn_intercalate '/' slashless some

theorem components_ne_nil (t : Text) : components t ≠ [] := List.splitOnP_ne_nil _ _

theorem parts_components (t : Text) : Parts (components t) := by
  intro part member
  induction t generalizing part with
  | nil =>
    rw [List.mem_singleton.mp member]
    exact List.not_mem_nil
  | cons c rest ih =>
    rw [components, List.splitOn_cons_eq_if_modifyHead] at member
    by_cases slash : c = '/'
    · rw [if_pos (by simpa using slash)] at member
      rcases List.mem_cons.mp member with rfl | later
      · exact List.not_mem_nil
      · exact ih part later
    · rw [if_neg (by simpa using slash)] at member
      cases split : components rest with
      | nil => exact absurd split (components_ne_nil rest)
      | cons first others =>
        rw [← components, split] at member
        rcases List.mem_cons.mp member with rfl | later
        · have front : '/' ∉ first := ih first (by rw [split]; exact List.mem_cons_self)
          simpa [front] using Ne.symm slash
        · exact ih part (by rw [split]; exact List.mem_cons_of_mem _ later)

@[simp] theorem path_singleton (part : Text) : path [part] = part := List.intercalate_singleton

theorem path_cons {parts : List Text} (part : Text) (some : parts ≠ []) :
    path (part :: parts) = part ++ '/' :: path parts := by
  rw [path, List.intercalate_cons_of_ne_nil some, List.append_assoc]
  rfl


/-! ### The substitutions -/

/-- `${t##+(unit/)}`, with the number of characters still to skip. -/
def dropFrontFrom (unit : Text) : ℕ → Text → Text
  | _, [] => []
  | skip + 1, _ :: rest => dropFrontFrom unit skip rest
  | 0, c :: rest =>
    if startsWith (unit ++ ['/']) (c :: rest) then dropFrontFrom unit unit.length rest else c :: rest

/-- `${t##+(unit/)}`: the longest front made of copies of `unit/` is removed. -/
def dropFront (unit t : Text) : Text := dropFrontFrom unit 0 t

/-- `${t//\/+(unit\/)/\/}`, with the number of characters still to skip; `inside`: behind a copy of `unit/`
that another copy may follow. -/
def squeezeFrom (unit : Text) : ℕ → Bool → Text → Text
  | _, _, [] => []
  | skip + 1, inside, _ :: rest => squeezeFrom unit skip inside rest
  | 0, inside, c :: rest =>
    if inside && startsWith (unit ++ ['/']) (c :: rest) then squeezeFrom unit unit.length true rest
    else if c = '/' && startsWith (unit ++ ['/']) rest then
      '/' :: squeezeFrom unit (unit.length + 1) true rest
    else c :: squeezeFrom unit 0 false rest

/-- `${t//\/+(unit\/)/\/}`: a slash and the copies of `unit/` behind it become one slash. -/
def squeeze (unit t : Text) : Text := squeezeFrom unit 0 false t

/-- `${t%/*}`: up to the last slash; a text without a slash is left as it is. -/
def dirPart (t : Text) : Text :=
  if '/' ∈ t then (t.reverse.dropWhile (· ≠ '/')).tail.reverse else t

/-! ### What they do to the components -/

/-- The components without the copies of `unit` among them; the last one stays. -/
def dropInner (unit : Text) (parts : List Text) : List Text :=
  parts.dropLast.filter (· ≠ unit) ++ parts.getLast?.toList

/-- The components without the copies of `unit` at their front; the last one stays. -/
def dropLeading (unit : Text) (parts : List Text) : List Text :=
  parts.dropLast.dropWhile (· = unit) ++ parts.getLast?.toList

@[simp] theorem dropInner_singleton (unit part : Text) : dropInner unit [part] = [part] := rfl

theorem dropInner_cons {parts : List Text} (unit part : Text) (some : parts ≠ []) :
    dropInner unit (part :: parts) =
      if part = unit then dropInner unit parts else part :: dropInner unit parts := by
  obtain ⟨next, rest, rfl⟩ := List.exists_cons_of_ne_nil some
  unfold dropInner
  rw [List.dropLast_cons_cons, List.getLast?_cons_cons, List.filter_cons]
  by_cases same : part = unit <;> simp [same]

theorem dropInner_ne_nil {parts : List Text} (unit : Text) (some : parts ≠ []) :
    dropInner unit parts ≠ [] := by
  rw [dropInner, List.getLast?_eq_some_getLast some]
  simp

@[simp] theorem dropLeading_singleton (unit part : Text) : dropLeading unit [part] = [part] := rfl

theorem dropLeading_cons {parts : List Text} (unit part : Text) (some : parts ≠ []) :
    dropLeading unit (part :: parts) = if part = unit then dropLeading unit parts else part :: parts := by
  obtain ⟨next, rest, rfl⟩ := List.exists_cons_of_ne_nil some
  unfold dropLeading
  rw [List.dropLast_cons_cons, List.getLast?_cons_cons, List.dropWhile_cons]
  by_cases same : part = unit
  · rw [if_pos same, if_pos (by simpa using same)]
  · rw [if_neg same, if_neg (by simpa using same), List.cons_append,
      List.getLast?_eq_some_getLast (List.cons_ne_nil next rest)]
    exact congrArg _ (List.dropLast_append_getLast (List.cons_ne_nil next rest))

theorem mem_dropInner {unit part : Text} {parts : List Text} (member : part ∈ dropInner unit parts) :
    part ∈ parts := by
  rcases List.mem_append.mp member with front | last
  · exact List.mem_of_mem_dropLast (List.mem_of_mem_filter front)
  · exact List.mem_of_getLast? (Option.mem_toList.mp last)

theorem mem_dropLeading {unit part : Text} {parts : List Text} (member : part ∈ dropLeading unit parts) :
    part ∈ parts := by
  rcases List.mem_append.mp member with front | last
  · exact List.mem_of_mem_dropLast ((List.dropWhile_sublist _).subset front)
  · exact List.mem_of_getLast? (Option.mem_toList.mp last)

/-- In front of another component there is no `unit` left. -/
theorem ne_of_dropLeading {unit part next : Text} {parts rest : List Text}
    (split : dropLeading unit parts = part :: next :: rest) : part ≠ unit := by
  induction parts with
  | nil => cases split
  | cons first parts ih =>
    cases parts with
    | nil => cases split
    | cons second others =>
      rw [dropLeading_cons _ _ (List.cons_ne_nil _ _)] at split
      by_cases same : first = unit
      · rw [if_pos same] at split
        exact ih split
      · rw [if_neg same] at split
        cases split
        exact same

section Scan

variable {unit : Text}

theorem startsWith_unit_last {t : Text} (absent : '/' ∉ t) : startsWith (unit ++ ['/']) t = false := by
  refine Bool.eq_false_iff.mpr fun starts => absent ?_
  exact (startsWith_iff.mp starts).subset (by simp)

/-- A copy of `unit/` in front of a component: the component is `unit`. -/
theorem startsWith_unit (slashless : '/' ∉ unit) {part : Text} (absent : '/' ∉ part) (rest : Text) :
    startsWith (unit ++ ['/']) (part ++ '/' :: rest) = decide (part = unit) := by
  rw [Bool.eq_iff_iff, startsWith_iff, decide_eq_true_iff]
  constructor
  · rintro ⟨more, same⟩
    have split : components (unit ++ '/' :: more) = components (part ++ '/' :: rest) := by
      rw [← same, List.append_assoc]
      rfl
    rw [components, components, List.splitOn_append_cons_self_of_not_mem slashless,
      List.splitOn_append_cons_self_of_not_mem absent] at split
    exact (List.cons.inj split).1.symm
  · rintro rfl
    exact ⟨rest, by simp⟩

theorem drop_unit (unit t : Text) : (unit ++ '/' :: t).drop (unit.length + 1) = t := by
  rw [List.drop_append, List.drop_of_length_le (Nat.le_succ _), Nat.add_sub_cancel_left]
  rfl

theorem dropFrontFrom_skip (skip : ℕ) (t : Text) :
    dropFrontFrom unit skip t = dropFrontFrom unit 0 (t.drop skip) := by
  induction skip generalizing t with
  | zero => rfl
  | succ skip ih =>
    cases t with
    | nil => rfl
    | cons c rest => exact ih rest

theorem squeezeFrom_skip (skip : ℕ) (inside : Bool) (t : Text) :
    squeezeFrom unit skip inside t = squeezeFrom unit 0 inside (t.drop skip) := by
  induction skip generalizing t with
  | zero => rfl
  | succ skip ih =>
    cases t with
    | nil => cases inside <;> rfl
    | cons c rest => exact ih rest

/-- Another copy of `unit/` is skipped. -/
theorem squeezeFrom_unit (t : Text) :
    squeezeFrom unit 0 true (unit ++ '/' :: t) = squeezeFrom unit 0 true t := by
  have starts : startsWith (unit ++ ['/']) (unit ++ '/' :: t) = true := startsWith_iff.mpr ⟨t, by simp⟩
  cases unit with
  | nil => rw [List.nil_append, squeezeFrom, List.nil_append, if_pos (by simpa using starts)]; rfl
  | cons first others =>
    rw [List.cons_append, squeezeFrom, if_pos (by simpa using starts), squeezeFrom_skip, List.length_cons,
      drop_unit]

/-- Behind no slash a component stays. -/
theorem squeezeFrom_part {part : Text} (absent : '/' ∉ part) (t : Text) :
    squeezeFrom unit 0 false (part ++ t) = part ++ squeezeFrom unit 0 false t := by
  induction part with
  | nil => rfl
  | cons c rest ih =>
    have plain : c ≠ '/' := fun slash => absent (slash ▸ List.mem_cons_self)
    rw [List.cons_append, squeezeFrom, if_neg (by simp), if_neg (by simp [plain]),
      ih fun inside => absent (List.mem_cons_of_mem _ inside), List.cons_append]

/-- In front of a component other than `unit` a match ends. -/
theorem squeezeFrom_other (slashless : '/' ∉ unit) {part : Text} (absent : '/' ∉ part)
    (different : part ≠ unit) (t : Text) :
    squeezeFrom unit 0 true (part ++ '/' :: t) = part ++ squeezeFrom unit 0 false ('/' :: t) := by
  have starts : startsWith (unit ++ ['/']) (part ++ '/' :: t) = false := by
    rw [startsWith_unit slashless absent, decide_eq_false different]
  cases part with
  | nil =>
    rw [List.nil_append] at starts ⊢
    rw [squeezeFrom, squeezeFrom, starts]
    rfl
  | cons c rest =>
    have plain : c ≠ '/' := fun slash => absent (slash ▸ List.mem_cons_self)
    rw [List.cons_append] at starts ⊢
    rw [squeezeFrom, if_neg (by simp [starts]), if_neg (by simp [plain]),
      squeezeFrom_part (fun inside => absent (List.mem_cons_of_mem _ inside)), List.cons_append]

/-- The last component stays. -/
theorem squeezeFrom_last {part : Text} (absent : '/' ∉ part) (inside : Bool) :
    squeezeFrom unit 0 inside part = part := by
  cases part with
  | nil => cases inside <;> rfl
  | cons c rest =>
    have plain : c ≠ '/' := fun slash => absent (slash ▸ List.mem_cons_self)
    have later : squeezeFrom unit 0 false (rest ++ []) = rest ++ squeezeFrom unit 0 false [] :=
      squeezeFrom_part (fun inside => absent (List.mem_cons_of_mem c inside)) []
    rw [List.append_nil] at later
    rw [squeezeFrom, if_neg (by simp [startsWith_unit_last absent]), if_neg (by simp [plain]), later]
    exact congrArg _ (List.append_nil rest)

/-- **The scan over the components**: behind a slash, and in front of one. -/
theorem squeezeFrom_path (slashless : '/' ∉ unit) {parts : List Text} (whole : Parts parts)
    (some : parts ≠ []) :
    squeezeFrom unit 0 true (path parts) = path (dropInner unit parts) ∧
      squeezeFrom unit 0 false ('/' :: path parts) = '/' :: path (dropInner unit parts) := by
  induction parts with
  | nil => exact absurd rfl some
  | cons part parts ih =>
    have absent : '/' ∉ part := whole part List.mem_cons_self
    cases parts with
    | nil =>
      rw [path_singleton, dropInner_singleton, path_singleton, squeezeFrom_last absent]
      refine ⟨rfl, ?_⟩
      rw [squeezeFrom, if_neg (by simp), if_neg (by simp [startsWith_unit_last absent]),
        squeezeFrom_last absent]
    | cons next rest =>
      have more : next :: rest ≠ [] := List.cons_ne_nil _ _
      obtain ⟨behind, front⟩ := ih (fun other inside => whole other (List.mem_cons_of_mem _ inside)) more
      rw [path_cons part more, dropInner_cons unit part more]
      have starts := startsWith_unit slashless absent (path (next :: rest))
      by_cases same : part = unit
      · rw [if_pos same, ← behind]
        subst same
        refine ⟨squeezeFrom_unit _, ?_⟩
        rw [squeezeFrom, if_neg (by simp), if_pos (by simpa using starts), squeezeFrom_skip, drop_unit]
      · rw [if_neg same, path_cons part (dropInner_ne_nil unit more), ← front]
        refine ⟨squeezeFrom_other slashless absent same _, ?_⟩
        rw [squeezeFrom, if_neg (by simp), if_neg (by simp [starts, same]), squeezeFrom_part absent]

/-- **`${t//\/+(unit\/)/\/}` on components**: all but the first and the last lose the copies of `unit`. -/
theorem squeeze_path (slashless : '/' ∉ unit) {parts : List Text} (part : Text)
    (whole : Parts (part :: parts)) :
    squeeze unit (path (part :: parts)) = path (part :: dropInner unit parts) := by
  have absent : '/' ∉ part := whole part List.mem_cons_self
  cases parts with
  | nil =>
    rw [path_singleton, squeeze, squeezeFrom_last absent]
    exact (path_singleton part).symm
  | cons next rest =>
    have more : next :: rest ≠ [] := List.cons_ne_nil _ _
    have scanned := squeezeFrom_path slashless (fun other inside => whole other (List.mem_cons_of_mem _ inside)) more
    rw [squeeze, path_cons part more, squeezeFrom_part absent, scanned.2,
      path_cons part (dropInner_ne_nil unit more)]

theorem dropFront_unit (t : Text) : dropFront unit (unit ++ '/' :: t) = dropFront unit t := by
  have starts : startsWith (unit ++ ['/']) (unit ++ '/' :: t) = true := startsWith_iff.mpr ⟨t, by simp⟩
  unfold dropFront
  cases unit with
  | nil => rw [List.nil_append, dropFrontFrom, if_pos (by simpa using starts)]; rfl
  | cons first others =>
    rw [List.cons_append, dropFrontFrom, if_pos (by simpa using starts), dropFrontFrom_skip,
      List.length_cons, drop_unit]

theorem dropFront_of_not {t : Text} (other : startsWith (unit ++ ['/']) t = false) :
    dropFront unit t = t := by
  cases t with
  | nil => rfl
  | cons c rest => rw [dropFront, dropFrontFrom, other]; rfl

/-- **`${t##+(unit/)}` on components.** -/
theorem dropFront_path (slashless : '/' ∉ unit) {parts : List Text} (whole : Parts parts) :
    dropFront unit (path parts) = path (dropLeading unit parts) := by
  induction parts with
  | nil => rfl
  | cons part parts ih =>
    have absent : '/' ∉ part := whole part List.mem_cons_self
    cases parts with
    | nil =>
      rw [path_singleton, dropLeading_singleton, path_singleton, dropFront_of_not (startsWith_unit_last absent)]
    | cons next rest =>
      have more : next :: rest ≠ [] := List.cons_ne_nil _ _
      have tail := ih fun other inside => whole other (List.mem_cons_of_mem _ inside)
      rw [path_cons part more, dropLeading_cons unit part more]
      by_cases same : part = unit
      · rw [if_pos same, ← tail, same, dropFront_unit]
      · rw [if_neg same, path_cons part more, dropFront_of_not]
        rw [startsWith_unit slashless absent, decide_eq_false same]

end Scan

/-! ### The last slash -/

/-- **`${t%/*}`** takes the last component off. -/
theorem dirPart_append {last : Text} (absent : '/' ∉ last) (front : Text) :
    dirPart (front ++ '/' :: last) = front := by
  have tail : ∀ c ∈ last.reverse, decide (c ≠ '/') = true := by
    intro c member
    exact decide_eq_true fun slash => absent (slash ▸ List.mem_reverse.mp member)
  rw [dirPart, if_pos (by simp), List.reverse_append, List.reverse_cons, List.append_assoc,
    List.dropWhile_append_of_pos tail]
  simp

/-- A text with a slash is what stands before its last slash, and a last component. -/
theorem exists_last {t : Text} (slash : '/' ∈ t) : ∃ last, '/' ∉ last ∧ t = dirPart t ++ '/' :: last := by
  obtain ⟨back, front, split, absent⟩ := List.eq_append_cons_of_mem (List.mem_reverse.mpr slash)
  have joined : t = front.reverse ++ '/' :: back.reverse := by
    rw [← List.reverse_reverse t, split]
    simp
  have last : '/' ∉ back.reverse := fun inside => absent (List.mem_reverse.mp inside)
  refine ⟨back.reverse, last, ?_⟩
  conv_lhs => rw [joined]
  rw [joined, dirPart_append last]

/-- What ends with a character that a last part does not hold ends before that part. -/
theorem prefix_of_concat {p front back : Text} {stop : Char} (absent : stop ∉ back)
    (starts : p ++ [stop] <+: front ++ back) : p ++ [stop] <+: front := by
  rcases List.prefix_or_prefix_of_prefix starts (List.prefix_append front back) with inside | ⟨more, longer⟩
  · exact inside
  · obtain ⟨rest, whole⟩ := starts
    rw [← longer, List.append_assoc, List.append_cancel_left_eq] at whole
    cases more using List.reverseRecOn with
    | nil => exact ⟨[], by rw [List.append_nil, ← longer, List.append_nil]⟩
    | append_singleton init final =>
      rw [← List.append_assoc] at longer
      have last : final = stop := (List.append_inj' longer rfl).2 |> List.singleton_inj.mp
      refine absurd ?_ absent
      rw [← whole, last]
      simp

/-- **Texts between two with a common front have that front**, in the order of the characters. -/
theorem prefix_of_between {p first between last : Text} (front : p <+: first) (back : p <+: last)
    (low : first ≤ between) (high : between ≤ last) : p <+: between := by
  induction p generalizing first between last with
  | nil => exact List.nil_prefix
  | cons c p ih =>
    obtain ⟨firstRest, rfl⟩ := front
    obtain ⟨lastRest, rfl⟩ := back
    cases between with
    | nil => exact absurd (List.nil_lt_cons c _) (not_lt.mpr low)
    | cons d rest =>
      rw [← not_lt, List.cons_append, List.cons_lt_cons_iff, not_or] at low high
      have same : d = c := le_antisymm (not_lt.mp high.1) (not_lt.mp low.1)
      subst same
      have tails : p ++ firstRest ≤ rest ∧ rest ≤ p ++ lastRest :=
        ⟨not_lt.mp fun less => low.2 ⟨rfl, less⟩, not_lt.mp fun less => high.2 ⟨rfl, less⟩⟩
      exact List.cons_prefix_cons.mpr ⟨rfl, ih (List.prefix_append _ _) (List.prefix_append _ _) tails.1 tails.2⟩

end Ndt.Shell
