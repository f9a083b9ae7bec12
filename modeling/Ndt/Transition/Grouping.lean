/-
**Reading a list in groups: a loop that gathers items until the key changes.**

* `groups key` — the maximal runs of items with one key.
* `stream` — the loop: it remembers the last key and the items gathered since it changed, and hands them
  over when an item with another key comes, and once more at the end.
* `stream_eq` — the loop hands over the groups, in their order.
* `mem_of_key_eq` — in a sorted list whose keys are convex every key has one group only.
-/

import Mathlib

namespace Transition

section Groups

variable {α κ : Type} [DecidableEq κ] (key : α → κ)

/-- The maximal runs of items with one key. -/
def groups (items : List α) : List (List α) := items.splitBy fun first second => key first = key second

variable {key} {items group : List α}

@[simp] theorem groups_flatten : (groups key items).flatten = items := List.flatten_splitBy _ _

theorem ne_nil_of_mem_groups (member : group ∈ groups key items) : group ≠ [] :=
  List.ne_nil_of_mem_splitBy member

/-- **A group has one key.** -/
theorem key_eq_of_mem_groups (member : group ∈ groups key items) {first second : α} (inside : first ∈ group)
    (alsoInside : second ∈ group) : key first = key second := by
  have chain : (group.map key).IsChain (· = ·) :=
    List.isChain_map_of_isChain key (fun _ _ same => by simpa using same)
      (List.isChain_of_mem_splitBy member)
  by_contra differ
  exact differ ((List.isChain_iff_pairwise.mp chain).forall (List.mem_map_of_mem inside)
    (List.mem_map_of_mem alsoInside) differ)

/-- **Neighbouring groups differ in their keys.** -/
theorem groups_chain :
    (groups key items).IsChain fun first second => ∀ a ∈ first, ∀ b ∈ second, key a ≠ key b := by
  refine (List.isChain_getLast_head_splitBy _ items).imp_of_mem_imp ?_
  rintro first second member next ⟨some, more, differ⟩ a inside b follows same
  rw [key_eq_of_mem_groups member inside (List.getLast_mem some),
    key_eq_of_mem_groups next follows (List.head_mem more)] at same
  rw [decide_eq_true same] at differ
  cases differ

theorem groups_append_cons {front : List α} {item : α} (rest : List α)
    (differ : ∀ last ∈ front.getLast?, key last ≠ key item) :
    groups key (front ++ item :: rest) = groups key front ++ groups key (item :: rest) :=
  List.splitBy_append_cons rest fun last member => decide_eq_false (differ last member)

/-- Items with one key are one group. -/
theorem groups_eq_singleton {value : κ} (some : items ≠ []) (same : ∀ item ∈ items, key item = value) :
    groups key items = [items] := by
  refine List.splitBy_of_isChain some (List.Pairwise.isChain ?_)
  refine List.pairwise_of_forall_mem_list fun first inside second alsoInside => decide_eq_true ?_
  rw [same first inside, same second alsoInside]

/-! ### Sorted lists -/

/-- **Convex keys**: what stands between two items with one key has that key too. -/
def Convex [LE α] (key : α → κ) (items : List α) : Prop :=
  ∀ first ∈ items, ∀ between ∈ items, ∀ last ∈ items, first ≤ between → between ≤ last →
    key first = key last → key between = key first

/-- **In a sorted list with convex keys different groups have different keys.** -/
theorem groups_pairwise [Preorder α] (sorted : items.Pairwise (· ≤ ·)) (convex : Convex key items) :
    (groups key items).Pairwise fun first second => ∀ a ∈ first, ∀ b ∈ second, key a ≠ key b := by
  have chain : (groups key items).IsChain fun first second => ∀ a ∈ first, ∀ b ∈ second, key a ≠ key b :=
    groups_chain
  have flat : (groups key items).flatten = items := groups_flatten
  have nonempty : ∀ group ∈ groups key items, group ≠ [] := fun _ => ne_nil_of_mem_groups
  generalize groups key items = parts at chain flat nonempty
  subst flat
  induction parts with
  | nil => exact List.Pairwise.nil
  | cons first parts ih =>
    rw [List.flatten_cons] at sorted convex
    have laterSorted := (List.pairwise_append.mp sorted).2.1
    have across := (List.pairwise_append.mp sorted).2.2
    refine List.Pairwise.cons ?_ (ih chain.tail ?_ laterSorted ?_)
    · intro second member a inside b follows same
      cases parts with
      | nil => exact absurd member List.not_mem_nil
      | cons next others =>
        have apart := (List.isChain_cons_cons.mp chain).1
        rcases List.mem_cons.mp member with rfl | later
        · exact apart a inside b follows same
        -- an item of the group behind `first` stands between `a` and `b`
        obtain ⟨x, between⟩ := List.exists_mem_of_ne_nil next (nonempty next (by simp))
        have behind : x ∈ (next :: others).flatten := List.mem_flatten.mpr ⟨next, by simp, between⟩
        have last : b ∈ others.flatten := List.mem_flatten.mpr ⟨second, later, follows⟩
        rw [List.flatten_cons] at laterSorted
        have ordered : x ≤ b := (List.pairwise_append.mp laterSorted).2.2 x between b last
        have equal := convex a (List.mem_append_left _ inside) x (List.mem_append_right _ behind) b
          (List.mem_append_right _ (by rw [List.flatten_cons]; exact List.mem_append_right _ last))
          (across a inside x behind) ordered same
        exact apart a inside x between equal.symm
    · exact fun group member => nonempty group (List.mem_cons_of_mem _ member)
    · exact fun a inside x between b last => convex a (List.mem_append_right _ inside) x
        (List.mem_append_right _ between) b (List.mem_append_right _ last)

/-- **In a sorted list with convex keys a group holds every item with its key.** -/
theorem mem_of_key_eq [Preorder α] (sorted : items.Pairwise (· ≤ ·)) (convex : Convex key items)
    (member : group ∈ groups key items) {item other : α} (inside : item ∈ group) (listed : other ∈ items)
    (same : key other = key item) : other ∈ group := by
  have flat : (groups key items).flatten = items := groups_flatten
  rw [← flat] at listed
  obtain ⟨home, homeMember, atHome⟩ := List.mem_flatten.mp listed
  by_contra outside
  have different : group ≠ home := fun equal => outside (equal ▸ atHome)
  have symmetric : Std.Symm fun first second : List α => ∀ a ∈ first, ∀ b ∈ second, key a ≠ key b :=
    ⟨fun _ _ apart b inSecond a inFirst equal => apart a inFirst b inSecond equal.symm⟩
  exact (groups_pairwise sorted convex).forall member homeMember different item inside other atHome same.symm

/-! ### The loop -/

variable {σ : Type}

/-- What the loop has read: the last key, the items with that key, and what was made of the groups before. -/
structure Stream (α κ σ : Type) where
  lastKey : κ
  gathered : List α
  out : σ

/-- The gathered items are handed over, if there are any. -/
def Stream.flush (emit : List α → σ → σ) (stream : Stream α κ σ) : Stream α κ σ :=
  if 0 < stream.gathered.length then
    { stream with gathered := [], out := emit stream.gathered stream.out }
  else stream

/-- One item is read. -/
def Stream.read (key : α → κ) (emit : List α → σ → σ) (stream : Stream α κ σ) (item : α) : Stream α κ σ :=
  let turned : Stream α κ σ :=
    if key item ≠ stream.lastKey then Stream.flush emit { stream with lastKey := key item } else stream
  { turned with gathered := turned.gathered ++ [item] }

/-- The whole loop, and the flush behind it. -/
def stream (key : α → κ) (emit : List α → σ → σ) (initial : κ) (items : List α) (out : σ) : σ :=
  ((items.foldl (Stream.read key emit) ⟨initial, [], out⟩).flush emit).out

/-- From a nonempty group on: the loop hands over the groups of what is gathered and what follows. -/
theorem stream_from {emit : List α → σ → σ} {gathered : List α} {lastKey : κ} (some : gathered ≠ [])
    (same : ∀ item ∈ gathered, key item = lastKey) (rest : List α) (out : σ) :
    ((rest.foldl (Stream.read key emit) ⟨lastKey, gathered, out⟩).flush emit).out =
      (groups key (gathered ++ rest)).foldl (fun out group => emit group out) out := by
  induction rest generalizing gathered lastKey out with
  | nil =>
    rw [List.append_nil, groups_eq_singleton some same, List.foldl_nil, Stream.flush,
      if_pos (List.length_pos_iff.mpr some)]
    rfl
  | cons item rest ih =>
    rw [List.foldl_cons]
    by_cases stays : key item = lastKey
    · rw [Stream.read, if_neg (not_not.mpr stays)]
      have longer : ∀ other ∈ gathered ++ [item], key other = lastKey := by
        intro other inside
        rcases List.mem_append.mp inside with before | last
        · exact same other before
        · rw [List.mem_singleton.mp last, stays]
      have grown := ih (by simp) longer out
      rw [List.append_assoc] at grown
      exact grown
    · have single : ∀ other ∈ [item], key other = key item :=
        fun other inside => by rw [List.mem_singleton.mp inside]
      have turned := ih (List.cons_ne_nil item []) single (emit gathered out)
      have differ : ∀ last ∈ gathered.getLast?, key last ≠ key item := by
        intro last member equal
        exact stays (equal.symm.trans (same last (List.mem_of_getLast? member)))
      have handed : Stream.read key emit ⟨lastKey, gathered, out⟩ item = ⟨key item, [item], emit gathered out⟩ := by
        rw [Stream.read, if_pos stays, Stream.flush, if_pos (List.length_pos_iff.mpr some)]
        rfl
      rw [handed, groups_append_cons rest differ, groups_eq_singleton some same, List.foldl_append]
      exact turned

/-- **The loop hands over the groups**, in their order. -/
theorem stream_eq (emit : List α → σ → σ) (initial : κ) (items : List α) (out : σ) :
    stream key emit initial items out =
      (groups key items).foldl (fun out group => emit group out) out := by
  cases items with
  | nil => rfl
  | cons item rest =>
    have first : Stream.read key emit ⟨initial, [], out⟩ item = ⟨key item, [item], out⟩ := by
      unfold Stream.read
      by_cases same : key item = initial
      · rw [if_neg (not_not.mpr same), same]
        rfl
      · rw [if_pos same]
        rfl
    rw [stream, List.foldl_cons, first]
    exact stream_from (by simp) (fun other inside => by rw [List.mem_singleton.mp inside]) rest out

end Groups

end Transition
