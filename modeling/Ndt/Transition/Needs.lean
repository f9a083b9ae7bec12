/-
**Stores of items that need other items.** A directory needs its parent, a link needs the directory it
stands in and what it points at. A store never has an item without what it needs, so an item is made only
over what it needs, and removed only when nothing needs it.

* `Store` — the items, with what each of them needs.
* `make`, `remove` — one request each. A request that cannot be met changes nothing, and one to make an
  item may also be refused.
* `Listing` — the items of a store in some order, as an expanded pattern gives them.
* `mem_clear` — an item that nothing needs is removed in any order.
* `mem_foldl` — a loop whose passes leave each other alone removes what each pass removes.
* `Unwinder` — removals of an item that take along what only it needed; `Unwinder.inOrder` is one.
* `mem_unwind_iff` — items removed before what they need: what stays is what cannot be removed, and what an
  item needs that is not listed or cannot be removed.
-/

import Mathlib.Data.Finset.Basic
import Mathlib.Data.Finset.Filter
import Mathlib.Data.Finset.Insert
import Mathlib.Data.Finset.Erase
import Mathlib.Data.Finset.Max
import Mathlib.Data.Fintype.Basic

namespace Transition

/-! ### Stores -/

/-- **Items with what they need.** -/
@[ext]
structure Store (Item : Type) (needs : Item → Finset Item) where
  items : Finset Item
  closed : ∀ item ∈ items, needs item ⊆ items

namespace Store

variable {Item : Type} {needs : Item → Finset Item}

instance : Membership Item (Store Item needs) := ⟨fun store item => item ∈ store.items⟩

theorem mem_def {store : Store Item needs} {item : Item} : item ∈ store ↔ item ∈ store.items := Iff.rfl

theorem ext_mem {first second : Store Item needs} (same : ∀ item, item ∈ first ↔ item ∈ second) :
    first = second :=
  Store.ext (Finset.ext same)

theorem mem_of_needs {store : Store Item needs} {item other : Item} (member : item ∈ store)
    (needed : other ∈ needs item) : other ∈ store :=
  store.closed item member needed

/-- **A loop whose passes leave each other alone** removes what each of its passes removes. -/
theorem mem_foldl {Pass : Type} (pass : Pass → Store Item needs → Store Item needs)
    (gone : Pass → Store Item needs → Item → Prop)
    (removes : ∀ a store item, item ∈ pass a store ↔ item ∈ store ∧ ¬ gone a store item)
    (alone : ∀ a b store item, gone b (pass a store) item ↔ gone b store item) (passes : List Pass)
    (store : Store Item needs) (item : Item) :
    item ∈ passes.foldl (fun store a => pass a store) store ↔
      item ∈ store ∧ ∀ a ∈ passes, ¬ gone a store item := by
  induction passes generalizing store with
  | nil => simp
  | cons a passes ih =>
    rw [List.foldl_cons, ih, removes, List.forall_mem_cons, and_assoc]
    simp only [alone]

variable [DecidableEq Item]

instance (store : Store Item needs) (item : Item) : Decidable (item ∈ store) :=
  inferInstanceAs (Decidable (item ∈ store.items))

/-! ### Requests -/

/-- Nothing in the store needs the item. -/
def Free (store : Store Item needs) (item : Item) : Prop := ∀ other ∈ store.items, item ∉ needs other

instance (store : Store Item needs) (item : Item) : Decidable (store.Free item) :=
  inferInstanceAs (Decidable (∀ other ∈ store.items, item ∉ needs other))

theorem closed_insert (store : Store Item needs) {item : Item} (met : needs item ⊆ store.items) :
    ∀ other ∈ insert item store.items, needs other ⊆ insert item store.items := by
  intro other member
  refine subset_trans ?_ (Finset.subset_insert item store.items)
  rcases Finset.mem_insert.mp member with rfl | inside
  · exact met
  · exact store.closed other inside

theorem closed_erase (store : Store Item needs) {item : Item} (free : store.Free item) :
    ∀ other ∈ store.items.erase item, needs other ⊆ store.items.erase item := by
  intro other member needed inside
  have stays : other ∈ store.items := Finset.mem_of_mem_erase member
  refine Finset.mem_erase.mpr ⟨?_, store.closed other stays inside⟩
  rintro rfl
  exact free other stays inside

/-- A request to make an item. It changes nothing where the item needs something that is not there. -/
def make (granted : Bool) (item : Item) (store : Store Item needs) : Store Item needs :=
  if met : granted = true ∧ needs item ⊆ store.items then
    ⟨insert item store.items, closed_insert store met.2⟩
  else store

/-- A request to remove an item. It changes nothing where something needs the item. -/
def remove (item : Item) (store : Store Item needs) : Store Item needs :=
  if free : store.Free item then ⟨store.items.erase item, closed_erase store free⟩ else store

theorem mem_make {granted : Bool} {item other : Item} {store : Store Item needs} :
    other ∈ store.make granted item ↔
      other ∈ store ∨ other = item ∧ granted = true ∧ ∀ needed ∈ needs item, needed ∈ store := by
  unfold make
  split
  · next met =>
    have all : ∀ needed ∈ needs item, needed ∈ store := met.2
    simp only [mem_def, Finset.mem_insert] at *
    tauto
  · next unmet =>
    have some : ¬ (granted = true ∧ ∀ needed ∈ needs item, needed ∈ store) := unmet
    tauto

theorem mem_remove {item other : Item} {store : Store Item needs} :
    other ∈ store.remove item ↔ other ∈ store ∧ ¬ (other = item ∧ store.Free item) := by
  unfold remove
  split
  · next free =>
    simp only [mem_def, Finset.mem_erase]
    tauto
  · next bound => tauto

/-! ### Listings -/

/-- **The order in which the items of a store are listed.** -/
structure Listing (Item : Type) where
  list : Finset Item → List Item
  mem_list : ∀ items item, item ∈ list items ↔ item ∈ items

/-- Some order. -/
noncomputable def Listing.any (Item : Type) : Listing Item := ⟨Finset.toList, fun _ _ => Finset.mem_toList⟩

/-- The items that a pattern matches are removed, one after the other. -/
def clear (listing : Listing Item) (matched : Item → Bool) (store : Store Item needs) : Store Item needs :=
  (listing.list (store.items.filter fun item => matched item)).foldl (fun store item => store.remove item)
    store

/-- Items that nothing needs are removed, in whichever order they are listed. -/
theorem mem_sweep {items : List Item} {store : Store Item needs}
    (free : ∀ item ∈ items, ∀ other, item ∉ needs other) {other : Item} :
    other ∈ items.foldl (fun store item => store.remove item) store ↔ other ∈ store ∧ other ∉ items := by
  induction items generalizing store with
  | nil => simp
  | cons item items ih =>
    have here : store.Free item := fun other _ => free item List.mem_cons_self other
    rw [List.foldl_cons, ih fun item member => free item (List.mem_cons_of_mem _ member), mem_remove,
      List.mem_cons]
    tauto

theorem mem_clear (listing : Listing Item) {matched : Item → Bool}
    (free : ∀ item, matched item = true → ∀ other, item ∉ needs other) {store : Store Item needs}
    {other : Item} : other ∈ store.clear listing matched ↔ other ∈ store ∧ ¬ matched other = true := by
  have listed : ∀ item ∈ listing.list (store.items.filter fun item => matched item), ∀ other,
      item ∉ needs other :=
    fun item member => free item (Finset.mem_filter.mp ((listing.mem_list _ item).mp member)).2
  rw [clear, mem_sweep listed, listing.mem_list, Finset.mem_filter, ← mem_def]
  tauto

theorem mem_of_mem_sweep {items : List Item} {store : Store Item needs} {other : Item}
    (member : other ∈ items.foldl (fun store item => store.remove item) store) : other ∈ store := by
  induction items generalizing store with
  | nil => exact member
  | cons item items ih => exact (mem_remove.mp (ih member)).1

theorem mem_sweep_of_notMem {items : List Item} {store : Store Item needs} {other : Item}
    (member : other ∈ store) (outside : other ∉ items) :
    other ∈ items.foldl (fun store item => store.remove item) store := by
  induction items generalizing store with
  | nil => exact member
  | cons item items ih =>
    rw [List.mem_cons, not_or] at outside
    exact ih (mem_remove.mpr ⟨member, fun gone => outside.1 gone.1⟩) outside.2

end Store

/-! ### Unwinding -/

/-- **Removals that may take along what the item needed**, with the items that cannot be removed. A removal
that fails changes nothing. -/
structure Unwinder (Item : Type) (needs : Item → Finset Item) where
  kept : Item → Prop
  remove : Item → Store Item needs → Store Item needs
  shrinks : ∀ {item store other}, other ∈ remove item store → other ∈ store
  only : ∀ {item store other}, other ∈ store → other ≠ item → other ∉ needs item → other ∈ remove item store
  keeps : ∀ {item store other}, other ∈ store → kept other → other ∈ remove item store
  failed : ∀ {item store}, item ∈ remove item store → remove item store = store
  absent : ∀ {item store}, item ∉ store → remove item store = store
  gone : ∀ {item store}, store.Free item → ¬ kept item → item ∉ remove item store

namespace Unwinder

variable {Item : Type} {needs : Item → Finset Item}

/-- Items are removed one after the other. -/
def unwind (unwinder : Unwinder Item needs) (items : List Item) (store : Store Item needs) :
    Store Item needs :=
  items.foldl (fun store item => unwinder.remove item store) store

variable {unwinder : Unwinder Item needs} {items : List Item} {store : Store Item needs} {item other : Item}

theorem mem_of_mem_unwind (member : other ∈ unwinder.unwind items store) : other ∈ store := by
  induction items generalizing store with
  | nil => exact member
  | cons item items ih => exact unwinder.shrinks (ih member)

theorem mem_unwind_of_ne (member : other ∈ store)
    (unrelated : ∀ item ∈ items, other ≠ item ∧ other ∉ needs item) : other ∈ unwinder.unwind items store := by
  induction items generalizing store with
  | nil => exact member
  | cons item items ih =>
    obtain ⟨differ, unneeded⟩ := unrelated item List.mem_cons_self
    exact ih (unwinder.only member differ unneeded) fun item inside =>
      unrelated item (List.mem_cons_of_mem _ inside)

theorem mem_unwind_of_kept (member : other ∈ store) (kept : unwinder.kept other) :
    other ∈ unwinder.unwind items store := by
  induction items generalizing store with
  | nil => exact member
  | cons item items ih => exact ih (unwinder.keeps member kept)

/-- An item that is still there after its removal was needed, if it can be removed, and nothing was
removed. -/
theorem mem_remove_self (stays : item ∈ unwinder.remove item store) (free : ¬ unwinder.kept item) :
    unwinder.remove item store = store ∧ ∃ other ∈ store, item ∈ needs other := by
  refine ⟨unwinder.failed stays, ?_⟩
  by_contra unneeded
  exact unwinder.gone (fun other member needed => unneeded ⟨other, member, needed⟩) free stays

/-- An item that something needs is not removed. -/
theorem remove_of_needed (transitive : ∀ first second, second ∈ needs first → needs second ⊆ needs first)
    (irreflexive : ∀ item, item ∉ needs item) (member : other ∈ store) (needed : item ∈ needs other) :
    unwinder.remove item store = store := by
  have stays : other ∈ unwinder.remove item store := by
    refine unwinder.only member ?_ fun below => ?_
    · rintro rfl
      exact irreflexive other needed
    · exact irreflexive item (transitive item other below needed)
  exact unwinder.failed (Store.mem_of_needs stays needed)

/-- **What is removed before what it needs** stays only where something needs it to the end. -/
theorem needed_of_mem_unwind (transitive : ∀ first second, second ∈ needs first → needs second ⊆ needs first)
    (order : items.Pairwise fun earlier later => earlier ∉ needs later) (listed : item ∈ items)
    (free : ¬ unwinder.kept item) (stays : item ∈ unwinder.unwind items store) :
    ∃ other ∈ unwinder.unwind items store, item ∈ needs other := by
  induction items generalizing store with
  | nil => exact absurd listed List.not_mem_nil
  | cons first items ih =>
    obtain ⟨ahead, order⟩ := List.pairwise_cons.mp order
    by_cases later : item ∈ items
    · exact ih order later stays
    obtain rfl := (List.mem_cons.mp listed).resolve_right later
    obtain ⟨same, other, member, needed⟩ := mem_remove_self (mem_of_mem_unwind stays) free
    refine ⟨other, ?_, needed⟩
    show other ∈ unwinder.unwind items (unwinder.remove item store)
    rw [same]
    refine mem_unwind_of_ne member fun next inside => ⟨?_, fun below => ?_⟩
    · rintro rfl
      exact ahead other inside needed
    · exact ahead next inside (transitive next other below needed)

/-- **What stays of the listed items** is what cannot be removed, and what an item needs that is not listed
or cannot be removed. -/
theorem mem_unwind_iff (transitive : ∀ first second, second ∈ needs first → needs second ⊆ needs first)
    (irreflexive : ∀ item, item ∉ needs item)
    (order : items.Pairwise fun earlier later => earlier ∉ needs later) (listed : item ∈ items) :
    item ∈ unwinder.unwind items store ↔
      item ∈ store ∧ unwinder.kept item ∨
        ∃ other ∈ unwinder.unwind items store, (other ∉ items ∨ unwinder.kept other) ∧ item ∈ needs other := by
  constructor
  · intro stays
    by_cases kept : unwinder.kept item
    · exact Or.inl ⟨mem_of_mem_unwind stays, kept⟩
    obtain ⟨other, member, needed⟩ := needed_of_mem_unwind transitive order listed kept stays
    classical
    -- among what needs the item, one that needs most
    obtain ⟨top, inside, most⟩ := Finset.exists_max_image
      ((unwinder.unwind items store).items.filter fun other => item ∈ needs other)
      (fun other => (needs other).card) ⟨other, Finset.mem_filter.mpr ⟨member, needed⟩⟩
    obtain ⟨topMember, topNeeds⟩ := Finset.mem_filter.mp inside
    refine Or.inr ⟨top, topMember, ?_, topNeeds⟩
    by_contra! below
    obtain ⟨above, aboveMember, aboveNeeds⟩ :=
      needed_of_mem_unwind transitive order below.1 below.2 topMember
    have fewer : needs top ⊂ needs above :=
      ⟨transitive above top aboveNeeds, fun all => irreflexive top (all aboveNeeds)⟩
    have more := most above
      (Finset.mem_filter.mpr ⟨aboveMember, transitive above top aboveNeeds topNeeds⟩)
    exact absurd (Finset.card_lt_card fewer) (not_lt.mpr more)
  · rintro (⟨member, kept⟩ | ⟨other, member, -, needed⟩)
    · exact mem_unwind_of_kept member kept
    · exact Store.mem_of_needs member needed

/-! ### Removals in an order -/

variable [DecidableEq Item]

/-- An item that nothing needs is removed, and then what only it needed, in the order of a listing. -/
def removeWith (listing : Store.Listing Item) (kept : Item → Bool) (item : Item) (store : Store Item needs) :
    Store Item needs :=
  if item ∈ store ∧ store.Free item ∧ kept item = false then
    ((listing.list (needs item)).filter (!kept ·)).foldl (fun store item => store.remove item)
      (store.remove item)
  else store

theorem mem_of_mem_removeWith {listing : Store.Listing Item} {kept : Item → Bool}
    (member : other ∈ removeWith listing kept item store) : other ∈ store := by
  unfold removeWith at member
  split at member
  · exact (Store.mem_remove.mp (Store.mem_of_mem_sweep member)).1
  · exact member

theorem mem_removeWith_of_ne {listing : Store.Listing Item} {kept : Item → Bool} (member : other ∈ store)
    (spared : kept item = false → other ≠ item ∧ (other ∈ needs item → kept other = true)) :
    other ∈ removeWith listing kept item store := by
  unfold removeWith
  split
  · next both =>
    obtain ⟨differ, unneeded⟩ := spared both.2.2
    refine Store.mem_sweep_of_notMem (Store.mem_remove.mpr ⟨member, fun gone => differ gone.1⟩) ?_
    rw [List.mem_filter, listing.mem_list]
    rintro ⟨needed, free⟩
    rw [unneeded needed] at free
    cases free
  · exact member

/-- **Removals in the order of a listing.** -/
def inOrder (listing : Store.Listing Item) (kept : Item → Bool) : Unwinder Item needs where
  kept item := kept item = true
  remove := removeWith listing kept
  shrinks := mem_of_mem_removeWith
  only member differ unneeded := mem_removeWith_of_ne member fun _ => ⟨differ, fun needed => absurd needed unneeded⟩
  keeps member stuck := by
    refine mem_removeWith_of_ne member fun free => ⟨?_, fun _ => stuck⟩
    rintro rfl
    rw [free] at stuck
    cases stuck
  failed stays := by
    unfold removeWith at stays ⊢
    split at stays
    · next both => exact absurd ⟨rfl, both.2.1⟩ (Store.mem_remove.mp (Store.mem_of_mem_sweep stays)).2
    · next bound => exact if_neg bound
  absent outside := if_neg fun both => outside both.1
  gone free removable stays := by
    have inside := mem_of_mem_removeWith stays
    unfold removeWith at stays
    rw [if_pos ⟨inside, free, by simpa using removable⟩] at stays
    exact (Store.mem_remove.mp (Store.mem_of_mem_sweep stays)).2 ⟨rfl, free⟩

end Unwinder

end Transition
