/-
**Saved values: what is set is put back.**

* `Locations` — places of a state that are read and written. A write that is refused leaves the state alone.
* `Saving.set` — a write that saves the value of its location, if it is the first one there.
* `restore_undoes` — when writes to one location leave the others alone and every value of the start can be
  written, putting the saved values back in any order gives every location the value of the start.
-/

import Mathlib.Data.List.AList

namespace Transition

variable {L V S : Type}

/-- **Places of a state.** -/
structure Locations (L V S : Type) where
  get : L → S → V
  write : L → V → S → S

namespace Locations

variable (places : Locations L V S)

/-- Writes to one location leave the others alone. -/
def Apart : Prop := ∀ location value state other, other ≠ location →
  places.get other (places.write location value state) = places.get other state

/-- The location takes the value, whatever the state. -/
def Takes (location : L) (value : V) : Prop :=
  ∀ state, places.get location (places.write location value state) = value

/-- Writes the saved values, one after the other. -/
def restore (saved : List ((_ : L) × V)) (state : S) : S :=
  saved.foldl (fun state entry => places.write entry.1 entry.2 state) state

end Locations

/-- **The values that have been saved**, and the state. -/
structure Saving (L V S : Type) where
  saved : AList fun _ : L => V
  state : S

variable [DecidableEq L] (places : Locations L V S)

/-- A write that saves what it overwrites, the first time. -/
def Saving.set (location : L) (value : V) (saving : Saving L V S) : Saving L V S where
  saved := if location ∈ saving.saved then saving.saved
    else saving.saved.insert location (places.get location saving.state)
  state := places.write location value saving.state

/-- **What is saved is of the start, and what is not saved is as it was at the start.** -/
structure Saving.Since (start : S) (saving : Saving L V S) : Prop where
  known : ∀ location value, saving.saved.lookup location = some value → value = places.get location start
  alone : ∀ location ∉ saving.saved, places.get location saving.state = places.get location start

theorem Saving.Since.start (start : S) : Saving.Since places start ⟨∅, start⟩ where
  known location value found := by
    rw [AList.lookup_empty] at found
    cases found
  alone _ _ := rfl

variable {places}

/-- One write. -/
theorem Saving.Since.set {start : S} {saving : Saving L V S} (apart : places.Apart)
    (since : saving.Since places start) (location : L) (value : V) :
    (saving.set places location value).Since places start := by
  unfold Saving.set
  by_cases old : location ∈ saving.saved
  · simp only [old, if_true]
    refine ⟨since.known, fun other unsaved => ?_⟩
    have different : other ≠ location := fun same => unsaved (same ▸ old)
    rw [apart location value saving.state other different, since.alone other unsaved]
  · simp only [old, if_false]
    refine ⟨fun other kept found => ?_, fun other unsaved => ?_⟩
    · by_cases same : other = location
      · rw [same, AList.lookup_insert] at found
        rw [same, ← Option.some.inj found, since.alone location old]
      · rw [AList.lookup_insert_ne same] at found
        exact since.known other kept found
    · rw [AList.mem_insert, not_or] at unsaved
      rw [apart location value saving.state other unsaved.1, since.alone other unsaved.2]

/-- Any number of writes. -/
theorem Saving.Since.run {start : S} (apart : places.Apart) (writes : List (L × V)) {saving : Saving L V S}
    (since : saving.Since places start) :
    (writes.foldl (fun saving write => saving.set places write.1 write.2) saving).Since places start := by
  induction writes generalizing saving with
  | nil => exact since
  | cons write writes ih => exact ih (since.set apart write.1 write.2)

/-- A restored location has its saved value; the others are left alone. -/
theorem get_restore (apart : places.Apart) {saved : List ((_ : L) × V)} (nodup : saved.NodupKeys)
    (takes : ∀ entry ∈ saved, places.Takes entry.1 entry.2) (state : S) (location : L) :
    places.get location (places.restore saved state) =
      (saved.dlookup location).getD (places.get location state) := by
  induction saved generalizing state with
  | nil => rfl
  | cons entry saved ih =>
    obtain ⟨key, value⟩ := entry
    obtain ⟨fresh, tail⟩ := List.nodupKeys_cons.mp nodup
    have later := ih tail (fun other member => takes other (List.mem_cons_of_mem _ member))
      (places.write key value state)
    refine later.trans ?_
    by_cases same : location = key
    · have none : saved.dlookup key = none := List.dlookup_eq_none.mpr fresh
      rw [same, none, List.dlookup_cons_eq]
      exact takes ⟨key, value⟩ List.mem_cons_self state
    · have behind : List.dlookup location (⟨key, value⟩ :: saved) = saved.dlookup location :=
        List.dlookup_cons_ne saved (⟨key, value⟩ : (_ : L) × V) same
      rw [behind, apart key value state location same]

/-- **What was set is put back**, in any order. -/
theorem restore_undoes (apart : places.Apart) {start : S}
    (takes : ∀ location, places.Takes location (places.get location start)) {saving : Saving L V S}
    (since : saving.Since places start) {order : List ((_ : L) × V)} (perm : order.Perm saving.saved.entries)
    (location : L) :
    places.get location (places.restore order saving.state) = places.get location start := by
  have nodup : order.NodupKeys := (List.perm_nodupKeys perm).mpr saving.saved.nodupKeys
  have stored : ∀ entry ∈ order, entry.2 = places.get entry.1 start := fun entry member =>
    since.known entry.1 entry.2 (AList.mem_lookup_iff.mpr (perm.mem_iff.mp member))
  rw [get_restore apart nodup fun entry member => by rw [stored entry member]; exact takes entry.1]
  cases found : order.dlookup location with
  | some value => exact stored ⟨location, value⟩ (List.of_mem_dlookup found)
  | none =>
    refine since.alone location fun member => ?_
    have key : location ∈ order.keys := (perm.map Sigma.fst).mem_iff.mpr member
    exact List.dlookup_eq_none.mp found key

end Transition
