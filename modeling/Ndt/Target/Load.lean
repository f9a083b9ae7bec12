/-
**The target behind the device of the guest, and the tests that take it down.**

* `vnvmeLoad` — `/vnvme_load.sh`, which `init` runs once in a boot: the tree it leaves and its status, which is
  that of its last command, the link.
* `TestRun.after` — a test: its requests, and `_cleanup_nvmet` behind them if `_setup_nvmet` has registered it.
  That function removes what it finds, whoever made it.
* `vnvme_stays_iff` — through all the tests of a boot the device keeps its target exactly when none of them
  has registered the cleanup, and a second `/vnvme_load.sh` succeeds exactly when one has.
-/

import Ndt.Target.Nvmet

namespace Ndt.Target

open Shell Transition

/-! ### `/vnvme_load.sh` -/

/-- The subsystem of the device. -/
def vnvmeSs : Name := ⟨"vnvme-ss".toList, by decide⟩

/-- Which requests of the script are granted. -/
structure LoadGrants where
  subsystem : Bool
  ns : Bool
  port : Bool
  exported : Bool

/-- The script up to its last command. No command but that one is looked at. -/
def vnvmeMade (grants : LoadGrants) (cfs : Configfs) : Configfs :=
  ((cfs.make grants.subsystem (.subsystem vnvmeSs)).make grants.ns (.ns vnvmeSs defNsid)).make grants.port
    (.port 1)

/-- **`/vnvme_load.sh`**: a link that is there already is a failure. -/
def vnvmeLoad (grants : LoadGrants) (cfs : Configfs) : ℕ × Configfs :=
  let made := vnvmeMade grants cfs
  let linked := made.make grants.exported (.exported 1 vnvmeSs)
  (if .exported 1 vnvmeSs ∉ made ∧ .exported 1 vnvmeSs ∈ linked then 0 else 1, linked)

/-- What the script makes, besides the port. -/
def OfVnvme (item : Item) : Prop :=
  item = .subsystem vnvmeSs ∨ item = .ns vnvmeSs defNsid ∨ item = .exported 1 vnvmeSs

variable {grants : LoadGrants} {cfs : Configfs}

theorem mem_vnvmeMade_exported : .exported 1 vnvmeSs ∈ vnvmeMade grants cfs ↔ .exported 1 vnvmeSs ∈ cfs := by
  simp [vnvmeMade, Store.mem_make]

theorem vnvmeLoad_eq_zero_iff : (vnvmeLoad grants cfs).1 = 0 ↔
    .exported 1 vnvmeSs ∉ vnvmeMade grants cfs ∧ .exported 1 vnvmeSs ∈ (vnvmeLoad grants cfs).2 := by
  by_cases both : .exported 1 vnvmeSs ∉ vnvmeMade grants cfs ∧ .exported 1 vnvmeSs ∈ (vnvmeLoad grants cfs).2
  · exact iff_of_true (if_pos both) both
  · have status : (vnvmeLoad grants cfs).1 = 1 := if_neg both
    exact iff_of_false (by rw [status]; exact one_ne_zero) both

/-- If nothing is refused, the script fails only where the link is there already. -/
theorem vnvmeLoad_granted : (vnvmeLoad ⟨true, true, true, true⟩ cfs).1 = 0 ↔ .exported 1 vnvmeSs ∉ cfs := by
  have subsystem : .subsystem vnvmeSs ∈ vnvmeMade ⟨true, true, true, true⟩ cfs := by
    simp [vnvmeMade, Store.mem_make, Item.needs]
  have port : .port 1 ∈ vnvmeMade ⟨true, true, true, true⟩ cfs := by
    simp [vnvmeMade, Store.mem_make, Item.needs]
  have linked : .exported 1 vnvmeSs ∈ (vnvmeMade ⟨true, true, true, true⟩ cfs).make true
      (.exported 1 vnvmeSs) := by
    refine Store.mem_make.mpr (Or.inr ⟨rfl, rfl, fun needed member => ?_⟩)
    rcases Finset.mem_insert.mp member with rfl | member
    · exact port
    · rwa [Finset.mem_singleton.mp member]
  rw [vnvmeLoad_eq_zero_iff, mem_vnvmeMade_exported]
  exact and_iff_left linked

/-! ### The tests of a boot -/

/-- **A call of a test function**, by what it does to the tree. -/
structure TestRun where
  site : Site
  /-- It calls `_setup_nvmet`. -/
  setsUp : Bool
  requests : List Request

/-- The tree after a test, and after what it has registered. -/
def TestRun.after (test : TestRun) (cfs : Configfs) : Configfs :=
  if test.setsUp then cleanupNvmet test.site (test.requests.foldl Request.serve cfs)
  else test.requests.foldl Request.serve cfs

/-- No request is about what `/vnvme_load.sh` has made. Nothing is asked of a test that registers the
cleanup. -/
def TestRun.Spares (test : TestRun) : Prop :=
  test.setsUp = false → ∀ request ∈ test.requests, ¬ OfVnvme request.item

theorem mem_serve {request : Request} {item : Item} (other : request.item ≠ item) :
    item ∈ request.serve cfs ↔ item ∈ cfs := by
  cases request with
  | make granted made =>
    refine Store.mem_make.trans (or_iff_left ?_)
    rintro ⟨same, -⟩
    exact other same.symm
  | remove gone =>
    refine Store.mem_remove.trans (and_iff_left ?_)
    rintro ⟨same, -⟩
    exact other same.symm

theorem mem_foldl_serve {requests : List Request} {item : Item}
    (others : ∀ request ∈ requests, request.item ≠ item) :
    item ∈ requests.foldl Request.serve cfs ↔ item ∈ cfs := by
  induction requests generalizing cfs with
  | nil => exact Iff.rfl
  | cons request requests ih =>
    rw [List.foldl_cons, ih fun later member => others later (List.mem_cons_of_mem _ member),
      mem_serve (others request List.mem_cons_self)]

/-- The registered cleanup leaves nothing of the target. -/
theorem notMem_cleanupNvmet (site : Site) {item : Item} (own : OfVnvme item) : item ∉ cleanupNvmet site cfs := by
  have loops : item ∉ cleanupLoops site cfs := by
    rw [mem_cleanupLoops]
    rcases own with rfl | rfl | rfl <;> simp [Remains]
  unfold cleanupNvmet
  split
  · exact fun member => loops (Store.mem_remove.mp member).1
  · exact loops

/-- One test. -/
theorem TestRun.mem_after {test : TestRun} (spares : test.Spares) {item : Item} (own : OfVnvme item) :
    item ∈ test.after cfs ↔ item ∈ cfs ∧ test.setsUp = false := by
  unfold TestRun.after
  by_cases setsUp : test.setsUp = true
  · rw [if_pos setsUp]
    refine iff_of_false (notMem_cleanupNvmet test.site own) ?_
    rintro ⟨-, plain⟩
    rw [setsUp] at plain
    cases plain
  · have plain : test.setsUp = false := Bool.eq_false_iff.mpr setsUp
    rw [if_neg setsUp, and_iff_left plain]
    exact mem_foldl_serve fun request member same => spares plain request member (same ▸ own)

/-- The tests of a boot, one after the other. -/
theorem mem_tests {tests : List TestRun} (spare : ∀ test ∈ tests, test.Spares) {item : Item}
    (own : OfVnvme item) :
    item ∈ tests.foldl (fun cfs test => test.after cfs) cfs ↔
      item ∈ cfs ∧ ∀ test ∈ tests, test.setsUp = false := by
  induction tests generalizing cfs with
  | nil => simp
  | cons test tests ih =>
    rw [List.foldl_cons, ih fun later member => spare later (List.mem_cons_of_mem _ member),
      TestRun.mem_after (spare test List.mem_cons_self) own, List.forall_mem_cons, and_assoc]

/-- **When the device keeps its target**: after `/vnvme_load.sh` has succeeded, through any tests that spare
it, what the script made is there exactly when no test has registered `_cleanup_nvmet`. The script would
succeed a second time exactly when one has. -/
theorem vnvme_stays_iff (loaded : (vnvmeLoad grants cfs).1 = 0) {tests : List TestRun}
    (spare : ∀ test ∈ tests, test.Spares) {after : Configfs}
    (tested : after = tests.foldl (fun cfs test => test.after cfs) (vnvmeLoad grants cfs).2) :
    (.exported 1 vnvmeSs ∈ after ↔ ∀ test ∈ tests, test.setsUp = false) ∧
      (∀ item, OfVnvme item →
        (item ∈ after ↔ item ∈ (vnvmeLoad grants cfs).2 ∧ ∀ test ∈ tests, test.setsUp = false)) ∧
      ((vnvmeLoad ⟨true, true, true, true⟩ after).1 = 0 ↔ ∃ test ∈ tests, test.setsUp = true) := by
  subst tested
  have stays : ∀ item, OfVnvme item → (item ∈ tests.foldl (fun cfs test => test.after cfs)
      (vnvmeLoad grants cfs).2 ↔ item ∈ (vnvmeLoad grants cfs).2 ∧ ∀ test ∈ tests, test.setsUp = false) :=
    fun item own => mem_tests spare own
  have link := stays (.exported 1 vnvmeSs) (Or.inr (Or.inr rfl))
  rw [and_iff_right (vnvmeLoad_eq_zero_iff.mp loaded).2] at link
  refine ⟨link, stays, ?_⟩
  rw [vnvmeLoad_granted, link]
  simp

/-- A test over `loop`, after one that registers nothing. -/
theorem vnvme_stays_iff_loop :
    let tests : List TestRun := [⟨loopSite, false, secondNs⟩, ⟨loopSite, true, []⟩]
    let loadedTree := (vnvmeLoad ⟨true, true, true, true⟩ bareTree).2
    let after := tests.foldl (fun cfs test => test.after cfs) loadedTree
    (.exported 1 vnvmeSs ∈ after ↔ ∀ test ∈ tests, test.setsUp = false) ∧
      (∀ item, OfVnvme item → (item ∈ after ↔ item ∈ loadedTree ∧ ∀ test ∈ tests, test.setsUp = false)) ∧
      ((vnvmeLoad ⟨true, true, true, true⟩ after).1 = 0 ↔ ∃ test ∈ tests, test.setsUp = true) := by
  intro tests loadedTree after
  have loaded : (vnvmeLoad ⟨true, true, true, true⟩ bareTree).1 = 0 :=
    vnvmeLoad_granted.mpr (Finset.notMem_empty _)
  have spare : ∀ test ∈ tests, test.Spares := by
    intro test member
    rcases List.mem_cons.mp member with rfl | member
    · intro _ request inside
      obtain rfl := List.mem_singleton.mp inside
      show ¬ OfVnvme (.ns defSubsysnqn ⟨"2".toList, by decide⟩)
      unfold OfVnvme vnvmeSs defNsid
      decide
    · obtain rfl := List.mem_singleton.mp member
      exact fun plain => nomatch plain
  exact vnvme_stays_iff loaded spare rfl

end Ndt.Target
