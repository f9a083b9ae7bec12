/-
**The life of an nvmet target: set up for a test, cleaned up by the test, or by the harness behind it.**

* `nvmetTargetSetup`, `nvmetTargetCleanup` — `_nvmet_target_setup` and `_nvmet_target_cleanup`.
* `cleanupNvmet` — `_cleanup_nvmet`, the registered cleanup of every test that sets up a target.
* `mem_nvmetTargetCleanup` — what the cleanup of a target removes, in whatever state the test left the tree.
* `target_restored` — from setup to cleanup a target leaves nothing behind but new ports without a link to
  the subsystem: the cleanup finds the ports by their links.
* `target_neutral_iff` — a setup and the cleanup right behind it leave the tree as it was exactly if every
  port that was granted got its link.
* `cleanupNvmet_leaves` — whatever a test did, the registered cleanup leaves the ports in which an ANA group
  was made, with these groups, and nothing else.

A remote target (`nvme_target_control` is empty), the block device behind the namespace and the soft RDMA
driver are left out.
-/

import Ndt.Target.Configfs

namespace Ndt.Target

open Shell Transition

/-! ### Setup and cleanup -/

/-- Which requests of a setup are granted. -/
structure Grants where
  subsystem : Bool
  ns : Bool
  pass : ℕ → PortGrants
  host : Bool
  allowed : Bool

/-- One pass of the loop over `num_ports`. -/
def addPort (site : Site) (grants : PortGrants) (nqn : Name) (cfs : Configfs) : Configfs :=
  let (number, made) := createNvmetPort site grants cfs
  addNvmetSubsysToPort grants.exported number nqn made

/-- **`_nvmet_target_setup`** for a subsystem, a block device (empty for none) and a number of ports. -/
def nvmetTargetSetup (site : Site) (grants : Grants) (subsysnqn : Name) (blkdev : Text) (hostnqn : Name)
    (numPorts : ℕ) (cfs : Configfs) : Configfs :=
  let made := createNvmetSubsystem grants.subsystem grants.ns subsysnqn blkdev cfs
  let ported := (List.range numPorts).foldl (fun cfs p => addPort site (grants.pass p) subsysnqn cfs) made
  createNvmetHost grants.host grants.allowed subsysnqn hostnqn ported

/-- **`_get_nvmet_ports`**: the ports that export the subsystem. -/
def getNvmetPorts (site : Site) (subsysnqn : Name) (cfs : Configfs) : List ℕ :=
  (ports site cfs).filter fun number => .exported number subsysnqn ∈ cfs

/-- The passes of `_nvmet_target_cleanup` over these ports. -/
def withdraw (site : Site) (subsysnqn : Name) (cfs : Configfs) (number : ℕ) : Configfs :=
  removeNvmetPort site number (cfs.remove (.exported number subsysnqn))

/-- **`_nvmet_target_cleanup`** -/
def nvmetTargetCleanup (site : Site) (subsysnqn hostnqn : Name) (cfs : Configfs) : Configfs :=
  let withdrawn := (getNvmetPorts site subsysnqn cfs).foldl (withdraw site subsysnqn) cfs
  removeNvmetHost hostnqn (removeNvmetSubsystem site subsysnqn withdrawn)

/-! ### What the cleanup of a target removes -/

/-- **What belongs to the target**: its subsystem with what stands in it, the ports that export it alone,
and its host. -/
def Belongs (site : Site) (cfs : Configfs) (subsysnqn hostnqn : Name) : Item → Prop
  | .subsystem nqn => nqn = subsysnqn
  | .ns nqn _ => nqn = subsysnqn
  | .allowed nqn _ => nqn = subsysnqn
  | .exported _ nqn => nqn = subsysnqn
  | .port number =>
    .exported number subsysnqn ∈ cfs ∧ ∀ nqn, .exported number nqn ∈ cfs → nqn = subsysnqn
  | .anaGroup number _ => .exported number subsysnqn ∈ cfs
  | .tport number => site.fc = true ∧ .exported number subsysnqn ∈ cfs
  | .rport number => site.fc = true ∧ .exported number subsysnqn ∈ cfs
  | .host name => name = hostnqn ∧ ∀ nqn, .allowed nqn hostnqn ∈ cfs → nqn = subsysnqn
  | .lport => False

theorem mem_getNvmetPorts {site : Site} {subsysnqn : Name} {cfs : Configfs} {number : ℕ} :
    number ∈ getNvmetPorts site subsysnqn cfs ↔ .exported number subsysnqn ∈ cfs := by
  unfold getNvmetPorts
  rw [List.mem_filter, mem_ports, decide_eq_true_iff, and_iff_right_iff_imp]
  exact port_of_exported

/-- What one pass takes away. -/
def Withdrawn (site : Site) (subsysnqn : Name) (number : ℕ) (cfs : Configfs) : Item → Prop
  | .exported other nqn => other = number ∧ nqn = subsysnqn
  | .anaGroup other _ => other = number
  | .tport other => other = number ∧ site.fc = true
  | .rport other => other = number ∧ site.fc = true
  | .port other => other = number ∧ ∀ nqn, .exported number nqn ∈ cfs → nqn = subsysnqn
  | _ => False

theorem mem_withdraw {site : Site} {subsysnqn : Name} {number : ℕ} {cfs : Configfs} {item : Item} :
    item ∈ withdraw site subsysnqn cfs number ↔
      item ∈ cfs ∧ ¬ Withdrawn site subsysnqn number cfs item := by
  have link : Item.Leaf (.exported number subsysnqn) := trivial
  unfold withdraw
  rw [mem_removeNvmetPort]
  simp only [mem_remove_leaf link]
  cases item <;> simp [Withdrawn]
  case tport => cases site.fc <;> simp
  case rport => cases site.fc <;> simp

/-- **What the cleanup of a target removes** is what belongs to the target, and nothing else. -/
theorem mem_nvmetTargetCleanup {site : Site} {subsysnqn hostnqn : Name} {cfs : Configfs} {item : Item} :
    item ∈ nvmetTargetCleanup site subsysnqn hostnqn cfs ↔
      item ∈ cfs ∧ ¬ Belongs site cfs subsysnqn hostnqn item := by
  have withdrawn : ∀ {item}, item ∈ (getNvmetPorts site subsysnqn cfs).foldl (withdraw site subsysnqn) cfs ↔
      item ∈ cfs ∧ ∀ number, .exported number subsysnqn ∈ cfs →
        ¬ Withdrawn site subsysnqn number cfs item := by
    intro item
    have alone : ∀ a b (cfs : Configfs) item,
        Withdrawn site subsysnqn b (withdraw site subsysnqn cfs a) item ↔
          Withdrawn site subsysnqn b cfs item := by
      intro a b cfs item
      cases item <;> simp only [Withdrawn, and_congr_right_iff]
      case port =>
        intro _
        simp only [mem_withdraw, Withdrawn]
        refine forall_congr' fun nqn => ⟨fun stays link => ?_, fun stays link => stays link.1⟩
        by_contra other
        exact other (stays ⟨link, fun gone => other gone.2⟩)
    have fold := Store.mem_foldl (fun number cfs => withdraw site subsysnqn cfs number)
      (Withdrawn site subsysnqn) (fun number cfs item => mem_withdraw) alone
      (getNvmetPorts site subsysnqn cfs) cfs item
    refine fold.trans ?_
    simp only [mem_getNvmetPorts]
  unfold nvmetTargetCleanup removeNvmetHost
  rw [Store.mem_remove, free_host, mem_removeNvmetSubsystem]
  simp only [mem_removeNvmetSubsystem, withdrawn]
  cases item <;> simp [Withdrawn, Belongs]
  case exported =>
    exact fun member => ⟨fun stays same => stays _ (same ▸ member) rfl same, fun other _ _ _ => other⟩
  all_goals grind

/-- The tree after the first passes of a setup over the ports. -/
def portedBy (site : Site) (grants : Grants) (subsysnqn : Name) (blkdev : Text) (before : Configfs) (count : ℕ) :
    Configfs :=
  (List.range count).foldl (fun cfs p => addPort site (grants.pass p) subsysnqn cfs)
    (createNvmetSubsystem grants.subsystem grants.ns subsysnqn blkdev before)

theorem portedBy_succ (site : Site) (grants : Grants) (subsysnqn : Name) (blkdev : Text) (before : Configfs)
    (count : ℕ) :
    portedBy site grants subsysnqn blkdev before (count + 1) =
      addPort site (grants.pass count) subsysnqn (portedBy site grants subsysnqn blkdev before count) := by
  unfold portedBy
  rw [List.range_succ, List.foldl_append]
  rfl

/-! ### A target from its setup to its cleanup -/

/-- **What is new with a target**: its subsystem and what stands in it, its host, and ports that were not
there. -/
def New (site : Site) (subsysnqn hostnqn : Name) (before : Configfs) : Item → Prop
  | .subsystem nqn => nqn = subsysnqn
  | .ns nqn _ => nqn = subsysnqn
  | .allowed nqn _ => nqn = subsysnqn
  | .exported number nqn => nqn = subsysnqn ∧ .port number ∉ before
  | .port number => .port number ∉ before
  | .anaGroup number _ => .port number ∉ before
  | .tport number => site.fc = true ∧ .port number ∉ before
  | .rport number => site.fc = true ∧ .port number ∉ before
  | .host name => name = hostnqn
  | .lport => False

/-- **A tree that has grown by what is new with a target only.** -/
structure Grown (site : Site) (subsysnqn hostnqn : Name) (before cfs : Configfs) : Prop where
  keeps : ∀ item, item ∈ before → item ∈ cfs
  new : ∀ item, item ∈ cfs → item ∉ before → New site subsysnqn hostnqn before item

section Grown

variable {site : Site} {subsysnqn hostnqn : Name} {before cfs : Configfs}

theorem Grown.refl : Grown site subsysnqn hostnqn before before :=
  ⟨fun _ member => member, fun _ member outside => absurd member outside⟩

theorem Grown.make (grown : Grown site subsysnqn hostnqn before cfs) (item : Item)
    (new : New site subsysnqn hostnqn before item) (granted : Bool) :
    Grown site subsysnqn hostnqn before (cfs.make granted item) where
  keeps other member := Store.mem_make.mpr (Or.inl (grown.keeps other member))
  new other member outside := by
    rcases Store.mem_make.mp member with member | ⟨rfl, -⟩
    · exact grown.new other member outside
    · exact new

theorem Grown.remove (grown : Grown site subsysnqn hostnqn before cfs) {item : Item}
    (outside : item ∉ before) : Grown site subsysnqn hostnqn before (cfs.remove item) where
  keeps other member := by
    refine Store.mem_remove.mpr ⟨grown.keeps other member, fun gone => outside ?_⟩
    rw [← gone.1]
    exact member
  new other member := grown.new other (Store.mem_remove.mp member).1

/-- A pass over a port makes a port that was not there. -/
theorem Grown.addPort (grown : Grown site subsysnqn hostnqn before cfs) (grants : PortGrants) :
    Grown site subsysnqn hostnqn before (addPort site grants subsysnqn cfs) := by
  have unused : .port (unusedPort cfs) ∉ before :=
    fun member => unusedPort_notMem cfs (grown.keeps _ member)
  have made := grown.make (.port (unusedPort cfs)) unused grants.port
  unfold Target.addPort createNvmetPort addNvmetSubsysToPort
  simp only
  refine Grown.make ?_ (.exported _ subsysnqn) ⟨rfl, unused⟩ grants.exported
  split
  · next fc =>
    have looped := made.make (.tport (unusedPort cfs)) ⟨fc, unused⟩ grants.tport
    exact looped.make (.rport (unusedPort cfs)) ⟨fc, unused⟩ grants.rport
  · exact made

theorem Grown.portedBy (grants : Grants) (blkdev : Text) (count : ℕ) :
    Grown site subsysnqn hostnqn before (portedBy site grants subsysnqn blkdev before count) := by
  induction count with
  | zero =>
    have start : Grown site subsysnqn hostnqn before before := Grown.refl
    have made := start.make (.subsystem subsysnqn) rfl grants.subsystem
    simp only [Target.portedBy, List.range_zero, List.foldl_nil, createNvmetSubsystem]
    split
    · exact made
    · exact made.make (.ns subsysnqn defNsid) rfl grants.ns
  | succ count ih =>
    rw [portedBy_succ]
    exact ih.addPort (grants.pass count)

theorem Grown.setup (grants : Grants) (blkdev : Text) (numPorts : ℕ) :
    Grown site subsysnqn hostnqn before
      (nvmetTargetSetup site grants subsysnqn blkdev hostnqn numPorts before) := by
  have ported : Grown site subsysnqn hostnqn before
      (Target.portedBy site grants subsysnqn blkdev before numPorts) := Grown.portedBy grants blkdev numPorts
  unfold nvmetTargetSetup createNvmetHost
  simp only
  split
  · exact ported
  · have hosted := ported.make (.host hostnqn) rfl grants.host
    exact hosted.make (.allowed subsysnqn hostnqn) rfl grants.allowed

/-- What there is for a port: its directory, the ANA groups in it, its ports in `fcloop`. -/
def Item.OfPort (number : ℕ) : Item → Prop
  | .port other => other = number
  | .anaGroup other _ => other = number
  | .tport other => other = number
  | .rport other => other = number
  | _ => False

/-- **What stays behind when the target is cleaned up**: new ports that do not export the subsystem. -/
def Stray (subsysnqn : Name) (before cfs : Configfs) (item : Item) : Prop :=
  ∃ number, item.OfPort number ∧ .port number ∉ before ∧ .exported number subsysnqn ∉ cfs

/-- **A tree before a target is set up**: the subsystem and the host are not there yet, and `fcloop` has
ports for the ports of the tree only. -/
structure Before (subsysnqn hostnqn : Name) (before : Configfs) : Prop where
  subsystem : .subsystem subsysnqn ∉ before
  host : .host hostnqn ∉ before
  loop : ∀ item ∈ before, ∀ number, item.OfPort number → .port number ∈ before

theorem Before.exported (start : Before subsysnqn hostnqn before) (number : ℕ) :
    .exported number subsysnqn ∉ before :=
  fun member => start.subsystem (subsystem_of_exported member)

/-- Only new ports export the subsystem. -/
theorem Grown.port_new (grown : Grown site subsysnqn hostnqn before cfs)
    (start : Before subsysnqn hostnqn before) {number : ℕ} (link : .exported number subsysnqn ∈ cfs) :
    .port number ∉ before :=
  (grown.new _ link (start.exported number)).2

/-- A new port exports nothing else. -/
theorem Grown.exported_eq (grown : Grown site subsysnqn hostnqn before cfs) {number : ℕ}
    (port : .port number ∉ before) {nqn : Name} (link : .exported number nqn ∈ cfs) : nqn = subsysnqn :=
  (grown.new _ link fun member => port (port_of_exported member)).1

/-- The new host is allowed by the subsystem only. -/
theorem Grown.allowed_eq (grown : Grown site subsysnqn hostnqn before cfs)
    (start : Before subsysnqn hostnqn before) {nqn : Name} (link : .allowed nqn hostnqn ∈ cfs) :
    nqn = subsysnqn :=
  grown.new _ link fun member => start.host (host_of_allowed member)

/-- Nothing that was there before belongs to the target. -/
theorem Grown.not_belongs (grown : Grown site subsysnqn hostnqn before cfs)
    (start : Before subsysnqn hostnqn before) {item : Item} (member : item ∈ before) :
    ¬ Belongs site cfs subsysnqn hostnqn item := by
  have port : ∀ number, .port number ∈ before → .exported number subsysnqn ∉ cfs :=
    fun number member link => grown.port_new start link member
  cases item with
  | subsystem nqn => rintro rfl; exact start.subsystem member
  | ns nqn nsid => rintro rfl; exact start.subsystem (subsystem_of_ns member)
  | allowed nqn name => rintro rfl; exact start.subsystem (subsystem_of_allowed member)
  | exported number nqn => rintro rfl; exact start.exported number member
  | port number => exact fun belongs => port number member belongs.1
  | anaGroup number group => exact port number (port_of_anaGroup member)
  | tport number => exact fun belongs => port number (start.loop _ member number rfl) belongs.2
  | rport number => exact fun belongs => port number (start.loop _ member number rfl) belongs.2
  | host name => exact fun belongs => start.host (belongs.1 ▸ member)
  | lport => exact id

/-- **What the cleanup leaves of a tree that has grown with the target.** -/
theorem Grown.cleanup (grown : Grown site subsysnqn hostnqn before cfs)
    (start : Before subsysnqn hostnqn before) (item : Item) :
    item ∈ nvmetTargetCleanup site subsysnqn hostnqn cfs ↔
      item ∈ before ∨ item ∈ cfs ∧ Stray subsysnqn before cfs item := by
  rw [mem_nvmetTargetCleanup]
  constructor
  · rintro ⟨member, stays⟩
    by_cases old : item ∈ before
    · exact Or.inl old
    · have new := grown.new item member old
      refine Or.inr ⟨member, ?_⟩
      cases item with
      | port number =>
        exact ⟨number, rfl, new, fun link => stays ⟨link, fun nqn other => grown.exported_eq new other⟩⟩
      | anaGroup number group => exact ⟨number, rfl, new, stays⟩
      | tport number => exact ⟨number, rfl, new.2, fun link => stays ⟨new.1, link⟩⟩
      | rport number => exact ⟨number, rfl, new.2, fun link => stays ⟨new.1, link⟩⟩
      | exported number nqn => exact absurd new.1 stays
      | host name => exact absurd ⟨new, fun nqn link => grown.allowed_eq start link⟩ stays
      | lport => exact new.elim
      | subsystem nqn => exact absurd new stays
      | ns nqn nsid => exact absurd new stays
      | allowed nqn name => exact absurd new stays
  · rintro (member | ⟨member, number, own, -, noLink⟩)
    · exact ⟨grown.keeps item member, grown.not_belongs start member⟩
    · refine ⟨member, ?_⟩
      cases item with
      | port other => cases own; exact fun belongs => noLink belongs.1
      | anaGroup other group => cases own; exact noLink
      | tport other => cases own; exact fun belongs => noLink belongs.2
      | rport other => cases own; exact fun belongs => noLink belongs.2
      | _ => exact own.elim

end Grown

/-! ### The test in between -/

/-- A request of the test. -/
inductive Request
  | make (granted : Bool) (item : Item)
  | remove (item : Item)

def Request.item : Request → Item
  | .make _ item => item
  | .remove item => item

def Request.serve (cfs : Configfs) : Request → Configfs
  | .make granted item => cfs.make granted item
  | .remove item => cfs.remove item

/-- **A test that keeps to its target**: every request is about something new with it. -/
def Keeps (site : Site) (subsysnqn hostnqn : Name) (before : Configfs) (requests : List Request) : Prop :=
  ∀ request ∈ requests, request.item ∉ before ∧ New site subsysnqn hostnqn before request.item

variable {site : Site} {subsysnqn hostnqn : Name} {before cfs : Configfs}

theorem Grown.serve {requests : List Request} (keeps : Keeps site subsysnqn hostnqn before requests)
    (grown : Grown site subsysnqn hostnqn before cfs) :
    Grown site subsysnqn hostnqn before (requests.foldl Request.serve cfs) := by
  induction requests generalizing cfs with
  | nil => exact grown
  | cons request requests ih =>
    obtain ⟨outside, new⟩ := keeps request List.mem_cons_self
    refine ih (fun other member => keeps other (List.mem_cons_of_mem _ member)) ?_
    cases request with
    | make granted item => exact grown.make item new granted
    | remove item => exact grown.remove outside

/-- A tree with nothing in it. -/
def bareTree : Configfs := ⟨∅, fun _ member => absurd member (Finset.notMem_empty _)⟩

theorem bareTree_before (subsysnqn hostnqn : Name) : Before subsysnqn hostnqn bareTree :=
  ⟨Finset.notMem_empty _, Finset.notMem_empty _, fun _ member => absurd member (Finset.notMem_empty _)⟩

/-- Every request of a setup is granted. -/
def Grants.all : Grants := ⟨true, true, fun _ => ⟨true, true, true, true⟩, true, true⟩

/-- The site of a test over `loop`. -/
noncomputable def loopSite : Site := ⟨"loop".toList, .any Item⟩

/-- A test that makes a second namespace. -/
def secondNs : List Request := [.make true (.ns defSubsysnqn ⟨"2".toList, by decide⟩)]

theorem mem_addPort {grants : PortGrants} {item : Item} :
    item ∈ addPort site grants subsysnqn cfs ↔
      item ∈ cfs ∨ item = .port (unusedPort cfs) ∧ grants.port = true ∨
        site.fc = true ∧ (item = .tport (unusedPort cfs) ∧ grants.tport = true ∨
          item = .rport (unusedPort cfs) ∧ grants.rport = true) ∨
        item = .exported (unusedPort cfs) subsysnqn ∧ grants.exported = true ∧ grants.port = true ∧
          .subsystem subsysnqn ∈ cfs := by
  have unused := unusedPort_notMem cfs
  unfold addPort createNvmetPort addNvmetSubsysToPort
  simp only
  split
  · next fc =>
    simp [Store.mem_make, Item.needs, fc]
    tauto
  · next other =>
    simp [Store.mem_make, Item.needs, other]
    tauto

/-- What a setup leaves behind its passes: the host, and the link to it. -/
theorem mem_nvmetTargetSetup {grants : Grants} {blkdev : Text} {numPorts : ℕ} {item : Item}
    (other : ∀ name, item ≠ .host name ∧ item ≠ .allowed subsysnqn name) :
    item ∈ nvmetTargetSetup site grants subsysnqn blkdev hostnqn numPorts before ↔
      item ∈ portedBy site grants subsysnqn blkdev before numPorts := by
  obtain ⟨notHost, notAllowed⟩ := other hostnqn
  unfold nvmetTargetSetup createNvmetHost
  simp only
  split
  · exact Iff.rfl
  · rw [Store.mem_make, Store.mem_make, portedBy]
    tauto

/-- The subsystem is there during the passes exactly if it was granted. -/
theorem subsystem_mem_portedBy (outside : .subsystem subsysnqn ∉ before) (grants : Grants) (blkdev : Text)
    (count : ℕ) :
    .subsystem subsysnqn ∈ portedBy site grants subsysnqn blkdev before count ↔ grants.subsystem = true := by
  induction count with
  | zero =>
    simp only [portedBy, List.range_zero, List.foldl_nil, createNvmetSubsystem]
    split
    · simp [Store.mem_make, Item.needs, outside]
    · simp [Store.mem_make, Item.needs, outside]
  | succ count ih => simp [portedBy_succ, mem_addPort, ih]

theorem of_mem_createNvmetSubsystem {granted grantedNs : Bool} {blkdev : Text} {item : Item}
    (member : item ∈ createNvmetSubsystem granted grantedNs subsysnqn blkdev cfs) :
    item ∈ cfs ∨ item = .subsystem subsysnqn ∨ item = .ns subsysnqn defNsid := by
  unfold createNvmetSubsystem at member
  simp only at member
  split at member
  · rw [Store.mem_make] at member
    tauto
  · rw [Store.mem_make, Store.mem_make] at member
    tauto

/-- **Every new port exports the subsystem.** -/
def Linked (subsysnqn : Name) (before cfs : Configfs) : Prop :=
  ∀ item ∈ cfs, ∀ number, item.OfPort number →
    .port number ∈ before ∨ .exported number subsysnqn ∈ cfs

/-- A pass that links the port it makes. -/
theorem Linked.addPort (linked : Linked subsysnqn before cfs) {grants : PortGrants}
    (link : grants.port = true → .subsystem subsysnqn ∈ cfs ∧ grants.exported = true)
    (loop : site.fc = true → grants.port = false → grants.tport = false ∧ grants.rport = false) :
    Linked subsysnqn before (addPort site grants subsysnqn cfs) := by
  have made : grants.port = true →
      .exported (unusedPort cfs) subsysnqn ∈ Target.addPort site grants subsysnqn cfs := by
    intro port
    obtain ⟨subsystem, exported⟩ := link port
    exact mem_addPort.mpr (Or.inr (Or.inr (Or.inr ⟨rfl, exported, port, subsystem⟩)))
  intro item member number own
  rcases mem_addPort.mp member with
    member | ⟨rfl, port⟩ | ⟨fc, ⟨rfl, tport⟩ | ⟨rfl, rport⟩⟩ | ⟨rfl, -⟩
  · exact (linked item member number own).imp_right fun link => mem_addPort.mpr (Or.inl link)
  · cases own
    exact Or.inr (made port)
  · cases own
    by_cases port : grants.port = true
    · exact Or.inr (made port)
    · simp [loop fc (Bool.eq_false_iff.mpr port)] at tport
  · cases own
    by_cases port : grants.port = true
    · exact Or.inr (made port)
    · simp [loop fc (Bool.eq_false_iff.mpr port)] at rport
  · exact own.elim

/-- A port that is not linked when it is made is never linked. -/
theorem unlinked_addPort {grants : PortGrants} {number : ℕ}
    (unlinked : .port number ∈ cfs ∧ .exported number subsysnqn ∉ cfs) :
    .port number ∈ addPort site grants subsysnqn cfs ∧
      .exported number subsysnqn ∉ addPort site grants subsysnqn cfs := by
  refine ⟨mem_addPort.mpr (Or.inl unlinked.1), fun link => ?_⟩
  rcases mem_addPort.mp link with link | ⟨same, -⟩ | ⟨-, ⟨same, -⟩ | ⟨same, -⟩⟩ | ⟨same, -⟩
  · exact unlinked.2 link
  · cases same
  · cases same
  · cases same
  · cases same
    exact unusedPort_notMem cfs unlinked.1

theorem unlinked_portedBy {grants : Grants} {blkdev : Text} {number count : ℕ}
    (unlinked : .port number ∈ portedBy site grants subsysnqn blkdev before count ∧
      .exported number subsysnqn ∉ portedBy site grants subsysnqn blkdev before count) (more : ℕ) :
    .port number ∈ portedBy site grants subsysnqn blkdev before (count + more) ∧
      .exported number subsysnqn ∉ portedBy site grants subsysnqn blkdev before (count + more) := by
  induction more with
  | zero => exact unlinked
  | succ more ih =>
    rw [← add_assoc, portedBy_succ]
    exact unlinked_addPort ih

/-- **A target leaves no trace exactly if every port that is made for it is linked to its subsystem.** With
`fc`, no ports of `fcloop` are made for a port that is refused. -/
theorem target_neutral_iff (start : Before subsysnqn hostnqn before) {grants : Grants} {numPorts : ℕ}
    (loop : site.fc = true → ∀ p < numPorts, (grants.pass p).port = false →
      (grants.pass p).tport = false ∧ (grants.pass p).rport = false) (blkdev : Text) :
    nvmetTargetCleanup site subsysnqn hostnqn
        (nvmetTargetSetup site grants subsysnqn blkdev hostnqn numPorts before) = before ↔
      ∀ p < numPorts, (grants.pass p).port = true →
        grants.subsystem = true ∧ (grants.pass p).exported = true := by
  have cleanup : ∀ item, item ∈ nvmetTargetCleanup site subsysnqn hostnqn
      (nvmetTargetSetup site grants subsysnqn blkdev hostnqn numPorts before) ↔ _ :=
    (Grown.setup grants blkdev numPorts).cleanup start
  constructor
  · intro restored p inside port
    by_contra refused
    have subsystem : .subsystem subsysnqn ∈ portedBy site grants subsysnqn blkdev before p ↔ _ :=
      subsystem_mem_portedBy start.subsystem grants blkdev p
    have grown : Grown site subsysnqn hostnqn before (portedBy site grants subsysnqn blkdev before p) :=
      Grown.portedBy grants blkdev p
    generalize made : portedBy site grants subsysnqn blkdev before p = cfs at subsystem grown
    have unused := unusedPort_notMem cfs
    have unlinked : .port (unusedPort cfs) ∈ portedBy site grants subsysnqn blkdev before (p + 1) ∧
        .exported (unusedPort cfs) subsysnqn ∉ portedBy site grants subsysnqn blkdev before (p + 1) := by
      rw [portedBy_succ, made]
      refine ⟨mem_addPort.mpr (Or.inr (Or.inl ⟨rfl, port⟩)), fun link => ?_⟩
      rcases mem_addPort.mp link with link | ⟨same, -⟩ | ⟨-, ⟨same, -⟩ | ⟨same, -⟩⟩ | ⟨-, granted⟩
      · exact unused (port_of_exported link)
      · cases same
      · cases same
      · cases same
      · exact refused ⟨subsystem.mp granted.2.2, granted.1⟩
    have last := unlinked_portedBy unlinked (numPorts - (p + 1))
    rw [show p + 1 + (numPorts - (p + 1)) = numPorts by omega] at last
    have outside : .port (unusedPort cfs) ∉ before := fun member => unused (grown.keeps _ member)
    have stays := (cleanup (.port (unusedPort cfs))).mpr (Or.inr
      ⟨(mem_nvmetTargetSetup (by simp)).mpr last.1, _, rfl, outside,
        fun link => last.2 ((mem_nvmetTargetSetup (by simp)).mp link)⟩)
    rw [restored] at stays
    exact outside stays
  · intro links
    have linked : ∀ count ≤ numPorts,
        Linked subsysnqn before (portedBy site grants subsysnqn blkdev before count) := by
      intro count
      induction count with
      | zero =>
        intro _ item member number own
        rcases of_mem_createNvmetSubsystem member with member | rfl | rfl
        · exact Or.inl (start.loop item member number own)
        · exact own.elim
        · exact own.elim
      | succ count ih =>
        intro inside
        rw [portedBy_succ]
        refine (ih (by omega)).addPort (fun port => ?_) fun fc => loop fc count inside
        obtain ⟨subsystem, exported⟩ := links count inside port
        exact ⟨(subsystem_mem_portedBy start.subsystem grants blkdev count).mpr subsystem, exported⟩
    refine Store.ext_mem fun item => ?_
    rw [cleanup, or_iff_left_iff_imp]
    rintro ⟨member, number, own, unknown, noLink⟩
    have port : item ∈ portedBy site grants subsysnqn blkdev before numPorts := by
      refine (mem_nvmetTargetSetup fun name => ⟨?_, ?_⟩).mp member
      · rintro rfl; exact own
      · rintro rfl; exact own
    rcases linked numPorts le_rfl item port number own with old | link
    · exact absurd old unknown
    · exact absurd ((mem_nvmetTargetSetup (by simp)).mpr link) noLink

theorem target_neutral_iff_loop :
    nvmetTargetCleanup loopSite defSubsysnqn defHostnqn
        (nvmetTargetSetup loopSite .all defSubsysnqn [] defHostnqn 1 bareTree) = bareTree ↔
      ∀ p < 1, (Grants.all.pass p).port = true →
        Grants.all.subsystem = true ∧ (Grants.all.pass p).exported = true :=
  target_neutral_iff (bareTree_before _ _) (fun fc => absurd fc (by simp [Site.fc, loopSite])) []

/-! ### The registered cleanup -/

/-- `"${NVMET_CFS}"/subsystems/*` -/
def Item.nqn? : Item → Option Name
  | .subsystem nqn => some nqn
  | _ => none

/-- `"${NVMET_CFS}"/hosts/*` -/
def Item.host? : Item → Option Name
  | .host name => some name
  | _ => none

def subsystems (site : Site) (cfs : Configfs) : List Name :=
  (site.listing.list cfs.items).filterMap Item.nqn?

def hosts (site : Site) (cfs : Configfs) : List Name :=
  (site.listing.list cfs.items).filterMap Item.host?

theorem mem_subsystems {nqn : Name} : nqn ∈ subsystems site cfs ↔ .subsystem nqn ∈ cfs := by
  unfold subsystems
  rw [List.mem_filterMap]
  constructor
  · rintro ⟨item, member, same⟩
    cases item <;> simp only [Item.nqn?, reduceCtorEq, Option.some.injEq] at same
    subst same
    exact (site.listing.mem_list _ _).mp member
  · exact fun member => ⟨.subsystem nqn, (site.listing.mem_list _ _).mpr member, rfl⟩

theorem mem_hosts {name : Name} : name ∈ hosts site cfs ↔ .host name ∈ cfs := by
  unfold hosts
  rw [List.mem_filterMap]
  constructor
  · rintro ⟨item, member, same⟩
    cases item <;> simp only [Item.host?, reduceCtorEq, Option.some.injEq] at same
    subst same
    exact (site.listing.mem_list _ _).mp member
  · exact fun member => ⟨.host name, (site.listing.mem_list _ _).mpr member, rfl⟩

/-- One pass of `_cleanup_nvmet` over the ports. The ANA groups are not looked at. -/
def cleanupPort (site : Site) (cfs : Configfs) (number : ℕ) : Configfs :=
  ((delLoopPorts site number cfs).clear site.listing (Item.isLinkOf number)).remove (.port number)

/-- The loops of `_cleanup_nvmet`: over the ports, then over the subsystems, then over the hosts. -/
def cleanupLoops (site : Site) (cfs : Configfs) : Configfs :=
  let ported := (ports site cfs).foldl (cleanupPort site) cfs
  let emptied := (subsystems site ported).foldl (fun cfs nqn => removeNvmetSubsystem site nqn cfs) ported
  (hosts site emptied).foldl (fun cfs name => removeNvmetHost name cfs) emptied

/-- **`_cleanup_nvmet`** -/
def cleanupNvmet (site : Site) (cfs : Configfs) : Configfs :=
  if site.fc then (cleanupLoops site cfs).remove .lport else cleanupLoops site cfs

/-- What is left by `_cleanup_nvmet`. -/
def Remains (site : Site) (cfs : Configfs) : Item → Prop
  | .anaGroup _ _ => True
  | .port number => ∃ group, .anaGroup number group ∈ cfs
  | .tport number => site.fc = true → .port number ∉ cfs
  | .rport number => site.fc = true → .port number ∉ cfs
  | .lport => site.fc = false
  | _ => False

/-- What one pass over the ports takes away. -/
def Dropped (site : Site) (number : ℕ) (cfs : Configfs) : Item → Prop
  | .exported other _ => other = number
  | .tport other => other = number ∧ site.fc = true
  | .rport other => other = number ∧ site.fc = true
  | .port other => other = number ∧ ∀ group, .anaGroup number group ∉ cfs
  | _ => False

theorem mem_cleanupPort {number : ℕ} {item : Item} :
    item ∈ cleanupPort site cfs number ↔ item ∈ cfs ∧ ¬ Dropped site number cfs item := by
  unfold cleanupPort
  have cleared : ∀ item,
      item ∈ (delLoopPorts site number cfs).clear site.listing (Item.isLinkOf number) ↔
        (item ∈ cfs ∧ ¬ (site.fc = true ∧ (item = .tport number ∨ item = .rport number))) ∧
          ∀ nqn, item ≠ .exported number nqn := by
    intro item
    rw [mem_clear_links, mem_delLoopPorts]
  generalize (delLoopPorts site number cfs).clear site.listing (Item.isLinkOf number) = unlinked at cleared ⊢
  have free : unlinked.Free (.port number) ↔ ∀ group, .anaGroup number group ∉ cfs := by
    rw [free_port]
    simp [cleared]
  rw [Store.mem_remove, free, cleared]
  cases item <;> simp [Dropped]
  case tport => cases site.fc <;> simp
  case rport => cases site.fc <;> simp

/-- The loop over the ports leaves no link to a subsystem. -/
theorem mem_ported {item : Item} :
    item ∈ (ports site cfs).foldl (cleanupPort site) cfs ↔
      item ∈ cfs ∧ ∀ number, .port number ∈ cfs → ¬ Dropped site number cfs item := by
  have alone : ∀ a b (cfs : Configfs) item,
      Dropped site b (cleanupPort site cfs a) item ↔ Dropped site b cfs item := by
    intro a b cfs item
    cases item <;> simp [Dropped, mem_cleanupPort]
  have fold := Store.mem_foldl (fun number cfs => cleanupPort site cfs number) (Dropped site)
    (fun number cfs item => mem_cleanupPort) alone (ports site cfs) cfs item
  refine fold.trans ?_
  simp only [mem_ports]

/-- What one pass over the subsystems takes away. -/
def Emptied (nqn : Name) (cfs : Configfs) (item : Item) : Prop :=
  (∃ nsid, item = .ns nqn nsid) ∨ (∃ name, item = .allowed nqn name) ∨
    item = .subsystem nqn ∧ ∀ number, .exported number nqn ∉ cfs

theorem mem_emptied {item : Item} :
    item ∈ (subsystems site cfs).foldl (fun cfs nqn => removeNvmetSubsystem site nqn cfs) cfs ↔
      item ∈ cfs ∧ ∀ nqn, .subsystem nqn ∈ cfs → ¬ Emptied nqn cfs item := by
  have removes : ∀ nqn (cfs : Configfs) item,
      item ∈ removeNvmetSubsystem site nqn cfs ↔ item ∈ cfs ∧ ¬ Emptied nqn cfs item := by
    intro nqn cfs item
    rw [mem_removeNvmetSubsystem, Emptied]
    push Not
    rfl
  have alone : ∀ first second (cfs : Configfs) item,
      Emptied second (removeNvmetSubsystem site first cfs) item ↔ Emptied second cfs item := by
    intro first second cfs item
    simp [Emptied, mem_removeNvmetSubsystem]
  have fold := Store.mem_foldl (fun nqn cfs => removeNvmetSubsystem site nqn cfs) Emptied removes alone
    (subsystems site cfs) cfs item
  refine fold.trans ?_
  simp only [mem_subsystems]

theorem mem_unhosted {item : Item} :
    item ∈ (hosts site cfs).foldl (fun cfs name => removeNvmetHost name cfs) cfs ↔
      item ∈ cfs ∧ ∀ name, item = .host name → ∃ nqn, .allowed nqn name ∈ cfs := by
  have removes : ∀ name (cfs : Configfs) (item : Item), item ∈ removeNvmetHost name cfs ↔
      item ∈ cfs ∧ ¬ (item = .host name ∧ ∀ nqn, .allowed nqn name ∉ cfs) := by
    intro name cfs item
    rw [removeNvmetHost, Store.mem_remove, free_host]
  have alone : ∀ first second (cfs : Configfs) (item : Item),
      (item = .host second ∧ ∀ nqn, .allowed nqn second ∉ removeNvmetHost first cfs) ↔
        item = .host second ∧ ∀ nqn, .allowed nqn second ∉ cfs := by
    intro first second cfs item
    simp [removes]
  have fold := Store.mem_foldl (fun name cfs => removeNvmetHost name cfs)
    (fun name cfs item => item = .host name ∧ ∀ nqn, .allowed nqn name ∉ cfs) removes alone
    (hosts site cfs) cfs item
  refine fold.trans ?_
  simp only [mem_hosts]
  constructor
  · rintro ⟨member, stays⟩
    refine ⟨member, ?_⟩
    rintro name rfl
    by_contra unlinked
    exact stays name member ⟨rfl, fun nqn link => unlinked ⟨nqn, link⟩⟩
  · rintro ⟨member, stays⟩
    refine ⟨member, fun name _ ⟨same, unlinked⟩ => ?_⟩
    obtain ⟨nqn, link⟩ := stays name same
    exact unlinked nqn link

/-- The loops leave no subsystem, no host and no link. -/
theorem mem_cleanupLoops {item : Item} :
    item ∈ cleanupLoops site cfs ↔ item ∈ cfs ∧ (item = .lport ∨ Remains site cfs item) := by
  unfold cleanupLoops
  have ported : ∀ item, item ∈ (ports site cfs).foldl (cleanupPort site) cfs ↔
      item ∈ cfs ∧ ∀ number, .port number ∈ cfs → ¬ Dropped site number cfs item :=
    fun _ => mem_ported
  generalize (ports site cfs).foldl (cleanupPort site) cfs = first at ported ⊢
  have emptied : ∀ item,
      item ∈ (subsystems site first).foldl (fun cfs nqn => removeNvmetSubsystem site nqn cfs) first ↔
        item ∈ first ∧ ∀ nqn, .subsystem nqn ∈ first → ¬ Emptied nqn first item :=
    fun _ => mem_emptied
  simp only
  generalize (subsystems site first).foldl (fun cfs nqn => removeNvmetSubsystem site nqn cfs) first =
    second at emptied ⊢
  rw [mem_unhosted]
  have unexported : ∀ number nqn, .exported number nqn ∉ first := by
    intro number nqn link
    obtain ⟨member, stays⟩ := (ported _).mp link
    exact stays number (port_of_exported member) rfl
  have unallowed : ∀ nqn name, .allowed nqn name ∉ second := by
    intro nqn name link
    obtain ⟨member, stays⟩ := (emptied _).mp link
    exact stays nqn (subsystem_of_allowed member) (Or.inr (Or.inl ⟨name, rfl⟩))
  cases item with
  | port number =>
    have left : .port number ∈ second ↔ .port number ∈ first := by simp [emptied, Emptied]
    rw [left, ported]
    simp only [Dropped, Remains, reduceCtorEq, false_implies, implies_true, and_true, false_or,
      and_congr_right_iff]
    refine fun member => ⟨fun stays => ?_, fun ⟨group, inside⟩ other _ ⟨same, bare⟩ => ?_⟩
    · by_contra bare
      exact stays number member ⟨rfl, fun group inside => bare ⟨group, inside⟩⟩
    · subst same
      exact bare group inside
  | anaGroup number group => simp [emptied, ported, Emptied, Dropped, Remains]
  | tport number =>
    have left : .tport number ∈ second ↔ .tport number ∈ first := by simp [emptied, Emptied]
    rw [left, ported]
    simp only [Dropped, Remains, reduceCtorEq, false_implies, implies_true, and_true, false_or,
      and_congr_right_iff]
    exact fun _ => ⟨fun stays fc member => stays number member ⟨rfl, fc⟩,
      fun unknown other member ⟨same, fc⟩ => unknown fc (same ▸ member)⟩
  | rport number =>
    have left : .rport number ∈ second ↔ .rport number ∈ first := by simp [emptied, Emptied]
    rw [left, ported]
    simp only [Dropped, Remains, reduceCtorEq, false_implies, implies_true, and_true, false_or,
      and_congr_right_iff]
    exact fun _ => ⟨fun stays fc member => stays number member ⟨rfl, fc⟩,
      fun unknown other member ⟨same, fc⟩ => unknown fc (same ▸ member)⟩
  | lport => simp [emptied, ported, Emptied, Dropped]
  | host name => simp [Remains, unallowed]
  | exported number nqn =>
    have gone : .exported number nqn ∉ second :=
      fun member => unexported number nqn ((emptied _).mp member).1
    simp [Remains, gone]
  | allowed nqn name => simp [Remains, unallowed nqn name]
  | subsystem nqn =>
    have gone : .subsystem nqn ∉ second := by
      intro member
      obtain ⟨inside, stays⟩ := (emptied _).mp member
      exact stays nqn inside (Or.inr (Or.inr ⟨rfl, fun number => unexported number nqn⟩))
    simp [Remains, gone]
  | ns nqn nsid =>
    have gone : .ns nqn nsid ∉ second := by
      intro member
      obtain ⟨inside, stays⟩ := (emptied _).mp member
      exact stays nqn (subsystem_of_ns inside) (Or.inl ⟨nsid, rfl⟩)
    simp [Remains, gone]

/-- **What the registered cleanup leaves** of any tree: the ports in which an ANA group was made, with these
groups; with `fc` also what `fcloop` has for numbers without a port. -/
theorem cleanupNvmet_leaves (site : Site) (cfs : Configfs) (item : Item) :
    item ∈ cleanupNvmet site cfs ↔ item ∈ cfs ∧ Remains site cfs item := by
  have leaf : Item.Leaf .lport := trivial
  unfold cleanupNvmet
  split
  · next fc =>
    rw [mem_remove_leaf leaf, mem_cleanupLoops]
    cases item <;> simp [Remains, fc]
  · next other =>
    rw [mem_cleanupLoops]
    cases item <;> simp [Remains, other]

end Ndt.Target
