/-
**The nvmet tree in configfs, and the helpers that make and remove what stands in it.**

* `Item` — the directories and links below `/sys/kernel/config/nvmet` that a script makes, and the ports of
  `fcloop`. A directory is not removed while something stands in it or a link points at it.
* `createNvmetSubsystem`, `createNvmetPort`, `addNvmetSubsysToPort`, `createNvmetHost` — any request may be
  refused, and no helper looks whether it was.
* `removeNvmetPort`, `removeNvmetSubsystem` — with what stands inside.

The names are those that a pattern lists. The attributes (addresses, keys, states) are left out: they come and
go with their directory; so are the referrals of a port, which no helper here makes.
-/

import Ndt.Shell.Text
import Ndt.Transition.Needs
import Mathlib.Data.Nat.Find
import Mathlib.Data.Finset.Image

namespace Ndt.Target

open Shell Transition

/-! ### Items -/

/-- **The name of a directory or a link**: `*` lists no name that begins with a dot. -/
structure Name where
  text : Text
  shown : text.head? ≠ some '.'
  deriving DecidableEq

/-- **What a script makes below `NVMET_CFS`**, and in `fcloop`. -/
inductive Item
  /-- `ports/<port>` -/
  | port (port : ℕ)
  /-- `ports/<port>/ana_groups/<group>`, which `_setup_nvmet_port_ana` makes, besides group `1`, which every
  port has -/
  | anaGroup (port group : ℕ)
  /-- `subsystems/<nqn>` -/
  | subsystem (nqn : Name)
  /-- `subsystems/<nqn>/namespaces/<nsid>` -/
  | ns (nqn nsid : Name)
  /-- `hosts/<host>` -/
  | host (host : Name)
  /-- the link `ports/<port>/subsystems/<nqn>` -/
  | exported (port : ℕ) (nqn : Name)
  /-- the link `subsystems/<nqn>/allowed_hosts/<host>` -/
  | allowed (nqn host : Name)
  /-- the target port of `fcloop` for a port -/
  | tport (port : ℕ)
  /-- the remote port of `fcloop` for a port -/
  | rport (port : ℕ)
  /-- the local port of `fcloop` -/
  | lport
  deriving DecidableEq

/-- The directory an item stands in, and what it points at. -/
def Item.needs : Item → Finset Item
  | .anaGroup number _ => {.port number}
  | .ns nqn _ => {.subsystem nqn}
  | .exported number nqn => {.port number, .subsystem nqn}
  | .allowed nqn hostnqn => {.subsystem nqn, .host hostnqn}
  | _ => ∅

abbrev Configfs := Store Item Item.needs

section Closed

variable {cfs : Configfs} {number group : ℕ} {nqn nsid name : Name}

theorem port_of_anaGroup (member : .anaGroup number group ∈ cfs) : .port number ∈ cfs :=
  Store.mem_of_needs member (by simp [Item.needs])

theorem port_of_exported (link : .exported number nqn ∈ cfs) : .port number ∈ cfs :=
  Store.mem_of_needs link (by simp [Item.needs])

theorem subsystem_of_exported (link : .exported number nqn ∈ cfs) : .subsystem nqn ∈ cfs :=
  Store.mem_of_needs link (by simp [Item.needs])

theorem subsystem_of_ns (member : .ns nqn nsid ∈ cfs) : .subsystem nqn ∈ cfs :=
  Store.mem_of_needs member (by simp [Item.needs])

theorem subsystem_of_allowed (link : .allowed nqn name ∈ cfs) : .subsystem nqn ∈ cfs :=
  Store.mem_of_needs link (by simp [Item.needs])

theorem host_of_allowed (link : .allowed nqn name ∈ cfs) : .host name ∈ cfs :=
  Store.mem_of_needs link (by simp [Item.needs])

end Closed

/-- The items that nothing stands in and nothing points at. -/
def Item.Leaf : Item → Prop
  | .port _ => False
  | .subsystem _ => False
  | .host _ => False
  | _ => True

theorem Item.Leaf.not_needed {item : Item} (leaf : item.Leaf) (other : Item) : item ∉ other.needs := by
  intro needed
  cases other <;>
    simp only [Item.needs, Finset.mem_insert, Finset.mem_singleton, Finset.notMem_empty] at needed
  case anaGroup => subst needed; exact leaf
  case ns => subst needed; exact leaf
  case exported => rcases needed with rfl | rfl <;> exact leaf
  case allowed => rcases needed with rfl | rfl <;> exact leaf

theorem free_port {cfs : Configfs} {port : ℕ} :
    cfs.Free (.port port) ↔
      (∀ group, .anaGroup port group ∉ cfs) ∧ ∀ nqn, .exported port nqn ∉ cfs := by
  constructor
  · intro free
    exact ⟨fun group member => free _ member (by simp [Item.needs]),
      fun nqn member => free _ member (by simp [Item.needs])⟩
  · rintro ⟨noGroup, noLink⟩ other member needed
    cases other <;> simp [Item.needs] at needed
    case anaGroup => subst needed; exact noGroup _ member
    case exported => subst needed; exact noLink _ member

theorem free_subsystem {cfs : Configfs} {nqn : Name} :
    cfs.Free (.subsystem nqn) ↔
      (∀ nsid, .ns nqn nsid ∉ cfs) ∧ (∀ port, .exported port nqn ∉ cfs) ∧
        ∀ host, .allowed nqn host ∉ cfs := by
  constructor
  · intro free
    exact ⟨fun nsid member => free _ member (by simp [Item.needs]),
      fun port member => free _ member (by simp [Item.needs]),
      fun host member => free _ member (by simp [Item.needs])⟩
  · rintro ⟨noNs, noLink, noHost⟩ other member needed
    cases other <;> simp [Item.needs] at needed
    case ns => subst needed; exact noNs _ member
    case exported => subst needed; exact noLink _ member
    case allowed => subst needed; exact noHost _ member

theorem free_host {cfs : Configfs} {host : Name} :
    cfs.Free (.host host) ↔ ∀ nqn, .allowed nqn host ∉ cfs := by
  constructor
  · exact fun free nqn member => free _ member (by simp [Item.needs])
  · intro noLink other member needed
    cases other <;> simp [Item.needs] at needed
    case allowed => subst needed; exact noLink _ member

theorem Item.Leaf.free {item : Item} (leaf : item.Leaf) (cfs : Configfs) : cfs.Free item :=
  fun other _ => leaf.not_needed other

/-- A leaf is removed whenever that is asked for. -/
theorem mem_remove_leaf {cfs : Configfs} {item other : Item} (leaf : item.Leaf) :
    other ∈ cfs.remove item ↔ other ∈ cfs ∧ other ≠ item := by
  rw [Store.mem_remove]
  have free := leaf.free cfs
  tauto

/-- What a pattern matches is removed, where it matches leaves only. -/
theorem mem_clear_leaves {cfs : Configfs} {listing : Store.Listing Item} {matched : Item → Bool}
    (leaves : ∀ item, matched item = true → item.Leaf) {item : Item} :
    item ∈ cfs.clear listing matched ↔ item ∈ cfs ∧ ¬ matched item = true :=
  Store.mem_clear listing fun item yes => (leaves item yes).not_needed

/-! ### Ports -/

/-- The transport, and the order in which a pattern lists directories. -/
structure Site where
  nvmeTrtype : Text
  listing : Store.Listing Item

/-- `[[ "${nvme_trtype}" == "fc" ]]` -/
def Site.fc (site : Site) : Bool := site.nvmeTrtype = "fc".toList

/-- The number of a port. -/
def Item.number? : Item → Option ℕ
  | .port number => some number
  | _ => none

/-- `"${NVMET_CFS}"/ports/*` -/
def ports (site : Site) (cfs : Configfs) : List ℕ := (site.listing.list cfs.items).filterMap Item.number?

theorem mem_ports {site : Site} {cfs : Configfs} {number : ℕ} :
    number ∈ ports site cfs ↔ .port number ∈ cfs := by
  unfold ports
  rw [List.mem_filterMap]
  constructor
  · rintro ⟨item, member, same⟩
    cases item <;> simp only [Item.number?, reduceCtorEq, Option.some.injEq] at same
    subst same
    exact (site.listing.mem_list _ _).mp member
  · exact fun member => ⟨.port number, (site.listing.mem_list _ _).mpr member, rfl⟩

theorem exists_unused (cfs : Configfs) : ∃ number, .port number ∉ cfs := by
  have injective : Function.Injective Item.port := fun _ _ same => Item.port.inj same
  obtain ⟨number, outside⟩ := Infinite.exists_notMem_finset (cfs.items.preimage Item.port injective.injOn)
  exact ⟨number, fun member => outside (Finset.mem_preimage.mpr member)⟩

/-- The first number for which there is no port. -/
def unusedPort (cfs : Configfs) : ℕ := Nat.find (exists_unused cfs)

theorem unusedPort_notMem (cfs : Configfs) : .port (unusedPort cfs) ∉ cfs :=
  Nat.find_spec (exists_unused cfs)

/-- Which requests of one pass over a port are granted. -/
structure PortGrants where
  port : Bool
  tport : Bool
  rport : Bool
  exported : Bool

/-- **`_create_nvmet_port`**: the number it echoes, and the tree. -/
def createNvmetPort (site : Site) (grants : PortGrants) (cfs : Configfs) : ℕ × Configfs :=
  let number := unusedPort cfs
  let made := cfs.make grants.port (.port number)
  (number, if site.fc then (made.make grants.tport (.tport number)).make grants.rport (.rport number)
    else made)

/-- **`_add_nvmet_subsys_to_port`** -/
def addNvmetSubsysToPort (granted : Bool) (number : ℕ) (nqn : Name) (cfs : Configfs) : Configfs :=
  cfs.make granted (.exported number nqn)

/-- An ANA group of the port. -/
def Item.isGroupOf (number : ℕ) : Item → Bool
  | .anaGroup other _ => other = number
  | _ => false

/-- The link of a subsystem at the port. -/
def Item.isLinkOf (number : ℕ) : Item → Bool
  | .exported other _ => other = number
  | _ => false

/-- The `fcloop` ports of a port are deleted, with `nvme_trtype=fc`. -/
def delLoopPorts (site : Site) (number : ℕ) (cfs : Configfs) : Configfs :=
  if site.fc then (cfs.remove (.tport number)).remove (.rport number) else cfs

/-- **`_remove_nvmet_port`** -/
def removeNvmetPort (site : Site) (number : ℕ) (cfs : Configfs) : Configfs :=
  ((delLoopPorts site number cfs).clear site.listing (Item.isGroupOf number)).remove (.port number)

theorem mem_delLoopPorts {site : Site} {number : ℕ} {cfs : Configfs} {item : Item} :
    item ∈ delLoopPorts site number cfs ↔
      item ∈ cfs ∧ ¬ (site.fc = true ∧ (item = .tport number ∨ item = .rport number)) := by
  unfold delLoopPorts
  split
  · next fc =>
    have remote : Item.Leaf (.rport number) := trivial
    have target : Item.Leaf (.tport number) := trivial
    rw [mem_remove_leaf remote, mem_remove_leaf target]
    tauto
  · next other => tauto

theorem mem_clear_groups {site : Site} {number : ℕ} {cfs : Configfs} {item : Item} :
    item ∈ cfs.clear site.listing (Item.isGroupOf number) ↔
      item ∈ cfs ∧ ∀ group, item ≠ .anaGroup number group := by
  rw [mem_clear_leaves]
  · cases item <;> simp [Item.isGroupOf, eq_comm]
  · intro item matched
    cases item <;> simp [Item.isGroupOf] at matched
    trivial

theorem mem_clear_links {site : Site} {number : ℕ} {cfs : Configfs} {item : Item} :
    item ∈ cfs.clear site.listing (Item.isLinkOf number) ↔
      item ∈ cfs ∧ ∀ nqn, item ≠ .exported number nqn := by
  rw [mem_clear_leaves]
  · cases item <;> simp [Item.isLinkOf, eq_comm]
  · intro item matched
    cases item <;> simp [Item.isLinkOf] at matched
    trivial

/-! ### Subsystems and hosts -/

/-- `def_nsid` -/
def defNsid : Name := ⟨"1".toList, by decide⟩

/-- `def_subsysnqn` -/
def defSubsysnqn : Name := ⟨"blktests-subsystem-1".toList, by decide⟩

/-- `def_hostnqn` -/
def defHostnqn : Name :=
  ⟨"nqn.2014-08.org.nvmexpress:uuid:0f01fb42-9f7f-4856-b0b3-51e60b8de349".toList, by decide⟩

/-- **`_create_nvmet_subsystem`**, with the namespace it makes for a block device. -/
def createNvmetSubsystem (granted grantedNs : Bool) (nqn : Name) (blkdev : Text) (cfs : Configfs) :
    Configfs :=
  let made := cfs.make granted (.subsystem nqn)
  if blkdev = [] then made else made.make grantedNs (.ns nqn defNsid)

/-- **`_create_nvmet_host`**: a directory that is there already is a failure. -/
def createNvmetHost (granted grantedLink : Bool) (nqn hostnqn : Name) (cfs : Configfs) : Configfs :=
  if .host hostnqn ∈ cfs then cfs
  else (cfs.make granted (.host hostnqn)).make grantedLink (.allowed nqn hostnqn)

/-- What stands in a subsystem: namespaces and links to the hosts it allows. -/
def Item.isNsOf (nqn : Name) : Item → Bool
  | .ns other _ => other = nqn
  | _ => false

def Item.isAllowedOf (nqn : Name) : Item → Bool
  | .allowed other _ => other = nqn
  | _ => false

/-- **`_remove_nvmet_subsystem`** -/
def removeNvmetSubsystem (site : Site) (nqn : Name) (cfs : Configfs) : Configfs :=
  let emptied := (cfs.clear site.listing (Item.isNsOf nqn)).clear site.listing (Item.isAllowedOf nqn)
  emptied.remove (.subsystem nqn)

/-- **`_remove_nvmet_host`** -/
def removeNvmetHost (hostnqn : Name) (cfs : Configfs) : Configfs := cfs.remove (.host hostnqn)

theorem mem_clear_ns {site : Site} {nqn : Name} {cfs : Configfs} {item : Item} :
    item ∈ cfs.clear site.listing (Item.isNsOf nqn) ↔ item ∈ cfs ∧ ∀ nsid, item ≠ .ns nqn nsid := by
  rw [mem_clear_leaves]
  · cases item <;> simp [Item.isNsOf, eq_comm]
  · intro item matched
    cases item <;> simp [Item.isNsOf] at matched
    trivial

theorem mem_clear_allowed {site : Site} {nqn : Name} {cfs : Configfs} {item : Item} :
    item ∈ cfs.clear site.listing (Item.isAllowedOf nqn) ↔
      item ∈ cfs ∧ ∀ hostnqn, item ≠ .allowed nqn hostnqn := by
  rw [mem_clear_leaves]
  · cases item <;> simp [Item.isAllowedOf, eq_comm]
  · intro item matched
    cases item <;> simp [Item.isAllowedOf] at matched
    trivial

/-- **What is removed with a subsystem**: what stands in it, and itself unless a port exports it. -/
theorem mem_removeNvmetSubsystem {site : Site} {nqn : Name} {cfs : Configfs} {item : Item} :
    item ∈ removeNvmetSubsystem site nqn cfs ↔
      item ∈ cfs ∧ (∀ nsid, item ≠ .ns nqn nsid) ∧ (∀ hostnqn, item ≠ .allowed nqn hostnqn) ∧
        (item = .subsystem nqn → ∃ number, .exported number nqn ∈ cfs) := by
  unfold removeNvmetSubsystem
  have cleared : ∀ item,
      item ∈ (cfs.clear site.listing (Item.isNsOf nqn)).clear site.listing (Item.isAllowedOf nqn) ↔
        item ∈ cfs ∧ (∀ nsid, item ≠ .ns nqn nsid) ∧ ∀ hostnqn, item ≠ .allowed nqn hostnqn := by
    intro item
    rw [mem_clear_allowed, mem_clear_ns, and_assoc]
  simp only
  generalize (cfs.clear site.listing (Item.isNsOf nqn)).clear site.listing (Item.isAllowedOf nqn) =
    emptied at cleared ⊢
  have free : emptied.Free (.subsystem nqn) ↔ ¬ ∃ number, .exported number nqn ∈ cfs := by
    rw [free_subsystem]
    simp [cleared]
  rw [Store.mem_remove, free, cleared]
  tauto

/-- **What is removed with a port**: its ANA groups, and itself unless it exports something. -/
theorem mem_removeNvmetPort {site : Site} {number : ℕ} {cfs : Configfs} {item : Item} :
    item ∈ removeNvmetPort site number cfs ↔
      item ∈ cfs ∧ ¬ (site.fc = true ∧ (item = .tport number ∨ item = .rport number)) ∧
        (∀ group, item ≠ .anaGroup number group) ∧
        (item = .port number → ∃ nqn, .exported number nqn ∈ cfs) := by
  unfold removeNvmetPort
  have cleared : ∀ item,
      item ∈ (delLoopPorts site number cfs).clear site.listing (Item.isGroupOf number) ↔
        (item ∈ cfs ∧ ¬ (site.fc = true ∧ (item = .tport number ∨ item = .rport number))) ∧
          ∀ group, item ≠ .anaGroup number group := by
    intro item
    rw [mem_clear_groups, mem_delLoopPorts]
  generalize (delLoopPorts site number cfs).clear site.listing (Item.isGroupOf number) = emptied at cleared ⊢
  have free : emptied.Free (.port number) ↔ ¬ ∃ nqn, .exported number nqn ∈ cfs := by
    rw [free_port]
    simp [cleared]
  rw [Store.mem_remove, free, cleared]
  tauto

end Ndt.Target
