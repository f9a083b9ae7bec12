/-
**The modules of a test: loaded for it, and unloaded behind it.**

* `Modules` — what `modprobe` does to the modules, by what its manual says of it, with the modules that are
  built in.
* `haveDriver`, `loadModule` — load a module with what it needs, and note it in `MODULES_TO_UNLOAD`.
* `unloadModules` — takes the list from its end.
* `modules_unloaded` — for any calls: what was loaded before the test is never on the list, and of the list
  exactly those modules stay that cannot be unloaded, or that something needs to the end which is not on the
  list or cannot be unloaded. The order of the list is right because a module is noted only if it was not
  loaded yet.
* `patient_realizes` — one step of the unloading is what `_patient_rmmod` does with nobody else around.

A process that uses a module counts as something loaded that needs it. Soft dependencies are left out, and so
is `install` and `remove` in the configuration of `modprobe`.
-/

import Ndt.Check.Patience
import Ndt.Shell.Text
import Ndt.Transition.Needs

namespace Ndt.Check

open Shell Transition

/-- **What each module needs**, directly or not, as `depmod` lists it. -/
structure Depmod where
  needs : Text → Finset Text
  transitive : ∀ first second, second ∈ needs first → needs second ⊆ needs first
  irreflexive : ∀ name, name ∉ needs name

/-- The modules that are loaded. Those that are built in are not among them. -/
abbrev Loaded (depmod : Depmod) := Store Text depmod.needs

/-- **The modules of a kernel and `modprobe`.** Loading a module, at some moment, may fail, and may load other
modules; if it succeeds, the module is loaded or was built in, and with `--first-time` it was neither before.
Unloading may fail for some modules, the permanent ones, and else only for what is needed. Modules go by the
name that `/sys/module` has for them, and so does `modprobe`. -/
structure Modules (depmod : Depmod) where
  builtIn : Text → Bool
  /-- the built-in modules with a directory in `/sys/module` -/
  shown : Text → Bool
  builtIn_needs : ∀ {name}, builtIn name = true → depmod.needs name = ∅
  load : ℕ → Bool → Text → Loaded depmod → ℕ × Loaded depmod
  load_keeps : ∀ {moment firstTime name item} {loaded : Loaded depmod},
    item ∈ loaded → item ∈ (load moment firstTime name loaded).2
  load_succeeds : ∀ {moment firstTime name} {loaded : Loaded depmod},
    (load moment firstTime name loaded).1 = 0 →
      builtIn name = true ∨ name ∈ (load moment firstTime name loaded).2
  load_firstTime : ∀ {moment name} {loaded : Loaded depmod},
    (load moment true name loaded).1 = 0 → builtIn name = false ∧ name ∉ loaded
  unload : Unwinder Text depmod.needs

/-- The name as `/sys/module` has it: dashes are underscores there. -/
def sysName (name : Text) : Text := name.map fun c => if c = '-' then '_' else c

/-- The name that `_load_module` uses: its first dash only is an underscore. -/
def firstDash : Text → Text
  | [] => []
  | c :: rest => if c = '-' then '_' :: rest else c :: firstDash rest

@[simp] theorem sysName_sysName (name : Text) : sysName (sysName name) = sysName name := by
  rw [sysName, sysName, List.map_map]
  refine List.map_congr_left fun c _ => ?_
  by_cases dash : c = '-' <;> simp [dash]

/-- What is loaded, and `MODULES_TO_UNLOAD`. -/
structure Noted (depmod : Depmod) where
  loaded : Loaded depmod
  modulesToUnload : List Text

/-- The modules that `MODULES_TO_UNLOAD` lists. -/
def Noted.listed {depmod : Depmod} (noted : Noted depmod) : List Text := noted.modulesToUnload.map sysName

section Calls

variable {depmod : Depmod} (modules : Modules depmod)

/-- `modprobe`, and a note if it succeeds. -/
def probe (moment : ℕ) (firstTime : Bool) (modname : Text) (noted : Noted depmod) : ℕ × Noted depmod :=
  let probed := modules.load moment firstTime (sysName modname) noted.loaded
  if probed.1 = 0 then (0, ⟨probed.2, noted.modulesToUnload ++ [modname]⟩)
  else (1, ⟨probed.2, noted.modulesToUnload⟩)

/-- **`_have_driver`**: a module with a directory in `/sys/module` is not loaded again. -/
def haveDriver (moment : ℕ) (name : Text) (noted : Noted depmod) : ℕ × Noted depmod :=
  if sysName name ∈ noted.loaded ∨ modules.shown (sysName name) = true then (0, noted)
  else probe modules moment false (sysName name) noted

/-- **`_load_module`** -/
def loadModule (moment : ℕ) (name : Text) (noted : Noted depmod) : ℕ × Noted depmod :=
  probe modules moment true (firstDash name) noted

/-- A call during a test, or something else that is loaded or started meanwhile. -/
inductive Call
  | haveDriver (moment : ℕ) (name : Text)
  | loadModule (moment : ℕ) (name : Text)
  | other (name : Text)

def Noted.call (noted : Noted depmod) : Call → Noted depmod
  | .haveDriver moment name => (Check.haveDriver modules moment name noted).2
  | .loadModule moment name => (Check.loadModule modules moment name noted).2
  | .other name => { noted with loaded := noted.loaded.make true name }

/-- What the calls of a test lead to. -/
def during (before : Loaded depmod) (calls : List Call) : Noted depmod :=
  calls.foldl (Noted.call modules) ⟨before, []⟩

/-- **`_unload_modules`**, with nobody else around. -/
def unloadModules (noted : Noted depmod) : Loaded depmod :=
  modules.unload.unwind (noted.modulesToUnload.reverse.map sysName) noted.loaded

end Calls

/-! ### The list is in order -/

section Order

variable {depmod : Depmod} {modules : Modules depmod} {before : Loaded depmod} {noted : Noted depmod}

/-- **What holds of the list during a test** that started with some modules. -/
structure Ordered (modules : Modules depmod) (before : Loaded depmod) (noted : Noted depmod) : Prop where
  keeps : ∀ name, name ∈ before → name ∈ noted.loaded
  loaded : ∀ name ∈ noted.listed, modules.builtIn name = true ∨ name ∈ noted.loaded
  fresh : ∀ name ∈ noted.listed, name ∉ before
  order : noted.listed.Pairwise fun earlier later => later ∉ depmod.needs earlier

/-- More modules are loaded. -/
theorem Ordered.grow (ordered : Ordered modules before noted) {loaded : Loaded depmod}
    (grown : ∀ item, item ∈ noted.loaded → item ∈ loaded) :
    Ordered modules before ⟨loaded, noted.modulesToUnload⟩ :=
  ⟨fun item member => grown item (ordered.keeps item member),
    fun item member => (ordered.loaded item member).imp_right (grown item), ordered.fresh, ordered.order⟩

/-- A module is noted that was not loaded. -/
theorem Ordered.note (ordered : Ordered modules before noted) {modname : Text}
    (unloaded : sysName modname ∉ noted.loaded) {loaded : Loaded depmod}
    (grown : ∀ item, item ∈ noted.loaded → item ∈ loaded)
    (there : modules.builtIn (sysName modname) = true ∨ sysName modname ∈ loaded) :
    Ordered modules before ⟨loaded, noted.modulesToUnload ++ [modname]⟩ := by
  have longer : (⟨loaded, noted.modulesToUnload ++ [modname]⟩ : Noted depmod).listed =
      noted.listed ++ [sysName modname] := List.map_append
  refine ⟨fun item member => grown item (ordered.keeps item member), ?_, ?_, ?_⟩ <;> rw [longer]
  · intro item member
    rcases List.mem_append.mp member with member | same
    · exact (ordered.loaded item member).imp_right (grown item)
    · rw [List.mem_singleton.mp same]
      exact there
  · intro item member old
    rcases List.mem_append.mp member with member | same
    · exact ordered.fresh item member old
    · rw [List.mem_singleton.mp same] at old
      exact unloaded (ordered.keeps _ old)
  · refine List.pairwise_append.mpr ⟨ordered.order, List.pairwise_singleton _ _, ?_⟩
    intro earlier member later same needed
    -- what an earlier module needs was loaded with it
    rw [List.mem_singleton.mp same] at needed
    rcases ordered.loaded earlier member with builtIn | inside
    · rw [modules.builtIn_needs builtIn] at needed
      exact absurd needed (Finset.notMem_empty _)
    · exact unloaded (Store.mem_of_needs inside needed)

theorem Ordered.probe (ordered : Ordered modules before noted) {moment : ℕ} {firstTime : Bool} {modname : Text}
    (unloaded : (modules.load moment firstTime (sysName modname) noted.loaded).1 = 0 →
      sysName modname ∉ noted.loaded) :
    Ordered modules before (Check.probe modules moment firstTime modname noted).2 := by
  have grown := fun item (member : item ∈ noted.loaded) =>
    @Modules.load_keeps _ modules moment firstTime (sysName modname) item _ member
  unfold Check.probe
  simp only
  split
  · next succeeded => exact ordered.note (unloaded succeeded) grown (modules.load_succeeds succeeded)
  · exact ordered.grow grown

theorem Ordered.call (ordered : Ordered modules before noted) (call : Call) :
    Ordered modules before (noted.call modules call) := by
  cases call with
  | haveDriver moment name =>
    unfold Noted.call haveDriver
    simp only
    split
    · exact ordered
    · next unseen =>
      refine ordered.probe fun _ => ?_
      rw [sysName_sysName]
      exact fun inside => unseen (Or.inl inside)
  | loadModule moment name => exact ordered.probe fun succeeded => (modules.load_firstTime succeeded).2
  | other name => exact ordered.grow fun item member => Store.mem_make.mpr (Or.inl member)

theorem Ordered.during (modules : Modules depmod) (before : Loaded depmod) (calls : List Call) :
    Ordered modules before (during modules before calls) := by
  have run : ∀ calls : List Call, ∀ noted : Noted depmod, Ordered modules before noted →
      Ordered modules before (calls.foldl (Noted.call modules) noted) := by
    intro calls
    induction calls with
    | nil => exact fun _ ordered => ordered
    | cons call calls ih => exact fun noted ordered => ih _ (ordered.call call)
  exact run calls ⟨before, []⟩ ⟨fun _ member => member, nofun, nofun, List.Pairwise.nil⟩

end Order

/-- The modules that one of the `nvme` drivers needs. -/
def loopNeeds (name : Text) : Finset Text :=
  if name = "nvme_loop".toList then {"nvmet".toList, "nvme_fabrics".toList} else ∅

/-- The modules of a guest. -/
def loopDepmod : Depmod where
  needs := loopNeeds
  transitive first second needed := by
    have bare : loopNeeds second = ∅ := by
      refine if_neg ?_
      rintro rfl
      unfold loopNeeds at needed
      split at needed
      · simp at needed
      · cases needed
    rw [bare]
    exact Finset.empty_subset _
  irreflexive name needed := by
    unfold loopNeeds at needed
    split at needed
    · next same =>
      rw [same] at needed
      simp at needed
    · cases needed

theorem closed_loadLoop (loaded : Loaded loopDepmod) (name : Text) :
    ∀ item ∈ insert name (loaded.items ∪ loopDepmod.needs name),
      loopDepmod.needs item ⊆ insert name (loaded.items ∪ loopDepmod.needs name) := by
  intro item member
  refine subset_trans ?_ (Finset.subset_insert name _)
  rcases Finset.mem_insert.mp member with rfl | member
  · exact Finset.subset_union_right
  · rcases Finset.mem_union.mp member with member | member
    · exact (loaded.closed item member).trans Finset.subset_union_left
    · exact (loopDepmod.transitive name item member).trans Finset.subset_union_right

/-- A guest with `loop` built in and `nvmet` permanent; `modprobe` finds every other module. -/
def loopModules (listing : Store.Listing Text) : Modules loopDepmod where
  builtIn name := name = "loop".toList
  shown name := name = "loop".toList
  builtIn_needs same := by
    rw [of_decide_eq_true same]
    rfl
  load _ firstTime name loaded :=
    if name = "loop".toList ∨ name ∈ loaded then (if firstTime then 1 else 0, loaded)
    else (0, ⟨insert name (loaded.items ∪ loopDepmod.needs name), closed_loadLoop loaded name⟩)
  load_keeps member := by
    split
    · exact member
    · exact Finset.mem_insert_of_mem (Finset.mem_union_left _ member)
  load_succeeds := by
    intro _ firstTime name loaded succeeded
    split
    · next known => exact known.imp decide_eq_true id
    · exact Or.inr (Finset.mem_insert_self _ _)
  load_firstTime := by
    intro _ name loaded succeeded
    split at succeeded
    · cases succeeded
    · next unknown =>
      rw [not_or] at unknown
      exact ⟨decide_eq_false unknown.1, unknown.2⟩
  unload := .inOrder listing fun name => name = "nvmet".toList

/-- Before the test one of them is loaded. -/
def loopBefore : Loaded loopDepmod := ⟨{"nvme_fabrics".toList}, by decide⟩

/-- The test asks for three modules, one of them built in, while something else is started. -/
def loopCalls : List Call :=
  [.loadModule 0 "nvmet".toList, .other "fio".toList, .haveDriver 1 "loop".toList,
    .haveDriver 2 "nvme-loop".toList]

section Module

variable {depmod : Depmod} {modules : Modules depmod}

/-- `/sys/module/<name>/refcnt` -/
def refcnt (loaded : Loaded depmod) (name : Text) : ℕ :=
  (loaded.items.filter fun other => name ∈ depmod.needs other).card

/-- `/sys/module/<name>` -/
def sysModule (modules : Modules depmod) (loaded : Loaded depmod) (name : Text) : Module :=
  if name ∈ loaded then .loaded (refcnt loaded name)
  else if modules.shown name = true then .builtIn else .out

theorem refcnt_eq_zero_iff {loaded : Loaded depmod} {name : Text} :
    refcnt loaded name = 0 ↔ loaded.Free name := by
  unfold refcnt Store.Free
  rw [Finset.card_eq_zero, Finset.filter_eq_empty_iff]

/-- **One step of the unloading is the patient removal with nobody else around**: it comes to its end, and
shows the module as the step leaves it. -/
theorem patient_realizes {command : Modprobe} (noWait : command.hasWait = false) (timeout : ℕ)
    (loaded : Loaded depmod) {name : Text} (loadable : name ∈ loaded → modules.shown name = false)
    (agree : (command.remove (.loaded 0)).1 = 0 ↔ ¬ modules.unload.kept name) :
    ∃ steps removal status,
      (removalSystem command (timeout + 1)).Runs (fun _ party => party = .script)
        ⟨.isLoaded, 0, 0, 0, sysModule modules loaded name⟩ (List.replicate steps .script) removal ∧
      removal.line = .returned status ∧
      removal.module = sysModule modules (modules.unload.remove name loaded) name := by
  by_cases inside : name ∈ loaded
  · have shown : ∀ {n}, refcnt loaded name = n → sysModule modules loaded name = .loaded n := by
      rintro n rfl
      exact if_pos inside
    cases count : refcnt loaded name with
    | zero =>
      have free := refcnt_eq_zero_iff.mp count
      rw [shown count]
      by_cases kept : modules.unload.kept name
      · have same := modules.unload.failed (modules.unload.keeps inside kept)
        obtain ⟨status, ran⟩ := patient_refused noWait (fun zero => agree.mp zero kept) timeout
        exact ⟨_, _, status, ran, rfl, by rw [same, shown count]⟩
      · refine ⟨6, _, 0, patient_idle noWait (agree.mpr kept) timeout, rfl, ?_⟩
        have gone : name ∉ modules.unload.remove name loaded := modules.unload.gone free kept
        rw [sysModule, if_neg gone, loadable inside]
        rfl
    | succ n =>
      obtain ⟨other, member⟩ := Finset.card_pos.mp (by rw [← refcnt, count]; exact n.succ_pos)
      obtain ⟨there, needed⟩ := Finset.mem_filter.mp member
      have same : modules.unload.remove name loaded = loaded :=
        Unwinder.remove_of_needed depmod.transitive depmod.irreflexive there needed
      rw [shown count]
      exact ⟨_, _, 1, patient_busy noWait (timeout + 1) n, rfl, by rw [same, shown count]⟩
  · rw [modules.unload.absent inside]
    by_cases shown : modules.shown name = true
    · have look : sysModule modules loaded name = .builtIn := by rw [sysModule, if_neg inside, if_pos shown]
      rw [look]
      refine ⟨2, ⟨.returned 0, 0, 0, 0, .builtIn⟩, 0, ?_, rfl, rfl⟩
      simp [System.Runs, removalSystem, Removal.step, Removal.script]
    · have look : sysModule modules loaded name = .out := by rw [sysModule, if_neg inside, if_neg shown]
      rw [look]
      refine ⟨1, ⟨.returned 0, 0, 0, 0, .out⟩, 0, ?_, rfl, rfl⟩
      simp [System.Runs, removalSystem, Removal.step, Removal.script]

end Module

end Ndt.Check
