/-
**The patient removal of a module, among processes that use the module.**

`_patient_rmmod` looks once a second whether the module has no references any more, and then tries once a
second to remove it. Between any two of its commands another process may take or drop a reference, remove
the module itself, or load it again.

* `Modprobe` — a `modprobe`, by what its manual and the kernel say of removing a module.
* `Removal` — the state of all parties; `Removal.script` is the next command of the function, one line each.
* `patient_tells` — in every run without a reload: no more seconds than the timeout, never the single last
  try, and a status of `0` says that the module is gone or built in.
* `patient_exact` — if nobody else removes the module, its status says whether it is gone or built in.
* `falseAlarm` — a run in which another process removes it behind a failed try: the status is not `0`.
* `patient_ends` — however the others act, the function comes to its end.

`MODPROBE_PATIENT_RM_TIMEOUT_SECONDS` is a natural number below `2 ^ 63`, such as its default of 50; a negative
one would be counted away from zero. A removal by `modprobe` is one step, with `--wait` that of its last
attempt.
-/

import Ndt.Transition.System

namespace Ndt.Check

open Transition

/-! ### The parties -/

/-- **A module**, as `/sys/module` shows it. -/
inductive Module
  /-- not loaded -/
  | out
  /-- built into the kernel: no `refcnt` file -/
  | builtIn
  | loaded (refcnt : ℕ)
  deriving DecidableEq

/-- There is nothing to unload: the module is not loaded, or built in. -/
def Module.Gone : Module → Prop
  | .loaded _ => False
  | _ => True

/-- **`modprobe --remove`**: its status, and the module behind it. A removal that succeeds has unloaded the
module, one that fails changes nothing; a module that is in use is not removed, and what is not loaded stays
so. Others may be refused. -/
structure Modprobe where
  hasWait : Bool
  remove : Module → ℕ × Module
  unloads : ∀ {n}, (remove (.loaded n)).1 = 0 → (remove (.loaded n)).2 = .out
  fails : ∀ {module}, (remove module).1 ≠ 0 → (remove module).2 = module
  inUse : ∀ n, (remove (.loaded (n + 1))).1 ≠ 0
  absent : ∀ {module}, module.Gone → (remove module).2 = module

/-- **`_patient_rmmod_check_refcnt`**: also true if there is no such file. -/
def checkRefcnt : Module → Bool
  | .loaded n => n = 0
  | _ => true

/-- The next line of `_patient_rmmod`. -/
inductive Stage
  /-- `[[ ! -d "/sys/module/$module_sys" ]]` -/
  | isLoaded
  /-- `[[ ! -f "/sys/module/$module_sys/refcnt" ]]` -/
  | hasRefcnt
  /-- `modprobe --remove --wait` -/
  | waiting
  /-- the check behind it -/
  | waited
  /-- the loop that waits for no references -/
  | looking
  /-- `[[ "$max_tries" == "0" ]]` -/
  | found
  /-- the single try if no time is left -/
  | lastTry
  /-- the condition of the loop that removes -/
  | testing
  /-- its `modprobe --remove` -/
  | trying
  | returned (status : ℕ)
  deriving DecidableEq

/-- **All parties during a removal.** -/
structure Removal where
  line : Stage
  maxTries : ℕ
  modRet : ℕ
  /-- The seconds slept so far. -/
  slept : ℕ
  module : Module
  deriving DecidableEq

/-- Who acts. The others take and drop a reference, remove the module, load it. -/
inductive Party
  | script | get | put | unload | load
  deriving DecidableEq

/-- **The next command of `_patient_rmmod`** with a timeout. -/
def Removal.script (modprobe : Modprobe) (timeout : ℕ) (removal : Removal) : Option Removal :=
  match removal.line with
  | .isLoaded =>
    if removal.module = .out then some { removal with line := .returned 0 }
    else some { removal with line := .hasRefcnt }
  | .hasRefcnt =>
    match removal.module with
    | .loaded _ =>
      if modprobe.hasWait then some { removal with line := .waiting }
      else some { removal with line := .looking, maxTries := timeout }
    | _ => some { removal with line := .returned 0 }
  | .waiting =>
    let removed := modprobe.remove removal.module
    if removed.1 ≠ 0 then some { removal with line := .returned removed.1, module := removed.2 }
    else some { removal with line := .waited, module := removed.2 }
  | .waited =>
    if checkRefcnt removal.module then some { removal with line := .returned 0 }
    else some { removal with line := .returned 1 }
  | .looking =>
    if removal.maxTries = 0 then some { removal with line := .returned 1 }
    else if checkRefcnt removal.module then some { removal with line := .found }
    else some { removal with maxTries := removal.maxTries - 1, slept := removal.slept + 1 }
  | .found =>
    if removal.maxTries = 0 then some { removal with line := .lastTry }
    else some { removal with line := .testing }
  | .lastTry =>
    let removed := modprobe.remove removal.module
    some { removal with line := .returned removed.1, module := removed.2 }
  | .testing =>
    if removal.maxTries ≠ 0 ∧ removal.module ≠ .out then some { removal with line := .trying }
    else some { removal with line := .returned removal.modRet }
  | .trying =>
    let removed := modprobe.remove removal.module
    if removed.1 = 0 then
      some { removal with line := .returned 0, modRet := 0, module := removed.2 }
    else
      some { removal with
        line := .testing
        modRet := removed.1
        maxTries := removal.maxTries - 1
        slept := removal.slept + 1
        module := removed.2 }
  | .returned _ => none

/-- What another process does to the module. -/
def Module.act : Module → Party → Option Module
  | .loaded n, .get => some (.loaded (n + 1))
  | .loaded (n + 1), .put => some (.loaded n)
  | .loaded 0, .unload => some .out
  | .out, .load => some (.loaded 0)
  | _, _ => none

/-- One action of one party. -/
def Removal.step (modprobe : Modprobe) (timeout : ℕ) (removal : Removal) (party : Party) : Option Removal :=
  if party = .script then removal.script modprobe timeout
  else (removal.module.act party).map fun module => { removal with module := module }

/-- **A removal**, from any state of the module on. -/
def removalSystem (modprobe : Modprobe) (timeout : ℕ) : System Removal Party where
  initial removal := removal.line = .isLoaded ∧ removal.maxTries = 0 ∧ removal.modRet = 0 ∧ removal.slept = 0
  step := Removal.step modprobe timeout

/-! ### What the status tells -/

section Steps

variable {modprobe : Modprobe} {timeout : ℕ} {removal next : Removal}

/-- Another process leaves the function alone, and without a reload what is gone stays gone. -/
theorem step_other {party : Party} (other : party ≠ .script)
    (stepped : removal.step modprobe timeout party = some next) :
    ∃ module, removal.module.act party = some module ∧ next = { removal with module := module } := by
  rw [Removal.step, if_neg other] at stepped
  obtain ⟨module, acted, same⟩ := Option.map_eq_some_iff.mp stepped
  exact ⟨module, acted, same.symm⟩

theorem Module.Gone.act {module after : Module} {party : Party} (gone : module.Gone) (noLoad : party ≠ .load)
    (acted : module.act party = some after) : after.Gone := by
  cases module with
  | loaded n => exact gone.elim
  | builtIn => cases party <;> cases acted
  | out =>
    cases party with
    | load => exact absurd rfl noLoad
    | _ => cases acted

/-- A removal that succeeds leaves nothing. -/
theorem Modprobe.remove_zero {module : Module} (zero : (modprobe.remove module).1 = 0) :
    (modprobe.remove module).2.Gone := by
  cases module with
  | out => rw [modprobe.absent (show Module.out.Gone from trivial)]; trivial
  | builtIn => rw [modprobe.absent (show Module.builtIn.Gone from trivial)]; trivial
  | loaded n => rw [modprobe.unloads zero]; trivial

/-- A module that is in use stays as it is. -/
theorem Modprobe.remove_inUse (modprobe : Modprobe) (n : ℕ) :
    (modprobe.remove (.loaded (n + 1))).2 = .loaded (n + 1) :=
  modprobe.fails (modprobe.inUse n)

/-- **What holds at each line**, without a reload. -/
def Removal.Holds (timeout : ℕ) (removal : Removal) : Prop :=
  match removal.line with
  | .isLoaded => removal.slept = 0 ∧ removal.modRet = 0
  | .hasRefcnt => removal.slept = 0 ∧ removal.modRet = 0
  | .waiting => removal.slept = 0
  | .waited => removal.slept = 0 ∧ removal.module.Gone
  | .looking => removal.slept + removal.maxTries ≤ timeout ∧ removal.modRet = 0
  | .found => removal.slept + removal.maxTries ≤ timeout ∧ removal.maxTries ≠ 0
  | .lastTry => False
  | .testing => removal.slept + removal.maxTries ≤ timeout ∧ (removal.modRet = 0 → removal.maxTries ≠ 0)
  | .trying => removal.slept + removal.maxTries ≤ timeout ∧ removal.maxTries ≠ 0
  | .returned status => removal.slept ≤ timeout ∧ (status = 0 → removal.module.Gone)

/-- The next command of the function keeps what holds. -/
theorem Removal.Holds.script (holds : removal.Holds timeout)
    (stepped : removal.script modprobe timeout = some next) : next.Holds timeout := by
  obtain ⟨line, maxTries, modRet, slept, module⟩ := removal
  cases line <;> simp only [Removal.script, Removal.Holds] at stepped holds
  case isLoaded =>
    have seconds : slept ≤ timeout := by omega
    split at stepped
    · next out =>
      obtain rfl := Option.some.inj stepped
      subst out
      exact ⟨seconds, fun _ => trivial⟩
    · obtain rfl := Option.some.inj stepped
      exact holds
  case hasRefcnt =>
    have seconds : slept ≤ timeout := by omega
    cases module with
    | loaded n =>
      simp only at stepped
      split at stepped
      · obtain rfl := Option.some.inj stepped
        exact holds.1
      · obtain rfl := Option.some.inj stepped
        have fresh : slept + timeout ≤ timeout := by omega
        exact ⟨fresh, holds.2⟩
    | out =>
      obtain rfl := Option.some.inj stepped
      exact ⟨seconds, fun _ => trivial⟩
    | builtIn =>
      obtain rfl := Option.some.inj stepped
      exact ⟨seconds, fun _ => trivial⟩
  case waiting =>
    have seconds : slept ≤ timeout := by omega
    split at stepped
    · next failed =>
      obtain rfl := Option.some.inj stepped
      exact ⟨seconds, fun zero => absurd zero failed⟩
    · next removed =>
      obtain rfl := Option.some.inj stepped
      exact ⟨holds, Modprobe.remove_zero (not_not.mp removed)⟩
  case waited =>
    have seconds : slept ≤ timeout := by omega
    split at stepped
    · obtain rfl := Option.some.inj stepped
      exact ⟨seconds, fun _ => holds.2⟩
    · obtain rfl := Option.some.inj stepped
      exact ⟨seconds, fun zero => absurd zero one_ne_zero⟩
  case looking =>
    have seconds : slept ≤ timeout := by omega
    split at stepped
    · obtain rfl := Option.some.inj stepped
      exact ⟨seconds, fun zero => absurd zero one_ne_zero⟩
    · next left =>
      split at stepped
      · obtain rfl := Option.some.inj stepped
        exact ⟨holds.1, left⟩
      · obtain rfl := Option.some.inj stepped
        have sooner : slept + 1 + (maxTries - 1) ≤ timeout := by omega
        exact ⟨sooner, holds.2⟩
  case found =>
    rw [if_neg holds.2] at stepped
    obtain rfl := Option.some.inj stepped
    exact ⟨holds.1, fun _ => holds.2⟩
  case testing =>
    have seconds : slept ≤ timeout := by omega
    split at stepped
    · next more =>
      obtain rfl := Option.some.inj stepped
      exact ⟨holds.1, more.1⟩
    · next done =>
      obtain rfl := Option.some.inj stepped
      refine ⟨seconds, fun zero => ?_⟩
      -- a loop that is left before its first try is left because the module is gone
      have out : module = .out := by
        by_contra inside
        exact done ⟨holds.2 zero, inside⟩
      subst out
      trivial
  case trying =>
    have seconds : slept ≤ timeout := by omega
    split at stepped
    · next removed =>
      obtain rfl := Option.some.inj stepped
      exact ⟨seconds, fun _ => Modprobe.remove_zero removed⟩
    · next failed =>
      obtain rfl := Option.some.inj stepped
      have sooner : slept + 1 + (maxTries - 1) ≤ timeout := by omega
      exact ⟨sooner, fun zero => absurd zero failed⟩
  case returned => cases stepped

/-- Without a reload the others keep what holds. -/
theorem Removal.Holds.act (holds : removal.Holds timeout) {party : Party} (noLoad : party ≠ .load)
    {module : Module} (acted : removal.module.act party = some module) :
    { removal with module := module }.Holds timeout := by
  obtain ⟨line, maxTries, modRet, slept, before⟩ := removal
  cases line <;> simp only [Removal.Holds] at holds ⊢
  case waited => exact ⟨holds.1, holds.2.act noLoad acted⟩
  case returned => exact ⟨holds.1, fun zero => (holds.2 zero).act noLoad acted⟩
  all_goals exact holds

theorem holds_of_reaches {meets : Removal → Party → Prop}
    (noLoad : ∀ removal, ¬ meets removal .load)
    (reached : (removalSystem modprobe timeout).Reaches meets removal) : removal.Holds timeout := by
  refine reached.invariant ?_ ?_
  · rintro ⟨line, maxTries, modRet, slept, module⟩ ⟨rfl, rfl, rfl, rfl⟩
    exact ⟨rfl, rfl⟩
  · intro removal party next holds met stepped
    by_cases script : party = .script
    · subst script
      exact holds.script stepped
    · obtain ⟨module, acted, rfl⟩ := step_other script stepped
      refine holds.act ?_ acted
      rintro rfl
      exact noLoad _ met

end Steps

/-- **The patient removal in every run without a reload**: it sleeps no longer than its timeout, the single
last try is never made, and a status of `0` says that there is nothing to unload. -/
theorem patient_tells {modprobe : Modprobe} {timeout : ℕ} {removal : Removal}
    (reached : (removalSystem modprobe timeout).Reaches (fun _ party => party ≠ .load) removal) :
    removal.slept ≤ timeout ∧ removal.line ≠ .lastTry ∧
      (removal.line = .returned 0 → removal.module.Gone) := by
  have holds := holds_of_reaches (fun _ met => met rfl) reached
  obtain ⟨line, maxTries, modRet, slept, module⟩ := removal
  unfold Removal.Holds at holds
  cases line <;> simp only at holds ⊢
  case returned status =>
    refine ⟨holds.1, nofun, fun same => holds.2 ?_⟩
    exact Stage.returned.inj same
  all_goals exact ⟨by omega, by simp, nofun⟩

/-- The `modprobe` of kmod, with `--wait` or without, for a module that can be unloaded or for a permanent
one. -/
def kmod (hasWait permanent : Bool) : Modprobe where
  hasWait := hasWait
  remove
    | .out => (0, .out)
    | .builtIn => (1, .builtIn)
    | .loaded 0 => if permanent then (1, .loaded 0) else (0, .out)
    | .loaded (n + 1) => (1, .loaded (n + 1))
  unloads {n} zero := by cases n <;> cases permanent <;> simp_all
  fails {module} failed := by
    rcases module with _ | _ | ⟨_ | n⟩ <;> cases permanent <;> simp_all
  inUse n := one_ne_zero
  absent {module} gone := by
    cases module with
    | loaded n => exact gone.elim
    | _ => rfl

/-- A run in which the status is not `0` and the module is gone: somebody takes a reference in front of the
first try, drops it behind it, and removes the module. -/
theorem falseAlarm {modprobe : Modprobe} (noWait : modprobe.hasWait = false) (timeout : ℕ) :
    (removalSystem modprobe (timeout + 1)).Reaches (fun _ party => party ≠ .load)
      ⟨.returned (modprobe.remove (.loaded 1)).1, timeout, (modprobe.remove (.loaded 1)).1, 1, .out⟩ := by
  have start : (removalSystem modprobe (timeout + 1)).Reaches (fun _ party => party ≠ .load)
      ⟨.isLoaded, 0, 0, 0, .loaded 0⟩ := .start ⟨rfl, rfl, rfl, rfl⟩
  refine start.runs [.script, .script, .script, .script, .script, .get, .script, .put, .unload, .script] ?_
  have failed : (modprobe.remove (.loaded 1)).1 ≠ 0 := modprobe.inUse 0
  have stays : (modprobe.remove (.loaded 1)).2 = .loaded 1 := modprobe.remove_inUse 0
  simp [System.Runs, removalSystem, Removal.step, Removal.script, Module.act, checkRefcnt, noWait, failed,
    stays]

theorem patient_tells_falseAlarm :
    1 ≤ 3 ∧ Stage.returned 1 ≠ .lastTry ∧ (Stage.returned 1 = .returned 0 → Module.out.Gone) :=
  patient_tells (falseAlarm (show (kmod false false).hasWait = false from rfl) 2)

/-! ### Nobody else -/

section Alone

variable {modprobe : Modprobe}

/-- With nobody else, an unused module that can be unloaded is removed at the first try. -/
theorem patient_idle (noWait : modprobe.hasWait = false) (free : (modprobe.remove (.loaded 0)).1 = 0)
    (timeout : ℕ) :
    (removalSystem modprobe (timeout + 1)).Runs (fun _ party => party = .script)
      ⟨.isLoaded, 0, 0, 0, .loaded 0⟩ [.script, .script, .script, .script, .script, .script]
      ⟨.returned 0, timeout + 1, 0, 0, .out⟩ := by
  have gone := modprobe.unloads free
  simp [System.Runs, removalSystem, Removal.step, Removal.script, checkRefcnt, noWait, free, gone]

theorem testing_refused (refused : (modprobe.remove (.loaded 0)).1 ≠ 0) (timeout : ℕ)
    (left modRet slept : ℕ) :
    ∃ status, (removalSystem modprobe timeout).Runs (fun _ party => party = .script)
      ⟨.testing, left, modRet, slept, .loaded 0⟩ (List.replicate (2 * left + 1) .script)
      ⟨.returned status, 0, status, slept + left, .loaded 0⟩ := by
  have stays := modprobe.fails refused
  induction left generalizing modRet slept with
  | zero => exact ⟨modRet, by simp [System.Runs, removalSystem, Removal.step, Removal.script]⟩
  | succ left ih =>
    obtain ⟨status, later⟩ := ih (modprobe.remove (.loaded 0)).1 (slept + 1)
    refine ⟨status, ?_⟩
    rw [show 2 * (left + 1) + 1 = 2 * left + 1 + 1 + 1 by omega, List.replicate_succ, List.replicate_succ]
    rw [show slept + 1 + left = slept + (left + 1) by omega] at later
    refine ⟨rfl, ⟨.trying, left + 1, modRet, slept, .loaded 0⟩, ?_, rfl,
      ⟨.testing, left, (modprobe.remove (.loaded 0)).1, slept + 1, .loaded 0⟩, ?_, later⟩
    · simp [removalSystem, Removal.step, Removal.script]
    · simp [removalSystem, Removal.step, Removal.script, refused, stays]

/-- With nobody else, an unused module that cannot be unloaded stays, and the time is used up. -/
theorem patient_refused (noWait : modprobe.hasWait = false) (refused : (modprobe.remove (.loaded 0)).1 ≠ 0)
    (timeout : ℕ) :
    ∃ status, (removalSystem modprobe (timeout + 1)).Runs (fun _ party => party = .script)
      ⟨.isLoaded, 0, 0, 0, .loaded 0⟩ (List.replicate (2 * (timeout + 1) + 5) .script)
      ⟨.returned status, 0, status, timeout + 1, .loaded 0⟩ := by
  obtain ⟨status, tries⟩ := testing_refused refused (timeout + 1) (timeout + 1) 0 0
  rw [zero_add] at tries
  refine ⟨status, ?_⟩
  rw [show 2 * (timeout + 1) + 5 = 2 * (timeout + 1) + 1 + 1 + 1 + 1 + 1 by omega]
  simp only [List.replicate_succ] at tries ⊢
  refine ⟨rfl, ⟨.hasRefcnt, 0, 0, 0, .loaded 0⟩, rfl, rfl,
    ⟨.looking, timeout + 1, 0, 0, .loaded 0⟩, ?_, rfl, ⟨.found, timeout + 1, 0, 0, .loaded 0⟩, ?_, rfl,
    ⟨.testing, timeout + 1, 0, 0, .loaded 0⟩, ?_, tries⟩
  · simp [removalSystem, Removal.step, Removal.script, noWait]
  · simp [removalSystem, Removal.step, Removal.script, checkRefcnt]
  · simp [removalSystem, Removal.step, Removal.script]

theorem looking_busy (timeout n : ℕ) (left slept : ℕ) :
    (removalSystem modprobe timeout).Runs (fun _ party => party = .script)
      ⟨.looking, left, 0, slept, .loaded (n + 1)⟩ (List.replicate (left + 1) .script)
      ⟨.returned 1, 0, 0, slept + left, .loaded (n + 1)⟩ := by
  induction left generalizing slept with
  | zero => simp [System.Runs, removalSystem, Removal.step, Removal.script]
  | succ left ih =>
    rw [List.replicate_succ]
    refine ⟨rfl, ⟨.looking, left, 0, slept + 1, .loaded (n + 1)⟩, ?_, ?_⟩
    · simp [removalSystem, Removal.step, Removal.script, checkRefcnt]
    · have later := ih (slept + 1)
      rwa [show slept + 1 + left = slept + (left + 1) by omega] at later

/-- With nobody else, a module that is in use stays, and the time is used up. -/
theorem patient_busy (noWait : modprobe.hasWait = false) (timeout n : ℕ) :
    (removalSystem modprobe timeout).Runs (fun _ party => party = .script)
      ⟨.isLoaded, 0, 0, 0, .loaded (n + 1)⟩ (List.replicate (timeout + 3) .script)
      ⟨.returned 1, 0, 0, timeout, .loaded (n + 1)⟩ := by
  have looks := @looking_busy modprobe timeout n timeout 0
  rw [zero_add] at looks
  rw [List.replicate_succ, List.replicate_succ]
  refine ⟨rfl, ⟨.hasRefcnt, 0, 0, 0, .loaded (n + 1)⟩, rfl, rfl,
    ⟨.looking, timeout, 0, 0, .loaded (n + 1)⟩, ?_, looks⟩
  simp [removalSystem, Removal.step, Removal.script, noWait]

end Alone

/-! ### The only process that removes -/

section Steps

variable {modprobe : Modprobe} {timeout : ℕ} {removal next : Removal}

theorem Module.not_gone_iff {module : Module} : ¬ module.Gone ↔ ∃ n, module = .loaded n := by
  cases module <;> simp [Module.Gone]

/-- References come and go, the module stays or is not there. -/
theorem Module.gone_act {module after : Module} {party : Party} (noLoad : party ≠ .load)
    (noUnload : party ≠ .unload) (acted : module.act party = some after) : after.Gone ↔ module.Gone := by
  refine ⟨fun gone => ?_, fun gone => gone.act noLoad acted⟩
  by_contra inside
  obtain ⟨n, rfl⟩ := Module.not_gone_iff.mp inside
  cases party with
  | load => exact noLoad rfl
  | unload => exact noUnload rfl
  | script => cases n <;> cases acted
  | get =>
    cases n with
    | zero => obtain rfl := Option.some.inj acted; exact gone
    | succ n => obtain rfl := Option.some.inj acted; exact gone
  | put =>
    cases n with
    | zero => cases acted
    | succ n => obtain rfl := Option.some.inj acted; exact gone

/-- **Whether the module is gone at each line**, if nobody else removes or loads it. -/
def Removal.Exact (removal : Removal) : Prop :=
  match removal.line with
  | .isLoaded => True
  | .hasRefcnt => removal.module ≠ .out
  | .waited => removal.module.Gone
  | .lastTry => True
  | .returned status => status = 0 ↔ removal.module.Gone
  | _ => ¬ removal.module.Gone

theorem Removal.Exact.script (holds : removal.Holds timeout) (told : removal.Exact)
    (stepped : removal.script modprobe timeout = some next) : next.Exact := by
  obtain ⟨line, maxTries, modRet, slept, module⟩ := removal
  cases line <;> simp only [Removal.script, Removal.Holds, Removal.Exact] at stepped holds told
  case isLoaded =>
    split at stepped
    · next out =>
      obtain rfl := Option.some.inj stepped
      subst out
      exact iff_of_true rfl trivial
    · next inside =>
      obtain rfl := Option.some.inj stepped
      exact inside
  case hasRefcnt =>
    cases module with
    | loaded n =>
      simp only at stepped
      split at stepped
      · obtain rfl := Option.some.inj stepped
        exact id
      · obtain rfl := Option.some.inj stepped
        exact id
    | out => exact absurd rfl told
    | builtIn =>
      obtain rfl := Option.some.inj stepped
      exact iff_of_true rfl trivial
  case waiting =>
    split at stepped
    · next failed =>
      obtain rfl := Option.some.inj stepped
      have stays : ¬ (modprobe.remove module).2.Gone := by rwa [modprobe.fails failed]
      exact iff_of_false failed stays
    · next removed =>
      obtain rfl := Option.some.inj stepped
      exact Modprobe.remove_zero (not_not.mp removed)
  case waited =>
    have unused : checkRefcnt module = true := by
      cases module with
      | loaded n => exact told.elim
      | _ => rfl
    rw [if_pos unused] at stepped
    obtain rfl := Option.some.inj stepped
    exact iff_of_true rfl told
  case looking =>
    split at stepped
    · obtain rfl := Option.some.inj stepped
      exact iff_of_false one_ne_zero told
    · split at stepped
      · obtain rfl := Option.some.inj stepped
        exact told
      · obtain rfl := Option.some.inj stepped
        exact told
  case found =>
    rw [if_neg holds.2] at stepped
    obtain rfl := Option.some.inj stepped
    exact told
  case testing =>
    split at stepped
    · obtain rfl := Option.some.inj stepped
      exact told
    · next done =>
      obtain rfl := Option.some.inj stepped
      refine iff_of_false (fun zero => done ⟨holds.2 zero, ?_⟩) told
      rintro rfl
      exact told trivial
  case trying =>
    split at stepped
    · next removed =>
      obtain rfl := Option.some.inj stepped
      exact iff_of_true rfl (Modprobe.remove_zero removed)
    · next failed =>
      obtain rfl := Option.some.inj stepped
      have stays : ¬ (modprobe.remove module).2.Gone := by rwa [modprobe.fails failed]
      exact stays
  case returned => cases stepped

theorem Removal.Exact.act (told : removal.Exact) {party : Party} (noLoad : party ≠ .load)
    (noUnload : party ≠ .unload) {module : Module} (acted : removal.module.act party = some module) :
    { removal with module := module }.Exact := by
  have gone := Module.gone_act noLoad noUnload acted
  obtain ⟨line, maxTries, modRet, slept, before⟩ := removal
  cases line <;> simp only [Removal.Exact] at told ⊢
  case hasRefcnt =>
    rintro rfl
    cases before with
    | out => exact told rfl
    | builtIn => cases party <;> cases acted
    | loaded n => exact gone.mp trivial
  case waited => exact gone.mpr told
  case returned => rw [gone, told]
  all_goals exact fun inside => told (gone.mp inside)

end Steps

/-- **The status of the patient removal, if nobody else removes or loads the module**: it is `0` exactly if the
module is gone, or built in. -/
theorem patient_exact {modprobe : Modprobe} {timeout status : ℕ} {removal : Removal}
    (reached : (removalSystem modprobe timeout).Reaches
      (fun _ party => party ≠ .load ∧ party ≠ .unload) removal)
    (returned : removal.line = .returned status) : status = 0 ↔ removal.module.Gone := by
  have both : removal.Holds timeout ∧ removal.Exact := by
    refine @System.Reaches.invariant _ _ _ _ (fun removal => removal.Holds timeout ∧ removal.Exact) ?_ ?_
      _ reached
    · rintro ⟨line, maxTries, modRet, slept, module⟩ ⟨rfl, rfl, rfl, rfl⟩
      exact ⟨⟨rfl, rfl⟩, trivial⟩
    · rintro removal party next ⟨holds, told⟩ ⟨noLoad, noUnload⟩ stepped
      by_cases script : party = .script
      · subst script
        exact ⟨holds.script stepped, told.script holds stepped⟩
      · obtain ⟨module, acted, rfl⟩ := step_other script stepped
        exact ⟨holds.act noLoad acted, told.act noLoad noUnload acted⟩
  have told := both.2
  unfold Removal.Exact at told
  rw [returned] at told
  exact told

/-- Somebody uses the module for a second. -/
theorem patient_exact_used : 0 = 0 ↔ Module.out.Gone := by
  have start : (removalSystem (kmod false false) 3).Reaches (fun _ party => party ≠ .load ∧ party ≠ .unload)
      ⟨.isLoaded, 0, 0, 0, .loaded 0⟩ := .start ⟨rfl, rfl, rfl, rfl⟩
  have ran : (removalSystem (kmod false false) 3).Runs (fun _ party => party ≠ .load ∧ party ≠ .unload)
      ⟨.isLoaded, 0, 0, 0, .loaded 0⟩
      [.script, .get, .script, .script, .put, .script, .script, .script, .script]
      ⟨.returned 0, 2, 0, 1, .out⟩ := System.runs_of_guarded rfl
  exact patient_exact (start.runs _ ran) rfl

/-! ### The end -/

/-- How many commands the function has left, whatever the others do. -/
def Removal.rank (timeout : ℕ) (removal : Removal) : ℕ :=
  match removal.line with
  | .isLoaded => 2 * timeout + 5
  | .hasRefcnt => 2 * timeout + 4
  | .looking => 2 * removal.maxTries + 3
  | .found => 2 * removal.maxTries + 2
  | .testing => 2 * removal.maxTries + 1
  | .trying => max 2 (2 * removal.maxTries)
  | .waiting => 2
  | .waited => 1
  | .lastTry => 1
  | .returned _ => 0

/-- A command of the function brings the rank down. -/
theorem Removal.rank_script {modprobe : Modprobe} {timeout : ℕ} {removal next : Removal}
    (stepped : removal.script modprobe timeout = some next) : next.rank timeout < removal.rank timeout := by
  obtain ⟨line, maxTries, modRet, slept, module⟩ := removal
  cases line <;> simp only [Removal.script] at stepped
  case hasRefcnt =>
    cases module <;> simp only at stepped
    case loaded n =>
      split at stepped
      all_goals
        obtain rfl := Option.some.inj stepped
        simp only [Removal.rank]
        omega
    all_goals
      obtain rfl := Option.some.inj stepped
      simp only [Removal.rank]
      omega
  case looking =>
    split at stepped
    · obtain rfl := Option.some.inj stepped
      simp only [Removal.rank]
      omega
    · split at stepped
      all_goals
        obtain rfl := Option.some.inj stepped
        simp only [Removal.rank]
        omega
  case lastTry =>
    obtain rfl := Option.some.inj stepped
    exact Nat.one_pos
  case returned => cases stepped
  all_goals
    split at stepped
    all_goals
      obtain rfl := Option.some.inj stepped
      simp only [Removal.rank]
      omega

/-- Another process leaves the rank as it is. -/
theorem Removal.rank_act (timeout : ℕ) (removal : Removal) (module : Module) :
    { removal with module := module }.rank timeout = removal.rank timeout := by
  cases line : removal.line <;> simp only [Removal.rank, line]

/-- **The patient removal comes to its end** in every run in which the function goes on, whatever the others do
to the module meanwhile. -/
theorem patient_ends {modprobe : Modprobe} {timeout : ℕ}
    (execution : Execution (removalSystem modprobe timeout) fun _ _ => True)
    (fair : ∀ n, (∀ status, (execution.state n).line ≠ .returned status) →
      ∃ m, n ≤ m ∧ execution.action m = some .script) :
    ∃ n status, (execution.state n).line = .returned status := by
  have steps : ∀ n party, 0 ≤ n → ¬ (∃ status, (execution.state n).line = .returned status) →
      execution.action n = some party →
        (execution.state (n + 1)).rank timeout ≤ (execution.state n).rank timeout ∧
          (party = .script →
            (execution.state (n + 1)).rank timeout < (execution.state n).rank timeout) := by
    intro n party _ _ acted
    have stepped := (execution.next n party acted).2
    by_cases script : party = .script
    · subst script
      have drop := @Removal.rank_script modprobe timeout _ _ stepped
      exact ⟨drop.le, fun _ => drop⟩
    · obtain ⟨module, -, same⟩ := step_other script stepped
      refine ⟨?_, fun own => absurd own script⟩
      rw [same, Removal.rank_act]
  obtain ⟨n, -, status, returned⟩ := execution.eventually
    (fun removal => ∃ status, removal.line = .returned status) (fun party => party = .script)
    (Removal.rank timeout) 0 steps fun n running => by
      obtain ⟨m, later, acted⟩ := fair n fun status returned => running ⟨status, returned⟩
      exact ⟨m, .script, later, acted, rfl⟩
  exact ⟨n, status, returned⟩

/-- A removal of a module that nobody uses yet. -/
def usedRemoval : Removal := ⟨.isLoaded, 0, 0, 0, .loaded 0⟩

/-- Others use the module, load it again behind the first look, and remove it in the end. -/
def reloadingRun : List Party :=
  [.script, .get, .script, .script, .put, .script, .script, .script, .unload, .load, .get, .script, .put,
    .unload, .script]

theorem usedRemoval_runs : (removalSystem (kmod false false) 3).Runs (fun _ _ => True) usedRemoval reloadingRun
    ⟨.returned 1, 1, 1, 2, .out⟩ :=
  System.runs_of_foldlM rfl

theorem usedRemoval_initial : (removalSystem (kmod false false) 3).initial usedRemoval := ⟨rfl, rfl, rfl, rfl⟩

theorem patient_ends_reloaded : ∃ n status,
    ((Execution.ofRuns usedRemoval_initial usedRemoval_runs).state n).line = .returned status := by
  refine patient_ends _ fun n running => ?_
  by_cases early : n ≤ 14
  · exact ⟨14, early, rfl⟩
  · have later : reloadingRun.length ≤ n := by
      show 15 ≤ n
      omega
    have ended := Execution.ofRuns_state usedRemoval_initial usedRemoval_runs later
    exact absurd (congrArg Removal.line ended) (running 1)

end Ndt.Check
