/-
**What `_cleanup` puts back: the queue attributes and the processors of a test.**

* `testDevQueueGet`, `testDevQueueSet` — an attribute is read and written; its first value is saved. The file
  of the scheduler lists all of them, the one in use in brackets.
* `queue_restored` — `_cleanup` leaves the queue as the test found it, whatever was set, with or without
  success, in whatever order the saved values are written.
* `cpus_restored_iff` — the processors are written in their order, and the last one online cannot be taken
  offline: all are as before exactly when one is online that does not come before the first of the start, or
  some processor cannot be unplugged.

What the kernel makes of a word that is echoed to an attribute is up to it, but a word that it shows it takes
back, and no attribute changes another.
-/

import Ndt.Shell.Text
import Ndt.Transition.Saved

namespace Ndt.Check

open Shell Transition

/-! ### Queue attributes -/

/-- **What a queue does with a word that is echoed**: it is refused, or the attribute holds some value. -/
structure Kernel where
  /-- The schedulers of the device. -/
  schedulers : List Text
  store : Text → Text → Option Text
  stable : ∀ name value held, store name value = some held → store name held = some held
  line : ∀ name value held, store name value = some held → '\n' ∉ held ∧ '\x00' ∉ held
  offered : ∀ value held, store "scheduler".toList value = some held → held ∈ schedulers
  bare : ∀ scheduler ∈ schedulers, '[' ∉ scheduler ∧ ']' ∉ scheduler ∧ '\n' ∉ scheduler

/-- **A queue**: the values of its attributes, each of which the kernel would take. -/
@[ext]
structure Queue (kernel : Kernel) where
  attr : Text → Text
  held : ∀ name, kernel.store name (attr name) = some (attr name)

variable {kernel : Kernel}

namespace Queue

/-- A scheduler as it is listed. -/
def listed (chosen scheduler : Text) : Text :=
  if scheduler = chosen then '[' :: scheduler ++ [']'] else scheduler

/-- The list of the schedulers. -/
def menu (schedulers : List Text) (chosen : Text) : Text := [' '].intercalate (schedulers.map (listed chosen))

/-- `${TEST_DEV_SYSFS}/queue/$1` -/
def file (queue : Queue kernel) (name : Text) : Text :=
  unlines [if name = "scheduler".toList then menu kernel.schedulers (queue.attr name) else queue.attr name]

theorem held_update (queue : Queue kernel) {name value held : Text}
    (taken : kernel.store name value = some held) (other : Text) :
    kernel.store other (Function.update queue.attr name held other) =
      some (Function.update queue.attr name held other) := by
  by_cases same : other = name
  · rw [same, Function.update_self]
    exact kernel.stable name value held taken
  · rw [Function.update_of_ne same]
    exact queue.held other

/-- `echo "$2" >"$path"`: the queue, and whether the value was taken. -/
def echo (queue : Queue kernel) (name value : Text) : Queue kernel × Bool :=
  match taken : kernel.store name value with
  | none => (queue, false)
  | some held => (⟨Function.update queue.attr name held, queue.held_update taken⟩, true)

theorem attr_echo (queue : Queue kernel) (name value other : Text) :
    (queue.echo name value).1.attr other =
      if other = name then (kernel.store name value).getD (queue.attr name) else queue.attr other := by
  unfold echo
  split
  · rename_i refused
    rw [refused]
    by_cases same : other = name
    · rw [if_pos same, same]
      rfl
    · rw [if_neg same]
  · rename_i held taken
    show Function.update queue.attr name held other = _
    rw [taken]
    by_cases same : other = name
    · rw [if_pos same, same]
      exact Function.update_self ..
    · rw [if_neg same]
      exact Function.update_of_ne same ..

end Queue

/-- `sed -e 's/.*\[//' -e 's/\].*//'`: what stands behind the last opening bracket, up to a closing one. -/
def bracketed (line : Text) : Text := (line.rtakeWhile (· ≠ '[')).takeWhile (· ≠ ']')

/-- `_test_dev_queue_get` -/
def testDevQueueGet (name : Text) (queue : Queue kernel) : Text :=
  if name = "scheduler".toList then unlines ((lines (queue.file name)).map bracketed) else queue.file name

/-- The queue as places: `$(_test_dev_queue_get "$1")` and `echo "$2" >"$path"`. -/
def queuePlaces (kernel : Kernel) : Locations Text Text (Queue kernel) where
  get name queue := commandOutput (testDevQueueGet name queue)
  write name value queue := (queue.echo name value).1

/-- `_test_dev_queue_set`; `SYSFS_QUEUE_SAVED` has a value for the path exactly when it was set before, for a
value that is empty, or `unset`, is one. -/
def testDevQueueSet (name value : Text) (saving : Saving Text Text (Queue kernel)) :
    ℕ × Saving Text Text (Queue kernel) :=
  (if (saving.state.echo name value).2 then 0 else 1, saving.set (queuePlaces kernel) name value)

/-- The loop of `_cleanup` over `SYSFS_QUEUE_SAVED`; `order` is that of `"${!SYSFS_QUEUE_SAVED[@]}"`. -/
def cleanupQueue (order : List ((_ : Text) × Text)) (saving : Saving Text Text (Queue kernel)) :
    Saving Text Text (Queue kernel) :=
  ⟨∅, (queuePlaces kernel).restore order saving.state⟩

/-! ### The scheduler in use -/

theorem rtakeWhile_behind (front : Text) {rest : Text} (absent : '[' ∉ rest) :
    (front ++ '[' :: rest).rtakeWhile (· ≠ '[') = rest := by
  have each : ∀ c ∈ rest.reverse, decide (c ≠ '[') = true := by
    intro c member
    refine decide_eq_true ?_
    rintro rfl
    exact absent (List.mem_reverse.mp member)
  rw [List.rtakeWhile, List.reverse_append, List.reverse_cons, List.append_assoc,
    List.takeWhile_append_of_pos each]
  simp

theorem menu_cons {schedulers : List Text} (chosen scheduler : Text) (some : schedulers ≠ []) :
    Queue.menu (scheduler :: schedulers) chosen =
      Queue.listed chosen scheduler ++ ' ' :: Queue.menu schedulers chosen := by
  rw [Queue.menu, List.map_cons, List.intercalate_cons_of_ne_nil (by simpa using some), List.append_assoc]
  rfl

/-- What is in no entry of the list and is no blank is not in the list. -/
theorem not_mem_menu {schedulers : List Text} {chosen : Text} {c : Char} (visible : c ≠ ' ')
    (absent : ∀ scheduler ∈ schedulers, c ∉ Queue.listed chosen scheduler) :
    c ∉ Queue.menu schedulers chosen := by
  induction schedulers with
  | nil => exact List.not_mem_nil
  | cons scheduler schedulers ih =>
    have here := absent scheduler List.mem_cons_self
    cases schedulers with
    | nil => simpa [Queue.menu] using here
    | cons next later =>
      have tail := ih fun one member => absent one (List.mem_cons_of_mem _ member)
      rw [menu_cons chosen scheduler (List.cons_ne_nil _ _)]
      simp [here, visible, tail]

/-- A list without the scheduler in use has no bracket. -/
theorem bracket_not_mem_menu {schedulers : List Text} (bare : ∀ scheduler ∈ schedulers, '[' ∉ scheduler)
    {chosen : Text} (absent : chosen ∉ schedulers) : '[' ∉ Queue.menu schedulers chosen := by
  refine not_mem_menu (by decide) fun scheduler member => ?_
  have other : scheduler ≠ chosen := fun same => absent (same ▸ member)
  rw [Queue.listed, if_neg other]
  exact bare scheduler member

theorem newline_not_mem_menu {schedulers : List Text} (single : ∀ scheduler ∈ schedulers, '\n' ∉ scheduler)
    (chosen : Text) : '\n' ∉ Queue.menu schedulers chosen := by
  refine not_mem_menu (by decide) fun scheduler member => ?_
  have absent := single scheduler member
  unfold Queue.listed
  split
  · simpa using absent
  · exact absent

/-- **The scheduler in use is what stands in the last brackets.** -/
theorem menu_split {schedulers : List Text} (bare : ∀ scheduler ∈ schedulers, '[' ∉ scheduler) {chosen : Text}
    (member : chosen ∈ schedulers) :
    ∃ front rest, Queue.menu schedulers chosen = front ++ '[' :: (chosen ++ ']' :: rest) ∧ '[' ∉ rest := by
  induction schedulers with
  | nil => cases member
  | cons scheduler schedulers ih =>
    have later := fun one inside => bare one (List.mem_cons_of_mem scheduler inside)
    by_cases again : chosen ∈ schedulers
    · obtain ⟨front, rest, split, absent⟩ := ih later again
      refine ⟨Queue.listed chosen scheduler ++ ' ' :: front, rest, ?_, absent⟩
      rw [menu_cons chosen scheduler (List.ne_nil_of_mem again), split, List.append_assoc, List.cons_append]
    · obtain rfl : chosen = scheduler := (List.mem_cons.mp member).resolve_right again
      have shown : Queue.listed chosen chosen = '[' :: (chosen ++ [']']) := if_pos rfl
      cases schedulers with
      | nil => exact ⟨[], [], by simpa [Queue.menu] using shown, List.not_mem_nil⟩
      | cons next others =>
        refine ⟨[], ' ' :: Queue.menu (next :: others) chosen, ?_, ?_⟩
        · rw [menu_cons chosen chosen (List.cons_ne_nil _ _), shown]
          simp
        · have plain := bracket_not_mem_menu later again
          rw [List.mem_cons, not_or]
          exact ⟨by decide, plain⟩

theorem bracketed_menu {schedulers : List Text}
    (bare : ∀ scheduler ∈ schedulers, '[' ∉ scheduler ∧ ']' ∉ scheduler ∧ '\n' ∉ scheduler) {chosen : Text}
    (member : chosen ∈ schedulers) : bracketed (Queue.menu schedulers chosen) = chosen := by
  obtain ⟨front, rest, split, absent⟩ := menu_split (fun scheduler inside => (bare scheduler inside).1) member
  obtain ⟨opening, closing, _⟩ := bare chosen member
  have inner : '[' ∉ chosen ++ ']' :: rest := by simp [opening, absent]
  have each : ∀ c ∈ chosen, decide (c ≠ ']') = true := by
    intro c inside
    refine decide_eq_true ?_
    rintro rfl
    exact closing inside
  rw [bracketed, split, rtakeWhile_behind front inner, List.takeWhile_append_of_pos each]
  simp

/-- **`_test_dev_queue_get` reads the value of an attribute**, also that of the scheduler. -/
theorem get_eq_attr (queue : Queue kernel) (name : Text) :
    (queuePlaces kernel).get name queue = queue.attr name := by
  obtain ⟨single, clean⟩ := kernel.line name _ _ (queue.held name)
  have plain : commandOutput (unlines [queue.attr name]) = queue.attr name := by
    rw [unlines_cons, unlines_nil]
    exact commandOutput_line single clean
  show commandOutput (testDevQueueGet name queue) = _
  unfold testDevQueueGet Queue.file
  by_cases scheduler : name = "scheduler".toList
  · have member : queue.attr name ∈ kernel.schedulers :=
      kernel.offered (queue.attr name) _ (scheduler ▸ queue.held name)
    have row := newline_not_mem_menu (fun one inside => (kernel.bare one inside).2.2) (queue.attr name)
    have file : lines (unlines [Queue.menu kernel.schedulers (queue.attr name)]) =
        [Queue.menu kernel.schedulers (queue.attr name)] := by
      rw [unlines_cons, unlines_nil, lines_line _ row, lines_nil]
    rw [if_pos scheduler, if_pos scheduler, file, List.map_singleton, bracketed_menu kernel.bare member, plain]
  · rw [if_neg scheduler, if_neg scheduler, plain]

theorem apart_queuePlaces : (queuePlaces kernel).Apart := by
  intro name value queue other different
  rw [get_eq_attr, get_eq_attr]
  exact (queue.attr_echo name value other).trans (if_neg different)

/-- **`_cleanup` restores the queue**: after any writes of a test, taken or refused, every attribute is what it
was when the test began. -/
theorem queue_restored (start : Queue kernel) (sets : List (Text × Text)) {order : List ((_ : Text) × Text)}
    (perm : order.Perm (sets.foldl (fun saving set => (testDevQueueSet set.1 set.2 saving).2)
      (⟨∅, start⟩ : Saving Text Text (Queue kernel))).saved.entries) :
    (cleanupQueue order (sets.foldl (fun saving set => (testDevQueueSet set.1 set.2 saving).2)
      ⟨∅, start⟩)).state = start := by
  have takes : ∀ name, (queuePlaces kernel).Takes name ((queuePlaces kernel).get name start) := by
    intro name queue
    rw [get_eq_attr, get_eq_attr]
    refine (queue.attr_echo name (start.attr name) name).trans ?_
    rw [if_pos rfl, start.held name]
    rfl
  have since := (Saving.Since.start (queuePlaces kernel) start).run apart_queuePlaces sets
  ext name
  have same := restore_undoes apart_queuePlaces takes since perm name
  rw [get_eq_attr, get_eq_attr] at same
  rw [← same]
  rfl

/-- The schedulers of a small queue. -/
def sampleSchedulers : List Text := ["none".toList, "kyber".toList]

/-- A queue that takes its schedulers, and any line for another attribute. -/
def sampleStore (name value : Text) : Option Text :=
  if name = "scheduler".toList ∧ value ∉ sampleSchedulers then none
  else if '\n' ∈ value ∨ '\x00' ∈ value then none
  else some value

theorem sampleStore_iff {name value held : Text} :
    sampleStore name value = some held ↔
      held = value ∧ (name = "scheduler".toList → value ∈ sampleSchedulers) ∧ '\n' ∉ value ∧ '\x00' ∉ value := by
  unfold sampleStore
  split
  · rename_i refused
    simp [refused.1, refused.2]
  split
  · rename_i broken
    refine iff_of_false (fun some => by cases some) ?_
    rintro ⟨_, _, single, clean⟩
    exact broken.elim single clean
  · rename_i offered whole
    simp only [not_and_or, not_not, not_or] at offered whole
    simp only [Option.some.injEq, whole.1, whole.2, not_false_eq_true, and_true]
    refine eq_comm.trans (iff_self_and.mpr fun _ scheduler => ?_)
    exact offered.resolve_left fun other => other scheduler

theorem bare_sampleSchedulers : ∀ scheduler ∈ sampleSchedulers,
    '[' ∉ scheduler ∧ ']' ∉ scheduler ∧ '\n' ∉ scheduler := by
  decide

def sampleKernel : Kernel where
  schedulers := sampleSchedulers
  store := sampleStore
  stable _ _ _ taken := by
    obtain ⟨rfl, rest⟩ := sampleStore_iff.mp taken
    exact sampleStore_iff.mpr ⟨rfl, rest⟩
  line _ _ _ taken := by
    obtain ⟨rfl, _, line⟩ := sampleStore_iff.mp taken
    exact line
  offered _ _ taken := by
    obtain ⟨rfl, offered, _⟩ := sampleStore_iff.mp taken
    exact offered rfl
  bare := bare_sampleSchedulers

theorem held_sampleQueue (name : Text) : sampleStore name "none".toList = some "none".toList :=
  sampleStore_iff.mpr ⟨rfl, fun _ => by decide, by decide, by decide⟩

def sampleQueue : Queue sampleKernel := ⟨fun _ => "none".toList, held_sampleQueue⟩

/-- A test that sets a scheduler, an attribute and a scheduler that there is not. -/
def sampleSets : List (Text × Text) :=
  [("scheduler".toList, "kyber".toList), ("nr_requests".toList, "64".toList),
    ("scheduler".toList, "bfq".toList)]

theorem queue_restored_sample :
    (cleanupQueue (sampleSets.foldl (fun saving set => (testDevQueueSet set.1 set.2 saving).2)
        (⟨∅, sampleQueue⟩ : Saving Text Text (Queue sampleKernel))).saved.entries
      (sampleSets.foldl (fun saving set => (testDevQueueSet set.1 set.2 saving).2) ⟨∅, sampleQueue⟩)).state =
      sampleQueue :=
  queue_restored sampleQueue sampleSets (List.Perm.refl _)

/-! ### Processors -/

/-- `echo $online > /sys/devices/system/cpu/cpu$i/online`, among the processors that can be unplugged. `fixed`: one
that cannot is online. The last one online is not taken offline. -/
def echoOnline (fixed : Bool) (cpu : ℕ) (online : Bool) (cpus : List Bool) : List Bool :=
  if online || fixed || (cpus.set cpu false).any id then cpus.set cpu online else cpus

/-- The loop of `_cleanup` over `CPUS_ONLINE_SAVED`, from the processor `cpu` on. -/
def cleanupCpusFrom (fixed : Bool) (cpu : ℕ) (saved cpus : List Bool) : List Bool :=
  match saved with
  | [] => cpus
  | online :: saved => cleanupCpusFrom fixed (cpu + 1) saved (echoOnline fixed cpu online cpus)

/-- `_cleanup`, when a test has set `RESTORE_CPUS_ONLINE`. -/
def cleanupCpus (fixed : Bool) (saved cpus : List Bool) : List Bool := cleanupCpusFrom fixed 0 saved cpus

/-- A processor is online that does not come before the first one that is to be online. -/
def Reaches (saved cpus : List Bool) : Prop :=
  ∃ first cpu : ℕ, first ≤ cpu ∧ saved[first]? = some true ∧ cpus[cpu]? = some true

theorem reaches_cons_true {saved : List Bool} {cpus : List Bool} (running : true ∈ cpus) :
    Reaches (true :: saved) cpus := by
  obtain ⟨cpu, inside, online⟩ := List.mem_iff_getElem.mp running
  exact ⟨0, cpu, Nat.zero_le _, rfl, by rw [List.getElem?_eq_getElem inside, online]⟩

theorem reaches_cons_false {saved cpus : List Bool} (here : Bool) :
    Reaches (false :: saved) (here :: cpus) ↔ Reaches saved cpus := by
  constructor
  · rintro ⟨_ | first, cpu, below, start, online⟩
    · cases start
    · obtain ⟨before, rfl⟩ : ∃ before, cpu = before + 1 := ⟨cpu - 1, by omega⟩
      exact ⟨first, before, by omega, start, online⟩
  · rintro ⟨first, cpu, below, start, online⟩
    exact ⟨first + 1, cpu + 1, by omega, start, online⟩

theorem Reaches.running {saved cpus : List Bool} (reaches : Reaches saved cpus) : true ∈ cpus := by
  obtain ⟨_, cpu, _, _, online⟩ := reaches
  exact List.mem_of_getElem? online

/-- A write to the processor behind `done`. -/
theorem echoOnline_append (fixed online here : Bool) (done cpus : List Bool) :
    echoOnline fixed done.length online (done ++ here :: cpus) =
      if online = true ∨ fixed = true ∨ true ∈ done ∨ true ∈ cpus then done ++ online :: cpus
      else done ++ here :: cpus := by
  have set : ∀ value, (done ++ here :: cpus).set done.length value = done ++ value :: cpus := by
    intro value
    rw [List.set_append_right _ _ le_rfl, Nat.sub_self]
    rfl
  rw [echoOnline, set, set]
  simp [or_assoc]

theorem length_echoOnline (fixed : Bool) (cpu : ℕ) (online : Bool) (cpus : List Bool) :
    (echoOnline fixed cpu online cpus).length = cpus.length := by
  unfold echoOnline
  split <;> simp

theorem getElem?_echoOnline {fixed online : Bool} {cpu other : ℕ} (different : other ≠ cpu) (cpus : List Bool) :
    (echoOnline fixed cpu online cpus)[other]? = cpus[other]? := by
  unfold echoOnline
  split
  · rw [List.getElem?_set_ne different.symm]
  · rfl

/-- Processors that come before are not written. -/
theorem getElem?_cleanupCpusFrom {fixed : Bool} {cpu other : ℕ} (before : other < cpu) (saved cpus : List Bool) :
    (cleanupCpusFrom fixed cpu saved cpus)[other]? = cpus[other]? := by
  induction saved generalizing cpu cpus with
  | nil => rfl
  | cons online saved ih =>
    rw [cleanupCpusFrom, ih (Nat.lt_succ_of_lt before), getElem?_echoOnline (Nat.ne_of_lt before)]

/-- The rest of the loop: what stands in `done` has been written. -/
theorem cleanupCpusFrom_iff (fixed : Bool) (done : List Bool) {saved cpus : List Bool}
    (same : saved.length = cpus.length) (running : fixed = true ∨ true ∈ done ∨ true ∈ cpus) :
    cleanupCpusFrom fixed done.length saved (done ++ cpus) = done ++ saved ↔
      fixed = true ∨ true ∈ done ∨ Reaches saved cpus := by
  induction saved generalizing done cpus with
  | nil =>
    obtain rfl := List.length_eq_zero_iff.mp same.symm
    refine iff_of_true rfl ?_
    rcases running with always | before | none
    · exact .inl always
    · exact .inr (.inl before)
    · cases none
  | cons online saved ih =>
    obtain ⟨here, cpus, rfl⟩ := List.exists_cons_of_length_eq_add_one same.symm
    have shorter : saved.length = cpus.length := by simpa using same
    -- the rest of the loop, when this processor has been written
    have written : (fixed = true ∨ true ∈ done ++ [online] ∨ true ∈ cpus) →
        (cleanupCpusFrom fixed (done.length + 1) saved (done ++ online :: cpus) = done ++ online :: saved ↔
          fixed = true ∨ true ∈ done ++ [online] ∨ Reaches saved cpus) := by
      intro still
      have rest := ih (done ++ [online]) shorter still
      rwa [List.length_append, List.length_singleton, List.append_assoc, List.append_assoc] at rest
    rw [cleanupCpusFrom, echoOnline_append]
    cases online with
    | true =>
      rw [if_pos (.inl rfl), written (.inr (.inl (by simp)))]
      refine iff_of_true (.inr (.inl (by simp))) ?_
      rcases running with always | before | now
      · exact .inl always
      · exact .inr (.inl before)
      · exact .inr (.inr (reaches_cons_true now))
    | false =>
      by_cases taken : fixed = true ∨ true ∈ done ∨ true ∈ cpus
      · have still : fixed = true ∨ true ∈ done ++ [false] ∨ true ∈ cpus := by simpa using taken
        rw [if_pos (.inr taken), written still, reaches_cons_false]
        simp
      · -- the last processor online stays online
        have left : here = true := by
          rcases running with always | before | now
          · exact absurd (.inl always) taken
          · exact absurd (.inr (.inl before)) taken
          · rcases List.mem_cons.mp now with rfl | behind
            · rfl
            · exact absurd (.inr (.inr behind)) taken
        rw [if_neg (by simpa using taken), reaches_cons_false, left]
        refine iff_of_false (fun restored => ?_) ?_
        · have last := congrArg (fun cpus : List Bool => cpus[done.length]?) restored
          simp [getElem?_cleanupCpusFrom (Nat.lt_succ_self done.length)] at last
        · rintro (always | before | reaches)
          · exact taken (.inl always)
          · exact taken (.inr (.inl before))
          · exact taken (.inr (.inr reaches.running))

/-- `_online_cpu` and `_offline_cpu`, one after the other. -/
def hotplug (fixed : Bool) (writes : List (ℕ × Bool)) (cpus : List Bool) : List Bool :=
  writes.foldl (fun cpus write => echoOnline fixed write.1 write.2 cpus) cpus

/-- Some processor is always online. -/
theorem running_echoOnline {fixed : Bool} {cpus : List Bool} (cpu : ℕ) (online : Bool)
    (running : fixed = true ∨ true ∈ cpus) : fixed = true ∨ true ∈ echoOnline fixed cpu online cpus := by
  by_cases always : fixed = true
  · exact .inl always
  refine .inr ?_
  have now := running.resolve_left always
  unfold echoOnline
  split
  · rename_i taken
    cases online with
    | true =>
      by_cases inside : cpu < cpus.length
      · exact List.mem_set inside true
      · rwa [List.set_eq_of_length_le (Nat.le_of_not_lt inside)]
    | false => simpa [always] using taken
  · exact now

theorem hotplug_spec {fixed : Bool} (writes : List (ℕ × Bool)) {cpus : List Bool}
    (running : fixed = true ∨ true ∈ cpus) :
    (hotplug fixed writes cpus).length = cpus.length ∧
      (fixed = true ∨ true ∈ hotplug fixed writes cpus) := by
  induction writes generalizing cpus with
  | nil => exact ⟨rfl, running⟩
  | cons write writes ih =>
    obtain ⟨length, still⟩ := ih (running_echoOnline write.1 write.2 running)
    exact ⟨length.trans (length_echoOnline ..), still⟩

/-- **When `_cleanup` restores the processors.** After any requests of a test, taken or refused, the processors
are as the test found them exactly when one that cannot be unplugged is online, or one is online that does not
come before the first one that was. -/
theorem cpus_restored_iff {fixed : Bool} {start : List Bool} (running : fixed = true ∨ true ∈ start)
    (writes : List (ℕ × Bool)) :
    cleanupCpus fixed start (hotplug fixed writes start) = start ↔
      fixed = true ∨ Reaches start (hotplug fixed writes start) := by
  obtain ⟨length, still⟩ := hotplug_spec writes running
  have whole := cleanupCpusFrom_iff fixed [] length.symm (by simpa using still)
  simpa [cleanupCpus] using whole

/-- The first processor is offline at first; a test takes it online and the second one offline. -/
theorem cpus_restored_iff_swapped :
    cleanupCpus false [false, true] (hotplug false [(0, true), (1, false)] [false, true]) = [false, true] ↔
      false = true ∨ Reaches [false, true] (hotplug false [(0, true), (1, false)] [false, true]) :=
  cpus_restored_iff (by decide) _

end Ndt.Check
