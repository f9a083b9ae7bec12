/-
**One socket path for all invocations.**

Each batch run has a run directory of its own (`date` and `$$` in its name), so each has its own
`console.log`. The serial socket of all of them is `/tmp/qemu-serial.sock`: a run removes it, its QEMU binds
it, the script tests it twice and starts `socat`, which connects to whatever the path names by then. QEMU
serves one client at a time, and without one (`nowait`) drops what the guest writes.

* `Shared`, `Move`, `Shared.step` — any number of invocations, their QEMUs and their `socat`s.
* `isolated` — **all runs** in which `socat` finds its own QEMU, or nobody, at the path: each console and each
  report is made of bytes of the invocation's own guest.
* `leaks` — where `socat` finds another QEMU, there is a way to go on that breaks this.
* `foreign_pass` — a run that reports the pass of another invocation's guest.
-/

import Ndt.Race.Whole

namespace Ndt.Race

open Shell Host Transition Run

/-- What is at `/tmp/qemu-serial.sock`. -/
inductive Entry (Invocation : Type)
  | absent
  /-- A socket left over from an earlier run, on which nobody listens. -/
  | stale
  | socket (owner : Invocation)

/-- `[[ -S /tmp/qemu-serial.sock ]]` -/
def Entry.isSocket {Invocation : Type} : Entry Invocation → Bool
  | .absent => false
  | .stale | .socket _ => true

inductive Qemu
  | unborn | starting | listening | gone
  deriving DecidableEq, Repr

inductive Socat (Invocation : Type)
  | unborn | starting | connected (server : Invocation) | ended

/-- The next command of the script: `rm -f`, `boot_qemu &`, an iteration of the socket wait, the test after
it, `socat &`, the wait loop; or the script is past it. -/
inductive Script
  | remove | launch | await (tries : ℕ) | recheck | spawn | loop | done
  deriving DecidableEq, Repr

/-- A byte of a serial console, with the invocation whose guest wrote it. -/
structure Byte (Invocation : Type) where
  writer : Invocation
  char : Char

/-- One invocation, with its QEMU and its `socat`. -/
structure Party (Invocation : Type) where
  script : Script
  qemu : Qemu
  /-- The client that QEMU serves. -/
  client : Option Invocation
  socat : Socat Invocation
  /-- Sent to `socat`, not copied yet. -/
  wire : List (Byte Invocation)
  /-- `$console` -/
  console : List (Byte Invocation)
  /-- The console at the look from which the verdict is computed. -/
  report : Option (List (Byte Invocation))

def Party.initial {Invocation : Type} : Party Invocation :=
  ⟨.remove, .unborn, none, .unborn, [], [], none⟩

/-- All invocations on a host. -/
structure Shared (Invocation : Type) where
  path : Entry Invocation
  party : Invocation → Party Invocation

/-- Who does what. -/
inductive Move (Invocation : Type)
  /-- The script goes through its next command. -/
  | script (i : Invocation)
  /-- QEMU binds the path and listens. -/
  | bind (q : Invocation)
  /-- QEMU ends; a clean end unlinks the path, whatever it names. -/
  | quit (q : Invocation) (unlinks : Bool)
  | connect (i : Invocation)
  /-- QEMU takes a connected `socat` for its client. -/
  | accept (q i : Invocation)
  /-- QEMU sees that its client is gone. -/
  | hangup (q : Invocation)
  /-- The guest writes. -/
  | emit (q : Invocation) (text : Text)
  | copy (i : Invocation) (n : ℕ)
  /-- `cleanup`, in the trap or at the end; `kill -9` hits QEMU or only the shell around it. -/
  | kill (i : Invocation) (hits : Bool)

namespace Shared

variable {Invocation : Type} [DecidableEq Invocation]

/-- Another state of one invocation. -/
def set (shared : Shared Invocation) (i : Invocation) (party : Party Invocation) : Shared Invocation :=
  { shared with party := Function.update shared.party i party }

@[simp] theorem party_set (shared : Shared Invocation) (i : Invocation) (party : Party Invocation) :
    (shared.set i party).party i = party := by
  show Function.update shared.party i party i = party
  rw [Function.update_self]

@[simp] theorem party_set_of_ne (shared : Shared Invocation) {i j : Invocation} (other : j ≠ i)
    (party : Party Invocation) : (shared.set i party).party j = shared.party j := by
  show Function.update shared.party i party j = shared.party j
  rw [Function.update_of_ne other]

/-- The next command of a script. -/
def command (shared : Shared Invocation) (i : Invocation) : Option (Shared Invocation) :=
  let party := shared.party i
  match party.script with
  | .remove => some { shared.set i { party with script := .launch } with path := .absent }
  | .launch => some (shared.set i { party with script := .await 100, qemu := .starting })
  | .await 0 => some (shared.set i { party with script := .recheck })
  | .await (tries + 1) =>
    if shared.path.isSocket then some (shared.set i { party with script := .recheck })
    else some (shared.set i { party with script := .await tries })
  | .recheck =>
    if shared.path.isSocket then some (shared.set i { party with script := .spawn })
    else some (shared.set i { party with script := .done })
  | .spawn => some (shared.set i { party with script := .loop, socat := .starting })
  | .loop => some (shared.set i { party with script := .done, report := some party.console })
  | .done => none

/-- One move of one party. -/
def step (shared : Shared Invocation) : Move Invocation → Option (Shared Invocation)
  | .script i => shared.command i
  | .bind q =>
    match (shared.party q).qemu with
    | .starting => some { shared.set q { shared.party q with qemu := .listening } with path := .socket q }
    | _ => none
  | .quit q unlinks =>
    match (shared.party q).qemu with
    | .starting => some (shared.set q { shared.party q with qemu := .gone })
    | .listening =>
      some { shared.set q { shared.party q with qemu := .gone } with
        path := if unlinks then .absent else shared.path }
    | _ => none
  | .connect i =>
    match (shared.party i).socat with
    | .starting =>
      match shared.path with
      | .socket q =>
        if (shared.party q).qemu = .listening then
          some (shared.set i { shared.party i with socat := .connected q })
        else some (shared.set i { shared.party i with socat := .ended })
      | .absent | .stale => some (shared.set i { shared.party i with socat := .ended })
    | _ => none
  | .accept q i =>
    match (shared.party q).qemu, (shared.party q).client, (shared.party i).socat with
    | .listening, none, .connected server =>
      if server = q then some (shared.set q { shared.party q with client := some i }) else none
    | _, _, _ => none
  | .hangup q =>
    match (shared.party q).client with
    | some i =>
      match (shared.party i).socat with
      | .ended => some (shared.set q { shared.party q with client := none })
      | _ => none
    | none => none
  | .emit q text =>
    match (shared.party q).qemu with
    | .listening =>
      match (shared.party q).client with
      | some i =>
        some (shared.set i
          { shared.party i with wire := (shared.party i).wire ++ text.map fun c => ⟨q, c⟩ })
      | none => some shared
    | _ => none
  | .copy i n =>
    match (shared.party i).socat with
    | .connected _ =>
      some (shared.set i
        { shared.party i with
          console := (shared.party i).console ++ (shared.party i).wire.take n
          wire := (shared.party i).wire.drop n })
    | _ => none
  | .kill i hits =>
    some (shared.set i
      { shared.party i with
        qemu := if hits ∧ (shared.party i).qemu ≠ .unborn then .gone else (shared.party i).qemu
        socat := match (shared.party i).socat with
          | .unborn => .unborn
          | _ => .ended })

end Shared

/-- **All invocations**: none has started, and the path may hold a socket of an earlier run. -/
def sharedSystem (Invocation : Type) [DecidableEq Invocation] :
    System (Shared Invocation) (Move Invocation) where
  initial shared := (shared.path = .absent ∨ shared.path = .stale) ∧ ∀ i, shared.party i = .initial
  step := Shared.step

/-! ### Consoles of one's own -/

section Isolation

variable {Invocation : Type} [DecidableEq Invocation] {shared next : Shared Invocation}

/-- **The condition on a connection**: who listens at the path is the invocation's own QEMU. -/
def FindsOwn (shared : Shared Invocation) (move : Move Invocation) : Prop :=
  ∀ i q, move = .connect i → shared.path = .socket q → (shared.party q).qemu = .listening → q = i

/-- All that has come to an invocation, and whom its QEMU serves, is its own. -/
structure Own (i : Invocation) (party : Party Invocation) : Prop where
  server : ∀ q, party.socat = .connected q → q = i
  client : ∀ j, party.client = some j → j = i
  wire : ∀ byte ∈ party.wire, byte.writer = i
  console : ∀ byte ∈ party.console, byte.writer = i
  report : ∀ report, party.report = some report → ∀ byte ∈ report, byte.writer = i

omit [DecidableEq Invocation] in
theorem Own.initial (i : Invocation) : Own i .initial := ⟨nofun, nofun, nofun, nofun, nofun⟩

/-- A move of one invocation leaves the others alone. -/
theorem own_set {i : Invocation} {party : Party Invocation} (own : ∀ j, Own j (shared.party j))
    (mine : Own i party) : ∀ j, Own j ((shared.set i party).party j) := by
  intro j
  by_cases same : j = i
  · subst same
    rw [Shared.party_set]
    exact mine
  · rw [Shared.party_set_of_ne _ same]
    exact own j

/-- **A command of the script** keeps what is one's own. -/
theorem own_of_command {i : Invocation} (own : ∀ j, Own j (shared.party j))
    (step : shared.command i = some next) : ∀ j, Own j (next.party j) := by
  have mine := own i
  cases script : (shared.party i).script with
  | remove | launch =>
    simp only [Shared.command, script, Option.some.injEq] at step
    subst step
    exact own_set own { mine with }
  | await tries =>
    cases tries with
    | zero =>
      simp only [Shared.command, script, Option.some.injEq] at step
      subst step
      exact own_set own { mine with }
    | succ tries =>
      simp only [Shared.command, script] at step
      split at step <;> obtain rfl := Option.some.inj step <;> exact own_set own { mine with }
  | recheck =>
    simp only [Shared.command, script] at step
    split at step <;> obtain rfl := Option.some.inj step <;> exact own_set own { mine with }
  | spawn =>
    simp only [Shared.command, script, Option.some.injEq] at step
    subst step
    exact own_set own { mine with server := nofun }
  | loop =>
    simp only [Shared.command, script, Option.some.injEq] at step
    subst step
    refine own_set own { mine with report := ?_ }
    rintro _ ⟨⟩
    exact mine.console
  | done =>
    simp only [Shared.command, script] at step
    cases step

/-- A connection that is made is one to the own QEMU. -/
theorem own_of_connect {i : Invocation} (own : ∀ j, Own j (shared.party j))
    (finds : FindsOwn shared (.connect i)) (step : shared.step (.connect i) = some next) :
    ∀ j, Own j (next.party j) := by
  have fails : ∀ j, Own j ((shared.set i { shared.party i with socat := .ended }).party j) :=
    own_set own { own i with server := nofun }
  rw [Shared.step] at step
  split at step
  · split at step
    · rename_i q path
      split at step
      · rename_i listens
        obtain rfl := Option.some.inj step
        refine own_set own { own i with server := ?_ }
        rintro _ ⟨⟩
        exact finds i q rfl path listens
      · obtain rfl := Option.some.inj step
        exact fails
    all_goals
      obtain rfl := Option.some.inj step
      exact fails
  · cases step

/-- A QEMU serves its own `socat`, as this one is connected to it. -/
theorem own_of_accept {q i : Invocation} (own : ∀ j, Own j (shared.party j))
    (step : shared.step (.accept q i) = some next) : ∀ j, Own j (next.party j) := by
  rw [Shared.step] at step
  split at step
  · rename_i connected
    split at step
    · rename_i same
      obtain rfl := Option.some.inj step
      refine own_set own { own q with client := ?_ }
      rintro _ ⟨⟩
      rw [← same]
      exact ((own i).server _ connected).symm
    · cases step
  · cases step

/-- What a guest writes goes to its own client, or to nobody. -/
theorem own_of_emit {q : Invocation} {text : Text} (own : ∀ j, Own j (shared.party j))
    (step : shared.step (.emit q text) = some next) : ∀ j, Own j (next.party j) := by
  rw [Shared.step] at step
  split at step
  · split at step
    · rename_i i client
      obtain rfl := Option.some.inj step
      refine own_set own { own i with wire := ?_ }
      intro byte member
      rcases List.mem_append.mp member with before | written
      · exact (own i).wire byte before
      · obtain ⟨_, _, rfl⟩ := List.mem_map.mp written
        exact ((own q).client i client).symm
    · obtain rfl := Option.some.inj step
      exact own
  · cases step

/-- A copy moves bytes from the wire to the console. -/
theorem own_of_copy {i : Invocation} {n : ℕ} (own : ∀ j, Own j (shared.party j))
    (step : shared.step (.copy i n) = some next) : ∀ j, Own j (next.party j) := by
  rw [Shared.step] at step
  split at step
  · obtain rfl := Option.some.inj step
    refine own_set own { own i with wire := ?_, console := ?_ }
    · exact fun byte member => (own i).wire byte (List.mem_of_mem_drop member)
    · intro byte member
      rcases List.mem_append.mp member with before | copied
      · exact (own i).console byte before
      · exact (own i).wire byte (List.mem_of_mem_take copied)
  · cases step

/-- **One move** keeps what is one's own. -/
theorem own_of_step {move : Move Invocation} (own : ∀ j, Own j (shared.party j))
    (finds : FindsOwn shared move) (step : shared.step move = some next) :
    ∀ j, Own j (next.party j) := by
  cases move with
  | script i => exact own_of_command own step
  | connect i => exact own_of_connect own finds step
  | accept q i => exact own_of_accept own step
  | emit q text => exact own_of_emit own step
  | copy i n => exact own_of_copy own step
  | bind q =>
    rw [Shared.step] at step
    split at step
    · obtain rfl := Option.some.inj step
      exact own_set own { own q with }
    · cases step
  | quit q unlinks =>
    rw [Shared.step] at step
    split at step
    · obtain rfl := Option.some.inj step
      exact own_set own { own q with }
    · obtain rfl := Option.some.inj step
      exact own_set own { own q with }
    · cases step
  | hangup q =>
    rw [Shared.step] at step
    split at step
    · split at step
      · obtain rfl := Option.some.inj step
        exact own_set own { own q with client := nofun }
      · cases step
    · cases step
  | kill i hits =>
    obtain rfl := Option.some.inj step
    refine own_set own { own i with server := ?_ }
    intro q connected
    simp only at connected
    split at connected <;> cases connected

theorem own_of_reaches (reached : (sharedSystem Invocation).Reaches FindsOwn shared) (i : Invocation) :
    Own i (shared.party i) := by
  have own : ∀ j, Own j (shared.party j) := by
    refine reached.invariant ?_ fun _ _ _ => own_of_step
    intro start initial j
    rw [initial.2 j]
    exact Own.initial j
  exact own i

/-- **Isolation**, for any number of invocations in any order of their steps, if whoever listens where a `socat`
connects is that invocation's QEMU: each console has only bytes of the invocation's own guest, and so has
what a verdict is computed from. -/
theorem isolated (reached : (sharedSystem Invocation).Reaches FindsOwn shared) (i : Invocation) :
    (∀ byte ∈ (shared.party i).console, byte.writer = i) ∧
      ∀ report, (shared.party i).report = some report → ∀ byte ∈ report, byte.writer = i :=
  ⟨(own_of_reaches reached i).console, (own_of_reaches reached i).report⟩

/-- An invocation that is alone on its host is isolated, whatever the order of the steps. -/
theorem own_alone [Subsingleton Invocation]
    (reached : (sharedSystem Invocation).Reaches (fun _ _ => True) shared) (i : Invocation) :
    Own i (shared.party i) :=
  own_of_reaches (reached.mono fun _ _ _ i q _ _ _ => Subsingleton.elim q i) i

/-- **Where the condition fails**, the other guest's bytes can come: `socat` connects to the QEMU of another
invocation that serves nobody, is served, the guest writes, `socat` copies. -/
theorem leaks {i q : Invocation} (foreign : q ≠ i) (starting : (shared.party i).socat = .starting)
    (path : shared.path = .socket q) (listens : (shared.party q).qemu = .listening)
    (free : (shared.party q).client = none) (c : Char) :
    ∃ final, (sharedSystem Invocation).Runs (fun _ _ => True) shared
        [.connect i, .accept q i, .emit q [c], .copy i ((shared.party i).wire.length + 1)] final ∧
      ⟨q, c⟩ ∈ (final.party i).console := by
  let joined := shared.set i { shared.party i with socat := .connected q }
  let served := joined.set q { joined.party q with client := some i }
  let sent := served.set i { served.party i with wire := (served.party i).wire ++ [⟨q, c⟩] }
  have connects : shared.step (.connect i) = some joined := by
    simp [Shared.step, starting, path, listens, joined]
  have accepts : joined.step (.accept q i) = some served := by
    simp [Shared.step, listens, free, joined, served, foreign]
  have emits : served.step (.emit q [c]) = some sent := by
    simp [Shared.step, listens, joined, served, sent, foreign]
  have there : (sent.party i).socat = .connected q ∧
      (sent.party i).wire = (shared.party i).wire ++ [⟨q, c⟩] := by
    simp [sent, served, joined, foreign.symm]
  refine ⟨_, ⟨trivial, _, connects, trivial, _, accepts, trivial, _, emits, trivial, _,
    by simp only [sharedSystem, Shared.step, there.1]; rfl, rfl⟩, ?_⟩
  rw [Shared.party_set, there.2, List.take_of_length_le (by simp)]
  exact List.mem_append_right _ (List.mem_append_right _ (List.mem_singleton_self _))

end Isolation

/-! ### Two invocations -/

/-- The second invocation starts when the first is served; both copy what their own guests write. -/
theorem isolated_both :
    ∃ shared : Shared Bool, (shared.party false).console.map Byte.char = passingLine ∧
      (shared.party true).console.map Byte.char = "[    0.000000] Linux".toList ∧
      (∀ byte ∈ (shared.party false).console, byte.writer = false) ∧
      ∀ byte ∈ (shared.party true).console, byte.writer = true := by
  have start : (sharedSystem Bool).initial ⟨.absent, fun _ => .initial⟩ := ⟨.inl rfl, fun _ => rfl⟩
  have first : (sharedSystem Bool).Reaches FindsOwn ⟨.absent, fun _ => .initial⟩ := .start start
  have reached := (first.runs
    [.script false, .script false, .bind false, .script false, .script false, .script false,
      .connect false, .accept false false, .emit false passingLine]
    ⟨nofun, _, rfl, nofun, _, rfl, nofun, _, rfl, nofun, _, rfl, nofun, _, rfl, nofun, _, rfl,
      by rintro _ _ ⟨⟩ ⟨⟩ _; rfl, _, rfl, nofun, _, rfl, nofun, _, rfl, rfl⟩).runs
    [.script true, .script true, .bind true, .script true, .script true, .script true,
      .connect true, .accept true true, .emit true "[    0.000000] Linux".toList, .copy true 100,
      .copy false 100]
    ⟨nofun, _, rfl, nofun, _, rfl, nofun, _, rfl, nofun, _, rfl, nofun, _, rfl, nofun, _, rfl,
      by rintro _ _ ⟨⟩ ⟨⟩ _; rfl, _, rfl, nofun, _, rfl, nofun, _, rfl, nofun, _, rfl, nofun, _, rfl, rfl⟩
  exact ⟨_, rfl, rfl, (isolated reached false).1, (isolated reached true).1⟩

/-- **A foreign verdict**: while the first invocation has tested the path and starts its `socat`, the second
removes the path and its QEMU binds it. The first reports the pass of the second's guest; its own guest has
written nothing. -/
theorem foreign_pass :
    ∃ shared : Shared Bool, (sharedSystem Bool).Reaches (fun _ _ => True) shared ∧
      ∃ report, (shared.party false).report = some report ∧
        (∀ byte ∈ report, byte.writer = true) ∧
        (plainHost.finish (testBatch "068".toList 1 false) Cause.sentinel.text
          (grepSentinel (report.map Byte.char))).banner = some .PASS := by
  have start : (sharedSystem Bool).initial ⟨.absent, fun _ => .initial⟩ := ⟨.inl rfl, fun _ => rfl⟩
  have first : (sharedSystem Bool).Reaches (fun _ _ => True) ⟨.absent, fun _ => .initial⟩ := .start start
  have reached := first.runs
    [.script false, .script false, .bind false, .script false, .script false, .script false,
      .script true, .script true, .bind true, .connect false, .accept true false,
      .emit true (passingLine ++ ['\n']), .copy false 100, .script false]
    (System.runs_of_foldlM rfl)
  refine ⟨_, reached, _, rfl, ?_, ?_⟩
  · intro byte member
    obtain ⟨_, _, rfl⟩ := List.mem_map.mp (List.mem_of_mem_take member)
    rfl
  · refine (congrArg (fun line => (plainHost.finish (testBatch "068".toList 1 false)
      Cause.sentinel.text line).banner) ?_).trans banner_passingLine
    decide

end Ndt.Race
