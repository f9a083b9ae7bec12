/-
**Transition systems with actions.**

Several parties act on one state, in any order. What holds whatever the order is shown by an invariant;
what happens in the end, by a rank that one party brings down and no other party raises.

* `Reaches` — the states of all runs whose steps meet a condition; `Reaches.invariant` is the induction.
* `Runs` — a list of actions leads from one state to another; `Reaches.runs`, and `Execution.ofRuns` for
  the infinite run that stops there.
* `Execution` — an infinite run, in which a moment may pass without an action;
  `Execution.eventually` is the argument by rank.
-/

import Mathlib

namespace Transition

/-- **A transition system**: the states in which a run may start, and the state after an action; `none`
where the action is not enabled. -/
structure System (State Action : Type) where
  initial : State → Prop
  step : State → Action → Option State

namespace System

variable {State Action : Type} (system : System State Action) (meets : State → Action → Prop)

/-- **The states of runs** whose steps all meet a condition. -/
inductive Reaches : State → Prop
  | start {s : State} (initial : system.initial s) : Reaches s
  | step {s t : State} {a : Action} (before : Reaches s) (met : meets s a)
      (next : system.step s a = some t) : Reaches t

variable {system meets}

/-- **The invariant rule.** -/
theorem Reaches.invariant {invariant : State → Prop}
    (start : ∀ s, system.initial s → invariant s)
    (preserved : ∀ s a t, invariant s → meets s a → system.step s a = some t → invariant t)
    {s : State} (reached : system.Reaches meets s) : invariant s := by
  induction reached with
  | start initial => exact start _ initial
  | step _ met next ih => exact preserved _ _ _ ih met next

/-- A weaker condition has more runs. -/
theorem Reaches.mono {others : State → Action → Prop} (weaker : ∀ s a, meets s a → others s a) {s : State}
    (reached : system.Reaches meets s) : system.Reaches others s := by
  induction reached with
  | start initial => exact .start initial
  | step _ met next ih => exact .step ih (weaker _ _ met) next

variable (system meets)

/-- A list of actions leads from one state to another, and each step meets the condition. -/
def Runs : State → List Action → State → Prop
  | s, [], t => s = t
  | s, a :: rest, t => meets s a ∧ ∃ next, system.step s a = some next ∧ Runs next rest t

variable {system meets}

/-- A run from a reached state leads to a reached state. -/
theorem Reaches.runs {s t : State} (reached : system.Reaches meets s) (actions : List Action)
    (ran : system.Runs meets s actions t) : system.Reaches meets t := by
  induction actions generalizing s with
  | nil =>
    obtain rfl := ran
    exact reached
  | cons a rest ih =>
    obtain ⟨met, next, stepped, ran⟩ := ran
    exact ih (.step reached met stepped) ran

/-- A run, by computing its states and looking at the condition in each. -/
theorem runs_of_guarded [∀ s a, Decidable (meets s a)] {s t : State} {actions : List Action}
    (computed : actions.foldlM (fun s a => if meets s a then system.step s a else none) s = some t) :
    system.Runs meets s actions t := by
  induction actions generalizing s with
  | nil => exact Option.some.inj computed
  | cons a rest ih =>
    rw [List.foldlM_cons] at computed
    obtain ⟨next, stepped, computed⟩ := Option.bind_eq_some_iff.mp computed
    split_ifs at stepped with met
    exact ⟨met, next, stepped, ih computed⟩

/-- A run without a condition, by computing its states. -/
theorem runs_of_foldlM {s t : State} {actions : List Action}
    (computed : actions.foldlM system.step s = some t) : system.Runs (fun _ _ => True) s actions t :=
  runs_of_guarded computed

end System

/-! ### Infinite runs -/

variable {State Action : Type}

/-- **An infinite run** whose steps meet a condition. -/
structure Execution (system : System State Action) (meets : State → Action → Prop) where
  state : ℕ → State
  action : ℕ → Option Action
  start : system.initial (state 0)
  idle : ∀ n, action n = none → state (n + 1) = state n
  next : ∀ n a, action n = some a →
    meets (state n) a ∧ system.step (state n) a = some (state (n + 1))

namespace Execution

variable {system : System State Action} {meets : State → Action → Prop}
  (execution : Execution system meets)

theorem reaches (n : ℕ) : system.Reaches meets (execution.state n) := by
  induction n with
  | zero => exact .start execution.start
  | succ n ih =>
    cases acted : execution.action n with
    | none => rwa [execution.idle n acted]
    | some a =>
      obtain ⟨met, next⟩ := execution.next n a acted
      exact .step ih met next

/-- An infinite run whose steps happen to meet another condition too. -/
def restrict (others : State → Action → Prop)
    (met : ∀ n a, execution.action n = some a → others (execution.state n) a) :
    Execution system others where
  state := execution.state
  action := execution.action
  start := execution.start
  idle := execution.idle
  next n a acted := ⟨met n a acted, (execution.next n a acted).2⟩

/-- What every step keeps holds from some moment on for good. -/
theorem stable (kept : State → Prop)
    (preserved : ∀ s a t, kept s → system.step s a = some t → kept t) {n m : ℕ} (later : n ≤ m)
    (holds : kept (execution.state n)) : kept (execution.state m) := by
  induction m, later using Nat.le_induction with
  | base => exact holds
  | succ m _ ih =>
    cases acted : execution.action m with
    | none => rwa [execution.idle m acted]
    | some a => exact preserved _ a _ ih (execution.next m a acted).2

/-- **The rank rule.** From moment `onset` on no action raises the rank before the goal, and the actions of
one party bring it down; that party goes on acting until the goal. Then the goal is reached. -/
theorem eventually (goal : State → Prop) (mine : Action → Prop) (rank : State → ℕ) (onset : ℕ)
    (steps : ∀ n a, onset ≤ n → ¬ goal (execution.state n) → execution.action n = some a →
      rank (execution.state (n + 1)) ≤ rank (execution.state n) ∧
        (mine a → rank (execution.state (n + 1)) < rank (execution.state n)))
    (fair : ∀ n, ¬ goal (execution.state n) → ∃ m a, n ≤ m ∧ execution.action m = some a ∧ mine a) :
    ∃ n, onset ≤ n ∧ goal (execution.state n) := by
  by_contra never
  push Not at never
  have falls : ∀ n m, onset ≤ n → n ≤ m → rank (execution.state m) ≤ rank (execution.state n) := by
    intro n m after later
    induction m, later using Nat.le_induction with
    | base => exact le_rfl
    | succ m later ih =>
      refine le_trans ?_ ih
      cases acted : execution.action m with
      | none => rw [execution.idle m acted]
      | some a => exact (steps m a (after.trans later) (never m (after.trans later)) acted).1
  -- the rank comes down as often as one likes
  have deep : ∀ drops, ∃ n, onset ≤ n ∧
      rank (execution.state n) + drops ≤ rank (execution.state onset) := by
    intro drops
    induction drops with
    | zero => exact ⟨onset, le_rfl, le_rfl⟩
    | succ drops ih =>
      obtain ⟨n, after, low⟩ := ih
      obtain ⟨m, a, later, acted, own⟩ := fair n (never n after)
      have drop := (steps m a (after.trans later) (never m (after.trans later)) acted).2 own
      have fallen := falls n m after later
      exact ⟨m + 1, by omega, by omega⟩
  obtain ⟨n, _, low⟩ := deep (rank (execution.state onset) + 1)
  omega

/-! #### Runs that stop -/

/-- The state at a moment of a run that stops after some actions. -/
def stateAt (system : System State Action) : State → List Action → ℕ → State
  | s, [], _ => s
  | s, _ :: _, 0 => s
  | s, a :: rest, n + 1 => stateAt system ((system.step s a).getD s) rest n

/-- After its last action a run stays where it led. -/
theorem stateAt_of_length_le {s t : State} {actions : List Action} (ran : system.Runs meets s actions t)
    {n : ℕ} (passed : actions.length ≤ n) : stateAt system s actions n = t := by
  induction actions generalizing s n with
  | nil => exact ran
  | cons a rest ih =>
    obtain ⟨_, next, stepped, ran⟩ := ran
    cases n with
    | zero => exact absurd passed (Nat.not_succ_le_zero _)
    | succ n =>
      rw [stateAt, stepped]
      exact ih ran (Nat.le_of_succ_le_succ passed)

/-- At each of its moments a run takes its next action. -/
theorem stateAt_next {s t : State} {actions : List Action} (ran : system.Runs meets s actions t) {n : ℕ}
    {a : Action} (acts : actions[n]? = some a) :
    meets (stateAt system s actions n) a ∧
      system.step (stateAt system s actions n) a = some (stateAt system s actions (n + 1)) := by
  induction actions generalizing s n with
  | nil => cases acts
  | cons first rest ih =>
    obtain ⟨met, next, stepped, ran⟩ := ran
    cases n with
    | zero =>
      obtain rfl := Option.some.inj acts
      have there : stateAt system s (first :: rest) 1 = next := by
        rw [stateAt, stepped]
        cases rest <;> rfl
      rw [there]
      exact ⟨met, stepped⟩
    | succ n =>
      rw [stateAt, stateAt, stepped]
      exact ih ran acts

/-- **The infinite run that stops** after some actions. -/
def ofRuns {s t : State} (initial : system.initial s) {actions : List Action}
    (ran : system.Runs meets s actions t) : Execution system meets where
  state := stateAt system s actions
  action n := actions[n]?
  start := by
    cases actions <;> exact initial
  idle n done := by
    have passed : actions.length ≤ n := List.getElem?_eq_none_iff.mp done
    rw [stateAt_of_length_le ran passed, stateAt_of_length_le ran (passed.trans n.le_succ)]
  next n a acts := stateAt_next ran acts

theorem ofRuns_state {s t : State} (initial : system.initial s) {actions : List Action}
    (ran : system.Runs meets s actions t) {n : ℕ} (passed : actions.length ≤ n) :
    (ofRuns initial ran).state n = t :=
  stateAt_of_length_le ran passed

end Execution

end Transition
