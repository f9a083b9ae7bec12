/-
**The guest's `sudo` shim.**

The loop strips one or two words at a time and stops at `--` or at a word that is no option; what is left goes
to `exec`. `shift 2` leaves a single word where it is, so an option that wants an argument and has none is
looked at for ever (`sudoLoop_dangling`). `exec` has options of its own, and a command that starts with `-` is
taken for one (`execBuiltin`).

`sudo_iff` says for which argument vectors the shim ends and passes the command through.
-/

import Ndt.Shell.Text

namespace Ndt.Guest

open Shell

/-- `shift n`: with fewer parameters than `n` it fails and leaves them. -/
def shift (n : ℕ) (args : List Text) : List Text := if n ≤ args.length then args.drop n else args

/-- `-u|-g|-U|-p|-C|-r|-t|-T|-h` -/
def wantsArgument (arg : Text) : Bool :=
  ["-u", "-g", "-U", "-p", "-C", "-r", "-t", "-T", "-h"].any fun option => arg = option.toList

/-- `while [ $# -gt 0 ]; do case "$1" in`, with fuel; `none` means that it is still running. -/
def sudoLoop : ℕ → List Text → Option (List Text)
  | 0, _ => none
  | _ + 1, [] => some []
  | fuel + 1, arg :: args =>
    if wantsArgument arg then sudoLoop fuel (shift 2 (arg :: args))
    else if arg = "--".toList then some (shift 1 (arg :: args))
    else if startsWith "-".toList arg then sudoLoop fuel (shift 1 (arg :: args))
    else some (arg :: args)

/-- What `exec` makes of its words. -/
inductive Exec
  /-- No words: the shim goes on to its end. -/
  | nothing
  | command (words : List Text)
  /-- The first word is an option of `exec` itself, as `-c`, `-l`, `-a` and `--` are. -/
  | ownOption (words : List Text)
  deriving DecidableEq, Repr

/-- A word that `exec` takes for an option: a minus sign and more. -/
def isExecOption (word : Text) : Bool := startsWith "-".toList word && word ≠ "-".toList

/-- `exec "$@"` -/
def execBuiltin : List Text → Exec
  | [] => .nothing
  | word :: words =>
    if isExecOption word then .ownOption (word :: words) else .command (word :: words)

/-- The shim. -/
def runSudo (fuel : ℕ) (args : List Text) : Option Exec := (sudoLoop fuel args).map execBuiltin

/-! ### Options -/

/-- **An option of `sudo`**: one with its argument, or another word with a minus sign. -/
inductive SudoOption
  | withArgument (option argument : Text) (wants : wantsArgument option = true)
  | flag (word : Text) (dash : startsWith "-".toList word = true) (unclosed : word ≠ "--".toList)
    (bare : wantsArgument word = false)

/-- The words of an option. -/
def SudoOption.words : SudoOption → List Text
  | .withArgument option argument _ => [option, argument]
  | .flag word _ _ _ => [word]

/-- **One option** is stripped in one round. -/
theorem sudoLoop_option (option : SudoOption) (fuel : ℕ) (rest : List Text) :
    sudoLoop (fuel + 1) (option.words ++ rest) = sudoLoop fuel rest := by
  cases option with
  | withArgument option argument wants =>
    show sudoLoop (fuel + 1) (option :: argument :: rest) = _
    rw [sudoLoop, if_pos wants, shift, if_pos (by simp)]
    rfl
  | flag word dash unclosed bare =>
    show sudoLoop (fuel + 1) (word :: rest) = _
    rw [sudoLoop, if_neg (by rw [bare]; exact Bool.false_ne_true), if_neg unclosed, if_pos dash, shift,
      if_pos (by simp)]
    rfl

theorem sudoLoop_options (options : List SudoOption) (fuel : ℕ) (rest : List Text) :
    sudoLoop (fuel + options.length) (options.flatMap SudoOption.words ++ rest) = sudoLoop fuel rest := by
  induction options with
  | nil => rfl
  | cons option options ih =>
    rw [List.flatMap_cons, List.append_assoc, List.length_cons, ← Nat.add_assoc, sudoLoop_option, ih]

/-- Options do not stop a loop that is not stopped by what follows. -/
theorem sudoLoop_options_none (options : List SudoOption) {rest : List Text}
    (endless : ∀ fuel, sudoLoop fuel rest = none) (fuel : ℕ) :
    sudoLoop fuel (options.flatMap SudoOption.words ++ rest) = none := by
  induction options generalizing fuel with
  | nil => exact endless fuel
  | cons option options ih =>
    rw [List.flatMap_cons, List.append_assoc]
    cases fuel with
    | zero => rfl
    | succ fuel => rw [sudoLoop_option, ih]

/-! ### The end of the loop -/

/-- **Every argument vector** is options, and then nothing, `--`, a word that is no option, or an option that
lacks its argument. -/
theorem exists_options (args : List Text) :
    ∃ options : List SudoOption, ∃ rest, args = options.flatMap SudoOption.words ++ rest ∧
      (rest = [] ∨ (∃ tail, rest = "--".toList :: tail) ∨
        (∃ word tail, rest = word :: tail ∧ startsWith "-".toList word = false) ∨
          ∃ option, rest = [option] ∧ wantsArgument option = true) := by
  induction length : args.length using Nat.strong_induction_on generalizing args with
  | _ n ih =>
    cases args with
    | nil => exact ⟨[], [], rfl, .inl rfl⟩
    | cons arg args =>
      cases wants : wantsArgument arg with
      | true =>
        cases args with
        | nil => exact ⟨[], [arg], rfl, .inr (.inr (.inr ⟨arg, rfl, wants⟩))⟩
        | cons argument args =>
          obtain ⟨options, rest, split, ends⟩ := ih args.length (by simp at length; omega) args rfl
          exact ⟨.withArgument arg argument wants :: options, rest,
            congrArg (fun tail => arg :: argument :: tail) split, ends⟩
      | false =>
        by_cases closing : arg = "--".toList
        · exact ⟨[], arg :: args, rfl, .inr (.inl ⟨args, by rw [closing]⟩)⟩
        cases dash : startsWith "-".toList arg with
        | false => exact ⟨[], arg :: args, rfl, .inr (.inr (.inl ⟨arg, args, rfl, dash⟩))⟩
        | true =>
          obtain ⟨options, rest, split, ends⟩ := ih args.length (by simp at length; omega) args rfl
          exact ⟨.flag arg dash closing wants :: options, rest, congrArg (arg :: ·) split, ends⟩

/-- Options, and then an option that lacks its argument. -/
def Dangling (args : List Text) : Prop :=
  ∃ options : List SudoOption, ∃ option, args = options.flatMap SudoOption.words ++ [option] ∧
    wantsArgument option = true

/-- The loop ends. -/
def Ends (args : List Text) : Prop := ∃ fuel rest, sudoLoop fuel args = some rest

/-- **An option that lacks its argument** is looked at for ever. -/
theorem sudoLoop_dangling {option : Text} (wants : wantsArgument option = true) (fuel : ℕ) :
    sudoLoop fuel [option] = none := by
  induction fuel with
  | zero => rfl
  | succ fuel ih =>
    have same : shift 2 [option] = [option] := rfl
    rw [sudoLoop, if_pos wants, same, ih]

/-- Words in front of which no option stands: the loop stops at once. -/
theorem sudoLoop_command {word : Text} (noDash : startsWith "-".toList word = false) (fuel : ℕ)
    (words : List Text) : sudoLoop (fuel + 1) (word :: words) = some (word :: words) := by
  have bare : wantsArgument word = false := by
    rw [wantsArgument, List.any_eq_false]
    intro option listed same
    have dash : startsWith "-".toList option.toList = true :=
      List.all_eq_true.mp (by decide : (["-u", "-g", "-U", "-p", "-C", "-r", "-t", "-T", "-h"].all
        fun option => startsWith "-".toList option.toList) = true) option listed
    rw [← of_decide_eq_true same, noDash] at dash
    cases dash
  have unclosed : word ≠ "--".toList := by
    rintro rfl
    exact absurd noDash (by decide)
  rw [sudoLoop, if_neg (by rw [bare]; exact Bool.false_ne_true), if_neg unclosed,
    if_neg (by rw [noDash]; exact Bool.false_ne_true)]

theorem sudoLoop_closing (fuel : ℕ) (words : List Text) :
    sudoLoop (fuel + 1) ("--".toList :: words) = some words := by
  have bare : wantsArgument "--".toList = false := by decide
  rw [sudoLoop, if_neg (by rw [bare]; exact Bool.false_ne_true), if_pos rfl, shift, if_pos (by simp)]
  rfl

/-- **The loop ends** exactly for vectors that do not lack an argument at their end. -/
theorem ends_iff (args : List Text) : Ends args ↔ ¬ Dangling args := by
  constructor
  · rintro ⟨fuel, rest, ended⟩ ⟨options, option, rfl, wants⟩
    rw [sudoLoop_options_none options (sudoLoop_dangling wants)] at ended
    cases ended
  · intro complete
    obtain ⟨options, rest, rfl, ends⟩ := exists_options args
    refine ⟨1 + options.length, ?_⟩
    rw [sudoLoop_options]
    rcases ends with rfl | ⟨tail, rfl⟩ | ⟨word, tail, rfl, noDash⟩ | ⟨option, rfl, wants⟩
    · exact ⟨[], rfl⟩
    · exact ⟨tail, sudoLoop_closing 0 tail⟩
    · exact ⟨word :: tail, sudoLoop_command noDash 0 tail⟩
    · exact absurd ⟨options, option, rfl, wants⟩ complete

/-! ### The command -/

/-- **A vector with a command**: options, perhaps `--`, and a command, which starts with a minus sign only
after `--`. -/
structure Call (args : List Text) where
  options : List SudoOption
  closed : Bool
  word : Text
  arguments : List Text
  plain : closed = false → startsWith "-".toList word = false
  words : args = options.flatMap SudoOption.words ++
    ((if closed then ["--".toList] else []) ++ word :: arguments)

/-- **The loop leaves the command**, with all its arguments. -/
theorem sudoLoop_call {args : List Text} (call : Call args) (fuel : ℕ) :
    sudoLoop (fuel + 1 + call.options.length) args = some (call.word :: call.arguments) := by
  have stripped : sudoLoop (fuel + 1 + call.options.length) args =
      sudoLoop (fuel + 1) ((if call.closed then ["--".toList] else []) ++ call.word :: call.arguments) :=
    (congrArg (sudoLoop _) call.words).trans (sudoLoop_options call.options (fuel + 1) _)
  rw [stripped]
  cases closed : call.closed with
  | true => exact sudoLoop_closing fuel _
  | false => exact sudoLoop_command (call.plain closed) fuel _

/-- The shim executes exactly the command, with any fuel that is enough. -/
def PassesThrough (args : List Text) : Prop :=
  ∀ call : Call args, ∃ enough, ∀ fuel, enough ≤ fuel →
    runSudo fuel args = some (.command (call.word :: call.arguments))

theorem passesThrough_iff (args : List Text) :
    PassesThrough args ↔ ∀ call : Call args, isExecOption call.word = false := by
  have ran : ∀ (call : Call args) (fuel : ℕ), call.options.length + 1 ≤ fuel →
      runSudo fuel args = some (execBuiltin (call.word :: call.arguments)) := by
    intro call fuel enough
    obtain ⟨more, rfl⟩ : ∃ more, fuel = more + 1 + call.options.length :=
      ⟨fuel - (call.options.length + 1), by omega⟩
    rw [runSudo, sudoLoop_call call]
    rfl
  constructor
  · intro passes call
    obtain ⟨enough, passed⟩ := passes call
    have exec := passed (max enough (call.options.length + 1)) (le_max_left _ _)
    rw [ran call _ (le_max_right _ _), execBuiltin] at exec
    cases own : isExecOption call.word with
    | false => rfl
    | true =>
      rw [own, if_pos rfl] at exec
      cases exec
  · intro plain call
    refine ⟨call.options.length + 1, fun fuel enough => ?_⟩
    rw [ran call fuel enough, execBuiltin, plain call, if_neg Bool.false_ne_true]

/-- **The shim ends and passes its command through**, exactly for vectors that do not lack an argument at their
end and whose command, if any, is no option of `exec`. -/
theorem sudo_iff (args : List Text) :
    Ends args ∧ PassesThrough args ↔
      ¬ Dangling args ∧ ∀ call : Call args, isExecOption call.word = false :=
  and_congr (ends_iff args) (passesThrough_iff args)

/-- **`sudo -u` never ends**, and `sudo -- -c true` gives `-c` to `exec`. -/
theorem sudo_fails :
    ¬ Ends ["-u".toList] ∧ Ends ["--".toList, "-c".toList, "true".toList] ∧
      ¬ PassesThrough ["--".toList, "-c".toList, "true".toList] := by
  refine ⟨?_, ⟨1, _, sudoLoop_closing 0 _⟩, ?_⟩
  · rintro ⟨fuel, rest, ended⟩
    rw [sudoLoop_dangling (by decide)] at ended
    cases ended
  · intro passes
    have plain := (passesThrough_iff _).mp passes
      ⟨[], true, "-c".toList, ["true".toList], nofun, rfl⟩
    exact absurd plain (by decide)

end Ndt.Guest
