/-
**Texts without a name.**

Shell arithmetic evaluates the text a variable holds. Where that text has no letter and no underscore
(`Nameless`), no variable is read and none is assigned to, whatever the text is: it may still be no
expression, or divide by zero.

* `parse_nameless` — the expression of such a text has no variable in it (`Closed`).
* `inert_var` — a variable that holds such a text is inert: the environment stays, and no unset
  variable is come upon.
* `Inert.binary` — so does an operator between two expressions that do.
-/

import Ndt.Shell.Arith

namespace Ndt.Shell

/-- No character of the text starts a name. -/
def Nameless (t : Text) : Prop := ∀ c ∈ t, isNameStart c = false

instance (t : Text) : Decidable (Nameless t) := inferInstanceAs (Decidable (∀ c ∈ t, _))

theorem Digits.nameless {t : Text} (digits : Digits t) : Nameless t := fun c member =>
  not_isNameStart_of_isDigit (digits c member)

theorem Nameless.sublist {t rest : Text} (nameless : Nameless t) (part : rest.Sublist t) :
    Nameless rest := fun c member => nameless c (part.subset member)

/-! ### Lexing -/

/-- No token is a name. -/
def NoNames (tokens : List Token) : Prop := ∀ name, Token.name name ∉ tokens

@[simp] theorem noNames_nil : NoNames [] := fun _ => List.not_mem_nil

theorem noNames_cons {token : Token} {tokens : List Token} :
    NoNames (token :: tokens) ↔ (∀ name, token ≠ .name name) ∧ NoNames tokens := by
  simp only [NoNames, List.mem_cons, not_or, forall_and, ne_eq, eq_comm]

/-- The operators are no names. -/
theorem operators_no_name : ∀ entry ∈ operators, ∀ name, entry.2 ≠ .name name := by
  simp [operators]

theorem lexOperator_nameless {afterName : Bool} {t rest : Text} {token : Token} (nameless : Nameless t)
    (lexed : lexOperator afterName t = some (token, rest)) :
    (∀ name, token ≠ .name name) ∧ Nameless rest := by
  rw [lexOperator] at lexed
  split_ifs at lexed
  · obtain ⟨rfl, rfl⟩ := Prod.mk.inj (Option.some.inj lexed)
    exact ⟨nofun, nameless.sublist (List.drop_sublist _ _)⟩
  · obtain ⟨rfl, rfl⟩ := Prod.mk.inj (Option.some.inj lexed)
    exact ⟨nofun, nameless.sublist (List.drop_sublist _ _)⟩
  · obtain ⟨entry, found, same⟩ := Option.map_eq_some_iff.mp lexed
    obtain ⟨rfl, rfl⟩ := Prod.mk.inj same
    exact ⟨operators_no_name entry (List.mem_of_find?_eq_some found),
      nameless.sublist (List.drop_sublist _ _)⟩

theorem lexToken_nameless {afterName : Bool} {c : Char} {others rest : Text} {token : Token}
    (nameless : Nameless (c :: others)) (lexed : lexToken afterName c others = some (token, rest)) :
    (∀ name, token ≠ .name name) ∧ Nameless rest := by
  have start : ¬ isNameStart c = true := by
    rw [nameless c List.mem_cons_self]
    exact Bool.false_ne_true
  rw [lexToken, if_neg start] at lexed
  split_ifs at lexed
  · obtain ⟨value, _, same⟩ := Option.map_eq_some_iff.mp lexed
    obtain ⟨rfl, rfl⟩ := Prod.mk.inj same
    refine ⟨fun name same => ?_, nameless.sublist (List.dropWhile_sublist _)⟩
    cases same
  · exact lexOperator_nameless nameless lexed

theorem lex_nameless {fuel : ℕ} {afterName : Bool} {t : Text} {tokens : List Token}
    (nameless : Nameless t) (lexed : lex fuel afterName t = some tokens) : NoNames tokens := by
  induction fuel generalizing afterName t tokens with
  | zero => cases lexed
  | succ fuel ih =>
    have left : Nameless (t.dropWhile isBlank) := nameless.sublist (List.dropWhile_sublist _)
    rw [lex] at lexed
    cases ahead : t.dropWhile isBlank with
    | nil =>
      simp only [ahead] at lexed
      obtain rfl := Option.some.inj lexed
      exact noNames_nil
    | cons c others =>
      simp only [ahead] at lexed left
      obtain ⟨⟨token, rest⟩, first, lexed⟩ := Option.bind_eq_some_iff.mp lexed
      obtain ⟨later, second, same⟩ := Option.bind_eq_some_iff.mp lexed
      obtain rfl := Option.some.inj same
      obtain ⟨noName, rest⟩ := lexToken_nameless left first
      exact noNames_cons.mpr ⟨noName, ih rest second⟩

/-! ### Parsing -/

/-- No variable is in the expression. -/
def Expr.Closed : Expr → Prop
  | .const _ => True
  | .unary _ operand => operand.Closed
  | .binary _ left right => left.Closed ∧ right.Closed
  | .cond test yes no => test.Closed ∧ yes.Closed ∧ no.Closed
  | .comma first second => first.Closed ∧ second.Closed
  | .var _ | .assign _ _ _ | .preInc _ _ | .postInc _ _ => False

/-- What a rule has read so far has no variable in it. -/
def Rule.Closed : Rule → Prop
  | .commaTail first => first.Closed
  | .binaryTail _ left => left.Closed
  | _ => True

/-- A parser that brings no variable into an expression. -/
def KeepsClosed (next : Rule → List Token → Option (Expr × List Token)) : Prop :=
  ∀ rule tokens e rest, rule.Closed → NoNames tokens → next rule tokens = some (e, rest) →
    e.Closed ∧ NoNames rest

/-- What is read first, and the rest. -/
theorem KeepsClosed.bind {next : Rule → List Token → Option (Expr × List Token)} (keeps : KeepsClosed next)
    {rule : Rule} {tokens : List Token} {read : Expr × List Token → Option (Expr × List Token)}
    {result : Expr × List Token} (closed : rule.Closed) (noNames : NoNames tokens)
    (parsed : (next rule tokens).bind read = some result) :
    ∃ e rest, read (e, rest) = some result ∧ e.Closed ∧ NoNames rest := by
  obtain ⟨⟨e, rest⟩, first, parsed⟩ := Option.bind_eq_some_iff.mp parsed
  exact ⟨e, rest, parsed, keeps _ _ _ _ closed noNames first⟩

/-- A prefix operator and its operand. -/
theorem KeepsClosed.unary {next : Rule → List Token → Option (Expr × List Token)}
    (keeps : KeepsClosed next) {op : UnOp} {tokens rest : List Token} {e : Expr} (noNames : NoNames tokens)
    (parsed : (next .unary tokens).map (fun (e, rest) => (Expr.unary op e, rest)) = some (e, rest)) :
    e.Closed ∧ NoNames rest := by
  obtain ⟨⟨operand, left⟩, first, same⟩ := Option.map_eq_some_iff.mp parsed
  obtain ⟨rfl, rfl⟩ := Prod.mk.inj same
  have read := keeps .unary tokens operand left trivial noNames first
  exact read

/-- What is left behind a token. -/
theorem NoNames.tail {token : Token} {tokens : List Token} (noNames : NoNames (token :: tokens)) :
    NoNames tokens := (noNames_cons.mp noNames).2

theorem not_noNames {name : Text} {tokens : List Token} : ¬ NoNames (.name name :: tokens) := fun noNames =>
  (noNames_cons.mp noNames).1 name rfl

/-- **One rule**: from the rules it refers to. -/
theorem KeepsClosed.parseRule {next : Rule → List Token → Option (Expr × List Token)}
    (keeps : KeepsClosed next) : KeepsClosed (parseRule next) := by
  intro rule tokens e rest closed noNames parsed
  -- a rule that stops here hands back what it has read
  have done : ∀ {read : Expr} {left : List Token}, read.Closed → NoNames left →
      some (read, left) = some (e, rest) → e.Closed ∧ NoNames rest := by
    intro read left readClosed leftNames same
    obtain ⟨rfl, rfl⟩ := Prod.mk.inj (Option.some.inj same)
    exact ⟨readClosed, leftNames⟩
  unfold Shell.parseRule at parsed
  cases rule with
  | comma =>
    obtain ⟨first, left, parsed, firstClosed, leftNames⟩ :=
      keeps.bind (show Rule.assign.Closed from trivial) noNames parsed
    exact keeps (.commaTail first) left e rest firstClosed leftNames parsed
  | commaTail first =>
    dsimp only at parsed
    split at parsed
    · obtain ⟨second, left, parsed, secondClosed, leftNames⟩ :=
        keeps.bind (show Rule.assign.Closed from trivial) noNames.tail parsed
      exact keeps (.commaTail (.comma first second)) left e rest ⟨closed, secondClosed⟩ leftNames parsed
    · exact done closed noNames parsed
  | assign =>
    dsimp only at parsed
    split at parsed
    · exact absurd noNames not_noNames
    · exact keeps .cond tokens e rest trivial noNames parsed
  | cond =>
    obtain ⟨test, left, parsed, testClosed, leftNames⟩ :=
      keeps.bind (show (Rule.binary 1).Closed from trivial) noNames parsed
    dsimp only at parsed
    split at parsed
    · obtain ⟨yes, left, parsed, yesClosed, leftNames⟩ :=
        keeps.bind (show Rule.comma.Closed from trivial) leftNames.tail parsed
      dsimp only at parsed
      split at parsed
      · obtain ⟨no, left, parsed, noClosed, leftNames⟩ :=
          keeps.bind (show Rule.cond.Closed from trivial) leftNames.tail parsed
        exact @done (.cond test yes no) _ ⟨testClosed, yesClosed, noClosed⟩ leftNames parsed
      · cases parsed
    · exact done testClosed leftNames parsed
  | binary level =>
    dsimp only at parsed
    split at parsed
    · exact keeps .power tokens e rest trivial noNames parsed
    · obtain ⟨first, left, parsed, firstClosed, leftNames⟩ :=
        keeps.bind (show (Rule.binary (level + 1)).Closed from trivial) noNames parsed
      exact keeps (.binaryTail level first) left e rest firstClosed leftNames parsed
  | binaryTail level first =>
    dsimp only at parsed
    split at parsed
    · split at parsed
      · obtain ⟨second, left, parsed, secondClosed, leftNames⟩ :=
          keeps.bind (show (Rule.binary (level + 1)).Closed from trivial) noNames.tail parsed
        exact keeps (.binaryTail level (.binary _ first second)) left e rest ⟨closed, secondClosed⟩
          leftNames parsed
      · exact done closed noNames parsed
    · exact done closed noNames parsed
  | power =>
    obtain ⟨base, left, parsed, baseClosed, leftNames⟩ :=
      keeps.bind (show Rule.unary.Closed from trivial) noNames parsed
    dsimp only at parsed
    split at parsed
    · obtain ⟨exponent, left, parsed, exponentClosed, leftNames⟩ :=
        keeps.bind (show Rule.power.Closed from trivial) leftNames.tail parsed
      exact @done (.binary .pow base exponent) _ ⟨baseClosed, exponentClosed⟩ leftNames parsed
    · exact done baseClosed leftNames parsed
  | unary =>
    dsimp only at parsed
    split at parsed
    · exact keeps.unary noNames.tail parsed
    · exact keeps.unary noNames.tail parsed
    · exact keeps.unary noNames.tail parsed
    · exact keeps.unary noNames.tail parsed
    · exact keeps .primary tokens e rest trivial noNames parsed
  | primary =>
    dsimp only at parsed
    split at parsed
    · exact absurd noNames.tail not_noNames
    · exact absurd noNames.tail not_noNames
    · obtain ⟨inner, left, parsed, innerClosed, leftNames⟩ :=
        keeps.bind (show Rule.comma.Closed from trivial) noNames.tail parsed
      dsimp only at parsed
      split at parsed
      · exact done innerClosed leftNames.tail parsed
      · cases parsed
    · exact @done (.const _) _ trivial noNames.tail parsed
    · exact absurd noNames not_noNames
    · exact absurd noNames not_noNames
    · exact absurd noNames not_noNames
    · cases parsed

theorem keepsClosed_parseWith (fuel : ℕ) : KeepsClosed (parseWith fuel) := by
  induction fuel with
  | zero => exact fun _ _ _ _ _ _ parsed => nomatch parsed
  | succ fuel ih => exact ih.parseRule

/-- **The expression of a text without a name** has no variable in it. -/
theorem parse_nameless {t : Text} {e : Expr} (nameless : Nameless t) (parsed : parse t = some e) :
    e.Closed := by
  obtain ⟨tokens, lexed, parsed⟩ := Option.bind_eq_some_iff.mp parsed
  have noNames := lex_nameless nameless lexed
  split at parsed
  · obtain rfl := Option.some.inj parsed
    exact trivial
  · split at parsed
    · rename_i read
      obtain rfl := Option.some.inj parsed
      exact (keepsClosed_parseWith _ .comma _ _ _ trivial noNames read).1
    · cases parsed

/-! ### Evaluation -/

/-- **An inert evaluation**: the environment stays, and no unset variable is come upon. -/
def Inert (nounset : Bool) (sub : Text → ArithM ℤ) (env : Env) (e : Expr) : Prop :=
  ∃ outcome, (evalExpr nounset sub e).exec env = (outcome, env) ∧ (status outcome).isSome

section Inert

variable {nounset : Bool} {sub : Text → ArithM ℤ} {env : Env} {e left right : Expr}

theorem Inert.const (value : ℤ) : Inert nounset sub env (.const value) :=
  ⟨_, evalExpr_const value, rfl⟩

/-- An operator fails on its operands, not on a variable. -/
theorem apply_isSome (op : BinOp) (a b : ℤ) : (status (op.apply a b)).isSome := by
  cases op with
  | div | mod | pow =>
    rw [BinOp.apply]
    split <;> rfl
  | _ => rfl

/-- **An operator** between two expressions that are inert. -/
theorem Inert.binary (op : BinOp) (first : Inert nounset sub env left)
    (second : Inert nounset sub env right) : Inert nounset sub env (.binary op left right) := by
  obtain ⟨firstOutcome, evalLeft, firstBound⟩ := first
  obtain ⟨secondOutcome, evalRight, secondBound⟩ := second
  cases firstOutcome with
  | error error => exact ⟨_, evalExpr_binary_error evalLeft, firstBound⟩
  | ok a =>
    rw [Inert, evalExpr, exec_bind_ok evalLeft]
    split_ifs
    · exact ⟨_, exec_pure 0, rfl⟩
    · exact ⟨_, exec_pure 1, rfl⟩
    · cases secondOutcome with
      | error error => exact ⟨_, exec_bind_error evalRight _, secondBound⟩
      | ok b =>
        rw [exec_bind_ok evalRight]
        refine ⟨op.apply a b, ?_, apply_isSome op a b⟩
        cases op.apply a b <;> rfl

theorem Inert.unary (op : UnOp) (operand : Inert nounset sub env e) :
    Inert nounset sub env (.unary op e) := by
  obtain ⟨outcome, evaluated, bound⟩ := operand
  rw [Inert, evalExpr]
  cases outcome with
  | error error => exact ⟨_, exec_bind_error evaluated _, bound⟩
  | ok a => exact ⟨_, exec_bind_ok evaluated _, rfl⟩

theorem Inert.cond {test yes no : Expr} (first : Inert nounset sub env test)
    (second : Inert nounset sub env yes) (third : Inert nounset sub env no) :
    Inert nounset sub env (.cond test yes no) := by
  obtain ⟨outcome, evaluated, bound⟩ := first
  rw [Inert, evalExpr]
  cases outcome with
  | error error => exact ⟨_, exec_bind_error evaluated _, bound⟩
  | ok a =>
    rw [exec_bind_ok evaluated]
    split_ifs
    · exact second
    · exact third

theorem Inert.comma (first : Inert nounset sub env left) (second : Inert nounset sub env right) :
    Inert nounset sub env (.comma left right) := by
  obtain ⟨outcome, evaluated, bound⟩ := first
  rw [Inert, evalExpr]
  cases outcome with
  | error error => exact ⟨_, exec_bind_error evaluated _, bound⟩
  | ok a =>
    rw [exec_bind_ok evaluated]
    exact second

/-- **An expression without a variable** is inert. -/
theorem Expr.Closed.inert (closed : e.Closed) : Inert nounset sub env e := by
  induction e with
  | const value => exact .const value
  | unary op operand ih => exact (ih closed).unary op
  | binary op left right first second => exact (first closed.1).binary op (second closed.2)
  | cond test yes no first second third =>
    exact (first closed.1).cond (second closed.2.1) (third closed.2.2)
  | comma left right first second => exact (first closed.1).comma (second closed.2)
  | var | assign | preInc | postInc => exact closed.elim

end Inert

/-- **A variable that holds a text without a name** is inert. -/
theorem inert_var {nounset : Bool} {depth : ℕ} {env : Env} {name t : Text} (set : env name = some t)
    (nameless : Nameless t) : Inert nounset (evalText nounset (depth + 1)) env (.var name) := by
  rw [Inert, evalExpr_var set]
  cases parsed : parse t with
  | none => exact ⟨_, evalText_malformed parsed, rfl⟩
  | some e =>
    rw [evalText, parsed]
    exact (parse_nameless nameless parsed).inert

/-- An arithmetic text whose expression is inert leaves the environment alone and has a
status. -/
theorem Inert.arith {nounset : Bool} {env : Env} {t : Text} {e : Expr} (parsed : parse t = some e)
    (inert : Inert nounset (evalText nounset 1023) env e) :
    (arith nounset t env).2 = env ∧ (status (arith nounset t env).1).isSome := by
  obtain ⟨outcome, evaluated, bound⟩ := inert
  have whole : Shell.arith nounset t env = (outcome, env) := by
    rw [Shell.arith, maxDepth, evalText, parsed]
    exact evaluated
  rw [whole]
  exact ⟨rfl, bound⟩

end Ndt.Shell
