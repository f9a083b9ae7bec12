/-
**Shell arithmetic: `((...))`, `$((...))` and `[[ a -gt b ]]`.**

* `lex` — the tokens of an expression; an invalid constant or an unknown character is an error.
* `parse` — the grammar, one level of binary precedence at a time; `none` is a syntax error.
* `evalText` — the value of a text. A variable is read by evaluating its value as an expression again,
  to a depth of `maxDepth`; an unset or empty variable counts as `0`, except that under `nounset`
  (`set -u`) an unset one ends the shell.
* `arithCommand` — the status of `((text))`: an error makes it false.

The element of an array stands under its written name: what `name[subscript]` holds is, like the
value of every other variable, up to the environment.

A text is parsed before it is evaluated, where the shell does both in one pass; the two differ only
in which of two errors of one text is reported.
-/

import Ndt.Shell.Numeral

namespace Ndt.Shell

/-! ### Syntax -/

/-- The binary operators. -/
inductive BinOp
  | lor | land | bor | bxor | band | eq | ne | le | ge | lt | gt | shl | shr | add | sub | mul | div
  | mod | pow
  deriving DecidableEq, Repr

/-- The precedence of the left-associative operators, `||` lowest; `**` stands above them. -/
def BinOp.level : BinOp → ℕ
  | lor => 1 | land => 2 | bor => 3 | bxor => 4 | band => 5
  | eq | ne => 6
  | le | ge | lt | gt => 7
  | shl | shr => 8
  | add | sub => 9
  | mul | div | mod => 10
  | pow => 11

/-- The prefix operators. -/
inductive UnOp
  | not | complement | neg | plus
  deriving DecidableEq, Repr

/-- Expressions. A name may carry a subscript. -/
inductive Expr
  | const (value : ℤ)
  | var (name : Text)
  | unary (op : UnOp) (operand : Expr)
  | binary (op : BinOp) (left right : Expr)
  | cond (test yes no : Expr)
  | assign (name : Text) (op : Option BinOp) (value : Expr)
  | preInc (name : Text) (delta : ℤ)
  | postInc (name : Text) (delta : ℤ)
  | comma (first second : Expr)
  deriving DecidableEq, Repr

/-- The tokens of an expression. -/
inductive Token
  | num (value : ℤ)
  | name (name : Text)
  | bin (op : BinOp)
  | assign (op : Option BinOp)
  | incr | decr | bang | tilde | question | colon | comma | lparen | rparen
  deriving DecidableEq, Repr

/-! ### Lexing -/

/-- A character that starts a variable name. -/
def isNameStart (c : Char) : Bool := c.isAlpha || c = '_'

/-- A character of a variable name. -/
def isNameChar (c : Char) : Bool := c.isAlphanum || c = '_'

/-- The subscript up to the bracket that closes it, and what follows. -/
def closeSubscript : ℕ → Text → Option (Text × Text)
  | _, [] => none
  | 0, ']' :: rest => some ([']'], rest)
  | depth + 1, ']' :: rest => (closeSubscript depth rest).map fun (sub, rest) => (']' :: sub, rest)
  | depth, '[' :: rest => (closeSubscript (depth + 1) rest).map fun (sub, rest) => ('[' :: sub, rest)
  | depth, c :: rest => (closeSubscript depth rest).map fun (sub, rest) => (c :: sub, rest)

/-- The operators other than `++` and `--`, each before its own prefixes. -/
def operators : List (Text × Token) :=
  [("<<=".toList, .assign (some .shl)), (">>=".toList, .assign (some .shr)),
    ("==".toList, .bin .eq), ("!=".toList, .bin .ne), (">=".toList, .bin .ge),
    ("<=".toList, .bin .le), ("<<".toList, .bin .shl), (">>".toList, .bin .shr),
    ("&&".toList, .bin .land), ("||".toList, .bin .lor), ("**".toList, .bin .pow),
    ("*=".toList, .assign (some .mul)), ("/=".toList, .assign (some .div)),
    ("%=".toList, .assign (some .mod)), ("+=".toList, .assign (some .add)),
    ("-=".toList, .assign (some .sub)), ("&=".toList, .assign (some .band)),
    ("^=".toList, .assign (some .bxor)), ("|=".toList, .assign (some .bor)),
    ("=".toList, .assign none), ("<".toList, .bin .lt), (">".toList, .bin .gt),
    ("&".toList, .bin .band), ("|".toList, .bin .bor), ("^".toList, .bin .bxor),
    ("*".toList, .bin .mul), ("/".toList, .bin .div), ("%".toList, .bin .mod),
    ("+".toList, .bin .add), ("-".toList, .bin .sub), ("!".toList, .bang), ("~".toList, .tilde),
    ("?".toList, .question), (":".toList, .colon), (",".toList, .comma), ("(".toList, .lparen),
    (")".toList, .rparen)]

/-- A name follows, after blanks. -/
def nameAhead (t : Text) : Bool := (t.dropWhile isBlank).head?.any isNameStart

/-- The operator at the front. `++` and `--` bind to a name next to them; elsewhere they are two
signs. -/
def lexOperator (afterName : Bool) (t : Text) : Option (Token × Text) :=
  if startsWith "++".toList t && (afterName || nameAhead (t.drop 2)) then some (.incr, t.drop 2)
  else if startsWith "--".toList t && (afterName || nameAhead (t.drop 2)) then
    some (.decr, t.drop 2)
  else (operators.find? fun entry => startsWith entry.1 t).map fun entry =>
    (entry.2, t.drop entry.1.length)

/-- The token at the front of a text that starts with `c`, and what follows it. -/
def lexToken (afterName : Bool) (c : Char) (rest : Text) : Option (Token × Text) :=
  if isNameStart c then
    let name := (c :: rest).takeWhile isNameChar
    match (c :: rest).dropWhile isNameChar with
    | '[' :: sub => (closeSubscript 0 sub).map fun (sub, rest) => (.name (name ++ '[' :: sub), rest)
    | rest => some (.name name, rest)
  else if c.isDigit then
    (constant ((c :: rest).takeWhile isConstantChar)).map fun value =>
      (.num value, (c :: rest).dropWhile isConstantChar)
  else lexOperator afterName (c :: rest)

/-- The tokens of a text, with fuel for its length. -/
def lex : ℕ → Bool → Text → Option (List Token)
  | 0, _, _ => none
  | fuel + 1, afterName, t =>
    match t.dropWhile isBlank with
    | [] => some []
    | c :: rest => do
      let (token, rest) ← lexToken afterName c rest
      let tokens ← lex fuel (token matches .name _) rest
      some (token :: tokens)

/-! ### Parsing -/

/-- What the parser is to read next: a rule of the grammar, or the rest of a chain of operators
after its first operands. -/
inductive Rule
  | comma | commaTail (first : Expr) | assign | cond
  | binary (level : ℕ) | binaryTail (level : ℕ) (left : Expr)
  | power | unary | primary

/-- One rule of the grammar, in terms of the rules it refers to. -/
def parseRule (next : Rule → List Token → Option (Expr × List Token)) :
    Rule → List Token → Option (Expr × List Token)
  | .comma, tokens => do
    let (first, rest) ← next .assign tokens
    next (.commaTail first) rest
  | .commaTail first, tokens =>
    match tokens with
    | .comma :: rest => do
      let (second, rest) ← next .assign rest
      next (.commaTail (.comma first second)) rest
    | _ => some (first, tokens)
  | .assign, tokens =>
    match tokens with
    | .name name :: .assign op :: rest => do
      let (value, rest) ← next .assign rest
      some (.assign name op value, rest)
    | _ => next .cond tokens
  | .cond, tokens => do
    let (test, rest) ← next (.binary 1) tokens
    match rest with
    | .question :: rest =>
      let (yes, rest) ← next .comma rest
      match rest with
      | .colon :: rest =>
        let (no, rest) ← next .cond rest
        some (.cond test yes no, rest)
      | _ => none
    | _ => some (test, rest)
  | .binary level, tokens =>
    if BinOp.pow.level ≤ level then next .power tokens
    else do
      let (left, rest) ← next (.binary (level + 1)) tokens
      next (.binaryTail level left) rest
  | .binaryTail level left, tokens =>
    match tokens with
    | .bin op :: rest =>
      if op.level = level then do
        let (right, rest) ← next (.binary (level + 1)) rest
        next (.binaryTail level (.binary op left right)) rest
      else some (left, tokens)
    | _ => some (left, tokens)
  | .power, tokens => do
    let (base, rest) ← next .unary tokens
    match rest with
    | .bin .pow :: rest =>
      let (exponent, rest) ← next .power rest
      some (.binary .pow base exponent, rest)
    | _ => some (base, rest)
  | .unary, tokens =>
    match tokens with
    | .bang :: rest => (next .unary rest).map fun (e, rest) => (.unary .not e, rest)
    | .tilde :: rest => (next .unary rest).map fun (e, rest) => (.unary .complement e, rest)
    | .bin .sub :: rest => (next .unary rest).map fun (e, rest) => (.unary .neg e, rest)
    | .bin .add :: rest => (next .unary rest).map fun (e, rest) => (.unary .plus e, rest)
    | _ => next .primary tokens
  | .primary, tokens =>
    match tokens with
    | .incr :: .name name :: rest => some (.preInc name 1, rest)
    | .decr :: .name name :: rest => some (.preInc name (-1), rest)
    | .lparen :: rest => do
      let (inner, rest) ← next .comma rest
      match rest with
      | .rparen :: rest => some (inner, rest)
      | _ => none
    | .num value :: rest => some (.const value, rest)
    | .name name :: .incr :: rest => some (.postInc name 1, rest)
    | .name name :: .decr :: rest => some (.postInc name (-1), rest)
    | .name name :: rest => some (.var name, rest)
    | _ => none

/-- The parser, with fuel for the nesting of its rules. -/
def parseWith : ℕ → Rule → List Token → Option (Expr × List Token)
  | 0 => fun _ _ => none
  | fuel + 1 => parseRule (parseWith fuel)

/-- The fuel that suffices for a list of tokens: every token is reached through the levels once. -/
def parseFuel (tokens : List Token) : ℕ := 20 * (tokens.length + 1)

/-- The expression of a text; an empty one is `0`. -/
def parse (t : Text) : Option Expr := do
  match ← lex (t.length + 1) false t with
  | [] => some (.const 0)
  | tokens =>
    match parseWith (parseFuel tokens) .comma tokens with
    | some (e, []) => some e
    | _ => none

/-! ### Evaluation -/

/-- The variables of a shell, array elements under their written names. -/
abbrev Env := Text → Option Text

/-- The variable `name` set to `value`. -/
def Env.set (env : Env) (name value : Text) : Env :=
  fun other => if other = name then some value else env other

@[simp] theorem Env.set_same (env : Env) (name value : Text) :
    env.set name value name = some value := if_pos rfl

theorem Env.set_other (env : Env) {name other : Text} (value : Text) (different : other ≠ name) :
    env.set name value other = env other := if_neg different

/-- What stops the evaluation of an expression. -/
inductive ArithError
  | malformed
  | divisionByZero
  | negativeExponent
  | tooDeep
  | unbound (name : Text)
  deriving DecidableEq, Repr

/-- An evaluation that may change variables before it fails. -/
abbrev ArithM := ExceptT ArithError (StateM Env)

/-- The outcome of an evaluation in an environment, and the environment after it. -/
def ArithM.exec {α : Type} (m : ArithM α) (env : Env) : Except ArithError α × Env := m.run.run env

/-- The truth value of a comparison. -/
def ofBool (b : Bool) : ℤ := if b then 1 else 0

/-- A bitwise operation on 64-bit values. -/
def bitwise (op : BitVec 64 → BitVec 64 → BitVec 64) (a b : ℤ) : ℤ :=
  (op (BitVec.ofInt 64 a) (BitVec.ofInt 64 b)).toInt

/-- A binary operator on two values. `&&` and `||` reach it only where both sides are evaluated. -/
def BinOp.apply : BinOp → ℤ → ℤ → Except ArithError ℤ
  | .lor, a, b => .ok (ofBool (a ≠ 0 || b ≠ 0))
  | .land, a, b => .ok (ofBool (a ≠ 0 && b ≠ 0))
  | .bor, a, b => .ok (bitwise (· ||| ·) a b)
  | .bxor, a, b => .ok (bitwise (· ^^^ ·) a b)
  | .band, a, b => .ok (bitwise (· &&& ·) a b)
  | .eq, a, b => .ok (ofBool (a = b))
  | .ne, a, b => .ok (ofBool (a ≠ b))
  | .le, a, b => .ok (ofBool (a ≤ b))
  | .ge, a, b => .ok (ofBool (a ≥ b))
  | .lt, a, b => .ok (ofBool (a < b))
  | .gt, a, b => .ok (ofBool (a > b))
  | .shl, a, b => .ok (wrap (a * 2 ^ (b % 64).toNat))
  | .shr, a, b => .ok (a / 2 ^ (b % 64).toNat)
  | .add, a, b => .ok (wrap (a + b))
  | .sub, a, b => .ok (wrap (a - b))
  | .mul, a, b => .ok (wrap (a * b))
  | .div, a, b => if b = 0 then .error .divisionByZero else .ok (wrap (a.tdiv b))
  | .mod, a, b => if b = 0 then .error .divisionByZero else .ok (wrap (a.tmod b))
  | .pow, a, b => if b < 0 then .error .negativeExponent else .ok (wrap (a ^ b.toNat))

def UnOp.apply : UnOp → ℤ → ℤ
  | .not, a => ofBool (a = 0)
  | .complement, a => -a - 1
  | .neg, a => wrap (-a)
  | .plus, a => a

section Evaluation

-- `sub` evaluates the value of a variable as an expression, one level deeper.
variable (nounset : Bool) (sub : Text → ArithM ℤ)

/-- The value of a variable. -/
def readVar (name : Text) : ArithM ℤ := do
  match (← get) name with
  | some value => sub value
  | none => if nounset then throw (.unbound name) else pure 0

def writeVar (name : Text) (value : ℤ) : ArithM Unit :=
  modify fun env => env.set name (showInt value)

/-- The value of an expression. -/
def evalExpr : Expr → ArithM ℤ
  | .const value => pure value
  | .var name => readVar nounset sub name
  | .unary op e => do return op.apply (← evalExpr e)
  | .binary op left right => do
    let a ← evalExpr left
    -- `&&` and `||` leave their right side alone where the left one decides
    if op = .land ∧ a = 0 then pure 0
    else if op = .lor ∧ a ≠ 0 then pure 1
    else do
      let b ← evalExpr right
      op.apply a b
  | .cond test yes no => do
    if (← evalExpr test) ≠ 0 then evalExpr yes else evalExpr no
  | .assign name none e => do
    let value ← evalExpr e
    writeVar name value
    return value
  | .assign name (some op) e => do
    let old ← readVar nounset sub name
    let value ← op.apply old (← evalExpr e)
    writeVar name value
    return value
  | .preInc name delta => do
    let value := wrap ((← readVar nounset sub name) + delta)
    writeVar name value
    return value
  | .postInc name delta => do
    let value ← readVar nounset sub name
    writeVar name (wrap (value + delta))
    return value
  | .comma first second => do
    let _ ← evalExpr first
    evalExpr second

end Evaluation

/-- The value of a text, with `depth` levels of variables to go. -/
def evalText (nounset : Bool) : ℕ → Text → ArithM ℤ
  | 0, _ => throw .tooDeep
  | depth + 1, t =>
    match parse t with
    | some e => evalExpr nounset (evalText nounset depth) e
    | none => throw .malformed

/-- The nesting of variables in variables at which the shell gives up. -/
def maxDepth : ℕ := 1024

/-- An arithmetic expression in an environment: its value, or why there is none, and the environment
after it. -/
def arith (nounset : Bool) (t : Text) (env : Env) : Except ArithError ℤ × Env :=
  (evalText nounset maxDepth t).exec env

/-- The status of an arithmetic command with an outcome: an error makes it false; `none`: an unset
variable under `nounset`, on which the shell exits. -/
def status : Except ArithError ℤ → Option Bool
  | .ok value => some (value ≠ 0)
  | .error (.unbound _) => none
  | .error _ => some false

/-- **The status of `((t))`.** -/
def arithCommand (nounset : Bool) (t : Text) (env : Env) : Option Bool :=
  status (arith nounset t env).1

example : parse "1 + 2 * x".toList =
    some (.binary .add (.const 1) (.binary .mul (.const 2) (.var ['x']))) := by decide +kernel

/-! ### Digit strings -/

section Numerals

theorem not_isNameStart_of_isDigit {c : Char} (digit : c.isDigit = true) : isNameStart c = false := by
  simp only [Char.isDigit, Bool.and_eq_true, decide_eq_true_eq] at digit
  have high : c.val ≤ 57 := digit.2
  rw [Bool.eq_false_iff]
  intro start
  simp only [isNameStart, Char.isAlpha, Char.isUpper, Char.isLower, Bool.or_eq_true,
    Bool.and_eq_true, decide_eq_true_eq] at start
  rcases start with (upper | lower) | underscore
  · exact absurd (UInt32.le_trans upper.1 high) (by decide)
  · exact absurd (UInt32.le_trans lower.1 high) (by decide)
  · rw [underscore] at high
    exact absurd high (by decide)

theorem isConstantChar_of_isDigit {c : Char} (digit : c.isDigit = true) :
    isConstantChar c = true := by
  simp [isConstantChar, Char.isAlphanum, digit]

/-- A digit with the characters of a constant after it is one token: its constant. -/
theorem lexToken_constant {c : Char} {others : Text} (digit : c.isDigit = true)
    (all : ∀ d ∈ others, isConstantChar d = true) (rest : Text)
    (stop : ∀ d ∈ rest.head?, isConstantChar d = false) (afterName : Bool) :
    lexToken afterName c (others ++ rest) =
      (constant (c :: others)).map fun value => (.num value, rest) := by
  have constantChars : ∀ d ∈ c :: others, isConstantChar d = true := by
    intro d member
    rcases List.mem_cons.mp member with rfl | later
    · exact isConstantChar_of_isDigit digit
    · exact all d later
  have taken : rest.takeWhile isConstantChar = [] ∧ rest.dropWhile isConstantChar = rest := by
    cases rest with
    | nil => exact ⟨rfl, rfl⟩
    | cons d rest =>
      have stops : ¬ isConstantChar d = true := by rw [stop d rfl]; exact Bool.false_ne_true
      exact ⟨List.takeWhile_cons_of_neg stops, List.dropWhile_cons_of_neg stops⟩
  rw [lexToken, if_neg (by rw [not_isNameStart_of_isDigit digit]; exact Bool.false_ne_true),
    if_pos digit, ← List.cons_append, List.takeWhile_append_of_pos constantChars,
    List.dropWhile_append_of_pos constantChars, taken.1, taken.2, List.append_nil]

/-- **A constant is parsed as its value.** -/
theorem parse_constant {c : Char} {others : Text} (digit : c.isDigit = true)
    (all : ∀ d ∈ others, isConstantChar d = true) :
    parse (c :: others) = (constant (c :: others)).map .const := by
  have notBlank : ¬ isBlank c = true := by
    rw [isBlank_of_isDigit digit]
    exact Bool.false_ne_true
  have token := lexToken_constant digit all [] (by simp) false
  rw [List.append_nil] at token
  rw [parse, List.length_cons, lex, List.dropWhile_cons_of_neg notBlank]
  simp only [token]
  cases constant (c :: others) with
  | none => rfl
  | some value => rfl

/-- **A digit string is parsed as its constant**, the empty one as `0`. -/
theorem parse_digits {t : Text} (all : Digits t) : parse t = (constant t).map .const := by
  cases t with
  | nil => rfl
  | cons c digits =>
    exact parse_constant (all c List.mem_cons_self) fun d member =>
      isConstantChar_of_isDigit (all d (List.mem_cons_of_mem _ member))

/-- **Digits, then a bracket: no expression.** An opening bracket belongs to the name before it, and
digits are no name. -/
theorem parse_digits_bracket {digits : Text} (all : Digits digits) (rest : Text) :
    parse (digits ++ '[' :: rest) = none := by
  have alone : ∀ afterName fuel, lex fuel afterName ('[' :: rest) = none := by
    intro afterName fuel
    cases fuel with
    | zero => rfl
    | succ fuel => cases afterName <;> rfl
  cases digits with
  | nil => rw [parse, List.nil_append, alone]; rfl
  | cons c digits =>
    have notBlank : ¬ isBlank c = true := by
      rw [isBlank_of_isDigit (all c List.mem_cons_self)]
      exact Bool.false_ne_true
    have token := lexToken_constant (all c List.mem_cons_self)
      (fun d member => isConstantChar_of_isDigit (all d (List.mem_cons_of_mem _ member)))
      ('[' :: rest) (by simp; decide) false
    have noTokens : lex ((c :: digits ++ '[' :: rest).length + 1) false (c :: digits ++ '[' :: rest) =
        none := by
      rw [lex, List.cons_append, List.dropWhile_cons_of_neg notBlank]
      simp only [token]
      cases constant (c :: digits) with
      | none => rfl
      | some value =>
        simp only [Option.map_some, Option.bind_eq_bind, Option.bind_some]
        rw [alone]
        rfl
    rw [parse, noTokens]
    rfl

end Numerals

/-! ### Running an evaluation -/

section Exec

variable {α β : Type} {env env' : Env}

@[simp] theorem exec_pure (a : α) : ArithM.exec (pure a) env = (.ok a, env) := rfl

theorem exec_bind_ok {m : ArithM α} {a : α} (value : m.exec env = (.ok a, env'))
    (f : α → ArithM β) : ArithM.exec (m >>= f) env = (f a).exec env' := by
  have result : m env = (Except.ok a, env') := value
  show ((m >>= f : ArithM β) : StateM Env _) env = _
  simp only [bind, ExceptT.bind, ExceptT.mk, StateT.bind, result]
  rfl

theorem exec_bind_error {m : ArithM α} {error : ArithError}
    (fails : m.exec env = (.error error, env')) (f : α → ArithM β) :
    ArithM.exec (m >>= f) env = (.error error, env') := by
  have result : m env = (Except.error error, env') := fails
  show ((m >>= f : ArithM β) : StateM Env _) env = _
  simp only [bind, ExceptT.bind, ExceptT.mk, StateT.bind, result]
  rfl

variable {nounset : Bool} {depth : ℕ}

theorem evalText_constant {t : Text} (parsed : parse t = (constant t).map .const) :
    (evalText nounset (depth + 1) t).exec env =
      ((constant t).elim (.error .malformed) .ok, env) := by
  rw [evalText, parsed]
  cases constant t with
  | none => rfl
  | some value => rfl

/-- **A digit string evaluates to its constant**, in every environment. -/
theorem evalText_digits {t : Text} (digits : Digits t) :
    (evalText nounset (depth + 1) t).exec env =
      ((constant t).elim (.error .malformed) .ok, env) :=
  evalText_constant (parse_digits digits)

theorem evalText_malformed {t : Text} (malformed : parse t = none) :
    (evalText nounset (depth + 1) t).exec env = (.error .malformed, env) := by
  rw [evalText, malformed]
  rfl

theorem evalExpr_var {sub : Text → ArithM ℤ} {name value : Text} (set : env name = some value) :
    (evalExpr nounset sub (.var name)).exec env = (sub value).exec env := by
  have read : (get : ArithM Env).exec env = (.ok env, env) := rfl
  rw [evalExpr, readVar, exec_bind_ok read, set]

variable {sub : Text → ArithM ℤ} {left right : Expr} {a b : ℤ} {op : BinOp}

/-- The left operand of an operator fails. -/
theorem evalExpr_binary_error {error : ArithError}
    (fails : (evalExpr nounset sub left).exec env = (.error error, env')) :
    (evalExpr nounset sub (.binary op left right)).exec env = (.error error, env') := by
  rw [evalExpr, exec_bind_error fails]

/-- The left operand of `&&` is `0`: the right one is not evaluated. -/
theorem evalExpr_land_zero (zero : (evalExpr nounset sub left).exec env = (.ok 0, env')) :
    (evalExpr nounset sub (.binary .land left right)).exec env = (.ok 0, env') := by
  rw [evalExpr, exec_bind_ok zero, if_pos ⟨rfl, rfl⟩, exec_pure]

/-- Both operands of an operator other than `&&` and `||` are evaluated. -/
theorem evalExpr_binary {env'' : Env} (strict : op ≠ .land ∧ op ≠ .lor)
    (first : (evalExpr nounset sub left).exec env = (.ok a, env'))
    (second : (evalExpr nounset sub right).exec env' = (.ok b, env'')) :
    (evalExpr nounset sub (.binary op left right)).exec env = (op.apply a b, env'') := by
  rw [evalExpr, exec_bind_ok first, if_neg (fun both => strict.1 both.1),
    if_neg (fun both => strict.2 both.1), exec_bind_ok second]
  cases op.apply a b <;> rfl

/-- The left operand of `&&` is not `0`: the right one decides. -/
theorem evalExpr_land {outcome : Except ArithError ℤ} {env'' : Env}
    (first : (evalExpr nounset sub left).exec env = (.ok a, env')) (nonzero : a ≠ 0)
    (second : (evalExpr nounset sub right).exec env' = (outcome, env'')) :
    (evalExpr nounset sub (.binary .land left right)).exec env =
      (outcome.map fun b => ofBool (b ≠ 0), env'') := by
  rw [evalExpr, exec_bind_ok first, if_neg (fun both => nonzero both.2),
    if_neg (fun both => absurd both.1 (by decide))]
  cases outcome with
  | error error => exact exec_bind_error second _
  | ok b =>
    rw [exec_bind_ok second]
    simp [BinOp.apply, nonzero]
    rfl

/-- **The status of `&&`** when its left side leaves the variables alone: that of the right side, if
the left one holds. -/
theorem status_land {first second : Except ArithError ℤ}
    (evalLeft : (evalExpr nounset sub left).exec env = (first, env))
    (evalRight : (evalExpr nounset sub right).exec env = (second, env)) :
    ∃ outcome, (evalExpr nounset sub (.binary .land left right)).exec env = (outcome, env) ∧
      status outcome = (status first).bind fun holds => if holds then status second else some false := by
  cases first with
  | error error =>
    refine ⟨_, evalExpr_binary_error evalLeft, ?_⟩
    cases error <;> rfl
  | ok a =>
    by_cases zero : a = 0
    · subst zero
      exact ⟨_, evalExpr_land_zero evalLeft, rfl⟩
    · refine ⟨_, evalExpr_land evalLeft zero evalRight, ?_⟩
      have holds : status (.ok a) = some true := congrArg some (decide_eq_true zero)
      rw [holds, Option.bind_some, if_pos rfl]
      cases second with
      | error error => cases error <;> rfl
      | ok b => by_cases none : b = 0 <;> simp [status, Except.map, ofBool, none]

@[simp] theorem evalExpr_const (value : ℤ) :
    (evalExpr nounset sub (.const value)).exec env = (.ok value, env) := rfl

end Exec

end Ndt.Shell
