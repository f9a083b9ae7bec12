/-
**Numerals of shell arithmetic.**

* `wrap` — 64-bit two's complement: every result of shell arithmetic goes through it.
* `decimal`, `showInt` — a number as `$((...))` and `%d` print it.
* `constant` — the value of an integer constant: a leading `0` means octal, `0x` hexadecimal,
  `base#digits` any base from 2 to 64; there is no check for overflow.

`constant_decimal` and `constant_octal` give the two readings of a digit string: without a leading
`0` it is its decimal value modulo `2 ^ 64`; with one it is its octal value, or no constant at all.
-/

import Ndt.Shell.Text

namespace Ndt.Shell

/-! ### Two's complement -/

/-- The 64-bit two's complement value of an integer. -/
def wrap (n : ℤ) : ℤ := n.bmod (2 ^ 64)

/-- The largest value of shell arithmetic. -/
def intMax : ℤ := 2 ^ 63 - 1

/-- The value fits in 64 bits. -/
def InRange (n : ℤ) : Prop := -(2 ^ 63) ≤ n ∧ n ≤ intMax

instance (n : ℤ) : Decidable (InRange n) := inferInstanceAs (Decidable (_ ∧ _))

theorem wrap_range (n : ℤ) : InRange (wrap n) := by
  have low := Int.le_bmod (x := n) (m := 2 ^ 64) (by norm_num)
  have high := Int.bmod_lt (x := n) (m := 2 ^ 64) (by norm_num)
  unfold InRange wrap intMax
  norm_num at low high ⊢
  omega

theorem wrap_of_range {n : ℤ} (fits : InRange n) : wrap n = n := by
  unfold InRange intMax at fits
  refine Int.bmod_eq_of_le ?_ ?_ <;> norm_num <;> omega

theorem wrap_mul_add (n m k : ℤ) : wrap (wrap n * m + k) = wrap (n * m + k) := by
  unfold wrap
  rw [Int.add_bmod, Int.bmod_mul_bmod, ← Int.add_bmod]

theorem wrap_add (n k : ℤ) : wrap (wrap n + k) = wrap (n + k) := by
  have product := wrap_mul_add n 1 k
  rwa [mul_one, mul_one] at product

theorem wrap_natCast {n : ℕ} (small : n < 2 ^ 63) : wrap (n : ℤ) = n :=
  wrap_of_range ⟨by omega, by unfold intMax; omega⟩

/-! ### Printing -/

/-- A natural number in decimal, without leading zeros. -/
def decimal (n : ℕ) : Text := Nat.toDigits 10 n

/-- An integer in decimal. -/
def showInt : ℤ → Text
  | .ofNat n => decimal n
  | .negSucc n => '-' :: decimal (n + 1)

/-- The value of a digit string in base ten. -/
def decimalValue (t : Text) : ℕ := Nat.ofDigitChars 10 t 0

@[simp] theorem decimalValue_decimal (n : ℕ) : decimalValue (decimal n) = n :=
  Nat.ofDigitChars_ten_toDigits

@[simp] theorem showInt_natCast (n : ℕ) : showInt n = decimal n := rfl

theorem decimal_ne_nil (n : ℕ) : decimal n ≠ [] := Nat.toDigits_ne_nil

theorem isDigit_of_mem_decimal {n : ℕ} {c : Char} (member : c ∈ decimal n) : c.isDigit = true :=
  Nat.isDigit_of_mem_toDigits (by norm_num) (by norm_num) member

theorem digits_decimal (n : ℕ) : Digits (decimal n) := fun _ member => isDigit_of_mem_decimal member

theorem isNumeral_decimal (n : ℕ) : isNumeral (decimal n) = true :=
  isNumeral_iff.mpr ⟨decimal_ne_nil n, digits_decimal n⟩

theorem solid_showInt (n : ℤ) : Solid (showInt n) := by
  cases n with
  | ofNat n => exact (digits_decimal n).solid
  | negSucc n =>
    intro c member
    rcases List.mem_cons.mp member with rfl | digit
    · rfl
    · exact (digits_decimal (n + 1)).solid c digit

theorem plain_showInt (n : ℤ) : Plain (showInt n) := by
  cases n with
  | ofNat n => exact (digits_decimal n).plain
  | negSucc n =>
    intro c member
    rcases List.mem_cons.mp member with rfl | digit
    · rfl
    · exact (digits_decimal (n + 1)).plain c digit

theorem decimalValue_append (front back : Text) :
    decimalValue (front ++ back) = 10 ^ back.length * decimalValue front + decimalValue back := by
  rw [decimalValue, Nat.ofDigitChars_append, Nat.ofDigitChars_eq_ofDigitChars_zero]
  rfl

/-- A canonical numeral starts with `0` only if it is `0`. -/
theorem decimal_of_head_zero {n : ℕ} {rest : Text} (zero : decimal n = '0' :: rest) :
    n = 0 ∧ rest = [] := by
  induction n using Nat.strong_induction_on generalizing rest with
  | _ n ih =>
    by_cases small : n < 10
    · rw [decimal, Nat.toDigits_of_lt_base small] at zero
      have head := (List.cons.inj zero).1
      refine ⟨?_, (List.cons.inj zero).2.symm⟩
      interval_cases n <;> first | rfl | exact absurd head (by decide)
    · rw [decimal, Nat.toDigits_of_base_le (by norm_num) (by omega)] at zero
      cases front : Nat.toDigits 10 (n / 10) with
      | nil => exact absurd front Nat.toDigits_ne_nil
      | cons c later =>
        rw [front, List.cons_append] at zero
        obtain ⟨rfl, _⟩ := List.cons.inj zero
        have smaller := ih (n / 10) (by omega) front
        omega

/-! ### Integer constants -/

/-- The characters of an integer constant after its first digit. -/
def isConstantChar (c : Char) : Bool := c.isAlphanum || c = '#' || c = '@' || c = '_'

/-- The value of a digit in a base, if the character is one. -/
def digitValue (base : ℤ) (c : Char) : Option ℤ :=
  if c.isDigit then some (c.toNat - '0'.toNat)
  else if c.isLower then some (c.toNat - 'a'.toNat + 10)
  else if c.isUpper then some (c.toNat - 'A'.toNat + if base ≤ 36 then 10 else 36)
  else if c = '@' then some 62
  else if c = '_' then some 63
  else none

/-- The digits of a constant, read after `value`. `none`: a digit is too great for the base. -/
def digitsFrom (base value : ℤ) : Text → Option ℤ
  | [] => some value
  | c :: rest => do
    let digit ← digitValue base c
    if digit < base then digitsFrom base (wrap (value * base + digit)) rest else none

/-- The value of an integer constant; `none` if it is invalid. -/
def constant : Text → Option ℤ
  | '0' :: 'x' :: rest => digitsFrom 16 0 rest
  | '0' :: 'X' :: rest => digitsFrom 16 0 rest
  | '0' :: rest => digitsFrom 8 0 rest
  | t =>
    match t.dropWhile (· ≠ '#') with
    | [] => digitsFrom 10 0 t
    | _ :: digits => do
      let base ← digitsFrom 10 0 (t.takeWhile (· ≠ '#'))
      if 2 ≤ base ∧ base ≤ 64 ∧ digits ≠ [] then digitsFrom base 0 digits else none

theorem digitValue_of_isDigit (base : ℤ) {c : Char} (digit : c.isDigit = true) :
    digitValue base c = some ((c.toNat - '0'.toNat : ℕ) : ℤ) := by
  have low : '0'.toNat ≤ c.toNat := by
    simp only [Char.isDigit, Bool.and_eq_true, decide_eq_true_eq] at digit
    exact digit.1
  rw [digitValue, if_pos digit, Nat.cast_sub low]

/-- **Digits below the base**: the value is the positional value modulo `2 ^ 64`. -/
theorem digitsFrom_eq (base : ℕ) (digits : Text) (all : Digits digits)
    (below : ∀ c ∈ digits, c.toNat - '0'.toNat < base) (value : ℕ) :
    digitsFrom base (wrap value) digits = some (wrap (Nat.ofDigitChars base digits value)) := by
  induction digits generalizing value with
  | nil => rfl
  | cons c rest ih =>
    have small : ((c.toNat - '0'.toNat : ℕ) : ℤ) < base := by
      exact_mod_cast below c List.mem_cons_self
    have step : wrap (wrap value * base + ((c.toNat - '0'.toNat : ℕ) : ℤ)) =
        wrap ((base * value + (c.toNat - '0'.toNat) : ℕ) : ℤ) := by
      rw [wrap_mul_add]
      push_cast
      rw [mul_comm (value : ℤ)]
    rw [digitsFrom, digitValue_of_isDigit _ (all c List.mem_cons_self), Option.bind_eq_bind,
      Option.bind_some, if_pos small, step, ih (fun d member => all d (List.mem_cons_of_mem _ member))
        (fun d member => below d (List.mem_cons_of_mem _ member)), Nat.ofDigitChars_cons]

/-- **A digit too great for the base** makes the constant invalid. -/
theorem digitsFrom_eq_none (base : ℕ) (digits : Text) (all : Digits digits)
    (great : ∃ c ∈ digits, base ≤ c.toNat - '0'.toNat) (value : ℤ) :
    digitsFrom base value digits = none := by
  induction digits generalizing value with
  | nil => simp at great
  | cons c rest ih =>
    rw [digitsFrom, digitValue_of_isDigit _ (all c List.mem_cons_self), Option.bind_eq_bind,
      Option.bind_some]
    split
    · rename_i small
      obtain ⟨d, member, tooGreat⟩ := great
      rcases List.mem_cons.mp member with rfl | later
      · exact absurd small (by push_cast; omega)
      · exact ih (fun e inside => all e (List.mem_cons_of_mem _ inside)) ⟨d, later, tooGreat⟩ _
    · rfl

theorem isDigit_bound {c : Char} (digit : c.isDigit = true) : c.toNat - '0'.toNat < 10 := by
  simp only [Char.isDigit, Bool.and_eq_true, decide_eq_true_eq] at digit
  have high : c.toNat ≤ '9'.toNat := digit.2
  have nine : '9'.toNat = 57 := rfl
  have zero : '0'.toNat = 48 := rfl
  omega

theorem not_hash_of_isDigit {c : Char} (digit : c.isDigit = true) : c ≠ '#' := by
  rintro rfl
  exact absurd digit (by decide)

/-- **A digit string without a leading zero** is its decimal value modulo `2 ^ 64`. -/
theorem constant_decimal {t : Text} (all : Digits t) (canonical : t.head? ≠ some '0') :
    constant t = some (wrap (decimalValue t)) := by
  have value : digitsFrom 10 0 t = some (wrap (decimalValue t)) :=
    digitsFrom_eq 10 t all (fun c member => isDigit_bound (all c member)) 0
  have noBase : t.dropWhile (· ≠ '#') = [] := by
    rw [List.dropWhile_eq_nil_iff]
    intro c member
    exact decide_eq_true (not_hash_of_isDigit (all c member))
  unfold constant
  split
  · exact absurd rfl canonical
  · exact absurd rfl canonical
  · exact absurd rfl canonical
  · rw [noBase]
    exact value

/-- **A digit string with a leading zero** is read in base eight. -/
theorem constant_zero {rest : Text} (all : Digits rest) :
    constant ('0' :: rest) = digitsFrom 8 0 rest := by
  cases rest with
  | nil => rfl
  | cons c rest =>
    have digit := all c List.mem_cons_self
    unfold constant
    split
    · rename_i equal
      cases equal
      exact absurd digit (by decide)
    · rename_i equal
      cases equal
      exact absurd digit (by decide)
    · rename_i equal
      rw [(List.cons.inj equal).2]
    · rename_i no
      exact absurd rfl (no _)

/-- A leading zero and octal digits: the octal value modulo `2 ^ 64`. -/
theorem constant_octal {rest : Text} (all : Digits rest)
    (octal : ∀ c ∈ rest, c.toNat - '0'.toNat < 8) :
    constant ('0' :: rest) = some (wrap (Nat.ofDigitChars 8 rest 0)) := by
  rw [constant_zero all]
  exact digitsFrom_eq 8 rest all octal 0

/-- A leading zero and a digit `8` or `9`: no constant. -/
theorem constant_octal_invalid {rest : Text} (all : Digits rest)
    (great : ∃ c ∈ rest, 8 ≤ c.toNat - '0'.toNat) : constant ('0' :: rest) = none := by
  rw [constant_zero all]
  exact digitsFrom_eq_none 8 rest all great 0

/-- **`10#` in front of a digit string**: its decimal value, whatever its leading zeros. -/
theorem constant_base_ten {t : Text} (numeral : isNumeral t = true) :
    constant ("10#".toList ++ t) = some (wrap (decimalValue t)) := by
  obtain ⟨nonempty, all⟩ := isNumeral_iff.mp numeral
  have value : digitsFrom 10 0 t = some (wrap (decimalValue t)) :=
    digitsFrom_eq 10 t all (fun c member => isDigit_bound (all c member)) 0
  show (if (2 : ℤ) ≤ 10 ∧ (10 : ℤ) ≤ 64 ∧ t ≠ [] then digitsFrom 10 0 t else none) = _
  rw [if_pos ⟨by decide, by decide, nonempty⟩, value]

/-- The constant of a digit string is a 64-bit value. -/
theorem constant_range {t : Text} (all : Digits t) {value : ℤ} (stated : constant t = some value) :
    InRange value := by
  by_cases zero : t.head? = some '0'
  · cases t with
    | nil => cases zero
    | cons c rest =>
      obtain rfl := Option.some.inj zero
      have later : Digits rest := fun d member => all d (List.mem_cons_of_mem _ member)
      by_cases octal : ∀ d ∈ rest, d.toNat - '0'.toNat < 8
      · rw [constant_octal later octal] at stated
        rw [← Option.some.inj stated]
        exact wrap_range _
      · push Not at octal
        rw [constant_octal_invalid later octal] at stated
        cases stated
  · rw [constant_decimal all zero] at stated
    rw [← Option.some.inj stated]
    exact wrap_range _

/-- **A printed number is read back modulo `2 ^ 64`.** -/
theorem constant_of_decimal (n : ℕ) : constant (decimal n) = some (wrap n) := by
  by_cases canonical : (decimal n).head? = some '0'
  · cases shape : decimal n with
    | nil => exact absurd shape (decimal_ne_nil n)
    | cons c rest =>
      rw [shape] at canonical
      obtain rfl := Option.some.inj canonical
      obtain ⟨rfl, rfl⟩ := decimal_of_head_zero shape
      rfl
  · rw [constant_decimal (digits_decimal n) canonical, decimalValue_decimal]

end Ndt.Shell
