import Mathlib.Data.List.TakeWhile
import Mathlib.Tactic.Common

/-!
# Decimal numbers in text

`stoi` is the function of the C++ library: it skips white space, takes a sign and as
many digits as follow, and ignores the rest.  A numeral that fits an `int` is read back
(`Numeral.stoi_eq`).
-/

namespace Lib

/-- The exceptions of `std::stoi`. -/
inductive StoiError where
  | invalidArgument
  | outOfRange
deriving DecidableEq, Repr

/-- `isspace`, in the locale of C. -/
def isSpace (c : Char) : Bool := c = ' ' || ('\t' ≤ c && c ≤ '\r')

/-- The number that digits spell. -/
def digitsValue (digits : List Char) : Nat :=
  digits.foldl (fun n c => 10 * n + (c.toNat - '0'.toNat)) 0

/-- Whether there is a minus sign, and what follows the sign. -/
def splitSign : List Char → Bool × List Char
  | '-' :: rest => (true, rest)
  | '+' :: rest => (false, rest)
  | rest => (false, rest)

/-- The number is an `int`. -/
def FitsInt (n : Int) : Prop := -2147483648 ≤ n ∧ n ≤ 2147483647

instance (n : Int) : Decidable (FitsInt n) := by
  unfold FitsInt
  infer_instance

/-- `std::stoi`. -/
def stoi (text : String) : Except StoiError Int :=
  let (negative, rest) := splitSign (text.toList.dropWhile isSpace)
  let digits := rest.takeWhile Char.isDigit
  if digits = [] then .error .invalidArgument
  else
    let n : Int := if negative then -(digitsValue digits : Int) else digitsValue digits
    if FitsInt n then .ok n else .error .outOfRange

/-- The text is a decimal numeral, with or without a minus sign. -/
inductive Decimal : String → Int → Prop
  | plain (digits : List Char) (some_digit : digits ≠ []) (all : ∀ c ∈ digits, c.isDigit = true)
      {text : String} (eq : text.toList = digits) : Decimal text (digitsValue digits)
  | minus (digits : List Char) (some_digit : digits ≠ []) (all : ∀ c ∈ digits, c.isDigit = true)
      {text : String} (eq : text.toList = '-' :: digits) : Decimal text (-(digitsValue digits))

/-- A digit is no sign and no white space. -/
theorem not_special_of_isDigit {c : Char} (h : c.isDigit = true) :
    isSpace c = false ∧ c ≠ '-' ∧ c ≠ '+' := by
  have big : '0' ≤ c := by
    simp only [Char.isDigit, Bool.and_eq_true, decide_eq_true_eq] at h
    exact h.1
  have apart : ∀ d : Char, d < '0' → c ≠ d := by
    rintro d small rfl
    exact absurd big (Char.not_le.mpr small)
  refine ⟨?_, apart '-' (by decide), apart '+' (by decide)⟩
  have past : ¬ c ≤ '\r' := fun le => absurd (Char.le_trans big le) (by decide)
  simp [isSpace, apart ' ' (by decide), past]

/-- Digits are neither skipped nor signs, and all of them are taken. -/
theorem digits_read {digits : List Char} (some_digit : digits ≠ [])
    (all : ∀ c ∈ digits, c.isDigit = true) :
    digits.dropWhile isSpace = digits ∧ splitSign digits = (false, digits) ∧
      digits.takeWhile Char.isDigit = digits := by
  refine ⟨?_, ?_, List.takeWhile_eq_self_iff.mpr all⟩
  · cases digits with
    | nil => rfl
    | cons c cs =>
        obtain ⟨no_space, -⟩ := not_special_of_isDigit (all c List.mem_cons_self)
        simp [no_space]
  · cases digits with
    | nil => rfl
    | cons c cs =>
        obtain ⟨-, no_minus, no_plus⟩ := not_special_of_isDigit (all c List.mem_cons_self)
        unfold splitSign
        split
        next h => cases h; exact absurd rfl no_minus
        next h => cases h; exact absurd rfl no_plus
        next => rfl

/-- A numeral is read back if it fits. -/
theorem stoi_decimal {text : String} {n : Int} (h : Decimal text n) :
    stoi text = if FitsInt n then .ok n else .error .outOfRange := by
  cases h with
  | plain digits some_digit all eq =>
      obtain ⟨skipped, signed, taken⟩ := digits_read some_digit all
      simp [stoi, eq, skipped, signed, taken, some_digit]
  | minus digits some_digit all eq =>
      obtain ⟨-, -, taken⟩ := digits_read some_digit all
      have skipped : ('-' :: digits).dropWhile isSpace = '-' :: digits := rfl
      simp [stoi, eq, skipped, splitSign, taken, some_digit]

theorem stoi_of_decimal {text : String} {n : Int} (h : Decimal text n) (fits : FitsInt n) :
    stoi text = .ok n := by
  rw [stoi_decimal h, if_pos fits]

/-- A numeral that is read fits. -/
theorem fits_of_stoi {text : String} {n m : Int} (h : Decimal text n) (read : stoi text = .ok m) :
    FitsInt n := by
  by_contra large
  rw [stoi_decimal h, if_neg large] at read
  cases read

/-- A decimal numeral that fits an `int`. -/
structure Numeral where
  text : String
  value : Int
  decimal : Decimal text value
  fits : FitsInt value

/-- A numeral is read back. -/
theorem Numeral.stoi_eq (n : Numeral) : stoi n.text = .ok n.value :=
  stoi_of_decimal n.decimal n.fits

example : stoi " -12abc" = .ok (-12) := by decide

end Lib
