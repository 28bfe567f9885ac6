/-!
# Double-precision numbers

A JSON number with a fraction or an exponent, and one too large for 64 bits, denotes a double.
Doubles are kept as exact numbers `± mantissa · 2 ^ exponent`, so reading and writing them is
arithmetic on `Nat`, rounded where an operation on doubles rounds.

* `nearest` is the double nearest to a quotient, and `ofDecimal` the one nearest to a decimal.
* `ofDigits` is the double that a decimal denotes: its digits, rounded, are multiplied or divided
  by a power of ten. Each step rounds, so what comes out can lie beside the nearest double.
* `shortest` finds the fewest decimal digits to which `x` is the nearest double, and `text` writes
  them.
-/

namespace SparkAdmission

/-- The least number of 53 bits. -/
def leastMantissa : Nat := 0x10000000000000

/--
Whether `mantissa · 2 ^ exponent` is a finite double in its one normal form: the mantissa has 53
bits, unless the exponent is the least one.
-/
def IsDouble (mantissa : Nat) (exponent : Int) : Prop :=
  mantissa < 2 * leastMantissa ∧ (leastMantissa ≤ mantissa ∨ exponent = -1074) ∧
    -1074 ≤ exponent ∧ exponent ≤ 971

instance (mantissa : Nat) (exponent : Int) : Decidable (IsDouble mantissa exponent) :=
  inferInstanceAs (Decidable (_ ∧ _))

/-- A finite double, `mantissa · 2 ^ exponent`, negated when `negative` holds. -/
structure Double where
  negative : Bool
  mantissa : Nat
  exponent : Int
  valid : IsDouble mantissa exponent
deriving DecidableEq

namespace Double

/-! ### Rounding -/

/-- The quotient rounded to the nearest natural number, a half going to the even neighbour. -/
def roundHalfEven (num den : Nat) : Nat :=
  let q := num / den
  let r := num % den
  if 2 * r < den || (2 * r == den && q % 2 == 0) then q else q + 1

/-- Numerator and denominator of `num / den · 2 ^ e`. -/
def scale (num den : Nat) (e : Int) : Nat × Nat :=
  if 0 ≤ e then (num * Nat.pow 2 e.toNat, den) else (num, den * Nat.pow 2 (-e).toNat)

/-- The exponent at which `num / den` has a 53-bit mantissa, or the least exponent there is. -/
def unitExponent (num den : Nat) : Int :=
  let e : Int := (num.log2 : Int) - (den.log2 : Int) - 52
  let (n, d) := scale num den (-e)
  max (if n < d * leastMantissa then e - 1 else e) (-1074)

/-- Zero, with its sign. -/
def zero (negative : Bool) : Double := ⟨negative, 0, -1074, by decide⟩

instance : Inhabited Double := ⟨zero false⟩

/-- The double nearest to `num / den`, or `none` when that quotient is beyond the largest double. -/
def nearest (negative : Bool) (num den : Nat) : Option Double :=
  if num = 0 then some (zero negative)
  else
    let e := unitExponent num den
    let (n, d) := scale num den (-e)
    let m := roundHalfEven n d
    let (m, e) := if m = 2 * leastMantissa then (leastMantissa, e + 1) else (m, e)
    if h : IsDouble m e then some ⟨negative, m, e, h⟩ else none

/-- The number of decimal digits, with one digit for zero. -/
def decimalLength (n : Nat) : Nat := (Nat.toDigits 10 n).length

/-- The decimal without zeros at the end of its digits. -/
def trimZeros (digits : Nat) (exponent : Int) : Nat × Int :=
  if h : digits ≠ 0 ∧ digits % 10 = 0 then trimZeros (digits / 10) (exponent + 1)
  else (digits, exponent)
termination_by digits
decreasing_by omega

/--
The double nearest to a decimal without zeros at its end. A number of more than 310 digits before
the point is beyond every double, and one that starts more than 330 places behind the point is
nearest to zero; neither power of ten is computed.
-/
def ofTrimmed (negative : Bool) (digits : Nat) (exponent : Int) : Option Double :=
  let magnitude : Int := decimalLength digits + exponent
  if digits = 0 || magnitude < -330 then some (zero negative)
  else if 310 < magnitude then none
  else if 0 ≤ exponent then nearest negative (digits * Nat.pow 10 exponent.toNat) 1
  else nearest negative digits (Nat.pow 10 (-exponent).toNat)

/-- The double nearest to `digits · 10 ^ exponent`. -/
def ofDecimal (negative : Bool) (digits : Nat) (exponent : Int) : Option Double :=
  let (digits, exponent) := trimZeros digits exponent
  ofTrimmed negative digits exponent

theorem trimZeros_mul_ten {digits : Nat} (h : digits ≠ 0) (exponent : Int) :
    trimZeros (digits * 10) exponent = trimZeros digits (exponent + 1) := by
  rw [trimZeros, dif_pos ⟨by omega, by omega⟩, Nat.mul_div_cancel _ (by decide)]

/-- The nearest double depends on the value of a decimal only. -/
theorem ofDecimal_mul_ten (negative : Bool) (digits : Nat) (exponent : Int) :
    ofDecimal negative (digits * 10) exponent = ofDecimal negative digits (exponent + 1) := by
  by_cases h : digits = 0
  · subst h
    simp [ofDecimal, trimZeros, ofTrimmed]
  · rw [ofDecimal, ofDecimal, trimZeros_mul_ten h]

/-! ### Digits and powers of ten -/

/-- The magnitude, as numerator and denominator. -/
def fraction (x : Double) : Nat × Nat := scale x.mantissa 1 x.exponent

/-- The double nearest to a product, or `none` when that is beyond the largest double. -/
def times (x y : Double) : Option Double :=
  let (a, b) := x.fraction
  let (c, d) := y.fraction
  nearest (x.negative != y.negative) (a * c) (b * d)

/-- The double nearest to a quotient, or `none` when that is beyond the largest double. -/
def quotient (x y : Double) : Option Double :=
  let (a, b) := x.fraction
  let (c, d) := y.fraction
  nearest (x.negative != y.negative) (a * d) (b * c)

/-- The greatest exponent of a power of ten within the doubles. -/
def greatestPower : Nat := 308

/-- The double nearest to `10 ^ k`, where that is within the doubles. -/
def powerOfTen (k : Nat) : Double := (nearest false (Nat.pow 10 k) 1).getD (zero false)

/--
The double moved by so many decimal places: a product with a power of ten, or a quotient by one. A
way down that is longer than the greatest power of ten is gone in several steps.
-/
def shift (x : Double) (places : Int) : Option Double :=
  if x.mantissa = 0 then some x
  else if greatestPower < places then none
  else if 0 ≤ places then x.times (powerOfTen places.toNat)
  else if -greatestPower ≤ places then x.quotient (powerOfTen (-places).toNat)
  else (x.quotient (powerOfTen greatestPower)).bind fun y => y.shift (places + greatestPower)
termination_by (-places).toNat
decreasing_by simp only [greatestPower] at *; omega

/-- The double that digits with an exponent of ten denote, or `none` beyond the largest double. -/
def ofDigits (negative : Bool) (digits : Nat) (exponent : Int) : Option Double :=
  (nearest negative digits 1).bind (·.shift exponent)

/-! ### The shortest decimal -/

/-- The magnitude divided by `10 ^ k`, as numerator and denominator. -/
def overPowerOfTen (x : Double) (k : Int) : Nat × Nat :=
  let (n, d) := x.fraction
  if 0 ≤ k then (n, d * Nat.pow 10 k.toNat) else (n * Nat.pow 10 (-k).toNat, d)

/--
The multiple of `10 ^ k` next to `x` to which `x` is the nearest double, the nearer one of two.
-/
def onGrid (x : Double) (k : Int) : Option Nat :=
  let (n, d) := x.overPowerOfTen k
  let low := n / d
  let stands (c : Nat) : Bool := ofDecimal x.negative c k == some x
  match stands low, stands (low + 1) with
  | true, true => some (roundHalfEven n d)
  | true, false => some low
  | false, true => some (low + 1)
  | false, false => none

/-- The exact decimal expansion. -/
def exact (x : Double) : Nat × Int :=
  if 0 ≤ x.exponent then (x.mantissa * Nat.pow 2 x.exponent.toNat, 0)
  else (x.mantissa * Nat.pow 5 (-x.exponent).toNat, x.exponent)

/-- The first hit on ever finer grids, `tries` of them, and the exact expansion if there is none. -/
def search (x : Double) : Nat → Int → Nat × Int
  | 0, _ => x.exact
  | tries + 1, k =>
    match x.onGrid k with
    | some c => (c, k)
    | none => search x tries (k - 1)

/-- The digits and the exponent of the shortest decimal to which `x` is the nearest double. -/
def shortest (x : Double) : Nat × Int :=
  let (n, d) := x.fraction
  let start : Int := if d ≤ n then decimalLength (n / d) else 2 - (decimalLength (d / n) : Int)
  x.search 20 start

/-- The magnitude has sixteen digits before the point at most, and five zeros behind it, in
positional notation; beyond, one digit stands before the point and an exponent follows. -/
def layout (digits : Nat) (exponent : Int) : List Char :=
  let ds := Nat.toDigits 10 digits
  let point : Int := ds.length + exponent
  if 0 ≤ exponent ∧ point ≤ 16 then ds ++ List.replicate exponent.toNat '0' ++ ['.', '0']
  else if 0 < point ∧ point ≤ 16 then ds.take point.toNat ++ '.' :: ds.drop point.toNat
  else if -5 < point ∧ point ≤ 0 then '0' :: '.' :: List.replicate (-point).toNat '0' ++ ds
  else
    let fraction := if ds.length = 1 then [] else '.' :: ds.drop 1
    ds.take 1 ++ fraction ++ 'e' :: (toString (point - 1)).toList

/-- The written form: always with a point or an exponent, so that it is no whole number. -/
def text (x : Double) : List Char :=
  let (digits, exponent) := x.shortest
  let magnitude := if x.mantissa = 0 then ['0', '.', '0'] else layout digits exponent
  if x.negative then '-' :: magnitude else magnitude

end Double

end SparkAdmission
