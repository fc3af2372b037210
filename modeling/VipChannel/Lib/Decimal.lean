/-
  VipChannel.Lib.Decimal

  Python's `decimal.Decimal` under the default context: 28 significant digits,
  half-even rounding, exponents within ±999999, and traps on InvalidOperation
  and Overflow.  A finite number is a sign, a coefficient and an exponent, so there
  are zeros of either sign and of every exponent.

  The constructor (`ofString?`) is exact.  Arithmetic rounds, and reports a
  trapped signal instead of a value.
-/
import VipChannel.Lib.Text

namespace VipChannel.Lib

/-- A `Decimal`. -/
inductive Decimal where
  | finite (negative : Bool) (coeff : Nat) (exp : Int)
  | infinity (negative : Bool)
  | nan (signaling : Bool)
  deriving DecidableEq

/-- The trapped signals that arithmetic on `Decimal` can raise. -/
inductive DecimalSignal where
  | invalidOperation
  | overflow
  deriving DecidableEq

namespace Decimal

def PREC : Nat := 28

def EMAX : Int := 999999

/-- The smallest exponent a subnormal result keeps. -/
def ETINY : Int := -1000026

/-- Exponent bounds of the constructor. -/
def MAX_EMAX : Int := 999999999999999999

def MIN_ETINY : Int := -1999999999999999997

def zero : Decimal := .finite false 0 0

/-- `Decimal(n)` for an integer. -/
def ofInt (n : Int) : Decimal := .finite (decide (n < 0)) n.natAbs 0

/-- A coefficient with its sign. -/
def signed (negative : Bool) (coeff : Nat) : Int :=
  if negative then -coeff else coeff

/-- How many decimal digits a coefficient has. -/
def numDigits (n : Nat) : Nat :=
  if n = 0 then 1 else Nat.log 10 n + 1

/-- `c / d` rounded half to even. -/
def roundHalfEven (c d : Nat) : Nat :=
  let q := c / d
  let r := c % d
  if 2 * r < d then q
  else if 2 * r = d then (if q % 2 = 0 then q else q + 1)
  else q + 1

/-- Round an exact result to the context. -/
def fix (negative : Bool) (coeff : Nat) (exp : Int) : Except DecimalSignal Decimal :=
  if coeff = 0 then
    .ok (.finite negative 0 (max ETINY (min exp EMAX)))
  else
    let target := max (exp + numDigits coeff - PREC) ETINY
    if target ≤ exp then
      if EMAX < exp + numDigits coeff - 1 then .error .overflow
      else .ok (.finite negative coeff exp)
    else
      let c := roundHalfEven coeff (10 ^ (target - exp).toNat)
      -- Rounding 99…9 up gains a digit, which is then dropped again.
      let (c, e) := if PREC < numDigits c then (c / 10, target + 1) else (c, target)
      if EMAX < e + numDigits c - 1 then .error .overflow else .ok (.finite negative c e)

/-- The signed coefficient of a finite number written at a smaller exponent. -/
def scaled (negative : Bool) (coeff : Nat) (exp e : Int) : Int :=
  signed negative coeff * 10 ^ (exp - e).toNat

/-- `a + b`.  A zero sum is negative only when both operands are. -/
def add : Decimal → Decimal → Except DecimalSignal Decimal
  | .nan true, _ | _, .nan true => .error .invalidOperation
  | .nan false, _ | _, .nan false => .ok (.nan false)
  | .infinity s, .infinity t =>
    if s = t then .ok (.infinity s) else .error .invalidOperation
  | .infinity s, .finite .. | .finite .., .infinity s => .ok (.infinity s)
  | .finite s c e, .finite s' c' e' =>
    let sum := scaled s c e (min e e') + scaled s' c' e' (min e e')
    fix (if sum = 0 then s && s' else decide (sum < 0)) sum.natAbs (min e e')

/-- `a.copy_negate()`. -/
def neg : Decimal → Decimal
  | .finite s c e => .finite (!s) c e
  | .infinity s => .infinity !s
  | .nan s => .nan s

/-- `a - b`. -/
def sub (a b : Decimal) : Except DecimalSignal Decimal :=
  add a (neg b)

/-- `a < b`; an ordering comparison with a NaN signals. -/
def lt : Decimal → Decimal → Except DecimalSignal Bool
  | .nan _, _ | _, .nan _ => .error .invalidOperation
  | .infinity s, .infinity t => .ok (s && !t)
  | .infinity s, .finite .. => .ok s
  | .finite .., .infinity t => .ok (!t)
  | .finite s c e, .finite s' c' e' =>
    .ok (decide (scaled s c e (min e e') < scaled s' c' e' (min e e')))

/-- `bool(d)`. -/
def truthy : Decimal → Bool
  | .finite _ c _ => c ≠ 0
  | _ => true

/-- `d.quantize(Decimal(1).scaleb(-places), rounding=ROUND_CEILING)`: a dropped part
    counts away from zero for a positive number and towards it for a negative one. -/
def quantizeCeiling (places : Nat) : Decimal → Except DecimalSignal Decimal
  | .nan true | .infinity _ => .error .invalidOperation
  | .nan false => .ok (.nan false)
  | .finite s c e =>
    let unit := 10 ^ (-(places : Int) - e).toNat
    let q := if -(places : Int) ≤ e then c * 10 ^ (e + places).toNat
      else if s then c / unit
      else (c + unit - 1) / unit
    if PREC < numDigits q then .error .invalidOperation else .ok (.finite s q (-places))

/-- A coefficient without its trailing zeros, at most `n` of them, each moved to the
    exponent. -/
def stripZeros : Nat → Nat → Int → Nat × Int
  | 0, c, e => (c, e)
  | n + 1, c, e => if c % 10 = 0 then stripZeros n (c / 10) (e + 1) else (c, e)

/-- `d.normalize()` of a number of the context's precision. -/
def normalize : Decimal → Decimal
  | .finite s c e =>
    if c = 0 then .finite s 0 0
    else
      let (c, e) := stripZeros (numDigits c) c e
      .finite s c e
  | d => d

/-- `str(d)`. -/
def text : Decimal → String
  | .infinity negative => if negative then "-Infinity" else "Infinity"
  | .nan signaling => if signaling then "sNaN" else "NaN"
  | .finite negative c e =>
    let digits := (toString c).toList
    let left : Int := e + digits.length
    -- No exponent is written for an integer or a number that is not too small.
    let point : Int := if e ≤ 0 ∧ -6 < left then left else 1
    let mantissa :=
      if point ≤ 0 then "0." ++ String.ofList (List.replicate (-point).toNat '0' ++ digits)
      else if digits.length ≤ point then
        String.ofList (digits ++ List.replicate (point - digits.length).toNat '0')
      else
        String.ofList (digits.take point.toNat) ++ "." ++
          String.ofList (digits.drop point.toNat)
    let exponent :=
      if left = point then ""
      else if point < left then "E+" ++ toString (left - point)
      else "E" ++ toString (left - point)
    (if negative then "-" else "") ++ mantissa ++ exponent

/-- A finite number within the constructor's exponent bounds. -/
def construct? (negative : Bool) (coeff : Nat) (exp : Int) : Option Decimal :=
  if MAX_EMAX < exp + numDigits coeff - 1 ∨ exp < MIN_ETINY then none
  else some (.finite negative coeff exp)

/-- `[eE][+-]?digits`, or nothing. -/
def exponent? : List Char → Option Int
  | [] => some 0
  | c :: s =>
    if c = 'e' ∨ c = 'E' then
      match s with
      | '+' :: ds => if ds ≠ [] ∧ ds.all isDecimalDigit then some (digitsValue ds) else none
      | '-' :: ds => if ds ≠ [] ∧ ds.all isDecimalDigit then some (-digitsValue ds) else none
      | ds => if ds ≠ [] ∧ ds.all isDecimalDigit then some (digitsValue ds) else none
    else
      none

/-- Digits with at most one point, then an exponent. -/
def number? (negative : Bool) (s : List Char) : Option Decimal :=
  let whole := s.takeWhile isDecimalDigit
  let rest := s.dropWhile isDecimalDigit
  let (frac, rest) := match rest with
    | '.' :: rest => (rest.takeWhile isDecimalDigit, rest.dropWhile isDecimalDigit)
    | rest => ([], rest)
  if whole = [] ∧ frac = [] then none
  else do
    let e ← exponent? rest
    construct? negative (digitsValue (whole ++ frac)) (e - frac.length)

/-- The part after the sign: a number, an infinity or a NaN. -/
def unsigned? (negative : Bool) (s : List Char) : Option Decimal :=
  let lower := s.map Char.toLower
  if lower = "inf".toList ∨ lower = "infinity".toList then some (.infinity negative)
  else if lower.take 3 = "nan".toList then
    if (s.drop 3).all isDecimalDigit then some (.nan false) else none
  else if lower.take 4 = "snan".toList then
    if (s.drop 4).all isDecimalDigit then some (.nan true) else none
  else number? negative s

/-- `Decimal(text)`; `none` is the InvalidOperation of a text that is no number.
    Surrounding white space and underscores are ignored. -/
def ofString? (text : String) : Option Decimal :=
  match (strip text.toList).filter (· ≠ '_') with
  | '+' :: s => unsigned? false s
  | '-' :: s => unsigned? true s
  | s => unsigned? false s

example : (normalize (.finite false 30000 (-2))).text = "3E+2" := by decide +kernel
example : ofString? "100.10" = some (.finite false 10010 (-2)) := by decide +kernel
example : ofString? "-0" = some (.finite true 0 0) := by decide +kernel
example : ofString? "1e3" = some (.finite false 1 3) := by decide +kernel
example : ofString? "n/a" = none := by decide +kernel

end Decimal

end VipChannel.Lib
