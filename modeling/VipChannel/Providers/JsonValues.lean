/-
  VipChannel.Providers.JsonValues

  What Python does with a decoded JSON value that it has not checked: `int`, `.get` and
  subscription, on values that may be no numbers and no dicts.
-/
import VipChannel.Errors
import VipChannel.Lib.Json
import VipChannel.Lib.Text

namespace VipChannel

open Lib

/-- An error of Python's own operations on a value. -/
def PyError.FromPython (e : PyError) : Prop :=
  e.cls = .attributeError ∨ e.cls = .keyError ∨ e.cls = .typeError ∨ e.cls = .valueError ∨
    e.cls = .overflowError

/-! ## Python's `int` -/

/-- White space around a numeral: an ASCII string is stripped of ASCII blanks only. -/
def blanksOf (s : List Char) : Char → Bool :=
  if s.all fun c => c.toNat < 128 then
    fun c => (0x09 ≤ c.toNat && c.toNat ≤ 0x0D) || c == ' '
  else isSpace

/-- A sign and what follows it. -/
def splitSign : List Char → Bool × List Char
  | '-' :: rest => (true, rest)
  | '+' :: rest => (false, rest)
  | rest => (false, rest)

/-- Digits, with single underscores between them; `after` says that a digit came before. -/
def spacedDigits : Bool → List Char → Bool
  | after, [] => after
  | after, '_' :: rest => after && !rest.isEmpty && spacedDigits false rest
  | _, c :: rest => isDecimalDigit c && spacedDigits true rest

/-- `sys.get_int_max_str_digits()`. -/
def MAX_STR_DIGITS : Nat := 4300

/-- `int(text)`. -/
def intOfText? (text : String) : Option Int :=
  let s := text.toList
  let stripped := ((s.dropWhile (blanksOf s)).reverse.dropWhile (blanksOf s)).reverse
  let (negative, digits) := splitSign stripped
  if spacedDigits false digits && (digits.filter (· ≠ '_')).length ≤ MAX_STR_DIGITS then
    some (Decimal.signed negative (digitsValue (digits.filter (· ≠ '_'))))
  else none

/-- `int(x)` of a finite float, given as it prints: the printed numeral is within rounding of
    the float, which from 2⁵³ on is a multiple of a power of two. -/
def truncate (coeff : Nat) (exp : Int) : Nat :=
  let n := if 0 ≤ exp then coeff * 10 ^ exp.toNat else coeff / 10 ^ (-exp).toNat
  if n < 2 ^ 53 then n
  else
    let unit := 2 ^ (Nat.log 2 n - 52)
    Decimal.roundHalfEven n unit * unit

/-- `type(value).__name__`. -/
def Lib.Json.typeName : Json → String
  | .null => "NoneType"
  | .bool _ => "bool"
  | .int _ => "int"
  | .float _ => "float"
  | .str _ => "str"
  | .arr _ => "list"
  | .obj _ => "dict"

/-- `int(value)`. -/
def intOf : Json → Except PyError Int
  | .int n => .ok n
  | .bool b => .ok (if b then 1 else 0)
  | .float (.finite negative coeff exp) => .ok (Decimal.signed negative (truncate coeff exp))
  | .float (.infinity _) => .error ⟨.overflowError, "cannot convert float infinity to integer"⟩
  | .float (.nan _) => .error ⟨.valueError, "cannot convert float NaN to integer"⟩
  | .str s =>
    match intOfText? s with
    | some n => .ok n
    | none => .error ⟨.valueError, "invalid literal for int() with base 10: " ++ s⟩
  | v => .error ⟨.typeError, "int() argument must be a string, a bytes-like object or a real " ++
      "number, not '" ++ v.typeName ++ "'"⟩

/-- The values `int` takes: numbers that are finite, and strings that spell an integer. -/
def Numeric : Json → Prop
  | .int _ | .bool _ => True
  | .float d => ∃ negative coeff exp, d = .finite negative coeff exp
  | .str s => (intOfText? s).isSome = true
  | .null | .arr _ | .obj _ => False

theorem intOf_isOk_iff {v : Json} : (∃ n, intOf v = .ok n) ↔ Numeric v := by
  cases v with
  | int n => exact iff_of_true ⟨_, rfl⟩ trivial
  | bool b => exact iff_of_true ⟨_, rfl⟩ trivial
  | float d =>
    cases d with
    | finite negative coeff exp => exact iff_of_true ⟨_, rfl⟩ ⟨_, _, _, rfl⟩
    | infinity | nan => simp [intOf, Numeric]
  | str s =>
    cases htext : intOfText? s with
    | none => simp [intOf, Numeric, htext]
    | some n => simp [intOf, Numeric, htext]
  | null | arr | obj => simp [intOf, Numeric]

theorem intOf_error {v : Json} {e : PyError} (h : intOf v = .error e) : e.FromPython := by
  cases v with
  | int n => cases h
  | bool b => cases h
  | float d =>
    cases d with
    | finite negative coeff exp => cases h
    | infinity | nan =>
      cases h
      simp [PyError.FromPython]
  | str s =>
    simp only [intOf] at h
    split at h
    · cases h
    · cases h
      simp [PyError.FromPython]
  | null | arr | obj =>
    cases h
    simp [PyError.FromPython]

/-! ## Dicts -/

/-- The dict that `.get` is called on. -/
def dictOf : Json → Except PyError (List (String × Json))
  | .obj fields => .ok fields
  | v => .error ⟨.attributeError, "'" ++ v.typeName ++ "' object has no attribute 'get'"⟩

theorem dictOf_eq_ok_iff {v : Json} {fields : List (String × Json)} :
    dictOf v = .ok fields ↔ v = .obj fields := by
  cases v <;> simp [dictOf]

/-- `value[key]`. -/
def subscript (key : String) : Json → Except PyError Json
  | .obj fields =>
    match fields.find? fun f => f.1 == key with
    | some (_, value) => .ok value
    | none => .error ⟨.keyError, "'" ++ key ++ "'"⟩
  | .str _ => .error ⟨.typeError, "string indices must be integers, not 'str'"⟩
  | .arr _ => .error ⟨.typeError, "list indices must be integers or slices, not str"⟩
  | v => .error ⟨.typeError, "'" ++ v.typeName ++ "' object is not subscriptable"⟩

theorem subscript_error {key : String} {v : Json} {e : PyError}
    (h : subscript key v = .error e) : e.FromPython := by
  cases v with
  | obj fields =>
    simp only [subscript] at h
    split at h
    · cases h
    · cases h
      simp [PyError.FromPython]
  | null | bool | int | float | str | arr =>
    cases h
    simp [PyError.FromPython]

/-- A number under the key: there is such a key, and `int` takes what it leads to. -/
theorem numeric_get_iff {key : String} {fields : List (String × Json)} :
    (∃ n, (subscript key (.obj fields) >>= intOf) = .ok n) ↔ Numeric (Json.get fields key) := by
  rw [← intOf_isOk_iff]
  cases hfind : fields.find? fun f => f.1 == key with
  | none => simp [subscript, Json.get, hfind, bind, Except.bind, intOf]
  | some f => simp [subscript, Json.get, hfind, bind, Except.bind]

end VipChannel
