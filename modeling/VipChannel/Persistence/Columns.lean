/-
  VipChannel.Persistence.Columns

  What the columns keep of what they are sent (adapters/persistence/models): `Numeric(30, 8)`
  rounds, `String(n)` drops blanks that are too many, and a value that a column has no room
  for fails the statement; the session learns of it when it flushes.
-/
import VipChannel.Errors
import VipChannel.Lib.Numeric

namespace VipChannel

open Lib

def numericFieldOverflow : PyError := ⟨.databaseError, "numeric field overflow"⟩

/-- What a column `Numeric(30, 8)` keeps of a number. -/
def numericColumn (d : Decimal) : Except PyError Decimal :=
  match d.toNumeric? 30 8 with
  | some kept => .ok kept
  | none => .error numericFieldOverflow

example : numericColumn (.finite false 1 (-9)) = .ok (.finite false 0 (-8)) := by decide +kernel
example : numericColumn (.finite false 5 (-9)) = .ok (.finite false 1 (-8)) := by decide +kernel
example : numericColumn (.finite false 1 22) = .error numericFieldOverflow := by decide +kernel

section NumericColumn

variable {d kept : Decimal}

theorem numericColumn_of_fits (h : d.Fits 30 8) :
    ∃ kept, numericColumn d = .ok kept ∧ kept.value = d.value := by
  obtain ⟨kept, hkept, hvalue⟩ := Decimal.toNumeric?_of_fits h
  refine ⟨kept, ?_, hvalue⟩
  unfold numericColumn
  rw [hkept]

theorem fits_of_numericColumn (h : numericColumn d = .ok kept) (hvalue : kept.value = d.value)
    (hfinite : d.value.isSome = true) : d.Fits 30 8 := by
  obtain ⟨q, hq⟩ := Option.isSome_iff_exists.mp hfinite
  unfold numericColumn at h
  split at h
  · next hkept =>
    cases h
    obtain ⟨q', hq', hfits⟩ := Decimal.fits_of_toNumeric? hkept (hvalue.trans hq)
    exact ⟨q', hvalue ▸ hq', hfits⟩
  · cases h

end NumericColumn

/-! ## Integers -/

/-- The integers of `bits` bits. -/
def HasBits (bits : Nat) (n : Int) : Prop :=
  -2 ^ (bits - 1) ≤ n ∧ n < 2 ^ (bits - 1)

instance (bits : Nat) (n : Int) : Decidable (HasBits bits n) :=
  inferInstanceAs (Decidable (_ ∧ _))

def integerOutOfRange : PyError := ⟨.databaseError, "integer out of range"⟩

/-- What a column `Integer` (32 bits) or `BigInteger` (64 bits) keeps of a number. -/
def integerColumn (bits : Nat) (n : Int) : Except PyError Int :=
  if HasBits bits n then .ok n else .error integerOutOfRange

theorem integerColumn_eq_ok {bits : Nat} {n kept : Int} :
    integerColumn bits n = .ok kept ↔ HasBits bits n ∧ kept = n := by
  unfold integerColumn
  split
  · next h => simp [h, eq_comm]
  · next h => simp [h]

/-! ## Texts -/

/-- PostgreSQL's texts have no NUL, and what `String(limit)` is sent beyond its limit must
    be blanks. -/
def HasRoom (limit : Nat) (text : String) : Prop :=
  '\x00' ∉ text.toList ∧ ∀ c ∈ text.toList.drop limit, c = ' '

theorem hasRoom_of_le {limit : Nat} {text : String} (h : text.length ≤ limit) :
    HasRoom limit text ↔ '\x00' ∉ text.toList := by
  have hnil : text.toList.drop limit = [] :=
    List.drop_eq_nil_of_le (by rwa [String.length_toList])
  simp [HasRoom, hnil]

instance (limit : Nat) (text : String) : Decidable (HasRoom limit text) :=
  if h : text.length ≤ limit then decidable_of_iff _ (hasRoom_of_le h).symm
  else inferInstanceAs (Decidable (_ ∧ _))

/-- What is left of a text whose blanks beyond the limit are dropped. -/
def cut (limit : Nat) (text : String) : String :=
  if text.length ≤ limit then text else String.ofList (text.toList.take limit)

def stringDataError : PyError := ⟨.databaseError, "value too long, or with a NUL in it"⟩

/-- What a column `String(limit)` keeps of a text. -/
def stringColumn (limit : Nat) (text : String) : Except PyError String :=
  if HasRoom limit text then .ok (cut limit text) else .error stringDataError

/-- A column that may be NULL. -/
def stringColumn? (limit : Nat) : Option String → Except PyError (Option String)
  | none => .ok none
  | some text => (stringColumn limit text).map some

section StringColumn

variable {limit : Nat} {text : String}

/-- Nothing is cut off a text of a fitting length. -/
theorem cut_of_le (h : text.length ≤ limit) : cut limit text = text :=
  if_pos h

theorem stringColumn_eq_ok {t : String} :
    stringColumn limit text = .ok t ↔ HasRoom limit text ∧ t = cut limit text := by
  unfold stringColumn
  split
  · next h => simp [h, eq_comm]
  · next h => simp [h]

theorem stringColumn?_eq_ok {text t : Option String} :
    stringColumn? limit text = .ok t ↔
      (∀ s, text = some s → HasRoom limit s) ∧ t = text.map (cut limit) := by
  cases text with
  | none => simp [stringColumn?, eq_comm]
  | some s =>
    change (stringColumn limit s).map some = .ok t ↔ _
    unfold stringColumn
    split
    · next h => simp [Except.map, h, eq_comm]
    · next h => simp [Except.map, h]

end StringColumn

end VipChannel
