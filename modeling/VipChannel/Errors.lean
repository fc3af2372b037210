/-
  VipChannel.Errors

  The exceptions the application raises or handles: its own hierarchy
  (application/exceptions.py, provider_factory.py, core/crypto.py) and those of
  Python, SQLAlchemy and `decimal` that can cross it.  Every `except` clause of the
  modelled code selects by class, so an exception is its class and its text.
-/
import VipChannel.Lib.Clock
import VipChannel.Lib.Decimal

namespace VipChannel

open Lib

/-- Exception classes. -/
inductive ExcClass where
  | providerUnavailableError
  | missingCredentialError
  | credentialEncryptionError
  | integrityError
  | multipleResultsFound
  | databaseError
  | attributeError
  | keyError
  | typeError
  | valueError
  | overflowError
  | zeroDivisionError
  | invalidOperation
  | decimalOverflow
  | other (name : String)
  deriving DecidableEq

/-- `type(exc).__name__`. -/
def ExcClass.name : ExcClass → String
  | providerUnavailableError => "ProviderUnavailableError"
  | missingCredentialError => "MissingCredentialError"
  | credentialEncryptionError => "CredentialEncryptionError"
  | integrityError => "IntegrityError"
  | multipleResultsFound => "MultipleResultsFound"
  | databaseError => "DBAPIError"
  | attributeError => "AttributeError"
  | keyError => "KeyError"
  | typeError => "TypeError"
  | valueError => "ValueError"
  | overflowError => "OverflowError"
  | zeroDivisionError => "ZeroDivisionError"
  | invalidOperation => "InvalidOperation"
  | decimalOverflow => "Overflow"
  | other name => name

/-- A raised exception. -/
structure PyError where
  cls : ExcClass
  text : String
  deriving DecidableEq

namespace PyError

/-- The signal of a trapped decimal operation, as the exception Python raises. -/
def ofSignal : DecimalSignal → PyError
  | .invalidOperation => ⟨.invalidOperation, "[<class 'decimal.InvalidOperation'>]"⟩
  | .overflow => ⟨.decimalOverflow, "[<class 'decimal.Overflow'>]"⟩

def dateOverflow : PyError := ⟨.overflowError, "date value out of range"⟩

/-- A `timedelta` of more days than it may hold. -/
def deltaOverflow (days : Int) : PyError :=
  ⟨.overflowError, "days=" ++ toString days ++ "; must have magnitude <= 999999999"⟩

def naiveVsAware : PyError :=
  ⟨.typeError, "can't compare offset-naive and offset-aware datetimes"⟩

end PyError

/-- Two steps return when the first does and the second goes on from there. -/
theorem bind_eq_ok {α β : Type} {x : Except PyError α} {f : α → Except PyError β} {b : β} :
    (x >>= f) = .ok b ↔ ∃ a, x = .ok a ∧ f a = .ok b := by
  cases x with
  | error e =>
    refine iff_of_false ?_ ?_
    · intro h
      cases h
    · rintro ⟨a, h, -⟩
      cases h
  | ok a =>
    constructor
    · intro h
      exact ⟨a, rfl, h⟩
    · rintro ⟨a', h, hb⟩
      cases h
      exact hb

/-- Decimal arithmetic under the default traps. -/
def trap {α : Type} : Except DecimalSignal α → Except PyError α
  | .ok a => .ok a
  | .error s => .error (.ofSignal s)

/-- `d + timedelta(days=n)`. -/
def plusDays (d : DateTime) (n : Int) : Except PyError DateTime :=
  match TimeDelta.days? n with
  | none => .error (.deltaOverflow n)
  | some δ =>
    match d.add? δ with
    | none => .error .dateOverflow
    | some e => .ok e

/-- `d + δ`. -/
def plusDelta (d : DateTime) (δ : TimeDelta) : Except PyError DateTime :=
  match d.add? δ with
  | none => .error .dateOverflow
  | some e => .ok e

/-- `a < b`. -/
def earlier (a b : DateTime) : Except PyError Bool :=
  match a.lt? b with
  | none => .error .naiveVsAware
  | some r => .ok r

/-- `a <= b`. -/
def notLater (a b : DateTime) : Except PyError Bool :=
  match a.le? b with
  | none => .error .naiveVsAware
  | some r => .ok r

theorem plusDays_utc {d e : DateTime} {n : Int} (h : plusDays d n = .ok e) :
    e.utc = d.utc + n * MICROS_PER_DAY := by
  unfold plusDays at h
  split at h
  · cases h
  · next δ hδ =>
    split at h
    · cases h
    · next e' he =>
      cases h
      rw [DateTime.add?_utc he, TimeDelta.days?_micros hδ]

theorem plusDelta_utc {d e : DateTime} {δ : TimeDelta} (h : plusDelta d δ = .ok e) :
    e.utc = d.utc + δ.micros := by
  unfold plusDelta at h
  split at h
  · cases h
  · next he => cases h; exact DateTime.add?_utc he

theorem plusDelta_utcoffset {d e : DateTime} {δ : TimeDelta} (h : plusDelta d δ = .ok e) :
    e.utcoffset = d.utcoffset := by
  unfold plusDelta at h
  split at h
  · cases h
  · next he => cases h; exact DateTime.add?_utcoffset he

theorem earlier_ok {a b : DateTime} {r : Bool} (h : earlier a b = .ok r) :
    r = decide (a.utc < b.utc) := by
  unfold earlier at h
  split at h
  · cases h
  · next hr => cases h; exact DateTime.lt?_some hr

theorem notLater_ok {a b : DateTime} {r : Bool} (h : notLater a b = .ok r) :
    r = decide (a.utc ≤ b.utc) := by
  unfold notLater at h
  split at h
  · cases h
  · next hr => cases h; exact DateTime.le?_some hr

end VipChannel
