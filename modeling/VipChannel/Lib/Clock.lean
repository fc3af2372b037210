/-
  VipChannel.Lib.Clock

  Python's `datetime` and `timedelta`, to the microsecond.

  A `DateTime` keeps the fields as read off its own wall clock together with the
  offset its `tzinfo` gives, and carries the proof that the year is one Python
  can represent.  Arithmetic is partial exactly where Python raises: `none` from
  `add?` and `days?` is an OverflowError, `none` from a comparison is the
  TypeError of comparing a naive with an aware value.
-/
import Mathlib

namespace VipChannel.Lib

def MICROS_PER_SECOND : Int := 1000000

def MICROS_PER_DAY : Int := 86400000000

/-- `datetime.min`, in microseconds from 1970-01-01 00:00:00. -/
def MIN_MICROS : Int := -62135596800000000

/-- `datetime.max`, in microseconds from 1970-01-01 00:00:00. -/
def MAX_MICROS : Int := 253402300799999999

/-- The largest number of days a `timedelta` may hold. -/
def MAX_DELTA_DAYS : Int := 999999999

/-- A `timedelta`. -/
structure TimeDelta where
  micros : Int
  inRange : -(MAX_DELTA_DAYS * MICROS_PER_DAY) ≤ micros ∧
    micros < (MAX_DELTA_DAYS + 1) * MICROS_PER_DAY
  deriving DecidableEq

/-- A `datetime`; `utcoffset` is `none` for a naive one. -/
structure DateTime where
  micros : Int
  inRange : MIN_MICROS ≤ micros ∧ micros ≤ MAX_MICROS
  utcoffset : Option Int
  deriving DecidableEq

namespace TimeDelta

/-- `timedelta(days=n)`. -/
def days? (n : Int) : Option TimeDelta :=
  if h : -(MAX_DELTA_DAYS * MICROS_PER_DAY) ≤ n * MICROS_PER_DAY ∧
      n * MICROS_PER_DAY < (MAX_DELTA_DAYS + 1) * MICROS_PER_DAY then
    some ⟨n * MICROS_PER_DAY, h⟩
  else
    none

theorem days?_micros {n : Int} {δ : TimeDelta} (h : days? n = some δ) :
    δ.micros = n * MICROS_PER_DAY := by
  unfold days? at h
  split at h
  · cases h; rfl
  · cases h

end TimeDelta

namespace DateTime

/-- The instant on the UTC time line, a naive value being read as UTC. -/
def utc (d : DateTime) : Int :=
  d.micros - d.utcoffset.getD 0

/-- `moment if moment.tzinfo is not None else moment.replace(tzinfo=UTC)`. -/
def aware (d : DateTime) : DateTime :=
  if d.utcoffset.isSome then d else { d with utcoffset := some 0 }

/-- `d + δ`: the wall-clock fields move, the zone stays. -/
def add? (d : DateTime) (δ : TimeDelta) : Option DateTime :=
  if h : MIN_MICROS ≤ d.micros + δ.micros ∧ d.micros + δ.micros ≤ MAX_MICROS then
    some { micros := d.micros + δ.micros, inRange := h, utcoffset := d.utcoffset }
  else
    none

/-- `a < b`. -/
def lt? (a b : DateTime) : Option Bool :=
  if a.utcoffset.isSome = b.utcoffset.isSome then some (decide (a.utc < b.utc)) else none

/-- `a <= b`. -/
def le? (a b : DateTime) : Option Bool :=
  if a.utcoffset.isSome = b.utcoffset.isSome then some (decide (a.utc ≤ b.utc)) else none

/-- 1970-01-01 00:00:00 UTC. -/
def epoch : DateTime := ⟨0, by decide, some 0⟩

instance : NeZero (2932896 : Nat) := ⟨by decide⟩

/-- Midnight UTC, `n` days after 1970-01-01. -/
def day (n : Fin 2932896) : DateTime where
  micros := n * MICROS_PER_DAY
  inRange := by
    have := n.isLt
    unfold MIN_MICROS MAX_MICROS MICROS_PER_DAY
    omega
  utcoffset := some 0

/-- `int(d.timestamp())`: whole seconds from the epoch, truncated toward zero.  The float
    of `timestamp()` truncates to the same second up to the year 2514
    (`trunc_totalSeconds`). -/
def timestampSeconds (d : DateTime) : Int :=
  d.utc.tdiv MICROS_PER_SECOND

@[simp] theorem aware_utc (d : DateTime) : d.aware.utc = d.utc := by
  unfold aware utc
  split
  · rfl
  · next h =>
    have hnone : d.utcoffset = none := by simpa using h
    simp [hnone]

@[simp] theorem aware_isSome (d : DateTime) : d.aware.utcoffset.isSome = true := by
  unfold aware
  split
  · next h => exact h
  · rfl

theorem aware_of_isSome {d : DateTime} (h : d.utcoffset.isSome = true) : d.aware = d := by
  simp [aware, h]

theorem add?_utc {d e : DateTime} {δ : TimeDelta} (h : d.add? δ = some e) :
    e.utc = d.utc + δ.micros := by
  unfold add? at h
  split at h
  · cases h
    simp only [utc]
    omega
  · cases h

theorem add?_utcoffset {d e : DateTime} {δ : TimeDelta} (h : d.add? δ = some e) :
    e.utcoffset = d.utcoffset := by
  unfold add? at h
  split at h
  · cases h; rfl
  · cases h

theorem lt?_some {a b : DateTime} {r : Bool} (h : a.lt? b = some r) :
    r = decide (a.utc < b.utc) := by
  unfold lt? at h
  split at h
  · cases h; rfl
  · cases h

theorem le?_some {a b : DateTime} {r : Bool} (h : a.le? b = some r) :
    r = decide (a.utc ≤ b.utc) := by
  unfold le? at h
  split at h
  · cases h; rfl
  · cases h

/-- Every instant between two of one zone can be told in that zone. -/
theorem exists_between {a b : DateTime} {n : Int} (hzone : b.utcoffset = a.utcoffset)
    (ha : a.utc ≤ n) (hb : n ≤ b.utc) : ∃ d : DateTime,
      d.utcoffset.isSome = a.utcoffset.isSome ∧ d.utc = n := by
  have hlo := a.inRange
  have hhi := b.inRange
  unfold utc at ha hb
  rw [hzone] at hb
  refine ⟨⟨n + a.utcoffset.getD 0, ⟨by omega, by omega⟩, a.utcoffset⟩, rfl, ?_⟩
  show n + a.utcoffset.getD 0 - a.utcoffset.getD 0 = n
  omega

/-! ## Whole seconds -/

/-- From 1970 on, the second of an instant has begun at it. -/
theorem timestampSeconds_le {d : DateTime} (h : 0 ≤ d.utc) :
    d.timestampSeconds * MICROS_PER_SECOND ≤ d.utc := by
  unfold timestampSeconds
  rw [Int.tdiv_eq_ediv_of_nonneg h]
  exact Int.ediv_mul_le _ (by decide)

/-- Truncating puts an instant back, unless there is nothing to cut off or it is before
    1970. -/
theorem utc_le_timestampSeconds_iff {d : DateTime} :
    d.utc ≤ d.timestampSeconds * MICROS_PER_SECOND ↔ MICROS_PER_SECOND ∣ d.utc ∨ d.utc < 0 := by
  unfold timestampSeconds MICROS_PER_SECOND
  constructor
  · intro h
    by_cases hneg : d.utc < 0
    · exact .inr hneg
    · rw [Int.tdiv_eq_ediv_of_nonneg (by omega)] at h
      left
      omega
  · rintro (⟨k, hk⟩ | hneg)
    · rw [hk, Int.mul_tdiv_cancel_left k (by decide)]
      omega
    · have hquot : d.utc.tdiv 1000000 = -(-d.utc / 1000000) := by
        rw [← Int.tdiv_eq_ediv_of_nonneg (by omega), Int.neg_tdiv, neg_neg]
      rw [hquot]
      omega

end DateTime

end VipChannel.Lib
