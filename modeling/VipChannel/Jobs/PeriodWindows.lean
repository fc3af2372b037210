/-
  VipChannel.Jobs.PeriodWindows

  The windows of a period: `period_start_for` (jobs/period_lock.py) gives the start of the
  window an instant lies in, where that start is a date Python has.  Of its floats only
  the quotient of the seconds can be inexact, and only further than `2 ^ 34` seconds from
  the epoch.
-/
import VipChannel.Jobs.PeriodLock

namespace VipChannel

open Lib

/-- An instant of the `k`th window from the epoch. -/
def InWindow (period : TimeDelta) (k : Int) (d : DateTime) : Prop :=
  k * period.micros ≤ d.utc ∧ d.utc < (k + 1) * period.micros

section Windows

variable {period : TimeDelta} {a b start : DateTime} {k : Int}

/-- The window of an instant is the one its floored quotient counts. -/
theorem inWindow_iff (hpos : 0 < period.micros) :
    InWindow period k a ↔ a.utc.fdiv period.micros = k := by
  have hdiv : a.utc.fdiv period.micros = a.utc / period.micros :=
    Int.fdiv_eq_ediv_of_nonneg _ hpos.le
  rw [hdiv]
  constructor
  · rintro ⟨hlo, hhi⟩
    have hle : k ≤ a.utc / period.micros := (Int.le_ediv_iff_mul_le hpos).mpr hlo
    have hlt : a.utc / period.micros < k + 1 := (Int.ediv_lt_iff_lt_mul hpos).mpr hhi
    omega
  · rintro rfl
    exact ⟨Int.ediv_mul_le _ hpos.ne', Int.lt_ediv_add_one_mul_self _ hpos⟩

theorem exists_inWindow (hpos : 0 < period.micros) (d : DateTime) :
    ∃ k, InWindow period k d :=
  ⟨_, (inWindow_iff hpos).mpr rfl⟩

theorem InWindow.unique {k' : Int} (hpos : 0 < period.micros) (h : InWindow period k a)
    (h' : InWindow period k' a) : k = k' :=
  ((inWindow_iff hpos).mp h).symm.trans ((inWindow_iff hpos).mp h')

/-- A later instant lies in a later window, if not in the same. -/
theorem InWindow.mono {k' : Int} (hpos : 0 < period.micros) (h : InWindow period k a)
    (h' : InWindow period k' b) (hle : a.utc ≤ b.utc) : k ≤ k' := by
  have hlt : k * period.micros < (k' + 1) * period.micros :=
    Int.lt_of_le_of_lt h.1 (Int.lt_of_le_of_lt hle h'.2)
  have := Int.lt_of_mul_lt_mul_right hlt hpos.le
  omega

/-- The start of the `k`th window, in UTC. -/
structure StartsWindow (period : TimeDelta) (k : Int) (start : DateTime) : Prop where
  utcoffset : start.utcoffset = some 0
  utc : start.utc = k * period.micros

theorem StartsWindow.inWindow (hpos : 0 < period.micros) (h : StartsWindow period k start) :
    InWindow period k start := by
  rw [InWindow, h.utc]
  exact ⟨Int.le_refl _, Int.mul_lt_mul_of_pos_right (by omega) hpos⟩

theorem StartsWindow.micros (h : StartsWindow period k start) :
    start.micros = k * period.micros := by
  rw [← h.utc, DateTime.utc, h.utcoffset, Option.getD_some]
  omega

/-! ### The floats -/

/-- The quotient of seconds that `period_start_for` takes on floats is the exact one. -/
def ExactQuotient (period : TimeDelta) (d : DateTime) : Prop :=
  Double.floorDiv (totalSeconds d.utc) (totalSeconds period.micros) = d.utc.fdiv period.micros

theorem totalSeconds_period {n : Int} (hn : 0 < n)
    (hwhole : period.micros = n * MICROS_PER_SECOND) : totalSeconds period.micros = n := by
  have hrange := period.inRange
  rw [hwhole] at hrange ⊢
  apply totalSeconds_whole
  rw [abs_of_pos hn]
  simp only [MICROS_PER_SECOND, MICROS_PER_DAY, MAX_DELTA_DAYS, Double.PRECISION] at hrange ⊢
  omega

/-- Where the elapsed seconds do not round up to the next whole one, the quotient by a
    whole number of seconds is exact. -/
theorem exactQuotient_of_floor {n : Int} (hn : 0 < n)
    (hwhole : period.micros = n * MICROS_PER_SECOND)
    (hfloor : ⌊totalSeconds a.utc⌋ = a.utc / MICROS_PER_SECOND)
    (hsize : |a.utc| < 2 ^ 40 * MICROS_PER_SECOND) : ExactQuotient period a := by
  have hpos : 0 ≤ period.micros := by
    rw [hwhole]
    exact Int.mul_nonneg hn.le (by decide)
  have hdouble : |totalSeconds a.utc| + 1 < 2 ^ Double.PRECISION := by
    obtain ⟨hlo, hhi⟩ := Int.floor_eq_iff.mp hfloor
    obtain ⟨hleft, hright⟩ := abs_lt.mp hsize
    have hlow : -2 ^ 40 - 1 ≤ a.utc / MICROS_PER_SECOND := by
      unfold MICROS_PER_SECOND at *
      omega
    have hhigh : a.utc / MICROS_PER_SECOND ≤ 2 ^ 40 := by
      unfold MICROS_PER_SECOND at *
      omega
    have hlow' : (-2 ^ 40 - 1 : ℚ) ≤ (a.utc / MICROS_PER_SECOND : ℤ) := by exact_mod_cast hlow
    have hhigh' : ((a.utc / MICROS_PER_SECOND : ℤ) : ℚ) ≤ 2 ^ 40 := by exact_mod_cast hhigh
    have habs : |totalSeconds a.utc| ≤ 2 ^ 40 + 1 := by
      rw [abs_le]
      constructor <;> linarith
    refine lt_of_le_of_lt (add_le_add_left habs 1) ?_
    norm_num [Double.PRECISION]
  rw [ExactQuotient, totalSeconds_period hn hwhole, Double.floorDiv_whole hn hdouble,
    Int.floor_div_cast_of_nonneg hn.le, hfloor, Int.fdiv_eq_ediv_of_nonneg _ hpos, hwhole,
    Int.mul_comm, Int.ediv_ediv_of_nonneg (by decide)]

/-- Within `2 ^ 34` seconds of 1970, that is before the year 2514, the quotient is exact. -/
theorem exactQuotient_of_near {n : Int} (hn : 0 < n)
    (hwhole : period.micros = n * MICROS_PER_SECOND)
    (hnear : |a.utc| < 2 ^ 34 * MICROS_PER_SECOND) : ExactQuotient period a := by
  refine exactQuotient_of_floor hn hwhole (floor_totalSeconds hnear) (hnear.trans ?_)
  decide

/-- So it is for every start of a window. -/
theorem StartsWindow.exactQuotient {n : Int} (hn : 0 < n)
    (hwhole : period.micros = n * MICROS_PER_SECOND) (h : StartsWindow period k start) :
    ExactQuotient period start := by
  have hrange := start.inRange
  rw [h.micros, hwhole, ← Int.mul_assoc] at hrange
  have hutc : start.utc = k * n * MICROS_PER_SECOND := by
    rw [h.utc, hwhole, Int.mul_assoc]
  have hsize : |k * n| < 2 ^ 40 := by
    rw [abs_lt]
    simp only [MIN_MICROS, MAX_MICROS, MICROS_PER_SECOND] at hrange
    constructor <;> omega
  have hdigits : |k * n| < 2 ^ Double.PRECISION := hsize.trans (by decide)
  apply exactQuotient_of_floor hn hwhole
  · rw [hutc, totalSeconds_whole hdigits, Int.floor_intCast,
      Int.mul_ediv_cancel _ (by decide)]
  · rw [hutc, abs_mul, abs_of_pos (by decide : 0 < MICROS_PER_SECOND)]
    exact Int.mul_lt_mul_of_pos_right hsize (by decide)

/-- `epoch + δ`, for the seconds of a boundary. -/
theorem plusDelta_epoch (δ : TimeDelta) :
    plusDelta .epoch δ = if h : MIN_MICROS ≤ δ.micros ∧ δ.micros ≤ MAX_MICROS then
      .ok ⟨δ.micros, h, some 0⟩ else .error .dateOverflow := by
  have hzero : DateTime.epoch.micros + δ.micros = δ.micros := Int.zero_add _
  unfold plusDelta DateTime.add?
  simp only [hzero]
  split_ifs
  · rfl
  · rfl

/-- A whole number of seconds from the epoch, if that is a date. -/
theorem epoch_add_seconds (z : Int) :
    if h : MIN_MICROS ≤ z * MICROS_PER_SECOND ∧ z * MICROS_PER_SECOND ≤ MAX_MICROS then
      secondsDelta (Double.nearest z) >>= plusDelta .epoch =
        .ok ⟨z * MICROS_PER_SECOND, h, some 0⟩
    else
      ∃ e, secondsDelta (Double.nearest z) >>= plusDelta .epoch = .error e ∧
        e.cls = .overflowError := by
  have hexact : |z| < 2 ^ Double.PRECISION → Double.nearest (z : ℚ) = z := Double.nearest_intCast
  split_ifs with hrange
  · have hdigits : |z| < 2 ^ Double.PRECISION := by
      rw [abs_lt]
      simp only [MIN_MICROS, MAX_MICROS, MICROS_PER_SECOND, Double.PRECISION] at hrange ⊢
      constructor <;> omega
    have hdelta : -(MAX_DELTA_DAYS * MICROS_PER_DAY) ≤ z * MICROS_PER_SECOND ∧
        z * MICROS_PER_SECOND < (MAX_DELTA_DAYS + 1) * MICROS_PER_DAY := by
      simp only [MIN_MICROS, MAX_MICROS, MAX_DELTA_DAYS, MICROS_PER_DAY] at hrange ⊢
      constructor <;> omega
    rw [hexact hdigits, secondsDelta_whole, dif_pos hdelta]
    exact (plusDelta_epoch _).trans (dif_pos hrange)
  · -- Rounded or not, the seconds are a whole number that is no date.
    obtain ⟨z', hz', hrange'⟩ : ∃ z' : Int, Double.nearest (z : ℚ) = z' ∧
        ¬ (MIN_MICROS ≤ z' * MICROS_PER_SECOND ∧ z' * MICROS_PER_SECOND ≤ MAX_MICROS) := by
      rcases lt_or_ge |z| (2 ^ Double.PRECISION) with hsmall | hlarge
      · exact ⟨z, hexact hsmall, hrange⟩
      · obtain ⟨z', hz', hsize⟩ := Double.nearest_large hlarge
        refine ⟨z', hz', ?_⟩
        rw [le_abs] at hsize
        simp only [MIN_MICROS, MAX_MICROS, MICROS_PER_SECOND, Double.PRECISION] at hsize ⊢
        omega
    rw [hz', secondsDelta_whole]
    split_ifs with hdelta
    · exact ⟨_, (plusDelta_epoch _).trans (dif_neg hrange'), rfl⟩
    · exact ⟨_, rfl, rfl⟩

/-- The seconds from the epoch to the start of the `k`th window. -/
theorem secondsDelta_window {n : Int} (hn : 0 < n)
    (hwhole : period.micros = n * MICROS_PER_SECOND) (hexact : ExactQuotient period a)
    (hk : InWindow period k a) :
    periodStartFor a period =
      secondsDelta (Double.nearest ((k * n : ℤ) : ℚ)) >>= plusDelta .epoch := by
  have hpos : 0 < period.micros := by
    rw [hwhole]
    exact Int.mul_pos hn (by decide)
  have hlength : (n : ℚ) ≠ 0 := Int.cast_ne_zero.mpr hn.ne'
  have hquot := hexact
  rw [ExactQuotient, (inWindow_iff hpos).mp hk, totalSeconds_period hn hwhole] at hquot
  simp only [periodStartFor, totalSeconds_period hn hwhole, hquot, if_neg hlength, Double.mul]
  rw [Int.cast_mul]

/-- With the exact quotient, the start of the window is returned unless it is no date. -/
theorem periodStartFor_of_exact {n : Int} (hn : 0 < n)
    (hwhole : period.micros = n * MICROS_PER_SECOND) (hexact : ExactQuotient period a)
    (hk : InWindow period k a) :
    if h : MIN_MICROS ≤ k * period.micros ∧ k * period.micros ≤ MAX_MICROS then
      periodStartFor a period = .ok ⟨k * period.micros, h, some 0⟩
    else
      ∃ e, periodStartFor a period = .error e ∧ e.cls = .overflowError := by
  have hwindow : k * period.micros = k * n * MICROS_PER_SECOND := by
    rw [hwhole, Int.mul_assoc]
  rw [secondsDelta_window hn hwhole hexact hk]
  have hseconds := epoch_add_seconds (k * n)
  simp only [← hwindow] at hseconds
  exact hseconds

theorem periodStartFor_eq_ok_iff {n : Int} (hn : 0 < n)
    (hwhole : period.micros = n * MICROS_PER_SECOND) (hexact : ExactQuotient period a)
    (hk : InWindow period k a) :
    periodStartFor a period = .ok start ↔ StartsWindow period k start := by
  have hstart := periodStartFor_of_exact hn hwhole hexact hk
  constructor
  · intro h
    split_ifs at hstart with hrange
    · cases h.symm.trans hstart
      exact ⟨rfl, Int.sub_zero _⟩
    · obtain ⟨e, herror, -⟩ := hstart
      cases h.symm.trans herror
  · intro h
    have hmicros := h.micros
    have hzone := h.utcoffset
    have hrange := start.inRange
    rw [hmicros] at hrange
    rw [dif_pos hrange] at hstart
    rw [hstart]
    obtain ⟨micros, range, utcoffset⟩ := start
    cases hmicros
    cases hzone
    rfl

/-- There is no start where the window began before the first day, or begins after the
    last. -/
theorem periodStartFor_overflow_iff {n : Int} (hn : 0 < n)
    (hwhole : period.micros = n * MICROS_PER_SECOND) (hexact : ExactQuotient period a)
    (hk : InWindow period k a) :
    (∃ e, periodStartFor a period = .error e ∧ e.cls = .overflowError) ↔
      ¬ (MIN_MICROS ≤ k * period.micros ∧ k * period.micros ≤ MAX_MICROS) := by
  have hstart := periodStartFor_of_exact hn hwhole hexact hk
  split_ifs at hstart with hrange
  · refine iff_of_false ?_ (not_not_intro hrange)
    rintro ⟨e, herror, -⟩
    cases hstart.symm.trans herror
  · exact iff_of_true hstart hrange

/-- What `period_start_for` gives for `a`, beside another instant `b`. -/
structure PeriodBoundary (period : TimeDelta) (a b start : DateTime) : Prop where
  wholePeriods : ∃ k : Int, start.utc = k * period.micros
  started : start.utc ≤ a.utc
  unfinished : a.utc < start.utc + period.micros
  sameWindow : periodStartFor b period = .ok start ↔
    ∃ k, InWindow period k a ∧ InWindow period k b
  monotone : ∀ later, periodStartFor b period = .ok later → a.utc ≤ b.utc → start.utc ≤ later.utc
  idempotent : periodStartFor start period = .ok start

/-- The boundaries partition time, for a period of whole seconds and exact quotients:
    `period_start_for` gives the start of the window, unless that is no date, where it
    raises. -/
theorem period_boundaries_partition_time {n : Int} (hn : 0 < n)
    (hwhole : period.micros = n * MICROS_PER_SECOND) (a b : DateTime)
    (ha : ExactQuotient period a) (hb : ExactQuotient period b) :
    (∀ start, periodStartFor a period = .ok start → PeriodBoundary period a b start) ∧
      ∀ k, InWindow period k a →
        ((∃ start, periodStartFor a period = .ok start) ↔
          MIN_MICROS ≤ k * period.micros ∧ k * period.micros ≤ MAX_MICROS) ∧
        ((∃ e, periodStartFor a period = .error e ∧ e.cls = .overflowError) ↔
          ¬ (MIN_MICROS ≤ k * period.micros ∧ k * period.micros ≤ MAX_MICROS)) := by
  have hpos : 0 < period.micros := by
    rw [hwhole]
    exact Int.mul_pos hn (by decide)
  constructor
  · intro start hstart
    obtain ⟨k, hk⟩ := exists_inWindow hpos a
    have hstarts := (periodStartFor_eq_ok_iff hn hwhole ha hk).mp hstart
    have hutc := hstarts.utc
    have hnext : (k + 1) * period.micros = start.utc + period.micros := by
      rw [hutc, Int.add_mul, Int.one_mul]
    refine {
      wholePeriods := ⟨k, hutc⟩
      started := hutc ▸ hk.1
      unfinished := hnext ▸ hk.2
      sameWindow := ⟨fun hboundary => ?_, ?_⟩
      monotone := fun later hlater hle => ?_
      idempotent := (periodStartFor_eq_ok_iff hn hwhole (hstarts.exactQuotient hn hwhole)
        (hstarts.inWindow hpos)).mpr hstarts }
    · -- Two windows with one start are one.
      obtain ⟨j, hj⟩ := exists_inWindow hpos b
      have hstarts' := (periodStartFor_eq_ok_iff hn hwhole hb hj).mp hboundary
      have heq : k = j :=
        (hstarts.inWindow hpos).unique hpos (hstarts'.inWindow hpos)
      exact ⟨k, hk, heq ▸ hj⟩
    · rintro ⟨j, hja, hjb⟩
      rw [hja.unique hpos hk] at hjb
      exact (periodStartFor_eq_ok_iff hn hwhole hb hjb).mpr hstarts
    · obtain ⟨j, hj⟩ := exists_inWindow hpos b
      have hstarts' := (periodStartFor_eq_ok_iff hn hwhole hb hj).mp hlater
      rw [hutc, hstarts'.utc]
      exact Int.mul_le_mul_of_nonneg_right (hk.mono hpos hj hle) hpos.le
  · intro k hk
    have hoverflow := periodStartFor_overflow_iff hn hwhole ha hk
    refine ⟨⟨?_, fun hrange => ?_⟩, hoverflow⟩
    · rintro ⟨start, hstart⟩
      by_contra hrange
      obtain ⟨e, herror, -⟩ := hoverflow.mpr hrange
      cases hstart.symm.trans herror
    · have hstart := periodStartFor_of_exact hn hwhole ha hk
      rw [dif_pos hrange] at hstart
      exact ⟨_, hstart⟩

end Windows

/-! ### The first week -/

def week : TimeDelta := ⟨604800 * MICROS_PER_SECOND, by decide⟩

/-- 0001-01-01 00:00 UTC, a Monday. -/
def firstInstant : DateTime := ⟨MIN_MICROS, by decide, some 0⟩

/-- Weeks are counted from a Thursday, and the Thursday before the first day is no date. -/
theorem first_week_has_no_boundary :
    ¬ ∀ (period : TimeDelta) (n : Int) (a : DateTime), 0 < n →
      period.micros = n * MICROS_PER_SECOND → ExactQuotient period a →
        ∃ start, periodStartFor a period = .ok start := by
  intro h
  have hexact : ExactQuotient week firstInstant := by
    unfold ExactQuotient
    decide +kernel
  obtain ⟨start, hstart⟩ := h week 604800 firstInstant (by decide) (by decide) hexact
  have herror : periodStartFor firstInstant week = .error .dateOverflow := by decide +kernel
  rw [herror] at hstart
  cases hstart

/-- Two instants of one week: a naive one, and one in another zone. -/
theorem weeks_are_partitioned :
    PeriodBoundary week ⟨0, by decide, none⟩ ⟨MICROS_PER_DAY, by decide, some 12600000000⟩
      .epoch := by
  have hpos : (0 : Int) < 604800 := by decide
  exact (period_boundaries_partition_time hpos rfl _ _
    (exactQuotient_of_near hpos rfl (by decide))
    (exactQuotient_of_near hpos rfl (by decide))).1 _ (by decide +kernel)

end VipChannel
