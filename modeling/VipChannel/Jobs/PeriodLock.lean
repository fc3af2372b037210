/-
  VipChannel.Jobs.PeriodLock

  Claiming a scheduled period, once across every instance (jobs/period_lock.py).  The
  seconds of `period_start_for` are floats.
-/
import VipChannel.Lib.Doubles
import VipChannel.Persistence.Repositories

namespace VipChannel

open Lib
open Program (perform)

/-- `timedelta(seconds=x)`: the whole seconds, and the microseconds of the rest. -/
def secondsDelta (x : ℚ) : Except PyError TimeDelta :=
  let whole := Double.trunc x
  let micros := halfEven (whole * MICROS_PER_SECOND + Double.mul (x - whole) MICROS_PER_SECOND)
  if h : -(MAX_DELTA_DAYS * MICROS_PER_DAY) ≤ micros ∧
      micros < (MAX_DELTA_DAYS + 1) * MICROS_PER_DAY then
    .ok ⟨micros, h⟩
  else
    .error (.deltaOverflow (micros.fdiv MICROS_PER_DAY))

/-- Floor `now` to a period boundary counted from the epoch. -/
def periodStartFor (now : DateTime) (period : TimeDelta) : Except PyError DateTime :=
  let elapsed := totalSeconds now.utc
  let length := totalSeconds period.micros
  if length = 0 then
    .error ⟨.zeroDivisionError, "float floor division by zero"⟩
  else do
    let δ ← secondsDelta (Double.mul (Double.floorDiv elapsed length) length)
    plusDelta .epoch δ

/-- `async with session.begin_nested()`. -/
def beginNested (body : App Unit) : App Unit := do
  perform Op.savepoint
  (do body; perform Op.releaseSavepoint : App Unit).tryCatch fun e => do
    perform Op.rollbackToSavepoint
    throw e

/-- Take ownership of one period; false when someone already has it. -/
def claimPeriod (tenantId : TenantId) (jobName : String) (periodStart : DateTime) :
    App Bool := do
  let startedAt ← utcnow
  (do
    beginNested do
      add .jobExecutions
        { tenantId, jobName, periodStart, state := .running, startedAt := some startedAt }
      flush
    return true : App Bool).tryCatch fun e =>
      if e.cls = .integrityError then pure false else throw e

/-- The row a claim inserted. -/
def isExecution (jobName : String) (periodStart : DateTime) (r : JobExecution) : Bool :=
  r.jobName == jobName && r.periodStart.utc == periodStart.utc

/-- The assignments of `finish`. -/
def recordEnd (finishedAt : DateTime) (error : Option String) (execution : JobExecution) :
    JobExecution :=
  { execution with
    state := if error.all (· = "") then .succeeded else .failed
    finishedAt := some finishedAt
    error := (error.filter (· ≠ "")).map fun text => String.ofList (text.toList.take 1000) }

def finish (jobName : String) (periodStart : DateTime) (error : Option String) : App Unit := do
  let finishedAt ← utcnow
  update .jobExecutions (isExecution jobName periodStart) (recordEnd finishedAt error)

theorem secondsDelta_whole (z : Int) :
    secondsDelta z =
      if h : -(MAX_DELTA_DAYS * MICROS_PER_DAY) ≤ z * MICROS_PER_SECOND ∧
          z * MICROS_PER_SECOND < (MAX_DELTA_DAYS + 1) * MICROS_PER_DAY then
        .ok ⟨z * MICROS_PER_SECOND, h⟩
      else
        .error (.deltaOverflow ((z * MICROS_PER_SECOND).fdiv MICROS_PER_DAY)) := by
  have hmicros : halfEven (Double.trunc (z : ℚ) * MICROS_PER_SECOND +
      Double.mul ((z : ℚ) - Double.trunc (z : ℚ)) MICROS_PER_SECOND) = z * MICROS_PER_SECOND := by
    rw [Double.trunc_intCast, sub_self, Double.mul, zero_mul, Double.nearest_zero, add_zero,
      ← Int.cast_mul, halfEven_intCast]
  simp only [secondsDelta, hmicros]

end VipChannel
