/-
  VipChannel.Jobs.Scheduler

  The sweep over the tenants (jobs/scheduler.py), and the transaction each caller
  puts around a service (the webhook's around a submission, the sweep's around a
  monitoring pass).
-/
import VipChannel.Jobs.MembershipMonitor
import VipChannel.Services.ProviderFactory

namespace VipChannel

open Lib
open Program (perform)

/-- `async with database.AsyncSessionFactory() as session`, with the tenant bound. -/
def withSession {α : Type} (tenantId : TenantId) (body : App α) : App α := do
  perform (Op.openSession tenantId)
  let a ← body.tryCatch fun e => do
    perform Op.closeSession
    throw e
  perform Op.closeSession
  return a

/-- `try: …; await session.commit()`, and `rollback` on any exception, which is then
    contained. -/
def committed {α : Type} (body : App α) : App (Option α) :=
  (do
    let a ← body
    perform Op.commit
    return some a : App (Option α)).tryCatch fun _ => do
      perform Op.rollback
      return none

/-- The transaction the webhook runs a submission in. -/
def submitTx (ttl : TimeDelta) (providerType : ProviderType) (tenantId : TenantId)
    (telegramUserId : Int) (market : Market) (rawUid : String)
    (username firstName : Option String) : App (Option OnboardingResult) :=
  withSession tenantId <| committed <|
    ReferralOnboardingService.submitUid ttl providerType tenantId telegramUserId market rawUid
      username firstName

/-- The transaction the sweep runs a monitoring pass in. -/
def passTx (period : TimeDelta) (policy : CompliancePolicy) (tenantId : TenantId)
    (now : Option DateTime) : App (Option MonitorReport) :=
  withSession tenantId <| committed <| MembershipMonitor.run period policy tenantId now

namespace Scheduler

/-- `timedelta(days=7)`. -/
def DEFAULT_COMPLIANCE_PERIOD : TimeDelta := ⟨7 * MICROS_PER_DAY, by decide⟩

/-- Build the tenant's providers; false when it has not finished setting up. -/
def configured (env : EncryptionKey) (tenantId : TenantId) (providerType : ProviderType) :
    App Bool :=
  (do
    let _ ← ProviderFactory.referralProvider env tenantId providerType
    let _ ← ProviderFactory.telegram env tenantId
    return true : App Bool).tryCatch fun e =>
      if e.cls = .missingCredentialError then pure false else throw e

/-- One tenant's step of the sweep. -/
def sweepTenant (env : EncryptionKey) (providerType : ProviderType) (period : TimeDelta)
    (tenantId : TenantId) : App Unit :=
  withSession tenantId do
    if ← configured env tenantId providerType then
      -- A failed run is contained: the next tenant is reached.
      let _ ← committed (MembershipMonitor.run period {} tenantId none)
      return ()
    else
      return ()

/-- The loop over the tenants the registry listed. -/
def sweepAll (env : EncryptionKey) (providerType : ProviderType) (period : TimeDelta) :
    List TenantId → App Unit
  | [] => pure ()
  | tenantId :: rest => do
    sweepTenant env providerType period tenantId
    sweepAll env providerType period rest

def runComplianceSweep (env : EncryptionKey) (providerType : ProviderType)
    (period : TimeDelta) : App Unit := do
  sweepAll env providerType period (← perform Op.activeTenantIds)

end Scheduler

end VipChannel
