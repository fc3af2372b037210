/-
  VipChannel.Services.ServiceCalls

  Which calls the services make when they build a tenant's providers: reads only.
-/
import VipChannel.Jobs.PassCalls
import VipChannel.Jobs.Scheduler
import VipChannel.Web.TelegramWebhook

namespace VipChannel

open Lib
open Program (perform raising UsesOnly usesOnly_bind usesOnly_tryCatch)

/-- A statement that reads rows. -/
def Op.reads : Op → Prop
  | .select .. => True
  | .openSession _ | .closeSession | .add .. | .update .. | .flush | .savepoint
  | .releaseSavepoint | .rollbackToSavepoint | .commit | .rollback | .utcnow | .uuid4
  | .activeTenantIds | .tenantsOfToken _ | .tokenUrlsafe | .encrypt _ | .validateUser _
  | .telegram .. => False

section Providers

variable {P : Op → Prop}

theorem usesOnly_read (hP : ∀ op, op.reads → P op) {t : Table} (cond : Row t → Bool) :
    (selectOneOrNone t cond).UsesOnly P := by
  unfold selectOneOrNone select
  refine usesOnly_bind ?_ fun rows => by simp
  rw [Program.usesOnly_perform]
  exact hP _ trivial

namespace ProviderFactory

theorem usesOnly_secret (hP : ∀ op, op.reads → P op) (env : EncryptionKey)
    (tenantId : TenantId) (providerType : ProviderType) (name : String) :
    (secret env tenantId providerType name).UsesOnly P := by
  unfold secret ProviderCredentialRepository.getNamed
  refine usesOnly_bind (usesOnly_read hP _) fun record => ?_
  cases record with
  | none => trivial
  | some record => simp

theorem usesOnly_referralProvider (hP : ∀ op, op.reads → P op) (env : EncryptionKey)
    (tenantId : TenantId) (providerType : ProviderType) :
    (referralProvider env tenantId providerType).UsesOnly P := by
  unfold referralProvider
  split
  · refine usesOnly_bind (usesOnly_secret hP _ _ _ _) fun _ => ?_
    exact usesOnly_bind (usesOnly_secret hP _ _ _ _) fun _ => by simp
  · trivial

theorem usesOnly_telegram (hP : ∀ op, op.reads → P op) (env : EncryptionKey)
    (tenantId : TenantId) : (telegram env tenantId).UsesOnly P := by
  unfold telegram TelegramBotConfigRepository.get
  refine usesOnly_bind (usesOnly_read hP _) fun config => ?_
  cases config with
  | none => trivial
  | some config => exact usesOnly_secret hP _ _ _ _

end ProviderFactory

theorem usesOnly_getMe (hP : ∀ botToken, P (.telegram (.getMe botToken) none))
    (botToken : String) : (TelegramBotProvider.getMe botToken).UsesOnly P := by
  refine usesOnly_bind ?_ fun answer => by simp
  rw [Program.usesOnly_perform]
  exact hP botToken

/-- Both callers build the providers, and let only a missing credential pass. -/
theorem usesOnly_configured (hP : ∀ op, op.reads → P op) (env : EncryptionKey)
    (tenantId : TenantId) (providerType : ProviderType) :
    (Scheduler.configured env tenantId providerType).UsesOnly P := by
  unfold Scheduler.configured
  refine usesOnly_tryCatch (usesOnly_bind (ProviderFactory.usesOnly_referralProvider hP _ _ _)
    fun _ => usesOnly_bind (ProviderFactory.usesOnly_telegram hP _ _) fun _ => by simp) fun e => ?_
  split
  · simp
  · trivial

end Providers

theorem TelegramWebhook.configured_eq (env : EncryptionKey) (tenantId : TenantId) :
    TelegramWebhook.configured env tenantId = Scheduler.configured env tenantId .bitunix := rfl

/-- Reading rows leaves the world as it is. -/
theorem wp_reads {α : Type} {G : World → Op → Choice → Prop} {w : World} {p : App α}
    (hp : p.UsesOnly Op.reads) : wp (serial G) p (fun _ w' => w' = w) w := by
  refine wp_usesOnly (I := fun w' => w' = w) (fun s op c hop hc hs => ?_) hp rfl
  cases op with
  | select t cond => exact hs
  | _ => exact hop.elim

end VipChannel
