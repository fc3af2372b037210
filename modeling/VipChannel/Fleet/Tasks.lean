/-
  VipChannel.Fleet.Tasks

  What instances may be at work on at one time, and that each keeps to its duty: every
  operation of a tenant, submissions, and the sweep.
-/
import VipChannel.Fleet.AdminDuty
import VipChannel.Runs.Isolation

namespace VipChannel

open Lib
open Program (perform raising UsesOnly usesOnly_bind usesOnly_raising)

/-- What an instance is asked for. -/
inductive Task where
  | operation (A : TenantId) (op : Operation)
  | submission (A : TenantId) (telegramUserId : Int) (market : Market) (rawUid : String)
      (username firstName : Option String)
  | sweep

inductive TaskResult where
  | response (response : Response)
  | submitted (result : Option OnboardingResult)
  | swept

namespace Task

def program (key : EncryptionKey) (S : Settings) : Task → App TaskResult
  | operation A op => return .response (← op.program key S A)
  | submission A telegramUserId market rawUid username firstName =>
    return .submitted
      (← submitTx S.ttl S.providerType A telegramUserId market rawUid username firstName)
  | sweep => do
    Scheduler.runComplianceSweep key S.providerType S.period
    return .swept

/-- Who may be sent an invite, and for which UID. -/
def who (S : Settings) : Task → Option Enrolment
  | operation _ (.update _ (some incoming)) => some incoming.enrolment
  | submission _ telegramUserId _ rawUid _ _ =>
    some { providerType := S.providerType, uid := normalizeUid rawUid, telegramUserId }
  | _ => none

/-- What a task that has returned knows of committed rows: a link it returns is for the user
    whose account backs it, and a webhook path it returns is the tenant's. -/
def Leaves (S : Settings) : Task → Except PyError TaskResult → Shift → Prop
  | submission A telegramUserId _ rawUid _ _, .ok (.submitted (some result)), s =>
    ∀ link, result.inviteLink = some link → ∃ userId, Enrolment.Backed
      { providerType := S.providerType, uid := normalizeUid rawUid, telegramUserId }
      A userId s.vouched
  | operation A (.upsertBot _), .ok (.response (.bot response)), s =>
    ∃ token, response.webhookPath = some ("/api/v1/telegram/" ++ token) ∧
      .route token A "TELEGRAM" ∈ s.vouched
  | _, _, _ => True

end Task

namespace Shift

section Operations

variable {who : Option Enrolment} {s : Shift} {key : EncryptionKey} {S : Settings} {A : TenantId}

/-- What becomes of the answer is no call. -/
theorem wp_answer {α β : Type} {p : App α} {f : α → β}
    (h : wp (machine who) p (fun _ _ => True) s) :
    wp (machine who) (p >>= fun a => return f a) (fun _ _ => True) s := by
  rw [wp_bind]
  refine wp_mono ?_ h
  rintro (e | a) s' -
  · trivial
  · trivial

theorem wp_mildTx {α β : Type} {body : App α} {f : α → β} (h : body.UsesOnly Op.mild) :
    wp (machine who) (requestTx A body >>= fun a => return f a) (fun _ _ => True) s := by
  have hbody : wp (machine who) body (fun r _ => ∀ a, r = .ok a → True) (s.renewed A) :=
    wp_mono (fun _ _ _ _ _ => trivial) (wp_mild h)
  exact wp_answer (wp_mono (fun _ _ _ => trivial) (wp_requestTx (Q := fun _ _ => True) hbody))

theorem wp_update {token : String} {incoming : Option IncomingUpdate} :
    wp (machine (Task.who S (.operation A (.update token incoming))))
      (TelegramWebhook.receiveUpdate key S.ttl token incoming) (fun _ _ => True) s := by
  cases incoming with
  | some incoming => exact TelegramWebhook.wp_receiveUpdate
  | none =>
    refine wp_blameless ?_
    unfold TelegramWebhook.receiveUpdate TelegramWebhook.route
    refine usesOnly_bind (quiet_blameless (usesOnly_bind (quiet_call trivial) fun _ => ?_))
      fun tenantId => ?_
    · exact (usesOnly_raising _).mpr trivial
    · cases tenantId <;> trivial

/-- A bot's request that returns has committed the route it names. -/
theorem wp_botTx {payload : BotConfigRequest} :
    wp (machine who) (requestTx A (VipChannel.Admin.upsertBot key A payload)) (fun r s' =>
      ∀ response, r = .ok response → ∃ token,
        response.webhookPath = some ("/api/v1/telegram/" ++ token) ∧
          .route token A "TELEGRAM" ∈ s'.vouched) s := by
  refine wp_requestTx (Q := fun (response : BotConfigResponse) s' => ∃ token,
    response.webhookPath = some ("/api/v1/telegram/" ++ token) ∧
      .route token A "TELEGRAM" ∈ s'.vouched) ?_
  refine wp_mono ?_ (Admin.wp_upsertBot rfl rfl)
  intro r s' hs' response hr
  obtain ⟨token, hpath, hknown⟩ := hs' response hr
  refine ⟨token, hpath, ?_⟩
  show _ ∈ s'.vouched ++ (s'.known ++ s'.pending)
  exact List.mem_append_right _ (List.mem_append_left _ hknown)

/-- An operation of a tenant keeps to its duty. -/
theorem wp_operation (op : Operation) (hbot : ∀ payload, op ≠ .upsertBot payload) :
    wp (machine (Task.who S (.operation A op))) (op.program key S A) (fun _ _ => True) s := by
  cases op with
  | update token incoming => exact wp_answer (f := fun _ => Response.ok) wp_update
  | upsertCredential payload =>
    exact wp_mildTx (Admin.quiet_mild (Admin.quiet_upsertCredential key A payload))
  | listCredentials => exact wp_mildTx (Admin.quiet_mild (Admin.quiet_listCredentials A))
  | upsertReferralConfig payload =>
    exact wp_mildTx (Admin.quiet_mild (Admin.quiet_upsertReferralConfig A payload))
  | upsertChannel payload =>
    exact wp_mildTx (Admin.quiet_mild (Admin.quiet_upsertChannel A payload))
  | listChannels => exact wp_mildTx (Admin.quiet_mild (quiet_listAll A))
  | upsertBot payload => exact (hbot payload rfl).elim
  | checkIntegration => exact wp_mildTx (Admin.mild_checkIntegration key A)
  | ingestPayment payload =>
    show wp _ (ingestPaymentWebhook A payload >>= fun response =>
      return Response.payment response) _ s
    unfold ingestPaymentWebhook
    split
    · exact wp_mildTx (Admin.quiet_mild (Admin.quiet_processPayment A payload))
    · trivial
  | monitor now => exact wp_answer wp_passTx
  | sweep => exact wp_answer (f := fun _ => Response.ok) wp_sweepTenant

end Operations

/-- Every task keeps to its duty, and leaves what it promises. -/
theorem wp_task (key : EncryptionKey) (S : Settings) (task : Task) (s : Shift) :
    wp (machine (task.who S)) (task.program key S) (task.Leaves S) s := by
  cases task with
  | operation A op =>
    by_cases hbot : ∃ payload, op = .upsertBot payload
    · obtain ⟨payload, rfl⟩ := hbot
      show wp _ ((requestTx A (VipChannel.Admin.upsertBot key A payload) >>= fun response =>
        return Response.bot response) >>= fun response => return TaskResult.response response) _ s
      rw [wp_bind, wp_bind]
      refine wp_mono ?_ wp_botTx
      rintro (e | response) s' hs'
      · trivial
      · exact hs' response rfl
    · refine wp_mono ?_ (wp_answer (f := TaskResult.response)
        (wp_operation op fun payload h => hbot ⟨payload, h⟩))
      intro r s' _
      cases op with
      | upsertBot payload => exact (hbot ⟨payload, rfl⟩).elim
      | _ => trivial
  | sweep =>
    exact wp_mono (fun _ _ _ => trivial)
      (wp_answer (f := fun _ => TaskResult.swept) wp_runComplianceSweep)
  | submission A telegramUserId market rawUid username firstName =>
    show wp _ (submitTx S.ttl S.providerType A telegramUserId market rawUid username firstName >>=
      fun result => return TaskResult.submitted result) _ s
    rw [wp_bind]
    refine wp_mono ?_ (wp_submitTx (e := { providerType := S.providerType
                                           uid := normalizeUid rawUid, telegramUserId }) rfl)
    rintro (e | result) s' hs'
    · trivial
    · cases result with
      | none => trivial
      | some result => exact hs' result rfl

end Shift

end VipChannel
