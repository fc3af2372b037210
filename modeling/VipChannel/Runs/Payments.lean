/-
  VipChannel.Runs.Payments

  Payments over time: how many records a transaction hash gets.
-/
import VipChannel.Services.PaymentService
import VipChannel.Runs.Events

namespace VipChannel

open Lib

/-- The payment webhook: a request that is not well formed never reaches the service. -/
def ingestPaymentWebhook (tenantId : TenantId) (payload : PaymentIngestRequest) :
    App PaymentIngestResponse :=
  if payload.wellFormed then
    requestTx tenantId (PaymentProcessingService.processPayment tenantId payload)
  else throw requestValidationError

/-- An accepted request, and the worlds before and after it. -/
structure Ingest where
  payload : PaymentIngestRequest
  before : World
  response : PaymentIngestResponse
  after : World

/-- The accepted requests of a tenant, one after the other.  What happens in between
    leaves the payment records alone. -/
inductive Ingests (G : World → Op → Choice → Prop) (tenantId : TenantId) (w₀ : World) :
    List Ingest → World → Prop
  | start : Ingests G tenantId w₀ [] w₀
  | accepted {steps : List Ingest} {s : Ingest} : Ingests G tenantId w₀ steps s.before →
      Runs (serial G) (ingestPaymentWebhook tenantId s.payload) s.before (.ok s.response)
        s.after →
      Ingests G tenantId w₀ (steps ++ [s]) s.after
  | elsewhere {steps : List Ingest} {w w' : World} : Ingests G tenantId w₀ steps w →
      w'.db .paymentRecords = w.db .paymentRecords → Ingests G tenantId w₀ steps w'

/-- The hashes of a tenant's payment records. -/
def Database.txHashes (d : Database) (tenantId : TenantId) : List String :=
  ((d .paymentRecords).filter (·.tenantId == tenantId)).map (·.txHash)

/-- The hash of a request as its column keeps it. -/
def Ingest.txHash (s : Ingest) : String :=
  cut 255 s.payload.txHash

/-- At most one record of a hash, and an accepted request of a recorded hash is the same
    user's and creates nothing. -/
structure IdempotentIngest (tenantId : TenantId) (steps : List Ingest) (w : World) : Prop where
  unique : (w.db.txHashes tenantId).Nodup
  repeated : ∀ s ∈ steps, ∀ r ∈ s.before.db .paymentRecords, r.tenantId = tenantId →
    r.txHash = s.txHash →
      r.userId = s.payload.userId ∧ s.after.db .paymentRecords = s.before.db .paymentRecords

section Ingest

variable {G : World → Op → Choice → Prop} {tenantId : TenantId} {w w' w₀ : World}
  {payload : PaymentIngestRequest}

theorem PaymentProcessingService.txHash_of_paymentColumns {stored : PaymentIngestRequest}
    (h : paymentColumns payload = .ok stored) : stored.txHash = cut 255 payload.txHash := by
  unfold paymentColumns at h
  obtain ⟨txHash, hhash, h⟩ := bind_eq_ok.mp h
  obtain ⟨amount, -, h⟩ := bind_eq_ok.mp h
  obtain ⟨currency, -, h⟩ := bind_eq_ok.mp h
  cases h
  exact (stringColumn_eq_ok.mp hhash).2

theorem meets_processPayment :
    Meets G (PaymentProcessingService.processPayment w.tenantId payload)
      (fun _ w' => ∃ record : PaymentRecord, record.tenantId = w.tenantId ∧
        record.txHash = cut 255 payload.txHash ∧
        w'.view .paymentRecords = w.view .paymentRecords ++ [record])
      (fun _ _ => True) w := by
  unfold PaymentProcessingService.processPayment
  rw [meets_bind]
  refine meets_uuid4 fun id => ?_
  rw [meets_bind]
  refine meets_raising (fun stored hstored => ?_) fun _ => trivial
  rw [meets_bind]
  refine meets_saveNew rfl (by simp) (fun r hr => ?_) (fun _ _ => ?_) fun _ => trivial
  · simp only [beq_iff_eq] at hr
    simp [clash, hr]
  · exact ⟨_, rfl, PaymentProcessingService.txHash_of_paymentColumns hstored,
      Store.append_self w.view Table.paymentRecords _⟩

/-- Every accepted request leaves one more record of its hash. -/
theorem ingest_records {response : PaymentIngestResponse}
    (h : Runs (serial G) (ingestPaymentWebhook tenantId payload) w (.ok response) w') :
    ∃ record : PaymentRecord, record.tenantId = tenantId ∧
      record.txHash = cut 255 payload.txHash ∧
      w'.db .paymentRecords = w.db .paymentRecords ++ [record] := by
  unfold ingestPaymentWebhook at h
  split at h
  · obtain ⟨w₁, hbody, -, hdb⟩ := runs_requestTx_ok h
    have hmeets : Meets G (PaymentProcessingService.processPayment (w.opened tenantId).tenantId
      payload) _ _ (w.opened tenantId) := meets_processPayment
    obtain ⟨record, ht, hhash, hview⟩ := wp_sound hmeets hbody
    rw [hdb]
    exact ⟨record, ht, hhash, hview⟩
  · cases h.1

theorem txHashes_append {d d' : Database} {record : PaymentRecord}
    (ht : record.tenantId = tenantId)
    (h : d' .paymentRecords = d .paymentRecords ++ [record]) :
    d'.txHashes tenantId = d.txHashes tenantId ++ [record.txHash] := by
  unfold Database.txHashes
  rw [h]
  simp [ht]

/-- The tenant's hashes after the requests: those before, and one for each. -/
theorem Ingests.txHashes {steps : List Ingest} (h : Ingests G tenantId w₀ steps w) :
    w.db.txHashes tenantId = w₀.db.txHashes tenantId ++ steps.map Ingest.txHash := by
  induction h with
  | start => exact (List.append_nil _).symm
  | accepted _ hstep ih =>
    obtain ⟨record, ht, hhash, hrecords⟩ := ingest_records hstep
    rw [txHashes_append ht hrecords, ih, hhash, List.map_append, List.append_assoc]
    rfl
  | elsewhere _ hsame ih =>
    rw [← ih]
    unfold Database.txHashes
    rw [hsame]

/-- A request of a hash that is not recorded yet repeats nothing. -/
theorem Ingests.fresh {steps : List Ingest} (h : Ingests G tenantId w₀ steps w)
    (hnodup : (w₀.db.txHashes tenantId ++ steps.map Ingest.txHash).Nodup) :
    ∀ s ∈ steps, s.txHash ∉ s.before.db.txHashes tenantId := by
  induction h with
  | start => exact fun s hs => absurd hs List.not_mem_nil
  | @accepted steps s hbefore hstep ih =>
    rw [List.map_append, ← List.append_assoc, List.nodup_append] at hnodup
    obtain ⟨hnodup, -, hdisjoint⟩ := hnodup
    intro s' hs'
    rcases List.mem_append.mp hs' with hs' | hs'
    · exact ih hnodup s' hs'
    · rw [List.mem_singleton.mp hs', hbefore.txHashes]
      exact fun hmem => hdisjoint _ hmem _ (by simp) rfl
  | elsewhere _ _ ih => exact ih hnodup

theorem mem_txHashes {d : Database} {hash : String} :
    hash ∈ d.txHashes tenantId ↔
      ∃ r ∈ d .paymentRecords, r.tenantId = tenantId ∧ r.txHash = hash := by
  simp only [Database.txHashes, List.mem_map, List.mem_filter, beq_iff_eq]
  exact ⟨fun ⟨r, ⟨hr, ht⟩, hh⟩ => ⟨r, hr, ht, hh⟩, fun ⟨r, hr, ht, hh⟩ => ⟨r, ⟨hr, ht⟩, hh⟩⟩

/-- Ingest is idempotent exactly where the hashes of the accepted requests, as they are
    kept, are new and pairwise distinct. -/
theorem payments_recorded_once {steps : List Ingest} (h : Ingests G tenantId w₀ steps w) :
    IdempotentIngest tenantId steps w ↔
      (w₀.db.txHashes tenantId ++ steps.map Ingest.txHash).Nodup := by
  constructor
  · intro hidem
    rw [← h.txHashes]
    exact hidem.unique
  · intro hnodup
    refine ⟨by rw [h.txHashes]; exact hnodup, fun s hs r hr ht hhash => ?_⟩
    exact absurd (mem_txHashes.mpr ⟨r, hr, ht, hhash⟩) (h.fresh hnodup s hs)

end Ingest

/-! ## One hash, two users -/

def paymentOf (userId : RowId) (txHash : String) : PaymentIngestRequest where
  txHash := txHash
  userId := userId
  amount := .ofInt 100

/-- Nothing fails, and new ids are new. -/
def payingEnv (w : World) : Op → Choice
  | .uuid4 => { id := (w.view .paymentRecords).length }
  | _ => {}

/-- A request that is accepted as the environment has it. -/
def ingestIn (w : World) (payload : PaymentIngestRequest) : Ingest where
  payload := payload
  before := w
  response := ⟨"PROCESSED", (w.db .paymentRecords).length, payload.txHash⟩
  after := (exec World.step payingEnv (ingestPaymentWebhook 1 payload) w).2

theorem runs_ingestIn {w : World} {payload : PaymentIngestRequest}
    (h : (exec World.step payingEnv (ingestPaymentWebhook 1 payload) w).1 =
      .ok (ingestIn w payload).response) :
    Runs (serial (Only payingEnv)) (ingestPaymentWebhook 1 payload) w
      (.ok (ingestIn w payload).response) (ingestIn w payload).after := by
  have hruns := runs_only payingEnv
    (ingestPaymentWebhook 1 payload) w
  rw [h] at hruns
  exact hruns

/-- The first user's payment, and a second request after it. -/
def firstPayment : Ingest := ingestIn configuredWorld (paymentOf 5 "0xabc")

def secondPayment (userId : RowId) (txHash : String) : Ingest :=
  ingestIn firstPayment.after (paymentOf userId txHash)

/-- A hash recorded for one user is accepted from another, and recorded again. -/
theorem one_hash_two_users :
    Ingests (Only payingEnv) 1 configuredWorld [firstPayment, secondPayment 6 "0xabc"]
        (secondPayment 6 "0xabc").after ∧
      ¬ IdempotentIngest 1 [firstPayment, secondPayment 6 "0xabc"]
        (secondPayment 6 "0xabc").after := by
  have hfirst : Ingests (Only payingEnv) 1 configuredWorld ([] ++ [firstPayment])
      firstPayment.after := .accepted .start (runs_ingestIn (by decide +kernel))
  have hrepeated := Ingests.accepted (s := secondPayment 6 "0xabc") hfirst
    (runs_ingestIn (by decide +kernel))
  refine ⟨hrepeated, fun hidem => ?_⟩
  have htwice : (secondPayment 6 "0xabc").after.db.txHashes 1 = ["0xabc", "0xabc"] := by
    decide +kernel
  have hnodup := hidem.unique
  rw [htwice] at hnodup
  simp at hnodup

/-- Two payments of different hashes. -/
theorem two_hashes_recorded_once :
    IdempotentIngest 1 [firstPayment, secondPayment 6 "0xdef"]
      (secondPayment 6 "0xdef").after := by
  have hfirst : Ingests (Only payingEnv) 1 configuredWorld ([] ++ [firstPayment])
      firstPayment.after := .accepted .start (runs_ingestIn (by decide +kernel))
  have hsecond := Ingests.accepted (s := secondPayment 6 "0xdef") hfirst
    (runs_ingestIn (by decide +kernel))
  exact (payments_recorded_once hsecond).mpr (by decide +kernel)

end VipChannel
