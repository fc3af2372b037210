/-
  VipChannel.Runs.Money

  Money as it is stored: what validation lets through, and what the columns have room for.

  Neither schema bounds the places or the digits of an amount.  So a request is accepted
  whose amount the column rounds, or has no room for.
-/
import VipChannel.Runs.Payments
import VipChannel.Web.GraceLimits
import VipChannel.Web.Readiness

namespace VipChannel

open Lib
open Program (perform raising)

/-- New payment records get ids no record has. -/
def FreshPaymentIds (G : World → Op → Choice → Prop) : Prop :=
  ∀ w c, G w .uuid4 c → ∀ r ∈ w.view .paymentRecords, r.id ≠ c.id

section Requests

variable {G : World → Op → Choice → Prop} {tenantId : TenantId} {w w' : World}

/-! ## Payments -/

section Payment

variable {payload : PaymentIngestRequest}

/-- A payment is recorded with what the columns keep of it. -/
theorem works_processPayment (hids : FreshPaymentIds G) (hconflict : w.conflict = none) :
    Works G (PaymentProcessingService.processPayment w.tenantId payload)
      (fun _ w' => w'.conflict = none ∧ ∃ stored record,
        PaymentProcessingService.paymentColumns payload = .ok stored ∧
        record.amount = stored.amount ∧
        w'.view .paymentRecords = w.view .paymentRecords ++ [record])
      (fun e _ => PaymentProcessingService.paymentColumns payload = .error e) w := by
  unfold PaymentProcessingService.processPayment
  rw [works_bind]
  refine works_uuid4 fun c hc => ?_
  rw [works_bind]
  refine works_raising (fun stored hstored => ?_) fun e he => he
  rw [works_bind]
  refine works_saveNew hconflict rfl (by simp) (fun r hr => ?_) (fun r hr => ?_) ?_
  · simp only [beq_iff_eq] at hr
    simp [clash, hr]
  · have hid := hids w c hc r hr
    simp [clash, Ne.symm hid]
  · exact ⟨hconflict, stored, _, hstored, rfl, Store.append_self w.view Table.paymentRecords _⟩

/-- How an accepted request ends. -/
theorem ingest_ends (hids : FreshPaymentIds G) (hvalid : payload.wellFormed = true)
    {r : Except PyError PaymentIngestResponse}
    (h : Runs (serial G) (ingestPaymentWebhook tenantId payload) w r w') :
    (∃ response stored record, r = .ok response ∧
      PaymentProcessingService.paymentColumns payload = .ok stored ∧
      record.amount = stored.amount ∧
      w'.db .paymentRecords = w.db .paymentRecords ++ [record]) ∨
    ∃ e, r = .error e ∧
      (Broken G ∨ PaymentProcessingService.paymentColumns payload = .error e) := by
  unfold ingestPaymentWebhook at h
  rw [if_pos hvalid] at h
  have hworks : Works G (requestTx tenantId (PaymentProcessingService.processPayment tenantId
      payload)) (fun _ w' => ∃ stored record,
        PaymentProcessingService.paymentColumns payload = .ok stored ∧
        record.amount = stored.amount ∧
        w'.db .paymentRecords = w.db .paymentRecords ++ [record])
      (fun e _ => PaymentProcessingService.paymentColumns payload = .error e) w := by
    apply works_requestTx
    exact works_processPayment (w := w.opened tenantId) hids rfl
  have hend := wp_sound hworks h
  cases r with
  | ok response =>
    obtain ⟨stored, record, hstored, hamount, hrecords⟩ := hend
    exact .inl ⟨response, stored, record, rfl, hstored, hamount, hrecords⟩
  | error e => exact .inr ⟨e, rfl, hend⟩

end Payment

/-! ## Programs -/

section Program

variable {payload : ReferralConfigRequest}

/-- What the request asks for is written to its program, as the columns keep it. -/
theorem works_configureProgram (hconflict : w.conflict = none)
    (hthere : ∃ r ∈ w.view .referralProgramConfigs,
      w.inScope (t := .referralProgramConfigs) (Admin.isProgram w.tenantId payload) r = true) :
    Works G (do
        let stored ← raising (Admin.programColumns payload)
        update .referralProgramConfigs (Admin.isProgram w.tenantId payload)
          (Admin.configureProgram stored)
        saveLoaded .referralProgramConfigs (Admin.isProgram w.tenantId payload))
      (fun config w' => w'.conflict = none ∧ config ∈ w'.view .referralProgramConfigs ∧
        Admin.isProgram w.tenantId payload config = true ∧
        ∃ stored, Admin.programColumns payload = .ok stored ∧
          config.minimumBalance = stored.minimumBalance)
      (fun e _ => Admin.programColumns payload = .error e) w := by
  rw [works_bind]
  refine works_raising (fun stored hstored => ?_) fun e he => he
  rw [works_bind]
  refine works_update (fun r _ s => rfl) ?_
  have hrows := Store.modify_self w.view Table.referralProgramConfigs
  refine works_saveLoaded hconflict ?_ fun r hr hscope => ?_
  · obtain ⟨r, hr, hscope⟩ := hthere
    refine ⟨Admin.configureProgram stored r, ?_, hscope⟩
    simp only [hrows]
    exact change_mem_modifyRows hr hscope
  · refine ⟨hconflict, hr, World.inScope_cond hscope, ?_⟩
    simp only [hrows] at hr
    -- The rows the refresh looks at are the rows the update changed.
    obtain ⟨s, hs, rfl⟩ := mem_modifyRows.mp hr
    have hchanged : w.inScope (t := .referralProgramConfigs)
        (Admin.isProgram w.tenantId payload) s = true := by
      by_contra hno
      rw [if_neg hno] at hscope
      exact hno hscope
    rw [if_pos hchanged]
    exact ⟨stored, hstored, rfl⟩

theorem works_upsertReferralConfig (hw : w.Sound) (hconflict : w.conflict = none) :
    Works G (Admin.upsertReferralConfig w.tenantId payload)
      (fun config w' => w'.conflict = none ∧ config ∈ w'.view .referralProgramConfigs ∧
        Admin.isProgram w.tenantId payload config = true ∧
        ∃ stored, Admin.programColumns payload = .ok stored ∧
          config.minimumBalance = stored.minimumBalance)
      (fun e _ => Admin.programColumns payload = .error e) w := by
  unfold Admin.upsertReferralConfig
  rw [works_bind]
  refine works_getFor hw hconflict fun config hfound => ?_
  cases config with
  | some config =>
    obtain ⟨hmem, hscope, -⟩ := hfound
    exact works_configureProgram hconflict ⟨config, hmem, hscope⟩
  | none =>
    dsimp only
    rw [works_bind]
    refine works_raising (fun referralLink _ => ?_) fun e he => ?_
    swap
    · simp only [Admin.programColumns, he]
      rfl
    rw [works_bind]
    refine works_saveNew hconflict rfl (by simp [Admin.isProgram]) (fun r hr => ?_)
      (fun r hr => ?_) ?_
    · simp only [Admin.isProgram, Bool.and_eq_true, beq_iff_eq] at hr
      simp [clash, hr]
    · have hnone := hfound r hr
      by_contra hclash
      have heq := eq_true_of_ne_false hclash
      simp only [clash, decide_eq_true_eq] at heq
      simp [World.inScope, rowTenant, ← heq.1, ← heq.2.1, ← heq.2.2] at hnone
    · let added : ReferralProgramConfig :=
        { tenantId := w.tenantId, providerType := payload.providerType, market := payload.market
          referralLink }
      refine works_configureProgram
        (w := { w with view := w.view.append .referralProgramConfigs added }) hconflict
        ⟨added, ?_, ?_⟩
      · simp only [Store.append_self, List.mem_append, List.mem_singleton, or_true]
      · simp [World.inScope, rowTenant, Admin.isProgram, added]

/-- How a request for a program ends. -/
theorem upsertReferralConfig_ends (hw : w.Sound) {r : Except PyError ReferralProgramConfig}
    (h : Runs (serial G) (requestTx tenantId (Admin.upsertReferralConfig tenantId payload)) w r
      w') :
    (∃ config stored, r = .ok config ∧ config ∈ w'.db .referralProgramConfigs ∧
      Admin.isProgram tenantId payload config = true ∧
      Admin.programColumns payload = .ok stored ∧
      config.minimumBalance = stored.minimumBalance) ∨
    ∃ e, r = .error e ∧ (Broken G ∨ Admin.programColumns payload = .error e) := by
  have hworks : Works G (requestTx tenantId (Admin.upsertReferralConfig tenantId payload))
      (fun config w' => config ∈ w'.db .referralProgramConfigs ∧
        Admin.isProgram tenantId payload config = true ∧
        ∃ stored, Admin.programColumns payload = .ok stored ∧
          config.minimumBalance = stored.minimumBalance)
      (fun e _ => Admin.programColumns payload = .error e) w := by
    apply works_requestTx
    exact works_upsertReferralConfig (w := w.opened tenantId) (hw.opened tenantId) rfl
  have hend := wp_sound hworks h
  cases r with
  | ok config =>
    obtain ⟨hmem, hprogram, stored, hstored, hbalance⟩ := hend
    exact .inl ⟨config, stored, rfl, hmem, hprogram, hstored, hbalance⟩
  | error e => exact .inr ⟨e, rfl, hend⟩

end Program

end Requests

/-! ## Room -/

/-- The columns of the texts have room for them. -/
structure PaymentIngestRequest.Storable (payload : PaymentIngestRequest) : Prop where
  txHash : HasRoom 255 payload.txHash
  currency : HasRoom 10 payload.currency

/-- The columns keep a payment's amount as it is where they have room for the payment. -/
theorem paymentColumns_keep_iff {payload : PaymentIngestRequest} {q : ℚ}
    (hq : payload.amount.value = some q) :
    (∃ stored, PaymentProcessingService.paymentColumns payload = .ok stored ∧
      stored.amount.value = payload.amount.value) ↔
      payload.Storable ∧ payload.amount.Fits 30 8 := by
  unfold PaymentProcessingService.paymentColumns
  constructor
  · rintro ⟨stored, hstored, hsame⟩
    obtain ⟨txHash, hhash, hstored⟩ := bind_eq_ok.mp hstored
    obtain ⟨amount, hamount, hstored⟩ := bind_eq_ok.mp hstored
    obtain ⟨currency, hcurrency, hstored⟩ := bind_eq_ok.mp hstored
    cases hstored
    refine ⟨⟨(stringColumn_eq_ok.mp hhash).1, (stringColumn_eq_ok.mp hcurrency).1⟩, ?_⟩
    exact fits_of_numericColumn hamount hsame (by rw [hq]; rfl)
  · rintro ⟨hroom, hfits⟩
    obtain ⟨kept, hkept, hsame⟩ := numericColumn_of_fits hfits
    refine ⟨{ payload with
      txHash := cut 255 payload.txHash, amount := kept
      currency := cut 10 payload.currency }, ?_, hsame⟩
    rw [stringColumn_eq_ok.mpr ⟨hroom.txHash, rfl⟩, hkept,
      stringColumn_eq_ok.mpr ⟨hroom.currency, rfl⟩]
    rfl

/-- The columns keep a program's minimum as it is where they have room for the program. -/
theorem programColumns_keep_iff {payload : ReferralConfigRequest} {q : ℚ}
    (hq : payload.minimumBalance.value = some q) :
    (∃ stored, Admin.programColumns payload = .ok stored ∧
      stored.minimumBalance.value = payload.minimumBalance.value) ↔
      payload.Storable ∧ payload.minimumBalance.Fits 30 8 := by
  unfold Admin.programColumns
  constructor
  · rintro ⟨stored, hstored, hsame⟩
    obtain ⟨link, hlink, hstored⟩ := bind_eq_ok.mp hstored
    obtain ⟨ibId, hibId, hstored⟩ := bind_eq_ok.mp hstored
    obtain ⟨balance, hbalance, hstored⟩ := bind_eq_ok.mp hstored
    obtain ⟨trades, htrades, hstored⟩ := bind_eq_ok.mp hstored
    obtain ⟨days, hdays, hstored⟩ := bind_eq_ok.mp hstored
    obtain ⟨grace, hgrace, hstored⟩ := bind_eq_ok.mp hstored
    cases hstored
    refine ⟨⟨(stringColumn_eq_ok.mp hlink).1, (stringColumn?_eq_ok.mp hibId).1,
      (integerColumn_eq_ok.mp htrades).1, (integerColumn_eq_ok.mp hdays).1,
      (integerColumn_eq_ok.mp hgrace).1⟩, ?_⟩
    exact fits_of_numericColumn hbalance hsame (by rw [hq]; rfl)
  · rintro ⟨hroom, hfits⟩
    obtain ⟨kept, hkept, hsame⟩ := numericColumn_of_fits hfits
    have hinteger : ∀ {n : Int}, HasBits 32 n → integerColumn 32 n = .ok n := fun h =>
      integerColumn_eq_ok.mpr ⟨h, rfl⟩
    refine ⟨{ payload with
      referralLink := cut 500 payload.referralLink, ibId := payload.ibId.map (cut 100)
      minimumBalance := kept }, ?_, hsame⟩
    rw [stringColumn_eq_ok.mpr ⟨hroom.referralLink, rfl⟩,
      stringColumn?_eq_ok.mpr ⟨hroom.ibId, rfl⟩, hkept, hinteger hroom.minimumTradesPerPeriod,
      hinteger hroom.tradePeriodDays, hinteger hroom.complianceGracePeriodDays]
    rfl

/-! ## As submitted -/

/-- An accepted payment is recorded with the submitted amount, a positive one, unless a
    statement fails that could have gone through. -/
def PaymentIngestRequest.StoredAsSubmitted (payload : PaymentIngestRequest) : Prop :=
  ∀ G tenantId w r w', w.Sound → FreshPaymentIds G →
    Runs (serial G) (ingestPaymentWebhook tenantId payload) w r w' →
    (∃ response record, r = .ok response ∧
      w'.db .paymentRecords = w.db .paymentRecords ++ [record] ∧
      record.amount.value = payload.amount.value ∧
      ∃ q, record.amount.value = some q ∧ 0 < q) ∨
    (Broken G ∧ ∃ e, r = .error e)

/-- An accepted program is stored, and answered, with the submitted minimum, unless a
    statement fails that could have gone through. -/
def ReferralConfigRequest.StoredAsSubmitted (payload : ReferralConfigRequest) : Prop :=
  ∀ G tenantId w r w', w.Sound →
    Runs (serial G) (requestTx tenantId (Admin.upsertReferralConfig tenantId payload)) w r w' →
    (∃ config, r = .ok config ∧ config ∈ w'.db .referralProgramConfigs ∧
      Admin.isProgram tenantId payload config = true ∧
      config.minimumBalance.value = payload.minimumBalance.value) ∨
    (Broken G ∧ ∃ e, r = .error e)

/-- Nothing is stored yet. -/
def blankWorld : World where
  db := fun _ => []
  registry := []
  tenantId := 0
  view := fun _ => []
  conflict := none
  saved := fun _ => []
  sent := []
  txSent := []
  asked := []
  clock := 0

theorem sound_blankWorld : blankWorld.Sound where
  db := fun _ => List.Pairwise.nil
  view := fun _ => List.Pairwise.nil
  saved := fun _ => List.Pairwise.nil

/-- Every call is answered, and a new id is larger than those there are. -/
def numberingEnv (w : World) (_ : Op) : Choice where
  id := ((w.view .paymentRecords).map (·.id)).sum + 1

theorem solid_numberingEnv : ¬ Broken (Only numberingEnv) := by
  rintro ⟨w, op, c, rfl, -, hfault⟩
  exact hfault rfl

theorem fresh_numberingEnv : FreshPaymentIds (Only numberingEnv) := by
  rintro w c rfl r hr heq
  have hle : r.id ≤ ((w.view .paymentRecords).map (·.id)).sum :=
    List.le_sum_of_mem (List.mem_map_of_mem hr)
  have hid : r.id = ((w.view .paymentRecords).map (·.id)).sum + 1 := heq
  rw [hid] at hle
  exact Nat.not_succ_le_self _ hle

theorem PaymentIngestRequest.positive {payload : PaymentIngestRequest}
    (h : payload.wellFormed = true) : ∃ q, payload.amount.value = some q ∧ 0 < q := by
  unfold wellFormed at h
  cases hamount : payload.amount with
  | finite s c e =>
    simp only [hamount, Bool.and_eq_true, Bool.not_eq_true', decide_eq_true_eq] at h
    obtain ⟨⟨-, rfl, hc⟩, -⟩ := h
    refine ⟨_, rfl, ?_⟩
    have hcoeff : (0 : ℚ) < c := by exact_mod_cast hc
    have hsigned : ((Decimal.signed false c : ℤ) : ℚ) = c := rfl
    rw [Decimal.val, hsigned]
    positivity
  | infinity s => simp [hamount] at h
  | nan s => simp [hamount] at h

theorem payment_stored_iff {payload : PaymentIngestRequest} (hvalid : payload.wellFormed = true) :
    payload.StoredAsSubmitted ↔ payload.Storable ∧ payload.amount.Fits 30 8 := by
  obtain ⟨q, hq, hpos⟩ := PaymentIngestRequest.positive hvalid
  rw [← paymentColumns_keep_iff hq]
  constructor
  · intro h
    have hruns := runs_only numberingEnv (ingestPaymentWebhook 1 payload) blankWorld
    obtain ⟨response, record, hr, hrecords, hsame, -⟩ | ⟨hbroken, -⟩ :=
      h _ _ _ _ _ sound_blankWorld fresh_numberingEnv hruns
    · obtain ⟨_, stored, record', -, hstored, hamount, hrecords'⟩ | ⟨e, he, -⟩ :=
        ingest_ends fresh_numberingEnv hvalid hruns
      · rw [hrecords, List.append_cancel_left_eq, List.cons.injEq] at hrecords'
        rw [← hrecords'.1] at hamount
        exact ⟨stored, hstored, hamount ▸ hsame⟩
      · rw [hr] at he
        cases he
    · exact absurd hbroken solid_numberingEnv
  · rintro ⟨stored, hstored, hsame⟩ G tenantId w r w' _ hids hruns
    obtain ⟨response, stored', record, hr, hstored', hamount, hrecords⟩ | ⟨e, he, hwhy⟩ :=
      ingest_ends hids hvalid hruns
    · rw [hstored] at hstored'
      cases hstored'
      rw [← hamount] at hsame
      exact .inl ⟨response, record, hr, hrecords, hsame, q, hsame.trans hq, hpos⟩
    · refine .inr ⟨hwhy.resolve_right ?_, e, he⟩
      rw [hstored]
      intro h
      cases h

theorem program_stored_iff {payload : ReferralConfigRequest} (haccepted : payload.Accepted) :
    payload.StoredAsSubmitted ↔ payload.Storable ∧ payload.minimumBalance.Fits 30 8 := by
  obtain ⟨s, c, e, hfinite, -⟩ := haccepted.minimumBalance
  have hq : payload.minimumBalance.value = some (Decimal.val s c e) := by
    rw [hfinite]
    rfl
  rw [← programColumns_keep_iff hq]
  constructor
  · intro h
    have hruns := runs_only numberingEnv
      (requestTx 1 (Admin.upsertReferralConfig 1 payload)) blankWorld
    obtain ⟨config, hr, -, -, hsame⟩ | ⟨hbroken, -⟩ := h _ _ _ _ _ sound_blankWorld hruns
    · obtain ⟨config', stored, hr', -, -, hstored, hbalance⟩ | ⟨e, he, -⟩ :=
        upsertReferralConfig_ends sound_blankWorld hruns
      · rw [hr] at hr'
        cases hr'
        exact ⟨stored, hstored, hbalance ▸ hsame⟩
      · rw [hr] at he
        cases he
    · exact absurd hbroken solid_numberingEnv
  · rintro ⟨stored, hstored, hsame⟩ G tenantId w r w' hw hruns
    obtain ⟨config, stored', hr, hmem, hprogram, hstored', hbalance⟩ | ⟨e, he, hwhy⟩ :=
      upsertReferralConfig_ends hw hruns
    · rw [hstored] at hstored'
      cases hstored'
      rw [← hbalance] at hsame
      exact .inl ⟨config, hr, hmem, hprogram, hsame⟩
    · refine .inr ⟨hwhy.resolve_right ?_, e, he⟩
      rw [hstored]
      intro h
      cases h

/-- The room of `Numeric(30, 8)` for a number that is not negative. -/
theorem fits_iff {d : Decimal} (hnonneg : ∀ q, d.value = some q → 0 ≤ q) :
    d.Fits 30 8 ↔ ∃ q, d.value = some q ∧ (∃ n : ℤ, q * 10 ^ 8 = n) ∧ q < 10 ^ 22 := by
  refine exists_congr fun q => and_congr_right fun hq => and_congr_right fun _ => ?_
  have hsplit : (10 : ℚ) ^ 30 = 10 ^ 22 * 10 ^ 8 := by norm_num
  rw [abs_of_nonneg (hnonneg q hq), hsplit]
  exact mul_lt_mul_iff_left₀ (by norm_num)

theorem PaymentIngestRequest.nonneg {payload : PaymentIngestRequest}
    (h : payload.wellFormed = true) : ∀ q, payload.amount.value = some q → 0 ≤ q := by
  obtain ⟨p, hp, hpos⟩ := PaymentIngestRequest.positive h
  intro q hq
  rw [hp] at hq
  cases hq
  exact hpos.le

theorem ReferralConfigRequest.Accepted.nonneg {payload : ReferralConfigRequest}
    (h : payload.Accepted) : ∀ q, payload.minimumBalance.value = some q → 0 ≤ q := by
  obtain ⟨s, c, e, hfinite, hsign⟩ := h.minimumBalance
  rw [hfinite]
  rintro q ⟨⟩
  rcases hsign with rfl | rfl
  · have hsigned : ((Decimal.signed false c : ℤ) : ℚ) = c := rfl
    rw [Decimal.val, hsigned]
    positivity
  · exact (Decimal.val_eq_zero.mpr rfl).ge

/-- Money is stored as it was submitted if and only if it has eight places at most and is
    below 10²², and the other columns of its row have room too. -/
theorem money_stored_as_submitted_iff (payment : PaymentIngestRequest)
    (program : ReferralConfigRequest) :
    (payment.wellFormed = true →
      (payment.StoredAsSubmitted ↔ payment.Storable ∧ ∃ q, payment.amount.value = some q ∧
        (∃ n : ℤ, q * 10 ^ 8 = n) ∧ q < 10 ^ 22)) ∧
    (program.Accepted →
      (program.StoredAsSubmitted ↔ program.Storable ∧ ∃ q,
        program.minimumBalance.value = some q ∧ (∃ n : ℤ, q * 10 ^ 8 = n) ∧ q < 10 ^ 22)) := by
  constructor
  · intro hvalid
    rw [payment_stored_iff hvalid, fits_iff (PaymentIngestRequest.nonneg hvalid)]
  · intro haccepted
    rw [program_stored_iff haccepted, fits_iff haccepted.nonneg]

/-! ### A satoshi's tenth, and more than a column holds -/

/-- A payment of so much. -/
def paymentOfAmount (amount : Decimal) : PaymentIngestRequest where
  txHash := "0xabc"
  userId := 5
  amount := amount

/-- An accepted payment is stored as zero. -/
theorem dust_is_stored_as_zero :
    ¬ ∀ payload : PaymentIngestRequest, payload.wellFormed = true → payload.StoredAsSubmitted := by
  intro h
  have hvalid : (paymentOfAmount (.finite false 1 (-9))).wellFormed = true := by decide +kernel
  have hruns := runs_only numberingEnv
    (ingestPaymentWebhook 1 (paymentOfAmount (.finite false 1 (-9)))) blankWorld
  have hstored : (exec World.step numberingEnv (ingestPaymentWebhook 1
      (paymentOfAmount (.finite false 1 (-9)))) blankWorld).2.db .paymentRecords =
        [{ id := 1, tenantId := 1, userId := 5, txHash := "0xabc", amount := .finite false 0 (-8)
           currency := "USDT", status := "PROCESSED" }] := by decide +kernel
  obtain ⟨_, record, -, hrecords, -, q, hq, hpos⟩ | ⟨hbroken, -⟩ :=
    h _ hvalid _ _ _ _ _ sound_blankWorld fresh_numberingEnv hruns
  · rw [hstored] at hrecords
    have hrecord : record.amount = .finite false 0 (-8) := by
      cases hrecords
      rfl
    rw [hrecord] at hq
    cases hq
    rw [Decimal.val_eq_zero.mpr rfl] at hpos
    exact lt_irrefl 0 hpos
  · exact solid_numberingEnv hbroken

/-- A payment of 100 and a program of 300. -/
theorem round_sums_stored_as_submitted :
    (paymentOfAmount (.ofInt 100)).StoredAsSubmitted ∧ (graceRequest 30).StoredAsSubmitted := by
  have hvalid : (paymentOfAmount (.ofInt 100)).wellFormed = true := by decide +kernel
  obtain ⟨hpayment, hprogram⟩ :=
    money_stored_as_submitted_iff (paymentOfAmount (.ofInt 100)) (graceRequest 30)
  constructor
  · refine (hpayment hvalid).mpr ⟨⟨by decide +kernel, by decide +kernel⟩, _, rfl,
      ⟨100 * 10 ^ 8, ?_⟩, ?_⟩
    · norm_num [Decimal.val, Decimal.signed]
    · norm_num [Decimal.val, Decimal.signed]
  · refine (hprogram (accepted_graceRequest (by decide))).mpr
      ⟨storable_graceRequest (by decide), _, rfl, ⟨300 * 10 ^ 8, ?_⟩, ?_⟩
    · norm_num [Decimal.val, Decimal.signed]
    · norm_num [Decimal.val, Decimal.signed]

end VipChannel
