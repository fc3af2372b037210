/-
  VipChannel.Providers.Bitunix

  The Bitunix partner API adapter (adapters/providers/bitunix.py): from what the HTTP
  exchange gives to a `ReferralCheck` or an exception.

  `reprOf` is Python's `repr` of a decoded body; it occurs in an error's text only.
-/
import VipChannel.Domain.Compliance

namespace VipChannel

open Lib

/-- What a POST to the exchange comes back with. -/
inductive HttpAnswer where
  /-- An `httpx.HTTPError` before a response: network failure, timeout. -/
  | failed (text : String)
  /-- A response; `body` is its decoded JSON, or why it does not decode. -/
  | response (status : Nat) (body : Except String Json)

namespace BitunixReferralProvider

/-- The response splits funding across three rails; eligibility uses the sum. -/
def DEPOSIT_FIELDS : List String :=
  ["deposit_usdt_Onchain", "deposit_usdt_Internal", "deposit_usdt_OTC"]

/-- `_to_decimal`: `Decimal(str(value))`, and zero where there is none.  A boolean, a list
    or a dict prints as no number. -/
def toDecimal : Json → Decimal
  | .null => .zero
  | .str s => if s = "" then .zero else (Decimal.ofString? s).getD .zero
  | .int n => .ofInt n
  | .float printed => printed
  | .bool _ | .arr _ | .obj _ => .zero

/-- `sum(…, start=Decimal(0))`. -/
def depositTotal (result : List (String × Json)) : Except PyError Decimal :=
  DEPOSIT_FIELDS.foldlM (fun total field => trap (total.add (toDecimal (Json.get result field))))
    .zero

def unavailable (text : String) : PyError :=
  ⟨.providerUnavailableError, "Bitunix validateUser " ++ text⟩

/-- `payload.get` of a payload that is no dict. -/
def noGet : PyError := ⟨.attributeError, "object has no attribute 'get'"⟩

/-- The answer read off a dict `result`. -/
def checkOf (uid : String) (payload : Json) (result : List (String × Json)) :
    Except PyError ReferralCheck := do
  let total ← depositTotal result
  return {
    uid
    registered := (Json.get result "result").bool? = some true
    depositTotal := total
    raw := payload }

/-- `_parse`. -/
def parse (reprOf : Json → String) (uid : String) (payload : Json) :
    Except PyError ReferralCheck :=
  match payload with
  | .obj fields =>
    match (Json.get fields "result") with
    | .obj result => checkOf uid payload result
    | result =>
      -- `or {}`: null, false, 0, "" and [] read as an empty dict.
      if result.truthy then
        .error (unavailable ("returned an unexpected body: " ++ reprOf payload))
      else
        checkOf uid payload []
  | _ => .error noGet

/-- `response.raise_for_status()` lets the response through. -/
def isSuccess (status : Nat) : Bool :=
  200 ≤ status && status < 300

/-- `validate_user`, after the exchange has answered. -/
def validateUser (reprOf : Json → String) (uid : String) :
    HttpAnswer → Except PyError ReferralCheck
  | .failed text => .error (unavailable ("failed: " ++ text))
  | .response status body =>
    if !isSuccess status then .error (unavailable ("failed: HTTP status " ++ toString status))
    else
      match body with
      | .error text => .error (unavailable ("failed: " ++ text))
      | .ok payload => parse reprOf uid payload

/-! ## What an answer states -/

/-- `payload.result.result` is the boolean `b`. -/
def States (payload : Json) (b : Bool) : Prop :=
  ∃ fields result, payload = .obj fields ∧ Json.get fields "result" = .obj result ∧
    Json.get result "result" = .bool b

/-- Bodies `_parse` handles as the port asks: an object whose `result` is either a dict
    that states a boolean, or a truthy value that is no dict. -/
def Handled (payload : Json) : Prop :=
  (∃ b, States payload b) ∨
    ∃ fields, payload = .obj fields ∧ (Json.get fields "result").truthy = true ∧
      ∀ result, Json.get fields "result" ≠ .obj result

/-- Adding up the deposits raises a signal of decimal arithmetic, if anything. -/
theorem depositTotal_error {result : List (String × Json)} {e : PyError}
    (h : depositTotal result = .error e) : ∃ s, e = .ofSignal s := by
  unfold depositTotal at h
  generalize Decimal.zero = total at h
  generalize DEPOSIT_FIELDS = fields at h
  induction fields generalizing total with
  | nil => cases h
  | cons field fields ih =>
    rw [List.foldlM_cons] at h
    cases hadd : total.add (toDecimal (Json.get result field)) with
    | error s =>
      simp only [hadd, trap, bind, Except.bind, Except.error.injEq] at h
      exact ⟨s, h.symm⟩
    | ok total' =>
      simp only [hadd, trap, bind, Except.bind] at h
      exact ih total' h

/-- Reading a dict never blames the provider's availability. -/
theorem checkOf_error {uid : String} {payload : Json} {result : List (String × Json)}
    {e : PyError} (h : checkOf uid payload result = .error e) :
    e.cls ≠ .providerUnavailableError := by
  simp only [checkOf, bind, Except.bind] at h
  split at h
  · next e' he =>
    cases h
    obtain ⟨s, rfl⟩ := depositTotal_error he
    cases s <;> simp [PyError.ofSignal]
  · cases h

theorem checkOf_ok {uid : String} {payload : Json} {result : List (String × Json)}
    {c : ReferralCheck} (h : checkOf uid payload result = .ok c) :
    c.registered = decide ((Json.get result "result").bool? = some true) ∧
      c.qualifyingTrades = none := by
  simp only [checkOf, bind, Except.bind] at h
  split at h
  · cases h
  · cases h; exact ⟨rfl, rfl⟩

/-- The adapter never reports trades. -/
theorem parse_qualifyingTrades {reprOf : Json → String} {uid : String} {payload : Json}
    {c : ReferralCheck} (h : parse reprOf uid payload = .ok c) : c.qualifyingTrades = none := by
  unfold parse at h
  split at h
  · split at h
    · exact (checkOf_ok h).2
    · split at h
      · cases h
      · exact (checkOf_ok h).2
  · cases h

theorem validateUser_ok {reprOf : Json → String} {uid : String} {answer : HttpAnswer}
    {c : ReferralCheck} (h : validateUser reprOf uid answer = .ok c) :
    ∃ payload, parse reprOf uid payload = .ok c := by
  unfold validateUser at h
  split at h
  · cases h
  · split at h
    · cases h
    · split at h
      · cases h
      · next payload => exact ⟨payload, h⟩

/-- A body that states a boolean: an answer, if one is given, repeats it. -/
theorem parse_states {reprOf : Json → String} {uid : String} {payload : Json} {b : Bool}
    (hs : States payload b) {c : ReferralCheck} (h : parse reprOf uid payload = .ok c) :
    c.registered = b := by
  obtain ⟨fields, result, rfl, hresult, hb⟩ := hs
  simp only [parse, hresult] at h
  rw [(checkOf_ok h).1, hb]
  cases b <;> rfl

/-- A truthy `result` that is no dict is refused as an outage. -/
theorem parse_unexpected (reprOf : Json → String) (uid : String)
    {fields : List (String × Json)} (ht : (Json.get fields "result").truthy = true)
    (hno : ∀ result, Json.get fields "result" ≠ .obj result) :
    parse reprOf uid (.obj fields) =
      .error (unavailable ("returned an unexpected body: " ++ reprOf (.obj fields))) := by
  cases hres : Json.get fields "result" with
  | obj result => exact absurd hres (hno result)
  | null | bool | int | float | str | arr =>
    rw [hres] at ht
    simp only [parse, hres, ht, if_true]

/-- Two statements about one body agree. -/
theorem States.unique {payload : Json} {b b' : Bool} (h : States payload b)
    (h' : States payload b') : b = b' := by
  obtain ⟨fields, result, rfl, hr, hb⟩ := h
  obtain ⟨fields', result', heq, hr', hb'⟩ := h'
  cases heq
  rw [hr] at hr'
  cases hr'
  rw [hb] at hb'
  exact Json.bool.inj hb'

/-- Any other body is not refused as an outage: either the adapter answers anyway, or the
    exception is another one. -/
theorem parse_unhandled {reprOf : Json → String} {uid : String} {payload : Json}
    {e : PyError} (h : ¬ Handled payload) (hp : parse reprOf uid payload = .error e) :
    e.cls ≠ .providerUnavailableError := by
  unfold parse at hp
  split at hp
  · next fields =>
    split at hp
    · exact checkOf_error hp
    · next hno =>
      split at hp
      · next ht => exact absurd (.inr ⟨fields, rfl, ht, hno⟩) h
      · exact checkOf_error hp
  · cases hp
    simp [noGet]

end BitunixReferralProvider

/-! ## An answer that states nothing -/

/-- What the callers make of `validate_user`: an outage is no answer, any other exception
    goes on. -/
def orOutage : Except PyError ReferralCheck → Except PyError (Option ReferralCheck)
  | .ok check => .ok (some check)
  | .error e => if e.cls = .providerUnavailableError then .ok none else .error e

namespace BitunixReferralProvider

/-- The port's contract for a 2xx body: an answer repeats the boolean the body states, a
    body that states none is an outage, and so it cannot count against a member. -/
structure Honest (reprOf : Json → String) (uid : String) (payload : Json) : Prop where
  repeats : ∀ status c, isSuccess status = true →
    validateUser reprOf uid (.response status (.ok payload)) = .ok c →
    ∃ b, States payload b ∧ c.registered = b
  outage : (¬ ∃ b, States payload b) → ∀ status, isSuccess status = true →
    ∃ e, validateUser reprOf uid (.response status (.ok payload)) = .error e ∧
      e.cls = .providerUnavailableError
  harmless : (¬ ∃ b, States payload b) → ∀ status, isSuccess status = true →
    ∀ check rules requireTrading verdict membership policy now decision,
    orOutage (validateUser reprOf uid (.response status (.ok payload))) = .ok check →
    evaluateReferral check rules requireTrading = .ok verdict →
    decideCompliance membership verdict policy now = .ok decision →
    decision.action ≠ .warn ∧ decision.action ≠ .revoke

theorem validateUser_success {status : Nat} (h : isSuccess status = true)
    (reprOf : Json → String) (uid : String) (payload : Json) :
    validateUser reprOf uid (.response status (.ok payload)) = parse reprOf uid payload := by
  simp [validateUser, h]

/-- The adapter keeps the contract exactly on the bodies it handles. -/
theorem honest_iff_handled (reprOf : Json → String) (uid : String) (payload : Json) :
    Honest reprOf uid payload ↔ Handled payload := by
  constructor
  · intro h
    by_contra hno
    have hsilent : ¬ ∃ b, States payload b := fun hb => hno (.inl hb)
    obtain ⟨e, he, hcls⟩ := h.outage hsilent 200 rfl
    rw [validateUser_success rfl] at he
    exact parse_unhandled hno he hcls
  · rintro (⟨b, hb⟩ | ⟨fields, rfl, ht, hno⟩)
    · refine ⟨fun status c hs hc => ⟨b, hb, ?_⟩, fun hsilent => absurd ⟨b, hb⟩ hsilent,
        fun hsilent => absurd ⟨b, hb⟩ hsilent⟩
      rw [validateUser_success hs] at hc
      exact parse_states hb hc
    · have herr := parse_unexpected reprOf uid ht hno
      refine ⟨fun status c hs hc => ?_, fun _ status hs => ?_, ?_⟩
      · rw [validateUser_success hs, herr] at hc
        cases hc
      · rw [validateUser_success hs]
        exact ⟨_, herr, rfl⟩
      · intro _ status hs check rules requireTrading verdict membership policy now decision
          hcheck hv hd
        rw [validateUser_success hs, herr] at hcheck
        cases hcheck
        cases hv
        simp [decideCompliance_unavailable hd rfl]

/-- An exchange error envelope: an object that has no `result`. -/
def errorEnvelope : Json :=
  .obj [("code", .int 10013), ("msg", .str "sign error")]

/-- The envelope is read as "not registered", and costs a member a warning. -/
theorem not_honest_errorEnvelope :
    ¬ Honest (fun _ => "") "123456789" errorEnvelope := by
  intro h
  have hsilent : ¬ ∃ b, States errorEnvelope b := by
    rintro ⟨b, fields, result, heq, hresult, -⟩
    cases heq
    simp [Json.get] at hresult
  have hbad := h.harmless hsilent 200 rfl
    (some { uid := "123456789", registered := false, raw := errorEnvelope })
    { minimumBalance := .ofInt 300 } true
    { reason := .notRegistered, complianceState := .nonCompliant }
    { status := .active, memberSince := ⟨0, by decide, some 0⟩ } {}
    ⟨30 * MICROS_PER_DAY, by decide, some 0⟩
    { action := .warn, warningsAfter := 1, detail := some "NOT_REGISTERED" }
    rfl rfl rfl
  exact hbad.1 rfl

end BitunixReferralProvider

end VipChannel
