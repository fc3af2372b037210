/-
  VipChannel.Web.FrontDoor

  Who a request is for: the tenant middleware, and the routes behind it.

  A tenant is known by the UUID in `X-Tenant-ID` and by nothing else.  Whatever requests
  arrive, with whatever headers, a tenant that none of them names keeps its rows, and one
  that names no tenant is not served.
-/
import VipChannel.Lib.Uuid
import VipChannel.Runs.Coherence
import VipChannel.Runs.Periods

namespace VipChannel

open Lib
open Program (raising)

/-! ## The middleware -/

/-- The route depends on `get_tenant_id`.  The bot's webhook is known by its path, and the
    jobs are no requests. -/
def Operation.ofTenant : Operation → Bool
  | .update .. | .monitor _ | .sweep => false
  | .upsertCredential _ | .listCredentials | .upsertReferralConfig _ | .upsertChannel _
  | .listChannels | .upsertBot _ | .checkIntegration | .ingestPayment _ => true

/-- A request to a route that acts for a tenant. -/
structure TenantRequest where
  path : String
  /-- `X-Tenant-ID`, where it is sent. -/
  tenantHeader : Option String
  route : Operation
  ofTenant : route.ofTenant = true

structure JSONResponse where
  statusCode : Nat
  detail : String
  deriving DecidableEq

def WEBHOOK_PATH_PREFIX : String := "/api/v1/telegram/"

namespace TenantContextMiddleware

def DEFAULT_PUBLIC_PATHS : List String := ["/health", "/docs", "/redoc", "/openapi.json"]

/-- Served without a tenant context. -/
def isPublic (path : String) : Bool :=
  DEFAULT_PUBLIC_PATHS.contains path || WEBHOOK_PATH_PREFIX.toList.isPrefixOf path.toList

/-- What is put on the request's state, unless the request is turned away. -/
def dispatch (request : TenantRequest) : Except JSONResponse (Option TenantId) :=
  if isPublic request.path then .ok none
  else
    match request.tenantHeader with
    | none => .error ⟨401, "Missing mandatory X-Tenant-ID header"⟩
    | some header =>
      if header = "" then .error ⟨401, "Missing mandatory X-Tenant-ID header"⟩
      else
        match uuid? header with
        | none => .error ⟨400, "Invalid X-Tenant-ID header format"⟩
        | some tenantId => .ok (some tenantId)

end TenantContextMiddleware

open TenantContextMiddleware

/-- `get_tenant_id`: the tenant on the request's state. -/
def getTenantId (request : TenantRequest) (state : Option TenantId) : Except PyError TenantId :=
  match state with
  | none => .error ⟨.other "RuntimeError", "No tenant context for " ++ request.path ++
      ". Either TenantContextMiddleware is not registered, or this path is listed in " ++
      "its public_paths."⟩
  | some tenantId => .ok tenantId

namespace TenantRequest

/-- The request, from the middleware to the response. -/
def serve (key : EncryptionKey) (S : Settings) (request : TenantRequest) :
    App (Except JSONResponse Response) :=
  match dispatch request with
  | .error response => return .error response
  | .ok state => do
    let tenantId ← raising (getTenantId request state)
    return .ok (← request.route.program key S tenantId)

/-- The tenant that the header names. -/
def named (request : TenantRequest) : Option TenantId := request.tenantHeader.bind uuid?

/-- The status for a request that names no tenant: an empty header is as good as none. -/
def refusal (request : TenantRequest) : Nat :=
  if request.tenantHeader.getD "" = "" then 401 else 400

end TenantRequest

/-! ## One request -/

/-- What becomes of a request. -/
inductive TenantRequest.Answered (G : World → Op → Choice → Prop) (key : EncryptionKey)
    (S : Settings) (request : TenantRequest) (w : World) :
    Except PyError (Except JSONResponse Response) → World → Prop
  | refused {response : JSONResponse} : request.named = none →
      response.statusCode = request.refusal →
      Answered G key S request w (.ok (.error response)) w
  /-- The route is mounted out of the middleware's reach. -/
  | misplaced {e : PyError} : isPublic request.path = true →
      Answered G key S request w (.error e) w
  | acted {A : TenantId} {x : Except PyError Response} {w' : World} : request.named = some A →
      Runs (serial G) (request.route.program key S A) w x w' →
      Answered G key S request w (x.map .ok) w'

section Requests

variable {G : World → Op → Choice → Prop} {key : EncryptionKey} {S : Settings}
  {request : TenantRequest} {w w' : World}

/-- The text of a UUID names it. -/
theorem TenantRequest.named_of_text {A : TenantId} (hA : A < 2 ^ 128)
    (h : request.tenantHeader = some (uuidText A)) : request.named = some A := by
  rw [TenantRequest.named, h, Option.bind_some, uuid?_uuidText hA]

/-- The middleware lets in whom the header names. -/
theorem dispatch_cases (request : TenantRequest) :
    (∃ response, dispatch request = .error response ∧ request.named = none ∧
        response.statusCode = request.refusal) ∨
      (dispatch request = .ok none ∧ isPublic request.path = true) ∨
      ∃ A, dispatch request = .ok (some A) ∧ request.named = some A := by
  have hempty : uuid? "" = none := by decide
  unfold dispatch TenantRequest.named TenantRequest.refusal
  by_cases hpublic : isPublic request.path = true
  · rw [if_pos hpublic]
    exact .inr (.inl ⟨rfl, hpublic⟩)
  rw [if_neg hpublic]
  cases request.tenantHeader with
  | none => exact .inl ⟨_, rfl, rfl, rfl⟩
  | some header =>
    simp only [Option.bind_some, Option.getD_some]
    by_cases hheader : header = ""
    · rw [if_pos hheader, if_pos hheader, hheader]
      exact .inl ⟨_, rfl, hempty, rfl⟩
    · rw [if_neg hheader, if_neg hheader]
      cases huuid : uuid? header with
      | none => exact .inl ⟨_, rfl, rfl, rfl⟩
      | some A => exact .inr (.inr ⟨A, rfl, rfl⟩)

theorem TenantRequest.answered {r : Except PyError (Except JSONResponse Response)}
    (h : Runs (serial G) (request.serve key S) w r w') : request.Answered G key S w r w' := by
  unfold TenantRequest.serve at h
  rcases dispatch_cases request with ⟨_, hd, hnone, hstatus⟩ | ⟨hd, hpublic⟩ | ⟨A, hd, hnamed⟩
  · rw [hd] at h
    obtain ⟨rfl, rfl⟩ := h
    exact .refused hnone hstatus
  · rw [hd] at h
    obtain ⟨rfl, rfl⟩ := h
    exact .misplaced hpublic
  · rw [hd] at h
    obtain ⟨x, hruns, rfl⟩ := runs_answer h
    exact .acted hnamed hruns

/-- Nothing happens to a tenant that is not named. -/
theorem TenantRequest.Answered.undisturbed {A : TenantId}
    {r : Except PyError (Except JSONResponse Response)} (h : request.Answered G key S w r w')
    (hne : request.named ≠ some A) : Undisturbed A w w' := by
  cases h with
  | refused | misplaced => exact .refl A w
  | @acted B x w' hnamed hruns =>
    have hno : ∀ token incoming, request.route = .update token incoming → False := by
      intro token incoming heq
      have hof := request.ofTenant
      rw [heq] at hof
      cases hof
    have hconfined : Confined B (fun _ => False) {} (request.route.program key S B) :=
      Operation.confined hno
    have hspared : Spared B w w' := runs_confined hconfined hruns
    refine hspared.undisturbed fun hAB => hne ?_
    rw [hnamed, hAB]

end Requests

/-! ## Any requests -/

/-- Requests one after the other, with what each came to. -/
inductive TenantRequest.History (G : World → Op → Choice → Prop) (key : EncryptionKey)
    (S : Settings) (w₀ : World) :
    List (TenantRequest × Except PyError (Except JSONResponse Response)) → World → Prop
  | start : History G key S w₀ [] w₀
  | next {log : List (TenantRequest × Except PyError (Except JSONResponse Response))}
      {w w' : World} {request : TenantRequest}
      {r : Except PyError (Except JSONResponse Response)} :
      History G key S w₀ log w → Runs (serial G) (request.serve key S) w r w' →
      History G key S w₀ (log ++ [(request, r)]) w'

/-- What the middleware is for. -/
structure Gated (log : List (TenantRequest × Except PyError (Except JSONResponse Response)))
    (w w' : World) : Prop where
  /-- Who is not named is not reached. -/
  untouched : ∀ A, (∀ entry ∈ log, entry.1.named ≠ some A) → Undisturbed A w w'
  /-- Who names nobody is not served. -/
  unserved : ∀ entry ∈ log, entry.1.named = none → ∀ response, entry.2 ≠ .ok (.ok response)
  /-- Nobody else is turned away. -/
  refused : ∀ entry ∈ log, ∀ response, entry.2 = .ok (.error response) →
    entry.1.named = none ∧ response.statusCode = entry.1.refusal
  /-- The text of a UUID names it. -/
  known : ∀ entry ∈ log, ∀ A < 2 ^ 128, entry.1.tenantHeader = some (uuidText A) →
    entry.1.named = some A

section Histories

variable {G : World → Op → Choice → Prop} {key : EncryptionKey} {S : Settings} {w w' w'' : World}
  {log : List (TenantRequest × Except PyError (Except JSONResponse Response))}
  {request : TenantRequest} {r : Except PyError (Except JSONResponse Response)}

/-- One more request. -/
theorem Gated.next (h : Gated log w w') (hanswered : request.Answered G key S w' r w'') :
    Gated (log ++ [(request, r)]) w w'' := by
  have hall : ∀ {P : TenantRequest × Except PyError (Except JSONResponse Response) → Prop},
      (∀ entry ∈ log, P entry) → P (request, r) → ∀ entry ∈ log ++ [(request, r)], P entry :=
    fun hold hnew => List.forall_mem_append.mpr ⟨hold, List.forall_mem_singleton.mpr hnew⟩
  refine ⟨fun A hunnamed => ?_, hall h.unserved fun hnone response => ?_,
    hall h.refused fun response hr => ?_, hall h.known fun A hA hheader => ?_⟩
  · have hold := h.untouched A fun entry hentry => hunnamed entry (List.mem_append_left _ hentry)
    have hlast := List.mem_append_right log (List.mem_singleton_self (request, r))
    exact hold.trans (hanswered.undisturbed (hunnamed (request, r) hlast))
  · intro hr
    cases hanswered with
    | refused => cases hr
    | misplaced => cases hr
    | acted hnamed => exact absurd (hnone.symm.trans hnamed) (by simp)
  · cases hanswered with
    | refused hnone hstatus =>
      cases hr
      exact ⟨hnone, hstatus⟩
    | misplaced => cases hr
    | @acted B x =>
      cases x with
      | ok => cases hr
      | error => cases hr
  · exact TenantRequest.named_of_text hA hheader

/-- For any requests to the routes of tenants, with any headers and whatever fails: a tenant
    that no header names keeps its rows, and nothing is sent for it; a request that names no
    tenant is not served; only such a request is turned away, with 401 or 400; and a tenant is
    named by the text of its UUID. -/
theorem only_the_named_tenant_is_reached (h : TenantRequest.History G key S w log w') :
    Gated log w w' := by
  induction h with
  | start => exact ⟨fun A _ => .refl A w, by simp, by simp, by simp⟩
  | next _ hruns ih => exact ih.next (TenantRequest.answered hruns)

end Histories

/-! ## A channel, and a text that is no UUID -/

/-- The crypto channel is given a title. -/
def retitling (tenantHeader : Option String) : TenantRequest where
  path := "/api/v1/admin/channels"
  tenantHeader
  route := .upsertChannel ⟨.crypto, -1001, some "VIP", true⟩
  ofTenant := rfl

/-- Where a request leads, on a day on which nothing fails. -/
def World.afterVisit (w : World) (request : TenantRequest) :
    Except PyError (Except JSONResponse Response) × World :=
  exec World.step welcomingEnv (request.serve .unset defaultSettings) w

/-- Tenant 1 gives its channel a title; who is called "tenant" gives none, and tenant 2 keeps
    its rows. -/
theorem retitled_by_name_only : ∃ log w,
    TenantRequest.History (Only welcomingEnv) .unset defaultSettings configuredWorld log w ∧
      log.length = 2 ∧ Undisturbed 2 configuredWorld w ∧
      (w.db .telegramChannels).map (·.title) = [some "VIP", none] := by
  let own := retitling (some (uuidText 1))
  let stray := retitling (some "tenant")
  let first := configuredWorld.afterVisit own
  let second := first.2.afterVisit stray
  have hfirst : Runs (serial (Only welcomingEnv)) (own.serve .unset defaultSettings)
      configuredWorld first.1 first.2 := runs_only welcomingEnv _ configuredWorld
  have hsecond : Runs (serial (Only welcomingEnv)) (stray.serve .unset defaultSettings)
      first.2 second.1 second.2 := runs_only welcomingEnv _ first.2
  have hhistory := (TenantRequest.History.start.next hfirst).next hsecond
  have hone : own.named = some 1 := TenantRequest.named_of_text (by norm_num) rfl
  have hnone : stray.named = none := by decide +kernel
  refine ⟨_, second.2, hhistory, rfl,
    (only_the_named_tenant_is_reached hhistory).untouched 2 fun entry hentry => ?_, ?_⟩
  · rcases List.mem_append.mp hentry with h | h
    · rw [List.mem_singleton.mp h, hone]
      simp
    · rw [List.mem_singleton.mp h, hnone]
      simp
  · decide +kernel

end VipChannel
