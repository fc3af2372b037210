/-
  VipChannel.Fleet.Concurrency

  What holds however many requests, updates and sweeps are at work at one time, their
  database statements and Telegram calls interleaved in any order, and whichever of them
  fail.

  A task that is done and started again is another instance with the same task.
-/
import VipChannel.Fleet.Penalties
import VipChannel.Fleet.Routes
import VipChannel.Fleet.Tasks
import VipChannel.Runs.Sweeps
import VipChannel.Runs.Revocation

namespace VipChannel

open Lib

section Tasks

variable {ι : Type}

/-- What the instances run. -/
def programs (key : ι → EncryptionKey) (S : ι → Settings) (tasks : ι → Task) :
    Programs Op Op.Ret PyError TaskResult ι :=
  fun i => (tasks i).program (key i) (S i)

/-- Who an instance may mint for. -/
def whoOf (S : ι → Settings) (tasks : ι → Task) (i : ι) : Option Enrolment := (tasks i).who (S i)

variable {key : ι → EncryptionKey} {S : ι → Settings} {tasks : ι → Task} {f : Fleet ι}

theorem owed_programs : Owed (fun i => Shift.machine (whoOf S tasks i))
    (fun i (f : Fleet ι) => f.shifts i) (fun i => (tasks i).Leaves (S i))
    (programs key S tasks, f) :=
  fun i => Shift.wp_task (key i) (S i) (tasks i) (f.shifts i)

/-- The instance has minted an invite for the enrolment, in a transaction that is open or
    committed. -/
def Invites (S : ι → Settings) (tasks : ι → Task) (f : Fleet ι) (i : ι) (A : TenantId)
    (e : Enrolment) : Prop :=
  whoOf S tasks i = some e ∧
    ∃ x ∈ (f.shifts i).told ++ (f.shifts i).confirmed, x.call.mints ∧ x.tenantId = A

/-- Whoever is invited is backed by rows that are there. -/
theorem Invites.present (h : f.Consistent (whoOf S tasks)) {i : ι} {A : TenantId} {e : Enrolment}
    (hinvites : Invites S tasks f i A e) : ∃ userId,
      f.Present (.user userId A e.telegramUserId) ∧
        f.Present (.account A e.providerType e.uid userId) := by
  obtain ⟨hwho, x, hx, hmint, rfl⟩ := hinvites
  rcases List.mem_append.mp hx with hx | hx
  · obtain ⟨e', userId, he, huser, haccount⟩ := h.minted i x hx hmint
    rw [hwho] at he
    cases he
    have hpresent : ∀ c ∈ (f.shifts i).known, f.Present c := fun c hc =>
      (h.known i c hc).imp_right fun hheld => ⟨i, hheld⟩
    exact ⟨userId, hpresent _ huser, hpresent _ haccount⟩
  · obtain ⟨e', userId, he, huser, haccount⟩ := h.kept i x hx hmint
    rw [hwho] at he
    cases he
    exact ⟨userId, .inl huser, .inl haccount⟩

/-- Of which rows the owner of a UID and the person behind a user are unique. -/
structure OneOwner (S : ι → Settings) (tasks : ι → Task) (f : Fleet ι) : Prop where
  account : ∀ A provider uid userId userId', .account A provider uid userId ∈ f.claimed →
    .account A provider uid userId' ∈ f.claimed → userId' = userId
  person : ∀ A userId telegramId telegramId', .user userId A telegramId ∈ f.claimed →
    .user userId A telegramId' ∈ f.claimed → telegramId' = telegramId
  /-- Who finds the UID taken mints nothing. -/
  loser : ∀ i A e userId telegramId, Invites S tasks f i A e →
    .account A e.providerType e.uid userId ∈ f.claimed → .user userId A telegramId ∈ f.claimed →
      telegramId = e.telegramUserId
  /-- Two invites for one UID are for one person. -/
  invited : ∀ i j A e e', Invites S tasks f i A e → Invites S tasks f j A e' →
    e.providerType = e'.providerType → e.uid = e'.uid → e.telegramUserId = e'.telegramUserId

theorem oneOwner_of_consistent (h : f.Consistent (whoOf S tasks)) : OneOwner S tasks f := by
  have hone : ∀ {A provider uid userId userId' telegramId telegramId'},
      f.Present (.account A provider uid userId) → f.Present (.account A provider uid userId') →
      f.Present (.user userId A telegramId) → f.Present (.user userId' A telegramId') →
      telegramId = telegramId' := by
    intro A provider uid userId userId' telegramId telegramId' haccount haccount' huser huser'
    have hsame := h.coherent _ _ haccount haccount' (by simp [Claim.conflicts])
    cases hsame
    have hperson := h.coherent _ _ huser huser' (by simp [Claim.conflicts])
    cases hperson
    rfl
  refine ⟨fun A provider uid userId userId' haccount haccount' => ?_,
    fun A userId telegramId telegramId' huser huser' => ?_,
    fun i A e userId telegramId hinvites haccount huser => ?_,
    fun i j A e e' hi hj hprovider huid => ?_⟩
  · have hsame := h.coherent _ _ (.inl haccount) (.inl haccount') (by simp [Claim.conflicts])
    cases hsame
    rfl
  · have hsame := h.coherent _ _ (.inl huser) (.inl huser') (by simp [Claim.conflicts])
    cases hsame
    rfl
  · obtain ⟨userId', huser', haccount'⟩ := hinvites.present h
    exact hone (.inl haccount) haccount' (.inl huser) huser'
  · obtain ⟨userId, huser, haccount⟩ := hi.present h
    obtain ⟨userId', huser', haccount'⟩ := hj.present h
    rw [← hprovider, ← huid] at haccount'
    exact hone haccount haccount' huser huser'

end Tasks

section Interleavings

variable {ι : Type} [DecidableEq ι] {key : ι → EncryptionKey} {S : ι → Settings} {tasks : ι → Task}
  {f : Fleet ι}

theorem consistent_of_reaches {c : Programs Op Op.Ret PyError TaskResult ι × Fleet ι}
    (hidle : f.Idle) (h : Reaches Fleet.machine (programs key S tasks, f) c) :
    c.2.Consistent (whoOf S tasks) := by
  refine Reaches.invariant (Fleet.discipline (whoOf S tasks)) ?_ h owed_programs hidle.consistent
  rintro i s op r s' hs hmay ⟨d, -, hadmits, rfl⟩
  exact hs.after hadmits hmay

/-- Committed rows stay committed. -/
theorem claimed_of_reaches {b c : Programs Op Op.Ret PyError TaskResult ι × Fleet ι}
    (h : Reaches Fleet.machine b c) : ∀ x ∈ b.2.claimed, x ∈ c.2.claimed := by
  induction h with
  | refl => exact fun x hx => hx
  | tail _ hstep ih =>
    obtain ⟨i, -, hcall⟩ := hstep
    obtain ⟨d, -, -, rfl⟩ := hcall
    exact fun x hx => Fleet.mem_claimed_after (ih x hx)

end Interleavings

/-! ## Computed runs -/

/-- The claims of the rows. -/
def claimsOf (d : Database) : List Claim :=
  [Table.telegramUsers, .referralAccounts, .jobExecutions, .providerCredentials,
    .webhookRoutes].flatMap fun t => (d t).filterMap (rowClaim t)

/-- Instances that have done nothing yet, over a database. -/
def Fleet.over (ι : Type) (d : Database) : Fleet ι where
  claimed := claimsOf d
  shifts _ := { tenantId := 0 }
  sent := []

theorem Fleet.idle_over {ι : Type} {d : Database} (h : ∀ c ∈ claimsOf d, ∀ c' ∈ claimsOf d,
    c.conflicts c' = true → c = c') : (Fleet.over ι d).Idle :=
  ⟨fun _ => rfl, h, rfl⟩

/-- An account or a route that was inserted since, its other columns as they are by default. -/
def Database.withRow (d : Database) : Claim → Database
  | .account tenantId providerType uid userId =>
    d.append .referralAccounts
      { id := userId, tenantId, userId, providerType, market := .crypto, uid }
  | .route token tenantId provider => d.append .webhookRoutes { token, tenantId, provider }
  | .user .. | .execution .. | .credential .. => d

/-- What is not let in is refused; all else is as `env` has it. -/
def Fleet.choose (refused : PyError) (env : Op → Choice) (i : Bool) (f : Fleet Bool) (op : Op) :
    Choice :=
  if op.flushes ∧ f.clear i = false then { fault := some refused } else env op

/-! ## Once per period -/

section OncePerPeriod

variable {ι : Type} [DecidableEq ι]

/-- Nobody is warned twice, or banned twice, for one period, as long as no transaction is
    taken back for which Telegram has carried out a penalty. -/
theorem punished_once_per_period (key : ι → EncryptionKey) (S : ι → Settings) (tasks : ι → Task)
    (f f' : Fleet ι) (ps : Programs Op Op.Ret PyError TaskResult ι) (hidle : f.Idle)
    (hreach : Reaches Fleet.steady (programs key S tasks, f) (ps, f')) : f'.AtMostOnce := by
  have hinvariant : f'.Consistent (whoOf S tasks) ∧ f'.Punishes := by
    refine Reaches.invariant (Fleet.discipline_steady (whoOf S tasks))
      (I := fun f => f.Consistent (whoOf S tasks) ∧ f.Punishes) ?_ hreach owed_programs
      ⟨hidle.consistent, hidle.punishes⟩
    rintro i s op r s' ⟨hs, hpunishes⟩ hmay ⟨⟨d, -, hadmits, rfl⟩, hundo⟩
    exact ⟨hs.after hadmits hmay, hpunishes.after hs hmay hundo⟩
  exact hinvariant.2.atMostOnce

end OncePerPeriod

/-- A member, and what a sweep needs to be configured. -/
def sweptDb : Database := configureTenant oneMarket.db 1 "new"

/-- Two instances that sweep. -/
def twoSweeps : Programs Op Op.Ret PyError TaskResult Bool × Fleet Bool :=
  (programs (fun _ => rotatedKey) (fun _ => defaultSettings) fun _ => .sweep,
    .over Bool sweptDb)

theorem idle_twoSweeps : twoSweeps.2.Idle :=
  Fleet.idle_over (by decide +kernel)

/-- Day 200, when the account has left the referral. -/
def sweepDecision (commit : Bool → Choice) (i : Bool) (f : Fleet Bool) (op : Op) : Decision where
  choice := Fleet.choose (integrityError .jobExecutions) (fun
    | .utcnow => { now := .day 200 }
    | .validateUser uid => { check := strangerCheck uid }
    | .commit => commit i
    | _ => {}) i f op
  shown := sweptDb
  tenantIds := [1]

/-- The second instance is about to claim the period when the first one, which has sent the
    warning by then, commits. -/
theorem two_sweeps_warn_once :
    ∃ c, Reaches Fleet.steady twoSweeps c ∧ c.2.AtMostOnce ∧
      c.2.penalties 1 (.warning, 3, (DateTime.day 196).utc) = 1 := by
  have hturns : (takeTurns Fleet.step (sweepDecision fun _ => {}) Fleet.admitsSteady
      [(false, 21), (true, 10), (false, 9), (true, 9)] twoSweeps).map
        (fun c => c.2.penalties 1 (.warning, 3, (DateTime.day 196).utc)) = some 1 := by
    decide +kernel
  obtain ⟨c, hc, hcount⟩ := Option.map_eq_some_iff.mp hturns
  have hreach := reaches_of_takeTurns Fleet.steady_steps hc
  exact ⟨c, hreach, punished_once_per_period _ _ _ _ _ _ idle_twoSweeps hreach, hcount⟩

/-- Where the first one's commit fails, the second one warns again. -/
example : ∃ c, Reaches Fleet.machine twoSweeps c ∧ ¬ c.2.AtMostOnce := by
  have hturns : (takeTurns Fleet.step
      (sweepDecision fun i => if i then {} else { fault := some ⟨.databaseError, "gone"⟩ })
      Fleet.admits [(false, 27), (true, 26)] twoSweeps).map
        (fun c => c.2.penalties 1 (.warning, 3, (DateTime.day 196).utc)) = some 2 := by
    decide +kernel
  obtain ⟨c, hc, hcount⟩ := Option.map_eq_some_iff.mp hturns
  refine ⟨c, reaches_of_takeTurns Fleet.machine_steps hc, fun honce => ?_⟩
  have htwice := honce 1 (.warning, 3, (DateTime.day 196).utc)
  rw [hcount] at htwice
  omega

/-! ## One account, one person -/

section OneAccount

variable {ι : Type} [DecidableEq ι]

/-- One exchange account backs one person: in every state reached an account has one owner
    and every invite for its UID is that person's; an owner once committed is the owner from
    then on; and a submission that returns a link has committed its user as the owner. -/
theorem one_account_one_person (key : ι → EncryptionKey) (S : ι → Settings) (tasks : ι → Task)
    (f : Fleet ι) (b c : Programs Op Op.Ret PyError TaskResult ι × Fleet ι) (hidle : f.Idle)
    (hbefore : Reaches Fleet.machine (programs key S tasks, f) b)
    (hafter : Reaches Fleet.machine b c) :
    OneOwner S tasks c.2 ∧
    (∀ A provider uid userId userId', .account A provider uid userId ∈ b.2.claimed →
      .account A provider uid userId' ∈ c.2.claimed → userId' = userId) ∧
    (∀ i A telegramUserId market rawUid username firstName result link,
      tasks i = .submission A telegramUserId market rawUid username firstName →
      c.1 i = pure (.submitted (some result)) → result.inviteLink = some link →
        ∃ userId, .user userId A telegramUserId ∈ c.2.claimed ∧
          .account A (S i).providerType (normalizeUid rawUid) userId ∈ c.2.claimed) := by
  have hreach := hbefore.trans hafter
  have hconsistent := consistent_of_reaches hidle hreach
  have howner := oneOwner_of_consistent hconsistent
  refine ⟨howner, fun A provider uid userId userId' hold hnew => ?_, ?_⟩
  · exact howner.account A provider uid userId userId' (claimed_of_reaches hafter _ hold) hnew
  · intro i A telegramUserId market rawUid username firstName result link htask hdone hlink
    have hleaves := Reaches.returned (Fleet.discipline (whoOf S tasks)) hreach owed_programs hdone
    rw [htask] at hleaves
    obtain ⟨userId, huser, haccount⟩ := hleaves link hlink
    exact ⟨userId, hconsistent.vouched i _ huser, hconsistent.vouched i _ haccount⟩

end OneAccount

/-- A member of the crypto channel who has not submitted a UID. -/
def enlist (d : Database) (id : RowId) (telegramUserId : Int) : Database :=
  ((d.append .telegramUsers
    { id, tenantId := 1, telegramUserId, username := none, firstName := none }).append
    .subscriptions
    { id, tenantId := 1, userId := id, market := .crypto, accessType := .referral
      planCode := REFERRAL_PLAN_CODE, status := .active, startsAt := none }).append
    .vipMemberships
    { id, createdAt := .day 0, tenantId := 1, userId := id, channelId := cryptoChannel.id
      subscriptionId := some id }

def racedDb : Database := enlist (enlist configuredDb 5 77) 6 78

/-- Two members submit one UID. -/
def race : Programs Op Op.Ret PyError TaskResult Bool × Fleet Bool :=
  (programs (fun _ => .unset) (fun _ => defaultSettings) fun i =>
    .submission 1 (if i then 78 else 77) .crypto "123456789" none none, .over Bool racedDb)

theorem idle_race : race.2.Idle :=
  Fleet.idle_over (by decide +kernel)

def raceDecision (i : Bool) (f : Fleet Bool) (op : Op) : Decision where
  choice := Fleet.choose (integrityError .referralAccounts) (fun
    | .utcnow => { now := .day 100 }
    | .uuid4 => { id := if i then 6 else 5 }
    | .validateUser uid => { check := fundedCheck uid }
    | .telegram .. => { link := "https://t.me/+1" }
    | _ => {}) i f op
  shown := (f.visible i).foldl Database.withRow racedDb

/-- The second has found the UID free when the first one takes it, and is not invited. -/
theorem race_invites_one :
    ∃ b c, Reaches Fleet.machine race b ∧ Reaches Fleet.machine b c ∧
      Claim.account 1 .bitunix "123456789" 5 ∈ b.2.claimed ∧ c.2.sent.length = 1 ∧
      OneOwner (fun _ => defaultSettings)
        (fun i => .submission 1 (if i then 78 else 77) .crypto "123456789" none none) c.2 := by
  have hfirst : (takeTurns Fleet.step raceDecision Fleet.admits [(true, 9), (false, 25)] race).map
      (fun b => decide (Claim.account 1 .bitunix "123456789" 5 ∈ b.2.claimed)) = some true := by
    decide +kernel
  have hboth : ((takeTurns Fleet.step raceDecision Fleet.admits [(true, 9), (false, 25)] race).bind
      fun b => (takeTurns Fleet.step raceDecision Fleet.admits [(true, 9)] b).map
        fun c => c.2.sent.length) = some 1 := by
    decide +kernel
  obtain ⟨b, hb, hclaimed⟩ := Option.map_eq_some_iff.mp hfirst
  rw [hb, Option.bind_some] at hboth
  obtain ⟨c, hc, hsent⟩ := Option.map_eq_some_iff.mp hboth
  have hbefore := reaches_of_takeTurns Fleet.machine_steps hb
  have hafter := reaches_of_takeTurns Fleet.machine_steps hc
  exact ⟨b, c, hbefore, hafter, of_decide_eq_true hclaimed, hsent,
    (one_account_one_person _ _ _ _ _ _ idle_race hbefore hafter).1⟩

/-! ## One webhook path -/

section OnePath

variable {ι : Type} [DecidableEq ι]

/-- The lookup of `_ensure_webhook_route`. -/
def routeOf (A : TenantId) : WebhookRoute → Bool := fun r =>
  r.tenantId == A && r.provider == "TELEGRAM"

/-- One stable webhook path for a tenant: a route once committed is the tenant's only one
    from then on, every path a bot's request returns is that one, and looking for it never
    finds two. -/
theorem one_webhook_path (key : ι → EncryptionKey) (S : ι → Settings) (tasks : ι → Task)
    (f : Fleet ι) (b c : Programs Op Op.Ret PyError TaskResult ι × Fleet ι) (hidle : f.Idle)
    (hone : ∀ A token token', .route token A "TELEGRAM" ∈ f.claimed →
      .route token' A "TELEGRAM" ∈ f.claimed → token = token')
    (hbefore : Reaches Fleet.machine (programs key S tasks, f) b)
    (hafter : Reaches Fleet.machine b c) :
    (∀ A token token', .route token A "TELEGRAM" ∈ b.2.claimed →
      .route token' A "TELEGRAM" ∈ c.2.claimed → token' = token) ∧
    (∀ i A payload response, tasks i = .operation A (.upsertBot payload) →
      c.1 i = pure (.response (.bot response)) → ∃ token, .route token A "TELEGRAM" ∈ c.2.claimed ∧
        response.webhookPath = some ("/api/v1/telegram/" ++ token)) ∧
    ∀ i A d, c.2.Admits i d (.select .webhookRoutes (routeOf A)) true →
      ∃ found, scalarOneOrNone ((c.2.shifts i).rows d .webhookRoutes (routeOf A)) = .ok found := by
  have hreach := hbefore.trans hafter
  have hinvariant : c.2.Consistent (whoOf S tasks) ∧ c.2.Routed := by
    refine Reaches.invariant (Fleet.discipline (whoOf S tasks))
      (I := fun f => f.Consistent (whoOf S tasks) ∧ f.Routed) ?_ hreach owed_programs
      ⟨hidle.consistent, hidle.routed hone⟩
    rintro i s op r s' ⟨hs, hrouted⟩ hmay ⟨d, -, hadmits, rfl⟩
    exact ⟨hs.after hadmits hmay, hrouted.after hs hadmits hmay⟩
  obtain ⟨hconsistent, hrouted⟩ := hinvariant
  refine ⟨fun A token token' hold hnew => ?_, ?_, fun i A d hadmits => ?_⟩
  · have hkept := claimed_of_reaches hafter _ hold
    exact hrouted.one A token' token (.inl (.inl hnew)) (.inl (.inl hkept))
  · intro i A payload response htask hdone
    have hleaves := Reaches.returned (Fleet.discipline (whoOf S tasks)) hreach owed_programs hdone
    rw [htask] at hleaves
    obtain ⟨token, hpath, hroute⟩ := hleaves
    exact ⟨token, hconsistent.vouched i _ hroute, hpath⟩
  · have hfew := hrouted.lookup hadmits rfl rfl fun r hr => by
      rw [routeOf, Bool.and_eq_true, beq_iff_eq, beq_iff_eq] at hr
      exact hr.2
    match hrows : (c.2.shifts i).rows d .webhookRoutes (routeOf A), hfew with
    | [], _ => exact ⟨none, rfl⟩
    | [r], _ => exact ⟨some r, rfl⟩

end OnePath

/-- A bot that was configured before it had a path. -/
def pathlessDb : Database := configureTenant configuredDb 1 "old"

/-- Its token is sent twice at one time. -/
def hooking : Programs Op Op.Ret PyError TaskResult Bool × Fleet Bool :=
  (programs (fun _ => .key some) (fun _ => defaultSettings) fun _ =>
    .operation 1 (.upsertBot { botToken := "123:abc" }), .over Bool pathlessDb)

theorem idle_hooking : hooking.2.Idle :=
  Fleet.idle_over (by decide +kernel)

def hookDecision (i : Bool) (f : Fleet Bool) (op : Op) : Decision where
  choice := Fleet.choose (integrityError .webhookRoutes) (fun
    | .encrypt _ => { ciphertext := if i then "newer" else "new" }
    | .tokenUrlsafe => { token := if i then "later" else "first" }
    | .utcnow => { now := .day 100 }
    | _ => {}) i f op
  shown := (f.visible i).foldl Database.withRow pathlessDb

/-- The second request has read the credential when the first one takes it, and finds the
    path of the first one. -/
theorem hooking_gives_one_path :
    ∃ b c, Reaches Fleet.machine hooking b ∧ Reaches Fleet.machine b c ∧
      Claim.route "first" 1 "TELEGRAM" ∈ b.2.claimed ∧
      ∀ token, Claim.route token 1 "TELEGRAM" ∈ c.2.claimed → token = "first" := by
  have hfirst : (takeTurns Fleet.step hookDecision Fleet.admits [(true, 4), (false, 20)]
      hooking).map (fun b => decide (Claim.route "first" 1 "TELEGRAM" ∈ b.2.claimed)) =
        some true := by
    decide +kernel
  have hboth : ((takeTurns Fleet.step hookDecision Fleet.admits [(true, 4), (false, 20)]
      hooking).bind fun b => (takeTurns Fleet.step hookDecision Fleet.admits [(true, 13)] b).map
        fun c => c.2.claimed.length) = some 4 := by
    decide +kernel
  have hnone : ∀ A token, Claim.route token A "TELEGRAM" ∉ hooking.2.claimed := by
    have hcredentials : ∀ c ∈ hooking.2.claimed, c.table = .providerCredentials := by
      decide +kernel
    intro A token h
    have htable := hcredentials _ h
    cases htable
  obtain ⟨b, hb, hclaimed⟩ := Option.map_eq_some_iff.mp hfirst
  rw [hb, Option.bind_some] at hboth
  obtain ⟨c, hc, -⟩ := Option.map_eq_some_iff.mp hboth
  have hbefore := reaches_of_takeTurns Fleet.machine_steps hb
  have hafter := reaches_of_takeTurns Fleet.machine_steps hc
  have hpath := one_webhook_path _ _ _ _ _ _ idle_hooking
    (fun A token token' h => (hnone A token h).elim) hbefore hafter
  have hroute := of_decide_eq_true hclaimed
  exact ⟨b, c, hbefore, hafter, hroute, fun token => hpath.1 1 "first" token hroute⟩

end VipChannel
