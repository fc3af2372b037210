/-
  VipChannel.Fleet.Shift

  The transaction an instance of the application has open, where other instances have
  theirs open over the same database.

  Of the rows, a transaction keeps the columns that identify them (`Claim`): which ones it
  inserted, which ones it locked by an update, which ones it has read.  All other columns a
  read may show as it likes, so that what holds of every transaction here holds whatever
  versions of the rows READ COMMITTED and the session's identity map let it see.

  What the claims of other transactions allow is left to VipChannel.Fleet.Instances.
-/
import VipChannel.Jobs.Scheduler

namespace VipChannel

open Lib

/-! ## Claims -/

/-- The columns of a row that identify it.  They are written once, when it is inserted. -/
inductive Claim where
  | user (id : RowId) (tenantId : TenantId) (telegramUserId : Int)
  | account (tenantId : TenantId) (providerType : ProviderType) (uid : String) (userId : RowId)
  | execution (tenantId : TenantId) (jobName : String) (periodStart : Int)
  | credential (tenantId : TenantId) (providerType : ProviderType) (credentialName : String)
  | route (token : String) (tenantId : TenantId) (provider : String)
  deriving DecidableEq

def ProviderCredential.claim (r : ProviderCredential) : Claim :=
  .credential r.tenantId r.providerType r.credentialName

/-- The claim of a row, in the tables whose rows are followed. -/
def rowClaim : (t : Table) → Row t → Option Claim
  | .telegramUsers, r => some (.user r.id r.tenantId r.telegramUserId)
  | .referralAccounts, r => some (.account r.tenantId r.providerType r.uid r.userId)
  | .jobExecutions, r => some (.execution r.tenantId r.jobName r.periodStart.utc)
  | .providerCredentials, r => some r.claim
  | .webhookRoutes, r => some (.route r.token r.tenantId r.provider)
  | .subscriptions, _ | .vipMemberships, _ | .tradingActivitySnapshots, _
  | .referralProgramConfigs, _ | .telegramChannels, _ | .telegramBotConfigs, _
  | .paymentRecords, _ => none

/-- The table of a claim. -/
def Claim.table : Claim → Table
  | .user .. => .telegramUsers
  | .account .. => .referralAccounts
  | .execution .. => .jobExecutions
  | .credential .. => .providerCredentials
  | .route .. => .webhookRoutes

/-- Two claims of which a unique constraint lets one in. -/
def Claim.conflicts : Claim → Claim → Bool
  | .user id A u, .user id' A' u' => id = id' ∨ (A = A' ∧ u = u')
  | .account A p uid _, .account A' p' uid' _ => A = A' ∧ p = p' ∧ uid = uid'
  | .execution A j s, .execution A' j' s' => A = A' ∧ j = j' ∧ s = s'
  | .credential A p n, .credential A' p' n' => A = A' ∧ p = p' ∧ n = n'
  | .route token _ _, .route token' _ _ => token = token'
  | _, _ => false

theorem Claim.conflicts_self (c : Claim) : c.conflicts c = true := by
  cases c <;> simp [conflicts]

theorem Claim.conflicts_comm (c c' : Claim) : c.conflicts c' = c'.conflicts c := by
  cases c <;> cases c' <;> simp only [conflicts, decide_eq_decide] <;> grind

instance : Std.Symm fun c c' : Claim => c.conflicts c' = false where
  symm c c' h := by rw [Claim.conflicts_comm, h]

theorem table_of_rowClaim {t : Table} {r : Row t} {c : Claim} (h : rowClaim t r = some c) :
    c.table = t := by
  cases t <;> cases h <;> rfl

/-- The credential whose row a bot's request writes first. -/
def botTokenOf (tenantId : TenantId) : Claim :=
  .credential tenantId .telegram TELEGRAM_BOT_TOKEN

/-! ## Punishments and invites -/

/-- A compliance warning, or a ban. -/
inductive Penalty where
  | warning
  | ban
  deriving DecidableEq

/-- What a Telegram call punishes, whom, and for which period. -/
def penaltyOf (call : TelegramCall) (about : Option Concern) : Option (Penalty × RowId × Int) :=
  match call, about with
  | .sendMessage .., some (.compliance membershipId .warn periodStart) =>
    some (.warning, membershipId, periodStart.utc)
  | .banChatMember .., some (.compliance membershipId _ periodStart) =>
    some (.ban, membershipId, periodStart.utc)
  | _, _ => none

def Sent.penalty (x : Sent) : Option (Penalty × RowId × Int) := penaltyOf x.call x.about

def TelegramCall.mints : TelegramCall → Prop
  | .createChatInviteLink .. => True
  | .getMe _ | .banChatMember .. | .unbanChatMember .. | .sendMessage .. => False

/-- The claim a penalty is meted out under. -/
def claimFor (tenantId : TenantId) (p : Penalty × RowId × Int) : Claim :=
  .execution tenantId JOB_NAME p.2.2

/-- A UID and who submits it. -/
structure Enrolment where
  providerType : ProviderType
  uid : String
  telegramUserId : Int
  deriving DecidableEq

/-! ## The transaction -/

structure Shift where
  tenantId : TenantId
  /-- Rows that are added, and not flushed yet. -/
  pending : List Claim := []
  /-- Rows that are inserted, and not committed yet. -/
  held : List Claim := []
  /-- Rows that are assigned to, and not flushed yet. -/
  waiting : List Claim := []
  /-- Rows that are updated, and not committed yet. -/
  locked : List Claim := []
  /-- The rows inserted and updated at the savepoint. -/
  saved : List Claim × List Claim := ([], [])
  /-- The credentials in the identity map. -/
  loaded : List ProviderCredential := []
  /-- Rows that were read or inserted. -/
  known : List Claim := []
  /-- Lookups of a webhook route that found none, since the last row was inserted or locked. -/
  vacant : List (WebhookRoute → Bool) := []
  /-- What Telegram was sent. -/
  told : List Sent := []
  /-- Rows that were known to transactions the instance has committed, and what they sent. -/
  vouched : List Claim := []
  confirmed : List Sent := []

/-- What the environment decides about a call, and what the database shows. -/
structure Decision where
  choice : Choice := {}
  shown : Database := fun _ => []
  tenantIds : List TenantId := []

/-- The answer of a call that may fail. -/
def Choice.answer {α : Type} (c : Choice) (a : α) : Except PyError α :=
  match c.fault with
  | some e => .error e
  | none => .ok a

/-- What the database carried out: a commit also where its answer was lost. -/
def Op.landed (d : Decision) (ok : Bool) : Op → Bool
  | .commit => ok || d.choice.delivered
  | _ => ok

/-- A call that sends what is pending to the database first. -/
def Op.flushes : Op → Prop
  | .select .. | .flush | .savepoint | .releaseSavepoint | .commit => True
  | .openSession _ | .closeSession | .add .. | .update .. | .rollbackToSavepoint | .rollback
  | .utcnow | .uuid4 | .activeTenantIds | .tenantsOfToken _ | .tokenUrlsafe | .encrypt _
  | .validateUser _ | .telegram .. => False

/-- A call that takes something of the transaction back. -/
def Op.undoes : Op → Prop
  | .openSession _ | .closeSession | .rollbackToSavepoint | .rollback => True
  | .select .. | .add .. | .update .. | .flush | .savepoint | .releaseSavepoint | .commit
  | .utcnow | .uuid4 | .activeTenantIds | .tenantsOfToken _ | .tokenUrlsafe | .encrypt _
  | .validateUser _ | .telegram .. => False

instance : DecidablePred Op.flushes
  | .select .. | .flush | .savepoint | .releaseSavepoint | .commit => .isTrue trivial
  | .openSession _ | .closeSession | .add .. | .update .. | .rollbackToSavepoint | .rollback
  | .utcnow | .uuid4 | .activeTenantIds | .tenantsOfToken _ | .tokenUrlsafe | .encrypt _
  | .validateUser _ | .telegram .. => .isFalse id

instance : DecidablePred Op.undoes
  | .openSession _ | .closeSession | .rollbackToSavepoint | .rollback => .isTrue trivial
  | .select .. | .add .. | .update .. | .flush | .savepoint | .releaseSavepoint | .commit
  | .utcnow | .uuid4 | .activeTenantIds | .tenantsOfToken _ | .tokenUrlsafe | .encrypt _
  | .validateUser _ | .telegram .. => .isFalse id

namespace Shift

/-- No other transaction inserts the row, or updates it, before this one has ended. -/
def Owns (s : Shift) (c : Claim) : Prop := c ∈ s.locked ∨ c ∈ s.held

/-- A transaction that has done nothing yet. -/
def renewed (s : Shift) (tenantId : TenantId) : Shift :=
  { tenantId, vouched := s.vouched, confirmed := s.confirmed }

/-- What was pending has gone to the database. -/
def flushed (s : Shift) : Shift :=
  { s with
    pending := []
    held := s.held ++ s.pending
    waiting := []
    locked := s.locked ++ s.waiting
    known := s.known ++ s.pending
    vacant := if s.pending = [] ∧ s.waiting = [] then s.vacant else [] }

/-- The rows a select returns. -/
def rows (s : Shift) (d : Decision) (t : Table) (cond : Row t → Bool) : List (Row t) :=
  pick d.choice.order ((d.shown t).filter fun r => rowTenant t r == s.tenantId && cond r)

/-- A row that is in the identity map is not loaded again. -/
def load (s : Shift) : (t : Table) → List (Row t) → List ProviderCredential
  | .providerCredentials, rows =>
    s.loaded ++ rows.filter fun r => s.loaded.all fun r' => r'.id != r.id
  | _, _ => s.loaded

/-- An assignment that leaves a row as it is writes nothing. -/
def touched (s : Shift) : (t : Table) → (Row t → Bool) → (Row t → Row t) → List Claim
  | .providerCredentials, which, change =>
    (s.loaded.filter fun r => which r && change r != r).map (·.claim)
  | _, _, _ => []

def assigned (s : Shift) :
    (t : Table) → (Row t → Bool) → (Row t → Row t) → List ProviderCredential
  | .providerCredentials, which, change => modifyRows which change s.loaded
  | _, _, _ => s.loaded

/-- A lookup of a webhook route that found none. -/
def looked (s : Shift) : (t : Table) → (Row t → Bool) → List (Row t) → List (WebhookRoute → Bool)
  | .webhookRoutes, cond, [] => s.vacant ++ [cond]
  | _, _, _ => s.vacant

/-- What is read, once the pending rows are in the database. -/
def read (s : Shift) (t : Table) (cond : Row t → Bool) (rows : List (Row t)) : Shift :=
  { s with
    loaded := s.load t rows
    known := s.known ++ rows.filterMap (rowClaim t)
    vacant := s.looked t cond rows }

/-- What a call is answered. -/
def answer (s : Shift) (d : Decision) : (op : Op) → Except PyError op.Ret
  | .openSession _ | .closeSession | .add .. | .update .. => .ok ()
  | .select t cond => d.choice.answer (s.rows d t cond)
  | .flush | .savepoint | .releaseSavepoint | .rollbackToSavepoint | .commit | .rollback =>
    d.choice.answer ()
  | .utcnow => .ok (World.reading d.choice)
  | .uuid4 => .ok d.choice.id
  | .activeTenantIds | .tenantsOfToken _ => d.choice.answer d.tenantIds
  | .tokenUrlsafe => .ok d.choice.token
  | .encrypt _ => .ok d.choice.ciphertext
  | .validateUser _ => d.choice.answer d.choice.check
  | .telegram call _ => d.choice.answer (World.telegramAnswer d.choice call)

/-- What Telegram was sent, also where its answer was lost. -/
def messages (s : Shift) (d : Decision) : Op → List Sent
  | .telegram call about =>
    if d.choice.fault.isNone || d.choice.delivered then
      [{ tenantId := s.tenantId
         call
         about
         link := match call with
          | .createChatInviteLink .. => some d.choice.link
          | _ => none }]
    else []
  | _ => []

/-- What a call leaves of the transaction, whether it was carried out or not. -/
def after (s : Shift) (d : Decision) : Op → Bool → Shift
  | .openSession tenantId, _ => s.renewed tenantId
  | .closeSession, _ | .rollback, _ => s.renewed s.tenantId
  | .commit, true =>
    { s.renewed s.tenantId with
      loaded := s.loaded
      vouched := s.vouched ++ s.flushed.known
      confirmed := s.confirmed ++ s.told }
  | .add t row, _ =>
    { s with
      pending := s.pending ++ (rowClaim t row).toList
      loaded := s.load t [row]
      vacant := if t = .webhookRoutes then [] else s.vacant }
  | .update t which change, _ =>
    { s with
      waiting := s.waiting ++ s.touched t which change
      loaded := s.assigned t which change }
  | .select t cond, true => s.flushed.read t cond (s.rows d t cond)
  | .flush, true | .releaseSavepoint, true => s.flushed
  | .savepoint, true => { s.flushed with saved := (s.flushed.held, s.flushed.locked) }
  | .rollbackToSavepoint, _ =>
    { s with
      pending := []
      held := s.saved.1
      waiting := []
      locked := s.saved.2
      known := []
      vacant := [] }
  | .telegram call about, _ => { s with told := s.told ++ s.messages d (.telegram call about) }
  | _, _ => s

/-- What the database and the cipher may do, whoever else is at work: no two rows of a table
    violate a constraint, and no ciphertext comes twice. -/
def Admits (s : Shift) (d : Decision) : Op → Prop
  | .select t _ => (d.shown t).Pairwise fun r r' => clash t r r' = false
  | .encrypt _ => ∀ r ∈ s.loaded, r.encryptedSecret ≠ d.choice.ciphertext
  | _ => True

/-- What a transaction owes, that may mint an invite for `who` alone.  It punishes for a
    period that it has claimed, and nobody twice; it mints for the user whose account it has
    seen; it inserts a webhook route when it has found none and nobody else can insert one;
    and it changes no column that identifies a row. -/
def May (who : Option Enrolment) (s : Shift) : Op → Prop
  | .add .webhookRoutes row =>
    row.tenantId = s.tenantId ∧ row.provider = "TELEGRAM" ∧ s.Owns (botTokenOf s.tenantId) ∧
      ∃ cond ∈ s.vacant, ∀ r : WebhookRoute, r.tenantId = s.tenantId → r.provider = "TELEGRAM" →
        cond r = true
  | .update t _ change => ∀ r, rowClaim t (change r) = rowClaim t r
  | .rollbackToSavepoint => s.told = []
  | .telegram call about =>
    (∀ p, penaltyOf call about = some p →
      claimFor s.tenantId p ∈ s.held ∧ ∀ x ∈ s.told, x.penalty ≠ some p) ∧
    (call.mints → ∃ e userId, who = some e ∧ .user userId s.tenantId e.telegramUserId ∈ s.known ∧
      .account s.tenantId e.providerType e.uid userId ∈ s.known)
  | _ => True

/-- One instance alone, whatever the others do. -/
def machine (who : Option Enrolment) : Machine Op Op.Ret PyError Shift where
  allowed := May who
  steps s op r s' := ∃ d : Decision, s.Admits d op ∧ r = s.answer d op ∧
    s' = s.after d op (op.landed d r.isOk)

end Shift

end VipChannel
