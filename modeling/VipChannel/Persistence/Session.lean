/-
  VipChannel.Persistence.Session

  What the application does to the outside world, and one semantics of it.

  `Op` lists the calls: statements of a SQLAlchemy session bound to one tenant
  (core/tenant_scope.py), the clock, the uuid generator, the exchange and
  Telegram.  The services are programs over `Op`.

  `World.step` is the serial semantics: one session at a time over one committed
  database.  The session works on a view that starts as the committed state,
  becomes it on commit and is discarded otherwise: a commit that raises has not
  taken effect, and sessions close (Persistence/LostAnswers).  Everything the environment
  decides about a call (whether it fails, whether a failed call took effect, in
  which order rows come, what time it is) is a `Choice`.
-/
import VipChannel.Lib.Program
import VipChannel.Persistence.Models
import VipChannel.Domain.Compliance

namespace VipChannel

open Lib

/-! ## Calls -/

/-- What a POST to the Bot API comes back with. -/
inductive BotApiAnswer where
  /-- An `httpx.HTTPError`, or a body that is no JSON: the class of the exception. -/
  | failed (excType : String)
  /-- The decoded body, and the `str` of what an error's text quotes of it. -/
  | answered (body : Json) (strOf : Json → String)

/-- A Bot API method with its parameters, as the adapter sends them.  What a call changes is
    sent under the bot of the session's tenant. -/
inductive TelegramCall where
  /-- `getMe` of the bot that has the token. -/
  | getMe (botToken : String)
  | createChatInviteLink (chatId memberLimit : Int) (expireDate : Option Int)
      (name : Option String)
  | banChatMember (chatId userId : Int)
  | unbanChatMember (chatId userId : Int)
  | sendMessage (chatId : Int) (text : String)
  deriving DecidableEq

/-- What a Bot API method answers. -/
abbrev TelegramCall.Ret : TelegramCall → Type
  | .getMe _ => BotApiAnswer
  | .createChatInviteLink .. => String
  | .banChatMember .. | .unbanChatMember .. | .sendMessage .. => Unit

/-- What a Telegram call is made for.  The code does not send it: it labels the call, so
    that a property can speak of the messages about one membership. -/
inductive Concern where
  | compliance (membershipId : RowId) (action : ComplianceAction) (periodStart : DateTime)
  | invite (membershipId : RowId)
  deriving DecidableEq

inductive Op where
  /-- `AsyncSessionFactory()` entered and `bind_tenant`. -/
  | openSession (tenantId : TenantId)
  /-- Leaving the session's `async with`: what is uncommitted is lost. -/
  | closeSession
  | select (t : Table) (cond : Row t → Bool)
  /-- `session.add`: pending until the next flush. -/
  | add (t : Table) (row : Row t)
  /-- Assignments to attributes of loaded rows: pending until the next flush. -/
  | update (t : Table) (which : Row t → Bool) (change : Row t → Row t)
  | flush
  | savepoint
  | releaseSavepoint
  | rollbackToSavepoint
  | commit
  | rollback
  | utcnow
  | uuid4
  /-- `select(Tenant.id)`, on a session bound to no tenant. -/
  | activeTenantIds
  /-- `select(WebhookRoute)` by its token, on a session bound to no tenant. -/
  | tenantsOfToken (token : String)
  /-- `secrets.token_urlsafe(32)[:64]`; the cut leaves all of it. -/
  | tokenUrlsafe
  /-- `Fernet.encrypt`, under a key that is there. -/
  | encrypt (plaintext : String)
  | validateUser (uid : String)
  | telegram (call : TelegramCall) (about : Option Concern)

abbrev Op.Ret : Op → Type
  | .select t _ => List (Row t)
  | .utcnow => DateTime
  | .uuid4 => RowId
  | .activeTenantIds | .tenantsOfToken _ => List TenantId
  | .tokenUrlsafe | .encrypt _ => String
  | .validateUser _ => ReferralCheck
  | .telegram call _ => call.Ret
  | .openSession _ | .closeSession | .add .. | .update .. | .flush | .savepoint
  | .releaseSavepoint | .rollbackToSavepoint | .commit | .rollback => Unit

/-- Application code: a program over the calls that may raise. -/
abbrev App := Program Op Op.Ret PyError

/-! ## The serial semantics -/

/-- A Telegram call that took effect. -/
structure Sent where
  tenantId : TenantId
  call : TelegramCall
  about : Option Concern
  /-- The link, where the call minted one. -/
  link : Option String

/-- The environment's decision about one call. -/
structure Choice where
  /-- The exception the call raises, if it fails. -/
  fault : Option PyError := none
  /-- Whether a failed Telegram call took effect before its answer was lost. -/
  delivered : Bool := false
  /-- The order in which a select returns its rows. -/
  order : List Nat := []
  now : DateTime := .epoch
  id : RowId := 0
  token : String := ""
  ciphertext : String := ""
  check : ReferralCheck := { uid := "", registered := false }
  link : String := ""
  /-- What the Bot API says of a bot. -/
  me : BotApiAnswer :=
    .answered (.obj [("ok", .bool true), ("result", .obj [("id", .int 1)])]) fun _ => ""

instance : Inhabited Choice := ⟨{}⟩

structure World where
  /-- The committed rows. -/
  db : Database
  /-- The tenant registry. -/
  registry : List Tenant
  /-- The tenant the open session is bound to. -/
  tenantId : TenantId
  /-- What the open session sees: committed rows and its own writes. -/
  view : Database
  /-- The table of which a pending write violates a unique constraint: the next flush
      raises. -/
  conflict : Option Table
  /-- The view at the savepoint. -/
  saved : Database
  /-- What Telegram did for earlier sessions, and for this one. -/
  sent : List Sent
  txSent : List Sent
  /-- The UIDs the exchange was asked about. -/
  asked : List (TenantId × String)
  /-- The latest reading of the clock. -/
  clock : Int

def integrityError (t : Table) : PyError :=
  ⟨.integrityError, "duplicate key value violates unique constraint of " ++ t.name⟩

/-- Whether updating the selected rows makes two rows clash that did not. -/
def introducesClash (t : Table) (which : Row t → Bool) (change : Row t → Row t)
    (rows : List (Row t)) : Bool :=
  rows.any fun r => which r && rows.any fun s =>
    !clash t r s && clash t (change r) (if which s then change s else s)

namespace World

/-- A row of the session's tenant: `with_loader_criteria` and the row policies filter
    every statement by it. -/
def inScope (w : World) {t : Table} (cond : Row t → Bool) (r : Row t) : Bool :=
  rowTenant t r == w.tenantId && cond r

/-- A statement that flushes first. -/
def flushed (w : World) (c : Choice) : Except PyError Unit :=
  match c.fault with
  | some e => .error e
  | none =>
    match w.conflict with
    | some t => .error (integrityError t)
    | none => .ok ()

def withPending (w : World) (t : Table) (row : Row t) : World :=
  if (w.view t).any (clash t row) then { w with conflict := w.conflict.or (some t) }
  else { w with view := w.view.append t row }

def withUpdate (w : World) (t : Table) (which : Row t → Bool) (change : Row t → Row t) :
    World :=
  if introducesClash t (w.inScope which) change (w.view t) then
    { w with conflict := w.conflict.or (some t) }
  else { w with view := w.view.modify t (w.inScope which) change }

/-- `datetime.now(UTC)`. -/
def reading (c : Choice) : DateTime :=
  { c.now with utcoffset := some 0 }

/-- What Telegram answers to a call that succeeds. -/
def telegramAnswer (c : Choice) : (call : TelegramCall) → call.Ret
  | .getMe _ => c.me
  | .createChatInviteLink .. => c.link
  | .banChatMember .. | .unbanChatMember .. | .sendMessage .. => ()

/-- The record of a call that took effect. -/
def record (w : World) (c : Choice) (call : TelegramCall) (about : Option Concern) : Sent where
  tenantId := w.tenantId
  call := call
  about := about
  link := match call with
    | .createChatInviteLink .. => some c.link
    | _ => none

/-- One call. -/
def step : Handler Op Op.Ret PyError Choice World
  | w, .openSession tenantId, _ =>
    (.ok (), { w with
      tenantId, view := w.db, conflict := none
      sent := w.sent ++ w.txSent, txSent := [] })
  | w, .closeSession, _ => (.ok (), { w with view := w.db, conflict := none })
  | w, .select t cond, c =>
    (match w.flushed c with
      | .error e => .error e
      | .ok () => .ok (pick c.order ((w.view t).filter (w.inScope cond))), w)
  | w, .add t row, _ => (.ok (), w.withPending t row)
  | w, .update t which change, _ => (.ok (), w.withUpdate t which change)
  | w, .flush, c => (w.flushed c, w)
  | w, .savepoint, c =>
    match w.flushed c with
    | .error e => (.error e, w)
    | .ok () => (.ok (), { w with saved := w.view })
  | w, .releaseSavepoint, c => (w.flushed c, w)
  | w, .rollbackToSavepoint, c =>
    (match c.fault with
      | some e => .error e
      | none => .ok (), { w with view := w.saved, conflict := none })
  | w, .commit, c =>
    match w.flushed c with
    | .error e => (.error e, w)
    | .ok () => (.ok (), { w with db := w.view })
  | w, .rollback, c =>
    (match c.fault with
      | some e => .error e
      | none => .ok (), { w with view := w.db, conflict := none })
  | w, .utcnow, c => (.ok (reading c), { w with clock := (reading c).utc })
  | w, .uuid4, c => (.ok c.id, w)
  | w, .activeTenantIds, c =>
    (match c.fault with
      | some e => .error e
      | none => .ok (pick c.order ((w.registry.filter (·.isActive)).map (·.id))), w)
  | w, .tenantsOfToken token, c =>
    (match c.fault with
      | some e => .error e
      | none => .ok (pick c.order
          (((w.db .webhookRoutes).filter (·.token == token)).map (·.tenantId))), w)
  | w, .tokenUrlsafe, c => (.ok c.token, w)
  | w, .encrypt _, c => (.ok c.ciphertext, w)
  | w, .validateUser uid, c =>
    (match c.fault with
      | some e => .error e
      | none => .ok c.check, { w with asked := w.asked ++ [(w.tenantId, uid)] })
  | w, .telegram call about, c =>
    match c.fault with
    | some e =>
      (.error e,
        if c.delivered then { w with txSent := w.txSent ++ [w.record c call about] } else w)
    | none =>
      (.ok (telegramAnswer c call), { w with txSent := w.txSent ++ [w.record c call about] })

/-- Everything Telegram did so far. -/
def allSent (w : World) : List Sent := w.sent ++ w.txSent

end World

end VipChannel
