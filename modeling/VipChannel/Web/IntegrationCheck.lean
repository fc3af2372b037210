/-
  VipChannel.Web.IntegrationCheck

  What the check of an integration promises.

  A report without a complaint says that every market it lists takes users.  The check
  looks for a market's program under any provider, the conversation under its own.

  The check takes two errors for an answer about the bot: that the token is missing, and that
  Telegram is unavailable.  What Telegram says may lead to neither a name nor one of the two.
-/
import VipChannel.Web.Readiness

namespace VipChannel

open Lib
open Program (perform raising UsesOnly usesOnly_bind)
open ReferralOnboardingService

/-! ## Stored secrets -/

/-- The credential of the name. -/
structure IsSecret (tenantId : TenantId) (providerType : ProviderType) (name : String)
    (record : ProviderCredential) : Prop where
  tenantId_eq : record.tenantId = tenantId
  providerType_eq : record.providerType = providerType
  name_eq : record.credentialName = name

/-- The tenant has a credential of the name. -/
def Database.Stores (d : Database) (tenantId : TenantId) (providerType : ProviderType)
    (name : String) : Prop :=
  ∃ record ∈ d .providerCredentials, IsSecret tenantId providerType name record

/-- The tenant has a credential of the name that cannot be opened. -/
def Database.Garbled (env : EncryptionKey) (d : Database) (tenantId : TenantId)
    (providerType : ProviderType) (name : String) : Prop :=
  ∃ record ∈ d .providerCredentials, IsSecret tenantId providerType name record ∧
    ∃ e, decryptSecret env record.encryptedSecret = .error e

/-- The bot is registered, and has its token. -/
def Database.BotSet (d : Database) (tenantId : TenantId) : Prop :=
  (∃ config ∈ d .telegramBotConfigs, config.tenantId = tenantId) ∧
    d.Stores tenantId .telegram TELEGRAM_BOT_TOKEN

def Database.BotGarbled (env : EncryptionKey) (d : Database) (tenantId : TenantId) : Prop :=
  (∃ config ∈ d .telegramBotConfigs, config.tenantId = tenantId) ∧
    d.Garbled env tenantId .telegram TELEGRAM_BOT_TOKEN

def Database.ExchangeSet (d : Database) (tenantId : TenantId) : Prop :=
  d.Stores tenantId .bitunix BITUNIX_API_KEY ∧ d.Stores tenantId .bitunix BITUNIX_API_SECRET

/-- The secret is opened after the key. -/
def Database.ExchangeGarbled (env : EncryptionKey) (d : Database) (tenantId : TenantId) : Prop :=
  d.Garbled env tenantId .bitunix BITUNIX_API_KEY ∨
    d.Stores tenantId .bitunix BITUNIX_API_KEY ∧ d.Garbled env tenantId .bitunix BITUNIX_API_SECRET

/-- The credentials of the name open to the secret, and there are such. -/
structure Database.Opens (env : EncryptionKey) (d : Database) (tenantId : TenantId)
    (providerType : ProviderType) (name s : String) : Prop where
  stores : d.Stores tenantId providerType name
  all : ∀ record ∈ d .providerCredentials, IsSecret tenantId providerType name record →
    decryptSecret env record.encryptedSecret = .ok s

/-- The bot is registered, and this is its token. -/
def Database.BotOpens (env : EncryptionKey) (d : Database) (tenantId : TenantId)
    (botToken : String) : Prop :=
  (∃ config ∈ d .telegramBotConfigs, config.tenantId = tenantId) ∧
    d.Opens env tenantId .telegram TELEGRAM_BOT_TOKEN botToken

theorem Database.Opens.not_garbled {env : EncryptionKey} {d : Database} {tenantId : TenantId}
    {providerType : ProviderType} {name s : String} (h : d.Opens env tenantId providerType name s) :
    ¬ d.Garbled env tenantId providerType name := by
  rintro ⟨record, hmem, hsecret, e, he⟩
  have hs := h.all record hmem hsecret
  rw [he] at hs
  cases hs

/-- A name has one secret. -/
theorem Database.Opens.unique {env : EncryptionKey} {d : Database} {tenantId : TenantId}
    {providerType : ProviderType} {name s s' : String}
    (h : d.Opens env tenantId providerType name s)
    (h' : d.Opens env tenantId providerType name s') : s = s' := by
  obtain ⟨record, hmem, hsecret⟩ := h.stores
  have hs := h.all record hmem hsecret
  rw [h'.all record hmem hsecret] at hs
  cases hs
  rfl

theorem Database.BotOpens.set {env : EncryptionKey} {d : Database} {tenantId : TenantId}
    {botToken : String} (h : d.BotOpens env tenantId botToken) : d.BotSet tenantId :=
  ⟨h.1, h.2.stores⟩

theorem Database.BotOpens.not_garbled {env : EncryptionKey} {d : Database} {tenantId : TenantId}
    {botToken : String} (h : d.BotOpens env tenantId botToken) : ¬ d.BotGarbled env tenantId :=
  fun hbad => h.2.not_garbled hbad.2

theorem Database.Garbled.stores {env : EncryptionKey} {d : Database} {tenantId : TenantId}
    {providerType : ProviderType} {name : String} (h : d.Garbled env tenantId providerType name) :
    d.Stores tenantId providerType name := by
  obtain ⟨record, hmem, hkeys, -⟩ := h
  exact ⟨record, hmem, hkeys⟩

/-- The same rows, and none of them pending in vain. -/
structure World.Alike (w w' : World) : Prop where
  view : w'.view = w.view
  tenantId : w'.tenantId = w.tenantId
  conflict : w'.conflict = w.conflict

theorem World.Alike.refl (w : World) : w.Alike w := ⟨rfl, rfl, rfl⟩

theorem decryptSecret_error {env : EncryptionKey} {ciphertext : String} {e : PyError}
    (h : decryptSecret env ciphertext = .error e) : e.cls = .credentialEncryptionError := by
  unfold decryptSecret cipher at h
  cases env with
  | unset =>
    cases h
    rfl
  | malformed =>
    cases h
    rfl
  | key fernet =>
    cases hplain : fernet ciphertext with
    | some plaintext =>
      simp [hplain, bind, Except.bind, pure, Except.pure] at h
    | none =>
      simp only [hplain, bind, Except.bind] at h
      cases h
      rfl

/-! ## What Telegram says of a bot -/

/-- The errors that the check takes for an answer. -/
def PyError.Caught (e : PyError) : Prop :=
  e.cls = .missingCredentialError ∨ e.cls = .providerUnavailableError

theorem PyError.FromPython.not_caught {e : PyError} (h : e.FromPython) : ¬ e.Caught := by
  rintro (hcls | hcls) <;> simp [PyError.FromPython, hcls] at h

/-- The adapter makes a name of the answer, or the error that its port allows: the body is a
    dict, and if it says `ok` then its result is a dict with a number as the id. -/
def BotApiAnswer.Expected : BotApiAnswer → Prop
  | .failed _ => True
  | .answered body _ => ∃ data, body = .obj data ∧ ((Json.get data "ok").truthy = true →
      ∃ result, Json.get data "result" = .obj result ∧ Numeric (Json.get result "id"))

/-- A result is a name where its id is a number, and an error of Python's elsewhere. -/
theorem identityOf_accepted {data : List (String × Json)} {strOf : Json → String}
    (hok : (Json.get data "ok").truthy = true) :
    (∀ e, TelegramBotProvider.identityOf (.answered (.obj data) strOf) = .error e → e.Caught) ↔
      ∃ result, Json.get data "result" = .obj result ∧ Numeric (Json.get result "id") := by
  have hidentity : TelegramBotProvider.identityOf (.answered (.obj data) strOf) =
      ((subscript "id" (Json.get data "result") >>= intOf) >>= fun id =>
        dictOf (Json.get data "result") >>= fun fields =>
          .ok { id, username := Json.get fields "username" }) := by
    have hcall : TelegramBotProvider.resultOf "getMe" (.answered (.obj data) strOf) =
        .ok (Json.get data "result") := by
      simp only [TelegramBotProvider.resultOf, dictOf, bind, Except.bind, if_pos hok]
      rfl
    rw [TelegramBotProvider.identityOf, hcall, bind_assoc]
    rfl
  rw [hidentity]
  cases hresult : Json.get data "result" with
  | obj result =>
    have hnumeric := @numeric_get_iff "id" result
    cases hid : subscript "id" (.obj result) >>= intOf with
    | ok id =>
      rw [hid] at hnumeric
      refine iff_of_true (fun e he => ?_) ⟨result, rfl, hnumeric.mp ⟨id, rfl⟩⟩
      cases he
    | error e =>
      rw [hid] at hnumeric
      apply iff_of_false
      · intro h
        have hpython : e.FromPython := by
          cases hfound : subscript "id" (.obj result) with
          | error e' =>
            rw [hfound] at hid
            cases hid
            exact subscript_error hfound
          | ok v =>
            rw [hfound] at hid
            exact intOf_error hid
        exact hpython.not_caught (h e rfl)
      · rintro ⟨_, hsame, hnum⟩
        cases hsame
        obtain ⟨n, hn⟩ := hnumeric.mpr hnum
        cases hn
  | null | bool | int | float | str | arr =>
    -- There is no `["id"]` of it.
    apply iff_of_false
    · intro h
      exact PyError.FromPython.not_caught (.inr (.inr (.inl rfl))) (h _ rfl)
    · rintro ⟨_, hobj, -⟩
      cases hobj

/-- The answers that the check can deal with are those. -/
theorem identityOf_caught_iff {answer : BotApiAnswer} :
    (∀ e, TelegramBotProvider.identityOf answer = .error e → e.Caught) ↔ answer.Expected := by
  cases answer with
  | failed excType =>
    refine iff_of_true (fun e he => ?_) trivial
    cases he
    exact .inr rfl
  | answered body strOf =>
    cases body with
    | obj data =>
      by_cases hok : (Json.get data "ok").truthy = true
      · rw [identityOf_accepted hok]
        simp [BotApiAnswer.Expected, hok]
      · refine iff_of_true (fun e he => ?_) ⟨data, rfl, fun h => absurd h hok⟩
        simp only [TelegramBotProvider.identityOf, TelegramBotProvider.resultOf, dictOf, bind,
          Except.bind, if_neg hok] at he
        cases he
        exact .inr rfl
    | null | bool | int | float | str | arr =>
      -- There is no `.get` on it.
      apply iff_of_false
      · intro h
        exact PyError.FromPython.not_caught (.inl rfl) (h _ rfl)
      · rintro ⟨data, hbody, -⟩
        cases hbody

/-- What `getMe` comes to under the environment's decision. -/
def Choice.identity (c : Choice) : Except PyError BotIdentity :=
  match c.fault with
  | some e => .error e
  | none => TelegramBotProvider.identityOf c.me

/-- A decision about `getMe` that ends in a name, or in an error the check takes for an
    answer. -/
def Choice.Expected (c : Choice) : Prop :=
  match c.fault with
  | some e => e.Caught
  | none => c.me.Expected

theorem Choice.expected_iff {c : Choice} :
    c.Expected ↔ ∀ e, c.identity = .error e → e.Caught := by
  unfold Choice.Expected Choice.identity
  cases c.fault with
  | some e => simp
  | none => exact identityOf_caught_iff.symm

theorem Choice.expected_of_identity {c : Choice} {identity : BotIdentity}
    (h : c.identity = .ok identity) : c.Expected := by
  refine Choice.expected_iff.mpr fun e he => ?_
  rw [h] at he
  cases he

section Secrets

variable {G : World → Op → Choice → Prop} {env : EncryptionKey} {w : World}
  {F : PyError → World → Prop}

/-- What a credential is looked up by is a key. -/
theorem secret_key {providerType : ProviderType} {name : String} (r s : ProviderCredential)
    (_ : rowTenant .providerCredentials r = rowTenant .providerCredentials s)
    (hr : (r.tenantId == w.tenantId && r.providerType == providerType &&
      r.credentialName == name) = true)
    (hs : (s.tenantId == w.tenantId && s.providerType == providerType &&
      s.credentialName == name) = true) : clash .providerCredentials r s = true := by
  simp only [Bool.and_eq_true, beq_iff_eq] at hr hs
  simp [clash, hr, hs]

variable (env) in
/-- Whether a lookup finds a credential says whether there is one, and what it finds, the only
    one, whether it can be opened. -/
theorem secret_found {providerType : ProviderType} {name : String}
    {record : Option ProviderCredential}
    (h : w.Found .providerCredentials (fun r => r.tenantId == w.tenantId &&
      r.providerType == providerType && r.credentialName == name) record) :
    (record = none ∧ ¬ w.view.Stores w.tenantId providerType name) ∨
      ∃ found, record = some found ∧ found ∈ w.view .providerCredentials ∧
        IsSecret w.tenantId providerType name found ∧
        (w.view.Garbled env w.tenantId providerType name ↔
          ∃ e, decryptSecret env found.encryptedSecret = .error e) ∧
        ∀ r ∈ w.view .providerCredentials, IsSecret w.tenantId providerType name r →
          r = found := by
  have hscope : ∀ r : ProviderCredential, IsSecret w.tenantId providerType name r →
      w.inScope (t := .providerCredentials) (fun r => r.tenantId == w.tenantId &&
        r.providerType == providerType && r.credentialName == name) r = true := by
    intro r hr
    simp [World.inScope, rowTenant, hr.tenantId_eq, hr.providerType_eq, hr.name_eq]
  cases record with
  | none =>
    refine .inl ⟨rfl, ?_⟩
    rintro ⟨r, hr, hkeys⟩
    have hfalse := h r hr
    rw [hscope r hkeys] at hfalse
    cases hfalse
  | some found =>
    have hcond := World.inScope_cond h.2.1
    simp only [Bool.and_eq_true, beq_iff_eq] at hcond
    have hsecret : IsSecret w.tenantId providerType name found :=
      ⟨hcond.1.1, hcond.1.2, hcond.2⟩
    have honly : ∀ r ∈ w.view .providerCredentials,
        IsSecret w.tenantId providerType name r → r = found :=
      fun r hr hkeys => h.2.2 r hr (hscope r hkeys)
    refine .inr ⟨found, rfl, h.1, hsecret, ⟨?_, ?_⟩, honly⟩
    · rintro ⟨r, hr, hkeys, e, he⟩
      rw [honly r hr hkeys] at he
      exact ⟨e, he⟩
    · rintro ⟨e, he⟩
      exact ⟨found, h.1, hsecret, e, he⟩

theorem works_secret {providerType : ProviderType} {name : String} {Q : String → World → Prop}
    (hw : w.Sound) (hconflict : w.conflict = none)
    (hok : ∀ s, w.view.Opens env w.tenantId providerType name s → Q s w)
    (hno : ∀ text, ¬ w.view.Stores w.tenantId providerType name → F (missingCredential text) w)
    (hbad : ∀ e, w.view.Garbled env w.tenantId providerType name →
      e.cls = .credentialEncryptionError → F e w) :
    Works G (ProviderFactory.secret env w.tenantId providerType name) Q F w := by
  unfold ProviderFactory.secret ProviderCredentialRepository.getNamed
  rw [works_bind]
  refine works_selectOneOrNone hw hconflict secret_key fun record hrecord => ?_
  rcases secret_found env hrecord with ⟨rfl, hnone⟩ | ⟨found, rfl, hmem, hsecret, -, honly⟩
  · exact .inr (hno _ hnone)
  · refine works_raising (fun s hs => hok s ⟨⟨found, hmem, hsecret⟩, ?_⟩) fun e he => ?_
    · intro r hr hkeys
      rw [honly r hr hkeys, hs]
    · exact hbad e ⟨found, hmem, hsecret, e, he⟩ (decryptSecret_error he)

/-- Whether a lookup finds a bot says whether there is one. -/
theorem bot_found {config : Option TelegramBotConfig}
    (h : w.Found .telegramBotConfigs (fun r => r.tenantId == w.tenantId) config) :
    config.isSome = true ↔ ∃ config ∈ w.view .telegramBotConfigs, config.tenantId = w.tenantId := by
  cases config with
  | none =>
    refine iff_of_false Bool.false_ne_true ?_
    rintro ⟨r, hr, hkey⟩
    have hscope := h r hr
    simp [World.inScope, rowTenant, hkey] at hscope
  | some config =>
    have hcond := World.inScope_cond h.2.1
    exact iff_of_true rfl ⟨config, h.1, by simpa using hcond⟩

theorem bot_key (r s : TelegramBotConfig)
    (_ : rowTenant .telegramBotConfigs r = rowTenant .telegramBotConfigs s)
    (hr : (r.tenantId == w.tenantId) = true) (hs : (s.tenantId == w.tenantId) = true) :
    clash .telegramBotConfigs r s = true := by
  simp only [beq_iff_eq] at hr hs
  simp [clash, hr, hs]

theorem works_telegram {Q : String → World → Prop} (hw : w.Sound) (hconflict : w.conflict = none)
    (hok : ∀ s, w.view.BotOpens env w.tenantId s → Q s w)
    (hno : ∀ text, ¬ w.view.BotSet w.tenantId → F (missingCredential text) w)
    (hbad : ∀ e, w.view.BotGarbled env w.tenantId → e.cls = .credentialEncryptionError → F e w) :
    Works G (ProviderFactory.telegram env w.tenantId) Q F w := by
  unfold ProviderFactory.telegram TelegramBotConfigRepository.get
  rw [works_bind]
  refine works_selectOneOrNone hw hconflict bot_key fun config hconfig => ?_
  have hthere := bot_found hconfig
  cases config with
  | none =>
    refine .inr (hno _ ?_)
    rintro ⟨hbot, -⟩
    exact Bool.false_ne_true (hthere.mpr hbot)
  | some config =>
    have hbot := hthere.mp rfl
    exact works_secret hw hconflict (fun s hs => hok s ⟨hbot, hs⟩)
      (fun text hs => hno text fun h => hs h.2) fun e hs he => hbad e ⟨hbot, hs⟩ he

/-- The environment decides what `getMe` comes to. -/
theorem works_getMe {botToken : String} {Q : BotIdentity → World → Prop}
    (hok : ∀ c identity w', w.Alike w' → G w (.telegram (.getMe botToken) none) c →
      c.identity = .ok identity → Q identity w')
    (hfail : ∀ c e w', w.Alike w' → G w (.telegram (.getMe botToken) none) c →
      c.identity = .error e → F e w') :
    Works G (TelegramBotProvider.getMe botToken) Q F w := by
  unfold TelegramBotProvider.getMe
  rw [works_bind]
  refine wp_serial_perform fun c hc => ?_
  simp only [World.step]
  cases hfault : c.fault with
  | none =>
    have hidentity : c.identity = TelegramBotProvider.identityOf c.me := by
      simp only [Choice.identity, hfault]
    refine works_raising (fun identity hname => ?_) fun e he => ?_
    · exact hok c identity _ ⟨rfl, rfl, rfl⟩ hc (hidentity.trans hname)
    · exact hfail c e _ ⟨rfl, rfl, rfl⟩ hc (hidentity.trans he)
  | some e =>
    refine .inr (hfail c e _ ?_ hc ?_)
    · split <;> exact ⟨rfl, rfl, rfl⟩
    · simp only [Choice.identity, hfault]

/-- A handler goes on in a world of which something is known whatever was raised. -/
theorem works_caught {α : Type} {p : App α} {h : PyError → App α} {Q : α → World → Prop}
    {I : World → Prop} {E : PyError → World → Prop} (hkept : wp (serial G) p (fun _ w' => I w') w)
    (hp : Works G p (fun a w' => I w' → Q a w') E w)
    (hh : ∀ e w', I w' → Broken G ∨ E e w' → Works G (h e) Q F w') :
    Works G (p.tryCatch h) Q F w := by
  unfold Works
  rw [wp_tryCatch_either]
  refine wp_mono ?_ (wp_and hkept hp)
  rintro (e | a) w' ⟨hi, hq⟩
  · exact hh e w' hi hq
  · exact hq hi

/-- Looking rows up and asking Telegram leaves the rows as they are. -/
theorem wp_alike {α : Type} {p : App α}
    (hp : p.UsesOnly fun op => op.reads ∨ ∃ botToken, op = .telegram (.getMe botToken) none) :
    wp (serial G) p (fun _ w' => w.Alike w') w := by
  refine wp_usesOnly (I := fun w' => w.Alike w') (fun s op c hop _ hs => ?_) hp (.refl w)
  rcases hop with hreads | ⟨botToken, rfl⟩
  · cases op with
    | select t cond => exact hs
    | _ => exact hreads.elim
  · simp only [World.step]
    split
    · split <;> exact ⟨hs.view, hs.tenantId, hs.conflict⟩
    · exact ⟨hs.view, hs.tenantId, hs.conflict⟩

/-- The session of `w` may be given such a decision when it asks for the name of its bot. -/
def Asks (G : World → Op → Choice → Prop) (env : EncryptionKey) (w : World)
    (P : Choice → Prop) : Prop :=
  ∃ botToken c, w.view.BotOpens env w.tenantId botToken ∧
    G w (.telegram (.getMe botToken) none) c ∧ P c

/-- The bot answers, or it is not set up, or Telegram or the database is to blame. -/
structure BotChecked (G : World → Op → Choice → Prop) (env : EncryptionKey) (w : World)
    (bot : Except String Json) : Prop where
  set : bot.isOk = true → w.view.BotSet w.tenantId
  readable : w.view.BotGarbled env w.tenantId → Broken G
  ok : w.view.BotSet w.tenantId →
    bot.isOk = true ∨ Broken G ∨ Asks G env w fun c => ∃ e, c.identity = .error e
  expected : w.view.BotSet w.tenantId → Broken G ∨ Asks G env w Choice.Expected

theorem works_checkBot (hw : w.Sound) (hconflict : w.conflict = none) :
    Works G (Admin.checkBot env w.tenantId)
      (fun bot w' => w.Alike w' ∧ BotChecked G env w bot)
      (fun _ _ => w.view.BotGarbled env w.tenantId ∨ Asks G env w fun c => ¬ c.Expected) w := by
  unfold Admin.checkBot
  have hunset : ¬ w.view.BotSet w.tenantId → ¬ w.view.BotGarbled env w.tenantId :=
    fun h hgarbled => h ⟨hgarbled.1, hgarbled.2.stores⟩
  -- What is raised before the handlers: the token is missing, it cannot be opened, or it was
  -- asked about in vain.
  let F' : PyError → World → Prop := fun e _ =>
    (e.cls = .missingCredentialError ∧ ¬ w.view.BotSet w.tenantId) ∨
    (e.cls = .credentialEncryptionError ∧ w.view.BotGarbled env w.tenantId) ∨
    Asks G env w fun c => c.identity = .error e
  refine works_caught (I := fun w' => w.Alike w') (E := F') (wp_alike ?_) ?_
    fun e w' hw' he => ?_
  · refine usesOnly_bind (ProviderFactory.usesOnly_telegram (fun _ => .inl) _ _)
      fun botToken => ?_
    exact usesOnly_bind (usesOnly_getMe (fun t => .inr ⟨t, rfl⟩) botToken) fun identity => trivial
  · rw [works_bind]
    refine works_telegram hw hconflict (fun botToken hopens => ?_) (fun text hno => ?_)
      fun e hbad he => ?_
    · rw [works_bind]
      refine works_getMe (fun c identity w' _ hc hname => ?_) fun c e w' _ hc he => ?_
      · have hexpected : c.Expected := Choice.expected_of_identity hname
        exact fun hw' => ⟨hw', fun _ => hopens.set, fun h => (hopens.not_garbled h).elim,
          fun _ => .inl rfl, fun _ => .inr ⟨botToken, c, hopens, hc, hexpected⟩⟩
      · exact .inr (.inr ⟨botToken, c, hopens, hc, he⟩)
    · exact .inl ⟨rfl, hno⟩
    · exact .inr (.inl ⟨he, hbad⟩)
  · -- What the two handlers take for a problem is one, or the database is to blame.
    have hproblem : ∀ problem : String, Broken G ∨ ¬ w.view.BotSet w.tenantId ∨
        (Asks G env w fun c => c.identity = .error e ∧ e.Caught) →
        Works G (pure (.error problem) : App (Except String Json))
          (fun bot w' => w.Alike w' ∧ BotChecked G env w bot)
          (fun _ _ => w.view.BotGarbled env w.tenantId ∨ Asks G env w fun c => ¬ c.Expected)
          w' := by
      intro problem hcause
      refine ⟨hw', by simp [Except.isOk, Except.toBool], ?_, ?_, ?_⟩
      · rcases hcause with hbroken | hno | ⟨botToken, c, hopens, -⟩
        · exact fun _ => hbroken
        · exact fun h => (hunset hno h).elim
        · exact fun h => (hopens.not_garbled h).elim
      · rcases hcause with hbroken | hno | ⟨botToken, c, hopens, hc, he, -⟩
        · exact fun _ => .inr (.inl hbroken)
        · exact fun h => (hno h).elim
        · exact fun _ => .inr (.inr ⟨botToken, c, hopens, hc, e, he⟩)
      · rcases hcause with hbroken | hno | ⟨botToken, c, hopens, hc, he, hcaught⟩
        · exact fun _ => .inl hbroken
        · exact fun h => (hno h).elim
        · refine fun _ => .inr ⟨botToken, c, hopens, hc, Choice.expected_iff.mpr ?_⟩
          intro e' he'
          rw [he] at he'
          cases he'
          exact hcaught
    rcases he with hbroken | ⟨hcls, hno⟩ | ⟨hcls, hbad⟩ | ⟨botToken, c, hopens, hc, he⟩
    · split
      · exact hproblem _ (.inl hbroken)
      · split
        · exact hproblem _ (.inl hbroken)
        · exact .inl hbroken
    · rw [if_pos hcls]
      exact hproblem _ (.inr (.inl hno))
    · rw [if_neg (by rw [hcls]; decide), if_neg (by rw [hcls]; decide)]
      exact .inr (.inl hbad)
    · split
      · next hmissing =>
        exact hproblem _ (.inr (.inr ⟨botToken, c, hopens, hc, he, .inl hmissing⟩))
      · next hmissing =>
        split
        · next hunavailable =>
          exact hproblem _ (.inr (.inr ⟨botToken, c, hopens, hc, he, .inr hunavailable⟩))
        · next hunavailable =>
          refine .inr (.inr ⟨botToken, c, hopens, hc, fun h => ?_⟩)
          exact (Choice.expected_iff.mp h e he).elim hmissing hunavailable

/-- The exchange's credentials are there, or they are not, or the database is to blame. -/
theorem works_checkReferral (hw : w.Sound) (hconflict : w.conflict = none) :
    Works G (Admin.checkReferral env w.tenantId)
      (fun problem w' => w' = w ∧ (problem = none → w.view.ExchangeSet w.tenantId) ∧
        (w.view.ExchangeGarbled env w.tenantId → Broken G) ∧
        (w.view.ExchangeSet w.tenantId → problem = none ∨ Broken G))
      (fun _ _ => w.view.ExchangeGarbled env w.tenantId) w := by
  unfold Admin.checkReferral
  let F' : PyError → World → Prop := fun e _ =>
    (e.cls = .missingCredentialError ∧ ¬ w.view.ExchangeSet w.tenantId ∧
      ¬ w.view.ExchangeGarbled env w.tenantId) ∨
    (e.cls = .credentialEncryptionError ∧ w.view.ExchangeGarbled env w.tenantId)
  refine works_caught (I := fun w' => w' = w) (E := F') (wp_reads ?_) ?_ fun e w' hw' he => ?_
  · exact usesOnly_bind (ProviderFactory.usesOnly_referralProvider (fun _ => id) _ _ _)
      fun _ => trivial
  · unfold ProviderFactory.referralProvider
    rw [if_pos rfl, works_bind, works_bind]
    refine works_secret hw hconflict (fun _ hkey => ?_) (fun text hno => ?_)
      fun e hbad he => .inr ⟨he, .inl hbad⟩
    · rw [works_bind]
      refine works_secret hw hconflict (fun _ hsecret hw' => ?_) (fun text hno => ?_)
        fun e hbad he => .inr ⟨he, .inr ⟨hkey.stores, hbad⟩⟩
      · refine ⟨hw', fun _ => ⟨hkey.stores, hsecret.stores⟩, ?_, fun _ => .inl rfl⟩
        rintro (hbad | ⟨-, hbad⟩)
        · exact (hkey.not_garbled hbad).elim
        · exact (hsecret.not_garbled hbad).elim
      · refine .inl ⟨rfl, fun h => hno h.2, ?_⟩
        rintro (hbad | ⟨-, hbad⟩)
        · exact hkey.not_garbled hbad
        · exact hno hbad.stores
    · refine .inl ⟨rfl, fun h => hno h.1, ?_⟩
      rintro (hbad | ⟨hkey, -⟩)
      · exact hno hbad.stores
      · exact hno hkey
  · rcases he with hbroken | ⟨hcls, hno, hgarbled⟩ | ⟨hcls, hbad⟩
    · split
      · exact ⟨hw', fun h => (Option.some_ne_none _ h).elim, fun _ => hbroken,
          fun _ => .inr hbroken⟩
      · exact .inl hbroken
    · rw [if_pos hcls]
      exact ⟨hw', fun h => (Option.some_ne_none _ h).elim, fun h => (hgarbled h).elim,
        fun h => (hno h).elim⟩
    · rw [if_neg (by rw [hcls]; decide)]
      exact .inr hbad

theorem works_listAll_few {t : Table} {Q : List (Row t) → World → Prop} (hw : w.Sound)
    (hconflict : w.conflict = none)
    (hfew : ∀ rows : List (Row t), OwnRows w.tenantId t rows → rows.length ≤ 100)
    (hok : ∀ rows, (∀ r, r ∈ rows ↔ r ∈ w.view t ∧ rowTenant t r = w.tenantId) → Q rows w) :
    Works G (listAll t w.tenantId) Q F w := by
  refine works_of_meets (E := fun _ _ => True) (meets_listAll_few hw hfew hok fun _ => trivial) ?_
  unfold listAll
  rw [works_bind]
  exact works_select hconflict fun rows _ => trivial

end Secrets

/-! ## The report -/

/-- The report has nothing to complain about. -/
structure IntegrationCheckResponse.Good (response : IntegrationCheckResponse) : Prop where
  botOk : response.botOk = true
  referralOk : response.referralOk = true
  problems : response.problems = []

/-- The market has an active channel. -/
def Database.HasChannel (d : Database) (tenantId : TenantId) (market : Market) : Prop :=
  ∃ channel ∈ d .telegramChannels, channel.tenantId = tenantId ∧ channel.market = market ∧
    channel.isActive = true

/-- What the check asks for: of a program, only that it is active and for the market. -/
structure Database.Installed (d : Database) (tenantId : TenantId) : Prop where
  bot : d.BotSet tenantId
  exchange : d.ExchangeSet tenantId
  channel : ∃ market, d.HasChannel tenantId market
  program : ∀ market, d.HasChannel tenantId market →
    ∃ config ∈ d .referralProgramConfigs, config.tenantId = tenantId ∧
      config.market = market ∧ config.isActive = true

/-- A secret that the check reads cannot be opened. -/
def Database.Unreadable (env : EncryptionKey) (d : Database) (tenantId : TenantId) : Prop :=
  d.BotGarbled env tenantId ∨ d.ExchangeGarbled env tenantId

/-- What a report of the session of `w` says about the rows, and about what Telegram said. -/
structure Checked (G : World → Op → Choice → Prop) (env : EncryptionKey) (w : World)
    (response : IntegrationCheckResponse) : Prop where
  channels : ∀ market, market ∈ response.channelsChecked ↔ w.view.HasChannel w.tenantId market
  installed : response.Good → w.view.Installed w.tenantId
  good : w.view.Installed w.tenantId →
    response.Good ∨ Broken G ∨ Asks G env w fun c => ∃ e, c.identity = .error e
  readable : w.view.Unreadable env w.tenantId → Broken G
  expected : w.view.BotSet w.tenantId → Broken G ∨ Asks G env w Choice.Expected

theorem marketProblems_eq_nil {channelsChecked : List Market}
    {configs : List ReferralProgramConfig} :
    Admin.marketProblems channelsChecked configs = [] ↔
      channelsChecked ≠ [] ∧
        ∀ market ∈ channelsChecked, ∃ c ∈ configs, c.market = market ∧ c.isActive = true := by
  unfold Admin.marketProblems
  rw [List.append_eq_nil_iff, List.map_eq_nil_iff, List.filter_eq_nil_iff]
  simp

/-- The check returns what it found, unless a secret cannot be opened or Telegram says what
    the adapter does not expect. -/
theorem works_checkIntegration {G : World → Op → Choice → Prop} {env : EncryptionKey} {w : World}
    (hw : w.Sound) (hconflict : w.conflict = none) :
    Works G (Admin.checkIntegration env w.tenantId)
      (fun response _ => Checked G env w response)
      (fun _ _ => w.view.Unreadable env w.tenantId ∨ Asks G env w fun c => ¬ c.Expected) w := by
  unfold Admin.checkIntegration
  rw [works_bind]
  refine works_mono (works_sound hw (works_mono (works_checkBot hw hconflict)
    (fun bot w' h hsound => And.intro hsound h) fun e w' h _ => h)) ?_ fun e w' h => ?_
  swap
  · exact h.imp_left .inl
  rintro bot w' ⟨hsound, hw', hbot⟩
  have hconflict' : w'.conflict = none := hw'.conflict.trans hconflict
  rw [← hw'.tenantId, works_bind]
  refine works_mono (works_checkReferral hsound hconflict') ?_ fun e w₂ h => .inl (.inr ?_)
  swap
  · rwa [hw'.view] at h
  rintro referral w₂ ⟨rfl, hset, hgarbled, hok⟩
  rw [works_bind]
  refine works_listAll_few hsound hconflict' (fun _ h => h.few_channels)
    fun channels hchannels => ?_
  rw [works_bind]
  refine works_listAll_few hsound hconflict' (fun _ h => h.few_configs) fun configs hconfigs => ?_
  rw [hw'.view, hw'.tenantId] at hset hgarbled hok hchannels hconfigs
  have hchecked : ∀ market, market ∈ (channels.filter (·.isActive)).map (·.market) ↔
      w.view.HasChannel w.tenantId market := by
    intro market
    rw [List.mem_map]
    constructor
    · rintro ⟨channel, hmem, hmarket⟩
      obtain ⟨hlisted, hactive⟩ := List.mem_filter.mp hmem
      obtain ⟨hin, htenant⟩ := (hchannels channel).mp hlisted
      exact ⟨channel, hin, htenant, hmarket, hactive⟩
    · rintro ⟨channel, hin, htenant, hmarket, hactive⟩
      have hlisted := (hchannels channel).mpr ⟨hin, htenant⟩
      exact ⟨channel, List.mem_filter.mpr ⟨hlisted, hactive⟩, hmarket⟩
  have hprogram : ∀ market, (∃ c ∈ configs, c.market = market ∧ c.isActive = true) ↔
      ∃ c ∈ w.view .referralProgramConfigs, c.tenantId = w.tenantId ∧ c.market = market ∧
        c.isActive = true := by
    intro market
    constructor
    · rintro ⟨c, hlisted, hmarket, hactive⟩
      obtain ⟨hin, htenant⟩ := (hconfigs c).mp hlisted
      exact ⟨c, hin, htenant, hmarket, hactive⟩
    · rintro ⟨c, hin, htenant, hmarket, hactive⟩
      exact ⟨c, (hconfigs c).mpr ⟨hin, htenant⟩, hmarket, hactive⟩
  rw [works_pure]
  refine ⟨hchecked, fun h => ?_, fun h => ?_, fun h => ?_, hbot.expected⟩
  · have hproblems := h.problems
    obtain ⟨hfront, hmarkets⟩ := List.append_eq_nil_iff.mp hproblems
    obtain ⟨hsome, hall⟩ := marketProblems_eq_nil.mp hmarkets
    obtain ⟨market, hmarket⟩ := List.exists_mem_of_ne_nil _ hsome
    exact ⟨hbot.set h.botOk, hset (by simpa using h.referralOk),
      ⟨market, (hchecked market).mp hmarket⟩,
      fun m hm => (hprogram m).mp (hall m ((hchecked m).mpr hm))⟩
  · rcases hbot.ok h.bot with hanswers | hblame
    swap
    · exact .inr hblame
    rcases hok h.exchange with hreferral | hbroken
    swap
    · exact .inr (.inl hbroken)
    refine .inl ⟨hanswers, by simp [hreferral], ?_⟩
    have hmarkets : Admin.marketProblems ((channels.filter (·.isActive)).map (·.market)) configs
        = [] := by
      obtain ⟨market, hmarket⟩ := h.channel
      refine marketProblems_eq_nil.mpr ⟨?_, fun m hm => ?_⟩
      · exact List.ne_nil_of_mem ((hchecked market).mpr hmarket)
      · exact (hprogram m).mpr (h.program m ((hchecked m).mp hm))
    cases bot with
    | error problem => cases hanswers
    | ok username => simp [hreferral, hmarkets]
  · rcases h with hunreadable | hexchange
    · exact hbot.readable hunreadable
    · exact hgarbled hexchange

/-! ## What a good report promises -/

/-- The check returns, and every market of a good report is listed to users and let in. -/
structure Truthful (env : EncryptionKey) (ttl : TimeDelta) (tenantId : TenantId)
    (environment : World → Op → Choice) (w : World) : Prop where
  returns : ∃ response,
    (exec World.step environment (Admin.checkIntegration env tenantId) w).1 = .ok response
  right : ∀ response w', Runs (serial Anything) (Admin.checkIntegration env tenantId) w
    (.ok response) w' → response.Good → ∀ market ∈ response.channelsChecked,
      (∀ markets w₁, Runs (serial Anything) (BotConversation.availableMarkets .bitunix tenantId) w
        (.ok markets) w₁ → market ∈ markets) ∧ Accepts ttl .bitunix w market

/-- Everything is installed, but a channel's program is another provider's. -/
def Database.Deceptive (d : Database) (tenantId : TenantId) : Prop :=
  d.Installed tenantId ∧
    ∃ market, d.HasChannel tenantId market ∧ ¬ d.Ready tenantId .bitunix market

/-- Telegram says of the bot's token what the adapter expects. -/
def ExpectedOfBot (env : EncryptionKey) (tenantId : TenantId) (environment : World → Op → Choice)
    (w : World) : Prop :=
  ∀ botToken, w.view.BotOpens env tenantId botToken →
    (environment w (.telegram (.getMe botToken) none)).Expected

/-- On a day on which Telegram gives every bot a name, a tenant with all that is asked for gets
    a good report. -/
theorem plain_report_good {env : EncryptionKey} {w : World} (hw : w.Sound)
    (hconflict : w.conflict = none) (hreadable : ¬ w.view.Unreadable env w.tenantId)
    (hinstalled : w.view.Installed w.tenantId) :
    ∃ response w', Runs (serial Anything) (Admin.checkIntegration env w.tenantId) w
      (.ok response) w' ∧ Checked (Only plainEnv) env w response ∧ response.Good := by
  have hworks : Works (Only plainEnv) (Admin.checkIntegration env w.tenantId) _ _ w :=
    works_checkIntegration hw hconflict
  have hruns := runs_only plainEnv (Admin.checkIntegration env w.tenantId) w
  have hend := wp_sound hworks hruns
  cases hreport : (exec World.step plainEnv (Admin.checkIntegration env w.tenantId) w).1 with
  | error e =>
    rw [hreport] at hend
    rcases hend with hbroken | hbad | ⟨botToken, c, -, rfl, hodd⟩
    · exact (solid_plainEnv hbroken).elim
    · exact (hreadable hbad).elim
    · exact (hodd (Choice.expected_of_identity rfl)).elim
  | ok response =>
    rw [hreport] at hend hruns
    have hchecked : Checked (Only plainEnv) env w response := hend
    refine ⟨response, _, runs_anything hruns, hchecked, ?_⟩
    rcases hchecked.good hinstalled with hgood | hbroken | ⟨botToken, c, -, rfl, e, he⟩
    · exact hgood
    · exact (solid_plainEnv hbroken).elim
    · cases he

/-- With a database that answers, a good report can be relied on if its secrets can be opened,
    no channel's only program is another provider's, and Telegram's answer is expected. -/
theorem check_truthful_iff {env : EncryptionKey} {ttl : TimeDelta} {w₀ : World}
    (hsound : w₀.Sound) (A : TenantId) {environment : World → Op → Choice}
    (hsolid : ¬ Broken (Only environment)) :
    Truthful env ttl A environment (w₀.opened A) ↔
      ¬ w₀.db.Unreadable env A ∧ ¬ w₀.db.Deceptive A ∧
        ExpectedOfBot env A environment (w₀.opened A) := by
  have hw : (w₀.opened A).Sound := hsound.opened A
  have hworks : ∀ G, Works G (Admin.checkIntegration env A)
      (fun response _ => Checked G env (w₀.opened A) response)
      (fun _ _ => w₀.db.Unreadable env A ∨
        Asks G env (w₀.opened A) fun c => ¬ c.Expected) (w₀.opened A) := fun G =>
    works_checkIntegration hw rfl
  have hruns := runs_only environment (Admin.checkIntegration env A) (w₀.opened A)
  constructor
  · intro h
    obtain ⟨response, hr⟩ := h.returns
    rw [hr] at hruns
    have hchecked : Checked (Only environment) env (w₀.opened A) response :=
      wp_sound (hworks _) hruns
    have hreadable : ¬ w₀.db.Unreadable env A := fun hbad => hsolid (hchecked.readable hbad)
    refine ⟨hreadable, ?_, fun botToken hopens => ?_⟩
    · -- On a day on which Telegram gives every bot a name, the report is a good one.
      rintro ⟨hinstalled, market, hchannel, hno⟩
      obtain ⟨plain, w', hplain, hplainly, hgood⟩ := plain_report_good hw rfl hreadable hinstalled
      have haccepts := (h.right plain w' hplain hgood market
        ((hplainly.channels market).mpr hchannel)).2
      exact hno ((accepts_iff_ready hw rfl).mp haccepts)
    · rcases hchecked.expected hopens.set with hbroken | ⟨asked, c, hasked, rfl, hexpected⟩
      · exact (hsolid hbroken).elim
      · rwa [hopens.2.unique hasked.2]
  · rintro ⟨hreadable, htrue, hexpected⟩
    refine ⟨?_, fun response w' hruns hgood market hmem => ?_⟩
    · have hend := wp_sound (hworks _) hruns
      cases hr : (exec World.step environment (Admin.checkIntegration env A) (w₀.opened A)).1 with
      | ok response => exact ⟨response, rfl⟩
      | error e =>
        rw [hr] at hend
        rcases hend with hbroken | hbad | ⟨botToken, c, hopens, rfl, hodd⟩
        · exact (hsolid hbroken).elim
        · exact (hreadable hbad).elim
        · exact (hodd (hexpected botToken hopens)).elim
    · have hchecked : Checked Anything env (w₀.opened A) response :=
        wp_sound (hworks Anything) hruns
      have hready : w₀.db.Ready A .bitunix market := by
        by_contra hno
        exact htrue ⟨hchecked.installed hgood, market, (hchecked.channels market).mp hmem, hno⟩
      refine ⟨fun markets w₁ hlist => ?_, (accepts_iff_ready hw rfl).mpr hready⟩
      rw [listed_eq hw hlist]
      exact Database.mem_readyMarkets.mpr hready

theorem solid_roomyEnv : ¬ Broken (Only roomyEnv) := by
  rintro ⟨w, op, c, rfl, -, hfault⟩
  cases op <;> exact hfault rfl

theorem readable_of_opened {d : Database} {tenantId : TenantId} :
    ¬ d.Unreadable (.key some) tenantId := by
  have hopens : ∀ providerType name, ¬ d.Garbled (.key some) tenantId providerType name := by
    rintro providerType name ⟨record, -, -, e, he⟩
    cases he
  rintro (⟨-, hbad⟩ | hbad | ⟨-, hbad⟩) <;> exact hopens _ _ hbad

/-- A tenant that is set up for the exchange it uses. -/
theorem check_of_hookedWorld :
    Truthful (.key some) defaultSettings.ttl 1 roomyEnv (hookedWorld.opened 1) ∧
      ((exec World.step roomyEnv (Admin.checkIntegration (.key some) 1)
        (hookedWorld.opened 1)).1.map fun response =>
          (response.botOk, response.referralOk, response.channelsChecked, response.problems)) =
        .ok (true, true, [.crypto], []) := by
  refine ⟨(check_truthful_iff sound_hookedWorld 1 solid_roomyEnv).mpr
    ⟨readable_of_opened, ?_, fun _ _ => Choice.expected_of_identity rfl⟩,
    by decide +kernel⟩
  rintro ⟨-, market, ⟨channel, hmem, -, rfl, -⟩, hno⟩
  have hready : ∀ c ∈ hookedWorld.db .telegramChannels,
      hookedWorld.db.Ready 1 .bitunix c.market := by decide +kernel
  exact hno (hready channel hmem)

/-- The program of the only channel is another provider's, and the tenant's own is off. -/
def otherProviderWorld : World :=
  let w := (exec World.step roomyEnv (Operation.program (.key some) defaultSettings 1
    (.upsertReferralConfig { market := .crypto, referralLink := "https://partner/crypto"
                             isActive := false })) hookedWorld).2
  (exec World.step roomyEnv (Operation.program (.key some) defaultSettings 1
    (.upsertReferralConfig { providerType := .eplanet, market := .crypto
                             referralLink := "https://eplanet/crypto" })) w).2

/-- The report is good, nothing is listed, and no UID is let in. -/
theorem good_report_of_a_dead_market :
    ((exec World.step roomyEnv (Admin.checkIntegration (.key some) 1)
        (otherProviderWorld.opened 1)).1.map fun response =>
          (response.botOk, response.referralOk, response.channelsChecked, response.problems)) =
        .ok (true, true, [.crypto], []) ∧
    (exec World.step roomyEnv (BotConversation.availableMarkets .bitunix 1)
      (otherProviderWorld.opened 1)).1 = .ok [] ∧
    (exec World.step roomyEnv (submitUid defaultSettings.ttl .bitunix 1 77 .crypto "123456789"
      none none) (otherProviderWorld.opened 1)).1 =
        .ok { outcome := .notConfigured, uid := some "123456789" } ∧
    ¬ Truthful (.key some) defaultSettings.ttl 1 roomyEnv (otherProviderWorld.opened 1) := by
  have hreport : ((exec World.step roomyEnv (Admin.checkIntegration (.key some) 1)
      (otherProviderWorld.opened 1)).1.map fun response =>
        (response.botOk, response.referralOk, response.channelsChecked, response.problems)) =
      .ok (true, true, [.crypto], []) := by decide +kernel
  have hlisted : (exec World.step roomyEnv (BotConversation.availableMarkets .bitunix 1)
      (otherProviderWorld.opened 1)).1 = .ok [] := by decide +kernel
  refine ⟨hreport, hlisted, by decide +kernel, fun h => ?_⟩
  have hcheck := runs_anything (runs_only roomyEnv (Admin.checkIntegration (.key some) 1)
    (otherProviderWorld.opened 1))
  have hlist := runs_anything (runs_only roomyEnv (BotConversation.availableMarkets .bitunix 1)
    (otherProviderWorld.opened 1))
  rw [hlisted] at hlist
  cases hr : (exec World.step roomyEnv (Admin.checkIntegration (.key some) 1)
      (otherProviderWorld.opened 1)).1 with
  | error e =>
    rw [hr] at hreport
    cases hreport
  | ok response =>
    rw [hr] at hreport hcheck
    simp only [Except.map, Except.ok.injEq, Prod.mk.injEq] at hreport
    obtain ⟨hbot, hreferral, hchannels, hproblems⟩ := hreport
    have hmem : Market.crypto ∈ response.channelsChecked := by
      rw [hchannels]
      exact List.mem_singleton.mpr rfl
    have hempty := (h.right response _ hcheck ⟨hbot, hreferral, hproblems⟩ .crypto hmem).1 _ _ hlist
    cases hempty

end VipChannel
