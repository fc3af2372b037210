/-
  VipChannel.Web.Resealing

  What the admin surface answers does not depend on the ciphertexts that are stored, but for
  whether they open: where every one of them is replaced by another that opens just when it
  does, the requests are answered alike.

  Two runs are compared under one environment; only the ciphertexts it makes differ.  Telegram
  may then be asked about different tokens, and says the same of both.
-/
import VipChannel.Lib.Coupling
import VipChannel.Runs.Isolation

namespace VipChannel

open Lib
open Program (perform raising UsesOnly usesOnly_bind usesOnly_perform usesOnly_raising Coupled
  AgreeBy agree_eq coupled_pure coupled_raising coupled_perform coupled_self)

/-! ## Other ciphertexts -/

/-- The credential under another ciphertext. -/
def ProviderCredential.reseal (σ : String → String) (r : ProviderCredential) :
    ProviderCredential :=
  { r with encryptedSecret := σ r.encryptedSecret }

def Database.reseal (σ : String → String) (d : Database) : Database :=
  d.put .providerCredentials ((d .providerCredentials).map (.reseal σ))

def World.reseal (σ : String → String) (w : World) : World :=
  { w with db := w.db.reseal σ, view := w.view.reseal σ, saved := w.saved.reseal σ }

/-- The same decision, but for the ciphertext. -/
def Choice.reseal (σ : String → String) (c : Choice) : Choice :=
  { c with ciphertext := σ c.ciphertext }

/-- The two worlds differ in their ciphertexts, and in what Telegram was asked. -/
def World.ResealedTo (σ : String → String) (w w' : World) : Prop :=
  ∃ sent txSent, w' = { w.reseal σ with sent, txSent }

/-- A ciphertext opens just when the one in its place does. -/
def OpensAlike (key : EncryptionKey) (σ : String → String) : Prop :=
  ∀ ciphertext, (decryptSecret key (σ ciphertext)).isOk = (decryptSecret key ciphertext).isOk

section Reseal

variable {σ : String → String} (d : Database) {t : Table}

theorem reseal_other (ht : t ≠ .providerCredentials) : d.reseal σ t = d t :=
  Store.put_other d ht _

theorem reseal_credentials :
    d.reseal σ .providerCredentials = (d .providerCredentials).map (.reseal σ) :=
  Store.put_self d _ _

/-- Writing to another table. -/
theorem reseal_put (ht : t ≠ .providerCredentials) (rows : List (Row t)) :
    (d.reseal σ).put t rows = Database.reseal σ (d.put t rows) := by
  unfold Database.reseal Store.put
  rw [Function.update_comm ht.symm, Function.update_of_ne ht.symm]

theorem reseal_append (ht : t ≠ .providerCredentials) (row : Row t) :
    (d.reseal σ).append t row = Database.reseal σ (d.append t row) := by
  unfold Store.append
  rw [reseal_other d ht, reseal_put d ht]

theorem reseal_modify (ht : t ≠ .providerCredentials) (which : Row t → Bool)
    (change : Row t → Row t) :
    (d.reseal σ).modify t which change = Database.reseal σ (d.modify t which change) := by
  unfold Store.modify
  rw [reseal_other d ht, reseal_put d ht]

/-- Writing to the credentials. -/
theorem reseal_put_credentials (rows : List ProviderCredential) :
    (d.reseal σ).put .providerCredentials (rows.map (.reseal σ)) =
      Database.reseal σ (d.put .providerCredentials rows) := by
  unfold Database.reseal Store.put
  rw [Function.update_self, Function.update_idem, Function.update_idem]

theorem reseal_append_credential (row : ProviderCredential) :
    (d.reseal σ).append .providerCredentials (row.reseal σ) =
      Database.reseal σ (d.append .providerCredentials row) := by
  unfold Store.append
  rw [← reseal_put_credentials d, reseal_credentials d, List.map_append]
  rfl

theorem reseal_modify_credential {which : ProviderCredential → Bool}
    {change change' : ProviderCredential → ProviderCredential}
    (hwhich : ∀ r, which (r.reseal σ) = which r)
    (hchange : ∀ r, change' (r.reseal σ) = (change r).reseal σ) :
    (d.reseal σ).modify .providerCredentials which change' =
      Database.reseal σ (d.modify .providerCredentials which change) := by
  unfold Store.modify
  rw [← reseal_put_credentials d, reseal_credentials d]
  refine congrArg _ ?_
  unfold modifyRows
  rw [List.map_map, List.map_map]
  refine List.map_congr_left fun r _ => ?_
  simp only [Function.comp, hwhich]
  split
  · exact hchange r
  · rfl

/-- No key has a ciphertext in it. -/
theorem clash_reseal (r s : ProviderCredential) :
    clash .providerCredentials (r.reseal σ) (s.reseal σ) = clash .providerCredentials r s := rfl

end Reseal

/-! ## Calls that answer to each other -/

/-- A call that has nothing to do with ciphertexts. -/
def Op.blind : Op → Prop
  | .select t _ | .add t _ | .update t _ _ => t ≠ .providerCredentials
  | .encrypt _ => False
  | .openSession _ | .closeSession | .flush | .savepoint | .releaseSavepoint
  | .rollbackToSavepoint | .commit | .rollback | .utcnow | .uuid4 | .activeTenantIds
  | .tenantsOfToken _ | .tokenUrlsafe | .validateUser _ | .telegram .. => True

/-- Which calls of the two runs answer to each other, and how the answers are related. -/
inductive Resealed (σ : String → String) : Program.Pairing Op Op.Ret
  | same {op : Op} : op.blind → Resealed σ op op fun x y => x = y
  | select {cond : ProviderCredential → Bool} : (∀ r, cond (r.reseal σ) = cond r) →
      Resealed σ (.select .providerCredentials cond) (.select .providerCredentials cond)
        fun (rows rows' : List ProviderCredential) => rows' = rows.map (.reseal σ)
  | getMe (botToken botToken' : String) :
      Resealed σ (.telegram (.getMe botToken) none) (.telegram (.getMe botToken') none)
        fun x y : BotApiAnswer => x = y
  | encrypt (secret secret' : String) :
      Resealed σ (.encrypt secret) (.encrypt secret') fun c c' : String => c' = σ c
  | add (row : ProviderCredential) :
      Resealed σ (.add .providerCredentials row) (.add .providerCredentials (row.reseal σ))
        fun _ _ => True
  | update {which : ProviderCredential → Bool}
      {change change' : ProviderCredential → ProviderCredential} :
      (∀ r, which (r.reseal σ) = which r) →
      (∀ r, change' (r.reseal σ) = (change r).reseal σ) →
      Resealed σ (.update .providerCredentials which change)
        (.update .providerCredentials which change') fun _ _ => True

section Step

variable {σ : String → String}

/-- A call that is blind is answered alike, and leaves what it left. -/
theorem step_blind {op : Op} (h : op.blind) (w : World) (c : Choice) :
    World.step (w.reseal σ) op (c.reseal σ) =
      ((World.step w op c).1, (World.step w op c).2.reseal σ) := by
  have hflushed : (w.reseal σ).flushed (c.reseal σ) = w.flushed c := rfl
  cases op with
  | select t cond =>
    have hview : (w.reseal σ).view t = w.view t := reseal_other w.view h
    simp only [World.step, hflushed, hview]
    rfl
  | add t row =>
    have hview : (w.reseal σ).view t = w.view t := reseal_other w.view h
    simp only [World.step, World.withPending, hview]
    split
    · rfl
    · have hrows := reseal_append (σ := σ) w.view h row
      simp only [World.reseal, hrows]
  | update t which change =>
    have hview : (w.reseal σ).view t = w.view t := reseal_other w.view h
    have hscope : (w.reseal σ).inScope which = w.inScope which := rfl
    simp only [World.step, World.withUpdate, hview, hscope]
    split
    · rfl
    · have hrows := reseal_modify (σ := σ) w.view h (w.inScope which) change
      simp only [World.reseal, hrows]
  | encrypt s => exact h.elim
  | savepoint | commit =>
    simp only [World.step, hflushed]
    cases w.flushed c <;> rfl
  | tenantsOfToken token =>
    have hne : Table.webhookRoutes ≠ .providerCredentials := by decide
    have hroutes : (w.reseal σ).db .webhookRoutes = w.db .webhookRoutes :=
      reseal_other (σ := σ) w.db hne
    simp only [World.step, hroutes]
    rfl
  | telegram call about =>
    have hfault : (c.reseal σ).fault = c.fault := rfl
    have hdelivered : (c.reseal σ).delivered = c.delivered := rfl
    simp only [World.step, hfault, hdelivered]
    cases c.fault with
    | none => cases call <;> rfl
    | some e => cases c.delivered <;> rfl
  | openSession | closeSession | flush | releaseSavepoint | rollbackToSavepoint | rollback
  | utcnow | uuid4 | activeTenantIds | tokenUrlsafe | validateUser => rfl

/-- No call is answered by what Telegram was asked before. -/
theorem step_sent (w : World) (op : Op) (c : Choice) (sent txSent : List Sent) :
    ∃ sent' txSent', World.step { w with sent, txSent } op c =
      ((World.step w op c).1, { (World.step w op c).2 with sent := sent', txSent := txSent' }) := by
  have hflushed : ({ w with sent, txSent } : World).flushed c = w.flushed c := rfl
  cases op with
  | openSession tenantId => exact ⟨sent ++ txSent, [], rfl⟩
  | savepoint | commit =>
    refine ⟨sent, txSent, ?_⟩
    simp only [World.step, hflushed]
    cases w.flushed c <;> rfl
  | add t row =>
    refine ⟨sent, txSent, ?_⟩
    simp only [World.step, World.withPending]
    split <;> rfl
  | update t which change =>
    refine ⟨sent, txSent, ?_⟩
    have hscope : ({ w with sent, txSent } : World).inScope which = w.inScope which := rfl
    simp only [World.step, World.withUpdate, hscope]
    split <;> rfl
  | telegram call about =>
    simp only [World.step]
    cases c.fault with
    | none => exact ⟨sent, txSent ++ [w.record c call about], rfl⟩
    | some e =>
      cases c.delivered with
      | false => exact ⟨sent, txSent, rfl⟩
      | true => exact ⟨sent, txSent ++ [w.record c call about], rfl⟩
  | closeSession | select | flush | releaseSavepoint | rollbackToSavepoint | rollback | utcnow
  | uuid4 | activeTenantIds | tenantsOfToken | tokenUrlsafe | encrypt | validateUser =>
    exact ⟨sent, txSent, rfl⟩

/-- Paired calls are answered as the pairing says, and leave what the others left. -/
theorem step_paired {op op' : Op} {R : op.Ret → op'.Ret → Prop} (h : Resealed σ op op' R)
    (w : World) (c : Choice) :
    AgreeBy R (World.step w op c).1 (World.step (w.reseal σ) op' (c.reseal σ)).1 ∧
      (World.step w op c).2.ResealedTo σ (World.step (w.reseal σ) op' (c.reseal σ)).2 := by
  have hleft : ∀ {w₁ w₂ : World}, w₂ = w₁.reseal σ → w₁.ResealedTo σ w₂ :=
    fun {w₁ w₂} heq => ⟨w₂.sent, w₂.txSent, by rw [heq]⟩
  have hflushed : (w.reseal σ).flushed (c.reseal σ) = w.flushed c := rfl
  cases h with
  | same hop =>
    rw [step_blind hop]
    refine ⟨?_, hleft rfl⟩
    cases (World.step w op c).1 <;> rfl
  | getMe botToken botToken' =>
    have hfault : (c.reseal σ).fault = c.fault := rfl
    have hdelivered : (c.reseal σ).delivered = c.delivered := rfl
    simp only [World.step, hfault, hdelivered]
    cases c.fault with
    | none => exact ⟨rfl, _, _, rfl⟩
    | some e =>
      refine ⟨rfl, ?_⟩
      cases c.delivered <;> exact ⟨_, _, rfl⟩
  | select hcond =>
    rename_i cond
    have hview : (w.reseal σ).view .providerCredentials = _ := reseal_credentials w.view
    simp only [World.step, hflushed, hview]
    refine ⟨?_, hleft rfl⟩
    cases w.flushed c with
    | error e => exact rfl
    | ok u =>
      have hscope : (w.reseal σ).inScope (t := .providerCredentials) cond ∘ .reseal σ =
          w.inScope (t := .providerCredentials) cond := by
        funext r
        simp only [Function.comp, World.inScope, hcond]
        rfl
      have hfilter : ((w.view .providerCredentials).map (.reseal σ)).filter
          ((w.reseal σ).inScope (t := .providerCredentials) cond) =
          ((w.view .providerCredentials).filter
            (w.inScope (t := .providerCredentials) cond)).map (.reseal σ) := by
        rw [List.filter_map, hscope]
      have hpick := pick_map (ProviderCredential.reseal σ) c.order
        ((w.view .providerCredentials).filter (w.inScope (t := .providerCredentials) cond))
      show pick _ _ = _
      rw [hfilter]
      exact hpick
  | encrypt s s' => exact ⟨rfl, hleft rfl⟩
  | add row =>
    have hview : (w.reseal σ).view .providerCredentials = _ := reseal_credentials w.view
    refine ⟨trivial, hleft ?_⟩
    have hany : ((w.view .providerCredentials).map (.reseal σ)).any
        (clash .providerCredentials (row.reseal σ)) =
        (w.view .providerCredentials).any (clash .providerCredentials row) := by
      rw [List.any_map]
      rfl
    simp only [World.step, World.withPending, hview, hany]
    split
    · rfl
    · have hrows := reseal_append_credential (σ := σ) w.view row
      simp only [World.reseal, hrows]
  | update hwhich hchange =>
    rename_i which change change'
    have hview : (w.reseal σ).view .providerCredentials = _ := reseal_credentials w.view
    have hscope : ∀ r : ProviderCredential,
        w.inScope (t := .providerCredentials) which (r.reseal σ) =
          w.inScope (t := .providerCredentials) which r := by
      intro r
      simp only [World.inScope, hwhich]
      rfl
    have hsame : (w.reseal σ).inScope (t := .providerCredentials) which =
        w.inScope (t := .providerCredentials) which := rfl
    have hclash : introducesClash .providerCredentials
        (w.inScope (t := .providerCredentials) which) change'
        ((w.view .providerCredentials).map (.reseal σ)) =
        introducesClash .providerCredentials (w.inScope (t := .providerCredentials) which)
          change (w.view .providerCredentials) := by
      simp only [introducesClash, List.any_map]
      refine congrArg (List.any _) (funext fun r => ?_)
      simp only [Function.comp, hscope, hchange]
      refine congrArg (_ && ·) (congrArg (List.any _) (funext fun s => ?_))
      simp only [Function.comp, hscope, hchange, ← apply_ite (ProviderCredential.reseal σ),
        clash_reseal]
    have hrows := reseal_modify_credential w.view hscope hchange
    refine ⟨trivial, hleft ?_⟩
    simp only [World.step, World.withUpdate, hview, hsame, hclash]
    split
    · rfl
    · simp only [World.reseal, hrows]

theorem step_resealed {op op' : Op} {R : op.Ret → op'.Ret → Prop} (h : Resealed σ op op' R)
    (w w' : World) (c c' : Choice) (hw : w.ResealedTo σ w') (hc : c' = c.reseal σ) :
    AgreeBy R (World.step w op c).1 (World.step w' op' c').1 ∧
      (World.step w op c).2.ResealedTo σ (World.step w' op' c').2 := by
  obtain ⟨sent, txSent, rfl⟩ := hw
  subst hc
  obtain ⟨hagree, sent₁, txSent₁, hstate⟩ := step_paired h w c
  obtain ⟨sent₂, txSent₂, hstep⟩ := step_sent (w.reseal σ) op' (c.reseal σ) sent txSent
  rw [hstep]
  refine ⟨hagree, sent₂, txSent₂, ?_⟩
  rw [hstate]

end Step

/-! ## Programs that go alike -/

section Programs

variable {σ : String → String} {key : EncryptionKey} {tenantId : TenantId}

/-- The two programs return the same, or raise the same. -/
abbrev GoAlike {α : Type} (σ : String → String) (p p' : App α) : Prop :=
  Coupled (Resealed σ) (fun a b => a = b) p p'

/-- The two programs return rows that differ in their ciphertexts. -/
abbrev GoResealed (σ : String → String) (p p' : App ProviderCredential) : Prop :=
  Coupled (Resealed σ) (fun r r' => r' = r.reseal σ) p p'

theorem goAlike_self {α : Type} {p : App α} (hp : p.UsesOnly Op.blind) : GoAlike σ p p :=
  coupled_self hp fun _ hop => .same hop

theorem goAlike_call {op : Op} (hop : op.blind) : GoAlike σ (perform op) (perform op) :=
  coupled_perform (.same hop)

theorem goAlike_bind {α β : Type} {p p' : App α} {f f' : α → App β} (hp : GoAlike σ p p')
    (hf : ∀ a, GoAlike σ (f a) (f' a)) : GoAlike σ (p >>= f) (p' >>= f') := by
  refine hp.bind fun a b hab => ?_
  rw [← hab]
  exact hf a

theorem agree_refl {α : Type} (x : Except PyError α) : AgreeBy (fun a b => a = b) x x := by
  cases x <;> rfl

/-- The transaction around a request. -/
theorem goAlike_requestTx {α : Type} {body body' : App α} (h : GoAlike σ body body') :
    GoAlike σ (requestTx tenantId body) (requestTx tenantId body') := by
  have hclose : GoAlike σ (perform Op.closeSession) (perform Op.closeSession) :=
    goAlike_call trivial
  have htx : GoAlike σ
      ((do
        let a ← body
        perform Op.commit
        return a : App α).tryCatch fun e => do
          perform Op.rollback
          throw e)
      ((do
        let a ← body'
        perform Op.commit
        return a : App α).tryCatch fun e => do
          perform Op.rollback
          throw e) := by
    refine Coupled.tryCatch (goAlike_bind h fun a => ?_) fun e => ?_
    · exact goAlike_bind (goAlike_call trivial) fun _ => coupled_pure rfl
    · exact goAlike_bind (goAlike_call trivial) fun _ => .throw e
  refine goAlike_bind (goAlike_call trivial) fun _ => ?_
  refine goAlike_bind (Coupled.tryCatch htx fun e => ?_) fun a => ?_
  · exact goAlike_bind hclose fun _ => .throw e
  · exact goAlike_bind hclose fun _ => coupled_pure rfl

/-! ### Reading credentials -/

/-- A lookup that does not go by the ciphertext. -/
theorem coupled_lookup {cond : ProviderCredential → Bool} (h : ∀ r, cond (r.reseal σ) = cond r) :
    Coupled (Resealed σ) (fun r r' => r' = r.map (ProviderCredential.reseal σ))
      (selectOneOrNone .providerCredentials cond) (selectOneOrNone .providerCredentials cond) := by
  unfold selectOneOrNone
  refine (coupled_perform (.select h)).bind fun rows rows' hrows => coupled_raising ?_
  subst hrows
  cases rows with
  | nil => exact rfl
  | cons r rest =>
    cases rest with
    | nil => exact rfl
    | cons r' rest => exact rfl

theorem decryptSecret_opens {fernet : Fernet} {ciphertext plaintext : String}
    (h : fernet ciphertext = some plaintext) :
    decryptSecret (.key fernet) ciphertext = .ok plaintext := by
  simp only [decryptSecret, cipher, bind, Except.bind, h]
  rfl

theorem decryptSecret_fails {fernet : Fernet} {ciphertext : String}
    (h : fernet ciphertext = none) : decryptSecret (.key fernet) ciphertext =
      .error ⟨.credentialEncryptionError,
        "stored credential could not be decrypted -- the encryption key has " ++
        "changed, or the value was tampered with"⟩ := by
  simp only [decryptSecret, cipher, bind, Except.bind, h]
  rfl

/-- A secret is opened or not, whatever is in it. -/
theorem agree_decryptSecret (hσ : OpensAlike key σ) (ciphertext : String) :
    AgreeBy (fun _ _ => True) (decryptSecret key ciphertext)
      (decryptSecret key (σ ciphertext)) := by
  have hopen := hσ ciphertext
  cases key with
  | unset => exact rfl
  | malformed => exact rfl
  | key fernet =>
    cases hc : fernet ciphertext with
    | none =>
      rw [decryptSecret_fails hc] at hopen ⊢
      cases hc' : fernet (σ ciphertext) with
      | none =>
        rw [decryptSecret_fails hc']
        exact rfl
      | some secret' =>
        rw [decryptSecret_opens hc'] at hopen
        cases hopen
    | some secret =>
      rw [decryptSecret_opens hc] at hopen ⊢
      cases hc' : fernet (σ ciphertext) with
      | none =>
        rw [decryptSecret_fails hc'] at hopen
        cases hopen
      | some secret' =>
        rw [decryptSecret_opens hc']
        exact trivial

theorem coupled_secret (hσ : OpensAlike key σ) (providerType : ProviderType) (name : String) :
    Coupled (Resealed σ) (fun _ _ => True)
      (ProviderFactory.secret key tenantId providerType name)
      (ProviderFactory.secret key tenantId providerType name) := by
  refine (coupled_lookup fun _ => rfl).bind fun record record' hrecord => ?_
  subst hrecord
  cases record with
  | none => exact .throw _
  | some record => exact coupled_raising (agree_decryptSecret hσ record.encryptedSecret)

theorem coupled_telegram (hσ : OpensAlike key σ) :
    Coupled (Resealed σ) (fun _ _ => True) (ProviderFactory.telegram key tenantId)
      (ProviderFactory.telegram key tenantId) := by
  have hconfig : GoAlike σ (TelegramBotConfigRepository.get tenantId)
      (TelegramBotConfigRepository.get tenantId) := by
    refine goAlike_bind (goAlike_call ?_) fun rows => coupled_raising (agree_refl _)
    show Table.telegramBotConfigs ≠ _
    decide
  refine hconfig.bind fun config config' hsame => ?_
  subst hsame
  cases config with
  | none => exact .throw _
  | some config => exact coupled_secret hσ _ _

theorem coupled_referralProvider (hσ : OpensAlike key σ) (providerType : ProviderType) :
    Coupled (Resealed σ) (fun _ _ => True)
      (ProviderFactory.referralProvider key tenantId providerType)
      (ProviderFactory.referralProvider key tenantId providerType) := by
  unfold ProviderFactory.referralProvider
  split
  · refine (coupled_secret hσ _ _).bind fun _ _ _ => ?_
    exact (coupled_secret hσ _ _).bind fun _ _ _ => coupled_pure trivial
  · exact .throw _

end Programs

/-! ## Requests that are answered alike -/

/-- What may be told of a secret. -/
structure SameFace (secret secret' : String) : Prop where
  empty : secret = "" ↔ secret' = ""
  lastFour : lastFour secret = lastFour secret'
  fits : Admin.SecretFits secret ↔ Admin.SecretFits secret'

theorem SameFace.refl (secret : String) : SameFace secret secret := ⟨Iff.rfl, rfl, Iff.rfl⟩

namespace Admin

section Requests

variable {σ : String → String} {key : EncryptionKey} {tenantId : TenantId}

theorem coupled_encryptSecret {secret secret' : String} (h : SameFace secret secret') :
    Coupled (Resealed σ) (fun c c' : String => c' = σ c) (encryptSecret key secret)
      (encryptSecret key secret') := by
  unfold encryptSecret
  by_cases hempty : secret = ""
  · rw [if_pos hempty, if_pos (h.empty.mp hempty)]
    exact .throw _
  · rw [if_neg hempty, if_neg fun h' => hempty (h.empty.mpr h')]
    have hcall : Resealed σ (.encrypt secret) (.encrypt secret') fun c c' : String => c' = σ c :=
      .encrypt secret secret'
    refine (coupled_raising (agree_refl (cipher key))).bind fun _ _ _ => ?_
    exact coupled_perform (C := Resealed σ) hcall

theorem agree_secretColumns {secret secret' : String} (h : SameFace secret secret') :
    AgreeBy (fun _ _ => True) (secretColumns secret) (secretColumns secret') := by
  unfold secretColumns
  by_cases hfits : SecretFits secret
  · rw [if_pos hfits, if_pos (h.fits.mp hfits)]
    exact trivial
  · rw [if_neg hfits, if_neg fun h' => hfits (h.fits.mpr h')]
    exact rfl

theorem rotated_reseal {secret secret' : String} (h : SameFace secret secret')
    (ciphertext : String) (r : ProviderCredential) :
    rotated (σ ciphertext) secret' (r.reseal σ) = (rotated ciphertext secret r).reseal σ := by
  unfold rotated ProviderCredential.reseal
  rw [h.lastFour]

/-- Saving a new credential. -/
theorem goResealed_saveNew {which : ProviderCredential → Bool}
    (hwhich : ∀ r, which (r.reseal σ) = which r) (row : ProviderCredential) :
    GoResealed σ (saveNew .providerCredentials which row)
      (saveNew .providerCredentials which (row.reseal σ)) := by
  have hflush : GoAlike σ flush flush := goAlike_call trivial
  refine (coupled_perform (.add row)).bind fun _ _ _ => ?_
  refine hflush.bind fun _ _ _ => ?_
  refine (coupled_perform (.select hwhich)).bind fun rows rows' hrows => ?_
  subst hrows
  cases rows with
  | nil => exact .throw _
  | cons r rest => exact coupled_pure rfl

theorem goResealed_storeSecret (providerType : ProviderType) (name : String)
    {secret secret' : String} (h : SameFace secret secret') :
    GoResealed σ (storeSecret key tenantId providerType name secret)
      (storeSecret key tenantId providerType name secret') := by
  unfold storeSecret
  refine (coupled_raising (agree_refl (stringColumn 100 name))).bind fun _ _ _ => ?_
  refine (coupled_lookup fun _ => rfl).bind fun existing existing' hexisting => ?_
  subst hexisting
  refine ((coupled_encryptSecret h).tryCatch fun e => ?_).bind fun ciphertext _ hc => ?_
  · split <;> exact .throw _
  subst hc
  refine (coupled_raising (agree_secretColumns h)).bind fun _ _ _ => ?_
  cases existing with
  | some existing =>
    have hchange := rotated_reseal (σ := σ) h ciphertext
    refine (coupled_perform (.update (fun _ => rfl) hchange)).bind fun _ _ _ => ?_
    exact coupled_pure (hchange existing)
  | none =>
    have huuid : GoAlike σ uuid4 uuid4 := goAlike_call trivial
    refine huuid.bind fun id id' hid => ?_
    subst hid
    have hwhich : ∀ r : ProviderCredential, ((r.reseal σ).id == id) = (r.id == id) :=
      fun _ => rfl
    rw [← h.lastFour]
    exact goResealed_saveNew hwhich
      { id, tenantId, providerType, credentialName := name, encryptedSecret := ciphertext
        lastFour := some (lastFour secret) }

theorem goAlike_upsertCredential {payload payload' : CredentialUpsertRequest}
    (htype : payload.providerType = payload'.providerType)
    (hname : payload.credentialName = payload'.credentialName)
    (h : SameFace payload.secret payload'.secret) :
    GoAlike σ (upsertCredential key tenantId payload) (upsertCredential key tenantId payload') := by
  unfold upsertCredential
  rw [htype, hname]
  refine (goResealed_storeSecret _ _ h).bind fun record record' hrecord => ?_
  subst hrecord
  exact goAlike_bind (goAlike_call trivial) fun _ => coupled_pure rfl

/-- A name that no column holds is refused, whatever it is. -/
theorem goAlike_unnamed {payload payload' : CredentialUpsertRequest}
    (h : ¬ HasRoom 100 payload.credentialName) (h' : ¬ HasRoom 100 payload'.credentialName) :
    GoAlike σ (upsertCredential key tenantId payload) (upsertCredential key tenantId payload') := by
  have hrefused : ∀ payload : CredentialUpsertRequest, ¬ HasRoom 100 payload.credentialName →
      upsertCredential key tenantId payload = .throw stringDataError := by
    intro payload hno
    unfold upsertCredential storeSecret stringColumn
    rw [if_neg hno]
    rfl
  rw [hrefused payload h, hrefused payload' h']
  exact .throw _

theorem goAlike_listCredentials :
    GoAlike σ (listCredentials tenantId) (listCredentials tenantId) := by
  refine Coupled.bind (A := fun rows rows' => rows' = rows.map (ProviderCredential.reseal σ)) ?_
    fun rows rows' hrows => ?_
  · refine (coupled_perform (.select fun _ => rfl)).bind fun rows rows' hrows => ?_
    subst hrows
    exact coupled_pure List.map_take.symm
  · subst hrows
    refine coupled_pure ?_
    rw [List.map_map]
    rfl

/-! ### Requests that have nothing to do with credentials -/

section Blind

variable {t : Table}

theorem blind_call {op : Op} (h : op.blind) : (perform op : App op.Ret).UsesOnly Op.blind := by
  rw [usesOnly_perform]
  exact h

theorem blind_selectOneOrNone (ht : t ≠ .providerCredentials) (cond : Row t → Bool) :
    (selectOneOrNone t cond).UsesOnly Op.blind :=
  usesOnly_bind (blind_call ht) fun _ => (usesOnly_raising _).mpr trivial

theorem blind_saveLoaded (ht : t ≠ .providerCredentials) (which : Row t → Bool) :
    (saveLoaded t which).UsesOnly Op.blind := by
  refine usesOnly_bind (blind_call trivial) fun _ => usesOnly_bind (blind_call ht) fun rows => ?_
  cases rows with
  | nil => trivial
  | cons r rest => trivial

theorem blind_saveNew (ht : t ≠ .providerCredentials) (which : Row t → Bool) (row : Row t) :
    (saveNew t which row).UsesOnly Op.blind :=
  usesOnly_bind (blind_call ht) fun _ => blind_saveLoaded ht which

variable (tenantId) in
theorem blind_listAll (ht : t ≠ .providerCredentials) : (listAll t tenantId).UsesOnly Op.blind :=
  usesOnly_bind (blind_call ht) fun _ => trivial

end Blind

variable (tenantId) in
theorem blind_upsertReferralConfig (payload : ReferralConfigRequest) :
    (upsertReferralConfig tenantId payload).UsesOnly Op.blind := by
  have ht : Table.referralProgramConfigs ≠ .providerCredentials := by decide
  refine usesOnly_bind (blind_selectOneOrNone ht _) fun config => ?_
  have hrest : (do
      let stored ← raising (programColumns payload)
      update .referralProgramConfigs (isProgram tenantId payload) (configureProgram stored)
      saveLoaded .referralProgramConfigs (isProgram tenantId payload) :
        App ReferralProgramConfig).UsesOnly Op.blind := by
    refine usesOnly_bind ((usesOnly_raising _).mpr trivial) fun stored => ?_
    exact usesOnly_bind (blind_call ht) fun _ => blind_saveLoaded ht _
  cases config with
  | some config => exact hrest
  | none =>
    refine usesOnly_bind ((usesOnly_raising _).mpr trivial) fun referralLink => ?_
    exact usesOnly_bind (blind_saveNew ht _ _) fun _ => hrest

variable (tenantId) in
theorem blind_upsertChannel (payload : ChannelRequest) :
    (upsertChannel tenantId payload).UsesOnly Op.blind := by
  have ht : Table.telegramChannels ≠ .providerCredentials := by decide
  refine usesOnly_bind (blind_selectOneOrNone ht _) fun channel => ?_
  have hrest : ∀ channel : TelegramChannel, (do
      let stored ← raising (channelColumns payload)
      update .telegramChannels (fun r => r.id == channel.id) (configure stored)
      saveLoaded .telegramChannels fun r => r.id == channel.id :
        App TelegramChannel).UsesOnly Op.blind := fun channel =>
    usesOnly_bind ((usesOnly_raising _).mpr trivial) fun _ =>
      usesOnly_bind (blind_call ht) fun _ => blind_saveLoaded ht _
  cases channel with
  | some channel => exact hrest channel
  | none =>
    have huuid : uuid4.UsesOnly Op.blind := blind_call trivial
    refine usesOnly_bind huuid fun id => ?_
    refine usesOnly_bind ((usesOnly_raising _).mpr trivial) fun chatId => ?_
    exact usesOnly_bind (blind_saveNew ht _ _) hrest

theorem blind_ensureWebhookRoute : (ensureWebhookRoute tenantId).UsesOnly Op.blind := by
  have ht : Table.webhookRoutes ≠ .providerCredentials := by decide
  refine usesOnly_bind (blind_selectOneOrNone ht _) fun existing => ?_
  cases existing with
  | some existing => trivial
  | none =>
    refine usesOnly_bind (blind_call trivial) fun token => ?_
    refine usesOnly_bind (blind_call ht) fun _ => ?_
    exact usesOnly_bind (blind_call trivial) fun _ => trivial

/-! ### The bot, and the check of it all -/

/-- Telegram says the same of both tokens. -/
theorem goAlike_getMe (botToken botToken' : String) :
    GoAlike σ (TelegramBotProvider.getMe botToken) (TelegramBotProvider.getMe botToken') := by
  have hcall : Resealed σ (.telegram (.getMe botToken) none) (.telegram (.getMe botToken') none)
      fun x y : BotApiAnswer => x = y := .getMe botToken botToken'
  refine (coupled_perform (C := Resealed σ) hcall).bind fun x y hxy => ?_
  subst hxy
  exact coupled_raising (agree_refl _)

theorem goAlike_verifyBot (hσ : OpensAlike key σ) :
    GoAlike σ (verifyBot key tenantId) (verifyBot key tenantId) := by
  refine Coupled.tryCatch ((coupled_telegram hσ).bind fun _ _ _ => ?_) fun e => ?_
  · refine goAlike_bind (goAlike_getMe _ _) fun identity => ?_
    exact goAlike_bind (goAlike_call trivial) fun _ => coupled_pure rfl
  · split
    · exact coupled_pure rfl
    · exact .throw e

theorem goAlike_recordBot (credential : ProviderCredential) (token : String)
    (verified : Option (Json × DateTime)) :
    GoAlike σ (recordBot tenantId credential token verified)
      (recordBot tenantId (credential.reseal σ) token verified) := by
  have ht : Table.telegramBotConfigs ≠ .providerCredentials := by decide
  unfold recordBot
  refine goAlike_bind (coupled_raising (agree_refl _)) fun botUsername => ?_
  refine goAlike_bind (goAlike_call ht) fun _ => ?_
  cases verified with
  | none => exact goAlike_bind (goAlike_call trivial) fun _ => coupled_pure rfl
  | some verified =>
    refine (coupled_perform (.update (fun _ => rfl) fun _ => rfl)).bind fun _ _ _ => ?_
    exact goAlike_bind (goAlike_call trivial) fun _ => coupled_pure rfl

theorem goAlike_upsertBot (hσ : OpensAlike key σ) {payload payload' : BotConfigRequest}
    (h : SameFace payload.botToken payload'.botToken) :
    GoAlike σ (upsertBot key tenantId payload) (upsertBot key tenantId payload') := by
  have ht : Table.telegramBotConfigs ≠ .providerCredentials := by decide
  refine (goResealed_storeSecret _ _ h).bind fun credential credential' hcredential => ?_
  subst hcredential
  refine goAlike_bind (goAlike_call trivial) fun _ => ?_
  refine goAlike_bind (goAlike_self (blind_selectOneOrNone ht _)) fun config => ?_
  have hrest : GoAlike σ (do
      update .telegramBotConfigs (isBotOf tenantId) fun r =>
        { r with credentialId := credential.id }
      let token ← ensureWebhookRoute tenantId
      let verified ← verifyBot key tenantId
      recordBot tenantId credential token verified)
      (do
      update .telegramBotConfigs (isBotOf tenantId) fun r =>
        { r with credentialId := credential.id }
      let token ← ensureWebhookRoute tenantId
      let verified ← verifyBot key tenantId
      recordBot tenantId (credential.reseal σ) token verified) := by
    refine goAlike_bind (goAlike_call ht) fun _ => ?_
    refine goAlike_bind (goAlike_self blind_ensureWebhookRoute) fun token => ?_
    exact goAlike_bind (goAlike_verifyBot hσ) fun verified => goAlike_recordBot _ _ _
  cases config with
  | some config => exact hrest
  | none => exact goAlike_bind (goAlike_self (blind_saveNew ht _ _)) fun _ => hrest

theorem goAlike_checkIntegration (hσ : OpensAlike key σ) :
    GoAlike σ (checkIntegration key tenantId) (checkIntegration key tenantId) := by
  have hchannels : Table.telegramChannels ≠ .providerCredentials := by decide
  have hconfigs : Table.referralProgramConfigs ≠ .providerCredentials := by decide
  refine goAlike_bind ?_ fun bot => goAlike_bind ?_ fun referral => ?_
  · refine Coupled.tryCatch ((coupled_telegram hσ).bind fun _ _ _ => ?_) fun e => ?_
    · exact goAlike_bind (goAlike_getMe _ _) fun identity => coupled_pure rfl
    · split
      · exact coupled_pure rfl
      · split
        · exact coupled_pure rfl
        · exact .throw e
  · refine Coupled.tryCatch ((coupled_referralProvider hσ _).bind fun _ _ _ => ?_) fun e => ?_
    · exact coupled_pure rfl
    · split
      · exact coupled_pure rfl
      · exact .throw e
  · refine goAlike_bind (goAlike_self (blind_listAll tenantId hchannels)) fun channels => ?_
    refine goAlike_bind (goAlike_self (blind_listAll tenantId hconfigs)) fun configs => ?_
    exact coupled_pure rfl

end Requests

end Admin

/-! ## The admin surface -/

/-- The requests of the admin surface. -/
def Operation.Administrative : Operation → Prop
  | upsertCredential _ | listCredentials | upsertReferralConfig _ | upsertChannel _
  | listChannels | upsertBot _ | checkIntegration => True
  | update .. | ingestPayment _ | monitor _ | sweep => False

/-- Two requests that differ in the secret they bring, at most. -/
inductive Operation.Alike : Operation → Operation → Prop
  | same {op : Operation} : op.Administrative → Alike op op
  | credential {payload payload' : CredentialUpsertRequest} :
      payload.providerType = payload'.providerType →
      payload.credentialName = payload'.credentialName →
      SameFace payload.secret payload'.secret →
      Alike (.upsertCredential payload) (.upsertCredential payload')
  /-- Neither name is one that the column holds. -/
  | unnamed {payload payload' : CredentialUpsertRequest} :
      ¬ HasRoom 100 payload.credentialName → ¬ HasRoom 100 payload'.credentialName →
      Alike (.upsertCredential payload) (.upsertCredential payload')
  | bot {payload payload' : BotConfigRequest} : SameFace payload.botToken payload'.botToken →
      Alike (.upsertBot payload) (.upsertBot payload')

section Programs

variable {σ : String → String} {key : EncryptionKey} {S : Settings} {A : TenantId}

/-- Whatever becomes of the response. -/
theorem goAlike_answer {α : Type} {p p' : App α} (h : GoAlike σ p p') (f : α → Response) :
    GoAlike σ (do return f (← p)) (do return f (← p')) :=
  goAlike_bind h fun _ => coupled_pure rfl

theorem goAlike_program (hσ : OpensAlike key σ) {op op' : Operation} (h : op.Alike op') :
    GoAlike σ (op.program key S A) (op'.program key S A) := by
  have hcredential : ∀ payload payload' : CredentialUpsertRequest,
      payload.providerType = payload'.providerType →
      payload.credentialName = payload'.credentialName →
      SameFace payload.secret payload'.secret →
      GoAlike σ (Operation.program key S A (.upsertCredential payload))
        (Operation.program key S A (.upsertCredential payload')) :=
    fun _ _ htype hname hface =>
      goAlike_answer (goAlike_requestTx (Admin.goAlike_upsertCredential htype hname hface)) _
  have hbot : ∀ payload payload' : BotConfigRequest,
      SameFace payload.botToken payload'.botToken →
      GoAlike σ (Operation.program key S A (.upsertBot payload))
        (Operation.program key S A (.upsertBot payload')) :=
    fun _ _ hface => goAlike_answer (goAlike_requestTx (Admin.goAlike_upsertBot hσ hface)) _
  have hchannels : Table.telegramChannels ≠ .providerCredentials := by decide
  cases h with
  | credential htype hname hface => exact hcredential _ _ htype hname hface
  | unnamed h h' => exact goAlike_answer (goAlike_requestTx (Admin.goAlike_unnamed h h')) _
  | bot hface => exact hbot _ _ hface
  | same hop =>
    cases op with
    | upsertCredential payload => exact hcredential _ _ rfl rfl (.refl _)
    | listCredentials => exact goAlike_answer (goAlike_requestTx Admin.goAlike_listCredentials) _
    | upsertReferralConfig payload =>
      have hbody := goAlike_self (σ := σ) (Admin.blind_upsertReferralConfig A payload)
      exact goAlike_answer (goAlike_requestTx hbody) _
    | upsertChannel payload =>
      have hbody := goAlike_self (σ := σ) (Admin.blind_upsertChannel A payload)
      exact goAlike_answer (goAlike_requestTx hbody) _
    | listChannels =>
      have hbody := goAlike_self (σ := σ) (Admin.blind_listAll A hchannels)
      exact goAlike_answer (goAlike_requestTx hbody) _
    | upsertBot payload => exact hbot _ _ (.refl _)
    | checkIntegration =>
      exact goAlike_answer (goAlike_requestTx (Admin.goAlike_checkIntegration hσ)) _
    | update | ingestPayment | monitor | sweep => exact hop.elim

end Programs

end VipChannel
