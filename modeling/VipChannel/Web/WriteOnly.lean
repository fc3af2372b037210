/-
  VipChannel.Web.WriteOnly

  A secret is write-only: what the admin surface answers to the body that brings it, and to
  every request after that, is the same for two secrets of one length that end alike.

  The successful answers keep to it, and so do all later ones.  The answer to a body that does
  not validate is the framework's and quotes the input: it keeps to it where the secret is in
  none of the values quoted.  Whether a long secret is stored depends on how many bytes its
  characters take: its token goes to a column of 4096.
-/
import VipChannel.Runs.Money
import VipChannel.Web.AdminRequests
import VipChannel.Web.Resealing

namespace VipChannel

open Lib
open Program (perform AgreeBy Coupled coupled_pure coupled_followAll)
open Validation

/-! ## Bodies with a secret in them -/

/-- The dict whose entries have these values, each with the secret in its places. -/
def dict (fields : List (String × (String → Json))) (secret : String) : List (String × Json) :=
  fields.map fun f => (f.1, f.2 secret)

/-- A JSON value in which a secret stands at some places, perhaps at none. -/
inductive Form : (String → Json) → Prop
  | const (value : Json) : Form fun _ => value
  | secret : Form .str
  | arr {items : List (String → Json)} : (∀ item ∈ items, Form item) →
      Form fun secret => .arr (items.map (· secret))
  | obj {fields : List (String × (String → Json))} : (fields.map Prod.fst).Nodup →
      (∀ f ∈ fields, Form f.2) → Form fun secret => .obj (dict fields secret)

/-- The secret is not in it. -/
def Constant (value : String → Json) : Prop :=
  ∀ s s', value s = value s'

section Form

variable {value : String → Json}

/-- A value with the secret in it tells any two secrets apart. -/
theorem Form.constant_or_injective (h : Form value) :
    Constant value ∨ Function.Injective value := by
  induction h with
  | const value => exact .inl fun _ _ => rfl
  | secret => exact .inr fun s s' heq => Json.str.inj heq
  | @arr items _ ih =>
    by_cases hall : ∀ item ∈ items, Constant item
    · refine .inl fun s s' => congrArg Json.arr (List.map_congr_left fun item hitem => ?_)
      exact hall item hitem s s'
    · push Not at hall
      obtain ⟨item, hitem, hnot⟩ := hall
      have hinj := (ih item hitem).resolve_left hnot
      refine .inr fun s s' heq => hinj ?_
      exact List.map_inj_left.mp (Json.arr.inj heq) item hitem
  | @obj fields _ _ ih =>
    by_cases hall : ∀ f ∈ fields, Constant f.2
    · refine .inl fun s s' => congrArg Json.obj (List.map_congr_left fun f hf => ?_)
      rw [hall f hf s s']
    · push Not at hall
      obtain ⟨f, hf, hnot⟩ := hall
      have hinj := (ih f hf).resolve_left hnot
      refine .inr fun s s' heq => hinj ?_
      have hentry := List.map_inj_left.mp (Json.obj.inj heq) f hf
      exact congrArg Prod.snd hentry

/-- A text with the secret in it is the secret. -/
theorem Form.eq_str (h : Form value) (hnot : ¬ Constant value) {s text : String}
    (htext : value s = .str text) : value = .str := by
  cases h with
  | const value => exact (hnot fun _ _ => rfl).elim
  | secret => rfl
  | arr | obj => cases htext

end Form

section Dict

variable {fields : List (String × (String → Json))} {key : String} {secret : String}

variable (secret) in
theorem lookup_dict {value : String → Json} (hkeys : (fields.map Prod.fst).Nodup)
    (h : (key, value) ∈ fields) : lookup (dict fields secret) key = some (value secret) := by
  induction fields with
  | nil => cases h
  | cons f rest ih =>
    rw [List.map_cons, List.nodup_cons] at hkeys
    by_cases hf : f.1 = key
    · rcases List.mem_cons.mp h with rfl | hrest
      · simp [lookup, dict]
      · exact (hkeys.1 (List.mem_map.mpr ⟨_, hrest, hf.symm⟩)).elim
    · rcases List.mem_cons.mp h with rfl | hrest
      · exact (hf rfl).elim
      · have hnot : (f.1 == key) = false := by simpa using hf
        have hrec := ih hkeys.2 hrest
        simp only [lookup, dict, List.map_cons, List.find?_cons, hnot] at hrec ⊢
        exact hrec

theorem lookup_dict_none (h : key ∉ fields.map Prod.fst) :
    lookup (dict fields secret) key = none := by
  unfold lookup dict
  rw [Option.map_eq_none_iff, List.find?_eq_none]
  intro f hf heq
  obtain ⟨g, hg, rfl⟩ := List.mem_map.mp hf
  exact h (List.mem_map.mpr ⟨g, hg, by simpa using heq⟩)

end Dict

/-! ## What is quoted -/

/-- What is wrong with a dict, as the framework tells it. -/
def SecretRoute.detail (fields : List (String × Json)) : SecretRoute → List ErrorDetails
  | .credentials =>
    errors (required Validation.providerType fields "provider_type") ++
      errors (required (text 100) fields "credential_name") ++
      errors (required (text 2048) fields "secret") ++
      extras fields ["provider_type", "credential_name", "secret"]
  | .telegramBot =>
    errors (required (text 512) fields "bot_token") ++ extras fields ["bot_token"]

/-- An error of the field `key` quotes the field, or the dict that does not have it. -/
def Quotes (fields : List (String × Json)) (d : ErrorDetails) : Prop :=
  ∃ key, d.loc = ["body", key] ∧
    (lookup fields key = none ∧ d.input = .obj fields ∨
      ∃ value, (key, value) ∈ fields ∧ d.input = value)

theorem mem_of_lookup {fields : List (String × Json)} {key : String} {value : Json}
    (h : lookup fields key = some value) : (key, value) ∈ fields := by
  unfold lookup at h
  obtain ⟨f, hf, rfl⟩ := Option.map_eq_some_iff.mp h
  have hkey : f.1 = key := by simpa using List.find?_some hf
  rw [← hkey]
  exact List.mem_of_find?_eq_some hf

/-- A check that fails says so of its field, and quotes the value. -/
def Complains {α : Type} (field : String) (value : Json) (x : Validated α) : Prop :=
  ∃ d : ErrorDetails, x = .error [d] ∧ d.loc = ["body", field] ∧ d.input = value

theorem Complains.errors {α : Type} {field : String} {value : Json} {x : Validated α}
    (h : Complains field value x) {d : ErrorDetails} (hd : d ∈ Validation.errors x) :
    d.loc = ["body", field] ∧ d.input = value := by
  obtain ⟨d', rfl, hquotes⟩ := h
  rw [List.mem_singleton.mp hd]
  exact hquotes

theorem providerType_cases (field : String) (value : Json) :
    (∃ p : ProviderType, value = .str p.value ∧ Validation.providerType field value = .ok p) ∨
      Complains field value (Validation.providerType field value) := by
  unfold Validation.providerType
  cases value with
  | str t =>
    dsimp only
    split
    · next p hp =>
      have hvalue : p.value = t := by simpa using List.find?_some hp
      exact .inl ⟨p, congrArg Json.str hvalue.symm, rfl⟩
    · exact .inr ⟨_, rfl, rfl, rfl⟩
  | _ => exact .inr ⟨_, rfl, rfl, rfl⟩

theorem text_cases (maxLength : Nat) (field : String) (value : Json) :
    (∃ t : String, value = .str t ∧ 0 < t.length ∧ t.length ≤ maxLength ∧
        text maxLength field value = .ok t) ∨
      Complains field value (text maxLength field value) := by
  unfold text
  cases value with
  | str t =>
    dsimp only
    split
    · exact .inr ⟨_, rfl, rfl, rfl⟩
    · split
      · exact .inr ⟨_, rfl, rfl, rfl⟩
      · exact .inl ⟨t, rfl, by omega, by omega, rfl⟩
  | _ => exact .inr ⟨_, rfl, rfl, rfl⟩

theorem errors_providerType {field : String} {value : Json} {d : ErrorDetails}
    (h : d ∈ errors (Validation.providerType field value)) :
    d.loc = ["body", field] ∧ d.input = value := by
  rcases providerType_cases field value with ⟨p, -, hok⟩ | hcomplains
  · rw [hok] at h
    cases h
  · exact hcomplains.errors h

theorem errors_text {maxLength : Nat} {field : String} {value : Json} {d : ErrorDetails}
    (h : d ∈ errors (text maxLength field value)) :
    d.loc = ["body", field] ∧ d.input = value := by
  rcases text_cases maxLength field value with ⟨t, -, -, -, hok⟩ | hcomplains
  · rw [hok] at h
    cases h
  · exact hcomplains.errors h

theorem quotes_required {α : Type} {check : String → Json → Validated α}
    (hcheck : ∀ field value d, d ∈ errors (check field value) →
      d.loc = ["body", field] ∧ d.input = value)
    {fields : List (String × Json)} {key : String} {d : ErrorDetails}
    (h : d ∈ errors (required check fields key)) : Quotes fields d := by
  unfold required at h
  cases hlookup : lookup fields key with
  | none =>
    simp only [hlookup] at h
    rw [List.mem_singleton.mp h]
    exact ⟨key, rfl, .inl ⟨hlookup, rfl⟩⟩
  | some value =>
    simp only [hlookup] at h
    obtain ⟨hloc, hinput⟩ := hcheck key value d h
    exact ⟨key, hloc, .inr ⟨value, mem_of_lookup hlookup, hinput⟩⟩

theorem quotes_extras {fields : List (String × Json)} {known : List String} {d : ErrorDetails}
    (h : d ∈ extras fields known) : Quotes fields d := by
  obtain ⟨f, hf, rfl⟩ := List.mem_map.mp h
  exact ⟨f.1, rfl, .inr ⟨f.2, List.mem_of_mem_filter hf, rfl⟩⟩

/-- Everything the framework tells of a dict quotes it. -/
theorem SecretRoute.quotes {route : SecretRoute} {fields : List (String × Json)}
    {d : ErrorDetails} (h : d ∈ route.detail fields) : Quotes fields d := by
  cases route with
  | credentials =>
    simp only [detail, List.mem_append] at h
    obtain ((h | h) | h) | h := h
    · exact quotes_required (fun _ _ _ => errors_providerType) h
    · exact quotes_required (fun _ _ _ => errors_text) h
    · exact quotes_required (fun _ _ _ => errors_text) h
    · exact quotes_extras h
  | telegramBot =>
    simp only [detail, List.mem_append] at h
    obtain h | h := h
    · exact quotes_required (fun _ _ _ => errors_text) h
    · exact quotes_extras h

/-- A dict is a request, or is told what is wrong with it. -/
theorem SecretRoute.operation_dict (route : SecretRoute) (fields : List (String × Json)) :
    (∃ op, route.operation (.obj fields) = .ok op ∧ route.detail fields = []) ∨
      route.operation (.obj fields) = .error (route.detail fields) := by
  cases route with
  | credentials =>
    simp only [operation, CredentialUpsertRequest.validate, detail]
    generalize required Validation.providerType fields "provider_type" = type
    generalize required (text 100) fields "credential_name" = name
    generalize required (text 2048) fields "secret" = secret
    generalize extras fields ["provider_type", "credential_name", "secret"] = extra
    cases type with
    | error e => exact .inr rfl
    | ok providerType =>
      cases name with
      | error e => exact .inr rfl
      | ok credentialName =>
        cases secret with
        | error e => exact .inr rfl
        | ok secret =>
          cases extra with
          | nil => exact .inl ⟨_, rfl, rfl⟩
          | cons d rest => exact .inr rfl
  | telegramBot =>
    simp only [operation, BotConfigRequest.validate, detail]
    generalize required (text 512) fields "bot_token" = token
    generalize extras fields ["bot_token"] = extra
    cases token with
    | error e => exact .inr rfl
    | ok botToken =>
      cases extra with
      | nil => exact .inl ⟨_, rfl, rfl⟩
      | cons d rest => exact .inr rfl

section Quoted

variable {fields : List (String × (String → Json))} {key secret : String} {d : ErrorDetails}

/-- What an error of a field quotes, if the field is there. -/
theorem quoted_value {value : String → Json} (hkeys : (fields.map Prod.fst).Nodup)
    (hmem : (key, value) ∈ fields) (hloc : d.loc = ["body", key])
    (hd : Quotes (dict fields secret) d) : d.input = value secret := by
  have hlookup := lookup_dict secret hkeys hmem
  obtain ⟨key', hloc', hquote⟩ := hd
  have hkey : key' = key := by
    rw [hloc'] at hloc
    simpa using hloc
  subst hkey
  rcases hquote with ⟨hnone, -⟩ | ⟨value', hmem', hinput⟩
  · rw [hlookup] at hnone
    cases hnone
  · obtain ⟨f, hf, heq⟩ := List.mem_map.mp hmem'
    obtain ⟨hfst, hsnd⟩ := Prod.mk.inj heq
    have hsame := lookup_dict secret hkeys (show (f.1, f.2) ∈ fields from hf)
    rw [hfst, hlookup] at hsame
    rw [hinput, ← hsnd]
    exact (Option.some.inj hsame).symm

/-- What an error of a field quotes, if the field is not there. -/
theorem quoted_whole (hnot : key ∉ fields.map Prod.fst) (hloc : d.loc = ["body", key])
    (hd : Quotes (dict fields secret) d) : d.input = .obj (dict fields secret) := by
  obtain ⟨key', hloc', hquote⟩ := hd
  have hkey : key' = key := by
    rw [hloc'] at hloc
    simpa using hloc
  subst hkey
  rcases hquote with ⟨-, hinput⟩ | ⟨value', hmem', -⟩
  · exact hinput
  · obtain ⟨f, hf, heq⟩ := List.mem_map.mp hmem'
    exact (hnot (List.mem_map.mpr ⟨f, hf, congrArg Prod.fst heq⟩)).elim

end Quoted

/-! ## What passes -/

theorem passes_providerType {field : String} {value : Json}
    (h : errors (Validation.providerType field value) = []) :
    ∃ p : ProviderType, value = .str p.value := by
  rcases providerType_cases field value with ⟨p, hp, -⟩ | ⟨d, hd, -⟩
  · exact ⟨p, hp⟩
  · rw [hd] at h
    cases h

theorem passes_text {maxLength : Nat} {field : String} {value : Json}
    (h : errors (text maxLength field value) = []) :
    ∃ t : String, value = .str t ∧ t.length ≤ maxLength := by
  rcases text_cases maxLength field value with ⟨t, ht, -, hle, -⟩ | ⟨d, hd, -⟩
  · exact ⟨t, ht, hle⟩
  · rw [hd] at h
    cases h

/-- What a text is taken as. -/
theorem text_eq_ok {maxLength : Nat} {field t : String} {value : Json}
    (h : text maxLength field value = .ok t) : value = .str t ∧ 0 < t.length := by
  rcases text_cases maxLength field value with ⟨t', ht, hpos, -, hok⟩ | ⟨d, hd, -⟩
  · rw [hok] at h
    cases h
    exact ⟨ht, hpos⟩
  · rw [hd] at h
    cases h

/-- A text of a fitting length is taken as it is. -/
theorem text_ok {maxLength : Nat} {field t : String} (hpos : 0 < t.length)
    (hle : t.length ≤ maxLength) : text maxLength field (.str t) = .ok t := by
  have hshort : ¬ t.length < 1 := by omega
  have hlong : ¬ maxLength < t.length := by omega
  simp only [text, hshort, hlong, if_false]

/-! ## How many bytes a secret takes -/

section Bytes

theorem utf8Len_le (cs : List Char) : String.utf8Len cs ≤ 4 * cs.length := by
  induction cs with
  | nil => exact Nat.le_refl _
  | cons c cs ih =>
    have hc := c.utf8Size_le_four
    simp only [String.utf8Len, List.length_cons]
    omega

theorem utf8ByteSize_le (s : String) : s.utf8ByteSize ≤ 4 * s.length := by
  rw [← String.ofList_toList (s := s), String.utf8ByteSize_ofList, String.length_ofList]
  exact utf8Len_le s.toList

theorem utf8Len_replicate (k : Nat) (c : Char) :
    String.utf8Len (List.replicate k c) = k * c.utf8Size := by
  induction k with
  | zero => simp
  | succ k ih => rw [List.replicate_succ, String.utf8Len, ih, Nat.succ_mul]

theorem fernetLength_le_iff {s : String} : fernetLength s ≤ 4096 ↔ s.utf8ByteSize ≤ 3007 := by
  unfold fernetLength
  omega

/-- `k` times the character, and an ending of four. -/
def padded (c : Char) (k : Nat) : String :=
  String.ofList (List.replicate k c ++ List.replicate 4 '😀')

variable (c : Char) (k : Nat)

theorem length_padded : (padded c k).length = k + 4 := by
  rw [padded, String.length_ofList, List.length_append, List.length_replicate,
    List.length_replicate]

theorem lastFour_padded : lastFour (padded c k) = "😀😀😀😀" := by
  have hlist : (padded c k).toList = List.replicate k c ++ List.replicate 4 '😀' :=
    String.toList_ofList
  unfold lastFour
  rw [length_padded, if_pos (by omega), hlist, Nat.add_sub_cancel,
    List.drop_left' List.length_replicate]
  rfl

theorem utf8ByteSize_padded : (padded c k).utf8ByteSize = k * c.utf8Size + 16 := by
  have hend : String.utf8Len (List.replicate 4 '😀') = 16 := by decide
  rw [padded, String.utf8ByteSize_ofList, String.utf8Len_append, utf8Len_replicate, hend]

/-- Its token fits where its bytes do. -/
theorem secretFits_padded : Admin.SecretFits (padded c k) ↔ k * c.utf8Size + 16 ≤ 3007 := by
  have hlast : HasRoom 4 "😀😀😀😀" := by decide +kernel
  unfold Admin.SecretFits
  rw [lastFour_padded, fernetLength_le_iff, utf8ByteSize_padded]
  exact and_iff_left hlast

end Bytes

/-! ## Where a secret may be -/

/-- The column holds the name that a credential is stored under. -/
def Operation.Named : Operation → Prop
  | upsertCredential payload => HasRoom 100 payload.credentialName
  | _ => True

/-- No secret of length `n` makes a request of the body, or none under a name that is held. -/
def SecretRoute.Refuses (route : SecretRoute) (body : String → Json) (n : Nat) : Prop :=
  ∀ s : String, s.length = n → ∀ op, route.operation (body s) = .ok op → ¬ op.Named

/-- An entry that does not give away a secret of length `n`: it does not have it, or it is
    the one for it and has room for it, and so has its column, whatever the characters.  Where
    the request is refused for something else, the column does not matter, and the name of a
    credential may be the secret too. -/
def SecretRoute.Guards (route : SecretRoute) (body : String → Json) (n : Nat)
    (f : String × (String → Json)) : Prop :=
  Constant f.2 ∨ f.2 = .str ∧
    (f.1 = route.field ∧ n ≤ route.maxLength ∧ (n ≤ 751 ∨ route.Refuses body n) ∨
      route = .credentials ∧ f.1 = "credential_name" ∧ n ≤ 100 ∧ route.Refuses body n)

/-- A body that does not give away a secret of length `n`: it does not have it, or it is a
    dict that has all that is required, and no entry gives the secret away. -/
def SecretRoute.Guarded (route : SecretRoute) (body : String → Json) (n : Nat) : Prop :=
  Constant body ∨ ∃ fields, body = (fun s => .obj (dict fields s)) ∧
    (fields.map Prod.fst).Nodup ∧
    (∀ key ∈ route.field :: route.others, key ∈ fields.map Prod.fst) ∧
    ∀ f ∈ fields, route.Guards body n f

/-! ## Bodies that keep the secret -/

section Guarded

variable {fields : List (String × (String → Json))} {s s' : String}

/-- A field the secret is not in is checked alike. -/
theorem required_constant {α : Type} {check : String → Json → Validated α} {key : String}
    {value : String → Json} (hkeys : (fields.map Prod.fst).Nodup) (hmem : (key, value) ∈ fields)
    (h : Constant value) :
    required check (dict fields s) key = required check (dict fields s') key := by
  simp only [required, lookup_dict _ hkeys hmem]
  rw [h s s']

/-- A field that the secret fits is taken. -/
theorem required_secret {maxLength : Nat} {key : String} (hkeys : (fields.map Prod.fst).Nodup)
    (hmem : (key, Json.str) ∈ fields) (hpos : 0 < s.length) (hle : s.length ≤ maxLength) :
    required (text maxLength) (dict fields s) key = .ok s := by
  simp only [required, lookup_dict _ hkeys hmem]
  exact text_ok hpos hle

theorem extras_constant {known : List String}
    (h : ∀ f ∈ fields, f.1 ∉ known → Constant f.2) :
    extras (dict fields s) known = extras (dict fields s') known := by
  unfold extras dict
  rw [List.filter_map, List.filter_map, List.map_map, List.map_map]
  refine List.map_congr_left fun f hf => ?_
  obtain ⟨hmem, hnot⟩ := List.mem_filter.mp hf
  have hknown : f.1 ∉ known := by simpa using hnot
  simp only [Function.comp, h f hmem hknown s s']

/-- Two secrets of one length that end alike can be told apart by nothing but their bytes,
    and as long as these do not matter not at all. -/
theorem sameFace_of_length {n : Nat} (hn : 0 < n) (hshort : n ≤ 751) (hs : s.length = n)
    (hs' : s'.length = n) (hlast : lastFour s = lastFour s') : SameFace s s' := by
  have hempty : ∀ t : String, t.length = n → t ≠ "" := by
    rintro t ht rfl
    have hzero : ("" : String).length = 0 := by decide
    omega
  have htoken : ∀ t : String, t.length = n → fernetLength t ≤ 4096 := by
    intro t ht
    have hbytes := utf8ByteSize_le t
    exact fernetLength_le_iff.mpr (by omega)
  refine ⟨iff_of_false (hempty s hs) (hempty s' hs'), hlast, ?_⟩
  unfold Admin.SecretFits
  rw [hlast]
  exact and_congr_left fun _ => iff_of_true (htoken s hs) (htoken s' hs')

/-- A body is validated like itself. -/
theorem agree_operation (route : SecretRoute) (body : Json) :
    AgreeBy Operation.Alike (route.operation body) (route.operation body) := by
  cases route with
  | credentials =>
    unfold SecretRoute.operation
    cases CredentialUpsertRequest.validate body with
    | error detail => exact rfl
    | ok payload => exact .credential rfl rfl (.refl _)
  | telegramBot =>
    unfold SecretRoute.operation
    cases BotConfigRequest.validate body with
    | error detail => exact rfl
    | ok payload => exact .bot (.refl _)

/-- A text that may be the secret, taken in both bodies. -/
def Taken (s s' : String) (x x' : Validated String) : Prop :=
  x = x' ∨ x = .ok s ∧ x' = .ok s'

theorem Taken.errors {x x' : Validated String} (h : Taken s s' x x') :
    Validation.errors x = Validation.errors x' := by
  rcases h with rfl | ⟨rfl, rfl⟩ <;> rfl

theorem taken_text {n maxLength : Nat} {key : String} {value : String → Json}
    (hn : 0 < n) (hs : s.length = n) (hs' : s'.length = n)
    (hkeys : (fields.map Prod.fst).Nodup) (hmem : (key, value) ∈ fields)
    (h : Constant value ∨ value = .str ∧ n ≤ maxLength) :
    Taken s s' (required (text maxLength) (dict fields s) key)
      (required (text maxLength) (dict fields s') key) := by
  rcases h with hconst | ⟨rfl, hle⟩
  · exact .inl (required_constant hkeys hmem hconst)
  · have hfits : ∀ t : String, t.length = n →
        required (text maxLength) (dict fields t) key = .ok t := fun t ht =>
      required_secret hkeys hmem (by omega) (by omega)
    exact .inr ⟨hfits s hs, hfits s' hs'⟩

/-- The two bodies of PUT /telegram-bot are validated alike. -/
theorem agree_bot {n : Nat} (hn : 0 < n) (hs : s.length = n) (hs' : s'.length = n)
    (hlast : lastFour s = lastFour s') (hkeys : (fields.map Prod.fst).Nodup)
    (hpresent : ∀ key ∈ ["bot_token"], key ∈ fields.map Prod.fst) {body : String → Json}
    (hguards : ∀ f ∈ fields, SecretRoute.telegramBot.Guards body n f) :
    AgreeBy Operation.Alike (SecretRoute.telegramBot.operation (.obj (dict fields s)))
      (SecretRoute.telegramBot.operation (.obj (dict fields s'))) := by
  have hentry : ∀ f ∈ fields, Constant f.2 ∨ f.2 = .str ∧ f.1 = "bot_token" ∧ n ≤ 512 := by
    intro f hf
    rcases hguards f hf with hconst | ⟨hstr, ⟨hkey, hle, -⟩ | ⟨hroute, -⟩⟩
    · exact .inl hconst
    · exact .inr ⟨hstr, hkey, hle⟩
    · cases hroute
  have hextras : extras (dict fields s) ["bot_token"] = extras (dict fields s') ["bot_token"] := by
    refine extras_constant fun f hf hnot => (hentry f hf).resolve_right ?_
    rintro ⟨-, hkey, -⟩
    exact hnot (by simp [hkey])
  obtain ⟨⟨key, value⟩, hmem, rfl⟩ := List.mem_map.mp (hpresent _ (List.mem_singleton.mpr rfl))
  simp only [SecretRoute.operation, BotConfigRequest.validate, hextras]
  rcases hentry _ hmem with hconst | ⟨rfl, -, hle⟩
  · have hsame : required (text 512) (dict fields s) "bot_token" =
        required (text 512) (dict fields s') "bot_token" := required_constant hkeys hmem hconst
    rw [hsame]
    cases required (text 512) (dict fields s') "bot_token" with
    | error e => exact rfl
    | ok botToken =>
      cases extras (dict fields s') ["bot_token"] with
      | nil => exact .bot (.refl _)
      | cons d rest => exact rfl
  · -- A token is short enough for its column, whatever its characters.
    have hface := sameFace_of_length hn (by omega) hs hs' hlast
    rw [required_secret hkeys hmem (by omega) (by omega : s.length ≤ 512),
      required_secret hkeys hmem (by omega) (by omega : s'.length ≤ 512)]
    cases extras (dict fields s') ["bot_token"] with
    | nil => exact .bot hface
    | cons d rest => exact rfl

/-- Two dicts whose fields are taken alike are validated alike, as long as names and faces
    agree, or both requests are refused under the name they give. -/
theorem agree_taken {dict dict' : List (String × Json)}
    (htype : required Validation.providerType dict "provider_type" =
      required Validation.providerType dict' "provider_type")
    (hextras : extras dict ["provider_type", "credential_name", "secret"] =
      extras dict' ["provider_type", "credential_name", "secret"])
    (hname : Taken s s' (required (text 100) dict "credential_name")
      (required (text 100) dict' "credential_name"))
    (hsecret : Taken s s' (required (text 2048) dict "secret")
      (required (text 2048) dict' "secret"))
    (hgate : (required (text 100) dict "credential_name" =
          required (text 100) dict' "credential_name" ∧
        (required (text 2048) dict "secret" = required (text 2048) dict' "secret" ∨
          SameFace s s')) ∨
      (∀ op, SecretRoute.credentials.operation (.obj dict) = .ok op → ¬ op.Named) ∧
        ∀ op, SecretRoute.credentials.operation (.obj dict') = .ok op → ¬ op.Named) :
    AgreeBy Operation.Alike (SecretRoute.credentials.operation (.obj dict))
      (SecretRoute.credentials.operation (.obj dict')) := by
  simp only [SecretRoute.operation, CredentialUpsertRequest.validate, hextras, htype]
    at hgate ⊢
  generalize required Validation.providerType dict' "provider_type" = type
    at hgate ⊢
  generalize extras dict' ["provider_type", "credential_name", "secret"] = extra
    at hgate ⊢
  generalize required (text 100) dict "credential_name" = name at *
  generalize required (text 100) dict' "credential_name" = name' at *
  generalize required (text 2048) dict "secret" = secret at *
  generalize required (text 2048) dict' "secret" = secret' at *
  have herrors := hsecret.errors
  cases type with
  | error e =>
    have herrors' := hname.errors
    show errors _ ++ errors name ++ errors secret ++ extra = _
    rw [herrors, herrors']
  | ok providerType =>
    rcases hname with rfl | ⟨rfl, rfl⟩
    · cases name with
      | error e =>
        show errors _ ++ errors _ ++ errors secret ++ extra = _
        rw [herrors]
      | ok credentialName =>
        rcases hsecret with rfl | ⟨rfl, rfl⟩
        · cases secret with
          | error e => exact rfl
          | ok secret =>
            cases extra with
            | nil => exact .credential rfl rfl (.refl _)
            | cons d rest => exact rfl
        · cases extra with
          | nil =>
            rcases hgate with ⟨-, hsame | hface⟩ | ⟨hno, hno'⟩
            · cases hsame
              exact .credential rfl rfl (.refl _)
            · exact .credential rfl rfl hface
            · exact .unnamed (hno _ rfl) (hno' _ rfl)
          | cons d rest => exact rfl
    · rcases hsecret with rfl | ⟨rfl, rfl⟩
      · cases secret with
        | error e => exact rfl
        | ok secret =>
          cases extra with
          | nil =>
            rcases hgate with ⟨hsame, -⟩ | ⟨hno, hno'⟩
            · exact .credential rfl (Except.ok.inj hsame) (.refl _)
            · exact .unnamed (hno _ rfl) (hno' _ rfl)
          | cons d rest => exact rfl
      · cases extra with
        | nil =>
          rcases hgate with ⟨hsame, hsecret⟩ | ⟨hno, hno'⟩
          · cases hsame
            exact .credential rfl rfl (.refl _)
          · exact .unnamed (hno _ rfl) (hno' _ rfl)
        | cons d rest => exact rfl

/-- The two bodies of PUT /credentials are validated alike. -/
theorem agree_credentials {n : Nat} (hn : 0 < n) (hs : s.length = n) (hs' : s'.length = n)
    (hlast : lastFour s = lastFour s') (hkeys : (fields.map Prod.fst).Nodup)
    (hpresent : ∀ key ∈ ["secret", "provider_type", "credential_name"],
      key ∈ fields.map Prod.fst)
    (hguards : ∀ f ∈ fields,
      SecretRoute.credentials.Guards (fun s => .obj (dict fields s)) n f) :
    AgreeBy Operation.Alike (SecretRoute.credentials.operation (.obj (dict fields s)))
      (SecretRoute.credentials.operation (.obj (dict fields s'))) := by
  let Refused : Prop := SecretRoute.credentials.Refuses (fun s => .obj (dict fields s)) n
  have hentry : ∀ key value, (key, value) ∈ fields → Constant value ∨ value = .str ∧
      (key = "secret" ∧ n ≤ 2048 ∧ (n ≤ 751 ∨ Refused) ∨
        key = "credential_name" ∧ n ≤ 100 ∧ Refused) := by
    intro key value hmem
    rcases hguards _ hmem with hconst | ⟨hstr, hfield | ⟨-, hname⟩⟩
    · exact .inl hconst
    · exact .inr ⟨hstr, .inl hfield⟩
    · exact .inr ⟨hstr, .inr hname⟩
  have hextras : extras (dict fields s) ["provider_type", "credential_name", "secret"] =
      extras (dict fields s') ["provider_type", "credential_name", "secret"] := by
    refine extras_constant fun f hf hnot => (hentry f.1 f.2 hf).resolve_right ?_
    rintro ⟨-, ⟨hkey, -⟩ | ⟨hkey, -⟩⟩
    · exact hnot (by simp [hkey])
    · exact hnot (by simp [hkey])
  have hfield : ∀ key ∈ ["secret", "provider_type", "credential_name"], ∃ value,
      (key, value) ∈ fields := by
    intro key hkey
    obtain ⟨f, hf, rfl⟩ := List.mem_map.mp (hpresent key hkey)
    exact ⟨f.2, hf⟩
  have htype : required Validation.providerType (dict fields s) "provider_type" =
      required Validation.providerType (dict fields s') "provider_type" := by
    obtain ⟨value, hmem⟩ := hfield "provider_type" (by decide)
    refine required_constant hkeys hmem ((hentry _ _ hmem).resolve_right ?_)
    rintro ⟨-, ⟨hkey, -⟩ | ⟨hkey, -⟩⟩
    · exact absurd hkey (by decide)
    · exact absurd hkey (by decide)
  obtain ⟨kept, hkept⟩ := hfield "secret" (by decide)
  have hsecret : Taken s s' (required (text 2048) (dict fields s) "secret")
      (required (text 2048) (dict fields s') "secret") := by
    refine taken_text hn hs hs' hkeys hkept ((hentry _ _ hkept).imp_right ?_)
    rintro ⟨hstr, ⟨-, hle, -⟩ | ⟨hkey, -⟩⟩
    · exact ⟨hstr, hle⟩
    · exact absurd hkey (by decide)
  obtain ⟨named, hnamed⟩ := hfield "credential_name" (by decide)
  have hname : Taken s s' (required (text 100) (dict fields s) "credential_name")
      (required (text 100) (dict fields s') "credential_name") := by
    refine taken_text hn hs hs' hkeys hnamed ((hentry _ _ hnamed).imp_right ?_)
    rintro ⟨hstr, ⟨hkey, -⟩ | ⟨-, hle, -⟩⟩
    · exact absurd hkey (by decide)
    · exact ⟨hstr, hle⟩
  -- Where names or tokens may differ, the request is refused, by its name if not before.
  have hgate : (required (text 100) (dict fields s) "credential_name" =
        required (text 100) (dict fields s') "credential_name" ∧
      (required (text 2048) (dict fields s) "secret" =
          required (text 2048) (dict fields s') "secret" ∨ SameFace s s')) ∨
      (∀ op, SecretRoute.credentials.operation (.obj (dict fields s)) = .ok op → ¬ op.Named) ∧
        ∀ op, SecretRoute.credentials.operation (.obj (dict fields s')) = .ok op → ¬ op.Named := by
    by_cases hrefused : Refused
    · exact .inr ⟨hrefused s hs, hrefused s' hs'⟩
    refine .inl ⟨?_, ?_⟩
    · rcases hentry _ _ hnamed with hconst | ⟨-, ⟨hkey, -⟩ | ⟨-, -, hyes⟩⟩
      · exact required_constant hkeys hnamed hconst
      · exact absurd hkey (by decide)
      · exact (hrefused hyes).elim
    · rcases hentry _ _ hkept with hconst | ⟨-, ⟨-, -, hshort | hyes⟩ | ⟨hkey, -⟩⟩
      · exact .inl (required_constant hkeys hkept hconst)
      · exact .inr (sameFace_of_length hn hshort hs hs' hlast)
      · exact (hrefused hyes).elim
      · exact absurd hkey (by decide)
  exact agree_taken htype hextras hname hsecret hgate

theorem SecretRoute.Guarded.agree {route : SecretRoute} {body : String → Json} {n : Nat}
    (h : route.Guarded body n) (hn : 0 < n) (hs : s.length = n) (hs' : s'.length = n)
    (hlast : lastFour s = lastFour s') :
    AgreeBy Operation.Alike (route.operation (body s)) (route.operation (body s')) := by
  rcases h with hconst | ⟨fields, rfl, hkeys, hpresent, hguards⟩
  · rw [hconst s s']
    exact agree_operation _ _
  · cases route with
    | credentials => exact agree_credentials hn hs hs' hlast hkeys hpresent hguards
    | telegramBot => exact agree_bot hn hs hs' hlast hkeys hpresent hguards

end Guarded

/-! ## What the requests are answered -/

/-- The replies to requests one after the other; `env` decides about their calls in turn. -/
def replies (env : Nat → Choice) (requests : List (App (HttpResponse Response))) (w : World) :
    List (Except PyError (HttpResponse Response)) :=
  (followAll World.step (fun past _ => env past.length) requests [] w).2.1

/-- `PUT` of a body on behalf of `A`, and what is asked for later, by whichever tenants. -/
def SecretRoute.requests (route : SecretRoute) (key : EncryptionKey) (S : Settings)
    (A : TenantId) (body : Json) (later : List (TenantId × Operation)) :
    List (App (HttpResponse Response)) :=
  route.put key S A body ::
    later.map fun request => HttpResponse.ok <$> request.2.program key S request.1

/-- No reply, to the body or later, tells two secrets of length `n` apart that end alike. -/
def SecretRoute.WriteOnly (route : SecretRoute) (body : String → Json) (n : Nat) : Prop :=
  ∀ (key : EncryptionKey) (S : Settings) (A : TenantId) (later : List (TenantId × Operation))
    (env : Nat → Choice) (w : World) (σ : String → String) (s s' : String),
    s.length = n → s'.length = n → lastFour s = lastFour s' → OpensAlike key σ →
    (∀ request ∈ later, request.2.Administrative) →
    replies env (route.requests key S A (body s) later) w =
      replies (fun i => (env i).reseal σ) (route.requests key S A (body s') later) (w.reseal σ)

theorem goAlike_put {σ : String → String} {key : EncryptionKey} {S : Settings} {A : TenantId}
    (hσ : OpensAlike key σ) {route : SecretRoute} {body body' : Json}
    (h : AgreeBy Operation.Alike (route.operation body) (route.operation body')) :
    GoAlike σ (route.put key S A body) (route.put key S A body') := by
  unfold SecretRoute.put
  revert h
  generalize route.operation body = x
  generalize route.operation body' = x'
  intro h
  cases x with
  | error detail =>
    cases x' with
    | error detail' =>
      have hsame : detail = detail' := h
      rw [hsame]
      exact coupled_pure rfl
    | ok op' => exact h.elim
  | ok op =>
    cases x' with
    | error detail' => exact h.elim
    | ok op' =>
      have halike : op.Alike op' := h
      exact goAlike_bind (goAlike_program hσ halike) fun _ => coupled_pure rfl

/-- A body that keeps the secret is answered without it, and so is everything after. -/
theorem SecretRoute.Guarded.writeOnly {route : SecretRoute} {body : String → Json} {n : Nat}
    (h : route.Guarded body n) (hn : 0 < n) : route.WriteOnly body n := by
  intro key S A later env w σ s s' hs hs' hlast hσ hlater
  have hstep : ∀ {op op' : Op} {R : op.Ret → op'.Ret → Prop}, Resealed σ op op' R →
      ∀ (w w' : World) (c c' : Choice), w.ResealedTo σ w' → c' = c.reseal σ →
        AgreeBy R (World.step w op c).1 (World.step w' op' c').1 ∧
          (World.step w op c).2.ResealedTo σ (World.step w' op' c').2 :=
    fun h w w' c c' hw hc => step_resealed h w w' c c' hw hc
  refine coupled_followAll (C := Resealed σ) (S := World.ResealedTo σ)
    (K := fun c c' : Choice => c' = c.reseal σ) hstep (fun _ => rfl) ?_ ⟨_, _, rfl⟩ rfl
  refine .cons (goAlike_put hσ (h.agree hn hs hs' hlast)) ?_
  rw [List.forall₂_map_left_iff, List.forall₂_map_right_iff, List.forall₂_same]
  intro request hrequest
  exact goAlike_bind (goAlike_program hσ (.same (hlater request hrequest))) fun _ =>
    coupled_pure rfl

/-! ## Bodies that give the secret away -/

/-- The text with another first character. -/
def beginning (c : Char) (s : String) : String :=
  String.ofList (c :: s.toList.tail)

/-- Another first character changes neither the length nor the end of a secret. -/
theorem beginning_alike {s : String} (h : 8 ≤ s.length) (c : Char) :
    (beginning c s).length = s.length ∧ lastFour s = lastFour (beginning c s) := by
  unfold beginning
  cases hchars : s.toList with
  | nil =>
    have hlength : s.length = 0 := by rw [← String.length_toList, hchars]; rfl
    omega
  | cons c' rest =>
    have hlength : s.length = rest.length + 1 := by
      rw [← String.length_toList, hchars, List.length_cons]
    have hlength' : (String.ofList (c :: rest)).length = rest.length + 1 := by
      rw [String.length_ofList, List.length_cons]
    refine ⟨by rw [List.tail_cons]; omega, ?_⟩
    obtain ⟨k, hk⟩ : ∃ k, rest.length + 1 - 4 = k + 1 := ⟨rest.length - 4, by omega⟩
    have hlong : 4 ≤ rest.length + 1 := by omega
    unfold lastFour
    rw [List.tail_cons, hlength, hlength', hchars, String.toList_ofList, hk, List.drop_succ_cons,
      List.drop_succ_cons]

/-- Another secret of the same length that ends alike. -/
theorem exists_lookalike {s : String} (h : 8 ≤ s.length) :
    ∃ s' : String, s' ≠ s ∧ s'.length = s.length ∧ lastFour s = lastFour s' := by
  obtain ⟨c, hc⟩ : ∃ c : Char, s.toList.head? ≠ some c := by
    by_cases ha : s.toList.head? = some 'a'
    · exact ⟨'b', by rw [ha]; decide⟩
    · exact ⟨'a', ha⟩
  refine ⟨beginning c s, fun heq => hc ?_, beginning_alike h c⟩
  rw [← heq, beginning, String.toList_ofList]
  rfl

/-- The empty database has no ciphertexts. -/
theorem blankWorld_reseal (σ : String → String) : blankWorld.reseal σ = blankWorld := by
  have hempty : Database.reseal σ (fun _ => []) = fun _ => [] := by
    unfold Database.reseal Store.put
    exact Function.update_eq_self _ _
  unfold World.reseal blankWorld
  simp only [hempty]

section Replies

variable (S : Settings) {payload : CredentialUpsertRequest}

/-- What comes of a request in the empty world, where nothing goes wrong. -/
def carriedOut (key : EncryptionKey) (S : Settings) (op : Operation) : Except PyError Response :=
  (follow World.step (fun _ _ => ({} : Choice)) (op.program key S 1) [] blankWorld).result

theorem encryptSecret_keyed {secret : String} (h : secret ≠ "") :
    encryptSecret (.key some) secret = perform (Op.encrypt secret) := by
  unfold encryptSecret
  rw [if_neg h]
  rfl

/-- A credential is stored where there is none, and its name told. -/
theorem carriedOut_stored (hname : HasRoom 100 payload.credentialName) (h : payload.secret ≠ "")
    (hfits : Admin.SecretFits payload.secret) :
    carriedOut (.key some) S (.upsertCredential payload) =
      .ok (.credential {
        id := 0
        providerType := payload.providerType
        credentialName := payload.credentialName
        lastFour := some (lastFour payload.secret)
        verifiedAt := none }) := by
  have hencrypt := encryptSecret_keyed h
  unfold carriedOut Operation.program Admin.upsertCredential Admin.storeSecret stringColumn
    Admin.secretColumns
  simp only [if_pos hname, if_pos hfits, hencrypt]
  rfl

/-- One that is too long is not. -/
theorem carriedOut_unfit (hname : HasRoom 100 payload.credentialName) (h : payload.secret ≠ "")
    (hfits : ¬ Admin.SecretFits payload.secret) :
    carriedOut (.key some) S (.upsertCredential payload) = .error stringDataError := by
  have hencrypt := encryptSecret_keyed h
  unfold carriedOut Operation.program Admin.upsertCredential Admin.storeSecret stringColumn
    Admin.secretColumns
  simp only [if_pos hname, if_neg hfits, hencrypt]
  rfl

/-- Nor is one under a name that is not held; no key is needed to find out. -/
theorem carriedOut_unnamed (hname : ¬ HasRoom 100 payload.credentialName) :
    carriedOut .unset S (.upsertCredential payload) = .error stringDataError := by
  unfold carriedOut Operation.program Admin.upsertCredential Admin.storeSecret stringColumn
  simp only [if_neg hname]
  rfl

/-- Without a key, any other is refused for that. -/
theorem carriedOut_unkeyed (hname : HasRoom 100 payload.credentialName) (h : payload.secret ≠ "") :
    carriedOut .unset S (.upsertCredential payload) ≠ .error stringDataError := by
  have hencrypt : encryptSecret .unset payload.secret =
      (Program.raising (cipher .unset) >>= fun _ => perform (Op.encrypt payload.secret)) := by
    unfold encryptSecret
    rw [if_neg h]
  unfold carriedOut Operation.program Admin.upsertCredential Admin.storeSecret stringColumn
  simp only [if_pos hname, hencrypt]
  intro heq
  cases heq

end Replies

section GivenAway

variable {route : SecretRoute} {key : EncryptionKey} {S : Settings} {body : String → Json}
  {n : Nat} {s s' : String}

/-- The reply to a body alone, where nothing is stored and nothing goes wrong. -/
def SecretRoute.reply (route : SecretRoute) (key : EncryptionKey) (S : Settings) (body : Json) :
    Except PyError (HttpResponse Response) :=
  (follow World.step (fun _ _ => {}) (route.put key S 1 body) [] blankWorld).result

theorem SecretRoute.WriteOnly.reply (h : route.WriteOnly body n) (key : EncryptionKey)
    (hs : s.length = n) (hs' : s'.length = n) (hlast : lastFour s = lastFour s') :
    route.reply key S (body s) = route.reply key S (body s') := by
  have hreplies := h key S 1 [] (fun _ => {}) blankWorld id s s' hs hs' hlast
    (fun _ => rfl) (by simp)
  rw [blankWorld_reseal] at hreplies
  exact (List.cons.inj hreplies).1

theorem SecretRoute.reply_error {value : Json} {detail : List ErrorDetails}
    (h : route.operation value = .error detail) :
    route.reply key S value = .ok (.unprocessable detail) := by
  unfold reply put
  rw [h]
  rfl

/-- What is replied to a request is what came of it. -/
theorem SecretRoute.reply_ok {value : Json} {op : Operation} (h : route.operation value = .ok op) :
    route.reply key S value = (carriedOut key S op).map HttpResponse.ok := by
  unfold reply put carriedOut
  rw [h]
  dsimp only
  rw [map_eq_pure_bind, follow_bind]
  cases hp : (follow World.step (fun _ _ => ({} : Choice)) (op.program key S 1) []
      blankWorld).result with
  | error e => rw [Outcome.andThen_error hp]; rfl
  | ok response => rw [Outcome.andThen_ok hp]; rfl

/-- An answer to a request that was carried out is no 422. -/
theorem SecretRoute.reply_ne {value : Json} {op : Operation} (h : route.operation value = .ok op)
    (detail : List ErrorDetails) : route.reply key S value ≠ .ok (.unprocessable detail) := by
  rw [reply_ok h]
  cases carriedOut key S op with
  | error e =>
    intro heq
    cases heq
  | ok response =>
    intro heq
    cases heq

/-- Nothing the framework tells depends on which of the two the secret is. -/
theorem SecretRoute.WriteOnly.detail (S : Settings)
    {fields : List (String × (String → Json))}
    (h : route.WriteOnly (fun s => .obj (dict fields s)) n) (hs : s.length = n)
    (hs' : s'.length = n) (hlast : lastFour s = lastFour s') :
    route.detail (dict fields s) = route.detail (dict fields s') := by
  have hreply : route.reply .unset S (.obj (dict fields s)) =
      route.reply .unset S (.obj (dict fields s')) := h.reply .unset hs hs' hlast
  rcases route.operation_dict (dict fields s) with ⟨op, hop, hnil⟩ | herror
  · rcases route.operation_dict (dict fields s') with ⟨op', hop', hnil'⟩ | herror'
    · rw [hnil, hnil']
    · rw [reply_error herror'] at hreply
      exact (reply_ne hop _ hreply).elim
  · rw [reply_error herror] at hreply
    rcases route.operation_dict (dict fields s') with ⟨op', hop', -⟩ | herror'
    · exact (reply_ne hop' _ hreply.symm).elim
    · rw [reply_error herror'] at hreply
      exact HttpResponse.unprocessable.inj (Except.ok.inj hreply)

/-- What is no dict is quoted as a whole. -/
theorem SecretRoute.operation_notDict (route : SecretRoute) {value : Json}
    (h : ∀ fields, value ≠ .obj fields) : route.operation value = .error [notAnObject value] := by
  cases route with
  | credentials =>
    cases value with
    | obj fields => exact (h fields rfl).elim
    | _ => rfl
  | telegramBot =>
    cases value with
    | obj fields => exact (h fields rfl).elim
    | _ => rfl

theorem SecretRoute.WriteOnly.eq_of_notDict (S : Settings) (h : route.WriteOnly body n)
    (hbody : ∀ s fields, body s ≠ .obj fields) (hs : s.length = n) (hs' : s'.length = n)
    (hlast : lastFour s = lastFour s') : body s = body s' := by
  have hreply : route.reply .unset S (body s) = route.reply .unset S (body s') :=
    h.reply .unset hs hs' hlast
  rw [reply_error (route.operation_notDict (hbody s)),
    reply_error (route.operation_notDict (hbody s'))] at hreply
  have hdetail := HttpResponse.unprocessable.inj (Except.ok.inj hreply)
  exact congrArg ErrorDetails.input (List.cons.inj hdetail).1

/-! ### The fields, one by one -/

/-- A field that is missing is told of. -/
theorem missing_mem_detail {fields : List (String × Json)} {key : String}
    (h : key ∈ route.field :: route.others) (hnone : lookup fields key = none) :
    missing fields key ∈ route.detail fields := by
  cases route with
  | credentials =>
    simp only [SecretRoute.field, SecretRoute.others, List.mem_cons, List.not_mem_nil,
      or_false] at h
    rcases h with rfl | rfl | rfl <;> simp [SecretRoute.detail, required, hnone, errors]
  | telegramBot =>
    simp only [SecretRoute.field, SecretRoute.others, List.mem_cons, List.not_mem_nil,
      or_false] at h
    rcases h with rfl
    simp [SecretRoute.detail, required, hnone, errors]

section Entries

variable {fields : List (String × (String → Json))} {key : String} {value : String → Json}

/-- A check whose errors would be told has none to tell. -/
theorem silent_check {α : Type} {check : String → Json → Validated α}
    (hcheck : ∀ d ∈ errors (check key (value s)), d.loc = ["body", key])
    (hkeys : (fields.map Prod.fst).Nodup) (hmem : (key, value) ∈ fields)
    (hsilent : ∀ d ∈ route.detail (dict fields s), d.loc ≠ ["body", key])
    (htold : ∀ d ∈ errors (required check (dict fields s) key), d ∈ route.detail (dict fields s)) :
    errors (check key (value s)) = [] := by
  have hsame : required check (dict fields s) key = check key (value s) := by
    simp only [required, lookup_dict _ hkeys hmem]
  rw [hsame] at htold
  exact List.eq_nil_iff_forall_not_mem.mpr fun d hd => hsilent d (htold d hd) (hcheck d hd)

/-- An entry of which nothing is told is one that the request takes. -/
theorem silent_entry (hkeys : (fields.map Prod.fst).Nodup) (hmem : (key, value) ∈ fields)
    (hsilent : ∀ d ∈ route.detail (dict fields s), d.loc ≠ ["body", key]) :
    (∃ t : String, value s = .str t ∧ (key = route.field ∧ t.length ≤ route.maxLength ∨
      route = .credentials ∧ key = "credential_name" ∧ t.length ≤ 100)) ∨
      ∃ p : ProviderType, value s = .str p.value := by
  have hextra : ∀ known : List String,
      (∀ d ∈ extras (dict fields s) known, d ∈ route.detail (dict fields s)) → key ∈ known := by
    intro known htold
    by_contra hnot
    have hentry : (key, value s) ∈ (dict fields s).filter fun f => !known.contains f.1 :=
      List.mem_filter.mpr ⟨List.mem_map.mpr ⟨_, hmem, rfl⟩, by simpa using hnot⟩
    exact hsilent _ (htold _ (List.mem_map.mpr ⟨_, hentry, rfl⟩)) rfl
  cases route with
  | credentials =>
    have hknown := hextra ["provider_type", "credential_name", "secret"] fun d hd => by
      simp only [SecretRoute.detail, List.mem_append]
      exact .inr hd
    simp only [List.mem_cons, List.not_mem_nil, or_false] at hknown
    rcases hknown with rfl | rfl | rfl
    · refine .inr (passes_providerType (silent_check (fun d hd => (errors_providerType hd).1) hkeys
        hmem hsilent fun d hd => ?_))
      simp only [SecretRoute.detail, List.mem_append]
      exact .inl (.inl (.inl hd))
    · obtain ⟨t, ht, hle⟩ := passes_text (silent_check (fun d hd => (errors_text hd).1) hkeys
        hmem hsilent fun d hd => by
          simp only [SecretRoute.detail, List.mem_append]
          exact .inl (.inl (.inr hd)))
      exact .inl ⟨t, ht, .inr ⟨rfl, rfl, hle⟩⟩
    · obtain ⟨t, ht, hle⟩ := passes_text (silent_check (fun d hd => (errors_text hd).1) hkeys
        hmem hsilent fun d hd => by
          simp only [SecretRoute.detail, List.mem_append]
          exact .inl (.inr hd))
      exact .inl ⟨t, ht, .inl ⟨rfl, hle⟩⟩
  | telegramBot =>
    have hknown := hextra ["bot_token"] fun d hd => by
      simp only [SecretRoute.detail, List.mem_append]
      exact .inr hd
    rw [List.mem_singleton] at hknown
    subst hknown
    obtain ⟨t, ht, hle⟩ := passes_text (silent_check (fun d hd => (errors_text hd).1) hkeys
      hmem hsilent fun d hd => by
        simp only [SecretRoute.detail, List.mem_append]
        exact .inl hd)
    exact .inl ⟨t, ht, .inl ⟨rfl, hle⟩⟩

end Entries

/-- A secret that is no provider's name. -/
theorem exists_secret {n : Nat} (h : 8 ≤ n) :
    ∃ s : String, s.length = n ∧ ∀ p : ProviderType, s ≠ p.value := by
  refine ⟨String.ofList (List.replicate n 'a'), ?_, fun p heq => ?_⟩
  · rw [String.length_ofList, List.length_replicate]
  · obtain ⟨k, rfl⟩ : ∃ k, n = k + 1 := ⟨n - 1, by omega⟩
    have hhead : some 'a' = p.value.toList.head? := by
      rw [← heq, String.toList_ofList, List.replicate_succ, List.head?_cons]
    cases p <;> exact absurd hhead (by decide)

/-- A credential that is stored bears the name it was given. -/
theorem named_by_secret {fields : List (String × (String → Json))} {op : Operation}
    (hkeys : (fields.map Prod.fst).Nodup) (hmem : ("credential_name", Json.str) ∈ fields)
    (h : SecretRoute.credentials.operation (.obj (dict fields s)) = .ok op) :
    ∃ payload : CredentialUpsertRequest, op = .upsertCredential payload ∧
      payload.credentialName = s ∧ payload.secret ≠ "" := by
  have hname : required (text 100) (dict fields s) "credential_name" =
      text 100 "credential_name" (.str s) := by
    simp only [required, lookup_dict _ hkeys hmem]
  have hsecret : ∀ t, required (text 2048) (dict fields s) "secret" = .ok t → t ≠ "" := by
    intro t ht hempty
    unfold required at ht
    cases hlookup : lookup (dict fields s) "secret" with
    | none =>
      rw [hlookup] at ht
      cases ht
    | some value =>
      rw [hlookup] at ht
      have hpos := (text_eq_ok ht).2
      rw [hempty] at hpos
      exact absurd hpos (by decide)
  simp only [SecretRoute.operation, CredentialUpsertRequest.validate, hname] at h
  generalize required Validation.providerType (dict fields s) "provider_type" = type at h
  generalize hnamed : text 100 "credential_name" (.str s) = name at h
  generalize required (text 2048) (dict fields s) "secret" = secret at h hsecret
  generalize extras (dict fields s) ["provider_type", "credential_name", "secret"] = extra at h
  cases type with
  | error e => cases h
  | ok providerType =>
    cases name with
    | error e => cases h
    | ok credentialName =>
      cases secret with
      | error e => cases h
      | ok secret =>
        cases extra with
        | cons d rest => cases h
        | nil =>
          cases h
          exact ⟨_, rfl, (Json.str.inj (text_eq_ok hnamed).1).symm, hsecret secret rfl⟩

/-- Where the name of a credential is the secret, no request is carried out: one under a name
    with a NUL is refused before the key is missed. -/
theorem SecretRoute.WriteOnly.refuses {fields : List (String × (String → Json))} (h8 : 8 ≤ n)
    (hkeys : (fields.map Prod.fst).Nodup) (hmem : ("credential_name", Json.str) ∈ fields)
    (h : SecretRoute.credentials.WriteOnly (fun s => .obj (dict fields s)) n) :
    SecretRoute.credentials.Refuses (fun s => .obj (dict fields s)) n := by
  intro s hs op hop hheld
  obtain ⟨payload, rfl, hname, hsecret⟩ := named_by_secret hkeys hmem hop
  obtain ⟨hlength, hlast⟩ := beginning_alike (s := s) (by omega) '\x00'
  have hreply : SecretRoute.credentials.reply .unset defaultSettings (.obj (dict fields s)) =
      SecretRoute.credentials.reply .unset defaultSettings
        (.obj (dict fields (beginning '\x00' s))) := h.reply .unset hs (by omega) hlast
  rw [SecretRoute.reply_ok hop] at hreply
  have hkey := carriedOut_unkeyed defaultSettings hheld hsecret
  rcases SecretRoute.credentials.operation_dict (dict fields (beginning '\x00' s)) with
    ⟨op', hop', -⟩ | herror
  · obtain ⟨payload', rfl, hname', -⟩ := named_by_secret hkeys hmem hop'
    have hnul : ¬ HasRoom 100 payload'.credentialName := by
      rw [hname', beginning]
      exact fun hroom => hroom.1 (by simp)
    rw [SecretRoute.reply_ok hop', carriedOut_unnamed defaultSettings hnul] at hreply
    cases hdone : carriedOut .unset defaultSettings (.upsertCredential payload) with
    | ok response =>
      rw [hdone] at hreply
      cases hreply
    | error e =>
      rw [hdone] at hreply hkey
      exact hkey (congrArg _ (Except.error.inj hreply))
  · rw [SecretRoute.reply_error herror, ← SecretRoute.reply_ok hop] at hreply
    exact SecretRoute.reply_ne hop _ hreply

/-! ### A secret that is long -/

section Long

variable {fields : List (String × (String → Json))}

/-- A field that is short when the secret is long is taken whatever the secret is. -/
theorem required_elsewhere {α : Type} {check : String → Json → Validated α} {key : String} {x : α}
    (hshort : ∀ value x, check key value = .ok x → ∃ t : String, value = .str t ∧ t.length ≤ 100)
    (hkeys : (fields.map Prod.fst).Nodup) (hforms : ∀ f ∈ fields, Form f.2)
    (hlong : 100 < s.length) (h : required check (dict fields s) key = .ok x) (t : String) :
    required check (dict fields t) key = .ok x := by
  by_cases hkey : key ∈ fields.map Prod.fst
  · obtain ⟨⟨key', value⟩, hmem, rfl⟩ := List.mem_map.mp hkey
    have hlookup := lookup_dict s hkeys hmem
    have hpassed := h
    simp only [required, hlookup] at hpassed
    obtain ⟨u, hu, hle⟩ := hshort _ _ hpassed
    by_cases hconst : Constant value
    · have hsame : required check (dict fields s) key' = required check (dict fields t) key' :=
        required_constant hkeys hmem hconst
      exact hsame.symm.trans h
    · have hstr := (hforms _ hmem).eq_str hconst hu
      have hstr' : value = .str := hstr
      rw [hstr'] at hu
      have hsame : s = u := Json.str.inj hu
      rw [← hsame] at hle
      omega
  · simp only [required, lookup_dict_none hkey] at h
    cases h

theorem extras_nil {known : List String} (h : extras (dict fields s) known = []) (t : String) :
    extras (dict fields t) known = [] := by
  unfold extras dict at h ⊢
  rw [List.map_eq_nil_iff, List.filter_map, List.map_eq_nil_iff] at h ⊢
  exact h

/-- Where one long secret makes a request, every other of its length makes the same of itself. -/
theorem operation_elsewhere {op : Operation} (hkeys : (fields.map Prod.fst).Nodup)
    (hforms : ∀ f ∈ fields, Form f.2) (hmem : ("secret", Json.str) ∈ fields)
    (hlong : 100 < s.length) (hle : s.length ≤ 2048)
    (h : SecretRoute.credentials.operation (.obj (dict fields s)) = .ok op) :
    ∃ providerType credentialName,
      op = .upsertCredential { providerType, credentialName, secret := s } ∧
      ∀ t : String, t.length = s.length →
        SecretRoute.credentials.operation (.obj (dict fields t)) =
          .ok (.upsertCredential { providerType, credentialName, secret := t }) := by
  have htype : ∀ p, required Validation.providerType (dict fields s) "provider_type" = .ok p →
      ∀ t, required Validation.providerType (dict fields t) "provider_type" = .ok p := by
    intro p hp
    refine required_elsewhere (fun value x hx => ?_) hkeys hforms hlong hp
    rcases providerType_cases "provider_type" value with ⟨p, hvalue, -⟩ | ⟨d, hd, -⟩
    · exact ⟨p.value, hvalue, by cases p <;> decide⟩
    · rw [hd] at hx
      cases hx
  have hname : ∀ name, required (text 100) (dict fields s) "credential_name" = .ok name →
      ∀ t, required (text 100) (dict fields t) "credential_name" = .ok name := by
    intro name hp
    refine required_elsewhere (fun value x hx => ?_) hkeys hforms hlong hp
    exact @passes_text 100 "credential_name" value (by rw [hx]; rfl)
  have hsecret : ∀ t : String, t.length = s.length →
      required (text 2048) (dict fields t) "secret" = .ok t :=
    fun t ht => required_secret hkeys hmem (by omega) (by omega)
  simp only [SecretRoute.operation, CredentialUpsertRequest.validate, hsecret s rfl] at h
  cases htyped : required Validation.providerType (dict fields s) "provider_type" with
  | error e =>
    rw [htyped] at h
    cases h
  | ok providerType =>
    cases hnamed : required (text 100) (dict fields s) "credential_name" with
    | error e =>
      rw [htyped, hnamed] at h
      cases h
    | ok credentialName =>
      cases hextra : extras (dict fields s) ["provider_type", "credential_name", "secret"] with
      | cons d rest =>
        rw [htyped, hnamed, hextra] at h
        cases h
      | nil =>
        rw [htyped, hnamed, hextra] at h
        refine ⟨providerType, credentialName, (Except.ok.inj h).symm, fun t ht => ?_⟩
        simp only [SecretRoute.operation, CredentialUpsertRequest.validate, hsecret t ht,
          htype providerType htyped t, hname credentialName hnamed t, extras_nil hextra t]
        rfl

/-- Where a secret may have too many bytes for its column, no request is carried out. -/
theorem SecretRoute.WriteOnly.refuses_long (hkeys : (fields.map Prod.fst).Nodup)
    (hforms : ∀ f ∈ fields, Form f.2) (hmem : ("secret", Json.str) ∈ fields) (hlong : 751 < n)
    (hle : n ≤ 2048) (h : SecretRoute.credentials.WriteOnly (fun s => .obj (dict fields s)) n) :
    SecretRoute.credentials.Refuses (fun s => .obj (dict fields s)) n := by
  intro s hs op hop hheld
  obtain ⟨providerType, credentialName, rfl, hall⟩ :=
    operation_elsewhere hkeys hforms hmem (by omega) (by omega) hop
  obtain ⟨k, rfl⟩ : ∃ k, n = k + 4 := ⟨n - 4, by omega⟩
  have hop₁ := hall (padded 'a' k) ((length_padded _ _).trans hs.symm)
  have hop₂ := hall (padded '😀' k) ((length_padded _ _).trans hs.symm)
  have hreply : SecretRoute.credentials.reply (.key some) defaultSettings
        (.obj (dict fields (padded 'a' k))) =
      SecretRoute.credentials.reply (.key some) defaultSettings
        (.obj (dict fields (padded '😀' k))) :=
    h.reply (.key some) (length_padded _ _) (length_padded _ _)
      ((lastFour_padded _ _).trans (lastFour_padded _ _).symm)
  have hnonempty : ∀ c, padded c k ≠ "" := by
    intro c hempty
    have hlength := length_padded c k
    rw [hempty] at hlength
    exact absurd hlength.symm (Nat.succ_ne_zero _)
  have hone : 'a'.utf8Size = 1 := by decide
  have hfour : '😀'.utf8Size = 4 := by decide
  have hfits : Admin.SecretFits (padded 'a' k) := by
    rw [secretFits_padded, hone]
    omega
  have hunfit : ¬ Admin.SecretFits (padded '😀' k) := by
    rw [secretFits_padded, hfour]
    omega
  have hstored := @carriedOut_stored defaultSettings ⟨providerType, credentialName, padded 'a' k⟩
    hheld (hnonempty _) hfits
  have hrefused := @carriedOut_unfit defaultSettings ⟨providerType, credentialName, padded '😀' k⟩
    hheld (hnonempty _) hunfit
  rw [SecretRoute.reply_ok hop₁, SecretRoute.reply_ok hop₂, hstored, hrefused] at hreply
  cases hreply

end Long

/-- A body whose replies do not tell the secret keeps it where it is not quoted. -/
theorem SecretRoute.WriteOnly.guarded (hform : Form body) (h8 : 8 ≤ n)
    (h : route.WriteOnly body n) : route.Guarded body n := by
  by_cases hconst : Constant body
  · exact .inl hconst
  have hinj := hform.constant_or_injective.resolve_left hconst
  obtain ⟨s, hs, hprovider⟩ := exists_secret h8
  obtain ⟨s', hne, hlength, hlast⟩ := exists_lookalike (s := s) (by omega)
  have hs' : s'.length = n := by omega
  have hwhole : (∀ s fields, body s ≠ .obj fields) → False := fun hbody =>
    hne (hinj (h.eq_of_notDict defaultSettings hbody hs hs' hlast).symm)
  cases hform with
  | const value => exact (hconst fun _ _ => rfl).elim
  | secret => exact (hwhole fun _ _ heq => by cases heq).elim
  | arr hitems => exact (hwhole fun _ _ heq => by cases heq).elim
  | @obj fields hkeys hforms =>
    refine .inr ⟨fields, rfl, hkeys, fun key hkey => ?_, fun f hf => ?_⟩
    · by_contra hnot
      have hnone : lookup (dict fields s) key = none := lookup_dict_none hnot
      have hd := missing_mem_detail hkey hnone
      rw [h.detail defaultSettings hs hs' hlast] at hd
      have hinput := quoted_whole hnot rfl (SecretRoute.quotes hd)
      exact hne (hinj hinput).symm
    by_cases hvalue : Constant f.2
    · exact .inl hvalue
    have hsilent : ∀ d ∈ route.detail (dict fields s), d.loc ≠ ["body", f.1] := by
      intro d hd hloc
      have hinput : d.input = f.2 s := quoted_value hkeys hf hloc (SecretRoute.quotes hd)
      rw [h.detail defaultSettings hs hs' hlast] at hd
      have hinput' : d.input = f.2 s' := quoted_value hkeys hf hloc (SecretRoute.quotes hd)
      have hinjf := (hforms f hf).constant_or_injective.resolve_left hvalue
      exact hne (hinjf (hinput'.symm.trans hinput))
    have hentry : (f.1, f.2) ∈ fields := hf
    rcases silent_entry hkeys hentry hsilent with ⟨t, ht, hroom⟩ | ⟨p, hp⟩
    · have hstr := (hforms f hf).eq_str hvalue ht
      rw [hstr] at ht
      have hsame : s = t := Json.str.inj ht
      refine .inr ⟨hstr, ?_⟩
      rcases hroom with ⟨hkey, hle⟩ | ⟨hroute, hkey, hle⟩
      · have hlength : n ≤ route.maxLength := by
          rw [← hs, hsame]
          exact hle
        refine .inl ⟨hkey, hlength, ?_⟩
        rcases Nat.lt_or_ge 751 n with hlong | hshort
        swap
        · exact .inl hshort
        cases route with
        | telegramBot =>
          have hmax : n ≤ 512 := hlength
          omega
        | credentials =>
          rw [hkey, hstr] at hentry
          exact .inr (h.refuses_long hkeys hforms hentry hlong hlength)
      · subst hroute
        rw [hkey, hstr] at hentry
        exact .inr ⟨rfl, hkey, by rw [← hs, hsame]; exact hle, h.refuses h8 hkeys hentry⟩
    · have hstr := (hforms f hf).eq_str hvalue hp
      rw [hstr] at hp
      exact (hprovider p (Json.str.inj hp)).elim

end GivenAway

/-- Exactly the bodies that keep the secret where it is not quoted are answered without it. -/
theorem secret_is_write_only_iff {route : SecretRoute} {body : String → Json} {n : Nat}
    (hform : Form body) (h8 : 8 ≤ n) : route.WriteOnly body n ↔ route.Guarded body n :=
  ⟨fun h => h.guarded hform h8, fun h => h.writeOnly (by omega)⟩

/-! ## A key without its provider -/

/-- A key and its name, without the provider it is for. -/
def untypedFields : List (String × (String → Json)) :=
  [("credential_name", fun _ => .str "api_key"), ("secret", .str)]

/-- A body in which a required field was left out. -/
def untypedKey : String → Json := fun secret => .obj (dict untypedFields secret)

/-- A body that has all that is required. -/
def typedKey : String → Json := fun secret =>
  .obj (dict [("provider_type", fun _ => .str "BITUNIX"),
    ("credential_name", fun _ => .str "api_key"), ("secret", .str)] secret)

theorem form_typedKey : Form typedKey := by
  refine .obj (by decide) fun f hf => ?_
  simp only [List.mem_cons, List.not_mem_nil, or_false] at hf
  rcases hf with rfl | rfl | rfl
  · exact .const _
  · exact .const _
  · exact .secret

theorem guarded_typedKey : SecretRoute.credentials.Guarded typedKey 20 := by
  refine .inr ⟨_, rfl, by decide, by decide, fun f hf => ?_⟩
  simp only [List.mem_cons, List.not_mem_nil, or_false] at hf
  rcases hf with rfl | rfl | rfl
  · exact .inl fun _ _ => rfl
  · exact .inl fun _ _ => rfl
  · exact .inr ⟨rfl, .inl ⟨rfl, by decide, .inl (by decide)⟩⟩

/-- A whole credential of twenty characters is never told. -/
theorem typed_key_is_write_only : SecretRoute.credentials.WriteOnly typedKey 20 :=
  (secret_is_write_only_iff form_typedKey (by decide)).mpr guarded_typedKey

theorem form_untypedKey : Form untypedKey := by
  refine .obj (by decide) fun f hf => ?_
  simp only [untypedFields, List.mem_cons, List.not_mem_nil, or_false] at hf
  rcases hf with rfl | rfl
  · exact .const _
  · exact .secret

/-- Without the provider, the whole body is quoted. -/
theorem untyped_key_is_told :
    ¬ ∀ (route : SecretRoute) (body : String → Json) (n : Nat), Form body → 8 ≤ n →
      route.WriteOnly body n := by
  intro h
  have hwrite := h .credentials untypedKey 8 form_untypedKey (by decide)
  have hdetail : SecretRoute.credentials.detail (dict untypedFields "aaaaaaaa") =
      SecretRoute.credentials.detail (dict untypedFields "bbbbaaaa") :=
    hwrite.detail defaultSettings (by decide) (by decide) (by decide)
  have hnot : "provider_type" ∉ untypedFields.map Prod.fst := by decide
  have hnone : lookup (dict untypedFields "aaaaaaaa") "provider_type" = none :=
    lookup_dict_none hnot
  have hmissing : missing (dict untypedFields "aaaaaaaa") "provider_type" ∈
      SecretRoute.credentials.detail (dict untypedFields "aaaaaaaa") :=
    missing_mem_detail (by decide) hnone
  rw [hdetail] at hmissing
  have hinput := quoted_whole hnot rfl (SecretRoute.quotes hmissing)
  have hsecret := congrArg (lookup · "secret") (Json.obj.inj hinput)
  exact absurd (Json.str.inj (Option.some.inj hsecret)) (by decide)

end VipChannel
