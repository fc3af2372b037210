/-
  VipChannel.Web.AdminRequests

  Request bodies of the admin surface that carry a secret
  (adapters/web/schemas/admin_schemas.py), as the framework validates them.

  A body is the value `json.loads` makes of it; the entries of a dict have distinct keys.
  What does not validate is answered 422 with the framework's own account of it, in which
  every error quotes the offending input: the whole body for a missing field, the value for
  a constraint that fails.  `NaN` and the infinities are no JSON and are left aside.
-/
import VipChannel.Lib.Json
import VipChannel.Runs.Isolation

namespace VipChannel

open Lib

/-! ## What the framework says of a body -/

/-- One entry of the `detail` of a 422. -/
structure ErrorDetails where
  type : String
  loc : List String
  msg : String
  input : Json
  ctx : List (String × Json) := []

/-- What a request is answered with, if the route does not raise. -/
inductive HttpResponse (α : Type) where
  | ok (content : α)
  | unprocessable (detail : List ErrorDetails)

namespace Validation

/-- A value, or what is wrong with it. -/
abbrev Validated (α : Type) := Except (List ErrorDetails) α

/-- What is wrong. -/
def errors {α : Type} : Validated α → List ErrorDetails
  | .ok _ => []
  | .error detail => detail

/-- The value of a key, if the dict has it. -/
def lookup (fields : List (String × Json)) (key : String) : Option Json :=
  (fields.find? fun f => f.1 == key).map Prod.snd

def missing (fields : List (String × Json)) (field : String) : ErrorDetails where
  type := "missing"
  loc := ["body", field]
  msg := "Field required"
  input := .obj fields

/-- `ProviderType`. -/
def providerType (field : String) (value : Json) : Validated ProviderType :=
  let unknown : ErrorDetails := {
    type := "enum"
    loc := ["body", field]
    msg := "Input should be 'BITUNIX', 'EPLANET' or 'TELEGRAM'"
    input := value
    ctx := [("expected", .str "'BITUNIX', 'EPLANET' or 'TELEGRAM'")] }
  match value with
  | .str text =>
    match [ProviderType.bitunix, .eplanet, .telegram].find? fun p => p.value == text with
    | some p => .ok p
    | none => .error [unknown]
  | _ => .error [unknown]

/-- `str`, with `Field(min_length=1, max_length=maxLength)`. -/
def text (maxLength : Nat) (field : String) (value : Json) : Validated String :=
  match value with
  | .str text =>
    if text.length < 1 then
      .error [{
        type := "string_too_short"
        loc := ["body", field]
        msg := "String should have at least 1 character"
        input := value
        ctx := [("min_length", .int 1)] }]
    else if maxLength < text.length then
      .error [{
        type := "string_too_long"
        loc := ["body", field]
        msg := "String should have at most " ++ toString maxLength ++ " characters"
        input := value
        ctx := [("max_length", .int maxLength)] }]
    else .ok text
  | _ => .error [{
      type := "string_type"
      loc := ["body", field]
      msg := "Input should be a valid string"
      input := value }]

/-- A required field. -/
def required {α : Type} (check : String → Json → Validated α) (fields : List (String × Json))
    (field : String) : Validated α :=
  match lookup fields field with
  | some value => check field value
  | none => .error [missing fields field]

/-- `extra="forbid"`. -/
def extras (fields : List (String × Json)) (known : List String) : List ErrorDetails :=
  (fields.filter fun f => !known.contains f.1).map fun f => {
    type := "extra_forbidden"
    loc := ["body", f.1]
    msg := "Extra inputs are not permitted"
    input := f.2 }

/-- A body that is no dict. -/
def notAnObject (body : Json) : ErrorDetails where
  type := "model_attributes_type"
  loc := ["body"]
  msg := "Input should be a valid dictionary or object to extract fields from"
  input := body

end Validation

open Validation

/-- All errors are told, those of the fields before those of what is too much. -/
def CredentialUpsertRequest.validate (body : Json) : Validated CredentialUpsertRequest :=
  match body with
  | .obj fields =>
    let type := required Validation.providerType fields "provider_type"
    let name := required (text 100) fields "credential_name"
    let secret := required (text 2048) fields "secret"
    let extra := extras fields ["provider_type", "credential_name", "secret"]
    match type, name, secret, extra with
    | .ok providerType, .ok credentialName, .ok secret, [] =>
      .ok { providerType, credentialName, secret }
    | _, _, _, _ => .error (errors type ++ errors name ++ errors secret ++ extra)
  | _ => .error [notAnObject body]

def BotConfigRequest.validate (body : Json) : Validated BotConfigRequest :=
  match body with
  | .obj fields =>
    let token := required (text 512) fields "bot_token"
    let extra := extras fields ["bot_token"]
    match token, extra with
    | .ok botToken, [] => .ok { botToken }
    | _, _ => .error (errors token ++ extra)
  | _ => .error [notAnObject body]

/-! ## The routes that take a secret -/

/-- The routes of the admin surface that a secret is sent to. -/
inductive SecretRoute where
  | credentials
  | telegramBot
  deriving DecidableEq

namespace SecretRoute

/-- The field the secret is in. -/
def field : SecretRoute → String
  | credentials => "secret"
  | telegramBot => "bot_token"

/-- The fields that have to be there besides it. -/
def others : SecretRoute → List String
  | credentials => ["provider_type", "credential_name"]
  | telegramBot => []

def maxLength : SecretRoute → Nat
  | credentials => 2048
  | telegramBot => 512

/-- The request a body is, if it is one. -/
def operation (body : Json) : SecretRoute → Validated Operation
  | credentials => .upsertCredential <$> CredentialUpsertRequest.validate body
  | telegramBot => .upsertBot <$> BotConfigRequest.validate body

end SecretRoute

/-- `PUT` of a body. -/
def SecretRoute.put (route : SecretRoute) (key : EncryptionKey) (S : Settings) (A : TenantId)
    (body : Json) : App (HttpResponse Response) :=
  match route.operation body with
  | .ok op => HttpResponse.ok <$> op.program key S A
  | .error detail => pure (.unprocessable detail)

end VipChannel
