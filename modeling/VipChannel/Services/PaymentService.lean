/-
  VipChannel.Services.PaymentService

  Money arrives (services/payment_service.py, schemas/payment.py), by the payment webhook
  (adapters/web/routers/webhooks.py).

  The request is recorded as the columns take it: neither the service nor a constraint of
  the table looks for its hash among those recorded before.
-/
import VipChannel.Persistence.Columns
import VipChannel.Persistence.Repositories

namespace VipChannel

open Lib
open Program (raising)

structure PaymentIngestRequest where
  /-- Unique transaction hash or ID. -/
  txHash : String
  userId : RowId
  amount : Decimal
  currency : String := "USDT"
  deriving DecidableEq

/-- The bounds of the request's fields.  Pydantic takes no infinity and no NaN for an amount. -/
def PaymentIngestRequest.wellFormed (payload : PaymentIngestRequest) : Bool :=
  decide (1 ≤ payload.txHash.length) &&
    (match payload.amount with
      | .finite negative coeff _ => !negative && decide (0 < coeff)
      | .infinity _ | .nan _ => false) &&
    decide (2 ≤ payload.currency.length ∧ payload.currency.length ≤ 10)

structure PaymentIngestResponse where
  status : String
  paymentId : RowId
  txHash : String
  deriving DecidableEq

def requestValidationError : PyError := ⟨.other "RequestValidationError", ""⟩

namespace PaymentProcessingService

/-- The request as the columns keep it. -/
def paymentColumns (payload : PaymentIngestRequest) : Except PyError PaymentIngestRequest := do
  let txHash ← stringColumn 255 payload.txHash
  let amount ← numericColumn payload.amount
  let currency ← stringColumn 10 payload.currency
  return { payload with txHash, amount, currency }

def processPayment (tenantId : TenantId) (payload : PaymentIngestRequest) :
    App PaymentIngestResponse := do
  let id ← uuid4
  -- `save` flushes the record to columns that may have no room for it.
  let stored ← raising (paymentColumns payload)
  let record ← saveNew .paymentRecords (fun r => r.id == id)
    { id, tenantId, userId := stored.userId, txHash := stored.txHash, amount := stored.amount
      currency := stored.currency, status := "PROCESSED" }
  return { status := record.status, paymentId := record.id, txHash := record.txHash }

end PaymentProcessingService

end VipChannel
