/-
  VipChannel.Domain.Enums

  Domain vocabulary (domain/enums.py).  Each enumeration is a `StrEnum`; `value`
  is given where the code reads it.
-/
import Mathlib

namespace VipChannel

inductive Market where
  | crypto
  | forex
  deriving DecidableEq

def Market.value : Market → String
  | crypto => "CRYPTO"
  | forex => "FOREX"

/-- `Market(raw)`; `none` is a ValueError. -/
def Market.ofValue? (raw : String) : Option Market :=
  [crypto, forex].find? fun m => m.value == raw

inductive AccessType where
  | referral
  | paid
  | trial
  deriving DecidableEq

inductive SubscriptionStatus where
  | pending
  | active
  | expired
  | cancelled
  deriving DecidableEq

inductive MembershipStatus where
  | pending
  | invited
  | active
  | suspended
  | expired
  | revoked
  deriving DecidableEq

inductive ReferralAccountStatus where
  | unverified
  | verified
  | rejected
  deriving DecidableEq

inductive ComplianceState where
  | compliant
  | warning
  | nonCompliant
  | suspended
  | revoked
  | providerUnavailable
  | verificationPending
  deriving DecidableEq

inductive ProviderType where
  | bitunix
  | eplanet
  | telegram
  deriving DecidableEq

def ProviderType.value : ProviderType → String
  | bitunix => "BITUNIX"
  | eplanet => "EPLANET"
  | telegram => "TELEGRAM"

inductive JobRunState where
  | running
  | succeeded
  | failed
  deriving DecidableEq

end VipChannel
