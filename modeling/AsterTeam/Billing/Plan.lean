import AsterTeam.AuthCore
import AsterTeam.Billing.Money

/-! Prices of public models and the price that a request is admitted with.
The selected price is frozen into the reservation, so that a later change of the plan does
not change what the request costs.
-/

namespace AsterTeam

structure ImageSpec where
  (size quality : String)
  deriving DecidableEq

structure ImageUnitPrice where
  spec : ImageSpec
  unitPrice : Money
  deriving DecidableEq

inductive RateCard
  | tokens (prices : TokenPrices)
  | contextTokens (inputThreshold : UInt64) (short long : TokenPrices)
  | images (unitPrices : List ImageUnitPrice)
  deriving DecidableEq

structure SelectedPrice where
  (publicModel version tier : String)
  currency : Currency
  rate : RateCard
  deriving DecidableEq

structure FrozenBillingContext where
  selectedPrice : SelectedPrice
  settlementCurrency : Currency
  usdToCny : Option ExchangeRate
  selectedAt : String
  referenceNanos : Int64
  deriving DecidableEq

end AsterTeam
