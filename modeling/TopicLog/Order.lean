import TopicLog.Message

/-!
Orders, the payload of the demonstration topics: a customer buys a quantity of an article at a price
per piece.
-/
namespace TopicLog

structure Order where
  customer : UInt32
  sku : String
  quantity : UInt32
  cents : UInt64
  deriving DecidableEq

namespace Order

def total? (order : Order) : Option UInt64 :=
  let total := order.cents.toNat * order.quantity.toNat
  if total < UInt64.size then some (.ofNat total) else none

/-- One line for people. There is none for an order whose total has no 64-bit value. -/
def describe? (order : Order) : Option String :=
  order.total?.map fun total =>
    toString order.quantity.toNat ++ " x " ++ order.sku ++ " for customer " ++
      toString order.customer.toNat ++ " (" ++ toString (total.toNat / 100) ++ "." ++
      String.ofList (Decimal.padded 2 (total.toNat % 100)) ++ ")"

end Order
end TopicLog
