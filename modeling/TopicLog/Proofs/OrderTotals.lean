import TopicLog.Proofs.DisplayedTimestamps
import TopicLog.Proofs.OrderMessages

/-!
The price of an order. It is exact, and displayed to the cent, as long as 64 bits hold it. Both numbers
of the product may be as large as their types allow, so orders are read whose price 64 bits do not hold;
these have neither a price nor a display.
-/
namespace TopicLog

theorem Decimal.padded_one (number : Nat) : padded 1 number = Nat.toDigits 10 number := by
  have some : 0 < (Nat.toDigits 10 number).length := List.length_pos_iff.mpr Nat.toDigits_ne_nil
  rw [padded, Nat.sub_eq_zero_of_le some, List.replicate_zero, List.nil_append]

namespace Order

/-- The price in cents, whether or not 64 bits hold it. -/
def price (order : Order) : Nat := order.cents.toNat * order.quantity.toNat

/-- The total is the price, and the amount at the end of the display, whole units and two digits of
cents, is the price as well. -/
structure Exact (order : Order) : Prop where
  total : order.total?.map UInt64.toNat = some order.price
  display : ∃ units cents unitDigits centDigits,
    Decimal.Digits 1 units unitDigits ∧ Decimal.FixedDigits 2 cents centDigits ∧
    100 * units + cents = order.price ∧
    order.describe? = some (toString order.quantity.toNat ++ " x " ++ order.sku ++ " for customer " ++
      toString order.customer.toNat ++ " (" ++ String.ofList unitDigits ++ "." ++
      String.ofList centDigits ++ ")")

theorem total_of_fits {order : Order} (fits : order.price < UInt64.size) :
    order.total? = some (.ofNat order.price) :=
  if_pos fits

theorem total_of_exceeds {order : Order} (exceeds : UInt64.size ≤ order.price) :
    order.total? = none :=
  if_neg (Nat.not_lt.mpr exceeds)

theorem exact_of_fits {order : Order} (fits : order.price < UInt64.size) : order.Exact := by
  have total := total_of_fits fits
  have value : (UInt64.ofNat order.price).toNat = order.price := UInt64.toNat_ofNat_of_lt' fits
  constructor
  · rw [total, Option.map_some, value]
  · refine ⟨order.price / 100, order.price % 100, Nat.toDigits 10 (order.price / 100),
      Decimal.padded 2 (order.price % 100), ?_, ?_, Nat.div_add_mod _ _, ?_⟩
    · have units := Decimal.Digits.of_padded Nat.one_pos (order.price / 100)
      rwa [Decimal.padded_one] at units
    · exact .of_padded Nat.two_pos (Nat.mod_lt _ (by decide))
    · rw [describe?, total, Option.map_some, value]
      rfl

theorem fits_of_exact {order : Order} (exact : order.Exact) : order.price < UInt64.size := by
  by_contra exceeds
  have total := exact.total
  rw [total_of_exceeds (Nat.not_lt.mp exceeds)] at total
  cases total

/-- The total and the display of an order are exact if and only if 64 bits hold its price; otherwise
there is neither. Every order is read from some payload. -/
theorem order_totals_exact_iff (order : Order) :
    (order.Exact ↔ order.price < UInt64.size) ∧
      ((order.total? = none ∧ order.describe? = none) ↔ UInt64.size ≤ order.price) ∧
      ∃ payload, ofJson payload = .ok order := by
  refine ⟨⟨fits_of_exact, exact_of_fits⟩, ?_, order.toJson, order.ofJson_toJson⟩
  constructor
  · rintro ⟨missing, -⟩
    by_contra fits
    rw [total_of_fits (Nat.not_le.mp fits)] at missing
    cases missing
  · intro exceeds
    have missing := total_of_exceeds exceeds
    exact ⟨missing, by rw [describe?, missing]; rfl⟩

/-- Two pieces at the greatest price for one are read as an order, but no total is exact for them. -/
theorem greatest_price_has_no_total :
    ¬ ∀ (payload : Bytes) (order : Order), ofJson payload = .ok order → order.Exact := by
  intro always
  have read : ofJson (Utf8.encode
      "\x7b\"customer\":1,\"sku\":\"s\",\"quantity\":2,\"cents\":18446744073709551615\x7d") =
        .ok ⟨1, "s", 2, 18446744073709551615⟩ := by
    decide +kernel
  exact absurd (fits_of_exact (always _ _ read)) (by decide)

end Order
end TopicLog
