/-!
# Fixed decimals

A double is a whole number times a power of two, so its decimal expansion is finite and can be cut
to a number of places exactly.
-/

namespace DnsForwarder.Text

/-- The whole number nearest to a quotient; of two that are equally near, the even one. -/
def roundDiv (numerator denominator : Nat) : Nat :=
  let quotient := numerator / denominator
  let twice := 2 * (numerator % denominator)
  if denominator < twice ∨ (twice = denominator ∧ quotient % 2 = 1) then quotient + 1 else quotient

/-- The significand and exponent of a finite, non-negative double: its value is the first times two
to the second. -/
def dyadic (value : Float) : Nat × Int :=
  let bits := value.toBits.toNat
  let exponent : Nat := bits / Nat.pow 2 52 % Nat.pow 2 11
  let fraction := bits % Nat.pow 2 52
  if exponent = 0 then (fraction, -1074) else (fraction + Nat.pow 2 52, (exponent : Int) - 1075)

/-- A finite, non-negative double with a number of decimal places. -/
def fixed (places : Nat) (value : Float) : String :=
  let (significand, exponent) := dyadic value
  let unit := Nat.pow 10 places
  let scaled :=
    if 0 ≤ exponent then significand * Nat.pow 2 exponent.toNat * unit
    else roundDiv (significand * unit) (Nat.pow 2 (-exponent).toNat)
  let whole := toString (scaled / unit)
  let decimals := (toString (scaled % unit)).toList
  let padding := List.replicate (places - decimals.length) '0'
  if places = 0 then whole else s!"{whole}.{String.ofList (padding ++ decimals)}"

/-- Rounding is off by at most half a unit. -/
theorem roundDiv_le (numerator denominator : Nat) (positive : 0 < denominator) :
    2 * (roundDiv numerator denominator * denominator) ≤ 2 * numerator + denominator := by
  have split := Nat.div_add_mod numerator denominator
  have small := Nat.mod_lt numerator positive
  have comm := Nat.mul_comm denominator (numerator / denominator)
  unfold roundDiv
  simp only
  split
  · rw [Nat.add_mul, Nat.one_mul]; omega
  · omega

end DnsForwarder.Text
