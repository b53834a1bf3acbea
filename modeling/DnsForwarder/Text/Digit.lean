/-!
# Digits

The digits of numbers in a radix of at most sixteen.
-/

namespace DnsForwarder.Text

/-- The value of a digit in a radix of at most sixteen; letters may have either case. -/
def digit? (radix : Nat) (c : Char) : Option Nat :=
  let n := c.toNat
  let value :=
    if 0x30 ≤ n ∧ n ≤ 0x39 then n - 0x30
    else if 0x61 ≤ n ∧ n ≤ 0x66 then n - 0x61 + 10
    else if 0x41 ≤ n ∧ n ≤ 0x46 then n - 0x41 + 10
    else radix
  if value < radix then some value else none

theorem digit?_lt {radix : Nat} {c : Char} {value : Nat} (h : digit? radix c = some value) :
    value < radix := by
  simp only [digit?, Option.ite_none_right_eq_some, Option.some.injEq] at h
  exact h.2 ▸ h.1

end DnsForwarder.Text
