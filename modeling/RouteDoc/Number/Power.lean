/-! Powers of the two bases that numbers are written in. -/

namespace RouteDoc

def pow2 (e : Nat) : Nat := Nat.pow 2 e

def pow10 (e : Nat) : Nat := Nat.pow 10 e

theorem pow2_zero : pow2 0 = 1 := rfl

theorem pow2_succ (e : Nat) : pow2 (e + 1) = pow2 e * 2 := rfl

theorem pow2_pos (e : Nat) : 0 < pow2 e := Nat.pow_pos (by decide)

theorem pow10_pos (e : Nat) : 0 < pow10 e := Nat.pow_pos (by decide)

end RouteDoc
