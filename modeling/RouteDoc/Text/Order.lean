import RouteDoc.Lexicographic
import RouteDoc.Text.Basic

/-! The order of texts, by the code points of their characters. -/

namespace RouteDoc.Text

/-- Whether a character comes before another or is the same. -/
def charLe (c d : Char) : Bool := c.toNat ≤ d.toNat

/-- Whether a text comes before another or is the same. -/
def le : Text → Text → Bool := lexLe charLe

theorem charLe_total (c d : Char) : (charLe c d || charLe d c) = true := by
  simpa [charLe] using Nat.le_total c.toNat d.toNat

theorem charLe_antisymm (c d : Char) (hcd : charLe c d = true) (hdc : charLe d c = true) :
    c = d := by
  simp only [charLe, decide_eq_true_eq] at hcd hdc
  exact Char.toNat_inj.mp (Nat.le_antisymm hcd hdc)

theorem charLe_trans (c d e : Char) (hcd : charLe c d = true) (hde : charLe d e = true) :
    charLe c e = true := by
  simp only [charLe, decide_eq_true_eq] at hcd hde ⊢
  exact Nat.le_trans hcd hde

theorem le_total (s t : Text) : (le s t || le t s) = true := lexLe_total charLe_total s t

theorem le_antisymm (s t : Text) (hst : le s t = true) (hts : le t s = true) : s = t :=
  lexLe_antisymm charLe_antisymm hst hts

theorem le_trans (s t u : Text) (hst : le s t = true) (htu : le t u = true) : le s u = true :=
  lexLe_trans charLe_trans charLe_antisymm hst htu

end RouteDoc.Text
