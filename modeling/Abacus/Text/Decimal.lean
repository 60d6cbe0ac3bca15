/-!
# Decimal numerals

Numbers are written in base ten, without leading zeros, and with a minus sign
in front of a negative one.  The digits are those of `Nat.toDigits`.
-/

namespace Abacus.Text.Decimal

/-- The numeral of an integer. -/
def ofInt : Int → List Char
  | .ofNat n => Nat.toDigits 10 n
  | .negSucc n => '-' :: Nat.toDigits 10 (n + 1)

/-- The text of a natural number. -/
def nat (n : Nat) : String :=
  String.ofList (Nat.toDigits 10 n)

/-- The text of an integer. -/
def int (n : Int) : String :=
  String.ofList (ofInt n)

end Abacus.Text.Decimal
