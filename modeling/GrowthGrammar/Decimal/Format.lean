import GrowthGrammar.Decimal.Shortest

/-!
# Decimal text

How a decimal is laid out as text: positionally, or as one leading digit with an
exponent of ten.  A `NumberFormat` collects the decisions of one kind of text.
-/

namespace GrowthGrammar

namespace Decimal

/-- The significant digits as text. -/
def digitText (d : Decimal) : String :=
  Nat.repr d.digits

/-- The power of ten of the leading digit. -/
def magnitude (d : Decimal) : Int :=
  d.digitText.length - 1 + d.exponent

/-- A run of zeros. -/
def zeros (count : Nat) : String :=
  String.ofList (List.replicate count '0')

/-- The digits with `whole` of them before a point; nothing stands after the
digits if all of them are before it. -/
def split (digits : List Char) (whole : Nat) : String :=
  if digits.length ≤ whole then
    String.ofList digits
  else
    String.ofList (digits.take whole) ++ "." ++
      String.ofList (digits.drop whole)

/-- The decimal written out, without an exponent. -/
def positional (d : Decimal) : String :=
  let digits := d.digitText.toList
  let whole := digits.length + d.exponent
  if 0 ≤ d.exponent then
    d.digitText ++ zeros d.exponent.toNat
  else if 0 < whole then
    split digits whole.toNat
  else
    "0." ++ zeros (-whole).toNat ++ d.digitText

/-- The decimal with one digit before the point, times a power of ten. -/
def scientific (d : Decimal) : String :=
  split d.digitText.toList 1 ++ "e" ++ Int.repr d.magnitude

end Decimal

/-- The decisions of one kind of number text. -/
structure NumberFormat where
  /-- Whether numbers whose leading digit has this power of ten are written
  with an exponent. -/
  withExponent : Int → Bool
  /-- What stands after a positional number that is whole. -/
  wholeEnding : String

/-- Every number is written out, and a whole number has no point. -/
def NumberFormat.plain : NumberFormat :=
  { withExponent := fun _ => false
    wholeEnding := "" }

/-- Numbers from `10 ^ 16` on and below `10 ^ -4` are written with an exponent,
and a whole number ends in a point and a zero. -/
def NumberFormat.listing : NumberFormat :=
  { withExponent := fun magnitude => 16 ≤ magnitude ∨ magnitude < -4
    wholeEnding := ".0" }

namespace NumberFormat

/-- The text of a positive decimal. -/
def decimalText (format : NumberFormat) (d : Decimal) : String :=
  if format.withExponent d.magnitude then
    d.scientific
  else if 0 ≤ d.exponent then
    d.positional ++ format.wholeEnding
  else
    d.positional

/-- The text of a float: its sign, then its shortest decimal, or the name of a
value that is no finite number. -/
def text (format : NumberFormat) (x : Float) : String :=
  if x.isNaN then
    "NaN"
  else
    let sign := if x.toBits.toNat < Nat.pow 2 63 then "" else "-"
    if !x.isFinite then
      sign ++ "inf"
    else if x == 0.0 then
      sign ++ "0" ++ format.wholeEnding
    else
      sign ++ format.decimalText (Binary.ofFloat x).shortest

end NumberFormat

end GrowthGrammar
