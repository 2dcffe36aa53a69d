/-!
# Quoted text

A quoted text stands between double quotes.  The quote itself, the backslash and
the usual control characters are written with a backslash; other characters that
would not show on their own are written by their number.
-/

namespace GrowthGrammar.Quoted

/-- The digits of a number to base sixteen, in lower case. -/
def hexDigits (n : Nat) : String :=
  String.ofList (Nat.toDigits 16 n)

/-- A character by its number. -/
def numbered (c : Char) : String :=
  "\\u\x7b" ++ hexDigits c.toNat ++ "\x7d"

/-- One character inside quotes. -/
def encodeChar (isVisible : Char → Bool) (c : Char) : String :=
  if c = '"' then "\\\""
  else if c = '\\' then "\\\\"
  else if c = '\n' then "\\n"
  else if c = '\r' then "\\r"
  else if c = '\t' then "\\t"
  else if c = '\x00' then "\\0"
  else if isVisible c then c.toString
  else numbered c

/-- A text between quotes; `isVisible` tells which characters show on their
own. -/
def encode (isVisible : Char → Bool) (text : String) : String :=
  "\"" ++ String.join (text.toList.map (encodeChar isVisible)) ++ "\""

end GrowthGrammar.Quoted
