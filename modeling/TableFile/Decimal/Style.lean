import TableFile.Decimal.Shortest

namespace TableFile.Decimal

structure Style where
  positional : Int → Bool
  wholeEnd : String

namespace Style

def plain : Style where
  positional _ := true
  wholeEnd := ""

def detailed : Style where
  positional e := -4 ≤ e && e < 16
  wholeEnd := ".0"

def spread (style : Style) (digits : String) (exponent : Int) : String :=
  if 0 ≤ exponent then
    digits ++ "".pushn '0' exponent.toNat ++ style.wholeEnd
  else
    let places := (-exponent).toNat
    let cs := digits.toList
    if places < cs.length then
      let whole := cs.length - places
      String.ofList (cs.take whole) ++ "." ++ String.ofList (cs.drop whole)
    else "0." ++ "".pushn '0' (places - cs.length) ++ digits

def compact (digits : String) (first : Int) : String :=
  let cs := digits.toList
  let tail := if cs.length ≤ 1 then "" else "." ++ String.ofList (cs.drop 1)
  String.ofList (cs.take 1) ++ tail ++ "e" ++ toString first

def positive (style : Style) (n : Scaled) : String :=
  let digits := n.digits.repr
  let first := n.exponent + digits.length - 1
  if style.positional first then style.spread digits n.exponent else compact digits first

def write (style : Style) (bits : UInt64) : String :=
  let negative := bits >>> 63 = 1
  let exponent := (bits >>> 52 &&& 0x7FF).toNat
  let fraction := (bits &&& 0xFFFFFFFFFFFFF).toNat
  let sign := if negative then "-" else ""
  if exponent = 2047 then
    if fraction = 0 then sign ++ "inf" else "NaN"
  else if exponent = 0 then
    if fraction = 0 then sign ++ "0" ++ style.wholeEnd
    else sign ++ style.positive (Interval.around fraction (-1074) false).shortest
  else
    let narrow := fraction == 0 && decide (1 < exponent)
    sign ++ style.positive
      (Interval.around (0x10000000000000 + fraction) ((exponent : Int) - 1075) narrow).shortest

end Style

end TableFile.Decimal
