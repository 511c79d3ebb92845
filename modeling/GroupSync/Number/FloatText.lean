import GroupSync.Number.Shortest

/-!
# Floating-point numbers as text

Two ways to write a double in diagnostics.  Both write the shortest digits that read back and
always a decimal point or an exponent.  The mixed style goes over to an exponent of at least
two digits outside `1e-5 … 1e16`; the positional style never uses one.
-/

namespace GroupSync

namespace Number

/-- Which leading exponents are written without an exponent. -/
structure FloatStyle where
  /-- The leading digit of this weight still stands in a positional numeral. -/
  positional : Int → Bool

namespace FloatStyle

/-- Positional from `1e-5` up to but excluding `1e16`. -/
def mixed : FloatStyle :=
  ⟨fun leading => -5 ≤ leading && leading ≤ 15⟩

def plain : FloatStyle :=
  ⟨fun _ => true⟩

end FloatStyle

/-- The digits of a natural number without the zeros at its end. -/
def significantDigits (number : Nat) : List Char :=
  let digits := (Nat.toDigits 10 number).reverse.dropWhile (· == '0')
  digits.reverse

/-- Digits whose first one has the weight `10 ^ leading`, with a decimal point. -/
def positionalText (digits : List Char) (leading : Int) : List Char :=
  if leading < 0 then
    ['0', '.'] ++ List.replicate (-leading - 1).toNat '0' ++ digits
  else
    let whole := leading.toNat + 1
    if digits.length ≤ whole then
      digits ++ List.replicate (whole - digits.length) '0' ++ ['.', '0']
    else digits.take whole ++ '.' :: digits.drop whole

/-- Digits whose first one has the weight `10 ^ leading`, with an exponent. -/
def exponentText (digits : List Char) (leading : Int) : List Char :=
  let mantissa := match digits with
    | first :: second :: rest => first :: '.' :: second :: rest
    | short => short
  let exponent := Nat.toDigits 10 leading.natAbs
  let padded := if exponent.length < 2 then '0' :: exponent else exponent
  mantissa ++ ['e', if leading < 0 then '-' else '+'] ++ padded

def magnitudeText (style : FloatStyle) (value : Binary) : List Char :=
  if value.mantissa = 0 then ['0', '.', '0']
  else
    let decimal := value.shortest
    let leading := decimal.exponent + (Nat.toDigits 10 decimal.digits).length - 1
    let digits := significantDigits decimal.digits
    if style.positional leading then positionalText digits leading
    else exponentText digits leading

def floatText (style : FloatStyle) (value : Float) : String :=
  let bits := value.toBits
  if isFiniteBits bits then
    String.ofList ((if isNegativeBits bits then ['-'] else []) ++
      magnitudeText style (magnitude bits))
  else if value.isNaN then "NaN"
  else if isNegativeBits bits then "-inf"
  else "inf"

end Number

end GroupSync
