import DataShape.Number.Shortest

/-!
# Number texts

A `NumberStyle` records how the shortest digits of a double are laid out: which exponents are
written out in positions, whether a whole number keeps `.0`, how an exponent is signed and which
way ties go. Three styles are in use: `plain` for messages, `json` for JSON text and `quoted` for
the detailed form of a value.
-/

namespace DataShape

/-- The layout of the digits of a double. -/
structure NumberStyle where
  /-- Whether a number whose leading digit stands for `10^e` is written without an exponent. -/
  positional : Int → Bool
  /-- Whether `.0` follows a whole number written in positions. -/
  keepsPoint : Bool
  /-- Whether a positive exponent is signed. -/
  signsExponent : Bool
  tie : TieRule

namespace NumberStyle

/-- Messages: never an exponent and no `.0`, a half goes up. -/
def plain : NumberStyle where
  positional _ := true
  keepsPoint := false
  signsExponent := false
  tie := .up

/-- JSON text: positions from `10^-5` up to `10^16`, else a signed exponent, a half goes to even. -/
def json : NumberStyle where
  positional e := -5 ≤ e && e < 16
  keepsPoint := true
  signsExponent := true
  tie := .toEven

/-- The detailed form: positions from `10^-4` up to `10^16`, a half goes up. -/
def quoted : NumberStyle where
  positional e := -4 ≤ e && e < 16
  keepsPoint := true
  signsExponent := false
  tie := .up

/-- The digits of a positive decimal in positions. -/
def layoutPositions (style : NumberStyle) (d : Decimal) : List Char :=
  let n := d.digits.length
  if d.point ≤ 0 then
    '0' :: '.' :: (List.replicate (-d.point).toNat '0' ++ d.digits)
  else if (n : Int) ≤ d.point then
    d.digits ++ List.replicate (d.point - n).toNat '0'
      ++ (if style.keepsPoint then ['.', '0'] else [])
  else
    d.digits.take d.point.toNat ++ '.' :: d.digits.drop d.point.toNat

/-- The digits of a positive decimal with an exponent. -/
def layoutExponent (style : NumberStyle) (d : Decimal) : List Char :=
  let e := d.point - 1
  let sign := if e < 0 then ['-'] else if style.signsExponent then ['+'] else []
  let fraction := match d.digits.drop 1 with
    | [] => []
    | rest => '.' :: rest
  d.digits.take 1 ++ fraction ++ 'e' :: (sign ++ Nat.toDigits 10 e.natAbs)

/-- The text of a positive decimal. -/
def layout (style : NumberStyle) (d : Decimal) : List Char :=
  if style.positional (d.point - 1) then style.layoutPositions d else style.layoutExponent d

/-- The text of a finite double. -/
def ofFinite (style : NumberStyle) (x : FiniteDouble) : String :=
  let sign := if x.neg then ['-'] else []
  let body := if x.mant = 0 then '0' :: (if style.keepsPoint then ['.', '0'] else [])
    else style.layout (x.shortest style.tie)
  String.ofList (sign ++ body)

/-- The text of a double, NaN and the infinities having names. -/
def text (style : NumberStyle) : Binary64 → String
  | .nan => "NaN"
  | .infinity neg => if neg then "-inf" else "inf"
  | .finite x => style.ofFinite x

end NumberStyle

end DataShape
