import FsidRegistry.Binary64.Basic
import FsidRegistry.Number.Decimal

/-!
Decimal text of double-precision numbers: reading it, with one rounding; the shortest digits that
read back; and the two layouts of those digits.
-/

namespace FsidRegistry.Binary64

/-- The number nearest to `digits * 10 ^ power`. Powers far outside the range of the numbers are
cut, which changes no result. -/
def ofDecimal (negative : Bool) (digits : Nat) (power : Int) : Binary64 :=
  if digits == 0 then .finite negative 0 (-1074)
  else if 310 < power then .infinite negative
  else
    let width : Int := (Nat.toDigits 10 digits).length
    if width + power < -330 then .finite negative 0 (-1074)
    else if 0 ≤ power then ofRatio negative (digits * Nat.pow 10 power.toNat) 1
    else ofRatio negative digits (Nat.pow 10 (-power).toNat)

/-- Reads the exponent after its letter: digits with an optional sign. -/
def readExponent? (cs : List Char) : Option Int := Number.readSigned? cs

/-- Reads digits with an optional point and an optional exponent. -/
def readDigits? (negative : Bool) (cs : List Char) : Option Binary64 := do
  let isMark (c : Char) : Bool := c == 'e' || c == 'E'
  let body := cs.takeWhile (!isMark ·)
  let power ← match cs.dropWhile (!isMark ·) with
    | [] => some 0
    | _ :: r => readExponent? r
  let whole := body.takeWhile (· != '.')
  let frac := (body.dropWhile (· != '.')).drop 1
  if whole.isEmpty && frac.isEmpty || !(whole ++ frac).all Char.isDigit then none
  else some (ofDecimal negative (Number.ofDigits (whole ++ frac)) (power - frac.length))

/-- Reads a number without its sign: digits, or a word for infinity or not-a-number in any case. -/
def readMagnitude? (negative : Bool) (cs : List Char) : Option Binary64 :=
  let word := String.ofList (cs.map Char.toLower)
  if word == "inf" || word == "infinity" then some (.infinite negative)
  else if word == "nan" then some .nan
  else readDigits? negative cs

/-- Reads a number with an optional sign. -/
def read? (s : String) : Option Binary64 :=
  match s.toList with
  | '-' :: cs => readMagnitude? true cs
  | '+' :: cs => readMagnitude? false cs
  | cs => readMagnitude? false cs

/-! ### Shortest digits -/

/-- The power of ten `k` with `10 ^ (k - 1) ≤ num / den < 10 ^ k`. -/
def decimalMagnitude (num den : Nat) : Int :=
  if den ≤ num then (Nat.toDigits 10 (num / den)).length
  else
    let below := (Nat.toDigits 10 (den / num)).length
    -- `num / den` lies in `(10 ^ -below, 10 ^ (1 - below)]`
    if den == num * Nat.pow 10 (below - 1) then 2 - (below : Int) else 1 - below

/-- The digits of the shortest decimal that reads back as `mantissa * 2 ^ exponent`, the nearest one
if there are several, and the power of ten that the point stands before. -/
def shortest (mantissa : Nat) (exponent : Int) : List Char × Int :=
  -- the number and the borders of the reals that round to it, all in units of `den`
  let (up, den) := powerOfTwo (exponent - 2)
  let low := if mantissa == Nat.pow 2 52 && -1074 < exponent then 4 * mantissa - 1 else 4 * mantissa - 2
  let (low, mid, high) := (low * up, 4 * mantissa * up, (4 * mantissa + 2) * up)
  let even := mantissa % 2 == 0
  let k := decimalMagnitude mid den
  let grid (n : Nat) : Nat × Nat :=
    let unit := k - n
    if 0 ≤ unit then (Nat.pow 10 unit.toNat, 1) else (1, Nat.pow 10 (-unit).toNat)
  let candidate (n : Nat) : Option Nat :=
    let (g, d) := grid n
    -- a grid point `x` is `x * g / d`
    let floor := mid * d / (den * g)
    let above (x : Nat) : Bool := if even then low * d ≤ x * g * den else low * d < x * g * den
    let below (x : Nat) : Bool := if even then x * g * den ≤ high * d else x * g * den < high * d
    match above floor, below (floor + 1) with
    | true, true =>
      let rest := mid * d - floor * g * den
      some (if g * den ≤ 2 * rest then floor + 1 else floor)
    | true, false => some floor
    | false, true => some (floor + 1)
    | false, false => none
  let found := ((List.range 17).findSome? fun i => (candidate (i + 1)).map (i + 1, ·)).getD (17, 0)
  let digits := Nat.toDigits 10 found.2
  let trimmed := (digits.reverse.dropWhile (· == '0')).reverse
  (trimmed, k - found.1 + digits.length)

/-! ### Layouts -/

/-- The sign, written for negative numbers only. -/
def signText (negative : Bool) : List Char := if negative then ['-'] else []

/-- Digits written without an exponent, with at least `places` digits after the point. -/
def positional (digits : List Char) (point : Int) (places : Nat) : List Char :=
  let whole :=
    if point ≤ 0 then ['0']
    else digits.take point.toNat ++ List.replicate (point.toNat - digits.length) '0'
  let frac :=
    if point ≤ 0 then
      if digits.isEmpty then [] else List.replicate (-point).toNat '0' ++ digits
    else digits.drop point.toNat
  let frac := frac ++ List.replicate (places - frac.length) '0'
  if frac.isEmpty then whole else whole ++ '.' :: frac

/-- Digits written with one digit before the point and an exponent. -/
def scientific (digits : List Char) (point : Int) : List Char :=
  let mantissa := match digits with
    | [] => ['0']
    | [d] => [d]
    | d :: r => d :: '.' :: r
  mantissa ++ 'e' :: (toString (point - 1)).toList

/-- The text with at least one place after the point; numbers from `10 ^ 16` on and below
`10 ^ -4` have an exponent. -/
def text : Binary64 → String
  | .nan => "NaN"
  | .infinite negative => String.ofList (signText negative ++ ['i', 'n', 'f'])
  | .finite negative m e =>
    if m == 0 then String.ofList (signText negative ++ ['0', '.', '0'])
    else
      let (digits, point) := shortest m e
      let body :=
        if 16 < point || point < -3 then scientific digits point else positional digits point 1
      String.ofList (signText negative ++ body)

/-- The text that never has an exponent, with at least one place after the point. -/
def plainText : Binary64 → String
  | .nan => "NaN"
  | .infinite negative => String.ofList (signText negative ++ ['i', 'n', 'f'])
  | .finite negative m e =>
    if m == 0 then String.ofList (signText negative ++ ['0', '.', '0'])
    else
      let (digits, point) := shortest m e
      String.ofList (signText negative ++ positional digits point 1)

end FsidRegistry.Binary64
