/-!
Double-precision binary numbers. A finite number is a sign and `mantissa * 2 ^ exponent`; every
operation rounds the exact result once, to the nearest number, a half going to the even mantissa.
-/

namespace FsidRegistry

/-- A double-precision number. A finite one has a mantissa below `2 ^ 53` and an exponent between
`-1074` and `971`, and its mantissa is at least `2 ^ 52` unless the exponent is `-1074`. -/
inductive Binary64
  | nan
  | infinite (negative : Bool)
  | finite (negative : Bool) (mantissa : Nat) (exponent : Int)
deriving DecidableEq, Inhabited

namespace Binary64

/-- The quotient `num / den` rounded to the nearest whole number, a half to the even one. -/
def roundHalfEven (num den : Nat) : Nat :=
  let q := num / den
  let twice := 2 * (num % den)
  if den < twice || (twice == den && q % 2 == 1) then q + 1 else q

/-- `2 ^ e` as a numerator and a denominator. -/
def powerOfTwo (e : Int) : Nat × Nat :=
  if 0 ≤ e then (Nat.pow 2 e.toNat, 1) else (1, Nat.pow 2 (-e).toNat)

/-- The exponent at which the positive ratio `num / den` has a mantissa of 53 bits, or `-1074` if that
is larger. -/
def exponentOf (num den : Nat) : Int :=
  let k : Int := (num.log2 : Int) - den.log2
  let (up, down) := powerOfTwo k
  let lead := if num * down < den * up then k - 1 else k
  max (lead - 52) (-1074)

/-- The number nearest to `num / den`, with the given sign. -/
def ofRatio (negative : Bool) (num den : Nat) : Binary64 :=
  if num == 0 then .finite negative 0 (-1074)
  else
    let e := exponentOf num den
    let (up, down) := powerOfTwo e
    let m := roundHalfEven (num * down) (den * up)
    let (m, e) := if m == Nat.pow 2 53 then (Nat.pow 2 52, e + 1) else (m, e)
    if 971 < e then .infinite negative else .finite negative m e

/-- The number nearest to a natural number. -/
def ofNat (n : Nat) : Binary64 := ofRatio false n 1

def one : Binary64 := ofNat 1

/-- The size of a finite number as a numerator and a denominator. -/
def ratio (mantissa : Nat) (exponent : Int) : Nat × Nat :=
  let (up, down) := powerOfTwo exponent
  (mantissa * up, down)

/-- The product of two numbers. -/
def mul : Binary64 → Binary64 → Binary64
  | .nan, _ | _, .nan => .nan
  | .infinite s, .infinite t => .infinite (s != t)
  | .infinite s, .finite t m _ | .finite t m _, .infinite s =>
    if m == 0 then .nan else .infinite (s != t)
  | .finite s m e, .finite t n f =>
    let (a, b) := ratio m e
    let (c, d) := ratio n f
    ofRatio (s != t) (a * c) (b * d)

/-- The sum of two numbers that are not negative. -/
def addNonneg : Binary64 → Binary64 → Binary64
  | .nan, _ | _, .nan => .nan
  | .infinite s, _ | _, .infinite s => .infinite s
  | .finite _ m e, .finite _ n f =>
    let (a, b) := ratio m e
    let (c, d) := ratio n f
    ofRatio false (a * d + c * b) (b * d)

/-- Whether a number is less than `1`; not-a-number is not. -/
def isBelowOne : Binary64 → Bool
  | .nan => false
  | .infinite negative => negative
  | .finite negative m e =>
    let (a, b) := ratio m e
    negative || a < b

/-- The larger of a number and `1`, which is `1` for not-a-number. -/
def atLeastOne (x : Binary64) : Binary64 :=
  if x == .nan || x.isBelowOne then one else x

end Binary64

end FsidRegistry
