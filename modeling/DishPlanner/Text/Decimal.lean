/-!
# Shortest decimals of binary floating-point numbers

A finite 64-bit floating-point number is written with the fewest digits that
still round to it.  `Decimal.shortest` finds them in exact arithmetic: for one,
two, … digits it looks at the two decimals around the number and takes the first
grid on which one of them lies in the interval that rounds to the number.
`Decimal.text` then decides between positional and scientific notation.
-/

namespace DishPlanner.Text

/-- The decimal `digits · 10 ^ exponent`. -/
structure Decimal where
  digits : Nat
  exponent : Int
deriving DecidableEq, Repr

/-- The number `significand · 2 ^ exponent`. -/
structure Binary where
  significand : Nat
  exponent : Int
deriving DecidableEq, Repr

def tenTo (exponent : Nat) : Nat := Nat.pow 10 exponent

namespace Binary

/-- The leading bit of a significand, which the bits of a number leave out. -/
def leadingBit : Nat := 0x10000000000000

def ofBits (bits : UInt64) : Binary :=
  let fraction := (bits &&& 0xFFFFFFFFFFFFF).toNat
  let field := ((bits >>> 52) &&& 0x7FF).toNat
  if field = 0 then ⟨fraction, -1074⟩ else ⟨fraction + leadingBit, Int.ofNat field - 1075⟩

def fraction (number : Binary) : Nat × Nat :=
  if 0 ≤ number.exponent then (number.significand <<< number.exponent.toNat, 1)
  else (number.significand, 1 <<< (-number.exponent).toNat)

/-- The numbers that round to this one, as the ends of an interval in quarters of its last place.
Below a power of two the neighbour is half as far away. -/
def roundingInterval (number : Binary) : Nat × Nat :=
  let centre := 4 * number.significand
  let below := if number.significand = leadingBit ∧ -1074 < number.exponent then 1 else 2
  (centre - below, centre + 2)

/-- The decimal `digits · 10 ^ exponent` rounds to the number; the ends of the interval do so when
the significand is even. -/
def isRoundedFrom (number : Binary) (digits : Nat) (exponent : Int) : Bool :=
  let (low, high) := number.roundingInterval
  let scale : Binary := ⟨1, number.exponent - 2⟩
  let (unitTop, unitBottom) := scale.fraction
  let top := digits * tenTo exponent.toNat * unitBottom
  let bottom := tenTo (-exponent).toNat * unitTop
  if number.significand % 2 = 0 then low * bottom ≤ top && top ≤ high * bottom
  else low * bottom < top && top < high * bottom

end Binary

namespace Decimal

/-- The least `point` with `top / bottom < 10 ^ point`, searched upwards. -/
def findPoint (top bottom : Nat) : (steps : Nat) → (start : Int) → Int
  | 0, start => start
  | steps + 1, start =>
      if top * tenTo (-start).toNat < bottom * tenTo start.toNat then start
      else findPoint top bottom steps (start + 1)

/-- The better of the two decimals with `count` digits around the number, if one rounds to it: of
two the nearer, and at equal distance the even one. -/
def onGrid (number : Binary) (point : Int) (count : Nat) : Option Decimal :=
  let exponent := point - count
  let (top, bottom) := number.fraction
  let scaledTop := top * tenTo (-exponent).toNat
  let scaledBottom := bottom * tenTo exponent.toNat
  let below := scaledTop / scaledBottom
  let rest := 2 * (scaledTop % scaledBottom)
  match number.isRoundedFrom below exponent, number.isRoundedFrom (below + 1) exponent with
  | false, false => none
  | true, false => some ⟨below, exponent⟩
  | false, true => some ⟨below + 1, exponent⟩
  | true, true =>
      let upper := scaledBottom < rest ∨ scaledBottom = rest ∧ below % 2 = 1
      some ⟨if upper then below + 1 else below, exponent⟩

def firstOnGrid (number : Binary) (point : Int) : (left : Nat) → (count : Nat) → Option Decimal
  | 0, _ => none
  | left + 1, count =>
      match onGrid number point count with
      | some found => some found
      | none => firstOnGrid number point left (count + 1)

def dropZeros (digits : List Char) : List Char := (digits.reverse.dropWhile (· = '0')).reverse

/-- The digits of the shortest decimal, without zeros at the end, and the power of ten in front of
which its point stands. -/
def shortest (number : Binary) : List Char × Int :=
  let (top, bottom) := number.fraction
  let point := findPoint top bottom 650 (-330)
  -- Seventeen digits tell any two numbers apart, so the search does not fail.
  match firstOnGrid number point 17 1 with
  | none => (['0'], 1)
  | some found =>
      let digits := Nat.toDigits 10 found.digits
      (dropZeros digits, found.exponent + digits.length)

/-- Digits with a point: positional notation for the powers from `10 ^ -5` to `10 ^ 15`, always with
a digit on both sides of the point, and scientific notation with a signed exponent beyond. -/
def layOut (digits : List Char) (point : Int) : List Char :=
  let power := point - 1
  if -5 ≤ power ∧ power ≤ 15 then
    if point ≤ 0 then ['0', '.'] ++ List.replicate (-point).toNat '0' ++ digits
    else
      let whole := digits.take point.toNat
      let part := digits.drop point.toNat
      whole ++ List.replicate (point.toNat - digits.length) '0' ++ ['.'] ++
        (if part.isEmpty then ['0'] else part)
  else
    let part := digits.drop 1
    digits.take 1 ++ (if part.isEmpty then [] else '.' :: part) ++ ['e'] ++
      [if power < 0 then '-' else '+'] ++ Nat.toDigits 10 power.natAbs

def text (bits : UInt64) : List Char :=
  let sign := if bits >>> 63 = 1 then ['-'] else []
  let number := Binary.ofBits bits
  if number.significand = 0 then sign ++ ['0', '.', '0']
  else
    let (digits, point) := shortest number
    sign ++ layOut digits point

end Decimal

end DishPlanner.Text
