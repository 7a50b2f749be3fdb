import ModelViews.Number.Binary64
/-!
The shortest decimal text that reads back as a given number. The digits are chosen by exact
arithmetic: for one digit, two digits and so on, the two neighbours of the value on the decimal grid
are tried, and the first grid with a neighbour that reads back wins. How the digits are laid out is
a record of its own.
-/
namespace ModelViews.Number

structure Decimal where
  digits : Nat
  point : Int
  deriving DecidableEq, Repr

structure Neighbourhood where
  low : Nat
  value : Nat
  high : Nat
  den : Nat
  closed : Bool

def neighbourhood (mantissa : Nat) (exponent : Int) : Neighbourhood :=
  let lowStep := if mantissa = Nat.pow 2 52 ∧ Binary64.leastExponent < exponent then 1 else 2
  let up := if 0 ≤ exponent then Nat.pow 2 exponent.toNat else 1
  let down := if 0 ≤ exponent then 1 else Nat.pow 2 (-exponent).toNat
  { low := (4 * mantissa - lowStep) * up
    value := 4 * mantissa * up
    high := (4 * mantissa + 2) * up
    den := 4 * down
    closed := mantissa % 2 = 0 }

def places (num den : Nat) : Int :=
  let guess : Int :=
    ((Nat.toDigits 10 num).length : Int) - ((Nat.toDigits 10 den).length : Int)
  let below := if 0 ≤ guess then num < den * Nat.pow 10 guess.toNat
    else num * Nat.pow 10 (-guess).toNat < den
  if below then guess else guess + 1

def Neighbourhood.holds (n : Neighbourhood) (candidate : Nat) (grid : Int) : Bool :=
  let up := if 0 ≤ grid then Nat.pow 10 grid.toNat else 1
  let down := if 0 ≤ grid then 1 else Nat.pow 10 (-grid).toNat
  let left := candidate * up * n.den
  if n.closed then n.low * down ≤ left && left ≤ n.high * down
  else n.low * down < left && left < n.high * down

def Neighbourhood.onGrid? (n : Neighbourhood) (point : Int) (count : Nat) : Option Nat :=
  let grid := point - count
  let up := if 0 ≤ grid then Nat.pow 10 grid.toNat else 1
  let down := if 0 ≤ grid then 1 else Nat.pow 10 (-grid).toNat
  let num := n.value * down
  let den := n.den * up
  let below := num / den
  match n.holds below grid, n.holds (below + 1) grid with
  | true, true =>
    let rest := 2 * (num % den)
    if rest < den ∨ (rest = den ∧ below % 2 = 0) then some below else some (below + 1)
  | true, false => some below
  | false, true => some (below + 1)
  | false, false => none

/-- The first grid, from `count` digits on, that has a decimal reading back. One of 17 digits always
has; a search that runs out of tries gives the power of ten above the value. -/
def Neighbourhood.search (n : Neighbourhood) (point : Int) : Nat → Nat → Decimal
  | 0, _ => ⟨1, point⟩
  | tries + 1, count =>
    match n.onGrid? point count with
    | some digits => ⟨digits, point - count⟩
    | none => n.search point tries (count + 1)

def shortest (mantissa : Nat) (exponent : Int) : Decimal :=
  let n := neighbourhood mantissa exponent
  n.search (places n.value n.den) 17 1

structure Layout where
  /-- The places before the point for which the text has no exponent, both ends included. -/
  leastPlain : Int
  greatestPlain : Int
  /-- The least number of digits of an exponent. -/
  exponentWidth : Nat
  infinite : String
  undefined : String

def withoutTrailingZeros (digits : List Char) : List Char :=
  (digits.reverse.dropWhile (· = '0')).reverse

def Layout.exponent (layout : Layout) (power : Int) : List Char :=
  let digits := Nat.toDigits 10 power.natAbs
  (if power < 0 then '-' else '+') ::
    (List.replicate (layout.exponentWidth - digits.length) '0' ++ digits)

def Layout.digits (layout : Layout) (decimal : Decimal) : List Char :=
  let all := Nat.toDigits 10 decimal.digits
  let point : Int := (all.length : Int) + decimal.point
  let digits := withoutTrailingZeros all
  if layout.leastPlain ≤ point ∧ point ≤ layout.greatestPlain then
    if point ≤ 0 then
      '0' :: '.' :: (List.replicate (-point).toNat '0' ++ digits)
    else
      let whole := digits.take point.toNat
      let fraction := digits.drop point.toNat
      whole ++ List.replicate (point.toNat - whole.length) '0' ++
        '.' :: (if fraction.isEmpty then ['0'] else fraction)
  else
    let fraction := digits.drop 1
    digits.take 1 ++ (if fraction.isEmpty then [] else '.' :: fraction) ++
      'e' :: layout.exponent (point - 1)

def Layout.text (layout : Layout) : Binary64 → String
  | .undefined => layout.undefined
  | .infinite negative => (if negative then "-" else "") ++ layout.infinite
  | .finite negative mantissa exponent =>
    (if negative then "-" else "") ++
      (if mantissa = 0 then "0.0" else String.ofList (layout.digits (shortest mantissa exponent)))

end ModelViews.Number
