import DatePattern.Numeral.Binary64

/-! The shortest decimal that reads back as a given double, and its written form. -/
namespace DatePattern

namespace Binary64

/-- The largest power of ten not above `num / den`, found next to an estimate from the binary
logarithms. -/
def decimalExponent (num den : Nat) : Int :=
  let atMost (e : Int) : Bool :=
    if 0 ≤ e then decide (den * tenTo e.toNat ≤ num) else decide (den ≤ num * tenTo (-e).toNat)
  let guess : Int := (((num.log2 : Int) - den.log2) * 30103) / 100000
  if atMost (guess + 1) then guess + 1
  else if atMost guess then guess
  else if atMost (guess - 1) then guess - 1
  else guess - 2

/-- On the grid of multiples of `10 ^ grid`, the neighbour of the double that reads back as it: the
nearer one when both do, and of two equally near the even one. The reals that round to the double
reach half a step up, and half a step down or a quarter at the foot of a binade; the ends belong to
them when the significand is even. -/
def gridHit? (m : Nat) (e : Int) (grid : Int) : Option Nat :=
  let (unit, whole) := magnitude 1 (e - 2)
  let (unit, whole) :=
    if 0 ≤ grid then (unit, whole * tenTo grid.toNat) else (unit * tenTo (-grid).toNat, whole)
  let value := 4 * m * unit
  let high := (4 * m + 2) * unit
  let low := (4 * m - if m = twoTo 52 ∧ -1074 < e then 1 else 2) * unit
  let readsBack (c : Nat) : Bool :=
    if m % 2 = 0 then decide (low ≤ c * whole ∧ c * whole ≤ high)
    else decide (low < c * whole ∧ c * whole < high)
  let below := value / whole
  let above := below + 1
  if readsBack below then
    if readsBack above then
      let down := value - below * whole
      let up := above * whole - value
      if down < up then some below
      else if up < down then some above
      else if below % 2 = 0 then some below else some above
    else some below
  else if readsBack above then some above
  else none

/-- Removes factors of ten, at most `fuel` of them, and counts them. -/
def dropTens : Nat → Nat → Int → Nat × Int
  | 0, n, k => (n, k)
  | fuel + 1, n, k => if n % 10 = 0 then dropTens fuel (n / 10) (k + 1) else (n, k)

/-- The shortest decimal `c * 10 ^ k` that reads back as the positive double, nearest to it among
those of its length. Seventeen digits always suffice. -/
def shortestDecimal (m : Nat) (e : Int) : Nat × Int :=
  let (num, den) := magnitude m e
  let top := decimalExponent num den
  let hit := (List.range 17).findSome? fun (k : Nat) =>
    let grid := top - k
    (gridHit? m e grid).map fun c => (c, grid)
  match hit with
  | some (c, grid) => dropTens 18 c grid
  | none => (m, 0)

/-- The written form of `c * 10 ^ k`: positional while the leading digit stands at most sixteen
places before the point or four behind it, always with a digit behind the point; else one leading
digit and an exponent of two digits or more. -/
def decimalLayout (c : Nat) (k : Int) : List Char :=
  let digits := Nat.toDigits 10 c
  let point : Int := digits.length + k
  if -4 < point ∧ point ≤ 16 then
    if point ≤ 0 then '0' :: '.' :: (List.replicate (-point).toNat '0' ++ digits)
    else if point < digits.length then
      digits.take point.toNat ++ '.' :: digits.drop point.toNat
    else digits ++ List.replicate (point.toNat - digits.length) '0' ++ ['.', '0']
  else
    let exponent := point - 1
    let power := Nat.toDigits 10 exponent.natAbs
    let tail := 'e' :: (if exponent < 0 then '-' else '+') ::
      (List.replicate (2 - power.length) '0' ++ power)
    match digits with
    | [] => tail
    | [d] => d :: tail
    | d :: more => d :: '.' :: (more ++ tail)

def text : Binary64 → String
  | nan => "nan"
  | infinite negative => if negative then "-inf" else "inf"
  | finite negative m e =>
    let body :=
      if m = 0 then ['0', '.', '0'] else let (c, k) := shortestDecimal m e; decimalLayout c k
    String.ofList (if negative then '-' :: body else body)

end Binary64

end DatePattern
