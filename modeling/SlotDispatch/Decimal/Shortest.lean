/-!
# The shortest decimal for a binary number

A 64-bit floating-point number stands for all reals that round to it. Of the decimals among them
one with the fewest digits is chosen, and of those the nearest to the number. Everything is decided
by exact comparisons of natural numbers.

* `Binary.ofBits`: a finite number as `m * 2 ^ q`;
* `Binary.Covers`: whether a decimal is among the reals that round to the number;
* `Binary.shortest`: the decimal that is chosen.
-/

namespace SlotDispatch.Decimal

/-- A finite number `m * 2 ^ q` that is not negative, in the 64-bit format. -/
structure Binary where
  /-- The significand. -/
  m : Nat
  /-- The exponent of two. -/
  q : Int
  /-- Whether the number below is only half as far away as the number above. -/
  narrowBelow : Bool

/-- The decimal `digits * 10 ^ exp`. -/
structure Scaled where
  /-- The digits, read as a natural number. -/
  digits : Nat
  /-- The exponent of ten. -/
  exp : Int

namespace Binary

/-- The finite number with these bits, up to its sign. -/
def ofBits (bits : UInt64) : Binary :=
  let e := ((bits >>> 52) &&& 0x7FF).toNat
  let f := (bits &&& 0xFFFFFFFFFFFFF).toNat
  if e = 0 then ⟨f, -1074, false⟩
  else ⟨0x10000000000000 + f, (e : Int) - 1075, f = 0 ∧ 1 < e⟩

/-- Compares `a * 10 ^ i` with `n * 2 ^ j`. -/
def compareScaled (a : Nat) (i : Int) (n : Nat) (j : Int) : Ordering :=
  compare (a * Nat.pow 10 i.toNat * Nat.pow 2 (-j).toNat)
    (n * Nat.pow 2 j.toNat * Nat.pow 10 (-i).toNat)

/-- The decimal lies between the midpoints to the neighbours of `x`. A midpoint itself rounds to
    the neighbour with the even significand. -/
def Covers (x : Binary) (d : Scaled) : Prop :=
  let lower := compareScaled d.digits d.exp (4 * x.m - if x.narrowBelow then 1 else 2) (x.q - 2)
  let upper := compareScaled d.digits d.exp (4 * x.m + 2) (x.q - 2)
  (lower = .gt ∨ x.m % 2 = 0 ∧ lower = .eq) ∧ (upper = .lt ∨ x.m % 2 = 0 ∧ upper = .eq)

instance (x : Binary) (d : Scaled) : Decidable (x.Covers d) :=
  inferInstanceAs (Decidable (_ ∧ _))

/-- The whole part of `x / 10 ^ i`. -/
def floorAt (x : Binary) (i : Int) : Nat :=
  (x.m * Nat.pow 2 x.q.toNat * Nat.pow 10 (-i).toNat) /
    (Nat.pow 2 (-x.q).toNat * Nat.pow 10 i.toNat)

/-- The position of the leading digit: the greatest `k` with `10 ^ k ≤ x`, for `x` not zero. -/
def magnitude (x : Binary) : Int :=
  let above := (List.range 310).reverse.find? fun (k : Nat) => x.floorAt k ≠ 0
  let below := (List.range 330).find? fun (k : Nat) => x.floorAt (-(k : Int)) ≠ 0
  match above, below with
  | some k, _ => k
  | none, some k => -(k : Int)
  | none, none => 0

/-- The decimal for `x` on the grid of the multiples of `10 ^ i`, if the grid has one: the nearer
    neighbour of `x`, or the even one if both are as near. -/
def onGrid (x : Binary) (i : Int) : Option Scaled :=
  let low := x.floorAt i
  let below : Scaled := ⟨low, i⟩
  let above : Scaled := ⟨low + 1, i⟩
  match decide (x.Covers below), decide (x.Covers above) with
  | true, false => some below
  | false, true => some above
  | false, false => none
  | true, true =>
    match compareScaled (2 * low + 1) i (2 * x.m) x.q with
    | .gt => some below
    | .lt => some above
    | .eq => some (if low % 2 = 0 then below else above)

/-- The shortest decimal that rounds to `x`, for `x` not zero: grids with more and more digits are
    tried, and seventeen always suffice. -/
def shortest (x : Binary) : Scaled :=
  let k := x.magnitude
  ((List.range 17).findSome? fun (n : Nat) => x.onGrid (k - n)).getD ⟨x.floorAt (k - 16), k - 16⟩

end Binary

/-- How numbers are spread out in text. -/
structure Spread where
  /-- The lowest position of the leading digit for which no exponent is written. -/
  lowest : Int
  /-- The highest position of the leading digit for which no exponent is written. -/
  highest : Int

/-- Removes the zeros at the end. -/
def trimZeros (digits : List Char) : List Char :=
  (digits.reverse.dropWhile (· = '0')).reverse

namespace Spread

/-- The digits of a number whose leading digit has the position `k`: with a point and at least one
    digit on either side of it, or with an exponent. -/
def write (spread : Spread) (digits : List Char) (k : Int) : List Char :=
  if k < spread.lowest ∨ spread.highest < k then
    let mantissa := match digits with
      | [] => []
      | [d] => [d]
      | d :: ds => d :: '.' :: ds
    let sign := if k < 0 then '-' else '+'
    mantissa ++ 'e' :: sign :: Nat.toDigits 10 k.natAbs
  else if k < 0 then
    '0' :: '.' :: List.replicate (k.natAbs - 1) '0' ++ digits
  else
    let whole := digits.take (k.toNat + 1)
    let rest := digits.drop (k.toNat + 1)
    whole ++ List.replicate (k.toNat + 1 - whole.length) '0' ++
      '.' :: (if rest = [] then ['0'] else rest)

/-- The text of a finite floating-point number. -/
def text (spread : Spread) (value : Float) : String :=
  let bits := value.toBits
  let x := Binary.ofBits bits
  let sign := if bits >>> 63 = 1 then ['-'] else []
  let body :=
    if x.m = 0 then ['0', '.', '0']
    else
      let d := x.shortest
      let digits := Nat.toDigits 10 d.digits
      spread.write (trimZeros digits) (d.exp + digits.length - 1)
  String.ofList (sign ++ body)

end Spread

end SlotDispatch.Decimal
