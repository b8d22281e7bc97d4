import ConnectedHome.Number.Binary
/-!
# The shortest decimal that reads back

Every finite float `v` owns the interval of reals that round to it.  The shortest decimal of
`v` is the decimal with the fewest significant digits inside that interval, and of two such
decimals the one nearer to `v` (`shortest`).

The search follows the definition.  For `n = 1, 2, …, 17` digits the two neighbours of `v` on
the grid `c · 10^k` with `10^(n-1) ≤ c < 10^n` are the only candidates worth testing: if a point
of the grid lies in the interval, so does one of them.  The first `n` with a candidate inside
wins; seventeen digits always suffice.  All comparisons are exact products of naturals.

The interval's ends are half the gaps to the neighbouring floats, and they belong to it exactly
when the significand is even, because reading a decimal rounds ties to even.
-/
namespace ConnectedHome.Number

/-- Compares `c · 10^k` with `y · 2^e` exactly. -/
def cmpScaled (c : Nat) (k : Int) (y : Nat) (e : Int) : Ordering :=
  let lhs := c * Nat.pow 10 (max k 0).toNat * Nat.pow 2 (max (-e) 0).toNat
  let rhs := y * Nat.pow 2 (max e 0).toNat * Nat.pow 10 (max (-k) 0).toNat
  compare lhs rhs

/-- `⌊y · 2^e / 10^k⌋`. -/
def floorScaled (y : Nat) (e k : Int) : Nat :=
  (y * Nat.pow 2 (max e 0).toNat * Nat.pow 10 (max (-k) 0).toNat) /
    (Nat.pow 2 (max (-e) 0).toNat * Nat.pow 10 (max k 0).toNat)

/-- The decimal exponent `t` with `10^t ≤ y · 2^e < 10^(t+1)`, for `y > 0`: an estimate from
the bit length, corrected by exact comparison. -/
def decimalExponent (y : Nat) (e : Int) : Int :=
  let bits : Int := (y.log2 : Int) + e
  -- ⌊x · log10 2⌋ for |x| well below 2^16
  let t0 : Int := (bits * 78913) / 262144
  let up (t : Int) : Int := if cmpScaled 1 (t + 1) y e != .gt then t + 1 else t
  let down (t : Int) : Int := if cmpScaled 1 t y e == .gt then t - 1 else t
  down (down (up (up t0)))

/-- A decimal `digits · 10^exp10`, digits without trailing zeros. -/
structure Decimal where
  digits : Nat
  exp10 : Int
deriving Inhabited

/-- Drops trailing zeros of the digits into the exponent. -/
def Decimal.normalize (d : Decimal) : Decimal :=
  let rec go (fuel : Nat) (c : Nat) (k : Int) : Decimal :=
    match fuel with
    | 0 => ⟨c, k⟩
    | fuel + 1 => if c != 0 && c % 10 == 0 then go fuel (c / 10) (k + 1) else ⟨c, k⟩
  go (toString d.digits).length d.digits d.exp10

/-- The text of the digits. -/
def Decimal.text (d : Decimal) : String := toString d.digits

/-- The position of the decimal point, counted from the first digit: the value is
`0.d₁d₂… · 10^pointAt`. -/
def Decimal.pointAt (d : Decimal) : Int := d.exp10 + d.text.length

/-- The shortest decimal of a positive finite float `m · 2^e` (`m > 0`). -/
def shortestOf (m : Nat) (e : Int) : Decimal :=
  -- work in units of 2^(e-2): v = 4m, the ends are v ± 2, or v - 1 below a power of two
  let u : Int := e - 2
  let v := 4 * m
  let hi := v + 2
  let lo := if m == Nat.pow 2 52 && e > -1074 then v - 1 else v - 2
  let closed := m % 2 == 0
  let inside (c : Nat) (k : Int) : Bool :=
    let a := cmpScaled c k lo u
    let b := cmpScaled c k hi u
    (if closed then a != .lt else a == .gt) && (if closed then b != .gt else b == .lt)
  let t := decimalExponent v u
  let rec search (n : Nat) (fuel : Nat) : Decimal :=
    match fuel with
    | 0 => ⟨m, e⟩
    | fuel + 1 =>
      let k : Int := t - ((n : Int) - 1)
      let c := floorScaled v u k
      let inLo := inside c k
      let inHi := inside (c + 1) k
      if inLo && inHi then
        -- the nearer of the two; a tie goes to the even one
        match cmpScaled (2 * c + 1) k (2 * v) u with
        | .gt => ⟨c, k⟩
        | .lt => ⟨c + 1, k⟩
        | .eq => if c % 2 == 0 then ⟨c, k⟩ else ⟨c + 1, k⟩
      else if inLo then ⟨c, k⟩
      else if inHi then ⟨c + 1, k⟩
      else search (n + 1) fuel
  (search 1 17).normalize

/-- The shortest decimal of a finite float's magnitude; zero is `0 · 10^0`. -/
def shortest (d : Dyadic) : Decimal :=
  if d.mant == 0 then ⟨0, 0⟩ else shortestOf d.mant d.exp

end ConnectedHome.Number
