/-!
# The shortest decimal of a float

A finite float stands for an interval of reals: those that round to it. `shortest` picks from this
interval a decimal of the fewest digits, and of these the one nearest to the float. The computation
is exact, on the bits of the float and with natural numbers only.
-/

namespace GameTables.Decimal

/-- A finite float without its sign, `mantissa * 2 ^ exponent`. -/
structure Binary where
  mantissa : Nat
  exponent : Int
  /-- Whether the gap to the float below is half the gap to the float above. -/
  narrowBelow : Bool

def Binary.ofBits (bits : UInt64) : Binary :=
  let biased := ((bits >>> 52) &&& 0x7FF).toNat
  let fraction := (bits &&& 0xFFFFFFFFFFFFF).toNat
  if biased = 0 then ⟨fraction, -1074, false⟩
  else ⟨0x10000000000000 + fraction, (biased : Int) - 1075, fraction = 0 && biased > 1⟩

/-- A decimal, `digits * 10 ^ exponent`. -/
structure Numeral where
  digits : Nat
  exponent : Int
  deriving DecidableEq, Repr

/-- Compares `a * 10 ^ i` with `n * 2 ^ j`. -/
def compareScaled (a : Nat) (i : Int) (n : Nat) (j : Int) : Ordering :=
  compare (a * Nat.pow 10 i.toNat * Nat.pow 2 (-j).toNat)
    (n * Nat.pow 2 j.toNat * Nat.pow 10 (-i).toNat)

/-- Whether a decimal rounds to the float. The ends of the interval belong to it when the mantissa
is even. -/
def Binary.readsBack (x : Binary) (d : Numeral) : Bool :=
  let low := if x.narrowBelow then 4 * x.mantissa - 1 else 4 * x.mantissa - 2
  let high := 4 * x.mantissa + 2
  let closed := x.mantissa % 2 == 0
  let atLow := compareScaled d.digits d.exponent low (x.exponent - 2)
  let atHigh := compareScaled d.digits d.exponent high (x.exponent - 2)
  (atLow == .gt || (closed && atLow == .eq)) && (atHigh == .lt || (closed && atHigh == .eq))

/-- The float in units of `10 ^ i`, rounded down. -/
def Binary.floorAt (x : Binary) (i : Int) : Nat :=
  x.mantissa * Nat.pow 2 x.exponent.toNat * Nat.pow 10 (-i).toNat
    / (Nat.pow 2 (-x.exponent).toNat * Nat.pow 10 i.toNat)

/-- The number of digits before the point: the least `k` with the float below `10 ^ k`. -/
def Binary.magnitude (x : Binary) : Int :=
  let guess := ((x.mantissa.log2 : Int) + x.exponent) * 30103 / 100000
  let candidates := (List.range 4).map fun (n : Nat) => guess - 1 + (n : Int)
  (candidates.find? fun k => compareScaled 1 k x.mantissa x.exponent == .gt).getD (guess + 3)

/-- The better of the two neighbours of the float on the grid of `10 ^ i`, if one rounds to it. On a
tie the even one is taken. -/
def Binary.pick (x : Binary) (i : Int) : Option Numeral :=
  let below := x.floorAt i
  match x.readsBack ⟨below, i⟩, x.readsBack ⟨below + 1, i⟩ with
  | true, false => some ⟨below, i⟩
  | false, true => some ⟨below + 1, i⟩
  | false, false => none
  | true, true =>
    match compareScaled (2 * below + 1) i (2 * x.mantissa) x.exponent with
    | .gt => some ⟨below, i⟩
    | .lt => some ⟨below + 1, i⟩
    | .eq => some ⟨if below % 2 = 0 then below else below + 1, i⟩

/-- Moves zeros at the end of the digits into the exponent. -/
def Numeral.trim (d : Numeral) : Numeral :=
  if d.digits = 0 then d
  else if d.digits % 10 = 0 then Numeral.trim ⟨d.digits / 10, d.exponent + 1⟩ else d
  termination_by d.digits
  decreasing_by exact Nat.div_lt_self (by omega) (by decide)

/-- The float itself as a decimal. -/
def Binary.exact (x : Binary) : Numeral :=
  ⟨x.mantissa * Nat.pow 2 x.exponent.toNat * Nat.pow 5 (-x.exponent).toNat, min 0 x.exponent⟩

/-- A decimal of the fewest digits that rounds to the float, and the nearest of these. -/
def Binary.shortest (x : Binary) : Numeral :=
  let k := x.magnitude
  (((List.range 17).findSome? fun n => x.pick (k - (n + 1 : Nat))).getD x.exact).trim

/-- A float as text: positional from `10 ^ -5` up to `10 ^ 16`, always with a point, and with a
signed exponent otherwise. -/
def render (f : Float) : String :=
  let sign := if (f.toBits >>> 63) = 1 then "-" else ""
  let x := Binary.ofBits f.toBits
  if x.mantissa = 0 then sign ++ "0.0"
  else
    let d := x.shortest
    let digits := toString d.digits
    let point := (digits.length : Int) + d.exponent
    let zeros (n : Int) : String := String.ofList (List.replicate n.toNat '0')
    sign ++
      if 0 ≤ d.exponent ∧ point ≤ 16 then digits ++ zeros d.exponent ++ ".0"
      else if 0 < point ∧ point ≤ 16 then
        String.ofList (digits.toList.take point.toNat) ++ "."
          ++ String.ofList (digits.toList.drop point.toNat)
      else if -5 < point ∧ point ≤ 0 then "0." ++ zeros (-point) ++ digits
      else
        let fraction := String.ofList (digits.toList.drop 1)
        String.ofList (digits.toList.take 1) ++ (if fraction = "" then "" else "." ++ fraction)
          ++ "e" ++ (if point - 1 < 0 then "-" else "+") ++ toString (point - 1).natAbs

end GameTables.Decimal
