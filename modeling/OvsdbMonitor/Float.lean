import Mathlib.Algebra.Group.Nat.Basic
import Mathlib.Data.List.AList
import Mathlib.Data.String.Basic

/-!
# The `float64` of a decoded JSON number

`encoding/json` decodes every JSON number into an `interface{}` holding a `float64`:
`strconv.ParseFloat` rounds the literal to the nearest `float64`, a half to the even mantissa.
`Float64` is such a value in IEEE 754 form, one form per value, so that `=` is Go's `==` and
`reflect.DeepEqual`.  `Float64.ofNat?` is the decoding of an integer literal: integers past
`2 ^ 53` are rounded, so `2 ^ 53` and `2 ^ 53 + 1` decode to the same value.

`Float64.fmtNumber` is Go's `%v` of a `float64` (`strconv.FormatFloat(f, 'g', -1, 64)`): the
decimal with the fewest digits that reads back as the value (the nearest of them to it, a half
to the even digit), printed with an exponent when that exponent is below `-4` or at least `6`.
-/

namespace OvsdbMonitor

/-! ### Binary length -/

/-- `Nat.log2 n` by at most `fuel` halvings: `Nat.log2` itself does not evaluate by `decide`. -/
def log2Loop : Nat → Nat → Nat
  | 0, _ => 0
  | fuel + 1, n => if n < 2 then 0 else log2Loop fuel (n / 2) + 1

theorem log2Loop_eq : ∀ fuel n, n ≤ fuel → log2Loop fuel n = n.log2
  | 0, n, h => by rw [Nat.le_zero.mp h, Nat.log2]; simp [log2Loop]
  | fuel + 1, n, h => by
    unfold log2Loop
    rw [Nat.log2]
    split_ifs with h2 h3 h3
    · omega
    · rfl
    · rw [log2Loop_eq fuel (n / 2) (by omega)]
    · omega

/-- The position of the highest set bit of `n`. -/
def floorLog2 (n : Nat) : Nat := log2Loop n n

theorem floorLog2_eq (n : Nat) : floorLog2 n = n.log2 := log2Loop_eq n n le_rfl

/-! ### Finite `float64`s -/

/-- A finite `float64`, the value `(-1) ^ neg * mantissa * 2 ^ exponent`: a 53-bit mantissa, or a
smaller one at the least exponent (a subnormal, or zero).  Go's `-0` is read as `0`. -/
structure Float64 where
  neg : Bool
  mantissa : Nat
  exponent : Int
  normal : mantissa < 2 ^ 53 ∧ (2 ^ 52 ≤ mantissa ∨ exponent = -1074)
  range : -1074 ≤ exponent ∧ exponent ≤ 971
  unsignedZero : neg = true → mantissa ≠ 0
  deriving Repr

namespace Float64

instance : DecidableEq Float64 := fun a b =>
  decidable_of_iff (a.neg = b.neg ∧ a.mantissa = b.mantissa ∧ a.exponent = b.exponent) <| by
    cases a; cases b; simp

def zero : Float64 := ⟨false, 0, -1074, ⟨by decide, .inr rfl⟩, ⟨le_rfl, by decide⟩, nofun⟩

/-! ### Decoding an integer literal -/

/-- `n / 2 ^ k` rounded to the nearest integer, a half to the even one. -/
def roundShift (n k : Nat) : Nat :=
  if 2 ^ k < 2 * (n % 2 ^ k) ∨ 2 * (n % 2 ^ k) = 2 ^ k ∧ n / 2 ^ k % 2 = 1 then n / 2 ^ k + 1
  else n / 2 ^ k

theorem roundShift_bounds (n k : Nat) :
    n / 2 ^ k ≤ roundShift n k ∧ roundShift n k ≤ n / 2 ^ k + 1 := by
  unfold roundShift; split_ifs <;> omega

/-- A nonzero `n` of at most 53 bits, shifted up to exactly 53. -/
theorem shift_bounds {n : Nat} (h0 : n ≠ 0) (hs : n.log2 ≤ 52) :
    2 ^ 52 ≤ n * 2 ^ (52 - n.log2) ∧ n * 2 ^ (52 - n.log2) < 2 ^ 53 := by
  have e1 : 2 ^ 52 = 2 ^ n.log2 * 2 ^ (52 - n.log2) := by rw [← pow_add]; congr 1; omega
  have e2 : 2 ^ 53 = 2 ^ (n.log2 + 1) * 2 ^ (52 - n.log2) := by rw [← pow_add]; congr 1; omega
  rw [e1, e2]
  exact ⟨Nat.mul_le_mul_right _ (Nat.log2_self_le h0),
    Nat.mul_lt_mul_of_pos_right Nat.lt_log2_self (Nat.two_pow_pos _)⟩

/-- The top 53 bits of an `n` of more than 53 bits. -/
theorem div_bounds {n : Nat} (hs : 52 < n.log2) :
    2 ^ 52 ≤ n / 2 ^ (n.log2 - 52) ∧ n / 2 ^ (n.log2 - 52) < 2 ^ 53 := by
  have h0 : n ≠ 0 := by rintro rfl; simp [Nat.log2] at hs
  rw [Nat.le_div_iff_mul_le (Nat.two_pow_pos _), Nat.div_lt_iff_lt_mul (Nat.two_pow_pos _),
    ← pow_add, ← pow_add, show 52 + (n.log2 - 52) = n.log2 by omega,
    show 53 + (n.log2 - 52) = n.log2 + 1 by omega]
  exact ⟨Nat.log2_self_le h0, Nat.lt_log2_self⟩

/-- The `float64` nearest the natural number `n`, a half to the even mantissa, as
`strconv.ParseFloat` reads an integer literal; `none` past the range of `float64`, where
`json.Unmarshal` fails. -/
def ofNat? (n : Nat) : Option Float64 :=
  if h0 : n = 0 then some zero
  else if hs : floorLog2 n ≤ 52 then
    some ⟨false, n * 2 ^ (52 - floorLog2 n), (floorLog2 n : Int) - 52,
      by rw [floorLog2_eq] at hs ⊢; exact ⟨(shift_bounds h0 hs).2, .inl (shift_bounds h0 hs).1⟩,
      by omega, nofun⟩
  else if hq : roundShift n (floorLog2 n - 52) < 2 ^ 53 then
    if he : ((floorLog2 n - 52 : Nat) : Int) ≤ 971 then
      some ⟨false, roundShift n (floorLog2 n - 52), (floorLog2 n - 52 : Nat), ⟨hq, .inl (by
        rw [floorLog2_eq] at hs ⊢
        exact (div_bounds (Nat.lt_of_not_le hs)).1.trans (roundShift_bounds _ _).1)⟩,
        ⟨by omega, he⟩, nofun⟩
    else none
  -- the mantissa rounded up to `2 ^ 53`: one more bit of exponent
  else if he : ((floorLog2 n - 52 : Nat) : Int) + 1 ≤ 971 then
    some ⟨false, 2 ^ 52, ((floorLog2 n - 52 : Nat) : Int) + 1, ⟨by decide, .inl le_rfl⟩,
      ⟨by omega, he⟩, nofun⟩
  else none

/-- The `float64` an integer literal decodes to, for the numerals of this development, which are
all in range. -/
def ofNat (n : Nat) : Float64 := (ofNat? n).getD zero

instance (n : Nat) : OfNat Float64 n := ⟨ofNat n⟩

instance : NatCast Float64 := ⟨ofNat⟩

example : ofNat? (2 ^ 53 + 1) = ofNat? (2 ^ 53) := by decide

/-! ### `%v` -/

/-- The decimal `(c, q)`, standing for `c * 10 ^ q`, that `strconv` prints for the value
`M * 2 ^ E`: the decimals that read back as it are those within half a unit of its last bit
(a quarter below a power of two), ends included when `M` is even; among them it takes those with
the fewest digits, and of these the nearest, a half to the even one.  Values are compared in
units of `2 ^ (E - 2)`, scaled by `10 ^ q`.  Seventeen digits always read back. -/
def shortest (M : Nat) (E : Int) : Nat × Int :=
  let e := E - 2
  let V := 4 * M
  let lo := if M = 2 ^ 52 ∧ E ≠ -1074 then V - 1 else V - 2
  let hi := V + 2
  -- `X * 2 ^ e / 10 ^ q` is `scaled X q / unit q`
  let scaled (X : Nat) (q : Int) : Nat := X * 2 ^ e.toNat * 10 ^ (-q).toNat
  let unit (q : Int) : Nat := 2 ^ (-e).toNat * 10 ^ q.toNat
  let nearest (q : Int) : Nat :=
    let c := scaled V q / unit q
    let twice := 2 * (scaled V q - c * unit q)
    if twice < unit q ∨ twice = unit q ∧ c % 2 = 0 then c else c + 1
  let readsBack (q : Int) (c : Nat) : Bool :=
    if M % 2 = 0 then scaled lo q ≤ c * unit q ∧ c * unit q ≤ scaled hi q
    else scaled lo q < c * unit q ∧ c * unit q < scaled hi q
  let candidate (q : Int) : Option Nat :=
    let c := scaled V q / unit q
    match readsBack q c, readsBack q (c + 1) with
    | true, true => some (nearest q)
    | true, false => some c
    | false, true => some (c + 1)
    | false, false => none
  -- the value lies in `[10 ^ (dp - 1), 10 ^ dp)`
  let dp : Int :=
    if 2 ^ (-e).toNat ≤ V * 2 ^ e.toNat then (toString (V * 2 ^ e.toNat / 2 ^ (-e).toNat)).length
    else 1 - (toString ((2 ^ (-e).toNat - 1) / (V * 2 ^ e.toNat))).length
  match (List.range 17).findSome? fun k => (candidate (dp - k)).map fun c => (c, dp - k) with
  | some r => r
  | none => (nearest (dp - 17), dp - 17)

/-- `c * 10 ^ q` with the trailing zeros of `c` moved into `q`. -/
def stripZeros : Nat → Nat → Int → Nat × Int
  | 0, c, q => (c, q)
  | fuel + 1, c, q => if c ≠ 0 ∧ c % 10 = 0 then stripZeros fuel (c / 10) (q + 1) else (c, q)

/-- `%g` of the digits `ds` with the decimal point `dp` places from their start: `%e` with two
exponent digits at least when the exponent is below `-4` or at least `6`, `%f` otherwise. -/
def fmtG (ds : List Char) (dp : Int) : String :=
  let exp := dp - 1
  if exp < -4 ∨ 6 ≤ exp then
    String.mk (ds.take 1 ++ (if 1 < ds.length then '.' :: ds.drop 1 else [])) ++ "e" ++
      (if exp < 0 then "-" else "+") ++ (if exp.natAbs < 10 then "0" else "") ++
      toString exp.natAbs
  else if dp ≤ 0 then String.mk ('0' :: '.' :: List.replicate (-dp).toNat '0' ++ ds)
  else if ds.length ≤ dp.toNat then String.mk (ds ++ List.replicate (dp.toNat - ds.length) '0')
  else String.mk (ds.take dp.toNat ++ '.' :: ds.drop dp.toNat)

/-- `%v` of a `float64`: `strconv.FormatFloat(f, 'g', -1, 64)`. -/
def fmtNumber (f : Float64) : String :=
  if f.mantissa = 0 then "0"
  else
    let r := shortest f.mantissa f.exponent
    let r := stripZeros 20 r.1 r.2
    let ds := Nat.toDigits 10 r.1
    (if f.neg then "-" else "") ++ fmtG ds (ds.length + r.2)

example : fmtNumber 123456 = "123456" ∧ fmtNumber 1000000 = "1e+06" ∧
    fmtNumber 123456789 = "1.23456789e+08" := by
  decide

example : (ofNat? (2 ^ 53 + 1)).map fmtNumber = some "9.007199254740992e+15" := by decide

example : fmtNumber ⟨false, 3 * 2 ^ 51, -52, by decide, by decide, nofun⟩ = "1.5" ∧
    fmtNumber ⟨false, 7205759403792794, -56, by decide, by decide, nofun⟩ = "0.1" ∧
    fmtNumber ⟨true, 5902958103587057, -69, by decide, by decide, nofun⟩ = "-1e-05" := by
  decide

end Float64

end OvsdbMonitor
