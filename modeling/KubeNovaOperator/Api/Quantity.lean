import Mathlib.Data.List.Basic
import Mathlib.Algebra.Group.Nat.Basic

/-!
# Resource quantities as the API server stores them

A `resource.Quantity` travels as its text.  The controller builds quantities from literals
(`resource.MustParse("1000m")`) or reads them from the spec; when it writes a Deployment, the
client sends each quantity in canonical form and the API server stores that text, so what a
later `Get` returns is the canonical text, not the one the controller built.  `reflect.DeepEqual`
on two resource maps then compares a built quantity with a canonical one.

`canonicalQuantity` is the text `Quantity.String` gives, from `apimachinery`'s `ParseQuantity`
and `CanonicalizeBytes`, for the texts `parseQuantityString` accepts:

* a sign, digits, an optional fraction and a suffix: decimal SI (`n u m "" k M G T P E`),
  binary SI (`Ki Mi Gi Ti Pi Ei`) or an exponent (`e3`, `E-2`);
* a value below a nano-unit is rounded up to a whole nano-unit;
* decimal values are written as an integer mantissa without factors of ten beyond those that
  bring the exponent to a multiple of three (`1000m` is `1`, `0.5` is `500m`, `1000` is `1k`);
* binary values of at least 1024 that are whole numbers are written with the largest binary
  suffix that divides them (`1024Mi` is `1Gi`, `1.5Gi` is `1536Mi`), others in decimal SI.

A text outside that grammar is not a quantity: the API server refuses it, and
`canonicalQuantity` leaves it as it is.
-/

namespace KubeNovaOperator

namespace Quantity

/-- A suffix as `quantitySuffixer.interpret` reads it: a power of ten in decimal SI, a power of
two in binary SI, or a power of ten written as an exponent. -/
inductive Suffix where
  | decimalSI (exp : Int)
  | binarySI (exp : Nat)
  | decimalExponent (exp : Int)
  deriving DecidableEq, Repr

/-- The decimal SI suffixes. -/
def decimalSuffix? : String → Option Int
  | "n" => some (-9) | "u" => some (-6) | "m" => some (-3) | "" => some 0 | "k" => some 3
  | "M" => some 6 | "G" => some 9 | "T" => some 12 | "P" => some 15 | "E" => some 18
  | _ => none

/-- The binary SI suffixes. -/
def binarySuffix? : String → Option Nat
  | "Ki" => some 10 | "Mi" => some 20 | "Gi" => some 30 | "Ti" => some 40 | "Pi" => some 50
  | "Ei" => some 60
  | _ => none

/-- The value of a list of decimal digits. -/
def digitsValue (ds : List Char) : Nat :=
  ds.foldl (fun n c => 10 * n + (c.toNat - '0'.toNat)) 0

/-- `strconv.ParseInt(s, 10, 64)` on the exponent of a suffix: a sign, then digits. -/
def parseExponent? : List Char → Option Int
  | '-' :: ds => if ds ≠ [] ∧ ds.all Char.isDigit then some (-(digitsValue ds : Int)) else none
  | '+' :: ds => if ds ≠ [] ∧ ds.all Char.isDigit then some (digitsValue ds) else none
  | ds => if ds ≠ [] ∧ ds.all Char.isDigit then some (digitsValue ds) else none

/-- `quantitySuffixer.interpret`: the decimal table, then the binary one, then an exponent. -/
def interpret? (s : List Char) : Option Suffix :=
  match decimalSuffix? (String.mk s) with
  | some e => some (.decimalSI e)
  | none =>
    match binarySuffix? (String.mk s) with
    | some e => some (.binarySI e)
    | none =>
      match s with
      | c :: rest => if c = 'e' ∨ c = 'E' then (parseExponent? rest).map .decimalExponent else none
      | [] => none

/-- A parsed quantity: its sign, the digits of its number with the fraction's digits
appended, how many of them follow the point, and its suffix. -/
structure Parsed where
  negative : Bool
  digits : Nat
  places : Nat
  suffix : Suffix
  deriving DecidableEq, Repr

/-- `parseQuantityString` and the suffix lookup of `ParseQuantity`: a sign, the digits before
the point, those after it, and a suffix that `interpret?` knows. -/
def parse? (s : String) : Option Parsed :=
  let cs := s.toList
  if cs = [] then none else
  let (negative, cs) :=
    match cs with
    | '-' :: rest => (true, rest)
    | '+' :: rest => (false, rest)
    | _ => (false, cs)
  let num := cs.takeWhile Char.isDigit
  let cs := cs.dropWhile Char.isDigit
  let (denom, cs) :=
    match cs with
    | '.' :: rest => (rest.takeWhile Char.isDigit, rest.dropWhile Char.isDigit)
    | _ => ([], cs)
  (interpret? cs).map fun suffix =>
    { negative, digits := digitsValue (num ++ denom), places := denom.length, suffix }

/-- `removeInt64Factors`: `n` divided by `base` as long as it divides, and how many times. -/
def removeFactors (base : Nat) : Nat → Nat → Nat × Nat
  | 0, n => (n, 0)
  | fuel + 1, n =>
    if n ≠ 0 ∧ n % base = 0 then
      let (m, t) := removeFactors base fuel (n / base)
      (m, t + 1)
    else (n, 0)

/-- Round `m × 10^e` up to a whole number of nano-units. -/
def roundNano (m : Nat) (e : Int) : Nat × Int :=
  if e < -9 then ((m + 10 ^ (-9 - e).toNat - 1) / 10 ^ (-9 - e).toNat, -9) else (m, e)

/-- The decimal SI suffix of an exponent that is a multiple of three in `[-9, 18]`. -/
def decimalSuffixText (e : Int) : String :=
  if e = -9 then "n" else if e = -6 then "u" else if e = -3 then "m" else if e = 3 then "k"
  else if e = 6 then "M" else if e = 9 then "G" else if e = 12 then "T" else if e = 15 then "P"
  else if e = 18 then "E" else ""

/-- `AsCanonicalBytes` with the suffix of the format: the value `m × 10^e` (not zero) with the
factors of ten moved into the exponent, the exponent brought down to a multiple of three, and
written with a decimal SI suffix or, in exponent form, as `e<exp>`. -/
def decimalText (exponentForm : Bool) (m : Nat) (e : Int) : String :=
  let (m, e) := roundNano m e
  let (m, t) := removeFactors 10 (m + 1) m
  let e := e + t
  let r := e % 3
  let m := m * 10 ^ r.toNat
  let e := e - r
  if exponentForm then toString m ++ (if e = 0 then "" else "e" ++ toString e)
  else if e > 18 then toString (m * 10 ^ (e - 18).toNat) ++ "E"
  else toString m ++ decimalSuffixText e

/-- The binary SI suffix of `1024^j`. -/
def binarySuffixText : Nat → String
  | 1 => "Ki" | 2 => "Mi" | 3 => "Gi" | 4 => "Ti" | 5 => "Pi" | 6 => "Ei" | _ => ""

/-- `CanonicalizeBytes` of a binary SI value `m × 10^(-places)` (not zero): decimal SI below
1024 or when not a whole number, else the largest binary suffix that divides it. -/
def binaryText (m places : Nat) : String :=
  let (m, e) := roundNano m (-(places : Int))
  let p := (-e).toNat
  if m < 1024 * 10 ^ p ∨ m % 10 ^ p ≠ 0 then decimalText false m e
  else
    let (a, j) := removeFactors 1024 (m / 10 ^ p + 1) (m / 10 ^ p)
    if j ≤ 6 then toString a ++ binarySuffixText j
    else toString (a * 1024 ^ (j - 6)) ++ "Ei"

/-- The canonical text of a parsed quantity. -/
def Parsed.canonical (q : Parsed) : String :=
  if q.digits = 0 then "0" else
  (if q.negative then "-" else "") ++
    match q.suffix with
    | .decimalSI e => decimalText false q.digits (e - q.places)
    | .decimalExponent e => decimalText true q.digits (e - q.places)
    | .binarySI k => binaryText (q.digits * 2 ^ k) q.places

end Quantity

/-- The text the API server stores for a quantity written as `s`. -/
def canonicalQuantity (s : String) : String :=
  (Quantity.parse? s).elim s Quantity.Parsed.canonical

example : canonicalQuantity "1000m" = "1" := by decide
example : canonicalQuantity "1500m" = "1500m" := by decide
example : canonicalQuantity "0.5" = "500m" := by decide
example : canonicalQuantity "1024Mi" = "1Gi" := by decide

end KubeNovaOperator
