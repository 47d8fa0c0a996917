/-
Numbers with a point, as machines keep them in 64 bits: a whole number of
at most 53 bits times a power of two, the two infinities, and what is no
number.

A number that is written down, in decimal or hexadecimal, is read exactly
and then rounded to the nearest of these, of two equally near to the even
one (`Real64.ofRatio`). The text of one is made from its exact value, which
is rounded in the same way to the places that are asked for
(`roundRatio`).
-/
import LineShell.Testbed.Script.Arithmetic

namespace LineShell.Script

/-- The whole number nearest to a ratio; of two, the even one. -/
def roundRatio (num den : Nat) : Nat :=
  let whole := num / den
  let rest := 2 * (num % den)
  if den < rest || (den = rest && whole % 2 = 1) then whole + 1 else whole

/-- A number of 64 bits. -/
inductive Real64
  /-- A whole number times a power of two. -/
  | finite (negative : Bool) (mantissa : Nat) (exponent : Int)
  | infinite (negative : Bool)
  | undefined (negative : Bool)
  deriving DecidableEq, Repr

namespace Real64

/-- How many bits a mantissa has at most. -/
def mantissaBits : Nat := 53

/-- The least exponent, and the largest. -/
def leastExponent : Int := -1074
def largestExponent : Int := 971

/-- The numerator and the denominator of a ratio over a power of a base. -/
def overPower (base num den : Nat) (exponent : Int) : Nat × Nat :=
  match exponent with
  | .ofNat n => (num, den * base.pow n)
  | .negSucc n => (num * base.pow (n + 1), den)

/-- The ratio that a mantissa and an exponent are. -/
def ratio (mantissa : Nat) (exponent : Int) : Nat × Nat :=
  overPower 2 mantissa 1 (-exponent)

/-- The number nearest to a ratio, and whether it is in the range of those
that are kept with all their bits. -/
def ofRatio (negative : Bool) (num den : Nat) : Real64 × Bool :=
  if num = 0 then (.finite negative 0 0, true)
  else
    let limit : Nat := 1 <<< mantissaBits
    let lead : Int := (num.log2 : Int) - den.log2
    let low := max (lead - mantissaBits) leastExponent
    let (n, d) := overPower 2 num den low
    let exponent := if limit ≤ n / d then low + 1 else low
    let (n, d) := overPower 2 num den exponent
    let mantissa := roundRatio n d
    let (mantissa, exponent) :=
      if mantissa = limit then (limit / 2, exponent + 1) else (mantissa, exponent)
    if largestExponent < exponent then (.infinite negative, false)
    else (.finite negative mantissa exponent, limit / 2 ≤ mantissa || n % d = 0)

-- ================================================================ reading

/-- What is read of a number: its value, whether that is in range, and
what follows. -/
structure Read where
  value : Real64
  inRange : Bool := true
  rest : Bytes

/-- A text without a beginning, in capitals or not. -/
def dropWord? (word : String) (text : Bytes) : Option Bytes :=
  let lower (b : UInt8) : UInt8 := if 65 ≤ b && b ≤ 90 then b + 32 else b
  let length := word.utf8ByteSize
  if (text.take length).map lower == lit word then some (text.drop length) else none

/-- Reads an exponent behind its letter: its value and what follows. There
is none without a digit. -/
def exponent? (letter : UInt8) (text : Bytes) : Option (Int × Bytes) :=
  match text with
  | b :: rest =>
    if b ||| 32 != letter then none
    else
      let (negative, rest) := match rest with
        | 45 :: rest => (true, rest)
        | 43 :: rest => (false, rest)
        | rest => (false, rest)
      (Arithmetic.readDigits 10 rest).map fun (n, rest) =>
        (if negative then -(n : Int) else n, rest)
  | [] => none

/-- Reads the digits of a number to a base, with a point among them: the
digits as a whole number, how many stand behind the point, and what
follows. -/
def points? (base : Nat) (text : Bytes) : Option (Nat × Nat × Bytes) :=
  let isDigit (b : UInt8) : Bool := Arithmetic.digitValue b < base
  let whole := text.takeWhile isDigit
  let behind := text.drop whole.length
  let (part, rest) := match behind with
    | 46 :: more => (more.takeWhile isDigit, more.drop (more.takeWhile isDigit).length)
    | behind => ([], behind)
  if whole.isEmpty && part.isEmpty then none
  else
    let n := (whole ++ part).foldl (fun n b => n * base + Arithmetic.digitValue b) 0
    some (n, part.length, rest)

/-- An exponent beyond which, either way, a number of so many digits is out
of range. -/
def farExponent (digits : Nat) : Int := digits + 5000

/-- The number that digits are, moved by a power of a base. -/
def scaled (negative : Bool) (base digits : Nat) (exponent : Int) : Real64 × Bool :=
  let far := farExponent digits.log2
  if digits = 0 then (.finite negative 0 0, true)
  else if far < exponent then (.infinite negative, false)
  else if exponent < -far then (.finite negative 0 0, false)
  else
    let (num, den) := overPower base digits 1 (-exponent)
    ofRatio negative num den

/-- Reads a number without a sign. -/
def readUnsigned (negative : Bool) (text : Bytes) : Option Read :=
  let decimal : Option Read :=
    (points? 10 text).map fun (n, places, rest) =>
      let (exponent, rest) := (exponent? 101 rest).getD (0, rest)
      let (value, inRange) := scaled negative 10 n (exponent - places)
      { value, inRange, rest }
  let hexadecimal : Option Read := do
    let rest ← dropWord? "0x" text
    let (n, places, rest) ← points? 16 rest
    let (exponent, rest) := (exponent? 112 rest).getD (0, rest)
    let (value, inRange) := scaled negative 2 n (exponent - 4 * places)
    some { value, inRange, rest }
  let infinite : Option Read := do
    let rest ← dropWord? "inf" text
    some { value := .infinite negative, rest := (dropWord? "inity" rest).getD rest }
  let undefined : Option Read := do
    let rest ← dropWord? "nan" text
    let behind := match rest with
      | 40 :: more => match more.dropWhile inName with
        | 41 :: behind => behind
        | _ => rest
      | rest => rest
    some { value := .undefined negative, rest := behind }
  hexadecimal <|> decimal <|> infinite <|> undefined

/-- Reads a number with a sign, behind white space. -/
def read (text : Bytes) : Option Read :=
  match text.dropWhile Arithmetic.isSpace with
  | 45 :: rest => readUnsigned true rest
  | 43 :: rest => readUnsigned false rest
  | text => readUnsigned false text

-- ================================================================ writing

/-- The digits of a number. -/
def digits (base n : Nat) : Bytes :=
  lit (String.ofList (Nat.toDigits base n))

/-- A part behind a point; the point is left out if nothing follows,
unless it is to stay. -/
def behindPoint (stays : Bool) (part : Bytes) : Bytes :=
  if part.isEmpty && !stays then [] else 46 :: part

/-- A number of decimal places behind which all are zeros. -/
def maxPlaces : Nat := 1100

/-- Digits with a point in front of the last of them, of which there are so
many, and zeros behind. -/
def pointed (pointStays : Bool) (places zeros : Nat) (text : Bytes) : Bytes :=
  let text := List.replicate (places + 1 - text.length) 48 ++ text
  text.take (text.length - places)
    ++ behindPoint pointStays (text.drop (text.length - places) ++ List.replicate zeros 48)

/-- A text without the zeros at its end, and without a point there. -/
def dropZeros (text : Bytes) : Bytes :=
  if !text.contains 46 then text
  else
    match text.reverse.dropWhile (· == 48) with
    | 46 :: rest => rest.reverse
    | rest => rest.reverse

/-- A number with so many decimal places. -/
def fixed (pointStays : Bool) (places : Nat) (num den : Nat) : Bytes :=
  let exact := min places maxPlaces
  let n := roundRatio (num * Nat.pow 10 exact) den
  pointed pointStays exact (places - exact) (digits 10 n)

/-- The decimal exponent of a ratio that is not zero: that of the largest
power of ten which is not above it. -/
def decimalExponent (num den : Nat) : Int :=
  let lead : Int := (num.log2 : Int) - den.log2
  let near := Int.fdiv (lead * 30103) 100000
  let isBelow (d : Int) : Bool :=
    let (n, m) := overPower 10 num den d
    decide (m ≤ n)
  (([2, 1, 0, -1].map (near + ·)).find? isBelow).getD (near - 2)

/-- The first digits of a ratio, so many behind the first one, as a whole
number, and the exponent of the first one. -/
def leading (places num den : Nat) : Nat × Int :=
  if num = 0 then (0, 0)
  else
    let exponent := decimalExponent num den
    let (n, d) := overPower 10 num den (exponent - places)
    let first := roundRatio n d
    if first = Nat.pow 10 (places + 1) then (first / 10, exponent + 1) else (first, exponent)

/-- An exponent behind its letter, of at least so many digits. -/
def exponentText (letter : UInt8) (least : Nat) (exponent : Int) : Bytes :=
  let text := digits 10 exponent.natAbs
  letter :: (if exponent < 0 then 45 else 43)
    :: List.replicate (least - text.length) 48 ++ text

/-- A number with one digit in front of the point and an exponent. -/
def scientific (pointStays : Bool) (places num den : Nat) : Bytes :=
  let exact := min places maxPlaces
  let (n, exponent) := leading exact num den
  let text := digits 10 n
  let text := text ++ List.replicate (places + 1 - text.length) 48
  text.take 1 ++ behindPoint pointStays (text.drop 1) ++ exponentText 101 2 exponent

/-- A number with so many digits that matter, in the shorter of the two
forms; zeros at the end stay only if they are to. They stay away in any
case of a power of ten that is too large for the first form and that only
rounding has made so large. -/
def general (zerosStay : Bool) (count num den : Nat) : Bytes :=
  let count := max count 1
  let exponent := (leading (min (count - 1) maxPlaces) num den).2
  if zerosStay && num ≠ 0 && exponent = count && decimalExponent num den < count then
    [49, 46] ++ exponentText 101 2 exponent
  else if -4 ≤ exponent && exponent < count then
    let text := fixed zerosStay (count - 1 - exponent).toNat num den
    if zerosStay then text else dropZeros text
  else
    let text := scientific zerosStay (count - 1) num den
    let start := text.takeWhile (· != 101)
    (if zerosStay then start else dropZeros start) ++ text.drop start.length

/-- How many hexadecimal places a mantissa has. -/
def hexPlaces : Nat := 13

/-- A number in hexadecimal, as many places as told or as it takes, with an
exponent of two. -/
def hexadecimal (pointStays : Bool) (places? : Option Nat) (mantissa : Nat) (exponent : Int) :
    Bytes :=
  /- A mantissa that is not zero is brought to all its bits, if it can be. -/
  let shift := min (mantissaBits - 1 - mantissa.log2) (exponent - leastExponent).toNat
  let (mantissa, exponent) :=
    if mantissa = 0 then (0, (0 : Int))
    else (mantissa <<< shift, exponent - shift + (mantissaBits - 1))
  let places := places?.getD hexPlaces
  let exact := min places hexPlaces
  let n := roundRatio mantissa (Nat.pow 16 (hexPlaces - exact))
  let text := pointed pointStays exact (places - exact) (digits 16 n)
  let text :=
    if places?.isSome then text
    else if pointStays && (dropZeros text).length = 1 then (dropZeros text) ++ [46]
    else dropZeros text
  text ++ exponentText 112 1 exponent

end Real64
end LineShell.Script
