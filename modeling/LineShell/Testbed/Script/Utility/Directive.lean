/-
The directives of a format: how a text or a number is written into a field
of a width, with so many places, and with flags that change its form.
-/
import LineShell.Testbed.Script.Real64

namespace LineShell.Script.Utility

/-- A directive of a format. -/
structure Directive where
  flags : Bytes
  width : Option Nat
  places : Option Nat
  letter : UInt8
  deriving DecidableEq, Repr

namespace Directive

/-- Whether a flag is set. -/
def has (flag : Char) (d : Directive) : Bool :=
  d.flags.contains flag.toUInt8

/-- A text in a field of the width. -/
def pad (text : Bytes) (d : Directive) : Bytes :=
  let space := List.replicate (d.width.getD 0 - text.length) 32
  if d.has '-' then text ++ space else space ++ text

/-- Digits behind a sign in a field of the width. -/
def padNumber (sign digits : Bytes) (d : Directive) : Bytes :=
  let digits := List.replicate (d.places.getD 1 - digits.length) 48 ++ digits
  let digits := if d.places = some 0 && digits == [48] then [] else digits
  let missing := d.width.getD 0 - (sign.length + digits.length)
  if d.has '0' && !d.has '-' && d.places.isNone then
    sign ++ List.replicate missing 48 ++ digits
  else d.pad (sign ++ digits)

/-- A text in capitals. -/
def capitals (text : Bytes) : Bytes :=
  text.map fun b => if 97 ≤ b && b ≤ 122 then b - 32 else b

/-- The sign of a number. -/
def sign (negative : Bool) (d : Directive) : Bytes :=
  if negative then [45] else if d.has '+' then [43] else if d.has ' ' then [32] else []

/-- A number with a sign. -/
def integer (n : Int) (d : Directive) : Bytes :=
  d.padNumber (d.sign (decide (n < 0))) (Real64.digits 10 n.natAbs)

/-- A number without a sign. -/
def natural (n : Nat) (d : Directive) : Bytes :=
  match Char.ofUInt8 d.letter with
  | 'o' =>
    let digits := Real64.digits 8 n
    if d.has '#' && n != 0 then d.padNumber [] (48 :: digits)
    else if d.has '#' then { d with places := d.places.map (max 1) }.padNumber [] digits
    else d.padNumber [] digits
  | 'x' => d.padNumber (if d.has '#' && n != 0 then lit "0x" else []) (Real64.digits 16 n)
  | 'X' =>
    d.padNumber (if d.has '#' && n != 0 then lit "0X" else []) (capitals (Real64.digits 16 n))
  | _ => d.padNumber [] (Real64.digits 10 n)

/-- How many places a number has that does not tell. -/
def usualPlaces : Nat := 6

/-- A number with a point. The letter tells the form, and a capital one
capitals. -/
def real (x : Real64) (d : Directive) : Bytes :=
  let inCase (text : Bytes) : Bytes := if d.letter < 97 then capitals text else text
  match x with
  | .infinite negative => d.pad (d.sign negative ++ inCase (lit "inf"))
  | .undefined negative => d.pad (d.sign negative ++ inCase (lit "nan"))
  | .finite negative mantissa exponent =>
    let (num, den) := Real64.ratio mantissa exponent
    let places := d.places.getD usualPlaces
    let (start, text) := match Char.ofUInt8 (d.letter ||| 32) with
      | 'f' => ([], Real64.fixed (d.has '#') places num den)
      | 'e' => ([], Real64.scientific (d.has '#') places num den)
      | 'g' => ([], Real64.general (d.has '#') places num den)
      | _ => (lit "0x", Real64.hexadecimal (d.has '#') d.places mantissa exponent)
    let start := d.sign negative ++ inCase start
    let missing := d.width.getD 0 - (start.length + text.length)
    if d.has '0' && !d.has '-' then start ++ List.replicate missing 48 ++ inCase text
    else d.pad (start ++ inCase text)

/-- A directive that is not carried out, as it is shown: its flags in a
fixed order, its sizes, what stands behind them, and its letter with the
size of a number in front of it. -/
def malformed (behind : Bytes) (d : Directive) : Bytes :=
  let number (n : Nat) : Bytes := Real64.digits 10 n
  let width := match d.width with
    | none | some 0 => []
    | some n => number n
  let places := (d.places.map fun n => 46 :: number n).getD []
  let letter := match Char.ofUInt8 d.letter with
    | 'd' | 'i' | 'o' | 'u' | 'x' | 'X' => [108, d.letter]
    | 'b' => [115]
    | _ => [d.letter]
  [37] ++ (if d.has '#' then [35] else []) ++ d.sign false ++ (if d.has '-' then [45] else [])
    ++ (if d.has '0' && !d.has '-' then [48] else []) ++ width ++ places ++ behind ++ letter

end Directive

end LineShell.Script.Utility
