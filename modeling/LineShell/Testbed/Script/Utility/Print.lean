/-
Printing: the commands `echo` and `printf`.

Both know the same escapes (`Escape.read`); `echo` and the directive `%b`
also take `\c`, which ends all output.
-/
import LineShell.Testbed.Script.Utility.Directive
import LineShell.Testbed.Script.Utility.Options

namespace LineShell.Script.Utility

namespace Escape

/-- The byte that a letter behind a backslash stands for. -/
def ofLetter? (b : UInt8) : Option UInt8 :=
  match Char.ofUInt8 b with
  | '\\' => some 92
  | 'a' => some 7
  | 'b' => some 8
  | 'e' => some 27
  | 'f' => some 12
  | 'n' => some 10
  | 'r' => some 13
  | 't' => some 9
  | 'v' => some 11
  | _ => none

/-- Whether a byte is an octal digit. -/
def isOctal (b : UInt8) : Bool := 48 ≤ b && b ≤ 55

/-- What a backslash stands for before some bytes, and what follows. -/
def read (rest : Bytes) : UInt8 × Bytes :=
  match rest with
  | [] => (92, [])
  | b :: more =>
    if isOctal b then
      let digits := (rest.take 3).takeWhile isOctal
      (digits.foldl (fun n d => n * 8 + (d - 48)) 0, rest.drop digits.length)
    else match ofLetter? b with
      | some c => (c, more)
      | none => (92, rest)

/-- A text with its escapes replaced, as far as it is to be printed, and
whether it ends all output. -/
def text : Nat → Bytes → Bytes × Bool
  | 0, rest => (rest, false)
  | fuel + 1, rest =>
    let plain := rest.takeWhile (· != 92)
    match rest.drop plain.length with
    | _ :: 99 :: _ => (plain, true)
    | _ :: rest =>
      let rest := match rest with
        | 48 :: d :: _ => if isOctal d then rest.drop 1 else rest
        | rest => rest
      let (b, rest) := read rest
      let (behind, ends) := text fuel rest
      (plain ++ b :: behind, ends)
    | [] => (plain, false)

end Escape

/-- The text of an argument whose escapes are replaced. -/
def unescaped (argument : Bytes) : Bytes × Bool :=
  Escape.text (argument.length + 1) argument

/-- Prints arguments with their escapes replaced. -/
def echo (arguments : List Bytes) : Act Nat := do
  match arguments with
  | [45, 110] :: arguments => print (echoed [] arguments)
  | arguments => print (echoed [10] arguments)
  return 0
where
  /-- Arguments with blanks between them and an end behind them. -/
  echoed (ended : Bytes) : List Bytes → Bytes
    | [] => ended
    | argument :: rest =>
      match unescaped argument with
      | (text, true) => text
      | (text, false) => text ++ if rest.isEmpty then ended else 32 :: echoed ended rest

-- ================================================================== printf

/-- Formatting: the arguments left, what was printed, and the status. -/
structure Formatting where
  arguments : List Bytes
  /-- Whether an argument was used in this round. -/
  used : Bool := false
  printed : Bytes := []
  status : Nat := 0

namespace Formatting

/-- Prints bytes. -/
def emit (bytes : Bytes) (f : Formatting) : Formatting :=
  { f with printed := f.printed ++ bytes }

/-- Takes an argument. -/
def take (f : Formatting) : Option Bytes × Formatting :=
  match f.arguments with
  | argument :: arguments => (some argument, { f with arguments, used := true })
  | [] => (none, f)

/-- Complains of an argument. -/
def complain (text : Bytes) (reason : String) (f : Formatting) : Act Formatting := do
  warn (text ++ lit (": " ++ reason))
  return { f with status := 1 }

/-- Complains of an argument that is no number, or not all of it, or one
that is out of range. -/
def judge (text rest : Bytes) (isNumber inRange : Bool) (f : Formatting) : Act Formatting := do
  if !isNumber then
    if text.isEmpty then return f else f.complain text "expected numeric value"
  else if !rest.isEmpty then f.complain text "not completely converted"
  else if !inRange then f.complain text "Numerical result out of range"
  else return f

/-- The byte behind a quotation mark, whose number an argument stands for. -/
def quotedByte? (text : Bytes) : Option UInt8 :=
  match text with
  | b :: rest => if b = 34 || b = 39 then some (rest.head?.getD 0) else none
  | [] => none

/-- Takes an argument as a whole number, signed or not. A number that is
out of range is the nearest one in it; one that is not to be signed is
taken by its distance from zero. -/
def takeNumber (signed : Bool) (f : Formatting) : Act (Int × Formatting) := do
  let (argument?, f) := f.take
  match argument? with
  | none => return (0, f)
  | some text =>
    if let some b := quotedByte? text then return (b.toNat, f)
    match Arithmetic.readSigned true text with
    | none => return (0, ← f.judge text [] false true)
    | some (n, fits, rest) =>
      let inRange := if signed then fits else decide (n.natAbs ≤ Arithmetic.largestNatural)
      let value : Int :=
        if inRange then n
        else if !signed then Arithmetic.largestNatural
        else if n < 0 then -Arithmetic.maximum - 1
        else Arithmetic.maximum
      return (value, ← f.judge text rest true inRange)

/-- Takes an argument as a number with a point. -/
def takeReal (f : Formatting) : Act (Real64 × Formatting) := do
  let (argument?, f) := f.take
  match argument? with
  | none => return (.finite false 0 0, f)
  | some text =>
    if let some b := quotedByte? text then return (.finite false b.toNat 0, f)
    match Real64.read text with
    | none => return (.finite false 0 0, ← f.judge text [] false true)
    | some read => return (read.value, ← f.judge text read.rest true read.inRange)

/-- The largest width, or number of places. -/
def largestSize : Nat := 2147483647

/-- A width or a number of places, if there is one, and the stray digits
and stars behind it, from a star on. -/
structure Size where
  value? : Option Int
  stray : Bytes := []

/-- Reads a width or a number of places. An argument that is too large is
taken as far as its bits go. -/
def readSize (format : Bytes) (f : Formatting) : Act (Size × Bytes × Formatting) := do
  match format with
  | 42 :: format =>
    let (n, f) ← f.takeNumber true
    return ({ value? := n.bmod (2 * (largestSize + 1)) }, format, f)
  | format =>
    let text := format.takeWhile fun b => isDigit b || b == 42
    let digits := text.takeWhile isDigit
    let n := digits.foldl (fun n d => n * 10 + (d.toNat - 48)) 0
    if largestSize < n then fail (lit "xvsnprintf failed")
    let value? := if digits.isEmpty then none else some (n : Int)
    return ({ value?, stray := text.drop digits.length }, format.drop text.length, f)

/-- Carries out a directive; says whether all output ends with it. -/
def carryOut (d : Directive) (text : Bytes) (f : Formatting) : Act (Bool × Formatting) := do
  match Char.ofUInt8 d.letter with
  | 'b' =>
    let (argument?, f) := f.take
    let (shown, ends) := unescaped (argument?.getD [])
    let shown := match d.places with
      | some n => shown.take n
      | none => shown
    return (ends, f.emit (d.pad shown))
  | 'c' =>
    let (argument?, f) := f.take
    return (false, f.emit (d.pad [((argument?.getD []).head?).getD 0]))
  | 's' =>
    let (argument?, f) := f.take
    let shown := argument?.getD []
    let shown := match d.places with
      | some n => shown.take n
      | none => shown
    return (false, f.emit (d.pad shown))
  | 'd' | 'i' =>
    let (n, f) ← f.takeNumber true
    return (false, f.emit (d.integer n))
  | 'o' | 'u' | 'x' | 'X' =>
    let (n, f) ← f.takeNumber false
    return (false, f.emit (d.natural (Arithmetic.bits n)))
  | 'a' | 'A' | 'e' | 'E' | 'f' | 'F' | 'g' | 'G' =>
    let (x, f) ← f.takeReal
    return (false, f.emit (d.real x))
  | _ => fail (text ++ lit ": invalid directive")

/-- Reads and carries out a directive, behind its percent sign. One with a
stray star takes its argument and is itself shown. -/
def directive (format : Bytes) (f : Formatting) : Act (Bool × Bytes × Formatting) := do
  let flags := format.takeWhile ((lit "#-+ 0").contains ·)
  let (width, behindWidth, f) ← f.readSize (format.drop flags.length)
  let (places?, rest, f) ← match behindWidth with
    | 46 :: rest => do
      let (places, rest, f) ← f.readSize rest
      pure (some { places with value? := places.value?.getD 0 }, rest, f)
    | rest => pure (none, rest, f)
  let flags := if width.value?.getD 0 < 0 then 45 :: flags else flags
  match rest with
  | [] => fail (lit "missing format character")
  | letter :: rest' =>
    let places := (places?.bind (·.value?)).bind fun n => if n < 0 then none else some n.toNat
    let d : Directive := { flags, width := width.value?.map (·.natAbs), places, letter }
    let text := 37 :: format.take (format.length - rest'.length)
    let (ends, g) ← { f with printed := [] }.carryOut d text
    let shown :=
      if !width.stray.isEmpty then
        { d with places := none }.malformed
          (width.stray ++ behindWidth.take (behindWidth.length - rest.length))
      else match places? with
        | some places => if places.stray.isEmpty then g.printed else d.malformed places.stray
        | none => g.printed
    return (ends, rest', { g with printed := f.printed ++ shown })

/-- Goes through a format once; says whether all output ends. -/
def round (format : Bytes) (f : Formatting) : Act (Bool × Formatting) :=
  repeatFrom (format, f) fun (format, f) => do
    match format with
    | [] => return .inr (false, f)
    | 92 :: rest =>
      let (b, rest) := Escape.read rest
      return .inl (rest, f.emit [b])
    | 37 :: 37 :: rest => return .inl (rest, f.emit [37])
    | 37 :: rest =>
      print f.printed
      let (ends, rest, f) ← { f with printed := [] }.directive rest
      print f.printed
      let f := { f with printed := [] }
      if ends then return .inr (true, f)
      return .inl (rest, f)
    | b :: rest => return .inl (rest, f.emit [b])

end Formatting

/-- Prints arguments in a format, which is used as often as it takes. -/
def printf (arguments : List Bytes) : Act Nat := do
  match ← withoutOptions arguments with
  | [] => fail (lit "usage: printf format [arg ...]")
  | format :: arguments =>
    repeatFrom ({ arguments : Formatting }) fun f => do
      let (ends, f) ← { f with used := false }.round format
      print f.printed
      let f := { f with printed := [] }
      if ends || !f.used || f.arguments.isEmpty then return .inr f.status
      return .inl f

end LineShell.Script.Utility
