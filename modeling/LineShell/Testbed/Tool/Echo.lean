/-
The program `echo`: it prints its arguments. Options in front of them
leave the newline out (`n`), replace sequences behind a backslash (`e`),
or leave them alone (`E`).
-/
import LineShell.Testbed.Tool.Report

namespace LineShell.Host.Tool.Echo

/-- Whether an argument is made of options. -/
def isOption (argument : Bytes) : Bool :=
  argument.head? = some 45 && argument.length > 1
    && (argument.drop 1).all fun b => b == 110 || b == 101 || b == 69

/-- The value of a digit to a base. -/
def digit? (base : Nat) (b : UInt8) : Option Nat :=
  let n := if 48 ≤ b && b ≤ 57 then b.toNat - 48
    else if 97 ≤ b && b ≤ 102 then b.toNat - 87
    else if 65 ≤ b && b ≤ 70 then b.toNat - 55
    else base
  if n < base then some n else none

/-- Reads at most so many digits. -/
def digits (base : Nat) : Nat → Nat → Bytes → Nat × Bytes
  | count + 1, n, b :: rest =>
    match digit? base b with
    | some d => digits base count (n * base + d) rest
    | none => (n, b :: rest)
  | _, n, rest => (n, rest)

/-- The byte that a letter behind a backslash stands for. -/
def letter? : UInt8 → Option UInt8
  | 97 => some 7
  | 98 => some 8
  | 101 => some 27
  | 102 => some 12
  | 110 => some 10
  | 114 => some 13
  | 116 => some 9
  | 118 => some 11
  | 92 => some 92
  | _ => none

/-- A text with sequences behind a backslash replaced, and whether it goes
on behind the text. -/
def replaced : Nat → Bytes → Bytes × Bool
  | 0, text => (text, true)
  | _ + 1, [] => ([], true)
  | fuel + 1, 92 :: 99 :: _ => let _ := fuel; ([], false)
  | fuel + 1, 92 :: b :: rest =>
    let behind (bytes rest : Bytes) : Bytes × Bool :=
      let (text, goesOn) := replaced fuel rest
      (bytes ++ text, goesOn)
    match letter? b with
    | some c => behind [c] rest
    | none =>
      if b = 120 then
        match digits 16 2 0 rest with
        | (n, left) =>
          if left.length = rest.length then behind [92, 120] rest else behind [n.toUInt8] left
      else if b = 48 then
        let (n, left) := digits 8 3 0 rest
        behind [n.toUInt8] left
      else if 49 ≤ b && b ≤ 55 then
        let (n, left) := digits 8 3 0 (b :: rest)
        behind [n.toUInt8] left
      else behind [92, b] rest
  | fuel + 1, b :: rest =>
    let (text, goesOn) := replaced fuel rest
    (b :: text, goesOn)

/-- The program. -/
def run (program : Program) : Activity Outcome :=
  let options := program.arguments.takeWhile isOption
  let letters := (options.map (·.drop 1)).flatten
  let replaces := letters.foldl (fun on b =>
    if b == 101 then true else if b == 69 then false else on) false
  let text := [32].intercalate (program.arguments.drop options.length)
  let (text, goesOn) := if replaces then replaced (text.length + 1) text else (text, true)
  let ending : Bytes := if goesOn && !letters.contains 110 then [10] else []
  endPrinting program (text ++ ending)

end LineShell.Host.Tool.Echo
