/-
The options of the shell's own commands: single letters behind a minus
sign, several of them in one argument if need be, some with a value. They
end at the first argument that is none, or behind `--`.
-/
import LineShell.Testbed.Script.Bindings

namespace LineShell.Script.Utility

/-- An option that was given, with its value if it takes one. -/
structure Choice where
  letter : Char
  value : Bytes := []
  deriving DecidableEq, Repr

/-- Reads options, of letters that take no value and of letters that do;
gives them with the arguments behind them. -/
def readOptions (plain valued : List Char) (arguments : List Bytes) :
    Act (List Choice × List Bytes) :=
  repeatFrom (([] : List Choice), ([] : Bytes), arguments) fun (taken, letters, arguments) => do
    let taking (b : UInt8) (letters : Bytes) (arguments : List Bytes) :
        Act ((List Choice × Bytes × List Bytes) ⊕ (List Choice × List Bytes)) := do
      let letter := Char.ofUInt8 b
      if plain.contains letter then return .inl ({ letter } :: taken, letters, arguments)
      if !valued.contains letter then fail (lit "Illegal option -" ++ [b])
      match letters, arguments with
      | [], [] => fail (lit "No arg for -" ++ b :: lit " option")
      | [], value :: arguments => return .inl ({ letter, value } :: taken, [], arguments)
      | value, arguments => return .inl ({ letter, value } :: taken, [], arguments)
    match letters, arguments with
    | b :: letters, arguments => taking b letters arguments
    | [], [45, 45] :: arguments => return .inr (taken.reverse, arguments)
    | [], (45 :: b :: letters) :: arguments => taking b letters arguments
    | [], arguments => return .inr (taken.reverse, arguments)

/-- Reads the arguments of a command that has no options. -/
def withoutOptions (arguments : List Bytes) : Act (List Bytes) :=
  (·.2) <$> readOptions [] [] arguments

end LineShell.Script.Utility
