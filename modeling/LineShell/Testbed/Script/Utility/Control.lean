/-
Leaving loops, functions and the shell: `break`, `continue`, `return` and
`exit`; and the commands that only have a status.
-/
import LineShell.Testbed.Script.Utility.Options

namespace LineShell.Script.Utility

/-- Leaves loops, or begins their next round. -/
def leaveLoops (again : Bool) (arguments : List Bytes) : Act Nat := do
  let count ← match arguments with
    | [] => pure 1
    | argument :: _ => do
      let count ← readCount argument
      if count = 0 then fail (lit "Illegal number: " ++ argument)
      pure count
  let count := min count (← look (·.loops))
  if count > 0 then
    change ({ · with skip := some (if again then .again count else .leaving count) })
  return 0

/-- Leaves a function or a file of commands. -/
def leaveFunction (arguments : List Bytes) : Act Nat := do
  match arguments with
  | [] =>
    change ({ · with skip := some .returningAsIs })
    look (·.status)
  | argument :: _ =>
    let status ← readCount argument
    change ({ · with skip := some .returning })
    return status

/-- Ends the shell. -/
def exit (arguments : List Bytes) : Act Nat := do
  if let argument :: _ := arguments then
    let status ← readCount argument
    change ({ · with settled := some status })
  throw .exited

end LineShell.Script.Utility
