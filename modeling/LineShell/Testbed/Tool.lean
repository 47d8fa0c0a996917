/-
The programs of the machine that are no shells.
-/
import LineShell.Testbed.Tool.Concatenation
import LineShell.Testbed.Tool.Echo
import LineShell.Testbed.Tool.Environment
import LineShell.Testbed.Tool.Expression
import LineShell.Testbed.Tool.Files

namespace LineShell.Host.Tool

/-- What a program does that is no shell. -/
def run (program : Program) : Activity Outcome :=
  match program.tool with
  | "true" => return .exited 0
  | "echo" => Echo.run program
  | "env" => Environment.run program
  | "expr" => Expression.run program
  | "cat" => Concatenation.run program
  | "pwd" => pwd program
  | "rmdir" => rmdir program
  | _ => return .exited 1

end LineShell.Host.Tool
