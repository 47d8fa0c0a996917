/-
The report of an error that ends a program. It is no part of the
interpreter, which gives the error a heading and returns it. What is taken
of the report is this.

* Causes: the heading stands first, and behind it the error and what has
  caused it, each in its turn. If these are more than one they are
  numbered, from 0 on.
* Margin: what is told of a cause stands behind a margin, every line of
  it.
-/
import LineShell.Text.Utf8

namespace LineShell.Report

/-- A text behind a margin, the first line of it behind a mark. -/
def indented (mark margin text : String) : String :=
  mark ++ ("\n" ++ margin).intercalate ((text.toList.splitOn '\n').map String.ofList)

/-- The number of a cause, in a column of its own. -/
def numberMark (n : Nat) : String :=
  String.ofList (List.replicate (5 - n.repr.length) ' ') ++ n.repr ++ ": "

/-- What has caused an error. -/
def causeLines : List String → List String
  | [cause] => [indented "    " "    " cause]
  | causes => causes.zipIdx.map fun (cause, n) => indented (numberMark n) "       " cause

/-- The report of an error under a heading. -/
def text (heading : String) (causes : List String) : String :=
  "Error: " ++ heading
    ++ (if causes.isEmpty then "" else "\n\nCaused by:")
    ++ String.join ((causeLines causes).map ("\n" ++ ·)) ++ "\n"

end LineShell.Report
