/-
Environment variables. The variables of a process have bytes for names
and values; the interpreter keeps variables of its own, which have texts.
A name has one value in both (`Bindings.nodup`), and no order of them
shows.

A process sees its variables as strings `NAME=VALUE` and searches them
for a name up to the `=`. So a name that has an `=` in it finds a
variable whose value continues it (`ProcessVariables.find?`).
-/
import LineShell.Text.Utf8

namespace LineShell

/-- Values under names, one under each. -/
@[ext]
structure Bindings (κ ν : Type) where
  entries : List (κ × ν) := []
  nodup : (entries.map Prod.fst).Nodup := by exact of_decide_eq_true rfl
  deriving DecidableEq, Repr

namespace Bindings

variable {κ ν : Type}

/-- No values. -/
def empty : Bindings κ ν where
  entries := []
  nodup := List.nodup_nil

variable [DecidableEq κ]

/-- The value that entries have under a name. -/
def valueIn (name : κ) : List (κ × ν) → Option ν
  | [] => none
  | entry :: entries => if name = entry.1 then some entry.2 else valueIn name entries

/-- The value under a name. -/
def lookup (name : κ) (b : Bindings κ ν) : Option ν :=
  valueIn name b.entries

/-- Entries with a value under a name: in the place of the value that is
there, or at the end. -/
def putEntry (name : κ) (value : ν) : List (κ × ν) → List (κ × ν)
  | [] => [(name, value)]
  | entry :: entries =>
    if entry.1 = name then (name, value) :: entries else entry :: putEntry name value entries

theorem mem_map_fst_putEntry {name other : κ} {value : ν} {entries : List (κ × ν)} :
    other ∈ (putEntry name value entries).map Prod.fst
      ↔ other = name ∨ other ∈ entries.map Prod.fst := by
  induction entries with
  | nil => simp [putEntry]
  | cons entry entries ih =>
      rw [putEntry]
      split
      · rename_i hname
        simp [hname]
      · simp [ih, or_left_comm]

theorem nodup_putEntry (name : κ) (value : ν) {entries : List (κ × ν)}
    (h : (entries.map Prod.fst).Nodup) : ((putEntry name value entries).map Prod.fst).Nodup := by
  induction entries with
  | nil => simp [putEntry]
  | cons entry entries ih =>
      rw [List.map_cons, List.nodup_cons] at h
      rw [putEntry]
      split
      · rename_i hname
        rw [List.map_cons, List.nodup_cons]
        exact ⟨hname ▸ h.1, h.2⟩
      · rename_i hname
        rw [List.map_cons, List.nodup_cons, mem_map_fst_putEntry, not_or]
        exact ⟨⟨hname, h.1⟩, ih h.2⟩

/-- Puts a value under a name. One that was there is lost. -/
def put (name : κ) (value : ν) (b : Bindings κ ν) : Bindings κ ν where
  entries := putEntry name value b.entries
  nodup := nodup_putEntry name value b.nodup

/-- Puts values under names, one after the other. -/
def putAll (entries : List (κ × ν)) (b : Bindings κ ν) : Bindings κ ν :=
  entries.foldl (fun b entry => b.put entry.1 entry.2) b

end Bindings

/-- The variables of a process. -/
abbrev ProcessVariables := Bindings Bytes Bytes

/-- The variables of the interpreter. -/
abbrev Variables := Bindings String String

namespace ProcessVariables

/-- A variable as a process sees it. -/
def line (entry : Bytes × Bytes) : Bytes :=
  entry.1 ++ 61 :: entry.2

/-- The variables as a process sees them. -/
def lines (vars : ProcessVariables) : List Bytes :=
  vars.entries.map line

/-- The value that stands first behind a name and its `=`. -/
def valueAmong (lines : List Bytes) (name : String) : Option Bytes :=
  let start := Bytes.ofText name ++ [61]
  (lines.find? fun line => start.isPrefixOf line).map fun line => line.drop start.length

/-- The value that a process finds under a name. -/
def find? (vars : ProcessVariables) (name : String) : Option Bytes :=
  if name.isEmpty then none else valueAmong vars.lines name

/-- The variables of a process with the interpreter's laid over them. -/
def overlay (vars : ProcessVariables) (own : Variables) : ProcessVariables :=
  vars.putAll (own.entries.map fun entry => (Bytes.ofText entry.1, Bytes.ofText entry.2))

/-- A variable as text, if it is. -/
def textEntry? (entry : Bytes × Bytes) : Option (String × String) := do
  return (← Utf8.decode? entry.1, ← Utf8.decode? entry.2)

/-- The variables of a process as text, if all of them are text. -/
def asText? (vars : ProcessVariables) : Option Variables :=
  (vars.entries.mapM textEntry?).map fun entries => Bindings.putAll entries .empty

end ProcessVariables
end LineShell
