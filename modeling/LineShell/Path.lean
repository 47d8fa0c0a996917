/-
Paths are bytes. Two readings of them are kept apart, because they
answer differently to a slash at the end.

* The system reads a path name by name (`names`). A slash at the end
  asks for a directory, as one more name `.` would; but that directory is
  not searched, so what is behind the slash is an empty name.
* The choice between a search and a direct use looks at the components
  (`bareName?`): repeated slashes, a slash at the end and every `.` but a
  leading one do not count. So `tool/` and `tool/.` are the bare name
  `tool`, and `./tool` is not bare.

Main statement about joining: it keeps both parts as they were written
and adds at most one slash.
-/
import LineShell.Text.Utf8

namespace LineShell

/-- A path as it is written. -/
abbrev Path := Bytes

namespace Path

/-- The byte between the names of a path. -/
def slash : UInt8 := 47
/-- The byte between the entries of a search path. -/
def colon : UInt8 := 58
/-- The name of a directory in itself. -/
def here : Bytes := [46]
/-- The name of a directory's parent in it. -/
def up : Bytes := [46, 46]

/-- The longest path the system reads, its terminator included. -/
def maxLength : Nat := 4096
/-- The longest name in a path. -/
def maxNameLength : Nat := 255

/-- Whether a path starts at the root. -/
def isAbsolute (p : Path) : Bool :=
  p.head? == some slash

/-- What may stand between the slashes of a path. -/
def IsName (name : Bytes) : Prop :=
  name ≠ [] ∧ slash ∉ name

/-- A name that is neither `.` nor `..`. -/
def IsPlain (name : Bytes) : Prop :=
  IsName name ∧ name ≠ here ∧ name ≠ up

/-- A name that something can have in a directory. -/
structure IsFileName (name : Bytes) : Prop where
  plain : IsPlain name
  noNul : 0 ∉ name
  short : name.length ≤ maxNameLength

instance (name : Bytes) : Decidable (IsName name) :=
  inferInstanceAs (Decidable (_ ∧ _))

instance (name : Bytes) : Decidable (IsPlain name) :=
  inferInstanceAs (Decidable (_ ∧ _))

instance (name : Bytes) : Decidable (IsFileName name) :=
  decidable_of_iff (IsPlain name ∧ 0 ∉ name ∧ name.length ≤ maxNameLength)
    ⟨fun h => ⟨h.1, h.2.1, h.2.2⟩, fun h => ⟨h.plain, h.noNul, h.short⟩⟩

/-- A path taken against a directory. -/
def join (dir p : Path) : Path :=
  if p.isAbsolute || dir.isEmpty then p
  else if dir.getLast? == some slash then dir ++ p
  else dir ++ slash :: p

/-- A path behind an entry of a search path; an empty entry adds nothing,
and any other one is followed by a slash. -/
def behind (entry p : Path) : Path :=
  if entry.isEmpty then p else entry ++ slash :: p

/-- The names the system goes through, in order; an empty one is behind a
slash at the end. -/
def names (p : Path) : List Bytes :=
  let between := (p.splitOn slash).filter (!·.isEmpty)
  if p.getLast? == some slash then between ++ [[]] else between

/-- The one ordinary name that a path consists of, if it does. -/
def bareName? (p : Path) : Option Bytes :=
  if p.isAbsolute || (p.splitOn slash).head? == some here then none
  else match (p.splitOn slash).filter fun name => !name.isEmpty && name != here with
    | [name] => if name == up then none else some name
    | _ => none

/-- The entries of a search path, empty ones included. -/
def entries (search : Bytes) : List Path :=
  search.splitOn colon

/-- The text of a path, for messages. -/
def display (p : Path) : String :=
  Utf8.lossy p

end Path

/-- Where something is in a file tree: the names from the root to it,
none of them `.` or `..`. -/
abbrev Location := List Bytes

/-- The path of a location. -/
def Location.path : Location → Path
  | [] => [Path.slash]
  | names => names.flatMap (Path.slash :: ·)

end LineShell
