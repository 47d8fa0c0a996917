/-
Canonical forms of paths, as `realpath` computes them. The names of a path
are gone through in the program and not by the system: `.` and `..` are
settled without asking, and for every other name the system is asked for
what stands under it, by the path from the root that has been made so far
(`entryByPath`). That path has to be one that the system reads, and all
directories on it have to be searched.

So `..` leads out of a directory that may not be searched, which it does
not where the system goes through the names. A name that is followed by
`..`, or by nothing but `.` or a slash, has to be that of a directory,
though: the system is asked for it once more, with a slash behind it
(`asksForDirectory`).
-/
import LineShell.FileTree.Resolve

namespace LineShell
namespace FileTree

/-- Whether names ask for a directory where they begin: they say no more than
that, or lead back out of it. -/
def asksForDirectory : List Bytes → Bool
  | [] => false
  | name :: rest =>
    if name = [] ∨ name = Path.here then rest.isEmpty || asksForDirectory rest
    else name == Path.up

/-- What stands under a name at a location, of which the path is given. -/
def entryByPath (t : FileTree) (l : Location) (name : Bytes) : Except SystemError Node :=
  if Path.maxLength ≤ (l ++ [name]).path.length then .error .nameTooLong
  else match t.walk maxLinks [] l with
    | .error e => .error e
    | .ok l => t.entryAt l name

/-- Goes through names from a location, asking for one path after the other. -/
def trace (t : FileTree) (links : Nat) (l : Location) (names : List Bytes) :
    Except SystemError Location :=
  match names with
  | [] => .ok l
  | name :: rest =>
    if name = [] ∨ name = Path.here then trace t links l rest
    else if name = Path.up then trace t links l.dropLast rest
    else match t.entryByPath l name with
      | .error e => .error e
      | .ok (.link target) =>
        match links with
        | 0 => .error .tooManyLinks
        | links + 1 =>
          trace t links (if target.isAbsolute then [] else l) (target.names ++ rest)
      | .ok node =>
        if asksForDirectory rest then
          if Path.maxLength ≤ (l ++ [name]).path.length + 1 then .error .nameTooLong
          else if node.isDirectory then trace t links (l ++ [name]) rest
          else .error .notDirectory
        else trace t links (l ++ [name]) rest
termination_by (links, names.length)

/-- The location of a path, links followed, as an absolute path names it. -/
def canonical (t : FileTree) (d : WorkingDirectory) (p : Path) :
    Except SystemError Location :=
  if hasNul p then .error .nulInPath
  else match t.base? d p with
    | none => .error .noEntry
    | some base => t.trace maxLinks base p.names

end FileTree
end LineShell
