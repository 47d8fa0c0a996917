/-
The files of the machine: what is there before anything is added, and
what reading from or writing to a path comes to.
-/
import LineShell.Channel
import LineShell.FileTree

namespace LineShell.Host

-- =============================================================== users

/-- The users of the machine, with their homes. -/
def homes : List (String × String) :=
  [("root", "/root"), ("daemon", "/usr/sbin"), ("bin", "/bin"), ("sys", "/dev"),
    ("sync", "/bin"), ("games", "/usr/games"), ("man", "/var/cache/man"),
    ("lp", "/var/spool/lpd"), ("mail", "/var/mail"), ("news", "/var/spool/news"),
    ("uucp", "/var/spool/uucp"), ("proxy", "/bin"), ("www-data", "/var/www"),
    ("backup", "/var/backups"), ("list", "/var/list"), ("irc", "/run/ircd"),
    ("_apt", "/nonexistent"), ("nobody", "/nonexistent")]

-- ======================================================== the file tree

/-- The programs of the machine. -/
def tools : List String :=
  ["sh", "true", "false", "echo", "pwd", "cat", "rmdir", "expr", "env"]

/-- A path of text. -/
def path (text : String) : Path := Bytes.ofText text

/-- The directories of the machine, with what the user may do in them. -/
def directories : List (String × Nat) :=
  [("/", 0o555), ("/dev", 0o555), ("/dev/fd", 0o555), ("/usr", 0o555), ("/usr/bin", 0o555), ("/tmp", 0o1777)]

/-- The devices of the machine. -/
def devices : List (String × Device) :=
  [("null", .void), ("full", .full), ("zero", .zeros), ("tty", .terminal)]

/-- The names of what is open as the first descriptors. -/
def standardNames : List (String × Nat) := [("stdin", 0), ("stdout", 1), ("stderr", 2)]

/-- The file tree of the machine before anything is added to it. -/
def files : FileTree :=
  let t := directories.foldl (fun t (p, _) => t.makeDirectories (path p)) FileTree.empty
  let t := t.makeLink (path "/bin") (path "usr/bin")
  let t := tools.foldl (fun t name =>
    t.insert [path "usr", path "bin", path name] (.tool name)) t
  let t := devices.foldl (fun t (name, d) =>
    t.insert [path "dev", path name] (.device d)) t
  let t := (List.range 10).foldl (fun t number =>
    t.insert [path "dev", path "fd", path (toString number)] (.descriptor number)) t
  let t := standardNames.foldl (fun t (name, number) =>
    t.insert [path "dev", path name] (.link (path s!"fd/{number}"))) t
  directories.foldl (fun t (p, mode) => t.setMode (path p) mode) t

/-- The channel that writes to what stands at an absolute path. -/
def outputTo (t : FileTree) (p : Path) : Channel :=
  match t.walk FileTree.maxLinks [] p.names with
  | .ok l => match t.lookup l with
    | some (.device .full) => { room := some 0, refusal := some .noSpace }
    | some (.file contents _) => { file? := some ⟨⟨l, 0⟩, contents⟩ }
    | _ => {}
  | .error _ => {}

/-- What can be read of what stands at an absolute path. -/
def inputFrom (t : FileTree) (p : Path) : Except SystemError Feed :=
  match t.walk FileTree.maxLinks [] p.names with
  | .ok l => match t.lookup l with
    | some (.file contents _) => .ok (.ofFile l contents)
    | some (.directory _ _) => .error .isDirectory
    | _ => .ok {}
  | .error e => .error e

end LineShell.Host
