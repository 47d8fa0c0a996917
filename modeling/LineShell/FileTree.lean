/-
File trees: what stands at which location, and the walk that finds the
location of a path.

# Everything stands in a directory

A file tree carries what makes it one (`FileTree.root`,
`FileTree.seated`): its root is a directory, and whatever else stands in it
stands in a directory, under a name that something can have. A change that
would not leave it so does not happen (`FileTree.Admits`).

# Directories have an identity

A process stays in its directory when that is removed, and stays out of
a new one that takes its place. Every directory therefore has a serial
number that no other directory of the tree has had, and a working
directory is a location with the serial number found there when it was
entered (`WorkingDirectory`, `FileTree.holds`). It may stand elsewhere by
now, under another name (`FileTree.stand?`).

A removed directory keeps the way to its parent, even when the parent is
removed as well. The tree therefore remembers for each directory that was
removed in which directory it stood (`FileTree.orphans`).

# The walk

`walk` goes through the names of a path, from a directory, following
every symbolic link; it is bounded by the number of links that may be
followed. Where it succeeds it ends at a location on whose way there is
no link.
-/
import LineShell.Path
import LineShell.SystemError

namespace LineShell

/-- The devices of the machine. -/
inductive Device
  /-- It is empty, and discards what is written to it. -/
  | void
  /-- It is always full, and reads as zeros. -/
  | full
  /-- It reads as zeros, and discards what is written to it. -/
  | zeros
  /-- The terminal, of which there is none. -/
  | terminal
  deriving DecidableEq, Repr

/-- What stands at a location. The permission bits are kept of everything
that can be entered or started. -/
inductive Node
  | directory (serial : Nat) (mode : Nat)
  | file (contents : Bytes) (mode : Nat)
  | link (target : Path)
  | fifo (mode : Nat)
  /-- A program that belongs to the machine. -/
  | tool (name : String)
  | device (d : Device)
  /-- What one who opens it has open as a descriptor. -/
  | descriptor (number : Nat)
  deriving DecidableEq, Repr

/-- A node with other permission bits. -/
def Node.withMode (mode : Nat) : Node → Node
  | .directory serial _ => .directory serial mode
  | .file contents _ => .file contents mode
  | .fifo _ => .fifo mode
  | node => node

/-- Whether something is a directory. -/
def Node.isDirectory : Node → Bool
  | .directory _ _ => true
  | _ => false

/-- What stands where. -/
abbrev Entries := List (Location × Node)

namespace Entries

/-- Whether a directory stands at a location. -/
def hasDirectory (entries : Entries) (l : Location) : Bool :=
  (entries.lookup l).any Node.isDirectory

/-- Whether something can stand at a location: if it is not the root, it is
under a name in a directory. -/
def Seats (entries : Entries) (l : Location) : Prop :=
  ∀ name ∈ l.getLast?, Path.IsFileName name ∧ entries.hasDirectory l.dropLast

instance (entries : Entries) (l : Location) : Decidable (entries.Seats l) :=
  inferInstanceAs (Decidable (∀ name ∈ l.getLast?, _))

theorem lookup_filter (entries : Entries) (keeps : Location → Bool) {l : Location}
    (h : keeps l) : List.lookup l (entries.filter fun entry => keeps entry.1)
      = entries.lookup l := by
  induction entries with
  | nil => rfl
  | cons entry entries ih =>
      obtain ⟨other, node⟩ := entry
      rw [List.lookup_cons]
      by_cases hkeeps : keeps other
      · rw [List.filter_cons_of_pos (by exact hkeeps), List.lookup_cons, ih]
      · have hne : (l == other) = false := by
          refine Bool.eq_false_iff.2 fun heq => hkeeps ?_
          rw [← eq_of_beq heq]
          exact h
        rw [List.filter_cons_of_neg (by exact hkeeps), hne, ih]

theorem hasDirectory_filter (entries : Entries) (keeps : Location → Bool) {l : Location}
    (h : keeps l) :
    hasDirectory (entries.filter fun entry => keeps entry.1) l = entries.hasDirectory l := by
  unfold hasDirectory
  rw [lookup_filter entries keeps h]

/-- What can stand where it does still can if the directories do not go. -/
theorem Seats.mono {entries others : Entries} {l : Location} (h : entries.Seats l)
    (hdirectory : l ≠ [] → entries.hasDirectory l.dropLast → others.hasDirectory l.dropLast) :
    others.Seats l := by
  intro name hname
  obtain ⟨hfile, habove⟩ := h name hname
  refine ⟨hfile, hdirectory ?_ habove⟩
  rintro rfl
  cases hname

end Entries

/-- A file tree, as one user sees it. -/
structure FileTree where
  nodes : Entries
  /-- The serial number of the next directory. -/
  fresh : Nat
  /-- The directories that were removed, by serial number, each with the
  one it stood in. -/
  orphans : List (Nat × Nat) := []
  /-- Whether the user is exempt from permission bits. One who is not has
  the rights of an owner. -/
  privileged : Bool := false
  root : nodes.hasDirectory [] := by exact of_decide_eq_true rfl
  seated : ∀ entry ∈ nodes, nodes.Seats entry.1 := by exact of_decide_eq_true rfl
  deriving DecidableEq, Repr

/-- A directory that a process is in. -/
structure WorkingDirectory where
  location : Location
  serial : Nat
  deriving DecidableEq, Repr

namespace FileTree

/-- A tree of one empty directory. -/
def empty : FileTree :=
  { nodes := [([], .directory 0 0o755)], fresh := 1 }

/-- What stands at a location. -/
def lookup (t : FileTree) (l : Location) : Option Node :=
  t.nodes.lookup l

/-- Whether a directory stands at a location. -/
def IsDirectory (t : FileTree) (l : Location) : Prop :=
  t.nodes.hasDirectory l

instance (t : FileTree) (l : Location) : Decidable (t.IsDirectory l) :=
  inferInstanceAs (Decidable (_ = _))

/-- The serial number of the directory at a location. -/
def serialAt? (t : FileTree) (l : Location) : Option Nat :=
  match t.lookup l with
  | some (.directory serial _) => some serial
  | _ => none

/-- Whether the working directory is where it was entered. -/
def holds (t : FileTree) (d : WorkingDirectory) : Bool :=
  t.serialAt? d.location == some d.serial

/-- Where the directory of a serial number stands. -/
def locate? (t : FileTree) (serial : Nat) : Option Location :=
  (t.nodes.find? fun entry => t.serialAt? entry.1 == some serial).map (·.1)

/-- Where a working directory stands, if it still exists. -/
def stand? (t : FileTree) (d : WorkingDirectory) : Option Location :=
  if t.holds d then some d.location else t.locate? d.serial

-- ========================================================== permissions

/-- Whether a mode has a bit for the user, given as that of the owner. -/
def allows (t : FileTree) (bit : Nat) (mode : Nat) : Bool :=
  t.privileged || mode &&& bit != 0

/-- Whether something of a mode may be read. -/
def mayRead (t : FileTree) (mode : Nat) : Bool := t.allows 0o400 mode

/-- Whether something of a mode may be written to. -/
def mayWrite (t : FileTree) (mode : Nat) : Bool := t.allows 0o200 mode

/-- Whether a directory of a mode may be searched and entered. -/
def maySearch (t : FileTree) (mode : Nat) : Bool := t.allows 0o100 mode

/-- Whether a file of a mode may be executed. The privileged user is
content with anyone's bit. -/
def mayExecute (t : FileTree) (mode : Nat) : Bool :=
  if t.privileged then mode &&& 0o111 != 0 else mode &&& 0o100 != 0

-- ============================================================== the walk

/-- How many symbolic links one walk follows. -/
def maxLinks : Nat := 40

/-- The directory at a location, to be searched or entered. -/
def directoryAt (t : FileTree) (l : Location) : Except SystemError WorkingDirectory :=
  match t.lookup l with
  | some (.directory serial mode) =>
    if t.maySearch mode then .ok ⟨l, serial⟩ else .error .accessDenied
  | some _ => .error .notDirectory
  | none => .error .noEntry

/-- What stands under a name in the directory at a location. -/
def entryAt (t : FileTree) (l : Location) (name : Bytes) : Except SystemError Node :=
  match t.directoryAt l with
  | .error e => .error e
  | .ok _ =>
    if Path.maxNameLength < name.length then .error .nameTooLong
    else match t.lookup (l ++ [name]) with
      | some node => .ok node
      | none => .error .noEntry

/-- Goes through names from the directory at a location. -/
def walk (t : FileTree) (links : Nat) (l : Location) (names : List Bytes) :
    Except SystemError Location :=
  match names with
  | [] => .ok l
  | name :: rest =>
    if name = [] then
      if t.IsDirectory l then walk t links l rest else .error .notDirectory
    else if name = Path.here ∨ name = Path.up then
      match t.directoryAt l with
      | .error e => .error e
      | .ok _ => walk t links (if name = Path.up then l.dropLast else l) rest
    else match t.entryAt l name with
      | .error e => .error e
      | .ok (.link target) =>
        match links with
        | 0 => .error .tooManyLinks
        | links + 1 =>
          walk t links (if target.isAbsolute then [] else l) (target.names ++ rest)
      | .ok _ => walk t links (l ++ [name]) rest
termination_by (links, names.length)

-- ============================================================== changes

/-- Whether nothing stands below a location. -/
def IsLeaf (t : FileTree) (l : Location) : Prop :=
  ∀ entry ∈ t.nodes, l <+: entry.1 → entry.1 = l

instance (t : FileTree) (l : Location) : Decidable (t.IsLeaf l) :=
  inferInstanceAs (Decidable (∀ entry ∈ t.nodes, _))

/-- Whether something may be put at a location: it can stand there, and what
stands below it keeps its directory. -/
def Admits (t : FileTree) (l : Location) (n : Node) : Prop :=
  t.nodes.Seats l ∧ (n.isDirectory ∨ l ≠ [] ∧ t.IsLeaf l)

instance (t : FileTree) (l : Location) (n : Node) : Decidable (t.Admits l n) :=
  inferInstanceAs (Decidable (_ ∧ _))

theorem hasDirectory_insert {t : FileTree} {l m : Location} {n : Node}
    (h : t.nodes.hasDirectory m) (hnode : m = l → n.isDirectory) :
    Entries.hasDirectory ((l, n) :: t.nodes.filter (·.1 != l)) m := by
  by_cases hm : m = l
  · subst hm
    unfold Entries.hasDirectory
    rw [List.lookup_cons_self]
    exact hnode rfl
  · have hkept := t.nodes.hasDirectory_filter (· != l) (l := m) (by simpa using hm)
    unfold Entries.hasDirectory at h hkept ⊢
    rw [List.lookup_cons, beq_false_of_ne hm]
    exact hkept.trans h

/-- Puts something at a location, if it may be put there. -/
def insert (t : FileTree) (l : Location) (n : Node) : FileTree :=
  if h : t.Admits l n then
    { t with
      nodes := (l, n) :: t.nodes.filter (·.1 != l)
      root := hasDirectory_insert t.root fun hl => h.2.resolve_right fun hleaf => hleaf.1 hl.symm
      seated := by
        intro entry hentry
        rcases List.mem_cons.1 hentry with rfl | hentry
        · -- it does not stand in itself
          refine h.1.mono fun hne habove => hasDirectory_insert habove fun heq => ?_
          have hlength := congrArg List.length heq
          rw [List.length_dropLast] at hlength
          have hlength' := List.length_pos_iff.2 hne
          omega
        · obtain ⟨hmem, hother⟩ := List.mem_filter.1 hentry
          refine (t.seated entry hmem).mono fun _ habove => hasDirectory_insert habove fun heq => ?_
          refine h.2.resolve_right fun hleaf => bne_iff_ne.1 hother ?_
          exact hleaf.2 entry hmem (heq ▸ List.dropLast_prefix _) }
  else t

/-- Makes a new directory at a location. -/
def insertDirectory (t : FileTree) (l : Location) (mode : Nat) : FileTree :=
  { t.insert l (.directory t.fresh mode) with fresh := t.fresh + 1 }

/-- The directories at and below a location, each with the one it stands in. -/
def nested (t : FileTree) (l : Location) : List (Nat × Nat) :=
  t.nodes.filterMap fun entry =>
    if l.isPrefixOf entry.1 then do
      let serial ← t.serialAt? entry.1
      let parent ← t.serialAt? entry.1.dropLast
      pure (serial, parent)
    else none

/-- Removes what stands at a location and everything below it. The root
stays. -/
def erase (t : FileTree) (l : Location) : FileTree :=
  if hroot : l = [] then t
  else
    { t with
      nodes := t.nodes.filter fun entry => !l.isPrefixOf entry.1
      orphans := t.nested l ++ t.orphans
      root := by
        rw [t.nodes.hasDirectory_filter (!l.isPrefixOf ·) (by cases l <;> simp_all)]
        exact t.root
      seated := by
        intro entry hentry
        obtain ⟨hmem, hkept⟩ := List.mem_filter.1 hentry
        refine (t.seated entry hmem).mono fun _ habove => ?_
        rw [t.nodes.hasDirectory_filter (!l.isPrefixOf ·)]
        · exact habove
        · simp only [Bool.not_eq_true', ← Bool.not_eq_true, List.isPrefixOf_iff_prefix] at hkept ⊢
          exact fun hbelow => hkept (hbelow.trans (List.dropLast_prefix _)) }

/-- Where something named by the last name of an absolute path stands, or
would stand; a link there is not followed. -/
def seat? (t : FileTree) (p : Path) : Option Location :=
  match p.names.getLast? with
  | none => none
  | some name =>
    match t.walk maxLinks [] p.names.dropLast with
    | .ok l => some (l ++ [name])
    | .error _ => none

/-- Makes a directory and those missing on the way to it. -/
def makeDirectories (t : FileTree) (p : Path) : FileTree :=
  (p.names.foldl (fun (t, l) name =>
    match t.walk maxLinks l [name] with
    | .ok next => (t, next)
    | .error _ => (t.insertDirectory (l ++ [name]) 0o755, l ++ [name])) (t, [])).1

/-- Where something that names lead to would be made: all but the last
name have to exist, and a link that the last one is of is followed. -/
def vacancy (t : FileTree) (links : Nat) (l : Location) (names : List Bytes) :
    Except SystemError Location :=
  match names.getLast? with
  | none => .error .isDirectory
  | some name =>
    match t.walk maxLinks l names.dropLast with
    | .error e => .error e
    | .ok parent =>
      if name = [] ∨ name = Path.here ∨ name = Path.up then .error .isDirectory
      else if Path.maxNameLength < name.length then .error .nameTooLong
      else match t.lookup parent, t.lookup (parent ++ [name]) with
        | some (.directory _ _), some (.link target) =>
          match links with
          | 0 => .error .tooManyLinks
          | links + 1 => vacancy t links (if target.isAbsolute then [] else parent) target.names
        | some (.directory _ _), _ => .ok (parent ++ [name])
        | some _, _ => .error .notDirectory
        | none, _ => .error .noEntry

/-- Writes a file; links are followed. -/
def writeFile (t : FileTree) (p : Path) (contents : Bytes) (mode : Nat) : FileTree :=
  match t.vacancy maxLinks [] p.names with
  | .ok l => t.insert l (.file contents mode)
  | .error _ => t

/-- Makes a symbolic link. -/
def makeLink (t : FileTree) (p target : Path) : FileTree :=
  match t.seat? p with
  | some l => t.insert l (.link target)
  | none => t

/-- Makes a fifo. -/
def makeFifo (t : FileTree) (p : Path) (mode : Nat) : FileTree :=
  match t.seat? p with
  | some l => t.insert l (.fifo mode)
  | none => t

/-- Changes the permission bits of something; links are followed. -/
def setMode (t : FileTree) (p : Path) (mode : Nat) : FileTree :=
  match t.walk maxLinks [] p.names with
  | .ok l => match t.lookup l with
    | some node => t.insert l (node.withMode mode)
    | none => t
  | .error _ => t

/-- Removes something and everything below it; a link itself is removed. -/
def remove (t : FileTree) (p : Path) : FileTree :=
  match t.seat? p with
  | some l => t.erase l
  | none => t

end FileTree
end LineShell
