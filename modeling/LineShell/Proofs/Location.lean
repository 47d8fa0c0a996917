/-
Where a walk through a file tree ends, and that the path of that place
leads to it again.

A location is grounded (`FileTree.Grounded`) if something other than a link
stands there. All that is above it is a directory then, and its names are
names, because a file tree is one. A walk that begins at such a location
ends at one (`Grounded.walk`), whatever links it has followed, because
after a link it goes on from the root or from where it was. Walking the
names of a grounded location again follows no link, so it leads there if
it leads anywhere (`Grounded.walk_append`).
-/
import LineShell.Builtin
import Mathlib.Data.List.Induction

namespace LineShell

-- ======================================================= names of a path

namespace Path

/-- What stands between two separators has none in it. -/
theorem not_mem_of_mem_splitOn {separator : UInt8} {piece bytes : Bytes}
    (h : piece ∈ bytes.splitOn separator) : separator ∉ piece := by
  induction bytes generalizing piece with
  | nil =>
      rw [List.splitOn_nil, List.mem_singleton] at h
      rw [h]
      exact List.not_mem_nil
  | cons byte bytes ih =>
      rw [List.splitOn_cons_eq_if_modifyHead] at h
      split at h
      · rcases List.mem_cons.1 h with rfl | h
        · exact List.not_mem_nil
        · exact ih h
      · rename_i hbyte
        cases hpieces : bytes.splitOn separator with
        | nil => exact absurd hpieces (List.splitOn_ne_nil _ _)
        | cons first pieces =>
            rw [hpieces, List.modifyHead_cons] at h
            rcases List.mem_cons.1 h with rfl | h
            · have hfirst : separator ∉ first := ih (by rw [hpieces]; exact List.mem_cons_self)
              intro hmem
              rcases List.mem_cons.1 hmem with heq | hmem
              · exact hbyte (by rw [heq]; exact BEq.refl _)
              · exact hfirst hmem
            · exact ih (by rw [hpieces]; exact List.mem_cons_of_mem _ h)

/-- A path against an absolute one is absolute. -/
theorem isAbsolute_join {dir : Path} (hdir : dir.isAbsolute) (p : Path) :
    (dir.join p).isAbsolute := by
  cases dir with
  | nil => cases hdir
  | cons byte dir =>
      unfold join
      split
      · rename_i h
        simpa using h
      · split
        · exact hdir
        · exact hdir

end Path

-- ================================================== the path of a location

namespace Location

theorem isAbsolute_path (l : Location) : l.path.isAbsolute := by
  cases l with
  | nil => rfl
  | cons name l => rfl

/-- The names behind a first one. -/
theorem splitOn_path {name : Bytes} (hname : Path.slash ∉ name) {l : Location}
    (hl : ∀ name ∈ l, Path.slash ∉ name) :
    (name ++ l.flatMap (Path.slash :: ·)).splitOn Path.slash = name :: l := by
  induction l generalizing name with
  | nil =>
      rw [List.flatMap_nil, List.append_nil]
      exact List.splitOn_eq_singleton hname
  | cons next l ih =>
      rw [List.flatMap_cons, List.cons_append, List.splitOn_append_cons_self_of_not_mem hname,
        ih (hl next List.mem_cons_self) fun name h => hl name (List.mem_cons_of_mem _ h)]

/-- The path of a location below the root does not end in a slash. -/
theorem getLast?_path_ne {l : Location} (hne : l ≠ []) (hl : ∀ name ∈ l, Path.IsName name) :
    l.path.getLast? ≠ some Path.slash := by
  intro hlast
  have hpath : l.path = l.flatMap (Path.slash :: ·) := by
    cases l with
    | nil => exact absurd rfl hne
    | cons name l => rfl
  obtain ⟨hname, hslash⟩ := hl (l.getLast hne) (List.getLast_mem hne)
  have hend : (Path.slash :: l.getLast hne).getLast? = some ((l.getLast hne).getLast hname) := by
    rw [List.getLast?_cons, List.getLast?_eq_some_getLast hname]
    rfl
  rw [hpath, ← List.dropLast_concat_getLast hne, List.flatMap_append, List.flatMap_singleton,
    List.getLast?_append, hend, Option.some_or] at hlast
  exact hslash (Option.some.inj hlast ▸ List.getLast_mem hname)

/-- The path of a location has its names, unless it is the root. -/
theorem names_path {l : Location} (hne : l ≠ []) (hl : ∀ name ∈ l, Path.IsName name) :
    l.path.names = l := by
  have hsplit : l.path.splitOn Path.slash = [] :: l := by
    cases l with
    | nil => exact absurd rfl hne
    | cons name l =>
        have hslash : ∀ name' ∈ name :: l, Path.slash ∉ name' := fun name' h => (hl name' h).2
        have hpath : path (name :: l)
            = [] ++ Path.slash :: (name ++ l.flatMap (Path.slash :: ·)) := rfl
        rw [hpath, List.splitOn_append_cons_self_of_not_mem List.not_mem_nil,
          splitOn_path (hslash name List.mem_cons_self)
            fun name' h => hslash name' (List.mem_cons_of_mem _ h)]
  have hbetween : ([] :: l).filter (!·.isEmpty) = l := by
    rw [List.filter_cons_of_neg (by simp), List.filter_eq_self]
    intro name hname
    simpa using (hl name hname).1
  unfold Path.names
  dsimp only
  rw [hsplit, hbetween, if_neg]
  simpa using getLast?_path_ne hne hl

theorem length_path_le (l : Location) (name : Bytes) :
    l.path.length ≤ (l ++ [name]).path.length := by
  cases l with
  | nil => simp [path]
  | cons first l =>
      simp only [path, List.cons_append, List.flatMap_cons, List.flatMap_append, List.length_cons,
        List.length_append]
      omega

/-- The system reads the path of a location. -/
def IsReadable (l : Location) : Prop :=
  l.path.length < Path.maxLength

instance (l : Location) : Decidable l.IsReadable :=
  inferInstanceAs (Decidable (_ < _))

end Location

-- ==================================================== grounded locations

namespace FileTree

variable {t : FileTree} {l l' : Location} {name : Bytes} {node : Node}

theorem isDirectory_iff :
    t.IsDirectory l ↔ ∃ serial mode, t.lookup l = some (.directory serial mode) := by
  have hlookup : t.IsDirectory l ↔ (t.lookup l).any Node.isDirectory = true := Iff.rfl
  rw [hlookup]
  constructor
  · intro h
    obtain ⟨node, hnode, hdirectory⟩ := (Option.any_eq_true _ _).1 h
    cases node with
    | directory serial mode => exact ⟨serial, mode, hnode⟩
    | _ => cases hdirectory
  · rintro ⟨serial, mode, h⟩
    rw [h]
    rfl

theorem isDirectory_root : t.IsDirectory [] :=
  t.root

theorem mem_nodes_of_lookup (h : t.lookup l = some node) : (l, node) ∈ t.nodes := by
  obtain ⟨before, after, hnodes, -⟩ := List.lookup_eq_some_iff.1 h
  rw [hnodes]
  simp

/-- What stands below the root stands under a name in a directory. -/
theorem seated_of_lookup (h : t.lookup (l ++ [name]) = some node) :
    Path.IsFileName name ∧ t.IsDirectory l := by
  have hseats := t.seated _ (mem_nodes_of_lookup h) name (by simp)
  rwa [List.dropLast_concat] at hseats

theorem isFileName_of_lookup (h : t.lookup l = some node) : ∀ name ∈ l, Path.IsFileName name := by
  induction l using List.reverseRecOn generalizing node with
  | nil => simp
  | append_singleton l name ih =>
      obtain ⟨hname, hdirectory⟩ := seated_of_lookup h
      obtain ⟨serial, mode, habove⟩ := isDirectory_iff.1 hdirectory
      intro other hother
      rcases List.mem_append.1 hother with hother | hother
      · exact ih habove other hother
      · rw [List.mem_singleton.1 hother]
        exact hname

/-- What is above anything is a directory. -/
theorem isDirectory_above (h : t.lookup l = some node) {above : Location}
    (habove : above <+: l) (hne : above ≠ l) : t.IsDirectory above := by
  induction l using List.reverseRecOn generalizing node with
  | nil => exact absurd (List.prefix_nil.1 habove) hne
  | append_singleton l name ih =>
      obtain ⟨-, hdirectory⟩ := seated_of_lookup h
      rcases List.prefix_concat_iff.1 habove with heq | hprefix
      · exact absurd heq hne
      · by_cases heq : above = l
        · rw [heq]
          exact hdirectory
        · obtain ⟨serial, mode, hlookup⟩ := isDirectory_iff.1 hdirectory
          exact ih hlookup hprefix heq

/-- Something other than a link stands at a location. -/
def Grounded (t : FileTree) (l : Location) : Prop :=
  ∃ node, t.lookup l = some node ∧ ∀ target, node ≠ .link target

theorem IsDirectory.grounded (h : t.IsDirectory l) : t.Grounded l := by
  obtain ⟨serial, mode, hlookup⟩ := isDirectory_iff.1 h
  exact ⟨_, hlookup, by simp⟩

theorem Grounded.isFileName (h : t.Grounded l) : ∀ name ∈ l, Path.IsFileName name := by
  obtain ⟨node, hlookup, -⟩ := h
  exact isFileName_of_lookup hlookup

theorem Grounded.isName (h : t.Grounded l) : ∀ name ∈ l, Path.IsName name :=
  fun name hname => (h.isFileName name hname).plain.1

theorem Grounded.hasNul_path (h : t.Grounded l) : hasNul l.path = false := by
  have hnames : 0 ∉ l.flatMap (Path.slash :: ·) := by
    simp only [List.mem_flatMap, List.mem_cons, not_exists, not_and, not_or]
    exact fun name hname => ⟨by decide, (h.isFileName name hname).noNul⟩
  cases l with
  | nil => decide
  | cons name l => simpa [hasNul, Location.path] using hnames

theorem Grounded.dropLast (h : t.Grounded l) : t.IsDirectory l.dropLast := by
  obtain ⟨node, hlookup, -⟩ := h
  by_cases hroot : l.dropLast = l
  · have hnil : l = [] := by
      have hlength := congrArg List.length hroot
      rw [List.length_dropLast] at hlength
      exact List.eq_nil_of_length_eq_zero (by omega)
    rw [hnil]
    exact isDirectory_root
  · exact isDirectory_above hlookup (List.dropLast_prefix l) hroot

/-- Where the target of a link is taken from. -/
theorem Grounded.target_base (h : t.Grounded l) (target : Path) :
    t.Grounded (if target.isAbsolute then [] else l) := by
  split
  · exact isDirectory_root.grounded
  · exact h

theorem isDirectory_of_serialAt? {serial : Nat} (h : t.serialAt? l = some serial) :
    t.IsDirectory l := by
  unfold serialAt? at h
  split at h
  · rename_i other mode hlookup
    exact isDirectory_iff.2 ⟨other, mode, hlookup⟩
  · cases h

theorem holds_iff {d : WorkingDirectory} :
    t.holds d ↔ t.serialAt? d.location = some d.serial := by
  unfold holds
  exact beq_iff_eq

/-- Where a process is, while its directory exists, is a directory. -/
theorem isDirectory_of_stand? {d : WorkingDirectory} (h : t.stand? d = some l) :
    t.IsDirectory l := by
  unfold stand? at h
  split at h
  · rename_i hholds
    cases h
    exact isDirectory_of_serialAt? (holds_iff.1 hholds)
  · obtain ⟨entry, hentry, rfl⟩ := Option.map_eq_some_iff.1 h
    have hserial := List.find?_some hentry
    exact isDirectory_of_serialAt? (beq_iff_eq.1 hserial)

-- ============================================================== searching

/-- A directory that may be searched, and so entered. -/
def Searchable (t : FileTree) (l : Location) : Prop :=
  ∃ serial mode, t.lookup l = some (.directory serial mode) ∧ t.maySearch mode

theorem Searchable.isDirectory (h : t.Searchable l) : t.IsDirectory l := by
  obtain ⟨serial, mode, hlookup, -⟩ := h
  exact isDirectory_iff.2 ⟨serial, mode, hlookup⟩

theorem searchable_iff : t.Searchable l ↔ ∃ entered, t.directoryAt l = .ok entered := by
  unfold directoryAt
  constructor
  · rintro ⟨serial, mode, hdirectory, hsearch⟩
    rw [hdirectory]
    exact ⟨_, if_pos hsearch⟩
  · rintro ⟨entered, h⟩
    split at h
    · rename_i serial mode hdirectory
      split at h
      · exact ⟨serial, mode, hdirectory, by assumption⟩
      · cases h
    · cases h
    · cases h

/-- A directory is entered where it stands. -/
theorem directoryAt_spec {entered : WorkingDirectory} (h : t.directoryAt l = .ok entered) :
    entered.location = l ∧ t.holds entered := by
  unfold directoryAt at h
  split at h
  · rename_i serial mode hlookup
    split at h
    · cases h
      refine ⟨rfl, holds_iff.2 ?_⟩
      unfold serialAt?
      rw [hlookup]
    · cases h
  · cases h
  · cases h

/-- In a directory that may be searched, whatever stands under a name is
found. -/
theorem entryAt_eq_ok_iff :
    t.entryAt l name = .ok node ↔ t.Searchable l ∧ t.lookup (l ++ [name]) = some node := by
  unfold entryAt
  constructor
  · intro h
    split at h
    · cases h
    · rename_i entered hentered
      split at h
      · cases h
      · split at h
        · rename_i hlookup
          cases h
          exact ⟨searchable_iff.2 ⟨entered, hentered⟩, hlookup⟩
        · cases h
  · rintro ⟨hsearch, hlookup⟩
    obtain ⟨entered, hentered⟩ := searchable_iff.1 hsearch
    obtain ⟨hname, -⟩ := seated_of_lookup hlookup
    rw [hentered]
    dsimp only
    rw [if_neg (Nat.not_lt.2 hname.short), hlookup]

-- ================================================================= walks

/-- A walk from a grounded location ends at one. -/
theorem Grounded.walk {links : Nat} {names : List Bytes} (hl : t.Grounded l)
    (h : t.walk links l names = .ok l') : t.Grounded l' := by
  fun_induction FileTree.walk t links l names
  case case1 =>
    cases h
    exact hl
  case case2 hdirectory ih => exact ih hdirectory.grounded h
  case case5 entered hentered ih =>
    refine ih ?_ h
    split
    · exact hl.dropLast.grounded
    · exact hl
  case case8 target hlink links ih => exact ih (hl.target_base target) h
  case case9 node hnode hfound ih =>
    exact ih ⟨node, (entryAt_eq_ok_iff.1 hfound).2, hnode⟩ h
  all_goals cases h

/-- Walking the names of a grounded location leads to it, and on from
there, or the walk fails. -/
theorem Grounded.walk_append {links : Nat} (hl : t.Grounded l) {rest : List Bytes}
    (h : t.walk links [] (l ++ rest) = .ok l') : t.walk links l rest = .ok l' := by
  induction l using List.reverseRecOn generalizing rest with
  | nil => exact h
  | append_singleton l name ih =>
      obtain ⟨node, hlookup, hnode⟩ := hl
      obtain ⟨hname, hdirectory⟩ := seated_of_lookup hlookup
      -- the walk has come to `l`, where the next name is no link
      rw [List.append_assoc] at h
      have hstep := ih hdirectory.grounded h
      rw [List.singleton_append, FileTree.walk, if_neg hname.plain.1.1,
        if_neg (not_or.2 hname.plain.2)] at hstep
      split at hstep
      · cases hstep
      · rename_i target hlink
        rw [(entryAt_eq_ok_iff.1 hlink).2] at hlookup
        exact absurd (Option.some.inj hlookup).symm (hnode target)
      · exact hstep

-- ==================================================== leading to nothing

variable {cause : SystemError}

/-- The errors of paths that lead to nothing. -/
def resolveErrors : List SystemError :=
  [.nulInPath, .noEntry, .nameTooLong, .accessDenied, .notDirectory, .tooManyLinks]

theorem mem_resolveErrors_of_directoryAt (h : t.directoryAt l = .error cause) :
    cause ∈ resolveErrors := by
  unfold directoryAt at h
  split at h
  · split at h
    · cases h
    · cases h
      decide
  all_goals
    cases h
    decide

theorem mem_resolveErrors_of_entryAt (h : t.entryAt l name = .error cause) :
    cause ∈ resolveErrors := by
  unfold entryAt at h
  split at h
  · rename_i hdirectory
    cases h
    exact mem_resolveErrors_of_directoryAt hdirectory
  · split at h
    · cases h
      decide
    · split at h
      · cases h
      · cases h
        decide

theorem mem_resolveErrors_of_walk {links : Nat} {names : List Bytes}
    (h : t.walk links l names = .error cause) : cause ∈ resolveErrors := by
  fun_induction FileTree.walk t links l names
  case case1 => cases h
  case case2 ih | case5 ih | case8 ih | case9 ih => exact ih h
  case case4 hdirectory =>
    cases h
    exact mem_resolveErrors_of_directoryAt hdirectory
  case case6 hentry =>
    cases h
    exact mem_resolveErrors_of_entryAt hentry
  all_goals
    cases h
    decide

theorem mem_resolveErrors_of_walk_located {links : Nat} {names : List Bytes}
    (h : Spot.located <$> t.walk links l names = .error cause) : cause ∈ resolveErrors := by
  cases hwalk : t.walk links l names with
  | ok location =>
      rw [hwalk] at h
      cases h
  | error error =>
      rw [hwalk] at h
      cases h
      exact mem_resolveErrors_of_walk hwalk

theorem mem_resolveErrors_of_resolveFrom {d : WorkingDirectory} {names : List Bytes}
    (h : t.resolveFrom d names = .error cause) : cause ∈ resolveErrors := by
  fun_induction resolveFrom t d names
  case case1 => cases h
  case case2 ih | case5 ih => exact ih h
  case case4 => exact mem_resolveErrors_of_walk_located h
  case case3 | case6 =>
    cases h
    decide

theorem mem_resolveErrors_of_resolve {d : WorkingDirectory} {p : Path}
    (h : t.resolve d p = .error cause) : cause ∈ resolveErrors := by
  unfold resolve at h
  split at h
  · cases h
    decide
  · split at h
    · cases h
      decide
    · split at h
      · cases h
        decide
      · split at h
        · exact mem_resolveErrors_of_walk_located h
        · exact mem_resolveErrors_of_resolveFrom h

end FileTree
end LineShell
