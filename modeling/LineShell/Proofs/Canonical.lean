/-
Where paths lead when the system is asked for one of their names after the
other, and what of that `cd` asks for. There is one rule for each kind of name
(`FileTree.Traces`). What a name stands for is answered if the root leads to it
by a path that the system reads (`FileTree.Answers`); `.` and `..` are settled
without a question. The canonical form of a path is the location that its names
lead to so, from the root or from where the process is, by no more links than
may be followed (`FileTree.canonical_eq_ok_iff`).

# What `cd` asks for

A canonical path is grounded, so what it leads to is the location itself, and
that is entered if the root leads to it and if the directory there may be
searched (`FileTree.Grounded.enter_path_eq_ok_iff`). Nothing more is asked,
neither of the process nor of the path that was given (`Session.CanEnter`,
`Builtin.cdGoal_eq_ok_iff`).
-/
import LineShell.Proofs.Resolution

namespace LineShell
namespace FileTree

-- ================================================== the rules for the names

/-- What stands under a name at a location is answered if the root leads to the
location, if it may be searched, and if the path to be asked for is read. -/
structure Answers (t : FileTree) (l : Location) (name : Bytes) (node : Node) : Prop where
  reached : t.Reached l
  searched : t.Searchable l
  found : t.lookup (l ++ [name]) = some node
  short : (l ++ [name]).path.length < Path.maxLength

/-- Names lead from one location to another by answers of the system, and by a
number of links. -/
inductive Traces (t : FileTree) : Nat → Location → List Bytes → Location → Prop
  | arrived (l : Location) : Traces t 0 l [] l
  | stay {n : Nat} {l l' : Location} {name : Bytes} {rest : List Bytes}
      (settled : name = [] ∨ name = Path.here) (more : Traces t n l rest l') :
      Traces t n l (name :: rest) l'
  /-- Whether the directory may be searched does not matter. -/
  | up {n : Nat} {l l' : Location} {rest : List Bytes} (more : Traces t n l.dropLast rest l') :
      Traces t n l (Path.up :: rest) l'
  /-- What is left, or left at that, has to be a directory, also if it is asked
  for with a slash at the end. -/
  | down {n : Nat} {l l' : Location} {name : Bytes} {node : Node} {rest : List Bytes}
      (answers : t.Answers l name node) (notLink : ∀ target, node ≠ .link target)
      (asked : asksForDirectory rest →
        node.isDirectory ∧ (l ++ [name]).path.length + 1 < Path.maxLength)
      (more : Traces t n (l ++ [name]) rest l') : Traces t n l (name :: rest) l'
  | link {n : Nat} {l l' : Location} {name : Bytes} {target : Path} {rest : List Bytes}
      (answers : t.Answers l name (.link target))
      (more : Traces t n (if target.isAbsolute then [] else l) (target.names ++ rest) l') :
      Traces t (n + 1) l (name :: rest) l'

variable {t : FileTree} {d : WorkingDirectory} {p : Path} {l l' : Location} {name : Bytes}
  {names rest : List Bytes} {node : Node} {n links : Nat}

theorem Traces.grounded (h : t.Traces n l names l') (hl : t.Grounded l) : t.Grounded l' := by
  induction h with
  | arrived => exact hl
  | stay settled more ih => exact ih hl
  | up more ih => exact ih hl.dropLast.grounded
  | down answers notLink asked more ih => exact ih ⟨_, answers.found, notLink⟩
  | link answers more ih => exact ih (hl.target_base _)

theorem entryByPath_eq_ok_iff (hl : t.Grounded l) :
    t.entryByPath l name = .ok node ↔ t.Answers l name node := by
  unfold entryByPath
  constructor
  · intro h
    split at h
    · cases h
    · rename_i hshort
      split at h
      · cases h
      · rename_i hwalk
        obtain ⟨rfl, hreached⟩ := (hl.walk_eq_ok_iff maxLinks).1 hwalk
        obtain ⟨hsearch, hfound⟩ := entryAt_eq_ok_iff.1 h
        exact ⟨hreached, hsearch, hfound, Nat.not_le.1 hshort⟩
  · rintro ⟨hreached, hsearch, hfound, hshort⟩
    rw [if_neg (Nat.not_le.2 hshort), (hl.walk_eq_ok_iff maxLinks).2 ⟨rfl, hreached⟩]
    exact entryAt_eq_ok_iff.2 ⟨hsearch, hfound⟩

/-- Names lead where the rules say, if there are not too many links. -/
theorem Traces.trace_eq_ok (h : t.Traces n l names l') (hl : t.Grounded l) (hfew : n ≤ links) :
    t.trace links l names = .ok l' := by
  induction h generalizing links with
  | arrived => rw [trace]
  | stay settled more ih =>
      rw [trace, if_pos settled]
      exact ih hl hfew
  | up more ih =>
      rw [trace, if_neg (by decide), if_pos rfl]
      exact ih hl.dropLast.grounded hfew
  | @down n l l' name node rest answers notLink asked more ih =>
      obtain ⟨⟨hplain, -, -⟩, -⟩ := seated_of_lookup answers.found
      have hnext := ih ⟨_, answers.found, notLink⟩ hfew
      have hanswer := (entryByPath_eq_ok_iff hl).2 answers
      rw [trace, if_neg (not_or.2 ⟨hplain.1.1, hplain.2.1⟩), if_neg hplain.2.2]
      split
      · rename_i herror
        rw [hanswer] at herror
        cases herror
      · rename_i target hlink
        rw [hanswer] at hlink
        exact absurd (Except.ok.inj hlink) (notLink target)
      · rename_i other _ hother
        obtain rfl : node = other := Except.ok.inj (hanswer.symm.trans hother)
        split
        · rename_i hasks
          obtain ⟨hdirectory, hshort⟩ := asked hasks
          rw [if_neg (Nat.not_le.2 hshort), if_pos hdirectory, hnext]
        · exact hnext
  | @link n l l' name target rest answers more ih =>
      obtain ⟨⟨hplain, -, -⟩, -⟩ := seated_of_lookup answers.found
      obtain ⟨links, rfl⟩ : ∃ fewer, links = fewer + 1 := ⟨links - 1, by omega⟩
      rw [trace, if_neg (not_or.2 ⟨hplain.1.1, hplain.2.1⟩), if_neg hplain.2.2,
        (entryByPath_eq_ok_iff hl).2 answers]
      exact ih (hl.target_base target) (Nat.le_of_succ_le_succ hfew)

/-- Where names lead that were traced the rules say. -/
theorem exists_traces_of_trace (hl : t.Grounded l) (h : t.trace links l names = .ok l') :
    ∃ n, t.Traces n l names l' ∧ n ≤ links := by
  fun_induction FileTree.trace t links l names
  case case1 =>
    cases h
    exact ⟨0, .arrived _, Nat.zero_le _⟩
  case case2 settled ih =>
    obtain ⟨n, hn, hfew⟩ := ih hl h
    exact ⟨n, .stay settled hn, hfew⟩
  case case3 ih =>
    obtain ⟨n, hn, hfew⟩ := ih hl.dropLast.grounded h
    exact ⟨n, .up hn, hfew⟩
  case case6 target hanswer links ih =>
    obtain ⟨n, hn, hfew⟩ := ih (hl.target_base target) h
    exact ⟨n + 1, .link ((entryByPath_eq_ok_iff hl).1 hanswer) hn, Nat.succ_le_succ hfew⟩
  case case8 node hnode hanswer hasks hshort hdirectory ih =>
    have answers := (entryByPath_eq_ok_iff hl).1 hanswer
    obtain ⟨n, hn, hfew⟩ := ih ⟨node, answers.found, hnode⟩ h
    exact ⟨n, .down answers hnode (fun _ => ⟨hdirectory, Nat.not_le.1 hshort⟩) hn, hfew⟩
  case case10 node hnode hanswer hasks ih =>
    have answers := (entryByPath_eq_ok_iff hl).1 hanswer
    obtain ⟨n, hn, hfew⟩ := ih ⟨node, answers.found, hnode⟩ h
    exact ⟨n, .down answers hnode (fun h => absurd h hasks) hn, hfew⟩
  all_goals cases h

-- ======================================================= the canonical form

theorem isDirectory_of_base? {base : Location} (h : t.base? d p = some base) :
    t.IsDirectory base := by
  unfold base? at h
  split at h
  · cases h
  · split at h
    · cases h
      exact isDirectory_root
    · exact isDirectory_of_stand? h

/-- A path leads to a location by answers of the system, and by a number of
links. -/
def TracesTo (t : FileTree) (d : WorkingDirectory) (p : Path) (n : Nat) (l : Location) : Prop :=
  hasNul p = false ∧ ∃ base, t.base? d p = some base ∧ t.Traces n base p.names l

/-- The canonical form is where a path leads to, if there are not too many
links on the way. -/
theorem canonical_eq_ok_iff :
    t.canonical d p = .ok l ↔ ∃ n, t.TracesTo d p n l ∧ n ≤ maxLinks := by
  unfold canonical TracesTo
  constructor
  · intro h
    split at h
    · cases h
    · rename_i hnul
      split at h
      · cases h
      · rename_i base hbase
        have hgrounded := (isDirectory_of_base? hbase).grounded
        obtain ⟨n, hn, hfew⟩ := exists_traces_of_trace hgrounded h
        exact ⟨n, ⟨Bool.eq_false_iff.2 hnul, base, hbase, hn⟩, hfew⟩
  · rintro ⟨n, ⟨hnul, base, hbase, hn⟩, hfew⟩
    rw [hnul, if_neg Bool.false_ne_true, hbase]
    exact hn.trace_eq_ok (isDirectory_of_base? hbase).grounded hfew

theorem grounded_of_canonical (h : t.canonical d p = .ok l) : t.Grounded l := by
  obtain ⟨n, ⟨-, base, hbase, hn⟩, -⟩ := canonical_eq_ok_iff.1 h
  exact hn.grounded (isDirectory_of_base? hbase).grounded

theorem base?_of_isAbsolute (hp : p.isAbsolute) (d : WorkingDirectory) :
    t.base? d p = some [] := by
  have hne : p.isEmpty = false := by
    cases p with
    | nil => cases hp
    | cons byte p => rfl
  unfold base?
  rw [hne, if_neg Bool.false_ne_true, if_pos hp]

/-- A path that begins at the root is the same to every process. -/
theorem canonical_of_isAbsolute (hp : p.isAbsolute) (d d' : WorkingDirectory) :
    t.canonical d p = t.canonical d' p := by
  unfold canonical
  rw [base?_of_isAbsolute hp, base?_of_isAbsolute hp]

theorem mem_resolveErrors_of_entryByPath {cause : SystemError}
    (h : t.entryByPath l name = .error cause) : cause ∈ resolveErrors := by
  unfold entryByPath at h
  split at h
  · cases h
    decide
  · split at h
    · rename_i hwalk
      cases h
      exact mem_resolveErrors_of_walk hwalk
    · exact mem_resolveErrors_of_entryAt h

theorem mem_resolveErrors_of_trace {cause : SystemError}
    (h : t.trace links l names = .error cause) : cause ∈ resolveErrors := by
  fun_induction FileTree.trace t links l names
  case case1 => cases h
  case case2 ih | case3 ih | case6 ih | case8 ih | case10 ih => exact ih h
  case case4 hanswer =>
    cases h
    exact mem_resolveErrors_of_entryByPath hanswer
  all_goals
    cases h
    decide

theorem mem_resolveErrors_of_canonical {cause : SystemError}
    (h : t.canonical d p = .error cause) : cause ∈ resolveErrors := by
  unfold canonical at h
  split at h
  · cases h
    decide
  · split at h
    · cases h
      decide
    · exact mem_resolveErrors_of_trace h

-- ================================================================= entering

/-- A path that has a base is read, and resolved from there. -/
theorem resolve_of_base? {base : Location} (hbase : t.base? d p = some base) :
    t.resolve d p = if hasNul p then .error .nulInPath
      else if Path.maxLength ≤ p.length then .error .nameTooLong
      else Spot.located <$> t.walk maxLinks base p.names := by
  have hne : ¬p.isEmpty := by
    intro hempty
    unfold base? at hbase
    rw [if_pos hempty] at hbase
    cases hbase
  unfold resolve
  rw [if_neg hne, hbase]

theorem resolve_of_resolves {base : Location} (hnul : hasNul p = false)
    (hlength : p.length < Path.maxLength) (hbase : t.base? d p = some base)
    (h : t.Resolves n base p.names l) (hfew : n ≤ maxLinks) :
    t.resolve d p = .ok (.located l) := by
  rw [resolve_of_base? hbase, hnul, if_neg Bool.false_ne_true, if_neg (Nat.not_le.2 hlength),
    walk_eq_ok_iff.2 ⟨n, h, hfew⟩]
  rfl

/-- A directory that a path leads to is entered, if it may be searched. -/
theorem enter_of_resolve {entered : WorkingDirectory}
    (hresolve : t.resolve d p = .ok (.located l)) (hl : t.directoryAt l = .ok entered) :
    t.enter d p = .ok entered := by
  unfold enter
  rw [hresolve]
  exact hl

theorem Grounded.walk_path_eq_ok_iff (hl : t.Grounded l) :
    t.walk links [] l.path.names = .ok l' ↔ l' = l ∧ t.Reached l := by
  by_cases hroot : l = []
  · -- behind the slash of the root there is an empty name
    have hnames : Path.names (Location.path []) = [[]] := by decide
    subst hroot
    rw [hnames, FileTree.walk, if_pos rfl, if_pos isDirectory_root, FileTree.walk]
    constructor
    · intro h
      cases h
      exact ⟨rfl, .root⟩
    · rintro ⟨rfl, -⟩
      rfl
  · rw [Location.names_path hroot hl.isName]
    exact hl.walk_eq_ok_iff links

/-- The path of a grounded location leads to it, or nowhere. -/
theorem Grounded.resolve_path_eq_ok_iff {spot : Spot} (hl : t.Grounded l) :
    t.resolve d l.path = .ok spot ↔ l.IsReadable ∧ t.Reached l ∧ spot = .located l := by
  unfold Location.IsReadable
  rw [resolve_of_base? (base?_of_isAbsolute l.isAbsolute_path d)]
  constructor
  · intro h
    split at h
    · cases h
    · split at h
      · cases h
      · rename_i hlength
        cases hwalk : t.walk maxLinks [] l.path.names with
        | error cause =>
            rw [hwalk] at h
            cases h
        | ok l' =>
            obtain ⟨rfl, hreached⟩ := hl.walk_path_eq_ok_iff.1 hwalk
            rw [hwalk] at h
            cases h
            exact ⟨Nat.not_le.1 hlength, hreached, rfl⟩
  · rintro ⟨hlength, hreached, rfl⟩
    rw [hl.hasNul_path, if_neg Bool.false_ne_true, if_neg (Nat.not_le.2 hlength),
      hl.walk_path_eq_ok_iff.2 ⟨rfl, hreached⟩]
    rfl

/-- The path of a grounded location can be entered if the system reads it, if
the root leads to it, and if a directory is there that may be searched. -/
theorem Grounded.enter_path_eq_ok_iff {entered : WorkingDirectory} (hl : t.Grounded l) :
    t.enter d l.path = .ok entered ↔
      l.IsReadable ∧ t.Reached l ∧ t.directoryAt l = .ok entered := by
  constructor
  · intro h
    unfold enter at h
    cases hspot : t.resolve d l.path with
    | error cause =>
        rw [hspot] at h
        cases h
    | ok spot =>
        obtain ⟨hreads, hreached, rfl⟩ := hl.resolve_path_eq_ok_iff.1 hspot
        rw [hspot] at h
        exact ⟨hreads, hreached, h⟩
  · rintro ⟨hreads, hreached, hentered⟩
    exact enter_of_resolve (hl.resolve_path_eq_ok_iff.2 ⟨hreads, hreached, rfl⟩) hentered

end FileTree

/-- `cd` can take a session to a location: its target leads there, by no more
links than may be followed, the system reads the path of it, and the root leads
by that to a directory that may be searched. -/
structure Session.CanEnter (s : Session) (target : Path) (l : Location) : Prop where
  leads : ∃ n, s.machine.files.TracesTo s.machine.workingDirectory
    (s.environment.directory.join target) n l ∧ n ≤ FileTree.maxLinks
  readable : l.IsReadable
  reached : s.machine.files.Reached l
  directory : s.machine.files.Searchable l

/-- There is one location at most that it can take it to. -/
theorem Session.CanEnter.unique {s : Session} {target : Path} {l l' : Location}
    (h : s.CanEnter target l) (h' : s.CanEnter target l') : l = l' := by
  have hl := FileTree.canonical_eq_ok_iff.2 h.leads
  have hl' := FileTree.canonical_eq_ok_iff.2 h'.leads
  exact Except.ok.inj (hl.symm.trans hl')

/-- Nothing else is asked. -/
theorem Builtin.cdGoal_eq_ok_iff {target path : Path} {s : Session}
    {entered : WorkingDirectory} : cdGoal target s = .ok (path, entered) ↔
      ∃ l, s.CanEnter target l ∧ s.machine.files.directoryAt l = .ok entered ∧ path = l.path := by
  unfold cdGoal
  constructor
  · intro h
    cases hcanonical : s.machine.files.canonical s.machine.workingDirectory
        (s.environment.directory.join target) with
    | error cause =>
        simp only [hcanonical, bind, Except.bind] at h
        cases h
    | ok l =>
        have hgrounded := FileTree.grounded_of_canonical hcanonical
        cases henter : s.machine.files.enter s.machine.workingDirectory l.path with
        | error cause =>
            simp only [hcanonical, bind, Except.bind, henter] at h
            cases h
        | ok entered =>
            simp only [hcanonical, bind, Except.bind, henter] at h
            cases h
            obtain ⟨hreads, hreached, hdirectory⟩ := hgrounded.enter_path_eq_ok_iff.1 henter
            exact ⟨l, ⟨FileTree.canonical_eq_ok_iff.1 hcanonical, hreads, hreached,
              FileTree.searchable_iff.2 ⟨_, hdirectory⟩⟩, hdirectory, rfl⟩
  · rintro ⟨l, ⟨hleads, hreads, hreached, -⟩, hdirectory, rfl⟩
    have hcanonical := FileTree.canonical_eq_ok_iff.2 hleads
    have henter := (FileTree.grounded_of_canonical hcanonical).enter_path_eq_ok_iff
      (d := s.machine.workingDirectory) |>.2 ⟨hreads, hreached, hdirectory⟩
    simp only [hcanonical, bind, Except.bind, henter]
    rfl

end LineShell
