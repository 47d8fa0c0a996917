/-
What a look-up finds, and where. A bare name is taken to the entries of the
search path one after the other, and the first of them where there is a
program of the name decides; any other name is taken as it is. Both ask what
a path leads to, links followed, from the directory of the process. This is
told by a relation (`Lookup`), which the look-up meets and which leaves it no
choice.

# Entries behind and in front

So entries that are put behind a search path do not change what has been
found, and entries in front of it change nothing if there is no program of
the name in them (`finds_first`).

# A name with a slash in it

Whether a name is bare is a matter of its components, and there may be
slashes behind a bare name. Hence not every name with a slash is taken as it
is: `tool/` and `tool/.` are looked for along the search path, as `tool` is
(`Spells.findProgram?_eq`). All others are taken as they are, whatever the
search path (`findProgram?_of_not_spells`).

It makes no difference how a name is written that no file can have, because
it is found in no way. For any other name that is written with slashes there
is a tree in which it does (`FileTree.ofProgram`).
-/
import LineShell.Proofs.Canonical
import LineShell.Proofs.Components
import LineShell.Search

namespace LineShell

-- ================================================== the search path

namespace Path

/-- The pieces of a search path: there is one at least, none has a colon in
it, and between any two of them there is one. -/
structure Divides (search : Bytes) (pieces : List Path) : Prop where
  nonempty : pieces ≠ []
  apart : ∀ piece ∈ pieces, colon ∉ piece
  whole : [colon].intercalate pieces = search

/-- The entries of a search path are its pieces. -/
theorem entries_eq_iff {search : Bytes} {pieces : List Path} :
    entries search = pieces ↔ Divides search pieces := by
  unfold entries
  constructor
  · rintro rfl
    exact ⟨List.splitOn_ne_nil _ _, fun piece hpiece => not_mem_of_mem_splitOn hpiece,
      List.intercalate_splitOn colon⟩
  · rintro ⟨hne, hapart, rfl⟩
    exact List.splitOn_intercalate colon hapart hne

end Path

-- ======================================================= what is there

namespace FileTree

variable {t : FileTree} {d : WorkingDirectory} {p : Path}

/-- A path leads to a regular file, links followed, and somebody may execute
that: the owner, the group or the others. -/
def IsRunnable (t : FileTree) (d : WorkingDirectory) (p : Path) : Prop :=
  ∃ l, t.resolve d p = .ok (.located l) ∧
    ((∃ contents mode, t.lookup l = some (.file contents mode) ∧
        (mode.testBit 6 ∨ mode.testBit 3 ∨ mode.testBit 0)) ∨
      ∃ name, t.lookup l = some (.tool name))

/-- The bits that let somebody execute a file. -/
theorem testBit_executable_iff {i : Nat} : Nat.testBit 0o111 i ↔ i = 6 ∨ i = 3 ∨ i = 0 := by
  by_cases hsmall : i < 7
  · revert i
    decide
  · have hpow : 0o111 < 2 ^ i :=
      Nat.lt_of_lt_of_le (by decide) (Nat.pow_le_pow_right (by decide) (Nat.not_lt.1 hsmall))
    refine iff_of_false (Bool.eq_false_iff.1 (Nat.testBit_lt_two_pow hpow)) ?_
    omega

theorem and_ne_zero_iff_testBit (mode : Nat) :
    (mode &&& 0o111 != 0) = true ↔ mode.testBit 6 ∨ mode.testBit 3 ∨ mode.testBit 0 := by
  rw [bne_iff_ne]
  constructor
  · intro h
    obtain ⟨i, hi⟩ := Nat.exists_testBit_of_ne_zero h
    rw [Nat.testBit_and, Bool.and_eq_true, testBit_executable_iff] at hi
    obtain ⟨hmode, rfl | rfl | rfl⟩ := hi
    · exact .inl hmode
    · exact .inr (.inl hmode)
    · exact .inr (.inr hmode)
  · intro h hzero
    have hnone : ∀ i, Nat.testBit 0o111 i = true → mode.testBit i = false := by
      intro i hmask
      have hand := Nat.testBit_and mode 0o111 i
      rw [hzero, Nat.zero_testBit, hmask, Bool.and_true] at hand
      exact hand.symm
    rw [hnone 6 (by decide), hnone 3 (by decide), hnone 0 (by decide)] at h
    simp at h

theorem isProgram_iff : t.isProgram d p = true ↔ t.IsRunnable d p := by
  unfold isProgram IsRunnable
  constructor
  · intro h
    split at h
    · rename_i l hresolve
      refine ⟨l, hresolve, ?_⟩
      split at h
      · rename_i contents mode hfile
        exact .inl ⟨contents, mode, hfile, (and_ne_zero_iff_testBit mode).1 h⟩
      · rename_i name htool
        exact .inr ⟨name, htool⟩
      · cases h
    · cases h
  · rintro ⟨l, hresolve, ⟨contents, mode, hfile, hbit⟩ | ⟨name, htool⟩⟩
    · rw [hresolve]
      dsimp only
      rw [hfile]
      exact (and_ne_zero_iff_testBit mode).2 hbit
    · rw [hresolve]
      dsimp only
      rw [htool]

/-- A path leads somewhere, links followed. -/
def Exists (t : FileTree) (d : WorkingDirectory) (p : Path) : Prop :=
  ∃ spot, t.resolve d p = .ok spot

theorem has_iff : t.has d p = true ↔ t.Exists d p := by
  unfold has Exists
  cases t.resolve d p with
  | ok spot => simp [Except.isOk, Except.toBool]
  | error cause => simp [Except.isOk, Except.toBool]

end FileTree

-- ========================================================== the look-up

/-- What a look-up gives for a name. -/
inductive Lookup (t : FileTree) (d : WorkingDirectory) (search : Bytes) (name : Path) :
    Option Found → Prop
  /-- Without a name there is nothing. -/
  | nothing (hname : name = []) : Lookup t d search name none
  /-- A bare name is found at the first entry where there is a program. -/
  | inEntry {bare : Bytes} {front behind : List Path} {entry : Path}
      (hname : name.components = [.ordinary bare])
      (hsearch : Path.Divides search (front ++ entry :: behind))
      (hpassed : ∀ other ∈ front, ¬t.IsRunnable d (other.join bare))
      (hruns : t.IsRunnable d (entry.join bare)) :
      Lookup t d search name (some (.inEntry (entry.join bare)))
  /-- There may be no such entry. -/
  | inNoEntry {bare : Bytes} {pieces : List Path} (hname : name.components = [.ordinary bare])
      (hsearch : Path.Divides search pieces)
      (hpassed : ∀ entry ∈ pieces, ¬t.IsRunnable d (entry.join bare)) :
      Lookup t d search name none
  /-- Any other name stands for what is there, -/
  | asGiven (hsome : name ≠ []) (hname : ∀ bare, name.components ≠ [.ordinary bare])
      (hexists : t.Exists d name) : Lookup t d search name (some (.asGiven name))
  /-- or for nothing. -/
  | missing (hsome : name ≠ []) (hname : ∀ bare, name.components ≠ [.ordinary bare])
      (hexists : ¬t.Exists d name) : Lookup t d search name none

variable {t : FileTree} {d : WorkingDirectory} {search : Bytes} {name p : Path} {bare : Bytes}

/-- Nothing is found if there is no program of the name at any entry. -/
theorem find?_isProgram_eq_none_iff {pieces : List Path} :
    (pieces.map (·.join bare)).find? (t.isProgram d) = none
      ↔ ∀ entry ∈ pieces, ¬t.IsRunnable d (entry.join bare) := by
  rw [List.find?_eq_none, List.forall_mem_map]
  exact forall₂_congr fun entry _ => not_congr FileTree.isProgram_iff

/-- A bare name is looked for at every entry. -/
theorem findProgram?_of_bare (hname : name.components = [.ordinary bare]) :
    findProgram? t d search name = (((Path.entries search).map (·.join bare)).find?
      (t.isProgram d)).map .inEntry := by
  have hsome : ¬name.isEmpty = true := by
    intro hempty
    rw [Path.components_eq_nil_iff.2 (List.isEmpty_iff.1 hempty)] at hname
    cases hname
  unfold findProgram?
  rw [if_neg hsome, Path.bareName?_eq_some_iff.2 hname]
  rfl

/-- Any other is not looked for. -/
theorem findProgram?_of_not_bare (hname : ∀ bare, name.components ≠ [.ordinary bare]) :
    findProgram? t d search name = if t.has d name then some (.asGiven name) else none := by
  have hnone : name.bareName? = none := by
    rw [Option.eq_none_iff_forall_ne_some]
    intro bare hbare
    exact hname bare (Path.bareName?_eq_some_iff.1 hbare)
  unfold findProgram?
  rw [hnone]
  cases name with
  | nil =>
      -- the empty name is nothing, and leads to nothing
      have hhas : t.has d [] = false := rfl
      rw [hhas]
      rfl
  | cons byte name => rfl

/-- What is found is what the relation says, and there is always something
that it says. -/
theorem lookup_findProgram? (t : FileTree) (d : WorkingDirectory) (search : Bytes)
    (name : Path) : Lookup t d search name (findProgram? t d search name) := by
  by_cases hname : ∃ bare, name.components = [.ordinary bare]
  · obtain ⟨bare, hname⟩ := hname
    have hsearch : Path.Divides search (Path.entries search) := Path.entries_eq_iff.1 rfl
    rw [findProgram?_of_bare hname]
    cases hfind : ((Path.entries search).map (·.join bare)).find? (t.isProgram d) with
    | none =>
        exact .inNoEntry hname hsearch (find?_isProgram_eq_none_iff.1 hfind)
    | some path =>
        -- the candidates in front of the first are those of the entries in front
        obtain ⟨hruns, front, behind, hsplit, hpassed⟩ := List.find?_eq_some_iff_append.1 hfind
        obtain ⟨front, rest, hentries, rfl, hrest⟩ := List.map_eq_append_iff.1 hsplit
        obtain ⟨entry, behind, rfl, rfl, rfl⟩ := List.map_eq_cons_iff.1 hrest
        rw [hentries] at hsearch
        refine .inEntry hname hsearch (fun other hother hother' => ?_)
          (FileTree.isProgram_iff.1 hruns)
        have hnot := hpassed _ (List.mem_map_of_mem hother)
        rw [FileTree.isProgram_iff.2 hother'] at hnot
        cases hnot
  · have hname : ∀ bare, name.components ≠ [.ordinary bare] := fun bare h => hname ⟨bare, h⟩
    rw [findProgram?_of_not_bare hname]
    by_cases hempty : name = []
    · have hhas : t.has d [] = false := rfl
      rw [hempty, hhas, if_neg Bool.false_ne_true]
      exact .nothing rfl
    · by_cases hhas : t.has d name = true
      · rw [if_pos hhas]
        exact .asGiven hempty hname (FileTree.has_iff.1 hhas)
      · rw [if_neg hhas]
        exact .missing hempty hname fun h => hhas (FileTree.has_iff.2 h)

/-- It says one thing only. -/
theorem Lookup.findProgram?_eq {found : Option Found} (h : Lookup t d search name found) :
    findProgram? t d search name = found := by
  cases h with
  | nothing hname =>
      rw [hname]
      rfl
  | @inEntry bare front behind entry hname hsearch hpassed hruns =>
      have hfront := find?_isProgram_eq_none_iff.2 hpassed
      rw [findProgram?_of_bare hname, Path.entries_eq_iff.2 hsearch, List.map_append,
        List.find?_append, hfront, Option.none_or, List.map_cons,
        List.find?_cons_of_pos (FileTree.isProgram_iff.2 hruns)]
      rfl
  | @inNoEntry bare pieces hname hsearch hpassed =>
      rw [findProgram?_of_bare hname, Path.entries_eq_iff.2 hsearch,
        find?_isProgram_eq_none_iff.2 hpassed]
      rfl
  | asGiven hsome hname hexists =>
      rw [findProgram?_of_not_bare hname, if_pos (FileTree.has_iff.2 hexists)]
  | missing hsome hname hexists =>
      rw [findProgram?_of_not_bare hname, if_neg fun h => hexists (FileTree.has_iff.1 h)]

-- ============================================ entries behind and in front

theorem entries_append (search more : Bytes) :
    Path.entries (search ++ Path.colon :: more) = Path.entries search ++ Path.entries more :=
  List.splitOn_append_cons_self search more

/-- What has been found is found as well if there are more entries behind. -/
theorem findProgram?_append {found : Found} (hname : name.components = [.ordinary bare])
    (h : findProgram? t d search name = some found) (more : Bytes) :
    findProgram? t d (search ++ Path.colon :: more) name = some found := by
  rw [findProgram?_of_bare hname] at h ⊢
  obtain ⟨path, hpath, rfl⟩ := Option.map_eq_some_iff.1 h
  rw [entries_append, List.map_append, List.find?_append, hpath]
  rfl

/-- Entries in front where there is no program of the name change nothing. -/
theorem findProgram?_prepend {more : Bytes} (hname : name.components = [.ordinary bare])
    (h : ∀ entry ∈ Path.entries more, ¬t.IsRunnable d (entry.join bare)) (search : Bytes) :
    findProgram? t d (more ++ Path.colon :: search) name = findProgram? t d search name := by
  rw [findProgram?_of_bare hname, findProgram?_of_bare hname, entries_append, List.map_append,
    List.find?_append, find?_isProgram_eq_none_iff.2 h, Option.none_or]

/-- The look-up finds what the relation says and nothing else. For a bare
name more entries behind do not change what was found, and more in front do
not change anything if there is no program of the name in them. -/
theorem finds_first (t : FileTree) (d : WorkingDirectory) (search : Bytes) (name : Path) :
    (∀ found, findProgram? t d search name = found ↔ Lookup t d search name found) ∧
      ∀ bare more, name.components = [.ordinary bare] →
        (∀ found, findProgram? t d search name = some found →
          findProgram? t d (search ++ Path.colon :: more) name = some found) ∧
        ((∀ entry ∈ Path.entries more, ¬t.IsRunnable d (entry.join bare)) →
          findProgram? t d (more ++ Path.colon :: search) name
            = findProgram? t d search name) := by
  refine ⟨fun found => ⟨?_, Lookup.findProgram?_eq⟩, fun bare more hname => ⟨?_, ?_⟩⟩
  · rintro rfl
    exact lookup_findProgram? t d search name
  · intro found hfound
    exact findProgram?_append hname hfound more
  · intro hmore
    exact findProgram?_prepend hname hmore search

-- ==================================================== names with a slash

/-- However a bare name is written, it is looked for. -/
theorem Path.Spells.findProgram?_eq (hname : name.Spells bare) (t : FileTree)
    (d : WorkingDirectory) (search : Bytes) :
    findProgram? t d search name = findProgram? t d search bare := by
  rw [findProgram?_of_bare (Path.components_eq_singleton_iff.2 hname),
    findProgram?_of_bare (Path.components_eq_singleton_iff.2 hname.1.spells)]

/-- Whatever else is a name stands for itself. -/
theorem findProgram?_of_not_spells (hname : ∀ bare, ¬name.Spells bare) (t : FileTree)
    (d : WorkingDirectory) (search : Bytes) :
    findProgram? t d search name = if t.has d name then some (.asGiven name) else none := by
  exact findProgram?_of_not_bare fun bare h => hname bare (Path.components_eq_singleton_iff.1 h)

-- ================================================= names no file can have

namespace Path

/-- What is joined to a directory stands behind a slash, or alone. -/
theorem join_eq (dir p : Path) :
    dir.join p = p ∨ ∃ front, dir.join p = front ++ slash :: p := by
  unfold join
  split
  · exact .inl rfl
  · split
    · rename_i hlast
      obtain ⟨front, rfl⟩ := List.getLast?_eq_some_iff.1 (eq_of_beq hlast)
      exact .inr ⟨front, by simp⟩
    · exact .inr ⟨dir, rfl⟩

theorem mem_join_of_mem {byte : UInt8} (h : byte ∈ p) (dir : Path) : byte ∈ dir.join p := by
  rcases join_eq dir p with heq | ⟨front, heq⟩
  · rw [heq]
    exact h
  · rw [heq]
    exact List.mem_append_right _ (List.mem_cons_of_mem _ h)

theorem mem_names_of_mem_splitOn (h : name ∈ p.splitOn slash) (hname : name ≠ []) :
    name ∈ p.names := by
  have hbetween : name ∈ (p.splitOn slash).filter (!·.isEmpty) :=
    List.mem_filter.2 ⟨h, by simpa using hname⟩
  unfold names
  dsimp only
  split
  · exact List.mem_append_left _ hbetween
  · exact hbetween

/-- The system comes to a name that is joined to a directory. -/
theorem mem_names_join (hbare : IsPlain bare) (dir : Path) : bare ∈ (dir.join bare).names := by
  refine mem_names_of_mem_splitOn ?_ hbare.1.1
  have halone : bare.splitOn slash = [bare] := List.splitOn_eq_singleton hbare.1.2
  rcases join_eq dir bare with heq | ⟨front, heq⟩
  · rw [heq, halone]
    exact List.mem_singleton.2 rfl
  · rw [heq, List.splitOn_append_cons_self, halone]
    exact List.mem_append_right _ (List.mem_singleton.2 rfl)

/-- And to one that is written with slashes behind it. -/
theorem Spells.mem_names (h : p.Spells bare) : bare ∈ p.names := by
  obtain ⟨hplain, others, hsplit, -⟩ := spells_iff.1 h
  refine mem_names_of_mem_splitOn ?_ hplain.1.1
  rw [hsplit]
  exact List.mem_cons_self

theorem ne_of_long {name : Bytes} (h : maxNameLength < bare.length)
    (hname : name.length ≤ maxNameLength) : bare ≠ name := by
  rintro rfl
  exact absurd h (Nat.not_lt.2 hname)

/-- It is none of the names that are settled on the way. -/
theorem not_settled_of_long (h : maxNameLength < bare.length) :
    bare ≠ [] ∧ bare ≠ here ∧ bare ≠ up :=
  ⟨ne_of_long h (by decide), ne_of_long h (by decide), ne_of_long h (by decide)⟩

end Path

namespace FileTree

variable {links : Nat} {l l' : Location} {names : List Bytes} {spot : Spot}

/-- Nothing is found under a name that is too long. -/
theorem ne_of_entryAt {name : Bytes} {node : Node} (h : t.entryAt l name = .ok node)
    (hlong : Path.maxNameLength < bare.length) : bare ≠ name :=
  Path.ne_of_long hlong (seated_of_lookup (entryAt_eq_ok_iff.1 h).2).1.short

/-- A walk does not come past a name that is too long. -/
theorem walk_ne_ok_of_long (hname : bare ∈ names)
    (hlong : Path.maxNameLength < bare.length) : t.walk links l names ≠ .ok l' := by
  obtain ⟨hempty, hhere, hup⟩ := Path.not_settled_of_long hlong
  fun_induction FileTree.walk t links l names
  case case1 => exact absurd hname List.not_mem_nil
  case case2 ih => exact ih ((List.mem_cons.1 hname).resolve_left hempty)
  case case5 hsettled entered hentered ih =>
    refine ih ((List.mem_cons.1 hname).resolve_left ?_)
    rintro rfl
    exact hsettled.elim hhere hup
  case case8 hfound links ih =>
    exact ih (List.mem_append_right _
      ((List.mem_cons.1 hname).resolve_left (ne_of_entryAt hfound hlong)))
  case case9 hfound ih =>
    exact ih ((List.mem_cons.1 hname).resolve_left (ne_of_entryAt hfound hlong))
  all_goals
    intro h
    cases h

theorem located_ne_ok_of_long (hname : bare ∈ names)
    (hlong : Path.maxNameLength < bare.length) :
    Spot.located <$> t.walk links l names ≠ .ok spot := by
  cases hwalk : t.walk links l names with
  | ok l' => exact absurd hwalk (walk_ne_ok_of_long hname hlong)
  | error cause => exact nofun

theorem resolveFrom_ne_ok_of_long (hname : bare ∈ names)
    (hlong : Path.maxNameLength < bare.length) : t.resolveFrom d names ≠ .ok spot := by
  obtain ⟨hempty, hhere, hup⟩ := Path.not_settled_of_long hlong
  fun_induction FileTree.resolveFrom t d names with
  | case1 => exact absurd hname List.not_mem_nil
  | case2 d name rest hsettled ih =>
      refine ih ((List.mem_cons.1 hname).resolve_left ?_)
      rintro rfl
      exact hsettled.elim hempty hhere
  | case3 | case6 =>
      intro h
      cases h
  | case4 d rest hne parent horphan l hl =>
      exact located_ne_ok_of_long ((List.mem_cons.1 hname).resolve_left hup) hlong
  | case5 d rest hne parent horphan hl ih =>
      exact ih ((List.mem_cons.1 hname).resolve_left hup)

/-- A path leads nowhere if there is a NUL in it, or a name that is too
long. -/
theorem not_exists_of_name
    (h : 0 ∈ p ∨ ∃ name ∈ p.names, Path.maxNameLength < name.length) : ¬t.Exists d p := by
  rintro ⟨spot, hspot⟩
  unfold resolve at hspot
  split at hspot
  · cases hspot
  · rename_i hnul
    obtain ⟨name, hname, hlong⟩ := h.resolve_left fun hzero => hnul (by simpa [hasNul] using hzero)
    split at hspot
    · cases hspot
    · split at hspot
      · cases hspot
      · split at hspot
        · exact located_ne_ok_of_long hname hlong hspot
        · exact resolveFrom_ne_ok_of_long hname hlong hspot

theorem IsRunnable.exists (h : t.IsRunnable d p) : t.Exists d p := by
  obtain ⟨l, hresolve, -⟩ := h
  exact ⟨.located l, hresolve⟩

/-- A tree of one program, in the root. -/
def ofProgram (bare : Bytes) (hname : Path.IsFileName bare) : FileTree where
  nodes := [([], .directory 0 0o755), ([bare], .tool "true")]
  fresh := 1
  seated := by
    intro entry hentry
    rcases List.mem_cons.1 hentry with rfl | hentry
    · simp [Entries.Seats]
    · rw [List.mem_singleton.1 hentry]
      simpa [Entries.Seats] using ⟨hname, rfl⟩

variable {hname : Path.IsFileName bare}

theorem lookup_ofProgram : (ofProgram bare hname).lookup [bare] = some (.tool "true") := by
  simp [lookup, ofProgram, List.lookup_cons]

theorem reached_ofProgram : (ofProgram bare hname).Reached [bare] :=
  .child (l := []) .root ⟨0, 0o755, rfl, rfl⟩ lookup_ofProgram (by simp)

theorem path_singleton (bare : Bytes) : Path.slash :: bare = Location.path [bare] := by
  simp [Location.path]

theorem resolve_ofProgram (d : WorkingDirectory) :
    (ofProgram bare hname).resolve d (Path.slash :: bare) = .ok (.located [bare]) := by
  have hreads : Location.IsReadable [bare] := by
    unfold Location.IsReadable
    rw [← path_singleton, List.length_cons]
    exact Nat.lt_of_le_of_lt (Nat.succ_le_succ hname.short) (by decide)
  rw [path_singleton]
  exact reached_ofProgram.grounded.resolve_path_eq_ok_iff.2 ⟨hreads, reached_ofProgram, rfl⟩

/-- Nothing is behind the program, which is no directory. -/
theorem not_exists_ofProgram {next : Bytes} {rest : List Bytes}
    (hnames : p.names = bare :: next :: rest) :
    ¬(ofProgram bare hname).Exists ⟨[], 0⟩ p := by
  have hwalk : ∀ l, (ofProgram bare hname).walk maxLinks [] p.names ≠ .ok l := by
    intro l h
    obtain ⟨n, hn⟩ := exists_resolves_of_walk h
    rw [hnames, ← List.singleton_append] at hn
    obtain ⟨k, m, l', hfront, hrest, -⟩ := exists_of_resolves_append hn
    obtain ⟨-, rfl⟩ := reached_ofProgram.resolves.unique hfront
    obtain ⟨serial, mode, hdirectory⟩ := isDirectory_iff.1 hrest.isDirectory
    rw [lookup_ofProgram] at hdirectory
    cases hdirectory
  have hlocated : ∀ spot, Spot.located <$> (ofProgram bare hname).walk maxLinks [] p.names
      ≠ .ok spot := by
    cases h : (ofProgram bare hname).walk maxLinks [] p.names with
    | ok l => exact absurd h (hwalk l)
    | error cause => exact fun spot => nofun
  have hne : ¬p.isEmpty := by
    intro hempty
    rw [List.isEmpty_iff.1 hempty] at hnames
    cases hnames
  have hbase : (ofProgram bare hname).base? ⟨[], 0⟩ p = some [] := by
    unfold base?
    rw [if_neg hne]
    split
    · rfl
    · rfl
  rintro ⟨spot, hspot⟩
  rw [resolve_of_base? hbase] at hspot
  split at hspot
  · cases hspot
  · split at hspot
    · cases hspot
    · exact hlocated spot hspot

end FileTree

-- ========================================================= as it is given

/-- Names that no file can have are not found, however they are written. -/
theorem Path.Spells.missing (hname : name.Spells bare)
    (hbare : 0 ∈ bare ∨ Path.maxNameLength < bare.length) (t : FileTree) (d : WorkingDirectory)
    (search : Bytes) : findProgram? t d search name = none ∧ t.has d name = false := by
  have hnot : ¬t.Exists d name := by
    refine FileTree.not_exists_of_name ?_
    refine hbare.imp (fun hnul => ?_) fun hlong => ⟨bare, hname.mem_names, hlong⟩
    obtain ⟨-, dots, -, rfl⟩ := hname
    exact List.mem_append_left _ hnul
  have hpassed : ∀ entry : Path, ¬t.IsRunnable d (entry.join bare) := by
    intro entry hruns
    refine FileTree.not_exists_of_name ?_ hruns.exists
    exact hbare.imp (Path.mem_join_of_mem · entry)
      fun hlong => ⟨bare, Path.mem_names_join hname.1 entry, hlong⟩
  constructor
  · exact (Lookup.inNoEntry (Path.components_eq_singleton_iff.2 hname)
      (Path.entries_eq_iff.1 rfl) fun entry _ => hpassed entry).findProgram?_eq
  · exact Bool.eq_false_iff.2 fun hhas => hnot (FileTree.has_iff.1 hhas)

/-- In a tree where there is a program of the name it is found, however the name
is written. -/
theorem Path.Spells.findProgram?_ofProgram (hname : name.Spells bare) (hnul : 0 ∉ bare)
    (hshort : bare.length ≤ Path.maxNameLength) (d : WorkingDirectory) :
    findProgram? (.ofProgram bare ⟨hname.1, hnul, hshort⟩) d [Path.slash] name
      = some (.inEntry (Path.slash :: bare)) := by
  have hrelative : ¬Path.isAbsolute bare = true :=
    Path.not_isAbsolute_of_splitOn (List.splitOn_eq_singleton hname.1.1.2) hname.1.1.1
  have hjoin : Path.join [Path.slash] bare = Path.slash :: bare := by
    unfold Path.join
    rw [if_neg (by simp [hrelative])]
    rfl
  have hruns : (FileTree.ofProgram bare ⟨hname.1, hnul, hshort⟩).IsRunnable d
      (Path.join [Path.slash] bare) := by
    rw [hjoin]
    exact ⟨[bare], FileTree.resolve_ofProgram d,
      .inr ⟨"true", FileTree.lookup_ofProgram⟩⟩
  have hsearch : Path.Divides [Path.slash] ([] ++ [Path.slash] :: []) :=
    Path.entries_eq_iff.1 (by decide)
  rw [← hjoin]
  exact (Lookup.inEntry (Path.components_eq_singleton_iff.2 hname) hsearch
    (fun other hother => absurd hother List.not_mem_nil) hruns).findProgram?_eq

/-- A name that is a bare one, however it is written, is looked for as that is;
every other one is taken as it is, whatever the search path. So in all trees
a name is taken as it is only if it is not written for a name that a file can
have. -/
theorem taken_as_given_iff (name : Path) :
    (∀ bare, name.Spells bare → ∀ t d search,
      findProgram? t d search name = findProgram? t d search bare) ∧
    ((∀ bare, ¬name.Spells bare) → ∀ t d search,
      findProgram? t d search name = if t.has d name then some (.asGiven name) else none) ∧
    ((∀ t d search,
        findProgram? t d search name = if t.has d name then some (.asGiven name) else none) ↔
      ∀ bare, name.Spells bare → 0 ∈ bare ∨ Path.maxNameLength < bare.length) := by
  refine ⟨fun bare hname => hname.findProgram?_eq, findProgram?_of_not_spells, ?_, ?_⟩
  · intro hgiven bare hname
    refine Decidable.byContradiction fun hbare => ?_
    obtain ⟨hnul, hshort⟩ := not_or.1 hbare
    have hfound := hname.findProgram?_ofProgram hnul (Nat.not_lt.1 hshort) ⟨[], 0⟩
    rw [hgiven] at hfound
    split at hfound
    · cases hfound
    · cases hfound
  · intro hbare t d search
    by_cases hname : ∃ bare, name.Spells bare
    · obtain ⟨bare, hname⟩ := hname
      obtain ⟨hfind, hhas⟩ := hname.missing (hbare bare hname) t d search
      rw [hfind, hhas]
      rfl
    · exact findProgram?_of_not_spells (fun bare h => hname ⟨bare, h⟩) t d search

/-- So `t/` and `t/.` are looked for, though they have a slash in them and there
is nothing of that name: it depends on the search path what they are. -/
theorem slash_behind_is_searched :
    let t := FileTree.ofProgram [116] (by decide)
    let d : WorkingDirectory := ⟨[], 0⟩
    (Path.slash ∈ Bytes.ofText "t/" ∧ t.has d (Bytes.ofText "t/") = false ∧
      findProgram? t d (Bytes.ofText "/") (Bytes.ofText "t/") = some (.inEntry [47, 116]) ∧
      findProgram? t d (Bytes.ofText "/t") (Bytes.ofText "t/") = none) ∧
    (Path.slash ∈ Bytes.ofText "t/." ∧ t.has d (Bytes.ofText "t/.") = false ∧
      findProgram? t d (Bytes.ofText "/") (Bytes.ofText "t/.") = some (.inEntry [47, 116]) ∧
      findProgram? t d (Bytes.ofText "/t") (Bytes.ofText "t/.") = none) := by
  intro t d
  have hplain : Path.IsPlain [116] := by decide
  have hslash : Path.Spells (Bytes.ofText "t/") [116] := ⟨hplain, [[]], by simp, by decide⟩
  have hdot : Path.Spells (Bytes.ofText "t/.") [116] :=
    ⟨hplain, [Path.here], by simp, by decide⟩
  have hroot : Bytes.ofText "/" = [Path.slash] := by decide
  have hentries : Path.Divides (Bytes.ofText "/t") [Bytes.ofText "/t"] :=
    Path.entries_eq_iff.1 (by decide)
  have hbehind : ∀ (p : Path) (next : Bytes), p.names = [[116], next] → ¬t.Exists d p :=
    fun p next => FileTree.not_exists_ofProgram
  have hhas : ∀ (p : Path) (next : Bytes), p.names = [[116], next] → t.has d p = false :=
    fun p next hnames => Bool.eq_false_iff.2 fun h => hbehind p next hnames (FileTree.has_iff.1 h)
  have hbare : Path.components [116] = [.ordinary [116]] := by decide
  have hnone : findProgram? t d (Bytes.ofText "/t") [116] = none := by
    refine (Lookup.inNoEntry hbare hentries fun entry hentry hruns => ?_).findProgram?_eq
    rw [List.mem_singleton.1 hentry] at hruns
    exact hbehind _ [116] (by decide) hruns.exists
  rw [hroot, hslash.findProgram?_ofProgram (by decide) (by decide),
    hdot.findProgram?_ofProgram (by decide) (by decide), hslash.findProgram?_eq,
    hdot.findProgram?_eq, hnone]
  exact ⟨⟨by decide, hhas _ [] (by decide), rfl, rfl⟩,
    by decide, hhas _ Path.here (by decide), rfl, rfl⟩

end LineShell
