/-
Where paths lead if the system itself goes through all of their names, which is
physical resolution (`FileTree.LeadsTo`). A path is resolved from the root,
from where one that does not begin there comes by way of the working directory,
if that still exists.

# What is behind a slash

What is behind a slash is resolved from where the path in front of it leads.
It makes no difference whether both are resolved at once, or the second is
taken against the canonical path of where the first has led: that has no
links left in it, and its names lead to that place again
(`FileTree.leadsTo_slash_iff`).

# Canonical forms

A canonical form may be computed by physical resolution (`FileTree.Physical`).
Where the names are gone through one after the other, that is so as long as
every directory may be searched and no path becomes too long
(`FileTree.IsOpen.physical`).
-/
import LineShell.Proofs.Canonical

namespace LineShell

-- ============================================================ names of a path

namespace Path

variable {dir p q : Path}

/-- What stands between the slashes of a path. -/
def between (p : Path) : List Bytes :=
  (p.splitOn slash).filter (!·.isEmpty)

/-- A path that ends in a slash has one name more. -/
theorem names_eq (p : Path) :
    p.names = p.between ++ if p.getLast? == some slash then [[]] else [] := by
  unfold names between
  dsimp only
  split
  · rfl
  · rw [List.append_nil]

/-- A name alone is its only name. -/
theorem between_of_isName (hp : IsName p) : p.between = [p] := by
  unfold between
  rw [List.splitOn_eq_singleton hp.2, List.filter_cons_of_pos (by simpa using hp.1),
    List.filter_nil]

theorem names_of_isName (hp : IsName p) : p.names = [p] := by
  have hlast : ¬(p.getLast? == some slash) := by
    rw [beq_iff_eq]
    exact fun h => hp.2 (List.mem_of_getLast? h)
  rw [names_eq, between_of_isName hp, if_neg hlast, List.append_nil]

theorem between_append_slash (p q : Path) :
    between (p ++ slash :: q) = p.between ++ q.between := by
  unfold between
  rw [List.splitOn_append_cons_self, List.filter_append]

/-- The names behind a slash come after those in front of it. -/
theorem names_append_slash (hq : q ≠ []) (p : Path) :
    (p ++ slash :: q).names = p.between ++ q.names := by
  obtain ⟨byte, hlast⟩ := Option.ne_none_iff_exists'.1 (mt List.getLast?_eq_none_iff.1 hq)
  have hend : (p ++ slash :: q).getLast? = q.getLast? := by
    rw [List.getLast?_append, List.getLast?_cons, hlast]
    rfl
  rw [names_eq, names_eq, between_append_slash, hend, List.append_assoc]

/-- A path that does not begin with a slash begins with a name. -/
theorem exists_names_eq_cons (hp : p ≠ []) (hrelative : ¬p.isAbsolute) :
    ∃ name rest, p.names = name :: rest ∧ name ≠ [] := by
  obtain ⟨byte, tail, rfl⟩ := List.exists_cons_of_ne_nil hp
  have hbyte : ¬(byte == slash) = true := by simpa [isAbsolute] using hrelative
  cases hpieces : tail.splitOn slash with
  | nil => exact absurd hpieces (List.splitOn_ne_nil _ _)
  | cons piece others =>
      have hbetween : between (byte :: tail)
          = (byte :: piece) :: others.filter (!·.isEmpty) := by
        unfold between
        rw [List.splitOn_cons_eq_if_modifyHead, if_neg hbyte, hpieces, List.modifyHead_cons,
          List.filter_cons_of_pos (by simp)]
      rw [names_eq, hbetween, List.cons_append]
      exact ⟨_, _, rfl, List.cons_ne_nil _ _⟩

theorem ne_nil_of_isAbsolute (hp : p.isAbsolute) : p ≠ [] := by
  rintro rfl
  cases hp

theorem isAbsolute_append (hp : p ≠ []) (more : Path) :
    (p ++ more).isAbsolute = p.isAbsolute := by
  cases p with
  | nil => exact absurd rfl hp
  | cons byte p => rfl

/-- A path behind another one is still behind it when both are taken against
a directory. -/
theorem join_append (hp : p ≠ []) (dir more : Path) :
    dir.join (p ++ more) = dir.join p ++ more := by
  unfold join
  rw [isAbsolute_append hp]
  split
  · rfl
  · split
    · rw [List.append_assoc]
    · rw [List.append_assoc, List.cons_append]

theorem join_ne_nil (hp : p ≠ []) (dir : Path) : dir.join p ≠ [] := by
  unfold join
  split
  · exact hp
  · split <;> simp [hp]

end Path

/-- The names of what is taken against the path of a location come after
those of the location. -/
theorem Location.names_path_join {l : Location} (hl : ∀ name ∈ l, Path.IsName name) {q : Path}
    (hq : q ≠ []) (hrelative : ¬q.isAbsolute) : (l.path.join q).names = l ++ q.names := by
  by_cases hroot : l = []
  · subst hroot
    have hjoin : (path []).join q = [] ++ Path.slash :: q := by
      unfold Path.join
      rw [if_neg (by simpa [path] using hrelative)]
      rfl
    rw [hjoin, Path.names_append_slash hq]
    rfl
  · have hlast : (l.path.getLast? == some Path.slash) = false := by
      simpa using getLast?_path_ne hroot hl
    have hne : l.path ≠ [] := Path.ne_nil_of_isAbsolute l.isAbsolute_path
    have hjoin : l.path.join q = l.path ++ Path.slash :: q := by
      unfold Path.join
      rw [if_neg (by simpa [hne] using hrelative), hlast]
      rfl
    have hnames := names_path hroot hl
    rw [Path.names_eq, hlast, if_neg Bool.false_ne_true, List.append_nil] at hnames
    rw [hjoin, Path.names_append_slash hq, hnames]

namespace FileTree

variable {t : FileTree} {d : WorkingDirectory} {p q : Path} {l l' : Location}
  {names rest : List Bytes} {n : Nat}

-- ====================================================== physical resolution

/-- A path leads to a location, by a number of links. -/
def LeadsTo (t : FileTree) (d : WorkingDirectory) (p : Path) (n : Nat) (l : Location) : Prop :=
  hasNul p = false ∧ ∃ base, t.base? d p = some base ∧ t.Resolves n [] (base ++ p.names) l

/-- A path leads to one location, in one way. -/
theorem LeadsTo.unique {m : Nat} (h : t.LeadsTo d p n l) (h' : t.LeadsTo d p m l') :
    n = m ∧ l = l' := by
  obtain ⟨-, base, hbase, hn⟩ := h
  obtain ⟨-, base', hbase', hm⟩ := h'
  obtain rfl : base = base' := Option.some.inj (hbase.symm.trans hbase')
  exact hn.unique hm

/-- A path that begins at the root leads there for every process. -/
theorem LeadsTo.elsewhere (h : t.LeadsTo d p n l) (hp : p.isAbsolute)
    (d' : WorkingDirectory) : t.LeadsTo d' p n l := by
  obtain ⟨hnul, base, hbase, hn⟩ := h
  rw [base?_of_isAbsolute hp] at hbase
  exact ⟨hnul, base, (base?_of_isAbsolute hp d').trans hbase, hn⟩

/-- Where a path leads to has been come to from the root. -/
theorem LeadsTo.reached (h : t.LeadsTo d p n l) : t.Reached l := by
  obtain ⟨-, base, -, hn⟩ := h
  exact hn.reached .root

-- ---------------------------------------------------- what is behind a slash

theorem hasNul_append (p q : Path) : hasNul (p ++ q) = (hasNul p || hasNul q) := by
  unfold hasNul
  rw [Bool.eq_iff_iff]
  simp

theorem hasNul_append_slash (p q : Path) :
    hasNul (p ++ Path.slash :: q) = (hasNul p || hasNul q) := by
  have hslash : (0 : UInt8) ≠ Path.slash := by decide
  unfold hasNul
  rw [Bool.eq_iff_iff]
  simp [hslash]

theorem hasNul_join (hp : hasNul p = false) (q : Path) : hasNul (p.join q) = hasNul q := by
  unfold Path.join
  split
  · rfl
  · split
    · rw [hasNul_append, hp, Bool.false_or]
    · rw [hasNul_append_slash, hp, Bool.false_or]

theorem base?_append (hp : p ≠ []) (q : Path) : t.base? d (p ++ q) = t.base? d p := by
  unfold base?
  rw [Path.isAbsolute_append hp]
  simp [hp]

theorem base?_path_join (l : Location) (q : Path) : t.base? d (l.path.join q) = some [] :=
  base?_of_isAbsolute (Path.isAbsolute_join l.isAbsolute_path q) d

/-- Between the names of a path and more names a slash at its end is nothing. -/
theorem resolves_slash_iff {base : Location} (hq : q ≠ []) (hrelative : ¬q.isAbsolute) (p : Path) :
    t.Resolves n [] (base ++ (p ++ Path.slash :: q).names) l
      ↔ t.Resolves n [] (base ++ p.names ++ q.names) l := by
  obtain ⟨name, rest, hnames, -⟩ := Path.exists_names_eq_cons hq hrelative
  rw [Path.names_append_slash hq, Path.names_eq p]
  split
  · -- the slash makes one more name of the end of `p`, an empty one
    rw [← List.append_assoc, ← List.append_assoc, List.append_assoc _ [[]],
      List.singleton_append]
    exact (resolves_append_slash_iff (by simp [hnames])).symm
  · rw [List.append_nil, List.append_assoc]

/-- A path with something behind a slash leads where the part behind it
leads, taken against the canonical path that the part in front of it leads
to; and the links add up. -/
theorem leadsTo_slash_iff (hp : p ≠ []) (hq : q ≠ []) (hrelative : ¬q.isAbsolute) (n : Nat)
    (l' : Location) :
    t.LeadsTo d (p ++ Path.slash :: q) n l' ↔ ∃ k m l, t.LeadsTo d p k l ∧ t.Searchable l ∧
      t.LeadsTo d (l.path.join q) m l' ∧ k + m = n := by
  obtain ⟨first, others, hnames, hfirst⟩ := Path.exists_names_eq_cons hq hrelative
  constructor
  · rintro ⟨hnul, base, hbase, hn⟩
    rw [hasNul_append_slash, Bool.or_eq_false_iff] at hnul
    rw [base?_append hp] at hbase
    obtain ⟨k, m, l, hfront, hrest, hsum⟩ :=
      exists_of_resolves_append ((resolves_slash_iff hq hrelative p).1 hn)
    have hl : t.LeadsTo d p k l := ⟨hnul.1, base, hbase, hfront⟩
    have hgrounded := hl.reached.grounded
    refine ⟨k, m, l, hl, ?_, ⟨?_, [], base?_path_join l q, ?_⟩, hsum⟩
    · rw [hnames] at hrest
      exact hrest.searchable hfirst
    · rw [hasNul_join hgrounded.hasNul_path]
      exact hnul.2
    · rw [Location.names_path_join hgrounded.isName hq hrelative, ← Nat.zero_add m]
      exact hl.reached.resolves.append hrest
  · rintro ⟨k, m, l, hl, -, ⟨hnul, root, hroot, hm⟩, rfl⟩
    have hgrounded := hl.reached.grounded
    -- what is taken against the path of `l` is resolved from the root
    rw [base?_path_join] at hroot
    cases hroot
    rw [Location.names_path_join hgrounded.isName hq hrelative, List.nil_append] at hm
    rw [hasNul_join hgrounded.hasNul_path] at hnul
    -- the names of `l` lead to it again, and there the rest begins
    obtain ⟨k', m', mid, hagain, hrest, rfl⟩ := exists_of_resolves_append hm
    obtain ⟨rfl, rfl⟩ := hl.reached.resolves.unique hagain
    obtain ⟨hnul', base, hbase, hfront⟩ := hl
    refine ⟨?_, base, ?_, ?_⟩
    · rw [hasNul_append_slash, hnul', hnul]
      rfl
    · rw [base?_append hp, hbase]
    · rw [Nat.zero_add]
      exact (resolves_slash_iff hq hrelative p).2 (hfront.append hrest)

/-- A path that begins at the root resolves to where it leads, if it is not
too long and if there are not too many links on the way. -/
theorem LeadsTo.resolve_eq (h : t.LeadsTo d p n l) (hp : p.isAbsolute)
    (hfew : n ≤ maxLinks) (hlength : p.length < Path.maxLength) (d' : WorkingDirectory) :
    t.resolve d' p = .ok (.located l) := by
  obtain ⟨hnul, base, hbase, hn⟩ := h
  rw [base?_of_isAbsolute hp] at hbase
  cases hbase
  exact resolve_of_resolves hnul hlength (base?_of_isAbsolute hp d') hn hfew

-- ========================================================== canonical forms

/-- The canonical form of a path is computed by physical resolution. -/
def Physical (t : FileTree) (d : WorkingDirectory) (p : Path) : Prop :=
  ∀ l, t.canonical d p = .ok l ↔ ∃ n, t.LeadsTo d p n l ∧ n ≤ maxLinks

/-- Names that lead somewhere are gone through from a directory, if it is not
for nothing that they ask for one. -/
theorem Traces.isDirectory {name : Bytes} (h : t.Traces n l (name :: rest) l')
    (hasks : asksForDirectory (name :: rest) → t.IsDirectory l) : t.IsDirectory l := by
  generalize hnames : name :: rest = names at h
  rw [hnames] at hasks
  induction h generalizing name rest with
  | arrived => cases hnames
  | @stay n l l' _ others settled more ih =>
      rw [asksForDirectory, if_pos settled, Bool.or_eq_true] at hasks
      cases others with
      | nil => exact hasks (.inl rfl)
      | cons next others => exact ih (fun h => hasks (.inr h)) rfl
  | up => exact hasks rfl
  | down answers | link answers => exact answers.searched.isDirectory

/-- If all directories may be searched, names that are gone through one after the
other lead where they are resolved. -/
theorem Traces.resolves (h : t.Traces n l names l')
    (hopen : ∀ l, t.IsDirectory l → t.Searchable l) (hl : t.Grounded l)
    (hasks : asksForDirectory names → t.IsDirectory l) : t.Resolves n l names l' := by
  induction h with
  | arrived l => exact .arrived l
  | @stay n l l' name rest settled more ih =>
      have hdirectory := (Traces.stay settled more).isDirectory hasks
      have hrest := ih hl fun _ => hdirectory
      rw [← Nat.zero_add n]
      rcases settled with rfl | rfl
      · exact .step (.slash hdirectory) hrest
      · exact .step (.here (hopen l hdirectory)) hrest
  | @up n l l' rest more ih =>
      have hrest := ih hl.dropLast.grounded fun _ => hl.dropLast
      rw [← Nat.zero_add n]
      exact .step (.up (hopen l (hasks rfl))) hrest
  | @down n l l' name node rest answers notLink asked more ih =>
      have hrest := ih ⟨node, answers.found, notLink⟩ fun h => by
        obtain ⟨hdirectory, -⟩ := asked h
        cases node with
        | directory serial mode => exact isDirectory_iff.2 ⟨serial, mode, answers.found⟩
        | _ => cases hdirectory
      rw [← Nat.zero_add n]
      exact .step (.down answers.searched answers.found notLink) hrest
  | @link n l l' name target rest answers more ih =>
      have hrest := ih (hl.target_base target) fun _ => by
        split
        · exact isDirectory_root
        · exact answers.searched.isDirectory
      rw [Nat.add_comm n 1]
      exact .step (.link answers.searched answers.found) hrest

/-- Names that ask for a directory lead on from one only. -/
theorem Resolves.isDirectory_of_asks (h : t.Resolves n l names l')
    (hasks : asksForDirectory names) : t.IsDirectory l := by
  cases names with
  | nil => cases hasks
  | cons name rest => exact h.isDirectory

/-- If no path is too long, names that are resolved lead to the same place when
they are gone through one after the other. -/
theorem Resolves.traces (h : t.Resolves n l names l')
    (hshort : ∀ l node, t.lookup l = some node → l.path.length + 1 < Path.maxLength)
    (hl : t.Reached l) : t.Traces n l names l' := by
  induction h with
  | arrived l => exact .arrived l
  | @step k n l mid l' name first rest one more ih =>
      have hrest := ih (one.reached hl)
      cases one with
      | slash =>
          rw [Nat.zero_add]
          exact .stay (.inl rfl) hrest
      | here =>
          rw [Nat.zero_add]
          exact .stay (.inr rfl) hrest
      | up =>
          rw [Nat.zero_add]
          exact .up hrest
      | @down _ _ node searched found notLink =>
          have hlength := hshort _ node found
          rw [Nat.zero_add]
          refine .down ⟨hl, searched, found, by omega⟩ notLink (fun h => ⟨?_, hlength⟩) hrest
          obtain ⟨serial, mode, hdirectory⟩ := isDirectory_iff.1 (more.isDirectory_of_asks h)
          rw [found] at hdirectory
          rw [Option.some.inj hdirectory]
          rfl
      | link searched found =>
          have hlength := hshort _ _ found
          rw [Nat.add_comm]
          exact .link ⟨hl, searched, found, by omega⟩ hrest

theorem Grounded.reached (hl : t.Grounded l) (hopen : ∀ l, t.IsDirectory l → t.Searchable l) :
    t.Reached l := by
  induction l using List.reverseRecOn with
  | nil => exact .root
  | append_singleton l name ih =>
      obtain ⟨node, hfound, hnode⟩ := hl
      obtain ⟨-, hdirectory⟩ := seated_of_lookup hfound
      exact .child (ih hdirectory.grounded) (hopen l hdirectory) hfound hnode

/-- All directories may be searched, and the system reads the path of everything,
also with a slash behind it. -/
structure IsOpen (t : FileTree) : Prop where
  searchable : ∀ l, t.IsDirectory l → t.Searchable l
  short : ∀ l node, t.lookup l = some node → l.path.length + 1 < Path.maxLength

theorem isOpen_of_forall (h : ∀ entry ∈ t.nodes, (∀ serial mode,
    entry.2 = .directory serial mode → t.maySearch mode) ∧
      entry.1.path.length + 1 < Path.maxLength) : t.IsOpen := by
  refine ⟨fun l hl => ?_, fun l node hnode => (h _ (mem_nodes_of_lookup hnode)).2⟩
  obtain ⟨serial, mode, hlookup⟩ := isDirectory_iff.1 hl
  exact ⟨serial, mode, hlookup, (h _ (mem_nodes_of_lookup hlookup)).1 serial mode rfl⟩

/-- In such a tree canonical forms are computed by physical resolution. -/
theorem IsOpen.physical (h : t.IsOpen) (d : WorkingDirectory) (p : Path) : t.Physical d p := by
  intro l
  rw [canonical_eq_ok_iff]
  refine exists_congr fun n => and_congr_left fun _ => ?_
  unfold TracesTo LeadsTo
  refine and_congr_right fun _ => exists_congr fun base => and_congr_right fun hbase => ?_
  have hdirectory := isDirectory_of_base? hbase
  have hreached := hdirectory.grounded.reached h.searchable
  constructor
  · intro htraces
    have hrest := htraces.resolves h.searchable hdirectory.grounded fun _ => hdirectory
    rw [← Nat.zero_add n]
    exact hreached.resolves.append hrest
  · intro hresolves
    obtain ⟨k, m, mid, hbase, hrest, rfl⟩ := exists_of_resolves_append hresolves
    obtain ⟨rfl, rfl⟩ := hreached.resolves.unique hbase
    rw [Nat.zero_add]
    exact hrest.traces h.short hreached

end FileTree
end LineShell
