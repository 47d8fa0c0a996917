/-
Which directories can be entered by their names. A word that is no option
and no request for help is a target for `cd`, and behind `--` any word is
(`Builtin.cdTarget?_word`, `Builtin.cdTarget?_dashes`). A target that leads to
a directory takes the session there, and that is all that happens
(`Session.runWords_of_canEnter`). For any other target the reason is reported
why it does not, and the session stays where it is
(`Session.runWords_of_not_canEnter`).

# Words that the system takes otherwise

A word leads elsewhere if the system itself resolves the path that it stands
for (`Session.cd_differs_from_resolution`). The word `help` is taken for a
request. A directory is entered by its canonical path, for which the system is
asked name by name. So that path may not be too long, and neither may be those
on the way to it; and nothing leads from the root to where a process is whose
directory was removed. Out of a directory that may not be searched `..` leads,
though, because nobody is asked for what that is.
-/
import LineShell.Proofs.Conduct
import LineShell.Proofs.Encoding
import LineShell.Proofs.Physical

namespace LineShell

-- ================================================================= targets

namespace Builtin

/-- A word that looks like no option and does not ask for help is a target. -/
theorem cdTarget?_word {word : String} (hne : word ≠ "") (hdash : word.toList.head? ≠ some '-')
    (hhelp : word ≠ "help") : cdTarget? ["cd", word] = some word := by
  have hhelp' : word ≠ "--help" := by
    rintro rfl
    exact hdash (by decide)
  have hplain : ¬(ArgumentForm.helpWords.contains word || ArgumentForm.isOptionLike word) := by
    simp [ArgumentForm.helpWords, ArgumentForm.isOptionLike, hhelp, hhelp', hdash]
  have hread : cdForm.read [word] = .given { words := [word] } := by
    simp only [ArgumentForm.read, ArgumentForm.readFrom, hplain]
    rfl
  simp [cdTarget?, hread, hne]

/-- Behind `--` every word is. -/
theorem cdTarget?_dashes {word : String} (hne : word ≠ "") :
    cdTarget? ["cd", "--", word] = some word := by
  have hread : cdForm.read ["--", word] = .given { words := [word] } := rfl
  simp [cdTarget?, hread, hne]

end Builtin

-- ================================================================ the move

namespace Session

variable {s : Session} {words : List String} {target : String} {l : Location}

/-- Where a session can be taken to is not told by its console. -/
theorem CanEnter.of_behind {s' : Session} {p : Path} (hs : s'.behind = s.behind)
    (h : s.CanEnter p l) : s'.CanEnter p l := by
  have hmachine := machine_eq_of_behind hs
  have henvironment := environment_eq_of_behind hs
  obtain ⟨hleads, hreadable, hreached, hdirectory⟩ := h
  exact ⟨by rwa [hmachine, henvironment], hreadable, by rwa [hmachine], by rwa [hmachine]⟩

/-- A `cd` that can enter its target does so, and no more. -/
theorem runWords_of_canEnter (spawn : Spawner) (hcd : Builtin.cdTarget? words = some target)
    (h : s.CanEnter (Bytes.ofText target) l) :
    ∃ entered, s.machine.files.directoryAt l = .ok entered ∧
      s.runWords spawn words = (.goOn, (s.begun "cd").moved l.path entered) := by
  obtain ⟨entered, hentered⟩ := FileTree.searchable_iff.1 h.directory
  have hgoal := Builtin.cdGoal_eq_ok_iff.2 ⟨l, h, hentered, rfl⟩
  exact ⟨entered, hentered, runWords_of_cdGoal spawn hcd hgoal⟩

/-- Any other `cd` with a target reports why it cannot. -/
theorem runWords_of_not_canEnter (spawn : Spawner) (hcd : Builtin.cdTarget? words = some target)
    (h : ∀ l, ¬s.CanEnter (Bytes.ofText target) l) :
    ∃ cause, Builtin.cdGoal (Bytes.ofText target) s = .error cause ∧
      s.runWords spawn words
        = (s.begun "cd").report (.notEntered (Bytes.ofText target) cause) := by
  rw [runWords_of_cdTarget? spawn hcd]
  cases hgoal : Builtin.cdGoal (Bytes.ofText target) s with
  | error cause => exact ⟨cause, rfl, rfl⟩
  | ok goal =>
      obtain ⟨l, hl, -⟩ := Builtin.cdGoal_eq_ok_iff.1 hgoal
      exact absurd hl (h l)

theorem place_of_not_canEnter (spawn : Spawner) (hcd : Builtin.cdTarget? words = some target)
    (h : ∀ l, ¬s.CanEnter (Bytes.ofText target) l) :
    (s.runWords spawn words).2.place = s.place := by
  obtain ⟨cause, -, hrun⟩ := runWords_of_not_canEnter spawn hcd h
  rw [hrun]
  rfl

theorem place_of_no_target (spawn : Spawner) (hcd : Builtin.cdTarget? words = none)
    (s : Session) : (s.runWords spawn words).2.place = s.place := by
  cases outcome_runWords spawn words s with
  | kept _ hbehind => exact place_eq_of_behind hbehind
  | moved target path entered hsome =>
      rw [hcd] at hsome
      cases hsome
  | asked r files _ hfiles henvironment hprompt hmachine =>
      unfold place
      rw [henvironment, hmachine]

theorem runWords_cd_goOn_iff (spawn : Spawner) (hcd : Builtin.cdTarget? words = some target) :
    (s.runWords spawn words).1 = .goOn ↔ ∃ l, s.CanEnter (Bytes.ofText target) l := by
  constructor
  · intro hgo
    by_contra hnone
    obtain ⟨cause, -, hrun⟩ := runWords_of_not_canEnter spawn hcd (not_exists.1 hnone)
    rw [hrun] at hgo
    cases hgo
  · rintro ⟨l, hl⟩
    obtain ⟨entered, -, hrun⟩ := runWords_of_canEnter spawn hcd hl
    rw [hrun]

/-- A run goes on at a location: there are the session and its process. -/
structure GoesOnAt (run : Verdict × Session) (l : Location) : Prop where
  verdict : run.1 = .goOn
  session : run.2.environment.directory = l.path
  process : run.2.machine.workingDirectory.location = l

/-- A `cd` goes on where its target can be entered. -/
theorem goesOnAt_cd_iff (spawn : Spawner) (hcd : Builtin.cdTarget? words = some target)
    (l : Location) :
    GoesOnAt (s.runWords spawn words) l ↔ s.CanEnter (Bytes.ofText target) l := by
  constructor
  · rintro ⟨hgo, -, hlocation⟩
    obtain ⟨l', hl'⟩ := (runWords_cd_goOn_iff spawn hcd).1 hgo
    obtain ⟨entered, hentered, hrun⟩ := runWords_of_canEnter spawn hcd hl'
    rw [hrun] at hlocation
    obtain rfl : l' = l := (FileTree.directoryAt_spec hentered).1.symm.trans hlocation
    exact hl'
  · intro hl
    obtain ⟨entered, hentered, hrun⟩ := runWords_of_canEnter spawn hcd hl
    rw [hrun]
    exact ⟨rfl, rfl, (FileTree.directoryAt_spec hentered).1⟩

/-- A word that is no option and no request for help takes a session to the
directory that it leads to, and does nothing else; and if it leads to none
that can be entered, that is reported, and the session stays where it is. -/
theorem cd_enters_by_name (spawn : Spawner) {d : String} (hne : d ≠ "")
    (hdash : d.toList.head? ≠ some '-') (hhelp : d ≠ "help") {s : Session} :
    (∀ l, s.CanEnter (Bytes.ofText d) l →
      ∃ s', s.runWords spawn ["cd", d] = (.goOn, s') ∧
        s'.console.out = s.console.out ∧ s'.console.err = s.console.err ∧
        s'.environment.directory = l.path ∧
        s'.machine.workingDirectory.location = l ∧
        s'.machine.files.holds s'.machine.workingDirectory) ∧
      ((∀ l, ¬s.CanEnter (Bytes.ofText d) l) →
        ∃ cause s', Builtin.cdGoal (Bytes.ofText d) s = .error cause ∧
          s.runWords spawn ["cd", d] = (.goOnAfterFault, s') ∧
          s'.console.out = s.console.out ∧
          s'.console.err = (s.console.err.print
            (("lsh: " :: "cd: " :: d :: ": " :: cause.pieces).map Bytes.ofText
              ++ [[Outlet.newline]])).2 ∧
          s'.place = s.place) := by
  have hcd := Builtin.cdTarget?_word hne hdash hhelp
  constructor
  · intro l hl
    obtain ⟨entered, hentered, hrun⟩ := runWords_of_canEnter spawn hcd hl
    obtain ⟨hlocation, hholds⟩ := FileTree.directoryAt_spec hentered
    exact ⟨_, hrun, rfl, rfl, rfl, hlocation, hholds⟩
  · intro hnone
    obtain ⟨cause, hgoal, hrun⟩ := runWords_of_not_canEnter spawn hcd hnone
    have hpieces : (Fault.notEntered (Bytes.ofText d) cause).pieces
        = "cd: " :: d :: ": " :: cause.pieces := by
      rw [Fault.pieces, Utf8.lossy_ofText]
    refine ⟨cause, ((s.begun "cd").report (.notEntered (Bytes.ofText d) cause)).2, hgoal, hrun,
      rfl, ?_, rfl⟩
    rw [← hpieces]
    rfl

/-- By way of a link it comes to the directory itself. -/
theorem cd_enters_by_name_link :
    let spawn : Spawner := fun _ _ => .error .noEntry
    let files : FileTree :=
      { nodes := [([], .directory 0 0o755), ([[100]], .directory 1 0o755),
          ([[108]], .link [100])]
        fresh := 2 }
    let s : Session :=
      { machine := { files, workingDirectory := ⟨[], 0⟩ }
        environment := { directory := [47] } }
    s.CanEnter (Bytes.ofText "l") [[100]] ∧ ∃ s', s.runWords spawn ["cd", "l"] = (.goOn, s') ∧
      s'.environment.directory = [47, 100] ∧ s'.machine.workingDirectory.location = [[100]] := by
  intro spawn files s
  have hroot : files.Searchable [] := ⟨0, 0o755, rfl, rfl⟩
  have hreached : files.Reached [[100]] := .child (l := []) .root hroot rfl (by simp)
  have hdown : files.Traces 0 [] [[100]] [[100]] :=
    .down ⟨.root, hroot, rfl, by decide⟩ (by simp) (by simp [FileTree.asksForDirectory])
      (.arrived _)
  have hlink : files.Traces 1 [] [[108]] [[100]] :=
    .link ⟨.root, hroot, rfl, by decide⟩
      (show files.Traces 0 [] (Path.names [100] ++ []) _ from hdown)
  have hcan : s.CanEnter (Bytes.ofText "l") [[100]] :=
    ⟨⟨1, ⟨by decide, [], by decide, hlink⟩, by decide⟩, by decide, hreached, 1, 0o755, rfl, rfl⟩
  have hmoves := (cd_enters_by_name spawn (d := "l") (by decide) (by decide) (by decide)
    (s := s)).1 _ hcan
  obtain ⟨s', hrun, -, -, hdirectory, hlocation, -⟩ := hmoves
  exact ⟨hcan, s', hrun, hdirectory, hlocation⟩

end Session

-- ======================================================= words taken otherwise

namespace FileTree

/-- Names that lead straight on to where something stands have been asked for by
the whole path of that. -/
theorem Traces.short {t : FileTree} {n : Nat} {l l' : Location} {names rest : List Bytes}
    (h : t.Traces n l (names ++ rest) l') (hne : names ≠ []) (hend : t.Grounded (l ++ names)) :
    (l ++ names).path.length < Path.maxLength := by
  induction names generalizing n l with
  | nil => exact absurd rfl hne
  | cons name names ih =>
      rw [← List.singleton_append, ← List.append_assoc] at hend ⊢
      have hname := (hend.isFileName name (by simp)).plain
      have hmid : t.Grounded (l ++ [name]) := by
        by_cases heq : l ++ [name] = l ++ [name] ++ names
        · rw [heq]
          exact hend
        · obtain ⟨node, hlookup, -⟩ := hend
          exact (isDirectory_above hlookup (List.prefix_append _ _) heq).grounded
      obtain ⟨node, hlookup, hnode⟩ := hmid
      cases h with
      | stay settled => exact absurd settled (not_or.2 ⟨hname.1.1, hname.2.1⟩)
      | up => exact absurd rfl hname.2.2
      | down answers notLink asked more =>
          by_cases hlast : names = []
          · rw [hlast, List.append_nil]
            exact answers.short
          · exact ih more hlast hend
      | link answers =>
          rw [answers.found] at hlookup
          exact absurd (Option.some.inj hlookup).symm (hnode _)

/-- So many directories below the root, each in the other and all of one
name. -/
def nest (name : Bytes) : Nat → Entries
  | 0 => [([], .directory 0 0o755)]
  | depth + 1 =>
    (List.replicate (depth + 1) name, .directory (depth + 1) 0o755) :: nest name depth

theorem lookup_nest {name : Bytes} {depth level : Nat} (h : level ≤ depth) :
    List.lookup (List.replicate level name) (nest name depth)
      = some (.directory level 0o755) := by
  induction depth with
  | zero =>
      obtain rfl := Nat.le_zero.1 h
      rfl
  | succ depth ih =>
      rw [nest, List.lookup_cons]
      split
      · rename_i heq
        have hlevel := congrArg List.length (eq_of_beq heq)
        rw [List.length_replicate, List.length_replicate] at hlevel
        rw [hlevel]
      · rename_i hne
        refine ih (Nat.le_of_lt_succ (Nat.lt_of_le_of_ne h ?_))
        rintro rfl
        rw [beq_self_eq_true] at hne
        cases hne

theorem exists_level_of_mem_nest {name : Bytes} {depth : Nat} {entry : Location × Node}
    (h : entry ∈ nest name depth) : ∃ level ≤ depth, entry.1 = List.replicate level name := by
  induction depth with
  | zero => exact ⟨0, Nat.le_refl 0, by rw [List.mem_singleton.1 h]; rfl⟩
  | succ depth ih =>
      rcases List.mem_cons.1 h with rfl | h
      · exact ⟨depth + 1, Nat.le_refl _, rfl⟩
      · obtain ⟨level, hlevel, heq⟩ := ih h
        exact ⟨level, by omega, heq⟩

/-- A directory has the name that asks for help. -/
def withHelp : FileTree :=
  { nodes := [([], .directory 0 0o755), ([Bytes.ofText "help"], .directory 1 0o755)], fresh := 2 }

/-- A directory was removed that stood in the root. -/
def afterRemoval : FileTree :=
  { FileTree.empty with fresh := 2, orphans := [(1, 0)] }

/-- A directory that may not be searched. -/
def closed : FileTree :=
  { nodes := [([], .directory 0 0o755), ([[100]], .directory 1 0)], fresh := 2 }

/-- The longest name there can be. -/
def longName : Bytes :=
  List.replicate 255 120

theorem isFileName_longName : Path.IsFileName longName := by
  refine ⟨⟨⟨by decide, by decide⟩, by decide, by decide⟩, by decide, ?_⟩
  exact Nat.le_of_eq List.length_replicate

/-- So many directories of that name that the path of the last one is not read;
a link `s` leads to the last but one. -/
def deepEntries : Entries :=
  ([[115]], .link (Location.path (List.replicate 15 longName))) :: nest longName 16

theorem lookup_deepEntries {level : Nat} (h : level ≤ 16) :
    List.lookup (List.replicate level longName) deepEntries
      = some (.directory level 0o755) := by
  have hne : (List.replicate level longName == [[115]]) = false := by
    cases level with
    | zero => rfl
    | succ level =>
        rw [List.replicate_succ]
        rfl
  rw [deepEntries, List.lookup_cons, hne]
  exact lookup_nest h

theorem hasDirectory_deepEntries {level : Nat} (h : level ≤ 16) :
    deepEntries.hasDirectory (List.replicate level longName) := by
  unfold Entries.hasDirectory
  rw [lookup_deepEntries h]
  rfl

theorem root_deepEntries : deepEntries.hasDirectory [] :=
  hasDirectory_deepEntries (Nat.zero_le 16)

theorem seats_deepEntries : ∀ entry ∈ deepEntries, deepEntries.Seats entry.1 := by
  intro entry hentry
  rcases List.mem_cons.1 hentry with rfl | hentry
  · intro name hname
    obtain rfl : [115] = name := by simpa using hname
    exact ⟨by decide, root_deepEntries⟩
  · obtain ⟨level, hlevel, heq⟩ := exists_level_of_mem_nest hentry
    rw [heq]
    cases level with
    | zero => simp [Entries.Seats]
    | succ level =>
        rw [List.replicate_succ']
        intro name hname
        obtain rfl : longName = name := by simpa using hname
        rw [List.dropLast_concat]
        exact ⟨isFileName_longName, hasDirectory_deepEntries (by omega)⟩

/-- The tree of these, with a last directory that no path is short enough for. -/
def deep : FileTree where
  nodes := deepEntries
  fresh := 17
  root := root_deepEntries
  seated := seats_deepEntries

theorem searchable_deep {level : Nat} (h : level ≤ 16) :
    deep.Searchable (List.replicate level longName) :=
  ⟨level, 0o755, lookup_deepEntries h, rfl⟩

theorem directoryAt_deep {level : Nat} (h : level ≤ 16) :
    deep.directoryAt (List.replicate level longName)
      = .ok ⟨List.replicate level longName, level⟩ := by
  unfold directoryAt
  rw [show deep.lookup _ = _ from lookup_deepEntries h]
  exact if_pos rfl

theorem reached_deep {level : Nat} (h : level ≤ 16) :
    deep.Reached (List.replicate level longName) := by
  induction level with
  | zero => exact .root
  | succ level ih =>
      have hlookup := lookup_deepEntries h
      rw [List.replicate_succ'] at hlookup ⊢
      exact .child (ih (by omega)) (searchable_deep (by omega)) hlookup (by simp)

theorem lookup_link_deep :
    deep.lookup [[115]] = some (.link (Location.path (List.replicate 15 longName))) :=
  rfl

theorem names_link_deep :
    Path.names (Location.path (List.replicate 15 longName)) = List.replicate 15 longName :=
  Location.names_path (by simp) (reached_deep (Nat.le_succ 15)).grounded.isName

/-- The names of the target come back to the root, and those behind the link
follow. -/
theorem resolves_deep {n : Nat} {rest : List Bytes} {l : Location}
    (h : deep.Resolves n (List.replicate 15 longName) rest l) :
    deep.Resolves (1 + n) [] ([115] :: rest) l := by
  have hlink := Step.link (searchable_deep (Nat.zero_le 16)) lookup_link_deep
  rw [names_link_deep, if_pos (Location.isAbsolute_path _)] at hlink
  have hfront := (reached_deep (Nat.le_succ 15)).resolves.append h
  rw [Nat.zero_add] at hfront
  exact .step hlink hfront

theorem resolves_last_deep : deep.Resolves 0 (List.replicate 15 longName) [longName]
    (List.replicate 16 longName) := by
  have hfound := lookup_deepEntries (Nat.le_refl 16)
  rw [List.replicate_succ'] at hfound ⊢
  exact .step (.down (searchable_deep (Nat.le_succ 15)) hfound (by simp)) (.arrived _)

theorem length_path_deep :
    ¬List.length (Location.path (List.replicate 16 longName)) < Path.maxLength := by
  have hpath : Location.path (List.replicate 16 longName)
      = (List.replicate 16 longName).flatMap (Path.slash :: ·) := rfl
  have hlong : longName.length = 255 := List.length_replicate
  rw [hpath, List.length_flatMap, List.map_replicate, List.sum_replicate_nat, List.length_cons,
    hlong]
  decide

/-- No path leads to that directory, or through it, by answers of the system. -/
theorem not_traces_deep {n : Nat} {rest : List Bytes} {l : Location} :
    ¬deep.Traces n [] ([115] :: longName :: rest) l := by
  intro h
  cases h with
  | stay settled => exact absurd settled (by decide)
  | down answers notLink =>
      have hfound := answers.found
      rw [List.nil_append, lookup_link_deep] at hfound
      exact absurd (Option.some.inj hfound).symm (notLink _)
  | link answers more =>
      have hfound := answers.found
      rw [List.nil_append, lookup_link_deep] at hfound
      cases hfound
      rw [names_link_deep, if_pos (Location.isAbsolute_path _), ← List.singleton_append,
        ← List.append_assoc, ← List.replicate_succ'] at more
      refine length_path_deep (more.short (by simp) ?_)
      rw [List.nil_append]
      exact (reached_deep (Nat.le_refl 16)).grounded

/-- What leads to that directory by way of the link. -/
def deepWord : String :=
  "s/" ++ String.ofList (List.replicate 255 'x')

theorem ofText_deepWord : Bytes.ofText deepWord = [115] ++ Path.slash :: longName := by
  have hname : ∀ n, (List.replicate n 'x').flatMap String.utf8EncodeChar
      = List.replicate n 120 := by
    intro n
    induction n with
    | zero => rfl
    | succ n ih =>
        rw [List.replicate_succ, List.flatMap_cons, ih]
        rfl
  unfold deepWord
  rw [Bytes.ofText_append]
  unfold Bytes.ofText
  rw [String.toList_ofList, String.toList_ofList, hname]
  rfl

/-- What leads back out of it. -/
def deepWordUp : String :=
  deepWord ++ "/.."

theorem ofText_deepWordUp :
    Bytes.ofText deepWordUp = [115] ++ Path.slash :: (longName ++ Path.slash :: Path.up) := by
  unfold deepWordUp
  rw [Bytes.ofText_append, ofText_deepWord, List.append_assoc]
  rfl

theorem names_deepWord : Path.names (Bytes.ofText deepWord) = [[115], longName] := by
  have hname := isFileName_longName.plain.1
  rw [ofText_deepWord, Path.names_append_slash hname.1, Path.names_of_isName hname,
    Path.between_of_isName (by decide)]
  rfl

theorem names_deepWordUp : Path.names (Bytes.ofText deepWordUp) = [[115], longName, Path.up] := by
  have hname := isFileName_longName.plain.1
  rw [ofText_deepWordUp, Path.names_append_slash (by simp), Path.names_append_slash (by decide),
    Path.between_of_isName hname, Path.between_of_isName (by decide),
    Path.names_of_isName (by decide)]
  rfl

/-- A word that does not begin with a slash is taken against the root. -/
theorem names_join_root {w : Path} (hw : w ≠ []) (hrelative : ¬w.isAbsolute) :
    (Path.join [47] w).names = w.names :=
  Location.names_path_join (l := []) (by simp) hw hrelative

theorem enter_of_resolves {t : FileTree} {n : Nat} {l : Location} {entered : WorkingDirectory}
    {w : Path} (hw : w ≠ []) (hrelative : ¬w.isAbsolute) (hnul : hasNul w = false)
    (hlength : w.length + 1 < Path.maxLength) (h : t.Resolves n [] w.names l) (hfew : n ≤ maxLinks)
    (hl : t.directoryAt l = .ok entered) (d : WorkingDirectory) :
    t.enter d (Path.join [47] w) = .ok entered := by
  have hjoin : Path.join [47] w = 47 :: w := by
    unfold Path.join
    rw [if_neg (by simpa using hrelative)]
    rfl
  have hleads : t.LeadsTo d (Path.join [47] w) n l := by
    refine ⟨?_, [], base?_path_join [] w, ?_⟩
    · exact (hasNul_join (p := [47]) rfl w).trans hnul
    · rw [names_join_root hw hrelative]
      exact h
  refine enter_of_resolve (hleads.resolve_eq ?_ hfew ?_ d) hl
  · rw [hjoin]
    rfl
  · rw [hjoin]
    exact hlength

end FileTree

namespace Session

/-- A session in a file tree, that has done nothing yet. -/
def inTree (files : FileTree) (d : WorkingDirectory) (directory : Path) : Session :=
  { machine := { files, workingDirectory := d }, environment := { directory } }

/-- A directory that a word leads to can be entered, but `cd` does not take a
session there by this word. -/
def NotEntered (s : Session) (word : String) : Prop :=
  ∃ entered, s.machine.files.enter s.machine.workingDirectory
      (s.environment.directory.join (Bytes.ofText word)) = .ok entered ∧
    ∀ spawn, (s.runWords spawn ["cd", word]).2.place ≠ (entered.location.path, entered)

/-- A word leads nowhere, but a `cd` by it does not fail. -/
def EnteredAnyway (s : Session) (word : String) : Prop :=
  (∃ cause, s.machine.files.enter s.machine.workingDirectory
      (s.environment.directory.join (Bytes.ofText word)) = .error cause) ∧
    ∀ spawn, (s.runWords spawn ["cd", word]).1 = .goOn

theorem notEntered_of_enter {s : Session} {word : String} {entered : WorkingDirectory}
    (hcd : Builtin.cdTarget? ["cd", word] = some word)
    (henter : s.machine.files.enter s.machine.workingDirectory
      (s.environment.directory.join (Bytes.ofText word)) = .ok entered)
    (hnone : ∀ l, ¬s.CanEnter (Bytes.ofText word) l)
    (helsewhere : s.machine.workingDirectory ≠ entered) : s.NotEntered word := by
  refine ⟨entered, henter, fun spawn hplace => ?_⟩
  rw [place_of_not_canEnter spawn hcd hnone] at hplace
  exact helsewhere (congrArg Prod.snd hplace)

/-- A word that goes by the link `s` and the name below it is not followed. -/
theorem notEntered_deep {word : String} {tail : List Char} {rest : List Bytes} {n : Nat}
    {l : Location} {entered : WorkingDirectory} (hword : word.toList = 's' :: tail)
    (hnul : FileTree.hasNul (Bytes.ofText word) = false)
    (hlength : (Bytes.ofText word).length + 1 < Path.maxLength)
    (hnames : Path.names (Bytes.ofText word) = [115] :: FileTree.longName :: rest)
    (hresolves : FileTree.deep.Resolves n [] (Path.names (Bytes.ofText word)) l)
    (hfew : n ≤ FileTree.maxLinks) (hl : FileTree.deep.directoryAt l = .ok entered)
    (helsewhere : ⟨[], 0⟩ ≠ entered) : (inTree .deep ⟨[], 0⟩ [47]).NotEntered word := by
  have hne : word ≠ "" := by
    rintro rfl
    cases hword
  have hhelp : word ≠ "help" := by
    rintro rfl
    have hfirst := congrArg List.head? hword
    rw [List.head?_cons] at hfirst
    exact absurd hfirst (by decide)
  have hbytes : Bytes.ofText word ≠ [] := Bytes.ofText_ne_nil hne
  have hrelative : ¬Path.isAbsolute (Bytes.ofText word) := by
    unfold Bytes.ofText Path.isAbsolute
    rw [hword, List.flatMap_cons, show String.utf8EncodeChar 's' = [115] by decide]
    exact Bool.false_ne_true
  refine notEntered_of_enter (Builtin.cdTarget?_word hne (by simp [hword]) hhelp)
    (FileTree.enter_of_resolves hbytes hrelative hnul hlength hresolves hfew hl _) ?_ helsewhere
  rintro l ⟨⟨n, ⟨-, base, hbase, hn⟩, -⟩, -⟩
  obtain rfl : [] = base :=
    Option.some.inj ((FileTree.base?_path_join [] _).symm.trans hbase)
  have hjoin := FileTree.names_join_root hbytes hrelative
  exact FileTree.not_traces_deep (hnames ▸ hjoin ▸ hn)

theorem notEntered_deepWord : (inTree .deep ⟨[], 0⟩ [47]).NotEntered FileTree.deepWord := by
  have hresolves := FileTree.resolves_deep FileTree.resolves_last_deep
  rw [← FileTree.names_deepWord] at hresolves
  have hword : FileTree.deepWord.toList = 's' :: '/' :: List.replicate 255 'x' := by
    unfold FileTree.deepWord
    rw [String.toList_append, show "s/".toList = ['s', '/'] by decide, String.toList_ofList,
      List.cons_append, List.singleton_append]
  refine notEntered_deep hword ?_ ?_ FileTree.names_deepWord hresolves (by decide)
    (FileTree.directoryAt_deep (Nat.le_refl 16)) ?_
  · rw [FileTree.ofText_deepWord]
    decide +kernel
  · rw [FileTree.ofText_deepWord]
    decide +kernel
  · intro h
    cases congrArg WorkingDirectory.serial h

theorem notEntered_deepWordUp :
    (inTree .deep ⟨[], 0⟩ [47]).NotEntered FileTree.deepWordUp := by
  have hup : FileTree.deep.Resolves 0 (List.replicate 16 FileTree.longName) [Path.up]
      (List.replicate 15 FileTree.longName) := by
    have hstep := FileTree.Step.up (FileTree.searchable_deep (Nat.le_refl 16))
    rw [List.dropLast_replicate] at hstep
    exact .step hstep (.arrived _)
  have hresolves := FileTree.resolves_deep (FileTree.resolves_last_deep.append hup)
  rw [List.singleton_append, ← FileTree.names_deepWordUp] at hresolves
  have hword : FileTree.deepWordUp.toList
      = 's' :: '/' :: (List.replicate 255 'x' ++ ['/', '.', '.']) := by
    unfold FileTree.deepWordUp FileTree.deepWord
    rw [String.toList_append, String.toList_append, show "s/".toList = ['s', '/'] by decide,
      show "/..".toList = ['/', '.', '.'] by decide, String.toList_ofList, List.append_assoc,
      List.cons_append, List.singleton_append]
  refine notEntered_deep hword ?_ ?_ FileTree.names_deepWordUp hresolves (by decide)
    (FileTree.directoryAt_deep (Nat.le_succ 15)) ?_
  · rw [FileTree.ofText_deepWordUp]
    decide +kernel
  · rw [FileTree.ofText_deepWordUp]
    decide +kernel
  · intro h
    cases congrArg WorkingDirectory.serial h

theorem notEntered_help : (inTree .withHelp ⟨[], 0⟩ [47]).NotEntered "help" := by
  refine ⟨⟨[Bytes.ofText "help"], 1⟩, ?_, fun spawn hplace => ?_⟩
  · have hdown : FileTree.withHelp.Resolves 0 [] [Bytes.ofText "help"] [Bytes.ofText "help"] :=
      .step (.down ⟨0, 0o755, rfl, rfl⟩ rfl (by simp)) (.arrived _)
    exact FileTree.enter_of_resolves (by decide) (by decide) (by decide) (by decide) hdown
      (by decide) rfl ⟨[], 0⟩
  · rw [place_of_no_target spawn rfl] at hplace
    cases congrArg Prod.fst hplace

theorem notEntered_up : (inTree .afterRemoval ⟨[[119]], 1⟩ Path.here).NotEntered ".." := by
  -- a session that begins in a removed directory calls it `.`
  have helsewhere : (⟨[[119]], 1⟩ : WorkingDirectory) ≠ ⟨[], 0⟩ := by decide
  refine notEntered_of_enter (Builtin.cdTarget?_word (by decide) (by decide) (by decide)) ?_ ?_
    helsewhere
  · have hresolve : FileTree.afterRemoval.resolve ⟨[[119]], 1⟩
        (Path.join Path.here (Bytes.ofText "..")) = .ok (.located []) := by
      show Spot.located <$> FileTree.afterRemoval.walk FileTree.maxLinks [] [] = _
      rw [FileTree.walk]
      rfl
    exact FileTree.enter_of_resolve hresolve rfl
  · rintro l ⟨⟨n, ⟨-, base, hbase, -⟩, -⟩, -⟩
    cases hbase

theorem enteredAnyway_closed : (inTree .closed ⟨[], 0⟩ [47]).EnteredAnyway "d/.." := by
  have hroot : FileTree.closed.Searchable [] := ⟨0, 0o755, rfl, rfl⟩
  constructor
  · have hwalk : FileTree.closed.walk FileTree.maxLinks [] [[100], Path.up]
        = .error .accessDenied := by
      have hentry : FileTree.closed.entryAt [] [100] = .ok (.directory 1 0) := rfl
      have hdirectory : FileTree.closed.directoryAt ([] ++ [[100]]) = .error .accessDenied := rfl
      rw [FileTree.walk, if_neg (by decide), if_neg (by decide), hentry]
      dsimp only
      rw [FileTree.walk, if_neg (by decide), if_pos (.inr rfl), hdirectory]
    have hresolve : FileTree.closed.resolve ⟨[], 0⟩ (Path.join [47] (Bytes.ofText "d/.."))
        = .error .accessDenied := by
      show Spot.located <$> FileTree.closed.walk FileTree.maxLinks [] [[100], Path.up] = _
      rw [hwalk]
      rfl
    have henter : FileTree.closed.enter ⟨[], 0⟩ (Path.join [47] (Bytes.ofText "d/.."))
        = .error .accessDenied := by
      unfold FileTree.enter
      rw [hresolve]
    exact ⟨.accessDenied, henter⟩
  · intro spawn
    have hcan : (inTree .closed ⟨[], 0⟩ [47]).CanEnter (Bytes.ofText "d/..") [] := by
      have hdown : FileTree.closed.Traces 0 [] [[100], Path.up] [] :=
        .down ⟨.root, hroot, rfl, by decide⟩ (by simp) (fun _ => ⟨rfl, by decide⟩)
          (.up (.arrived _))
      exact ⟨⟨0, ⟨by decide, [], by decide, hdown⟩, by decide⟩, by decide, .root, hroot⟩
    exact (runWords_cd_goOn_iff spawn
      (Builtin.cdTarget?_word (by decide) (by decide) (by decide))).2 ⟨_, hcan⟩

/-- `cd` does not do by words what the system does by the paths that they stand
for. Not every directory that one leads to is entered: not one of the name
`help`, none whose path is too long, or that is come to by way of one, and not
the one that a removed directory stood in. And there is a word that does not
lead anywhere, and is followed. -/
theorem cd_differs_from_resolution :
    (inTree .withHelp ⟨[], 0⟩ [47]).NotEntered "help" ∧
      (inTree .deep ⟨[], 0⟩ [47]).NotEntered FileTree.deepWord ∧
      (inTree .deep ⟨[], 0⟩ [47]).NotEntered FileTree.deepWordUp ∧
      (inTree .afterRemoval ⟨[[119]], 1⟩ Path.here).NotEntered ".." ∧
      (inTree .closed ⟨[], 0⟩ [47]).EnteredAnyway "d/.." :=
  ⟨notEntered_help, notEntered_deepWord, notEntered_deepWordUp, notEntered_up,
    enteredAnyway_closed⟩

end Session
end LineShell
