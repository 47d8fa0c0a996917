/-
Journeys: one `cd` after another goes where a single one goes to whose target
is both targets with a slash between them (`Session.cd_composes`). This holds
although the first `cd` forgets the way it has come and keeps the canonical
path of where it is. The targets may follow links and climb out of where the
links led, the session and its process may be in different places at the
start, and any part of the way may be missing or closed to a search.

# What is assumed

Canonical forms have to be computed by physical resolution
(`Session.PhysicalAlong`): otherwise the single `cd` can pass a directory that
the first of the two cannot enter, because it is left again by `..`.

And the limits of the system must not be reached (`Session.WithinLimits`). The
single `cd` follows all links of the way at once, and may be refused for their
number where each of the two is not. And it passes a place on the way that the
first of the two has to enter by its canonical path, which may be too long.
-/
import LineShell.Proofs.Entering

namespace LineShell

namespace FileTree

variable {t : FileTree} {d : WorkingDirectory} {l l' : Location} {rest : List Bytes} {n : Nat}

/-- A path that begins at the root has one canonical form for all processes. -/
theorem Physical.elsewhere {p : Path} (h : t.Physical d p) (hp : p.isAbsolute)
    (d' : WorkingDirectory) : t.Physical d' p := by
  intro l
  rw [canonical_of_isAbsolute hp d' d, h l]
  exact exists_congr fun n =>
    and_congr_left fun _ => ⟨fun hn => hn.elsewhere hp d', fun hn => hn.elsewhere hp d⟩

/-- By the names of a location one comes to it, and goes on from there. -/
theorem Reached.traces_append (hl : t.Reached l) (hmore : t.Traces n l rest l')
    (hasked : asksForDirectory rest → t.IsDirectory l ∧ l.path.length + 1 < Path.maxLength)
    (hreads : l.IsReadable) : t.Traces n [] (l ++ rest) l' := by
  induction hl generalizing rest with
  | root => exact hmore
  | @child l name node above searched found notLink ih =>
      obtain ⟨hname, -⟩ := seated_of_lookup found
      rw [List.append_assoc, List.singleton_append]
      refine ih (.down ⟨above, searched, found, hreads⟩ notLink (fun h => ?_) hmore) (fun h => ?_)
        (Nat.lt_of_le_of_lt (Location.length_path_le l name) hreads)
      · obtain ⟨hdirectory, hshort⟩ := hasked h
        obtain ⟨serial, mode, hlookup⟩ := isDirectory_iff.1 hdirectory
        rw [found] at hlookup
        exact ⟨by rw [Option.some.inj hlookup]; rfl, hshort⟩
      · -- a name asks for nothing in front of it
        rw [asksForDirectory, if_neg (not_or.2 ⟨hname.plain.1.1, hname.plain.2.1⟩)] at h
        exact absurd (beq_iff_eq.1 h) hname.plain.2.2

end FileTree

namespace Session

variable {s : Session} {p q : Path} {l l' : Location}

/-- A target leads to a location by physical resolution, by no more links than
may be followed, and there is a directory there that may be searched and has a
path that the system reads. -/
structure ResolvesTo (s : Session) (target : Path) (l : Location) : Prop where
  leads : ∃ n, s.machine.files.LeadsTo s.machine.workingDirectory
    (s.environment.directory.join target) n l ∧ n ≤ FileTree.maxLinks
  readable : l.IsReadable
  directory : s.machine.files.Searchable l

/-- Physical resolution asks for nothing else. -/
theorem canEnter_iff_resolvesTo (hphysical : s.machine.files.Physical s.machine.workingDirectory
    (s.environment.directory.join p)) : s.CanEnter p l ↔ s.ResolvesTo p l := by
  have hleads := FileTree.canonical_eq_ok_iff.symm.trans (hphysical l)
  constructor
  · rintro ⟨htraces, hreads, -, hdirectory⟩
    exact ⟨hleads.1 htraces, hreads, hdirectory⟩
  · rintro ⟨⟨n, hn, hfew⟩, hreads, hdirectory⟩
    exact ⟨hleads.2 ⟨n, hn, hfew⟩, hreads, hn.reached, hdirectory⟩

/-- The canonical forms that a journey asks for are computed by physical
resolution: of both targets at once, and of one after the other. -/
structure PhysicalAlong (s : Session) (p q : Path) : Prop where
  whole : s.machine.files.Physical s.machine.workingDirectory
    (s.environment.directory.join (p ++ Path.slash :: q))
  first : s.machine.files.Physical s.machine.workingDirectory (s.environment.directory.join p)
  second : ∀ n l, s.machine.files.LeadsTo s.machine.workingDirectory
    (s.environment.directory.join p) n l →
      s.machine.files.Physical s.machine.workingDirectory (l.path.join q)

/-- The limits of the system are not reached on a journey: there are not too many
links on the whole way, and the path of the place between is read. -/
structure WithinLimits (s : Session) (p q : Path) : Prop where
  links : ∀ n l, s.machine.files.LeadsTo s.machine.workingDirectory
    (s.environment.directory.join (p ++ Path.slash :: q)) n l → n ≤ FileTree.maxLinks
  reads : ∀ n l, s.machine.files.LeadsTo s.machine.workingDirectory
    (s.environment.directory.join p) n l → l.IsReadable

/-- A way with a slash in it leads where the part behind the slash leads from
where the part in front of it does. -/
theorem resolvesTo_slash_iff (hp : p ≠ []) (hq : q ≠ []) (hrelative : ¬q.isAbsolute)
    (hlimits : s.WithinLimits p q) (entered : WorkingDirectory) :
    s.ResolvesTo (p ++ Path.slash :: q) l' ↔
      ∃ l, s.ResolvesTo p l ∧ (s.moved l.path entered).ResolvesTo q l' := by
  have hslash := FileTree.leadsTo_slash_iff (t := s.machine.files)
    (d := s.machine.workingDirectory) (Path.join_ne_nil hp s.environment.directory) hq hrelative
  have habsolute : ∀ l : Location, (l.path.join q).isAbsolute :=
    fun l => Path.isAbsolute_join l.isAbsolute_path q
  obtain ⟨hlinks, hreads⟩ := hlimits
  rw [Path.join_append hp] at hlinks
  constructor
  · -- each part follows no more links than the whole
    rintro ⟨⟨n, hn, hfew⟩, hreadable, hdirectory⟩
    rw [Path.join_append hp] at hn
    obtain ⟨k, m, l, hk, hsearch, hm, rfl⟩ := (hslash n l').1 hn
    exact ⟨l, ⟨⟨k, hk, by omega⟩, hreads k l hk, hsearch⟩,
      ⟨m, hm.elsewhere (habsolute l) entered, by omega⟩, hreadable, hdirectory⟩
  · rintro ⟨l, ⟨⟨k, hk, -⟩, -, hsearch⟩, ⟨m, hm, -⟩, hreadable, hdirectory⟩
    -- the whole might follow too many where the parts do not
    have hn := (hslash (k + m) l').2 ⟨k, m, l, hk, hsearch, hm.elsewhere (habsolute l) _, rfl⟩
    refine ⟨⟨k + m, ?_, hlinks _ _ hn⟩, hreadable, hdirectory⟩
    rw [Path.join_append hp]
    exact hn

/-- A session can go a way with a slash in it if it can go to the slash, and
on from there. -/
theorem canEnter_slash_iff (hp : p ≠ []) (hq : q ≠ []) (hrelative : ¬q.isAbsolute)
    (hphysical : s.PhysicalAlong p q) (hlimits : s.WithinLimits p q)
    (entered : WorkingDirectory) :
    s.CanEnter (p ++ Path.slash :: q) l' ↔
      ∃ l, s.CanEnter p l ∧ (s.moved l.path entered).CanEnter q l' := by
  rw [canEnter_iff_resolvesTo hphysical.whole,
    resolvesTo_slash_iff hp hq hrelative hlimits entered]
  refine exists_congr fun l => ?_
  rw [canEnter_iff_resolvesTo hphysical.first]
  refine and_congr_right fun hl => ?_
  obtain ⟨n, hn, -⟩ := hl.leads
  refine (canEnter_iff_resolvesTo ?_).symm
  exact (hphysical.second n l hn).elsewhere (Path.isAbsolute_join l.isAbsolute_path q) entered

-- ====================================================== one after another

/-- Two runs, the second after the first, do as a single one: they go on if
that does, and lead to where it leads; and if only the first of them goes on,
the second fails and changes nothing of that. -/
structure Composes (first second whole : Verdict × Session) : Prop where
  goesOn : first.1 = .goOn ∧ second.1 = .goOn ↔ whole.1 = .goOn
  place : whole.1 = .goOn → second.2.place = whole.2.place
  stays : first.1 = .goOn → second.1 ≠ .goOn →
    second.1 = .goOnAfterFault ∧ second.2.place = first.2.place

/-- Where two sessions of one file tree are taken to one location they are in
one place. -/
theorem place_eq_of_canEnter (spawn : Spawner) {t : Session} {words words' : List String}
    {target target' : String} (hfiles : t.machine.files = s.machine.files)
    (hcd : Builtin.cdTarget? words = some target) (hcd' : Builtin.cdTarget? words' = some target')
    (h : s.CanEnter (Bytes.ofText target) l) (h' : t.CanEnter (Bytes.ofText target') l) :
    (t.runWords spawn words').2.place = (s.runWords spawn words).2.place := by
  obtain ⟨entered, hentered, hrun⟩ := runWords_of_canEnter spawn hcd h
  obtain ⟨entered', hentered', hrun'⟩ := runWords_of_canEnter spawn hcd' h'
  rw [hfiles, hentered] at hentered'
  obtain rfl : entered = entered' := Except.ok.inj hentered'
  rw [hrun, hrun']
  rfl

/-- A `cd` and another one do as a third one, if that can be taken to where the
second can be taken to from where the first can. -/
theorem composes_of_canEnter_iff (spawn : Spawner) {words words' whole : List String}
    {a b c : String} (ha : Builtin.cdTarget? words = some a)
    (hb : Builtin.cdTarget? words' = some b) (hc : Builtin.cdTarget? whole = some c)
    (hcan : ∀ entered l', s.CanEnter (Bytes.ofText c) l' ↔ ∃ l, s.CanEnter (Bytes.ofText a) l ∧
      (s.moved l.path entered).CanEnter (Bytes.ofText b) l') :
    Composes (s.runWords spawn words) ((s.runWords spawn words).2.runWords spawn words')
      (s.runWords spawn whole) := by
  by_cases hfirst : ∃ l, s.CanEnter (Bytes.ofText a) l
  · obtain ⟨l, hl⟩ := hfirst
    obtain ⟨entered, -, hrun⟩ := runWords_of_canEnter spawn ha hl
    rw [hrun]
    dsimp only
    generalize ht : (s.begun "cd").moved l.path entered = t
    have hfiles : t.machine.files = s.machine.files := by rw [← ht]; rfl
    have hsecond : ∀ l', t.CanEnter (Bytes.ofText b) l' ↔ s.CanEnter (Bytes.ofText c) l' := by
      have hbehind : t.behind = (s.moved l.path entered).behind := by rw [← ht]; rfl
      intro l'
      rw [hcan entered]
      constructor
      · exact fun h => ⟨l, hl, h.of_behind hbehind.symm⟩
      · rintro ⟨l₁, hl₁, h⟩
        obtain rfl := hl.unique hl₁
        exact h.of_behind hbehind
    have hiff : (t.runWords spawn words').1 = .goOn ↔ (s.runWords spawn whole).1 = .goOn := by
      rw [runWords_cd_goOn_iff spawn hb, runWords_cd_goOn_iff spawn hc]
      exact exists_congr hsecond
    refine ⟨by simpa using hiff, fun hgo => ?_, fun _ hfails => ?_⟩
    · obtain ⟨l', hl'⟩ := (runWords_cd_goOn_iff spawn hc).1 hgo
      exact place_eq_of_canEnter spawn hfiles hc hb hl' ((hsecond l').2 hl')
    · have hnone := not_exists.1 (mt (runWords_cd_goOn_iff spawn hb).2 hfails)
      obtain ⟨cause, -, hrun'⟩ := runWords_of_not_canEnter spawn hb hnone
      rw [hrun']
      exact ⟨rfl, rfl⟩
  · have hstop : (s.runWords spawn words).1 ≠ .goOn :=
      mt (runWords_cd_goOn_iff spawn ha).1 hfirst
    have hwhole : (s.runWords spawn whole).1 ≠ .goOn := by
      intro hgo
      obtain ⟨l', hl'⟩ := (runWords_cd_goOn_iff spawn hc).1 hgo
      obtain ⟨l, hl, -⟩ := (hcan s.machine.workingDirectory l').1 hl'
      exact hfirst ⟨l, hl⟩
    exact ⟨iff_of_false (fun h => hstop h.1) hwhole, fun h => absurd h hwhole,
      fun h => absurd h hstop⟩

/-- `cd` to the directory where a `cd` has led changes nothing. -/
theorem runWords_here (spawn : Spawner) {words : List String} {target : String}
    (hcd : Builtin.cdTarget? words = some target) (hgo : (s.runWords spawn words).1 = .goOn)
    (hshort : (s.runWords spawn words).2.environment.directory.length + 1 < Path.maxLength) :
    (s.runWords spawn words).2.runWords spawn ["cd", "--", "."]
      = (.goOn, (s.runWords spawn words).2.begun "cd") := by
  obtain ⟨l, hl⟩ := (runWords_cd_goOn_iff spawn hcd).1 hgo
  obtain ⟨entered, hentered, hrun⟩ := runWords_of_canEnter spawn hcd hl
  have hgrounded := hl.reached.grounded
  rw [hrun] at hshort ⊢
  have hhere : ((s.begun "cd").moved l.path entered).CanEnter (Bytes.ofText ".") l := by
    refine ⟨⟨0, ⟨?_, [], FileTree.base?_path_join l _, ?_⟩, Nat.zero_le _⟩, hl.readable, hl.reached,
      hl.directory⟩
    · exact FileTree.hasNul_join hgrounded.hasNul_path _
    · have hnames := Location.names_path_join hgrounded.isName (q := Path.here)
        (by decide) (by decide)
      rw [show ((s.begun "cd").moved l.path entered).environment.directory = l.path from rfl,
        show Bytes.ofText "." = Path.here by decide, hnames]
      exact hl.reached.traces_append (.stay (.inr rfl) (.arrived l))
        (fun _ => ⟨hl.directory.isDirectory, hshort⟩) hl.readable
  obtain ⟨again, hagain, hrun'⟩ := runWords_of_canEnter spawn
    (Builtin.cdTarget?_dashes (by decide)) hhere
  obtain rfl : entered = again := Except.ok.inj (hentered.symm.trans hagain)
  exact hrun'

/-- Two `cd`s go where a single one goes whose target is that of the first
with that of the second behind a slash, which is where the rules for names
lead: if canonical forms are computed by those rules, and if no limit is
reached. And where a `cd` has led, `cd` to the directory itself changes
nothing, if a slash more can be read behind its path. -/
theorem cd_composes (spawn : Spawner) {s : Session} :
    (∀ a b : String, a ≠ "" → b ≠ "" → ¬Path.isAbsolute (Bytes.ofText b) →
      s.PhysicalAlong (Bytes.ofText a) (Bytes.ofText b) →
      s.WithinLimits (Bytes.ofText a) (Bytes.ofText b) →
      Composes (s.runWords spawn ["cd", "--", a])
        ((s.runWords spawn ["cd", "--", a]).2.runWords spawn ["cd", "--", b])
        (s.runWords spawn ["cd", "--", a ++ "/" ++ b]) ∧
      ∀ l, GoesOnAt (s.runWords spawn ["cd", "--", a ++ "/" ++ b]) l ↔
        s.ResolvesTo (Bytes.ofText (a ++ "/" ++ b)) l) ∧
      ∀ words, (Builtin.cdTarget? words).isSome → (s.runWords spawn words).1 = .goOn →
        (s.runWords spawn words).2.environment.directory.length + 1 < Path.maxLength →
        (s.runWords spawn words).2.runWords spawn ["cd", "--", "."]
          = (.goOn, (s.runWords spawn words).2.begun "cd") := by
  refine ⟨fun a b ha hb hrelative hphysical hlimits => ?_, fun words hsome hgo hshort => ?_⟩
  · have hbytes : Bytes.ofText (a ++ "/" ++ b)
        = Bytes.ofText a ++ Path.slash :: Bytes.ofText b := by
      rw [Bytes.ofText_append, Bytes.ofText_append, List.append_assoc]
      rfl
    have hwhole : a ++ "/" ++ b ≠ "" := by
      intro h
      rw [h] at hbytes
      simp [Bytes.ofText] at hbytes
    have hcd := Builtin.cdTarget?_dashes hwhole
    constructor
    · refine composes_of_canEnter_iff spawn (Builtin.cdTarget?_dashes ha)
        (Builtin.cdTarget?_dashes hb) hcd fun entered l' => ?_
      rw [hbytes]
      exact canEnter_slash_iff (Bytes.ofText_ne_nil ha) (Bytes.ofText_ne_nil hb) hrelative
        hphysical hlimits entered
    · intro l
      rw [goesOnAt_cd_iff spawn hcd, hbytes]
      exact canEnter_iff_resolvesTo hphysical.whole
  · obtain ⟨target, hcd⟩ := Option.isSome_iff_exists.1 hsome
    exact runWords_here spawn hcd hgo hshort

/-- The directory above where a link has led is not where the link is. -/
theorem cd_composes_above_link :
    let spawn : Spawner := fun _ _ => .error .noEntry
    let files : FileTree :=
      { nodes := [([], .directory 0 0o755), ([[100]], .directory 1 0o755),
          ([[100], [101]], .directory 2 0o755), ([[108]], .link [100, 47, 101])]
        fresh := 3 }
    let s : Session :=
      { machine := { files, workingDirectory := ⟨[], 0⟩ }
        environment := { directory := [47] } }
    Composes (s.runWords spawn ["cd", "--", "l"])
        ((s.runWords spawn ["cd", "--", "l"]).2.runWords spawn ["cd", "--", ".."])
        (s.runWords spawn ["cd", "--", "l" ++ "/" ++ ".."]) ∧
      (s.runWords spawn ["cd", "--", "l" ++ "/" ++ ".."]).1 = .goOn ∧
      (s.runWords spawn ["cd", "--", "l" ++ "/" ++ ".."]).2.place = ([47, 100], ⟨[[100]], 1⟩) ∧
      (s.runWords spawn ["cd", "--", "l"]).2.runWords spawn ["cd", "--", "."]
        = (.goOn, (s.runWords spawn ["cd", "--", "l"]).2.begun "cd") := by
  intro spawn files s
  have hopen : files.IsOpen := FileTree.isOpen_of_forall (by
    simp +decide [files, FileTree.maySearch, FileTree.allows])
  have hroot : files.Searchable [] := ⟨0, 0o755, rfl, rfl⟩
  have hd : files.Searchable [[100]] := ⟨1, 0o755, rfl, rfl⟩
  have he : files.Searchable [[100], [101]] := ⟨2, 0o755, rfl, rfl⟩
  have hdown : files.Resolves 0 [] [[100], [101]] [[100], [101]] :=
    .step (.down hroot rfl (by simp)) (.step (.down hd rfl (by simp)) (.arrived _))
  have hlink : files.Resolves 1 [] [[108]] [[100], [101]] :=
    .step (.link hroot (show files.lookup [[108]] = some (.link [100, 47, 101]) from rfl)) hdown
  have hfirst : files.LeadsTo ⟨[], 0⟩ (Path.join [47] (Bytes.ofText "l")) 1 [[100], [101]] :=
    ⟨by decide, [], by decide, hlink⟩
  have hwhole : files.LeadsTo ⟨[], 0⟩ (Path.join [47] (Bytes.ofText ("l" ++ "/" ++ ".."))) 1
      [[100]] :=
    ⟨by decide, [], by decide, hlink.append (.step (.up he) (.arrived _))⟩
  have hphysical : s.PhysicalAlong (Bytes.ofText "l") (Bytes.ofText "..") :=
    ⟨hopen.physical _ _, hopen.physical _ _, fun n l _ => hopen.physical _ _⟩
  have hlimits : s.WithinLimits (Bytes.ofText "l") (Bytes.ofText "..") := by
    constructor
    · intro n l h
      obtain ⟨rfl, -⟩ := hwhole.unique h
      decide
    · intro n l h
      obtain ⟨-, rfl⟩ := hfirst.unique h
      decide
  have hcan : s.CanEnter (Bytes.ofText "l") [[100], [101]] :=
    (canEnter_iff_resolvesTo hphysical.first).2 ⟨⟨1, hfirst, by decide⟩, by decide, he⟩
  have hcan' : s.CanEnter (Bytes.ofText ("l" ++ "/" ++ "..")) [[100]] :=
    (canEnter_iff_resolvesTo (hopen.physical _ _)).2 ⟨⟨1, hwhole, by decide⟩, by decide, hd⟩
  have hcd : Builtin.cdTarget? ["cd", "--", "l"] = some "l" := rfl
  have hcd' : Builtin.cdTarget? ["cd", "--", "l" ++ "/" ++ ".."] = some ("l" ++ "/" ++ "..") :=
    Builtin.cdTarget?_dashes (by decide)
  obtain ⟨entered, hentered, hrun⟩ := runWords_of_canEnter spawn hcd' hcan'
  obtain ⟨between, -, hrunFirst⟩ := runWords_of_canEnter spawn hcd hcan
  obtain ⟨hcomposes, hhere⟩ := cd_composes spawn (s := s)
  refine ⟨(hcomposes "l" ".." (by decide) (by decide) (by decide) hphysical hlimits).1,
    by rw [hrun], ?_, hhere _ rfl ?_ ?_⟩
  · rw [hrun]
    cases hentered
    rfl
  · rw [hrunFirst]
  · rw [hrunFirst]
    show List.length (Location.path [[100], [101]]) + 1 < Path.maxLength
    decide

end Session
end LineShell
