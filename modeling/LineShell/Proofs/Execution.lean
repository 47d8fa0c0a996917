/-
Which file a program that was found is executed from. Looking a command up
and executing what was found are two searches for one path. The look-up
takes the path against the directory of the interpreter's process. The
execution takes it against the directory that the program starts in, and a
path without a slash in it is no path at all there: it is looked for
again, along the variable `PATH` that the program is given, or along the
default path of the system if there is none (`Host.Setting.Executes`).

So the file that was looked at is the one that is executed if its path
begins at the root; any other path with a slash in it needs the session
and its process to be in one directory (`Session.found_is_executed`).

# An empty entry

A path without a slash comes of an empty entry of the search path, or of an
empty search path, which is a single empty entry. It is also what the
search path is if there is no variable `PATH` at all. Then a program in
the working directory is found, and one of the system's is executed
(`Session.another_is_executed`).
-/
import LineShell.Host.Spawn
import LineShell.Proofs.Conduct
import LineShell.Proofs.Place

namespace LineShell

-- ================================================================ the files

namespace FileTree

variable {t : FileTree}

/-- A path that begins at the root resolves alike for every process. -/
theorem resolve_of_isAbsolute {p : Path} (hp : p.isAbsolute) (d d' : WorkingDirectory) :
    t.resolve d p = t.resolve d' p := by
  rw [resolve_of_base? (base?_of_isAbsolute hp d), resolve_of_base? (base?_of_isAbsolute hp d')]

theorem isProgram_of_tool {d : WorkingDirectory} {p : Path} {l : Location} {tool : String}
    (hresolve : t.resolve d p = .ok (.located l)) (hl : t.lookup l = some (.tool tool)) :
    t.isProgram d p := by
  unfold isProgram
  rw [hresolve]
  dsimp only
  rw [hl]

/-- A directory that is still in its place is entered by the path of that. -/
theorem entered_eq_of_holds {d d' entered : WorkingDirectory} (hd : t.holds d)
    (h : t.enter d' d.location.path = .ok entered) : entered = d := by
  have hserial := holds_iff.1 hd
  have hgrounded := (isDirectory_of_serialAt? hserial).grounded
  obtain ⟨-, -, hdirectory⟩ := hgrounded.enter_path_eq_ok_iff.1 h
  obtain ⟨hlocation, hholds⟩ := directoryAt_spec hdirectory
  have hserial' := holds_iff.1 hholds
  rcases d with ⟨location, serial⟩
  rcases entered with ⟨location', serial'⟩
  obtain rfl : location' = location := hlocation
  obtain rfl : serial' = serial := Option.some.inj (hserial'.symm.trans hserial)
  rfl

end FileTree

-- =============================================================== the rules

/-- How a system executes programs: from which files, for the requests and
what they find, is told by `executes`. -/
structure Spawner.ExecutesBy (spawn : Spawner)
    (executes : ProgramRequest → Scene → Spot → Prop) : Prop where
  /-- A program that is started is executed from a file. -/
  exists_spot : ∀ {r : ProgramRequest} {scene : Scene} {ran : Ran},
    spawn r scene = .ok ran → ∃ spot, executes r scene spot
  /-- A path with a slash is taken against the directory that the program
  starts in, and not looked for. -/
  of_slash : ∀ {r : ProgramRequest} {scene : Scene} {spot : Spot},
    executes r scene spot → r.program.contains Path.slash →
      ∃ entered, scene.files.enter scene.directory r.directory = .ok entered ∧
        scene.files.resolve entered r.program = .ok spot

-- ============================================================= one machine

namespace Host

namespace Setting

variable {s : Setting} {program path : Path} {name : Bytes} {arguments : List Bytes}
  {what : Program}

/-- What is passed over in a search for a program. -/
def isPassedOver : Except SystemError Program → Bool
  | .error e => e = .noEntry || e = .notDirectory || e = .accessDenied
  | .ok _ => false

/-- A process that tries paths for a name comes to one of them: all those in
front of it are passed over. -/
def ComesTo (s : Setting) (name : Bytes) (arguments : List Bytes) (paths : List Path)
    (path : Path) : Prop :=
  ∃ before after, paths = before ++ path :: after ∧
    ∀ other ∈ before, isPassedOver (s.executeFile other name arguments)

/-- A process executes the file at a path for a program, and this is what
runs. -/
inductive Executes (s : Setting) (program : Path) (arguments : List Bytes) :
    Path → Program → Prop
  /-- A path with a slash is the path of the file. -/
  | asGiven {what : Program} (hslash : program.contains Path.slash)
      (hfile : s.executeFile program program arguments = .ok what) :
      Executes s program arguments program what
  /-- Any other is looked for. -/
  | searched {what : Program} {path : Path} (hslash : ¬program.contains Path.slash)
      (hcomes : s.ComesTo program arguments (s.trials program) path)
      (hfile : s.executeFile path program arguments = .ok what) :
      Executes s program arguments path what
  /-- If what is found is of no known format it may be given to the shell. -/
  | asScript {what : Program} {path : Path} (hslash : ¬program.contains Path.slash)
      (hcomes : s.ComesTo program arguments (s.trials program) path)
      (hfile : s.executeFile path program arguments = .error .unknownFormat)
      (hshell : s.executeFile (Bytes.ofText "/bin/sh") (Bytes.ofText "/bin/sh")
        (path :: arguments) = .ok what) :
      Executes s program arguments path what

theorem ComesTo.head (s : Setting) (name : Bytes) (arguments : List Bytes) (path : Path)
    (paths : List Path) : s.ComesTo name arguments (path :: paths) path :=
  ⟨[], paths, rfl, by simp⟩

theorem ComesTo.cons {paths : List Path} {first : Path}
    (h : s.ComesTo name arguments paths path)
    (hfirst : isPassedOver (s.executeFile first name arguments)) :
    s.ComesTo name arguments (first :: paths) path := by
  obtain ⟨before, after, rfl, hbefore⟩ := h
  refine ⟨first :: before, after, rfl, fun other hmem => ?_⟩
  rcases List.mem_cons.1 hmem with rfl | hmem
  · exact hfirst
  · exact hbefore other hmem

/-- What runs is what the path comes to that is tried last, unless that is
given to the shell. -/
theorem comesTo_of_tryPaths {viaShell denied : Bool} {paths : List Path}
    (h : s.tryPaths viaShell name arguments denied paths = .ok what) :
    ∃ path, s.ComesTo name arguments paths path ∧
      (s.executeFile path name arguments = .ok what ∨
        s.executeFile path name arguments = .error .unknownFormat ∧
          s.executeFile (Bytes.ofText "/bin/sh") (Bytes.ofText "/bin/sh")
            (path :: arguments) = .ok what) := by
  induction paths generalizing denied with
  | nil => cases h
  | cons first paths ih =>
      rw [tryPaths] at h
      split at h
      · rename_i program hfile
        cases h
        exact ⟨first, .head s name arguments first paths, .inl hfile⟩
      · rename_i e hfile
        split at h
        · rename_i hmissing
          obtain ⟨path, hcomes, hruns⟩ := ih h
          have hfirst : isPassedOver (.error e) := Bool.or_eq_true_iff.2 (.inl hmissing)
          exact ⟨path, hcomes.cons (by rw [hfile]; exact hfirst), hruns⟩
        · split at h
          · rename_i hdenied
            obtain ⟨path, hcomes, hruns⟩ := ih h
            have hfirst : isPassedOver (.error e) := by simp [isPassedOver, hdenied]
            exact ⟨path, hcomes.cons (by rw [hfile]; exact hfirst), hruns⟩
          · split at h
            · rename_i hshell
              have hformat : e = .unknownFormat := by
                simpa using (Bool.and_eq_true_iff.1 hshell).1
              rw [hformat] at hfile
              exact ⟨first, .head s name arguments first paths, .inr ⟨hfile, h⟩⟩
            · cases h

/-- What runs is what some file comes to. -/
theorem exists_executes {viaShell : Bool} (h : s.execute viaShell program arguments = .ok what) :
    ∃ path, s.Executes program arguments path what := by
  unfold execute at h
  split at h
  · cases h
  · split at h
    · rename_i hslash
      exact ⟨program, .asGiven hslash h⟩
    · rename_i hslash
      obtain ⟨path, hcomes, hfile | ⟨hformat, hshell⟩⟩ := comesTo_of_tryPaths h
      · exact ⟨path, .searched hslash hcomes hfile⟩
      · exact ⟨path, .asScript hslash hcomes hformat hshell⟩

/-- A path with a slash is not looked for. -/
theorem Executes.path_eq (h : s.Executes program arguments path what)
    (hslash : program.contains Path.slash) : path = program := by
  cases h with
  | asGiven _ hfile => rfl
  | searched hnone hcomes hfile => exact absurd hslash hnone
  | asScript hnone hcomes hfile hshell => exact absurd hslash hnone

/-- A file of which something runs is there, and so is one of no known format. -/
theorem exists_location_of_executeFile
    (h : (∃ what, s.executeFile path name arguments = .ok what) ∨
      s.executeFile path name arguments = .error .unknownFormat) :
    ∃ l, s.files.resolve s.directory path = .ok (.located l) := by
  unfold executeFile inspect at h
  cases hresolve : s.files.resolve s.directory path with
  | error e =>
      rw [hresolve] at h
      rcases h with ⟨what, h⟩ | h
      · cases h
      · -- no path fails to resolve in this way
        obtain rfl : e = .unknownFormat := Except.error.inj h
        exact absurd (FileTree.mem_resolveErrors_of_resolve hresolve) (by decide)
  | ok spot =>
      cases spot with
      | located l => exact ⟨l, rfl⟩
      | removed d' =>
          rw [hresolve] at h
          rcases h with ⟨what, h⟩ | h
          · cases h
          · cases h

/-- What a process executes is there. -/
theorem Executes.exists_location (h : s.Executes program arguments path what) :
    ∃ l, s.files.resolve s.directory path = .ok (.located l) := by
  cases h with
  | asGiven hslash hfile => exact exists_location_of_executeFile (.inl ⟨what, hfile⟩)
  | searched hslash hcomes hfile => exact exists_location_of_executeFile (.inl ⟨what, hfile⟩)
  | asScript hslash hcomes hfile hshell => exact exists_location_of_executeFile (.inr hfile)

/-- A program of the machine is what runs for its file. -/
theorem executeFile_of_tool {l : Location} {tool : String}
    (hresolve : s.files.resolve s.directory path = .ok (.located l))
    (hlookup : s.files.lookup l = some (.tool tool))
    (hfits : fits (path :: name :: arguments ++ s.vars)) :
    s.executeFile path name arguments = .ok ⟨tool, name, arguments⟩ := by
  have hinspect : s.inspect path = .ok (.tool tool) := by
    unfold inspect
    rw [hresolve]
    dsimp only
    rw [hlookup]
  unfold executeFile
  rw [hinspect]
  dsimp only
  rw [hfits]
  rfl

/-- A path with a slash is executed as it is. -/
theorem execute_of_slash {viaShell : Bool} (hslash : program.contains Path.slash)
    (hfile : s.executeFile program program arguments = .ok what) :
    s.execute viaShell program arguments = .ok what := by
  have hsome : ¬program.isEmpty := by
    rintro hempty
    rw [List.isEmpty_iff.1 hempty] at hslash
    cases hslash
  unfold execute
  rw [if_neg hsome, if_pos hslash]
  exact hfile

/-- Any other is executed as the first trial, if there is a file. -/
theorem execute_of_trial {viaShell : Bool} {paths : List Path} (hsome : ¬program.isEmpty)
    (hslash : ¬program.contains Path.slash) (htrials : s.trials program = path :: paths)
    (hfile : s.executeFile path program arguments = .ok what) :
    s.execute viaShell program arguments = .ok what := by
  unfold execute
  rw [if_neg hsome, if_neg hslash, htrials, tryPaths, hfile]

end Setting

variable {r : ProgramRequest} {scene : Scene} {run : Program → Setting → Streams → Ran}

/-- The file that a program is executed from, in the directory that was asked
for. -/
def ExecutedFrom (r : ProgramRequest) (scene : Scene) (spot : Spot) : Prop :=
  ∃ entered path what, scene.files.enter scene.directory r.directory = .ok entered ∧
    (settingFor r scene entered).Executes r.program (r.arguments.map Bytes.ofText) path what ∧
    scene.files.resolve entered path = .ok spot

/-- The machine keeps to the rules, whatever its programs do. -/
theorem executesBy_spawnBy (run : Program → Setting → Streams → Ran) :
    (spawnBy run).ExecutesBy ExecutedFrom where
  exists_spot := by
    intro r scene ran h
    unfold spawnBy at h
    split at h
    · cases h
    · split at h
      · cases h
      · rename_i entered henter
        dsimp only at h
        split at h
        · cases h
        · rename_i what hexecute
          obtain ⟨path, hexecutes⟩ := Setting.exists_executes hexecute
          obtain ⟨l, hl⟩ := hexecutes.exists_location
          exact ⟨.located l, entered, path, what, henter, hexecutes, hl⟩
  of_slash := by
    rintro r scene spot ⟨entered, path, what, henter, hexecutes, hspot⟩ hslash
    rw [hexecutes.path_eq hslash] at hspot
    exact ⟨entered, henter, hspot⟩

/-- A program is started if something is executed. -/
theorem exists_ran {entered : WorkingDirectory} {what : Program}
    (hnul : (requestTexts r).any (·.contains 0) = false)
    (henter : scene.files.enter scene.directory r.directory = .ok entered)
    (hexecute : (settingFor r scene entered).execute (r.own.lookup "PATH").isSome r.program
      (r.arguments.map Bytes.ofText) = .ok what) :
    ∃ ran, spawnBy run r scene = .ok ran := by
  unfold spawnBy
  rw [if_neg (by rw [hnul]; exact Bool.false_ne_true), henter]
  dsimp only
  rw [hexecute]
  exact ⟨_, rfl⟩

/-- A machine whose programs do nothing. -/
def idle : Spawner :=
  spawnBy fun _ setting streams => ⟨setting.files, streams, .exited 0⟩

end Host

namespace Session

/-- The session and its process are in one directory, which is still there. -/
structure InPlace (s : Session) : Prop where
  inSync : s.InSync
  holds : s.machine.files.holds s.machine.workingDirectory

/-- What was found for a command is there. -/
theorem exists_spot_of_find? {name : String} {s : Session} {found : Found}
    (h : s.find? name = some found) :
    ∃ spot, s.machine.files.resolve s.machine.workingDirectory found.path = .ok spot := by
  unfold find? findProgram? at h
  split at h
  · cases h
  · split at h
    · obtain ⟨path, hpath, rfl⟩ := Option.map_eq_some_iff.1 h
      have hprogram := List.find?_some hpath
      unfold FileTree.isProgram at hprogram
      split at hprogram
      · rename_i location hresolve
        exact ⟨.located location, hresolve⟩
      · cases hprogram
    · split at h
      · rename_i hhas
        cases h
        unfold FileTree.has at hhas
        cases hspot : s.machine.files.resolve s.machine.workingDirectory (Bytes.ofText name) with
        | ok spot => exact ⟨spot, hspot⟩
        | error e =>
            rw [hspot] at hhas
            cases hhas
      · cases h

/-- The first candidate is found if it is a program. -/
theorem find?_of_candidate {name : String} {s : Session} (bare : Bytes) {path : Path}
    (rest : List Path)
    (hsome : ¬(Bytes.ofText name).isEmpty) (hbare : Path.bareName? (Bytes.ofText name) = some bare)
    (hcandidates : candidates s.searchPath bare = path :: rest)
    (hprogram : s.machine.files.isProgram s.machine.workingDirectory path) :
    s.find? name = some (.inEntry path) := by
  unfold find? findProgram?
  rw [if_neg hsome, hbare]
  dsimp only
  rw [hcandidates, List.find?_cons_of_pos hprogram]
  rfl

/-- A program is started for a command. The path that was found led the look-up
to one file, and the program was executed from one. -/
structure Launches (spawn : Spawner) (executes : ProgramRequest → Scene → Spot → Prop)
    (s : Session) (name : String) (arguments : List String) (found : Found)
    (checked executed : Spot) : Prop where
  find : s.find? name = some found
  checked : s.machine.files.resolve s.machine.workingDirectory found.path = .ok checked
  started : ∃ ran, spawn (s.requestFor found.path arguments)
    (s.asking name found.path (s.requestFor found.path arguments)).scene = .ok ran
  executed : executes (s.requestFor found.path arguments)
    (s.asking name found.path (s.requestFor found.path arguments)).scene executed

/-- A file is looked at for every program that is started, and one is
executed. They are the same file if the path that was found begins at the
root, or has a slash in it and the session is in one directory with its
process. -/
theorem found_is_executed {spawn : Spawner} {executes : ProgramRequest → Scene → Spot → Prop}
    (hspawn : spawn.ExecutesBy executes) {name : String} {arguments : List String} {s : Session}
    {found : Found} {ran : Ran} (hfind : s.find? name = some found)
    (hran : spawn (s.requestFor found.path arguments)
      (s.asking name found.path (s.requestFor found.path arguments)).scene = .ok ran) :
    (∃ checked executed, s.Launches spawn executes name arguments found checked executed) ∧
      ∀ checked executed, s.Launches spawn executes name arguments found checked executed →
        found.path.isAbsolute ∨ found.path.contains Path.slash ∧ s.InPlace →
          executed = checked := by
  constructor
  · obtain ⟨checked, hchecked⟩ := exists_spot_of_find? hfind
    obtain ⟨executed, hexecuted⟩ := hspawn.exists_spot hran
    exact ⟨checked, executed, hfind, hchecked, ⟨ran, hran⟩, hexecuted⟩
  · intro checked executed hlaunches hpath
    have hslash : found.path.contains Path.slash := by
      rcases hpath with habsolute | ⟨hslash, -⟩
      · have hhead : found.path.head? = some Path.slash := by
          simpa [Path.isAbsolute] using habsolute
        simpa using List.mem_of_mem_head? hhead
      · exact hslash
    obtain ⟨entered, henter, hexecuted⟩ := hspawn.of_slash hlaunches.executed hslash
    have hsame : s.machine.files.resolve entered found.path
        = s.machine.files.resolve s.machine.workingDirectory found.path := by
      rcases hpath with habsolute | ⟨-, hplace⟩
      · exact FileTree.resolve_of_isAbsolute habsolute _ _
      · have henter' : s.machine.files.enter s.machine.workingDirectory s.environment.directory
            = .ok entered := henter
        rw [hplace.inSync] at henter'
        rw [FileTree.entered_eq_of_holds hplace.holds henter']
    have hexecuted' : s.machine.files.resolve entered found.path = .ok executed := hexecuted
    rw [hsame, hlaunches.checked] at hexecuted'
    exact (Except.ok.inj hexecuted').symm

end Session

-- ================================================================ two files

namespace FileTree

/-- A tree with a program of one name in `/bin` and another in `/w`. -/
def twoTools : FileTree :=
  { nodes :=
      [([], .directory 0 0o755), ([[98, 105, 110]], .directory 1 0o755),
        ([[98, 105, 110], [116]], .tool "false"), ([[119]], .directory 2 0o755),
        ([[119], [116]], .tool "true")]
    fresh := 3 }

/-- Where paths lead in it: `t`, `./t`, `/bin/t`, `/bin` and `/w`. -/
theorem resolve_twoTools (d : WorkingDirectory) :
    twoTools.resolve ⟨[[119]], 2⟩ [116] = .ok (.located [[119], [116]]) ∧
      twoTools.resolve ⟨[[119]], 2⟩ [46, 47, 116] = .ok (.located [[119], [116]]) ∧
      twoTools.resolve ⟨[[98, 105, 110]], 1⟩ [46, 47, 116]
        = .ok (.located [[98, 105, 110], [116]]) ∧
      twoTools.resolve d [47, 98, 105, 110, 47, 116] = .ok (.located [[98, 105, 110], [116]]) ∧
      twoTools.resolve d [47, 98, 105, 110] = .ok (.located [[98, 105, 110]]) ∧
      twoTools.resolve d [47, 119] = .ok (.located [[119]]) := by
  have hroot : twoTools.Searchable [] := ⟨0, 0o755, rfl, rfl⟩
  have hbin : twoTools.Searchable [[98, 105, 110]] := ⟨1, 0o755, rfl, rfl⟩
  have hw : twoTools.Searchable [[119]] := ⟨2, 0o755, rfl, rfl⟩
  have hinW : twoTools.Resolves 0 [[119]] [[116]] [[119], [116]] :=
    .step (.down hw rfl (by simp)) (.arrived _)
  have hinBin : twoTools.Resolves 0 [[98, 105, 110]] [[116]] [[98, 105, 110], [116]] :=
    .step (.down hbin rfl (by simp)) (.arrived _)
  have htoBin : twoTools.Resolves 0 [] [[98, 105, 110]] [[98, 105, 110]] :=
    .step (.down hroot rfl (by simp)) (.arrived _)
  have htoW : twoTools.Resolves 0 [] [[119]] [[119]] :=
    .step (.down hroot rfl (by simp)) (.arrived _)
  exact ⟨resolve_of_resolves rfl (by decide) rfl hinW (by decide),
    resolve_of_resolves rfl (by decide) rfl (.step (.here hw) hinW) (by decide),
    resolve_of_resolves rfl (by decide) rfl (.step (.here hbin) hinBin) (by decide),
    resolve_of_resolves rfl (by decide) rfl (htoBin.append hinBin) (by decide),
    resolve_of_resolves rfl (by decide) rfl htoBin (by decide),
    resolve_of_resolves rfl (by decide) rfl htoW (by decide)⟩

end FileTree

namespace Session

/-- A session whose process is in `/w` of that tree. -/
def amongTwoTools (vars : Variables) (directory : Path) : Session where
  machine := { files := .twoTools, workingDirectory := ⟨[[119]], 2⟩ }
  environment := { vars, directory }

/-- What is executed there. -/
def settingAmongTwoTools (vars : Variables) (entered : WorkingDirectory) : Host.Setting where
  files := .twoTools
  directory := entered
  vars := (ProcessVariables.overlay .empty vars).lines

/-- There a program of the tree is launched if it is what a path leads to, for
the look-up or for the process that is started. -/
theorem launches_amongTwoTools {vars : Variables} {directory path : Path} {name : String}
    {found : Found} {checked : Spot} {l : Location} (entered : WorkingDirectory)
    (what : Host.Program) (hfind : (amongTwoTools vars directory).find? name = some found)
    (hchecked : FileTree.twoTools.resolve ⟨[[119]], 2⟩ found.path = .ok checked)
    (henter : FileTree.twoTools.enter ⟨[[119]], 2⟩ directory = .ok entered)
    (hnul : (Host.requestTexts ((amongTwoTools vars directory).requestFor found.path [])).any
      (·.contains 0) = false)
    (hexecute : (settingAmongTwoTools vars entered).execute (vars.lookup "PATH").isSome
      found.path [] = .ok what)
    (hexecutes : (settingAmongTwoTools vars entered).Executes found.path [] path what)
    (hexecuted : FileTree.twoTools.resolve entered path = .ok (.located l)) :
    (amongTwoTools vars directory).Launches Host.idle Host.ExecutedFrom name [] found checked
      (.located l) :=
  ⟨hfind, hchecked, Host.exists_ran hnul henter hexecute, entered, path, what, henter, hexecutes,
    hexecuted⟩

/-- By its path from the root a program is found, and that is what is
executed. -/
theorem found_is_executed_absolute :
    let s := amongTwoTools { entries := [("PATH", "/bin")] } [47, 119]
    let found : Found := .inEntry [47, 98, 105, 110, 47, 116]
    s.find? "t" = some found ∧
      ∃ checked, s.Launches Host.idle Host.ExecutedFrom "t" [] found checked checked := by
  intro s found
  obtain ⟨-, -, -, htool, -, hw⟩ := FileTree.resolve_twoTools ⟨[[119]], 2⟩
  have hfind : s.find? "t" = some found := by
    exact find?_of_candidate [116] [] (by decide) (by decide) (by decide)
      (FileTree.isProgram_of_tool htool rfl)
  have hfile : (settingAmongTwoTools s.environment.vars ⟨[[119]], 2⟩).executeFile found.path
      found.path [] = .ok ⟨"false", found.path, []⟩ :=
    Host.Setting.executeFile_of_tool htool rfl (by decide)
  have hlaunches : s.Launches Host.idle Host.ExecutedFrom "t" [] found
      (.located [[98, 105, 110], [116]]) (.located [[98, 105, 110], [116]]) :=
    launches_amongTwoTools ⟨[[119]], 2⟩ ⟨"false", found.path, []⟩ hfind htool
      (FileTree.enter_of_resolve hw rfl) (by decide)
      (Host.Setting.execute_of_slash (by decide) hfile) (.asGiven (by decide) hfile) htool
  obtain ⟨ran, hran⟩ := hlaunches.started
  obtain ⟨⟨checked, executed, hruns⟩, hsame⟩ :=
    found_is_executed (Host.executesBy_spawnBy _) hfind hran
  have heq := hsame checked executed hruns (.inl (by decide))
  exact ⟨hfind, checked, heq ▸ hruns⟩

/-- If there is no variable `PATH` the program of the working directory is
found, and that of `/bin` is executed. So it is if the session is in `/bin`,
and its process is not. -/
theorem another_is_executed :
    (amongTwoTools .empty [47, 119]).InSync ∧
      (amongTwoTools .empty [47, 119]).Launches Host.idle Host.ExecutedFrom "t" []
        (.inEntry [116]) (.located [[119], [116]]) (.located [[98, 105, 110], [116]]) ∧
      (amongTwoTools .empty [47, 98, 105, 110]).Launches Host.idle Host.ExecutedFrom "./t" []
        (.asGiven [46, 47, 116]) (.located [[119], [116]])
        (.located [[98, 105, 110], [116]]) := by
  obtain ⟨hbare, hhere, hthere, htool, hbin, hw⟩ := FileTree.resolve_twoTools ⟨[[119]], 2⟩
  refine ⟨by unfold InSync; decide, ?_, ?_⟩
  · have hfind : (amongTwoTools .empty [47, 119]).find? "t" = some (.inEntry [116]) := by
      exact find?_of_candidate [116] [] (by decide) (by decide) (by decide)
        (FileTree.isProgram_of_tool hbare rfl)
    have htrials : (settingAmongTwoTools .empty ⟨[[119]], 2⟩).trials [116]
        = [[47, 98, 105, 110, 47, 116], [47, 117, 115, 114, 47, 98, 105, 110, 47, 116]] := by
      decide
    have hfile : (settingAmongTwoTools .empty ⟨[[119]], 2⟩).executeFile
        [47, 98, 105, 110, 47, 116] [116] [] = .ok ⟨"false", [116], []⟩ :=
      Host.Setting.executeFile_of_tool htool rfl (by decide)
    refine launches_amongTwoTools ⟨[[119]], 2⟩ ⟨"false", [116], []⟩ hfind hbare
      (FileTree.enter_of_resolve hw rfl) (by decide)
      (Host.Setting.execute_of_trial (by decide) (by decide) htrials hfile)
      (.searched (by decide) ?_ hfile) htool
    rw [Found.path, htrials]
    exact .head _ _ _ _ _
  · have hfind : (amongTwoTools .empty [47, 98, 105, 110]).find? "./t"
        = some (.asGiven [46, 47, 116]) := by
      unfold find? findProgram?
      rw [if_neg (by decide), show Path.bareName? (Bytes.ofText "./t") = none by decide]
      dsimp only
      rw [if_pos]
      · decide
      · show (FileTree.twoTools.resolve ⟨[[119]], 2⟩ [46, 47, 116]).isOk
        rw [hhere]
        rfl
    have hfile : (settingAmongTwoTools .empty ⟨[[98, 105, 110]], 1⟩).executeFile [46, 47, 116]
        [46, 47, 116] [] = .ok ⟨"false", [46, 47, 116], []⟩ :=
      Host.Setting.executeFile_of_tool hthere rfl (by decide)
    exact launches_amongTwoTools ⟨[[98, 105, 110]], 1⟩ ⟨"false", [46, 47, 116], []⟩ hfind hhere
      (FileTree.enter_of_resolve hbin rfl) (by decide)
      (Host.Setting.execute_of_slash (by decide) hfile) (.asGiven (by decide) hfile) hthere

end Session
end LineShell
