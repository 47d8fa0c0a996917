/-
Replacing a pattern by the paths it matches, in the order of their bytes.

A path is matched name by name. A name that begins with a dot is matched
only by a pattern that begins with one. Names that hold no pattern are
not looked up on the way; what they lead to has to exist in the end. A
pattern that matches nothing stays as it is.
-/
import LineShell.Testbed.Script.Shell
import LineShell.Testbed.Script.Pattern

namespace LineShell.Script

/-- A name in a pattern of a path, with the slashes behind it. -/
structure PathStep where
  name : Pattern
  slashes : Bytes
  deriving DecidableEq, Repr

namespace Pattern

/-- Cuts a pattern at its slashes. -/
def steps : Nat → Pattern → List PathStep
  | 0, _ => []
  | _ + 1, [] => []
  | fuel + 1, p =>
    let name := p.takeWhile (·.byte != Path.slash)
    let rest := p.drop name.length
    let slashes := rest.takeWhile (·.byte == Path.slash)
    ⟨name, slashes.map (·.byte)⟩ :: steps fuel (rest.drop slashes.length)

/-- Whether a pattern begins with a dot. -/
def beginsWithDot (p : Pattern) : Bool :=
  (p.head?.map (·.byte)) == some 46

/-- The bytes of a pattern, as a text that is matched by itself. -/
def bytes (p : Pattern) : Bytes := p.map (·.byte)

end Pattern

/-- The names in the directory that a path leads to, those of the directory
itself and of its parent included. -/
def directoryNames (t : FileTree) (d : WorkingDirectory) (path : Path) : List Bytes :=
  match t.resolve d (if path.isEmpty then Path.here else path) with
  | .ok (.located l) => match t.lookup l with
    | some (.directory _ mode) =>
      if t.mayRead mode then Path.here :: Path.up :: t.namesAt l else []
    | _ => []
  | _ => []

/-- The paths that steps match, behind a path. -/
def matchSteps (t : FileTree) (d : WorkingDirectory) (path : Path) : List PathStep → List Path
  | [] => if (t.inspectLink d path).isOk then [path] else []
  | step :: rest =>
    if !step.name.isOpen then matchSteps t d (path ++ step.name.bytes ++ step.slashes) rest
    else
      ((directoryNames t d path).filter fun name =>
        (name.head? != some 46 || step.name.beginsWithDot)
          && Pattern.matches? step.name name).flatMap fun name =>
            matchSteps t d (path ++ name ++ step.slashes) rest

/-- The paths that a pattern matches, in order. -/
def pathsMatching (t : FileTree) (d : WorkingDirectory) (p : Pattern) : List Path :=
  (matchSteps t d [] (p.steps (p.length + 1))).mergeSort Bytes.comesBefore

/-- What a field stands for once its pattern is replaced. -/
def pathsOf (sh : Shell) (glyphs : List Glyph) : List Bytes :=
  let p := Pattern.ofGlyphs glyphs
  if sh.options.contains 'f' || !p.isOpen then [Glyph.bytes glyphs]
  else match pathsMatching sh.process.system.files sh.process.directory p with
    | [] => [Glyph.bytes glyphs]
    | paths => paths

end LineShell.Script
