/-
Redirections. The words in them are expanded first, all of them; then the
files are opened from the left, each redirection seeing those before it.

A redirection that fails leaves the command undone. Redirections of a
command are taken back when it is done, also if it is broken off, except
those that the shell is told to keep.
-/
import LineShell.Testbed.Script.Expansion
import LineShell.Testbed.Script.Processes
import LineShell.Testbed.Script.Reading

namespace LineShell.Script

open Host (Process Access)

/-- A redirection with its words expanded. -/
inductive Prepared
  | file (fd : Nat) (direction : Direction) (path : Path)
  | copy (fd : Nat) (source : Option Nat)
  | document (fd number : Nat) (expanded : Bool)
  deriving DecidableEq, Repr

namespace Prepared

/-- The descriptor that is redirected. -/
def fd : Prepared → Nat
  | .file fd _ _ => fd
  | .copy fd _ => fd
  | .document fd _ _ => fd

/-- Whether the descriptor comes to refer to something else: a copy of
itself changes nothing. -/
def moves : Prepared → Bool
  | .copy fd source => source != some fd
  | _ => true

end Prepared

/-- Expands the words of redirections. -/
def prepare (e : Evaluator) (redirections : List Redirection) : Act (List Prepared) :=
  redirections.mapM fun
    | .file fd direction name =>
      return .file fd direction (← expandText (substitute e) { tilde := true } name)
    | .copy fd source => return .copy fd source
    | .copyOf fd word => do
      match ← expandText (substitute e) { tilde := true } word with
      | [45] => return .copy fd none
      | [b] => if isDigit b then return .copy fd (some (b.toNat - 48))
               else failReading "Bad fd number"
      | _ => failReading "Bad fd number"
    | .document fd number expanded => return .document fd number expanded

/-- How a direction opens its file. -/
def Direction.access : Direction → Access
  | .from => .read
  | .to | .over => .overwrite
  | .after => .append
  | .both => .update

/-- Opens a file for a redirection. -/
def openFile (direction : Direction) (path : Path) : Act Nat := do
  let guarded := direction = .to && (← isOn 'C')
  let p ← look (·.process)
  let standing := p.system.files.resolve p.directory path
  let isRegular := match standing with
    | .ok (.located l) => match p.system.files.lookup l with
      | some (.file _ _) => true
      | _ => false
    | _ => false
  let access : Access :=
    if guarded && !standing.isOk then { writes := true, creates := true, exclusive := true }
    else if guarded then { writes := true }
    else direction.access
  let isRefused := guarded && isRegular
  let result ←
    if isRefused then pure (.error SystemError.fileExists)
    else openPath path access
  match result with
  | .ok index => return index
  | .error error =>
    let creates := access.creates || isRefused
    let reason :=
      if !isMissing error then error.reason
      else if creates then "Directory nonexistent"
      else "No such file"
    fail (lit (if creates then "cannot create " else "cannot open ") ++ path
      ++ lit (": " ++ reason))

/-- Makes a text readable. -/
def openDocument (e : Evaluator) (number : Nat) (expanded : Bool) : Act Nat := do
  let word := ((← look (·.reader.documents)).lookup number).getD []
  let text ←
    if expanded then expandText (substitute e) { quoted := true } word
    else pure (Word.bytes word)
  onProcess fun p =>
    let (reader, system) := p.system.makeText text
    (reader, { p with system })

/-- Makes a redirection. One that is to be taken back sets its descriptor
aside; without a source to copy, the descriptor is closed by then, and what
there is to say of it may be said to nobody. -/
def redirect (e : Evaluator) (setsAside : Bool) (r : Prepared) : Act Unit := do
  let lead (index : Option Nat) : Act Unit :=
    change fun sh => { sh with process := sh.process.redirect r.fd index }
  match r with
  | .file _ direction path => lead (some (← openFile direction path))
  | .document _ number expanded => lead (some (← openDocument e number expanded))
  | .copy _ none => lead none
  | .copy fd (some source) =>
    if source != fd then
      match ← look (·.process.descriptor? source) with
      | some index => lead (some index)
      | none =>
        if setsAside then lead none
        fail (lit (toString source ++ ": " ++ SystemError.badDescriptor.reason))

/-- Keeps what descriptors refer to that are redirected; gives each with
the descriptor at which that is kept, if it refers to something. -/
def keepDescriptors (redirections : List Prepared) : Act (List (Nat × Option Nat)) :=
  (redirections.map (·.fd)).eraseDups.mapM fun fd => do
    match ← look (·.process.descriptor? fd) with
    | none => return (fd, none)
    | some index => return (fd, some (← onProcess (Process.keep index)))

/-- Forgets what was kept of descriptors. -/
def forgetKept (kept : List (Nat × Option Nat)) : Act Unit :=
  for (_, place?) in kept do
    if let some place := place? then onProcess fun p => ((), p.redirect place none)

/-- Takes redirections back: the descriptors refer to what they did. -/
def restore (kept : List (Nat × Option Nat)) : Act Unit := do
  for (fd, place?) in kept do
    onProcess fun p => ((), p.redirect fd (place?.bind p.descriptor?))
  forgetKept kept

/-- Makes redirections that are to be taken back; those descriptors that
were moved before are not set aside again. -/
def redirectEach (e : Evaluator) (moved : List Nat) : List Prepared → Act Unit
  | [] => pure ()
  | r :: rest => do
    redirect e (!moved.contains r.fd) r
    redirectEach e (if r.moves then r.fd :: moved else moved) rest

/-- Makes redirections; says whether they all could be made. -/
def redirectAll (e : Evaluator) (redirections : List Prepared) : Act Bool :=
  try
    redirectEach e [] redirections
    pure true
  catch
    | .failed => pure false
    | abort => throw abort

/-- Runs something under redirections, and takes them back unless told to
keep them. What is to happen if they cannot be made is told as well; those
before the one that failed are kept then, unless that breaks the shell off. -/
def underRedirections (e : Evaluator) (redirections : List Prepared) (keep : Bool)
    (failed act : Act Nat) : Act Nat := do
  if redirections.isEmpty then act
  else
    let kept ← keepDescriptors redirections
    if ← redirectAll e redirections then
      if keep then
        forgetKept kept
        act
      else andLast act (restore kept)
    else if keep then
      let status ← try failed catch abort => do
        restore kept
        throw abort
      forgetKept kept
      return status
    else andLast failed (restore kept)

end LineShell.Script
