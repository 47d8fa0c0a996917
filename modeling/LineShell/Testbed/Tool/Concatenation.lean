/-
The program `cat`: it copies files to the output. If asked, it numbers the
lines, leaves out empty ones behind an empty one, or shows what cannot be
seen (`Style`). How a line goes on does not depend on the file that it
began in (`Layout`).
-/
import LineShell.Testbed.Tool.Options

namespace LineShell.Host.Tool.Concatenation

-- =================================================================== style

/-- How lines are shown. -/
structure Style where
  numbersFull : Bool := false
  numbersAll : Bool := false
  squeezes : Bool := false
  showsEnds : Bool := false
  showsTabs : Bool := false
  showsHidden : Bool := false
  deriving DecidableEq, Repr

namespace Style

/-- Whether bytes are copied as they are. -/
def isPlain (s : Style) : Bool := s == {}

/-- A style with an option, by its letter. -/
def taking (s : Style) (letter : Char) : Style :=
  match letter with
  | 'b' => { s with numbersFull := true }
  | 'n' => { s with numbersAll := true }
  | 's' => { s with squeezes := true }
  | 'v' => { s with showsHidden := true }
  | 'E' => { s with showsEnds := true }
  | 'T' => { s with showsTabs := true }
  | 'A' => { s with showsHidden := true, showsEnds := true, showsTabs := true }
  | 'e' => { s with showsHidden := true, showsEnds := true }
  | 't' => { s with showsHidden := true, showsTabs := true }
  | _ => s

/-- A byte of a line. -/
def shown (s : Style) (b : UInt8) : Bytes :=
  if b = 9 then (if s.showsTabs then [94, 73] else [9])
  else if !s.showsHidden then [b]
  else
    let low (b : UInt8) : Bytes :=
      if b < 32 then [94, b + 64] else if b = 127 then [94, 63] else [b]
    if b < 128 then low b else [77, 45] ++ low (b - 128)

end Style

/-- The options, each with the letter that it stands for. -/
def switches : List (Switch Char) :=
  [('b', ["number-nonblank"]), ('n', ["number"]), ('s', ["squeeze-blank"]),
    ('v', ["show-nonprinting"]), ('E', ["show-ends"]), ('T', ["show-tabs"]),
    ('A', ["show-all"]), ('e', []), ('t', []), ('u', [])].map
    fun (letter, names) => { letter? := some letter, names, meaning := letter }

-- ================================================================== layout

/-- Where in the lines the output is. -/
structure Layout where
  /-- Whether a line was begun. -/
  isWithin : Bool := false
  /-- How many empty lines there were in a row, two at most. -/
  empty : Nat := 0
  /-- How many lines were numbered. -/
  count : Nat := 0
  /-- Whether a carriage return was read that may stand at an end. -/
  holdsReturn : Bool := false

/-- The number of a line. -/
def numeral (n : Nat) : Bytes :=
  let digits := Bytes.ofText (toString n)
  List.replicate (6 - digits.length) 32 ++ digits ++ [9]

/-- What one byte adds to the output. -/
def Layout.add (s : Style) (l : Layout) (b : UInt8) : Layout × Bytes :=
  let held : Bytes := if l.holdsReturn then (if b = 10 then [94, 77] else [13]) else []
  if b = 10 then
    let ending : Bytes := held ++ (if s.showsEnds then [36, 10] else [10])
    if l.isWithin then ({ l with isWithin := false, empty := 0, holdsReturn := false }, ending)
    else if s.squeezes && 0 < l.empty then ({ l with empty := 2 }, [])
    else
      let isNumbered := s.numbersAll && !s.numbersFull
      let count := if isNumbered then l.count + 1 else l.count
      ({ l with empty := l.empty + 1, count },
        (if isNumbered then numeral count else []) ++ ending)
  else
    let isNumbered := !l.isWithin && (s.numbersAll || s.numbersFull)
    let count := if isNumbered then l.count + 1 else l.count
    let holdsReturn := b = 13 && s.showsEnds && !s.showsHidden
    ({ l with isWithin := true, empty := 0, count, holdsReturn },
      held ++ (if isNumbered then numeral count else [])
        ++ (if holdsReturn then [] else s.shown b))

/-- What bytes add to the output. -/
def Layout.addAll (s : Style) (l : Layout) (bytes : Bytes) : Layout × Bytes :=
  let (l, pieces) := bytes.foldl (fun (l, pieces) b =>
    let (l, piece) := l.add s b
    (l, piece :: pieces)) (l, ([] : List Bytes))
  (l, pieces.reverse.flatten)

-- ================================================================= copying

/-- Complains about a file. -/
def complainOf (program : Program) (path : Path) (reason : String) : Activity Unit :=
  complain program (quotedIfNeeded path ++ Bytes.ofText (": " ++ reason))

/-- Copies an open file to the output, a block at a time; says whether all
went well. -/
def copyBlocks (program : Program) (style : Style) (path : Path) (index : Nat) :
    Nat → Layout → Activity (Bool × Layout)
  | 0, layout => return (true, layout)
  | blocks + 1, layout => do
    match ← Activity.await (Process.tryReadFile index (.upTo Process.blockSize)) with
    | .error e =>
      complainOf program path e.reason
      return (false, layout)
    | .ok [] => return (true, layout)
    | .ok bytes =>
      let (layout, bytes) := if style.isPlain then (layout, bytes) else layout.addAll style bytes
      if ← printed program bytes then copyBlocks program style path index blocks layout
      else throw (.exited 1)

/-- Whether an open file is the one that the output goes to, so that
copying it would not come to an end. -/
def feedsItself (p : Process) (index : Nat) : Bool :=
  match p.system.opened[index]?, (p.descriptor? 1).bind (p.system.opened[·]?) with
  | some source, some output =>
    match source.medium, output.medium with
    | .file l, .file other =>
      l == other && source.offset < ((p.system.contents? l).getD []).length
    | _, _ => false
  | _, _ => false

/-- Copies one file to the output; says whether all went well. -/
def copyFile (program : Program) (style : Style) (path : Path) (layout : Layout) :
    Activity (Bool × Layout) := do
  let opened : Except SystemError Nat ←
    if path == [45] then
      match ← Activity.descriptor? 0 with
      | some index => pure (.ok index)
      | none => pure (.error .badDescriptor)
    else Activity.openPath path .read
  match opened with
  | .error e =>
    complainOf program path e.reason
    return (false, layout)
  | .ok index =>
    if feedsItself (← get) index then
      complainOf program path "input file is output file"
      return (false, layout)
    let fd ← Activity.onProcess (Process.keep index)
    let result ← copyBlocks program style path index Activity.patience layout
    Activity.onProcess fun p => ((), p.redirect fd none)
    return result

/-- Copies files to the output, or the input if there are none. -/
def run (program : Program) : Activity Outcome := do
  match Options.read switches program.arguments with
  | .error fault =>
    complainOfUse program fault.message
    return .exited 1
  | .ok (options, paths) =>
    let style := options.foldl (fun (style : Style) (letter, _) => style.taking letter) {}
    if (← Activity.descriptor? 1).isNone then
      complain program (Bytes.ofText "standard output: Bad file descriptor")
      return .exited 1
    let paths := if paths.isEmpty then [[45]] else paths
    let (allWell, layout) ← paths.foldlM (fun (allWell, layout) path => do
      let (isWell, layout) ← copyFile program style path layout
      return (allWell && isWell, layout)) (true, ({} : Layout))
    if layout.holdsReturn then
      if !(← printed program [13]) then return .exited 1
    if paths.contains [45] && (← Activity.descriptor? 0).isNone then
      complain program (Bytes.ofText "closing standard input: Bad file descriptor")
      return .exited 1
    return .exited (if allWell then 0 else 1)

end LineShell.Host.Tool.Concatenation
