/-
Patterns for the value of a field. A filter may ask that a field holds a
value that a regular expression describes:

    request[{path=/static/.*}]=debug

A pattern is only checked here, since no span of the interpreter has
fields to compare: `check` says whether it is well formed and whether it
asks for more than can be provided. What would need a table of letters
cannot: the named classes, letters without regard to case, and the
boundaries of words, unless a pattern asks for ASCII with `(?-u)`; and
such a pattern must not describe bytes that are no text.

A field ends at the first closing brace, so no pattern holds one, and
what opens with a brace is never complete.
-/
import LineShell.Text.Alphanumeric
import LineShell.Text.Blank

namespace LineShell.LogFilter.ValuePattern

/-- Why a pattern cannot be used. -/
inductive Fault
  /-- It is malformed, or needs a table that is not there. -/
  | malformed
  /-- It asks where words begin and end. -/
  | wordBoundary
  deriving DecidableEq, Repr

/-- The text of a fault. -/
def Fault.message : Fault → String
  | .malformed => "error building NFA"
  | .wordBoundary =>
    "unsupported regex feature for DFAs: cannot build DFAs for regexes with Unicode word "
      ++ "boundaries; switch to ASCII word boundaries, or heuristically enable Unicode word "
      ++ "boundaries or use a different regex engine"

-- =================================================================== modes

/-- How a pattern is read: without regard to case, as characters and not
bytes, and with blanks and comments between its parts. -/
structure Mode where
  caseless : Bool := false
  unicode : Bool := true
  spaced : Bool := false

/-- What stands behind blanks and comments. -/
def skipSpace (inComment : Bool) : List Char → List Char
  | [] => []
  | c :: rest =>
    if inComment then skipSpace (c != '\n') rest
    else if Text.isBlank c then skipSpace false rest
    else if c == '#' then skipSpace true rest
    else c :: rest

/-- The next part of a pattern. -/
def Mode.skip (mode : Mode) (text : List Char) : List Char :=
  if mode.spaced then skipSpace false text else text

/-- Whether a character can be compared with a letter in this mode. -/
def Mode.comparesLetters (mode : Mode) : Bool := !(mode.unicode && mode.caseless)

/-- Whether a class may hold a character. -/
def Mode.holds (mode : Mode) (c : Char) : Bool :=
  mode.comparesLetters && (mode.unicode || c.toNat < 128)

/-- The letters that change the mode. -/
def modeLetters : List Char := ['i', 'm', 's', 'U', 'u', 'R', 'x']

/-- Reads letters that change the mode, those behind a dash turn it off;
gives the new mode, whether there are letters, and what follows them from
the colon or parenthesis on. `seen` holds those read, last first. -/
def readMode (mode : Mode) (seen : List Char) : List Char → Option (Mode × Bool × List Char)
  | [] => none
  | c :: rest =>
    if c == ':' || c == ')' then
      if seen.head? == some '-' then none else some (mode, !seen.isEmpty, c :: rest)
    else if seen.contains c || !(c == '-' || modeLetters.contains c) then none
    else
      let isOn := !seen.contains '-'
      let mode := match c with
        | 'i' => { mode with caseless := isOn }
        | 'u' => { mode with unicode := isOn }
        | 'x' => { mode with spaced := isOn }
        | _ => mode
      readMode mode (c :: seen) rest

-- ================================================================= escapes

/-- What a backslash and what follows it stand for. -/
inductive Escape
  /-- A character; one written as a byte may be no text. -/
  | character (c : Char) (isByte : Bool)
  /-- A place in the text, which may be the end of a word. -/
  | place (ofWord : Bool)
  /-- The digits, blanks or letters, or all but those. -/
  | kind (negated : Bool)
  /-- The characters with a property. -/
  | property

/-- Reads so many hexadecimal digits. -/
def readHex (mode : Mode) : Nat → Nat → List Char → Option (Nat × List Char)
  | 0, n, rest => some (n, rest)
  | _ + 1, _, [] => none
  | count + 1, n, c :: rest => do
    let digit ←
      if c.isDigit then some (c.toNat - 48)
      else if 'a' ≤ c && c ≤ 'f' then some (c.toNat - 87)
      else if 'A' ≤ c && c ≤ 'F' then some (c.toNat - 55)
      else none
    readHex mode count (n * 16 + digit) (mode.skip rest)

/-- Reads the number of a character. -/
def readNumbered (mode : Mode) (digits : Nat) (text : List Char) : Option (Escape × List Char) := do
  let (n, rest) ← readHex mode digits 0 (mode.skip text)
  if n.isValidChar then some (.character (Char.ofNat n) (digits = 2), rest) else none

/-- Reads what follows a backslash. -/
def readEscape (mode : Mode) : List Char → Option (Escape × List Char)
  | [] => none
  | c :: rest =>
    let letter (n : Nat) : Option (Escape × List Char) :=
      some (.character (Char.ofNat n) false, rest)
    match c with
    | 'x' => readNumbered mode 2 rest
    | 'u' => readNumbered mode 4 rest
    | 'U' => readNumbered mode 8 rest
    | 'p' | 'P' =>
      match mode.skip rest with
      | [] | '\x7b' :: _ | '\\' :: _ => none
      | _ :: rest => some (.property, rest)
    | 'd' | 's' | 'w' => some (.kind false, rest)
    | 'D' | 'S' | 'W' => some (.kind true, rest)
    | 'a' => letter 7
    | 't' => letter 9
    | 'n' => letter 10
    | 'v' => letter 11
    | 'f' => letter 12
    | 'r' => letter 13
    | 'A' | 'z' => some (.place false, rest)
    | 'b' | 'B' | '<' | '>' => some (.place true, rest)
    | c => if c.toNat < 128 && !c.isAlphanum then some (.character c false, rest) else none

-- ================================================================ brackets

/-- How deep parts are that stand side by side: one level deeper than the
deepest of them, unless there is but one. -/
def depthOf : List Nat → Nat
  | [] => 0
  | [depth] => depth
  | depths => depths.foldl max 0 + 1

/-- A bracket that is open: how deep its items are, and how deep what
stands left of an operator is. -/
structure Bracket where
  items : List Nat := []
  left : Option Nat := none
  /-- Whether only dashes were read, which stand for themselves here. -/
  isFresh : Bool := true

/-- How deep the items of a bracket are. -/
def Bracket.depth (b : Bracket) : Nat :=
  match b.left with
  | some left => max left (depthOf b.items) + 1
  | none => depthOf b.items

/-- A bracket with one more item. -/
def Bracket.push (depth : Nat) (b : Bracket) : Bracket :=
  { b with items := depth :: b.items, isFresh := false }

/-- The names of classes of ASCII characters. -/
def classNames : List String :=
  ["alnum", "alpha", "ascii", "blank", "cntrl", "digit", "graph", "lower", "print", "punct",
    "space", "upper", "word", "xdigit"]

/-- Reads the name of a class behind its bracket: whether it is negated,
and what follows. -/
def readClassName? (text : List Char) : Option (Bool × List Char) :=
  match text with
  | ':' :: text =>
    let (negated, text) := match text with
      | '^' :: text => (true, text)
      | text => (false, text)
    let name := text.takeWhile (· != ':')
    match text.drop name.length with
    | ':' :: ']' :: rest =>
      if classNames.contains (String.ofList name) then some (negated, rest) else none
    | _ => none
  | _ => none

/-- The start of a bracket behind it. A negated one holds what is not
ASCII, which is no text if bytes are read. -/
def openBracket (mode : Mode) (text : List Char) : Option (List Char) :=
  match mode.skip text with
  | '^' :: rest => if mode.unicode then some rest else none
  | rest => some rest

/-- Reads a character or an escape in a bracket. -/
def readItem (mode : Mode) : List Char → Option (Escape × List Char)
  | [] => none
  | '\\' :: rest => readEscape mode rest
  | c :: rest => some (.character c false, rest)

/-- Whether a class may hold an item. -/
def Mode.holdsItem (mode : Mode) : Escape → Bool
  | .character c _ => mode.holds c
  | .kind negated => !mode.unicode && !negated
  | .place _ | .property => false

/-- The character behind a dash, which decides whether there is a range. -/
def behindDash (mode : Mode) (rest : List Char) : Option Char :=
  if !mode.spaced then rest.head?
  else match rest.dropWhile Text.isBlank with
    | '#' :: comment => (comment.dropWhile Text.isBlank).head?
    | later => later.head?

/-- Reads an item of a bracket, or a range. -/
def readRange (mode : Mode) (text : List Char) : Option (List Char) := do
  let (first, rest) ← readItem mode text
  let single := if mode.holdsItem first then some rest else none
  match mode.skip rest with
  | '-' :: later =>
    let next := behindDash mode later
    if next == some ']' || next == some '-' then single
    else
      match first, ← readItem mode (mode.skip later) with
      | .character c _, (.character d _, rest) =>
        if c ≤ d && mode.holds c && mode.holds d then some rest else none
      | _, _ => none
  | _ => single

/-- Reads a bracket, behind its start, to its end; gives how deep it is.
`outer` holds the brackets around it. -/
def readBracket (mode : Mode) :
    Nat → Bracket → List Bracket → List Char → Option (Nat × List Char)
  | 0, _, _, _ => none
  | fuel + 1, b, outer, text =>
    match mode.skip text with
    | [] => none
    | c :: rest =>
      if b.isFresh && (c == '-' || c == ']' && b.items.isEmpty) then
        if mode.holds c then
          readBracket mode fuel { b.push 0 with isFresh := c == '-' } outer rest
        else none
      else
        match c, rest with
        | '[', _ =>
          match readClassName? rest with
          | some (negated, rest) =>
            if mode.comparesLetters && (mode.unicode || !negated) then
              readBracket mode fuel (b.push 0) outer rest
            else none
          | none => do readBracket mode fuel {} (b :: outer) (← openBracket mode rest)
        | ']', _ =>
          let depth := b.depth + 1
          match outer with
          | [] => some (depth, rest)
          | b :: outer => readBracket mode fuel (b.push depth) outer rest
        | '&', '&' :: rest | '-', '-' :: rest | '~', '~' :: rest =>
          readBracket mode fuel { left := some b.depth, isFresh := false } outer rest
        | _, _ => do readBracket mode fuel (b.push 0) outer (← readRange mode (c :: rest))

-- ================================================================== groups

/-- An alternation that is read: how deep the parts of its last branch are,
last first, nothing for one that cannot be repeated, and how deep the
branches before it are. -/
structure Branches where
  parts : List (Option Nat) := []
  earlier : List Nat := []

namespace Branches

/-- One more part. -/
def push (depth : Nat) (b : Branches) : Branches :=
  { b with parts := some depth :: b.parts }

/-- How deep the last branch is. -/
def lastDepth (b : Branches) : Nat := depthOf (b.parts.map (·.getD 0))

/-- How deep an alternation is. -/
def depth (b : Branches) : Nat := depthOf (b.lastDepth :: b.earlier)

/-- The beginning of the next branch. -/
def next (b : Branches) : Branches := { earlier := b.lastDepth :: b.earlier }

end Branches

/-- A pattern that is being read. -/
structure Reading where
  mode : Mode := {}
  branches : Branches := {}
  /-- The groups around it, and the modes to be taken up behind them. -/
  outer : List (Mode × Branches) := []
  /-- The names of groups. -/
  names : List (List Char) := []
  /-- Whether it asks where words begin and end. -/
  asksWords : Bool := false

namespace Reading

/-- One more part. -/
def push (depth : Nat) (r : Reading) : Reading :=
  { r with branches := r.branches.push depth }

/-- A group is opened, in which a mode holds. -/
def openGroup (mode : Mode) (r : Reading) : Reading :=
  { r with mode, branches := {}, outer := (r.mode, r.branches) :: r.outer }

/-- A group is closed. -/
def closeGroup (r : Reading) : Option Reading :=
  match r.outer with
  | [] => none
  | (mode, branches) :: outer =>
    some { r with mode, branches := branches.push (r.branches.depth + 1), outer }

/-- Whether a character may stand in the name of a group. -/
def isNamePart (c : Char) : Bool :=
  Text.isAlphanumeric c || c == '_' || c == '.' || c == '[' || c == ']'

/-- Reads the name of a group, and opens it. -/
def openNamed (text : List Char) (r : Reading) : Option (Reading × List Char) :=
  let name := text.takeWhile (· != '>')
  match name, text.drop name.length with
  | c :: later, _ :: rest =>
    if (Text.isAlphabetic c || c == '_') && later.all isNamePart && !r.names.contains name then
      some ({ r with names := name :: r.names }.openGroup r.mode, rest)
    else none
  | _, _ => none

/-- Reads the start of a group behind its parenthesis, or a change of the
mode. -/
def readGroup (text : List Char) (r : Reading) : Option (Reading × List Char) :=
  match r.mode.skip text with
  | '?' :: '<' :: '=' :: _ | '?' :: '<' :: '!' :: _ => none
  | '?' :: 'P' :: '<' :: rest | '?' :: '<' :: rest => r.openNamed rest
  | '?' :: rest =>
    match readMode r.mode [] rest with
    | some (mode, _, ':' :: rest) => some (r.openGroup mode, rest)
    | some (mode, true, ')' :: rest) =>
      some ({ r with mode, branches.parts := none :: r.branches.parts }, rest)
    | _ => none
  | rest => some (r.openGroup r.mode, rest)

/-- Takes what a character or an escape stands for as a part. -/
def take (escape : Escape) (r : Reading) : Option Reading :=
  match escape with
  | .character c isByte =>
    if r.mode.comparesLetters && (r.mode.unicode || !isByte || c.toNat < 128) then some (r.push 0)
    else none
  | .place ofWord =>
    some { r.push 0 with asksWords := r.asksWords || ofWord && r.mode.unicode }
  | .kind negated => if r.mode.unicode || negated then none else some (r.push 0)
  | .property => none

/-- Reads the next piece of a pattern. -/
def step (c : Char) (rest : List Char) (r : Reading) : Option (Reading × List Char) :=
  match c with
  | '(' => r.readGroup rest
  | ')' => do some (← r.closeGroup, rest)
  | '|' => some ({ r with branches := r.branches.next }, rest)
  | '[' => do
    let rest ← openBracket r.mode rest
    let (depth, rest) ← readBracket r.mode (rest.length + 1) {} [] rest
    some (r.push depth, rest)
  | '?' | '*' | '+' =>
    match r.branches.parts with
    | some depth :: parts =>
      let rest := match rest with
        | '?' :: rest => rest
        | rest => rest
      some ({ r with branches.parts := some (depth + 1) :: parts }, rest)
    | _ => none
  | '\x7b' => none
  | '\\' => do
    let (escape, rest) ← readEscape r.mode rest
    some (← r.take escape, rest)
  | '.' => if r.mode.unicode then some (r.push 0, rest) else none
  | '^' | '$' => some (r.push 0, rest)
  | c => do some (← r.take (.character c false), rest)

/-- Reads a pattern to its end. -/
def finish : Nat → List Char → Reading → Option Reading
  | 0, _, _ => none
  | fuel + 1, text, r =>
    match r.mode.skip text with
    | [] => if r.outer.isEmpty then some r else none
    | c :: rest => do
      let (r, rest) ← r.step c rest
      finish fuel rest r

end Reading

/-- How deep a pattern may be. -/
def maxDepth : Nat := 250

/-- Whether a pattern can be used. -/
def check (pattern : String) : Except Fault Unit :=
  let text := pattern.toList
  match Reading.finish (text.length + 1) text {} with
  | none => .error .malformed
  | some r =>
    if maxDepth < r.branches.depth then .error .malformed
    else if r.asksWords then .error .wordBoundary
    else .ok ()

end LineShell.LogFilter.ValuePattern
