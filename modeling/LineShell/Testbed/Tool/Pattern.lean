/-
Basic regular expressions, as `expr` compares texts with them.

A pattern is read (`read`) into a tree, whose repetitions are no more than
stars (`Tree`), and that into a machine of small steps (`Machine`). A text
matches from its start on, as far as possible; among the ways to match as
far as that, the first one tells what the groups hold: a repetition is
rather gone on with than left, and of two branches the left one is tried
first unless it is empty. A repetition that takes nothing is gone through
once, but does not change what a group under it has found.

Without references to groups it does not matter for what follows how a
step was reached at a place, so each is taken once at each place.
-/
import LineShell.Path
import Std.Data.HashSet.Basic

namespace LineShell.Host.Tool.Pattern

-- ================================================================== faults

/-- Why a pattern is malformed. -/
inductive Fault
  | empty
  | noCollation
  | noClass
  | trailingBackslash
  | noGroup
  | openBracket
  | openGroup
  | openCount
  | badCount
  | badRange
  | tooLarge
  | closedGroup
  deriving DecidableEq, Repr

/-- The text of a fault. -/
def Fault.message : Fault → String
  | .empty => "Invalid regular expression"
  | .noCollation => "Invalid collation character"
  | .noClass => "Invalid character class name"
  | .trailingBackslash => "Trailing backslash"
  | .noGroup => "Invalid back reference"
  | .openBracket => "Unmatched [, [^, [:, [., or [="
  | .openGroup => "Unmatched ( or \\("
  | .openCount => "Unmatched \\\x7b"
  | .badCount => "Invalid content of \\\x7b\\\x7d"
  | .badRange => "Invalid range end"
  | .tooLarge => "Regular expression too big"
  | .closedGroup => "Unmatched ) or \\)"

-- =================================================================== bytes

/-- A set of bytes. -/
abbrev ByteSet := UInt8 → Bool

def isLower (b : UInt8) : Bool := 97 ≤ b && b ≤ 122
def isUpper (b : UInt8) : Bool := 65 ≤ b && b ≤ 90
def isDigit (b : UInt8) : Bool := 48 ≤ b && b ≤ 57
def isAlpha (b : UInt8) : Bool := isLower b || isUpper b
def isAlnum (b : UInt8) : Bool := isAlpha b || isDigit b
def isSpace (b : UInt8) : Bool := b == 32 || (9 ≤ b && b ≤ 13)
def isGraph (b : UInt8) : Bool := 33 ≤ b && b ≤ 126

/-- Whether a byte is part of a word. -/
def isWord (b : UInt8) : Bool := isAlnum b || b == 95

/-- The class of bytes of a name. -/
def class? (name : String) : Option ByteSet :=
  match name with
  | "alnum" => some isAlnum
  | "alpha" => some isAlpha
  | "blank" => some fun b => b == 32 || b == 9
  | "cntrl" => some fun b => b < 32 || b == 127
  | "digit" => some isDigit
  | "graph" => some isGraph
  | "lower" => some isLower
  | "print" => some fun b => isGraph b || b == 32
  | "punct" => some fun b => isGraph b && !isAlnum b
  | "space" => some isSpace
  | "upper" => some isUpper
  | "xdigit" => some fun b => isDigit b || (65 ≤ b && b ≤ 70) || (97 ≤ b && b ≤ 102)
  | _ => none

-- ==================================================================== tree

/-- A place in a text. -/
inductive Place
  | start
  | finish
  | wordStart
  | wordEnd
  | wordBound
  | noWordBound
  deriving DecidableEq, Repr

/-- Whether a place is one, between the byte in front of it and the byte
behind it. -/
def Place.holds (p : Place) (before behind : Option UInt8) : Bool :=
  let left := before.any isWord
  let right := behind.any isWord
  match p with
  | .start => before.isNone
  | .finish => behind.isNone
  | .wordStart => !left && right
  | .wordEnd => left && !right
  | .wordBound => left != right
  | .noWordBound => left == right

/-- What a pattern describes. -/
inductive Tree
  | empty
  | one (set : ByteSet)
  | place (p : Place)
  /-- What a group holds, once more. -/
  | again (group : Nat)
  /-- A group; it is loose if it stands under a repetition that may leave it
  out. -/
  | group (number : Nat) (isLoose : Bool) (inner : Tree)
  | both (first second : Tree)
  | either (first second : Tree)
  | star (inner : Tree)

namespace Tree

/-- One tree behind another. -/
def append (first second : Tree) : Tree :=
  match first, second with
  | .empty, t => t
  | t, .empty => t
  | first, second => .both first second

/-- One of two trees, of which the first is preferred unless it is empty. -/
def or (first second : Tree) : Tree :=
  match first with
  | .empty => .either second .empty
  | first => .either first second

/-- A copy of a tree. In it no group counts as one that may be left out. -/
def copy : Tree → Tree
  | .group number _ inner => .group number false inner.copy
  | .both first second => .both first.copy second.copy
  | .either first second => .either first.copy second.copy
  | .star inner => .star inner.copy
  | t => t

/-- A tree so many times, one behind the other. -/
def times (t : Tree) : Nat → Tree
  | 0 => .empty
  | 1 => t
  | count + 1 => (t.times count).append t.copy

/-- A tree at most so many times. -/
def upTo (t : Tree) : Nat → Tree
  | 0 => .empty
  | 1 => .either t .empty
  | count + 1 => .either ((t.upTo count).append t.copy) .empty

/-- A tree that may be left out. -/
def loose : Tree → Tree
  | .group number _ inner => .group number true inner
  | t => t

/-- A tree that is repeated so often, or without an end. -/
def repeated (t : Tree) (least : Nat) (most : Option Nat) : Tree :=
  match t with
  | .empty => .empty
  | t =>
    let further := (if least = 0 then t else t.copy).loose
    (t.times least).append <| match most with
      | none => .star further
      | some most => further.upTo (most - least)

end Tree

-- ================================================================== tokens

/-- A token of a pattern. -/
inductive Token
  | finish
  /-- A backslash at the end. -/
  | backslash
  | byte (b : UInt8)
  | place (p : Place)
  | set (s : ByteSet)
  | bracket
  | again (group : Nat)
  | opening
  | closing
  | bar
  | star
  | plus
  | question
  | openCount
  | closeCount

/-- The token of a byte behind a backslash. -/
def Token.ofEscaped (b : UInt8) : Token :=
  match Char.ofUInt8 b with
  | '|' => .bar
  | '(' => .opening
  | ')' => .closing
  | '+' => .plus
  | '?' => .question
  | '\x7b' => .openCount
  | '\x7d' => .closeCount
  | '<' => .place .wordStart
  | '>' => .place .wordEnd
  | 'b' => .place .wordBound
  | 'B' => .place .noWordBound
  | '\x60' => .place .start
  | '\x27' => .place .finish
  | 'w' => .set isWord
  | 'W' => .set (!isWord ·)
  | 's' => .set isSpace
  | 'S' => .set (!isSpace ·)
  | _ => if 49 ≤ b && b ≤ 57 then .again (b.toNat - 48) else .byte b

/-- Reads a token. A caret is an anchor only where a pattern begins, and a
dollar sign only where one ends. -/
def Token.read (begins : Bool) : Bytes → Token × Bytes
  | [] => (.finish, [])
  | [92] => (.backslash, [])
  | 92 :: b :: rest => (.ofEscaped b, rest)
  | b :: rest =>
    match Char.ofUInt8 b with
    | '*' => (.star, rest)
    | '[' => (.bracket, rest)
    | '.' => (.set (· != 0), rest)
    | '^' => (if begins then .place .start else .byte b, rest)
    | '$' =>
      match rest with
      | [] | 92 :: 124 :: _ | 92 :: 41 :: _ => (.place .finish, rest)
      | _ => (.byte b, rest)
    | _ => (.byte b, rest)

/-- The byte that a token is where it cannot be an operator. -/
def Token.asByte? : Token → Option UInt8
  | .byte b => some b
  | .star => some 42
  | .plus => some 43
  | .question => some 63
  | .openCount => some 123
  | .closeCount => some 125
  | _ => none

-- ================================================================ brackets

/-- What stands at a place in a bracket. -/
inductive Element
  | finish
  | close
  | negation
  | dash
  | byte (b : UInt8)
  /-- The start of a name, with the byte that encloses it. -/
  | named (mark : UInt8)
  deriving DecidableEq, Repr

/-- Reads what stands at a place in a bracket. -/
def Element.read (text : Bytes) : Element × Bytes :=
  match text with
  | [] => (.finish, [])
  | 91 :: 46 :: rest => (.named 46, rest)
  | 91 :: 61 :: rest => (.named 61, rest)
  | 91 :: 58 :: b :: rest => (.named 58, b :: rest)
  | 93 :: rest => (.close, rest)
  | 94 :: rest => (.negation, rest)
  | 45 :: rest => (.dash, rest)
  | b :: rest => (.byte b, rest)

/-- An item of a bracket: a byte, perhaps by its name, or a set. -/
inductive Item
  | byte (b : UInt8)
  | named (name : Bytes)
  | alike (name : Bytes)
  | ofClass (name : Bytes)

/-- How long a name in a bracket is at most. -/
def maxNameLength : Nat := 31

/-- Reads a name up to its mark and a closing bracket. -/
def readName (mark : UInt8) : Nat → Bytes → Except Fault (Bytes × Bytes)
  | 0, _ => .error .openBracket
  | room + 1, text =>
    match text with
    | b :: 93 :: rest => if b = mark then .ok ([], rest) else more room b (93 :: rest)
    | b :: c :: rest => more room b (c :: rest)
    | _ => .error .openBracket
where
  /-- Reads on behind a byte of the name. -/
  more (room : Nat) (b : UInt8) (rest : Bytes) : Except Fault (Bytes × Bytes) := do
    let (name, rest) ← readName mark room rest
    return (b :: name, rest)

/-- Reads an item of which the first element was read. -/
def readItem (e : Element) (takesDash : Bool) (rest : Bytes) : Except Fault (Item × Bytes) :=
  match e with
  | .named mark => do
    let (name, rest) ← readName mark (maxNameLength + 1) rest
    return (if mark = 46 then .named name else if mark = 61 then .alike name else .ofClass name, rest)
  | .dash =>
    if takesDash || (Element.read rest).1 == .close then .ok (.byte 45, rest) else .error .badRange
  | .byte b => .ok (.byte b, rest)
  | .negation => .ok (.byte 94, rest)
  | .close | .finish => .ok (.byte 93, rest)

/-- The byte at an end of a range. -/
def Item.end? : Item → Except Fault UInt8
  | .byte b => .ok b
  | .named [b] => .ok b
  | .named _ => .error .noCollation
  | .alike _ | .ofClass _ => .error .badRange

/-- The bytes of an item. -/
def Item.set : Item → Except Fault ByteSet
  | .byte b | .named [b] | .alike [b] => .ok (· == b)
  | .named _ | .alike _ => .error .noCollation
  | .ofClass name =>
    match class? (String.ofList (name.map Char.ofUInt8)) with
    | some set => .ok set
    | none => .error .noClass

/-- Reads the items of a bracket, of which the first element was read, to
its end. -/
def readItems : Nat → Element → (isFirst : Bool) → ByteSet → Bytes →
    Except Fault (ByteSet × Bytes)
  | 0, _, _, _, _ => .error .openBracket
  | fuel + 1, e, isFirst, taken, rest => do
    let (item, rest) ← readItem e isFirst rest
    let (next, behind) := Element.read rest
    let mayRange := match item with
      | .byte _ | .named _ => true
      | _ => false
    if mayRange && next == .finish then throw .openBracket
    let (second, behindSecond) := Element.read behind
    if mayRange && next == .dash && second == .finish then throw .openBracket
    let (set, next, behind) ←
      if mayRange && next == .dash && second != .close then do
        let (last, rest) ← readItem second true behindSecond
        let (low, high) := (← item.end?, ← last.end?)
        let (next, behind) := Element.read rest
        pure ((fun b => low ≤ b && b ≤ high : ByteSet), next, behind)
      else do
        let set ← item.set
        pure (set, if mayRange && next == .dash then .byte 45 else next, behind)
    let taken : ByteSet := fun b => taken b || set b
    match next with
    | .finish => throw .openBracket
    | .close => return (taken, behind)
    | next => readItems fuel next false taken behind

/-- Reads a bracket behind its start. -/
def readBracket (text : Bytes) : Except Fault (ByteSet × Bytes) := do
  let (first, rest) := Element.read text
  let negated := first == .negation
  let (first, rest) := if negated then Element.read rest else (first, rest)
  if first == .finish then throw .empty
  let (set, rest) ← readItems (text.length + 1) first true (fun _ => false) rest
  return (if negated then (!set ·) else set, rest)

-- ================================================================= reading

/-- A pattern that is being read. -/
structure Reading where
  rest : Bytes
  token : Token := .finish
  /-- How many groups have begun. -/
  groups : Nat := 0
  /-- The groups that have ended, which may be referred to. -/
  ended : List Nat := []

/-- Reads parts of a pattern. -/
abbrev Reader := StateT Reading (Except Fault)

/-- Goes to the next token. -/
def advance (begins : Bool) : Reader Unit :=
  modify fun r =>
    let (token, rest) := Token.read begins r.rest
    { r with token, rest }

/-- How often something is repeated at most. -/
def maxCount : Nat := 32767

/-- A number in a count. -/
inductive Count
  | absent
  | number (n : Nat)
  | bad
  /-- The pattern ends in it. -/
  | cut

/-- Reads a number in a count, up to a comma or its end. -/
def readNumber : Nat → Count → Reader Count
  | 0, n => return n
  | fuel + 1, n => do
    advance false
    match (← get).token with
    | .finish => return .cut
    | .closeCount | .byte 44 => return n
    | .byte b =>
      let next := match n with
        | .absent => if isDigit b then Count.number (b.toNat - 48) else .bad
        | .number n =>
          if isDigit b then .number (min (maxCount + 1) (n * 10 + (b.toNat - 48))) else .bad
        | n => n
      readNumber fuel next
    | _ => readNumber fuel .bad

/-- Reads a count behind its opening brace: the least and the most. -/
def readCount : Reader (Nat × Option Nat) := do
  let fuel := (← get).rest.length + 1
  let first ← readNumber fuel .absent
  let atComma : Reader Bool := do
    return match (← get).token with
      | .byte 44 => true
      | _ => false
  let least ← match first with
    | .cut => throw .openCount
    | .absent => if ← atComma then pure (some 0) else throw .badCount
    | .number n => pure (some n)
    | .bad => pure none
  match least with
  | none => throw .badCount
  | some least =>
    let most ← if ← atComma then readNumber fuel .absent else pure (.number least)
    let most? ← match most with
      | .cut => throw .openCount
      | .bad => throw .badCount
      | .absent => pure none
      | .number n => pure (some n)
    let isClosed := match (← get).token with
      | .closeCount => true
      | _ => false
    if !isClosed || most?.any (· < least) then throw .badCount
    if maxCount < most?.getD least then throw .tooLarge
    return (least, most?)

/-- Reads the repetitions behind a tree. -/
def readRepetitions : Nat → Tree → Reader Tree
  | 0, t => return t
  | fuel + 1, t => do
    let count? : Option (Nat × Option Nat) ← match (← get).token with
      | .star => pure (some (0, none))
      | .plus => pure (some (1, none))
      | .question => pure (some (0, some 1))
      | .openCount => some <$> readCount
      | _ => pure none
    match count? with
    | none => return t
    | some (least, most) =>
      advance false
      readRepetitions fuel (t.repeated least most)

/-- Whether a branch ends at a token. -/
def endsBranch (nested : Bool) : Token → Bool
  | .finish | .bar => true
  | .closing => nested
  | _ => false

/-- Reads a single part, and what follows it up to the next. -/
def readPart (alternatives : Reader Tree) : Reader Tree := do
  let r ← get
  let repeatable (t : Tree) : Reader Tree := do
    advance false
    readRepetitions ((← get).rest.length + 2) t
  match r.token with
  | .finish | .bar => return .empty
  | .backslash => throw .trailingBackslash
  | .closing => throw .closedGroup
  | .place p =>
    advance false
    return .place p
  | .set s => repeatable (.one s)
  | .bracket =>
    let (bytes, rest) ← readBracket r.rest
    set { r with rest }
    repeatable (.one bytes)
  | .again group =>
    if !r.ended.contains group then throw .noGroup
    repeatable (.again group)
  | .opening =>
    let number := r.groups + 1
    modify fun r => { r with groups := number }
    advance true
    let inner ← match (← get).token with
      | .closing => pure .empty
      | _ => do
        let inner ← alternatives
        match (← get).token with
        | .closing => pure inner
        | _ => throw .openGroup
    modify fun r => { r with ended := number :: r.ended }
    repeatable (.group number false inner)
  | token => repeatable (.one (· == token.asByte?.getD 0))

/-- Reads a branch. -/
def readBranch (nested : Bool) (alternatives : Reader Tree) : Reader Tree := do
  let first ← readPart alternatives
  let rec more : Nat → Tree → Reader Tree
    | 0, t => return t
    | fuel + 1, t => do
      if endsBranch nested (← get).token then return t
      more fuel (t.append (← readPart alternatives))
  more ((← get).rest.length + 2) first

/-- Reads branches, which may contain groups that are so deep. -/
def readAlternatives : Nat → (nested : Bool) → Reader Tree
  | 0, _ => return .empty
  | depth + 1, nested => do
    let inner := readAlternatives depth true
    let before := (← get).ended
    let first ← readBranch nested inner
    let rec more : Nat → Tree → Reader Tree
      | 0, t => return t
      | fuel + 1, t => do
        match (← get).token with
        | .bar =>
          advance true
          if endsBranch nested (← get).token then more fuel (t.or .empty)
          else
            let ended := (← get).ended
            modify ({ · with ended := before })
            let branch ← readBranch nested inner
            modify fun r => { r with ended := r.ended ++ ended }
            more fuel (t.or branch)
        | _ => return t
    more ((← get).rest.length + 2) first

/-- Reads a pattern; gives how many groups there are. -/
def read (pattern : Bytes) : Except Fault (Tree × Nat) := do
  let reader : Reader Tree := do
    advance true
    readAlternatives (pattern.length + 1) false
  let (t, r) ← reader.run { rest := pattern }
  return (t, r.groups)

-- ================================================================ machines

/-- A step of a machine, with the steps that may follow. -/
inductive Step
  | one (set : ByteSet) (next : Nat)
  | place (p : Place) (next : Nat)
  | again (group next : Nat)
  | opening (group next : Nat)
  | closing (group : Nat) (isLoose : Bool) (next : Nat)
  /-- One of two ways, of which the first is preferred. -/
  | fork (first second : Nat)
  | accept

/-- The steps of a machine. -/
abbrev Machine := Array Step

/-- Adds the steps of a tree in front of a step; gives the first of them. -/
def Tree.addTo (t : Tree) (next : Nat) (m : Machine) : Nat × Machine :=
  match t with
  | .empty => (next, m)
  | .one set => (m.size, m.push (.one set next))
  | .place p => (m.size, m.push (.place p next))
  | .again number => (m.size, m.push (.again number next))
  | .group number isLoose inner =>
    let (first, m) := inner.addTo m.size (m.push (.closing number isLoose next))
    (m.size, m.push (.opening number first))
  | .both first second =>
    let (middle, m) := second.addTo next m
    first.addTo middle m
  | .either first second =>
    let (right, m) := second.addTo next m
    let (left, m) := first.addTo next m
    (m.size, m.push (.fork left right))
  | .star inner =>
    let place := m.size
    let (first, m) := inner.addTo place (m.push .accept)
    (place, m.setIfInBounds place (.fork first next))

/-- Where groups begin and end; one that has only begun has no end. -/
abbrev Spans := List (Nat × Nat × Option Nat)

/-- The spans with that of a group. -/
def Spans.put (spans : Spans) (group start : Nat) (stop? : Option Nat) : Spans :=
  (group, start, stop?) :: spans.filter (·.1 != group)

/-- A machine at work. -/
structure Thread where
  step : Nat
  /-- The place in the text. -/
  place : Nat := 0
  /-- The steps that were taken at this place. -/
  taken : List Nat := []
  spans : Spans := []
  /-- The spans when a group last held some text. -/
  kept : Spans := []

/-- The text of a group, if it holds one. -/
def Thread.textOf (text : Array UInt8) (group : Nat) (t : Thread) : Option Bytes :=
  match t.spans.lookup group with
  | some (start, some stop) => some (text.extract start stop).toList
  | _ => none

/-- A thread behind the end of a group. -/
def Thread.closed (group : Nat) (isLoose : Bool) (t : Thread) : Thread :=
  let start := ((t.spans.lookup group).map (·.1)).getD t.place
  let spans := t.spans.put group start (some t.place)
  if start < t.place then { t with spans, kept := spans }
  else if isLoose && (t.kept.lookup group).isSome then { t with spans := t.kept }
  else { t with spans }

/-- A thread at a step at the same place. -/
def Thread.to (t : Thread) (step : Nat) : Thread := { t with step, taken := t.step :: t.taken }

/-- A thread at a step at a place behind. -/
def Thread.on (t : Thread) (step place : Nat) : Thread :=
  if place = t.place then t.to step else { t with step, place, taken := [] }

/-- Whether a thread is at a fork of which it took the first way at this
place. -/
def Thread.returns (m : Machine) (t : Thread) : Bool :=
  match m[t.step]? with
  | some (.fork first _) => t.taken.contains first
  | _ => false

/-- What comes of a step: threads, the preferred one first, or the end. -/
def Thread.run (m : Machine) (text : Array UInt8) (t : Thread) : Option (List Thread) :=
  match m[t.step]?.getD .accept with
  | .accept => none
  | .one set next =>
    some (if text[t.place]?.any set then [t.on next (t.place + 1)] else [])
  | .place p next =>
    let before := if t.place = 0 then none else text[t.place - 1]?
    some (if p.holds before text[t.place]? then [t.to next] else [])
  | .again group next =>
    match t.textOf text group with
    | none => some []
    | some bytes =>
      let stop := t.place + bytes.length
      some (if (text.extract t.place stop).toList == bytes then [t.on next stop] else [])
  | .opening group next =>
    some [{ t.to next with spans := t.spans.put group t.place none }]
  | .closing group isLoose next => some [(t.closed group isLoose).to next]
  | .fork first second =>
    some (if t.returns m then [t.to second] else [t.to first, t.to second])

/-- What decides how a thread goes on: the groups do if a machine refers to
them. -/
abbrev Course := Nat × Nat × Bool × Spans × Spans

/-- What decides how a thread goes on. -/
def Thread.course (m : Machine) (refers : Bool) (t : Thread) : Course :=
  (t.step, t.place, t.returns m, if refers then (t.spans, t.kept) else ([], []))

/-- Goes through all threads, the preferred ones first, and through those
that are alike once; gives the first that ends at a place, or else the
first of those that end farthest. -/
def search (m : Machine) (text : Array UInt8) (refers : Bool) (target? : Option Nat) :
    Nat → List Thread → Std.HashSet Course → Option Thread → Option Thread
  | 0, _, _, best => best
  | _, [], _, best => best
  | fuel + 1, t :: threads, seen, best =>
    let course := t.course m refers
    if seen.contains course then search m text refers target? fuel threads seen best
    else
      let seen := seen.insert course
      match t.run m text with
      | some more => search m text refers target? fuel (more ++ threads) seen best
      | none =>
        if target? = some t.place then some t
        else
          let isBetter := target?.isNone && best.all (·.place < t.place)
          search m text refers target? fuel threads seen (if isBetter then some t else best)

/-- Whether a tree refers to a group. -/
def Tree.refers : Tree → Bool
  | .again _ => true
  | .group _ _ inner => inner.refers
  | .star inner => inner.refers
  | .both first second => first.refers || second.refers
  | .either first second => first.refers || second.refers
  | .empty | .one _ | .place _ => false

/-- A match: how long it is, and what the first group holds. -/
structure Match where
  length : Nat
  group : Bytes
  deriving DecidableEq, Repr

/-- How many steps a search takes at most. -/
def patience : Nat := 1 <<< 40

/-- Matches the start of a text with a tree, as far as possible. -/
def Tree.match? (t : Tree) (text : Bytes) : Option Match := do
  let text := text.toArray
  let (first, m) := t.addTo 0 #[.accept]
  let start : List Thread := [{ step := first }]
  let farthest ← search m text t.refers none patience start {} none
  let found ← search m text t.refers (some farthest.place) patience start {} none
  return { length := found.place, group := (found.textOf text 1).getD [] }

end LineShell.Host.Tool.Pattern
