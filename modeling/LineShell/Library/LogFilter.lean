/-
Filters for the log. Reading them is no part of the interpreter, which
gives the filter. What is taken of the reading is this.

* Directives: a filter is written as directives between commas, each a
  level, a target, or a target with a level:

      off,lsh=debug,other[span]=info

* Variable: a filter in the variable of the process comes before the one
  that is given, if all of its directives can be read.
* Faults: a directive that cannot be read is ignored, and that is told.
  Of a faulty directive the first fault is told, as it is read; a level
  is looked at last.
* Positions in a directive are counted without the blanks in front of it,
  and what stands between two positions is taken from the directive as it
  is written; so blanks in front of a level make it unreadable.
-/
import LineShell.Library.LogFilter.ValuePattern
import LineShell.Text.Alphanumeric
import LineShell.Text.Blank
import LineShell.Variables

namespace LineShell.LogFilter

/-- Why a directive cannot be read. -/
inductive Fault
  | malformed
  | badLevel
  /-- The pattern for the value of a field cannot be used. -/
  | badPattern (fault : ValuePattern.Fault)
  deriving DecidableEq, Repr

/-- The text of a fault. -/
def Fault.message : Fault → String
  | .malformed => "invalid filter directive"
  | .badLevel =>
    "error parsing level filter: expected one of \"off\", \"error\", \"warn\", \"info\", "
      ++ "\"debug\", \"trace\", or a number 0-5"
  | .badPattern fault => "invalid field filter: " ++ fault.message

-- ================================================================== levels

/-- The names of the levels, from 0 on. -/
def levelNames : List String :=
  ["off", "error", "warn", "info", "debug", "trace"]

/-- Whether a text is a level: a name, in capitals or not, or a number. -/
def isLevel (text : String) : Bool :=
  let digits := if text.startsWith "+" then text.toList.drop 1 else text.toList
  let isNumber := !digits.isEmpty && digits.all Char.isDigit
    && digits.foldl (fun n c => n * 10 + (c.toNat - 48)) 0 < levelNames.length
  isNumber || levelNames.contains text.toLower

-- ================================================================== fields

/-- A text without a sign in front of it. -/
def withoutSign (text : List Char) : List Char :=
  match text with
  | '+' :: rest | '-' :: rest => rest
  | _ => text

/-- Whether a text is a number, with or without a point and an exponent. -/
def isNumber (text : List Char) : Bool :=
  let text := withoutSign text
  let whole := text.takeWhile Char.isDigit
  let rest := text.drop whole.length
  let places := match rest with
    | '.' :: rest => rest.takeWhile Char.isDigit
    | _ => []
  let exponent := match rest with
    | '.' :: rest => rest.drop places.length
    | rest => rest
  let isExponent := match exponent with
    | [] => true
    | e :: digits =>
      let digits := withoutSign digits
      (e == 'e' || e == 'E') && !digits.isEmpty && digits.all Char.isDigit
  ["inf", "infinity", "nan"].contains (String.ofList text).toLower
    || !(whole.isEmpty && places.isEmpty) && isExponent

/-- Checks a field: its value, which stands between the first equals sign
and the next, is a number or a pattern. -/
def checkField (field : String) : Except Fault Unit :=
  match field.toList.splitOn '=' with
  | _ :: value :: _ =>
    if isNumber value then .ok ()
    else (ValuePattern.check (String.ofList value)).mapError .badPattern
  | _ => .ok ()

-- ============================================================== directives

/-- Where the reading of a directive stands. -/
inductive Place
  | start
  | levelOrTarget
  | span
  | field (begun : Nat)
  | behindFields
  | behindSpan
  | level (begun : Nat)
  deriving DecidableEq, Repr

/-- What stands between two positions of a directive. -/
def between (directive : String) (start stop : Nat) : String :=
  Utf8.lossy (((Bytes.ofText directive).take stop).drop start)

/-- The place in a directive behind one more character, which stands at a
position. -/
def Place.step (directive : String) (p : Place) (c : Char) (position : Nat) :
    Except Fault Place :=
  match p, c with
  | .start, '[' => .ok .span
  | .start, c =>
    if c == '-' || c == ':' || c == '_' || Text.isAlphanumeric c then .ok .levelOrTarget
    else .error .malformed
  | .levelOrTarget, '=' => .ok (.level (position + 1))
  | .levelOrTarget, '[' => .ok .span
  | .levelOrTarget, _ => .ok .levelOrTarget
  | .behindSpan, '=' => .ok (.level (position + 1))
  | .behindSpan, _ => .error .malformed
  | .span, ']' => .ok .behindSpan
  | .span, '\x7b' => .ok (.field (position + 1))
  | .span, _ => .ok .span
  | .field begun, '\x7d' => do
    if begun = position then throw .malformed
    checkField (between directive begun position)
    return .behindFields
  | .field begun, _ => .ok (.field begun)
  | .behindFields, ']' => .ok .behindSpan
  | .behindFields, _ => .error .malformed
  | .level begun, _ => .ok (.level begun)

/-- Whether a directive, of which all is read, is complete. -/
def Place.finish (p : Place) (directive : String) : Except Fault Unit :=
  match p with
  | .levelOrTarget | .behindSpan => .ok ()
  | .level begun =>
    let level := between directive begun directive.utf8ByteSize
    if level.isEmpty || isLevel level then .ok () else .error .badLevel
  | _ => .error .malformed

/-- Reads a directive. -/
def readDirective (directive : String) : Except Fault Unit := do
  let text := (Text.trimEnd directive).toList.dropWhile Text.isBlank
  let (place, _) ← text.foldlM (fun ((place : Place), position) c => do
    return (← place.step directive c position, position + c.utf8Size)) (Place.start, 0)
  place.finish directive

/-- The directives of a filter. -/
def directives (filter : String) : List String :=
  (filter.toList.splitOn ',').filter (!·.isEmpty) |>.map String.ofList

/-- Whether all directives of a filter can be read. -/
def isReadable (filter : String) : Bool :=
  (directives filter).all fun directive => (readDirective directive).isOk

/-- What is told of the directives that are ignored. -/
def warnings (filter : String) : String :=
  let lines := (directives filter).filterMap fun directive =>
    match readDirective directive with
    | .ok () => none
    | .error fault => some ("ignoring \x60" ++ directive ++ "\x60: " ++ fault.message ++ "\n")
  "".intercalate lines

/-- The variable that a filter is taken from if it holds one. -/
def variableName : String := "RUST_LOG"

/-- What is told of the filter of a process: that of the variable, or else
the one it is given. -/
def warningsOf (vars : ProcessVariables) (filter : String) : String :=
  match (vars.find? variableName).bind Utf8.decode? with
  | some text => if isReadable text then "" else warnings filter
  | none => warnings filter

end LineShell.LogFilter
