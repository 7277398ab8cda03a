import TreeBoard.CommandLine.Log
import TreeBoard.Regex
import TreeBoard.Text.Cut
import TreeBoard.Text.Split

/-!
# Rules

A rule of a filter covers the targets that begin with a given text: `target=level`, or a level for all
targets, or a target that is shown down to the last detail.

Brackets behind the target, or in its place, narrow a rule. With `[{field}]` it covers the entries
that have a field of that name. With `[activity]` or `[{field=value}]` it asks for what happens
within an activity; commands open no activities, so such a rule covers nothing.

The parts of a rule are found in the text without the blanks around it, but they are cut out of the
text with its blanks, at the same byte positions. So blanks before a rule misplace its parts.
-/

namespace TreeBoard.CommandLine

/-- The rank from which everything is shown. -/
def fullDetail : Nat := Severity.trace.rank

/-- The rank of a level that is given by the name of the least grave severity that is shown, in any
case of letters, or by its number. Rank 0, or `off`, shows nothing. -/
def level? (text : String) : Option Nat :=
  match Text.word32? text.toList with
  | some number => if number.toNat ≤ fullDetail then some number.toNat else none
  | none =>
      if text.toUpper = "OFF" then some 0
      else
        ([.error, .warn, .info, .debug, .trace].find? fun (severity : Severity) =>
          severity.name = text.toUpper).map Severity.rank

/-- A rule for all targets that begin with a text. -/
structure Rule where
  target : String
  /-- The field that an entry must have. -/
  field : Option String := none
  /-- The least grave severity that is shown, by its rank. Rank 0 shows nothing. -/
  level : Nat
deriving DecidableEq, Repr

/-- Why a rule cannot be read. -/
inductive RuleFault where
  | malformed
  /-- A part of it would begin or end within a character. -/
  | torn
deriving DecidableEq, Repr

/-- What a written rule stands for: one rule, or none if it asks for an activity. -/
abbrev ReadRule := Except RuleFault (List Rule)

/-- Whether a text is a number that may have a sign, a fraction and an exponent, or one of the words
for infinity and for no number. -/
def isNumber (text : List Char) : Bool :=
  let unsigned :=
    match text with
    | '+' :: later => later
    | '-' :: later => later
    | _ => text
  let whole := unsigned.takeWhile Char.isDigit
  let afterWhole := unsigned.drop whole.length
  let fraction :=
    match afterWhole with
    | '.' :: later => later.takeWhile Char.isDigit
    | _ => []
  let afterFraction :=
    match afterWhole with
    | '.' :: later => later.drop fraction.length
    | _ => afterWhole
  let exponent :=
    match afterFraction with
    | [] => true
    | c :: later =>
        let digits :=
          match later with
          | '+' :: digits => digits
          | '-' :: digits => digits
          | _ => later
        (c == 'e' || c == 'E') && !digits.isEmpty && digits.all Char.isDigit
  ["inf", "infinity", "nan"].contains (String.ofList unsigned).toLower ||
    (!(whole.isEmpty && fraction.isEmpty) && exponent)

/-- The part of a rule between two byte positions. -/
def cutPart (whole : List Char) (first last : Nat) : Except RuleFault (List Char) :=
  match Text.slice? whole first last with
  | some part => .ok part
  | none => .error .torn

/-- The level behind an equals sign at a byte position, or full detail when nothing is left of the
text. A level that is left empty shows everything, too. -/
def readLevel (whole : List Char) (position : Nat) : List Char → Except RuleFault Nat
  | [] => .ok fullDetail
  | '=' :: _ => do
      match ← cutPart whole (position + 1) (Text.byteCount whole) with
      | [] => return fullDetail
      | text =>
          match level? (String.ofList text) with
          | some level => return level
          | none => throw .malformed
  | _ => .error .malformed

/-- The name of a field, unless a value is asked for. A value is a number or a regular
expression. -/
def readField (text : List Char) : Except RuleFault (Option String) :=
  match Text.pieces '=' text with
  | [name] => if name.isEmpty then .error .malformed else .ok (some (String.ofList name))
  | _ :: value :: _ =>
      if isNumber value || Regex.isValid value then .ok none else .error .malformed
  | [] => .error .malformed

/-- Reads what follows an opening bracket at a byte position. -/
def readBracket (whole : List Char) (target : List Char) (position : Nat) (text : List Char) :
    ReadRule := do
  let activity := text.takeWhile fun c => c != ']' && c != '\x7b'
  let start := position + 1
  let stop := start + Text.byteCount activity
  match text.drop activity.length with
  | [] => throw .malformed
  | ']' :: later =>
      let _ ← cutPart whole start stop
      let _ ← readLevel whole (stop + 1) later
      return []
  | _ :: later =>
      let activityText ← cutPart whole start stop
      let field := later.takeWhile (· != '\x7d')
      let close := stop + 1 + Text.byteCount field
      match later.drop field.length with
      | [] => throw .malformed
      | _ :: behind =>
          let field? ← readField (← cutPart whole (stop + 1) close)
          match behind with
          | ']' :: rest =>
              let level ← readLevel whole (close + 2) rest
              match activityText, field? with
              | [], some field => return [{ target := String.ofList target, field, level }]
              | _, _ => return []
          | _ => throw .malformed

/-- Whether a rule can begin with a character, apart from a bracket. -/
def beginsRule (c : Char) : Bool :=
  Text.isAlphanumeric c || c == '-' || c == ':' || c == '_'

/-- Reads a rule. -/
def Rule.parse (text : String) : ReadRule :=
  let whole := text.toList
  match Text.trim whole with
  | [] => .error .malformed
  | '[' :: later => readBracket whole [] 0 later
  | c :: later =>
      if !beginsRule c then .error .malformed
      else
        let name := (c :: later).takeWhile fun c => c != '=' && c != '['
        let position := Text.byteCount name
        match (c :: later).drop name.length with
        | [] =>
            match level? text with
            | some level => .ok [{ target := "", level }]
            | none => .ok [{ target := text, level := fullDetail }]
        | '[' :: rest => do
            readBracket whole (← cutPart whole 0 position) position rest
        | rest => do
            let target ← cutPart whole 0 position
            return [{ target := String.ofList target, level := ← readLevel whole position rest }]

/-- Whether a rule covers an entry. -/
def Rule.covers (rule : Rule) (entry : Entry) : Bool :=
  rule.target.toList.isPrefixOf entry.target.toList && rule.field.all entry.hasField

/-- Whether a rule asks for no more than another one: a shorter target, or the same length of target
and no field, or one whose name is not behind the other's. -/
def Rule.asksNoMore (rule other : Rule) : Bool :=
  rule.target.length < other.target.length ||
    rule.target.length == other.target.length &&
      match rule.field, other.field with
      | none, _ => true
      | some _, none => false
      | some name, some otherName => name ≤ otherName

end TreeBoard.CommandLine
