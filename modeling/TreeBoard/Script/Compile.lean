import TreeBoard.Record
import TreeBoard.Script.State
import TreeBoard.Text.Lines

/-!
# Compiling a script

A script becomes an animation that fills the memory of the board. Compilation stops at the first
error. What was noticed before it is kept beside the error, because it is reported in any case.
-/

namespace TreeBoard

/-- A compiled script. -/
structure Animation where
  /-- One frame for each slot of the memory. -/
  frames : List Frame
  /-- What was noticed, with the fit into memory as the last notice. -/
  notices : List Script.Notice
  /-- The length before it was fitted into memory. -/
  authored : Nat
deriving DecidableEq, Repr

namespace Animation

/-- The records of the animation, in the order in which they are played. -/
def records (animation : Animation) : List Record :=
  animation.frames.map Record.ofFrame

/-- How the animation was fitted into memory. -/
def fit? (animation : Animation) : Option Fit :=
  animation.notices.findSome? fun
    | .fitted fit => some fit
    | _ => none

end Animation

namespace Script

/-- An error, and what was noticed before it. -/
structure Failure where
  error : Error
  notices : List Notice
  /-- The speeds of the fades among the notices. -/
  fadeSpeeds : List UInt32
deriving DecidableEq, Repr

/-- The failure of a compilation that has come as far as the given state. -/
def State.failure (state : State) (error : Error) : Failure :=
  ⟨error, state.notices, state.fadeSpeeds⟩

/-- Reads lines of which the first has the given number. -/
def run (defaults : Defaults) : Nat → List String → State → Except Failure State
  | _, [], state => .ok state
  | line, text :: later, state =>
      match state.step defaults line text with
      | .ok next => run defaults (line + 1) later next
      | .error error => .error (state.failure error)

/-- The animation of a script that has ended after the given line. -/
def State.finish (lastLine : Nat) (state : State) : Except Error Animation := do
  if state.frames.isEmpty then throw .emptyAnimation
  state.gathered.finish lastLine
  let ended := match state.pendingFade with
    | some fade => state.notify (.danglingFade fade.line)
    | none => state
  let (frames, fit) ← Memory.fit ended.frames ended.authored
  return ⟨frames, (ended.notify (.fitted fit)).notices, ended.authored⟩

/-- Compiles the lines of a script, with the speeds of the fades among the notices, and with the
notices before an error. -/
def compileReporting (defaults : Defaults) (lines : List String) :
    Except Failure (Animation × List UInt32) :=
  match run defaults 1 lines {} with
  | .error failure => .error failure
  | .ok state =>
      match state.finish lines.length with
      | .error error => .error (state.failure error)
      | .ok animation => .ok (animation, state.fadeSpeeds)

/-- Compiles the lines of a script. -/
def compile (defaults : Defaults) (lines : List String) : Except Error Animation :=
  match compileReporting defaults lines with
  | .error failure => .error failure.error
  | .ok (animation, _) => .ok animation

/-- Compiles a script that is held as one text. -/
def compileText (defaults : Defaults) (text : String) : Except Error Animation :=
  compile defaults (Text.lines text)

/-- The lines of a script that is given in bytes. All of them must be valid. -/
def readLines (bytes : List UInt8) : Except Error (List String) :=
  match (Text.byteLines bytes).mapM Text.decode? with
  | some lines => .ok lines
  | none => .error (.stream .notUnicode)

/-- Compiles a script that is given in bytes. -/
def compileBytes (defaults : Defaults) (bytes : List UInt8) : Except Error Animation :=
  readLines bytes >>= compile defaults

end Script

end TreeBoard
