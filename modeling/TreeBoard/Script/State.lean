import TreeBoard.Fade
import TreeBoard.Script.Line
import TreeBoard.Script.Notice
import TreeBoard.Script.PartialFrame

/-!
# The state of a compilation

A script is compiled line by line. Between two lines stand the frames so far, a frame that is not
complete, a fade that waits for its end, and the markers. Repeats keep no frame beyond the memory;
the length of the animation counts those frames too, up to `2 ^ 64 - 1`.
-/

namespace TreeBoard.Script

/-- What directives mean that leave out their argument. -/
structure Defaults where
  /-- The name of a marker that has none. -/
  marker : String := "default"
  /-- The speed of a fade that has none. -/
  fadeSpeed : UInt32 := 1
deriving DecidableEq, Repr

/-- A fade that waits for the frame to lead to. -/
structure PendingFade where
  line : Nat
  speed : UInt32
deriving DecidableEq, Repr

/-- A number of frames, held below `2 ^ 64`. -/
def saturate (length : Nat) : Nat :=
  min length (UInt64.size - 1)

/-- Everything that a script has said up to a line. -/
structure State where
  /-- The levels of the frame that is being written. -/
  gathered : PartialFrame := {}
  /-- The frames that are kept. -/
  frames : List Frame := []
  /-- The length of the animation, with the frames that are not kept. -/
  authored : Nat := 0
  /-- The frame of each marker. The latest setting of a name comes first. -/
  markers : List (String × Nat) := []
  /-- The fade that the next frame ends. -/
  pendingFade : Option PendingFade := none
  /-- Whether an endless repeat has closed the script. -/
  closed : Bool := false
  /-- What has been noticed so far. -/
  notices : List Notice := []
  /-- The speeds of the fades among the notices. They are only told. -/
  fadeSpeeds : List UInt32 := []
deriving DecidableEq, Repr

namespace State

/-- The state with one more notice. -/
def notify (state : State) (notice : Notice) : State :=
  { state with notices := state.notices ++ [notice] }

/-- Appends a complete frame, and before it the frames of the fade that it ends. -/
def addFrame (state : State) (frame : Frame) : State :=
  let plain := { state with
    frames := state.frames ++ [frame]
    authored := saturate (state.authored + 1)
    pendingFade := none }
  match state.pendingFade, state.frames.getLast? with
  | some fade, some start =>
      match Fade.between start frame fade.speed with
      | [] => plain.notify (.flatFade fade.line)
      | steps =>
          let index := state.frames.length
          { plain with
            frames := state.frames ++ steps ++ [frame]
            authored := saturate (plain.authored + steps.length)
            fadeSpeeds := state.fadeSpeeds ++ [fade.speed] }.notify
              (.faded (index - 1) (index + steps.length) steps.length)
  | _, _ => plain

/-- Takes over what became of the partial frame on a line. -/
def gather (state : State) : PartialFrame × Except Error (Option Frame) → Except Error State
  | (_, .error error) => .error error
  | (gathered, .ok none) => .ok { state with gathered }
  | (gathered, .ok (some frame)) => .ok ({ state with gathered }.addFrame frame)

/-- Sets a marker to the last frame, or to index 0 when there is none yet. -/
def setMarker (state : State) (name : String) : State :=
  let index := state.authored - 1
  { state with markers := (name, index) :: state.markers }.notify (.markerSet name index)

/-- The frame of a marker that a directive on the given line refers to. -/
def marker (state : State) (line : Nat) (name : String) : Except Error Nat :=
  match state.markers.lookup name with
  | some index => .ok index
  | none => .error (.unknownMarker line name)

/-- Appends copies of the frames from `first` on, and keeps those that lie inside the memory. -/
def repeatFrom (state : State) (name : String) (first copies : Nat) : State :=
  let room := Board.slotCount - state.frames.length
  let copied := (List.replicate copies (state.frames.drop first)).flatten.take room
  { state with
    frames := state.frames ++ copied
    authored := saturate (state.authored + (state.authored - first) * copies) }.notify
      (.repeated name first (state.authored - 1) copies)

/-- How many whole copies of the frames from `first` on still go into the memory. There are none of
an animation without frames. -/
def copiesThatFit (state : State) (first : Nat) : Nat :=
  (Board.slotCount - state.authored) / (state.authored - first)

end State

/-- The state after a line that holds a directive or blanks or levels. A directive may not interrupt
a frame. -/
def State.apply (defaults : Defaults) (line : Nat) (state : State) : Line → Except Error State
  | .blank => state.gather (state.gathered.boundary line)
  | .frameData text => state.gather (state.gathered.push line text)
  | .fadeTo speed =>
      if state.frames.isEmpty then .error (.fadeWithoutStart line)
      else .ok { state with pendingFade := some ⟨line, speed.getD defaults.fadeSpeed⟩ }
  | .setMarker name => .ok (state.setMarker (name.getD defaults.marker))
  | .repeatOnce name => do
      let name := name.getD defaults.marker
      let first ← state.marker line name
      return state.repeatFrom name first 1
  | .repeatForever name => do
      let name := name.getD defaults.marker
      let first ← state.marker line name
      return { state.repeatFrom name first (state.copiesThatFit first) with closed := true }

/-- The state after one more line. -/
def State.step (defaults : Defaults) (line : Nat) (text : String) (state : State) :
    Except Error State :=
  if state.closed && !Text.isBlankText text.toList then .error (.contentAfterEnd line)
  else do
    let parsed ← Line.parse line text
    if parsed.isDirective && !state.gathered.isEmpty then throw (.directiveInsideFrame line)
    state.apply defaults line parsed

end TreeBoard.Script
