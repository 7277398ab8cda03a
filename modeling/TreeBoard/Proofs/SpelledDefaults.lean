import TreeBoard.Proofs.Directives
import TreeBoard.Script.Compile

/-!
# Defaults that are spelled out

A directive that leaves out its argument means the default of the settings. Writing that default into
each such directive gives a script that means the same under any settings.

Results:
1. `parse_spellOut`, a line that is spelled out is read with the defaults filled in.
2. `run_spellOut`, reading both scripts leads to the same states, or to the same error.
3. `compile_spellOut`, both scripts compile to the same animation, or fail with the same error.
-/

namespace TreeBoard.Script

/-! ## Definitions -/

/-- The default of an argument, as it is written in a directive of a kind. -/
def Defaults.argument (defaults : Defaults) : Kind → String
  | .fade => toString defaults.fadeSpeed
  | _ => defaults.marker

/-- A line in which a directive without an argument is replaced by its keyword and the default. -/
def spellOut (defaults : Defaults) (text : String) : String :=
  match argumentOf text, (kind text).keyword? with
  | none, some keyword => keyword ++ ":" ++ defaults.argument (kind text)
  | _, _ => text

/-- What a line says when the defaults are filled in. -/
def Line.fill (defaults : Defaults) : Line → Line
  | .fadeTo speed => .fadeTo (some (speed.getD defaults.fadeSpeed))
  | .setMarker name => .setMarker (some (name.getD defaults.marker))
  | .repeatOnce name => .repeatOnce (some (name.getD defaults.marker))
  | .repeatForever name => .repeatForever (some (name.getD defaults.marker))
  | .blank => .blank
  | .frameData text => .frameData text

/-- Defaults that can be written in a directive. -/
structure Defaults.Writable (defaults : Defaults) : Prop where
  marker : IsArgument defaults.marker.toList
  fadeSpeed : 1 ≤ defaults.fadeSpeed

/-! ## One line -/

variable {defaults : Defaults} {text : String}

theorem isArgument_default (writable : defaults.Writable) (known : Kind) :
    IsArgument (defaults.argument known).toList := by
  cases known with
  | fade => exact isArgument_decimal defaults.fadeSpeed
  | _ => exact writable.marker

theorem spellOut_of_argument {argument : List Char}
    (given : argumentOf text = some argument) : spellOut defaults text = text := by
  unfold spellOut
  rw [given]

theorem spellOut_of_no_keyword (none : (kind text).keyword? = none) :
    spellOut defaults text = text := by
  unfold spellOut
  rw [none]
  split
  · contradiction
  · rfl

/-- A directive without an argument is written with the default. -/
theorem toList_spellOut (missing : argumentOf text = none) {keyword : String}
    (announces : (kind text).keyword? = some keyword) :
    (spellOut defaults text).toList =
      Padding.write {} keyword (some (defaults.argument (kind text)).toList) := by
  unfold spellOut
  rw [missing, announces]
  simp [Padding.write, Padding.body]

theorem kind_spellOut (writable : defaults.Writable) (text : String) :
    kind (spellOut defaults text) = kind text := by
  cases given : argumentOf text with
  | some argument => rw [spellOut_of_argument given]
  | none =>
      cases announces : (kind text).keyword? with
      | none => rw [spellOut_of_no_keyword announces]
      | some keyword =>
          exact kind_written (by simpa using isArgument_default writable _) announces
            (toList_spellOut given announces)

/-- Nothing is filled in where an argument is given. -/
theorem parse_fill_of_argument {argument : List Char}
    (given : argumentOf text = some argument) (line : Nat) :
    (Line.parse line text).map (Line.fill defaults) = Line.parse line text := by
  rw [parse_eq]
  cases kind text with
  | fade =>
      simp only [fadeSpeed?, argument?_eq, given]
      cases Text.word32? argument with
      | none => rfl
      | some speed =>
          simp only
          split <;> rfl
  | blank => rfl
  | data => rfl
  | _ =>
      simp only [given]
      rfl

/-- A line that is spelled out is read with the defaults filled in. -/
theorem parse_spellOut (writable : defaults.Writable) (line : Nat) (text : String) :
    Line.parse line (spellOut defaults text) =
      (Line.parse line text).map (Line.fill defaults) := by
  cases given : argumentOf text with
  | some argument => rw [spellOut_of_argument given, parse_fill_of_argument given]
  | none =>
      have written {keyword : String} (announces : (kind text).keyword? = some keyword) :
          argumentOf (spellOut defaults text) = some (defaults.argument (kind text)).toList :=
        argumentOf_written (by simpa using isArgument_default writable _) announces
          (toList_spellOut given announces)
      rw [parse_eq, parse_eq, kind_spellOut writable]
      cases is : kind text with
      | blank => rfl
      | data =>
          rw [spellOut_of_no_keyword (by rw [is]; rfl)]
          rfl
      | fade =>
          have found := written (by rw [is]; rfl)
          rw [is] at found
          simp only [fadeSpeed?, argument?_eq, found, given, Defaults.argument,
            Text.word32?_decimal, if_pos writable.fadeSpeed]
          rfl
      | _ =>
          have found := written (by rw [is]; rfl)
          rw [is] at found
          simp only [found, given, Defaults.argument, Option.map_some,
            String.ofList_toList]
          rfl

theorem isDirective_fill (parsed : Line) : (parsed.fill defaults).isDirective = parsed.isDirective := by
  cases parsed <;> rfl

/-- Once they are filled in, it does not matter what the defaults are. -/
theorem apply_fill (other : Defaults) (line : Nat) (state : State) (parsed : Line) :
    state.apply other line (parsed.fill defaults) = state.apply defaults line parsed := by
  cases parsed <;> rfl

/-! ## Scripts -/

variable (writable : defaults.Writable) (other : Defaults)
include writable

/-- A line has the same effect when it is spelled out. -/
theorem step_spellOut (line : Nat) (text : String) (state : State) :
    state.step other line (spellOut defaults text) = state.step defaults line text := by
  have blank : Text.isBlankText (spellOut defaults text).toList = Text.isBlankText text.toList := by
    have same := (kind_fits (spellOut defaults text)).blank
    rwa [kind_spellOut writable, ← (kind_fits text).blank] at same
  unfold State.step
  rw [blank, parse_spellOut writable]
  cases Line.parse line text with
  | error error => rfl
  | ok parsed =>
      simp only [Except.map, bind, Except.bind, isDirective_fill, apply_fill]

theorem run_spellOut (line : Nat) (lines : List String) (state : State) :
    run other line (lines.map (spellOut defaults)) state = run defaults line lines state := by
  induction lines generalizing line state with
  | nil => rfl
  | cons text later ih =>
      rw [List.map_cons, run, run, step_spellOut writable]
      simp only [ih]

/-- What was noticed before an error is the same, too. -/
theorem compileReporting_spellOut (lines : List String) :
    compileReporting other (lines.map (spellOut defaults)) = compileReporting defaults lines := by
  unfold compileReporting
  rw [run_spellOut writable, List.length_map]

/-- **Leaving out an argument means writing the default.** A script compiles to the same animation,
or fails with the same error, when each directive that leaves out its argument is written with the
default, and then under any other defaults. -/
theorem compile_spellOut (lines : List String) :
    compile defaults lines = compile other (lines.map (spellOut defaults)) := by
  rw [compile, compile, compileReporting_spellOut writable]

omit writable other

/-- Directives with and without arguments, some of which have colons only. -/
def mixedArguments : List String :=
  ["set_marker:", "0000 0000 0000 0000 0000 0000", " fade_to ", "7777 7777 7777 7777 7777 7777",
    "repeat", "set_marker: dawn", "fade_to: +3", "0123 4567 0123 4567 0123 4567", "fade_to::5",
    "1111 1111 1111 1111 1111 1111", "repeat_forever: :dusk"]

theorem compile_spellOut_mixedArguments :
    Defaults.Writable ⟨"dawn", 12⟩ ∧
      mixedArguments.map (spellOut ⟨"dawn", 12⟩) =
        ["set_marker:dawn", "0000 0000 0000 0000 0000 0000", "fade_to:12",
          "7777 7777 7777 7777 7777 7777", "repeat:dawn", "set_marker: dawn", "fade_to: +3",
          "0123 4567 0123 4567 0123 4567", "fade_to:12", "1111 1111 1111 1111 1111 1111",
          "repeat_forever:dawn"] ∧
      compile ⟨"dawn", 12⟩ mixedArguments =
        compile {} (mixedArguments.map (spellOut ⟨"dawn", 12⟩)) := by
  have writable : Defaults.Writable ⟨"dawn", 12⟩ := by
    refine ⟨⟨?_, ?_, ?_⟩, ?_⟩ <;> decide
  exact ⟨writable, by decide +kernel, compile_spellOut writable {} mixedArguments⟩

end TreeBoard.Script
