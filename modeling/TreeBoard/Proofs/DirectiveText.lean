import TreeBoard.Proofs.Directives

/-!
# Directives as texts

A directive with its argument is written as a text, with blanks at will, and the text is parsed as
that directive again. What is parsed can always be written. Only the argument of a fade can be
wrong, and then the error says what was found in its place.

Results:
1. `exists_write?`, a directive that is written is parsed as itself.
2. `writable_of_parse`, what is parsed can be written.
3. `parse_digits`, digits and blanks are a line of levels.
4. `parse_error_iff`, the texts that are refused.
5. `directives_read_back`, all of this.
-/

namespace TreeBoard.Script

/-! ## Definitions -/

namespace Line

/-- What the keyword of a line announces. -/
def kind : Line → Kind
  | .blank => .blank
  | .frameData _ => .data
  | .fadeTo _ => .fade
  | .setMarker _ => .mark
  | .repeatOnce _ => .again
  | .repeatForever _ => .forever

/-- The argument of a directive, as it is written. -/
def argument? : Line → Option (List Char)
  | .fadeTo speed => speed.map fun value => (toString value).toList
  | .setMarker name => name.map String.toList
  | .repeatOnce name => name.map String.toList
  | .repeatForever name => name.map String.toList
  | .blank => none
  | .frameData _ => none

/-- The text of a directive. Other lines have none. -/
def write? (padding : Padding) (directive : Line) : Option String :=
  directive.kind.keyword?.map fun keyword =>
    String.ofList (padding.write keyword directive.argument?)

/-- The arguments that a directive may have: a speed is positive, and a name fits into a line. -/
def Writable : Line → Prop
  | .fadeTo speed => ∀ value ∈ speed, 1 ≤ value
  | .setMarker name => ∀ text ∈ name, IsArgument text.toList
  | .repeatOnce name => ∀ text ∈ name, IsArgument text.toList
  | .repeatForever name => ∀ text ∈ name, IsArgument text.toList
  | .blank => True
  | .frameData _ => True

/-- How a line with the given number is refused: it is a fade, and the field behind its first colon
is no literal of a speed. -/
inductive Refused (line : Nat) (text : String) : Error → Prop
  | noSpeed {argument : List Char} (fade : "fade_to".toList <+: Text.trim text.toList)
      (found : field? (Text.trim text.toList) = some argument) (filled : argument ≠ [])
      (other : ∀ speed, 1 ≤ speed → speed < 2 ^ 32 → ¬ Text.Literal argument speed) :
      Refused line text (.invalidFadeSpeed line (String.ofList argument))

end Line

/-! ## Written directives -/

theorem exists_keyword {directive : Line} (isDirective : directive.isDirective = true) :
    ∃ keyword, directive.kind.keyword? = some keyword := by
  cases directive with
  | blank => cases isDirective
  | frameData text => cases isDirective
  | _ => exact ⟨_, rfl⟩

/-- A line is parsed as a directive if its keyword and its argument are those of the directive. -/
theorem parse_of_argument {directive : Line} {text : String} (line : Nat)
    (isDirective : directive.isDirective = true) (same : kind text = directive.kind)
    (given : argumentOf text = directive.argument?)
    (writable : directive.Writable) : Line.parse line text = .ok directive := by
  have named {name : Option String} (given : argumentOf text = name.map String.toList) :
      (argumentOf text).map String.ofList = name := by
    rw [given, Option.map_map]
    cases name with
    | none => rfl
    | some name => exact congrArg some String.ofList_toList
  rw [parse_eq, same]
  cases directive with
  | blank => cases isDirective
  | frameData data => cases isDirective
  | fadeTo speed =>
      cases speed with
      | none =>
          simp only [Line.kind, fadeSpeed?, argument?_eq, given]
          rfl
      | some value =>
          simp only [Line.kind, fadeSpeed?, argument?_eq, given, Line.argument?, Option.map_some,
            Text.word32?_decimal, if_pos (writable value rfl)]
          rfl
  | _ name => simp only [Line.kind, named given]

theorem isArgument_of_writable {directive : Line} (writable : directive.Writable) :
    ∀ text ∈ directive.argument?, IsArgument text := by
  intro text member
  cases directive with
  | blank => cases member
  | frameData data => cases member
  | fadeTo speed =>
      obtain ⟨value, -, rfl⟩ := Option.map_eq_some_iff.1 member
      exact isArgument_decimal value
  | _ name =>
      obtain ⟨name, given, rfl⟩ := Option.map_eq_some_iff.1 member
      exact writable name given

/-- A directive has a text, and that is parsed as itself. -/
theorem exists_write? (padding : Padding) {directive : Line} (line : Nat)
    (isDirective : directive.isDirective = true) (writable : directive.Writable) :
    ∃ text, directive.write? padding = some text ∧ Line.parse line text = .ok directive := by
  obtain ⟨keyword, announces⟩ := exists_keyword isDirective
  have fits := isArgument_of_writable writable
  have spelled : (String.ofList (padding.write keyword directive.argument?)).toList =
      padding.write keyword directive.argument? := String.toList_ofList
  refine ⟨_, congrArg (Option.map _) announces, ?_⟩
  exact parse_of_argument line isDirective (kind_written fits announces spelled)
    (argumentOf_written fits announces spelled) writable

/-! ## Parsed lines -/

/-- What is parsed can be written. -/
theorem writable_of_parse {line : Nat} {text : String} {directive : Line}
    (parsed : Line.parse line text = .ok directive) : directive.Writable := by
  have named {name : String} (found : (argumentOf text).map String.ofList = some name) :
      IsArgument name.toList := by
    obtain ⟨argument, given, rfl⟩ := Option.map_eq_some_iff.1 found
    rw [String.toList_ofList]
    exact isArgument_of_argumentOf given
  rw [parse_eq] at parsed
  cases is : kind text with
  | blank =>
      rw [is] at parsed
      cases parsed
      trivial
  | data =>
      rw [is] at parsed
      cases parsed
      trivial
  | fade =>
      rw [is] at parsed
      cases read : fadeSpeed? line (Text.trim text.toList) with
      | error error =>
          simp only [read] at parsed
          cases parsed
      | ok speed =>
          simp only [read] at parsed
          cases parsed
          exact positive_of_fadeSpeed? read
  | _ =>
      rw [is] at parsed
      cases parsed
      exact fun name => named

/-- Digits and blanks are a line of levels if there is a digit. -/
theorem parse_digits {text : String} (line : Nat)
    (plain : ∀ c ∈ text.toList, Text.isBlank c = true ∨ c.isDigit = true)
    (visible : ∃ c ∈ text.toList, c.isDigit = true) :
    Line.parse line text = .ok (.frameData text) := by
  obtain ⟨c, member, digit⟩ := visible
  have filled : isBlankLine text = false :=
    List.all_eq_false.2 ⟨c, member, by rw [Text.isBlank_of_isDigit digit]; decide⟩
  have missing {c : Char} (letter : ¬ (Text.isBlank c = true ∨ c.isDigit = true)) :
      c ∉ text.toList := fun member => letter (plain c member)
  have data := isDataLine_of_not_mem filled (missing (by decide)) (missing (by decide))
    (missing (by decide))
  rw [parse_eq, kind_of_data data]

/-! ## Refused lines -/

/-- A line is refused only as a fade to something that is no speed, and then always. -/
theorem parse_error_iff {line : Nat} {text : String} {error : Error} :
    Line.parse line text = .error error ↔ Line.Refused line text error := by
  have fade_iff : kind text = .fade ↔ "fade_to".toList <+: Text.trim text.toList := by
    rw [← List.isPrefixOf_iff_prefix, ← begins.eq_1, (kind_fits text).fade, decide_eq_true_eq]
  rw [parse_eq]
  constructor
  · intro failed
    cases is : kind text with
    | fade =>
        rw [is] at failed
        cases read : fadeSpeed? line (Text.trim text.toList) with
        | ok speed =>
            simp only [read] at failed
            cases failed
        | error error =>
            simp only [read] at failed
            cases failed
            obtain ⟨argument, given, other, rfl⟩ := fadeSpeed?_error_iff.1 read
            obtain ⟨found, filled⟩ := argumentOf_eq_some_iff.1 given
            exact .noSpeed (fade_iff.1 is) found filled fun speed positive small literal =>
              other ⟨speed, positive, small, literal⟩
    | _ =>
        rw [is] at failed
        cases failed
  · rintro @⟨argument, fade, found, filled, other⟩
    have given := argumentOf_eq_some_iff.2 ⟨found, filled⟩
    have refused : fadeSpeed? line (Text.trim text.toList) =
        .error (.invalidFadeSpeed line (String.ofList argument)) := by
      refine fadeSpeed?_error_iff.2 ⟨_, given, ?_, rfl⟩
      rintro ⟨speed, positive, small, literal⟩
      exact other speed positive small literal
    rw [fade_iff.2 fade]
    simp only [refused]
    rfl

/-! ## Written and parsed -/

/-- **Writing a directive and parsing it are inverse.** Whatever its argument is and whatever blanks
stand in it, a directive is parsed as itself, so `repeat` and `repeat_forever` are never taken for
each other, and the arguments that are parsed are those that can be written. A line of digits is
always a line of levels, and a line is refused exactly if it is a fade with an argument that is no
speed. -/
theorem directives_read_back (line : Nat) :
    (∀ (padding : Padding) (directive : Line), directive.isDirective = true →
      directive.Writable →
        ∃ text, directive.write? padding = some text ∧ Line.parse line text = .ok directive) ∧
    (∀ (text : String) (directive : Line), Line.parse line text = .ok directive →
      directive.Writable) ∧
    (∀ text : String, (∀ c ∈ text.toList, Text.isBlank c = true ∨ c.isDigit = true) →
      (∃ c ∈ text.toList, c.isDigit = true) → Line.parse line text = .ok (.frameData text)) ∧
    ∀ (text : String) (error : Error),
      Line.parse line text = .error error ↔ Line.Refused line text error :=
  ⟨fun padding _ => exists_write? padding line, fun _ _ => writable_of_parse,
    fun _ => parse_digits line, fun _ _ => parse_error_iff⟩

/-- Blanks of several kinds wherever they may stand. -/
def widePadding : Padding where
  front := ['\t']
  behind := ['\u3000']
  inner := [' ', ' ']
  back := ['\u0085', ' ']

example : (Line.repeatOnce (some "_forever 7")).write? widePadding =
    some "\trepeat\u3000:  _forever 7\u0085 " := by decide

theorem directives_read_back_keywordInName :
    (∃ text, (Line.repeatOnce (some "_forever 7")).write? widePadding = some text ∧
      Line.parse 3 text = .ok (.repeatOnce (some "_forever 7"))) ∧
    (Line.fadeTo (some 7)).Writable ∧
    Line.parse 5 " 70\t89" = .ok (.frameData " 70\t89") ∧
    Line.Refused 6 "fade_to slowly : -1 : 2" (.invalidFadeSpeed 6 "-1") := by
  refine ⟨(directives_read_back 3).1 _ _ rfl ?_, (directives_read_back 4).2.1 "fade_to:+007" _ ?_,
    (directives_read_back 5).2.2.1 _ ?_ ?_, ((directives_read_back 6).2.2.2 _ _).1 ?_⟩
  · rintro name ⟨⟩
    exact ⟨by decide, by decide, by decide⟩
  · decide
  · have plain : " 70\t89".toList.all (fun c => Text.isBlank c || c.isDigit) = true := by decide
    simpa using plain
  · exact ⟨'7', by decide, by decide⟩
  · decide

end TreeBoard.Script
