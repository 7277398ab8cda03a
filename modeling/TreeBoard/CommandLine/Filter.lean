import TreeBoard.CommandLine.Rule

/-!
# Filters

A filter says which events are shown. It is a list of rules between commas. Of the rules that cover
an entry, the one that asks for the most decides.
-/

namespace TreeBoard.CommandLine

/-- The rules of a filter. Of two equal rules, the later one counts. -/
abbrev Filter := List Rule

namespace Filter

/-- Without any rule, errors are shown. -/
def errors : Filter := [{ target := "", level := Severity.error.rank }]

/-- The filter that applies when none is asked for. -/
def standard : Filter := [{ target := "", level := Severity.info.rank }]

/-- Reads a filter. One that cannot be read is replaced by the standard filter, but there is none if
a rule is torn. -/
def parse? (text : String) : Option Filter :=
  match (Text.split ',' text).filter (!·.isEmpty) with
  | [] => some errors
  | parts =>
      match parts.mapM Rule.parse with
      | .ok rules => some rules.flatten
      | .error .malformed => some standard
      | .error .torn => none

/-- The filter that is asked for, or the standard filter. -/
def ofSetting? : Option String → Option Filter
  | some text => parse? text
  | none => some standard

/-- The exit status when a torn rule leaves a program without a filter. -/
def tornStatus : UInt32 := 101

/-- The rule that decides about an entry. -/
def rule? (filter : Filter) (entry : Entry) : Option Rule :=
  filter.foldl (fun best rule =>
    if rule.covers entry && best.all (·.asksNoMore rule) then some rule else best) none

/-- Whether an entry is shown. -/
def passes (filter : Filter) (entry : Entry) : Bool :=
  match filter.rule? entry with
  | some rule => entry.severity.rank ≤ rule.level
  | none => false

/-- The lines that are printed for an entry. -/
def log (filter : Filter) (entry : Entry) : List String :=
  if filter.passes entry then entry.lines else []

end Filter

end TreeBoard.CommandLine
