import TreeBoard.Proofs.Keywords

/-!
# Groups of lines

Between lines of other kinds, the lines of levels form runs. A script is grouped by cutting each run
into groups of whole lines with the levels of one frame each.

Results:
1. `grouping_nil_iff`, `grouping_separator_iff`, what can be grouped outside a run.
2. `grouping_group`, `exists_first`, a run begins with a whole group.
3. `flatten_of_grouping`, the groups are all lines of levels in their order.
-/

namespace TreeBoard.Script

variable {script rest front group : List (String × Nat)} {groups : List (List (String × Nat))}

/-! ## Definitions -/

/-- The lines of a script, each with its number. -/
def numbered (lines : List String) : List (String × Nat) :=
  lines.zipIdx 1

/-- The runs of lines of levels. There is one before, between and after lines of other kinds,
which may be empty. -/
def runs (script : List (String × Nat)) : List (List (String × Nat)) :=
  script.splitOnP fun line => !isDataLine line.1

/-- The levels that stand in some lines, from left to right and from line to line. -/
def groupLevels (group : List (String × Nat)) : List Level :=
  group.flatMap fun line => levelsOf line.1

/-- The runs of a script are cut into these groups, and each group is a frame. -/
structure Grouping (script : List (String × Nat)) (groups : List (List (String × Nat))) : Prop where
  cut : ∃ cuts : List (List (List (String × Nat))),
    cuts.map List.flatten = runs script ∧ cuts.flatten = groups
  complete : ∀ group ∈ groups, (groupLevels group).length = Board.ledCount

/-! ## Runs -/

theorem runs_nil : runs [] = [[]] :=
  List.splitOnP_nil

theorem runs_separator {line : String × Nat} (separator : isDataLine line.1 = false) :
    runs (line :: rest) = [] :: runs rest := by
  unfold runs
  rw [List.splitOnP_cons_eq_if_modifyHead, if_pos (by rw [separator]; rfl)]

theorem runs_append (data : ∀ line ∈ front, isDataLine line.1 = true) :
    runs (front ++ rest) = (runs rest).modifyHead (front ++ ·) := by
  induction front with
  | nil =>
      show runs rest = _
      cases runs rest <;> rfl
  | cons line later ih =>
      obtain ⟨first, others⟩ := List.forall_mem_cons.1 data
      have shorter := ih others
      unfold runs at shorter ⊢
      rw [List.cons_append, List.splitOnP_cons_eq_if_modifyHead, if_neg (by rw [first]; decide),
        shorter, List.modifyHead_modifyHead]
      rfl

theorem runs_eq_cons (script : List (String × Nat)) : ∃ run more, runs script = run :: more :=
  List.exists_cons_of_ne_nil (List.splitOnP_ne_nil _ script)

theorem flatten_runs (script : List (String × Nat)) :
    (runs script).flatten = script.filter (isDataLine ·.1) := by
  induction script with
  | nil => rw [runs_nil]; rfl
  | cons line later ih =>
      cases data : isDataLine line.1 with
      | true =>
          obtain ⟨run, more, begun⟩ := runs_eq_cons later
          have longer : runs (line :: later) = (runs later).modifyHead ([line] ++ ·) :=
            runs_append (List.forall_mem_singleton.2 data)
          rw [longer, List.filter_cons, if_pos data, ← ih, begun]
          rfl
      | false =>
          rw [runs_separator data, List.filter_cons, if_neg (by rw [data]; decide), ← ih]
          rfl

/-! ## Groups -/

theorem groupLevels_append (front rest : List (String × Nat)) :
    groupLevels (front ++ rest) = groupLevels front ++ groupLevels rest :=
  List.flatMap_append

theorem groupLevels_singleton (line : String × Nat) : groupLevels [line] = levelsOf line.1 :=
  List.append_nil _

theorem ne_nil_of_complete (complete : (groupLevels group).length = Board.ledCount) :
    group ≠ [] := by
  rintro rfl
  cases complete

/-- A part of a run that cuts into nothing is empty. -/
theorem eq_nil_of_flatten_eq_nil {cut : List (List (String × Nat))}
    (complete : ∀ group ∈ cut, (groupLevels group).length = Board.ledCount)
    (empty : cut.flatten = []) : cut = [] := by
  cases cut with
  | nil => rfl
  | cons group others =>
      have nothing : group = [] := (List.append_eq_nil_iff.1 empty).1
      exact absurd nothing (ne_nil_of_complete (complete group List.mem_cons_self))

theorem flatten_of_grouping (grouped : Grouping script groups) :
    groups.flatten = script.filter (isDataLine ·.1) := by
  obtain ⟨⟨cuts, cut, rfl⟩, -⟩ := grouped
  rw [← flatten_runs, ← cut, List.flatten_flatten]

theorem mem_of_grouping (grouped : Grouping script groups) (member : group ∈ groups)
    {line : String × Nat} (inGroup : line ∈ group) :
    line ∈ script ∧ isDataLine line.1 = true := by
  have inScript : line ∈ groups.flatten := List.mem_flatten_of_mem member inGroup
  rw [flatten_of_grouping grouped] at inScript
  exact List.mem_filter.1 inScript

theorem grouping_nil_iff : Grouping [] groups ↔ groups = [] := by
  constructor
  · intro grouped
    exact eq_nil_of_flatten_eq_nil grouped.complete (flatten_of_grouping grouped)
  · rintro rfl
    exact ⟨⟨[[]], by rw [runs_nil]; rfl, rfl⟩, List.forall_mem_nil _⟩

theorem grouping_separator_iff {line : String × Nat} (separator : isDataLine line.1 = false) :
    Grouping (line :: rest) groups ↔ Grouping rest groups := by
  constructor
  · rintro ⟨⟨cuts, cut, rfl⟩, complete⟩
    rw [runs_separator separator] at cut
    obtain ⟨first, others, rfl, empty, more⟩ := List.map_eq_cons_iff.1 cut
    have nothing : first = [] := by
      refine eq_nil_of_flatten_eq_nil (fun group member => complete group ?_) empty
      exact List.mem_append_left _ member
    rw [nothing] at complete ⊢
    exact ⟨⟨others, more, rfl⟩, complete⟩
  · rintro ⟨⟨cuts, cut, rfl⟩, complete⟩
    refine ⟨⟨[] :: cuts, ?_, rfl⟩, complete⟩
    rw [runs_separator separator, ← cut]
    rfl

theorem grouping_group (data : ∀ line ∈ group, isDataLine line.1 = true)
    (complete : (groupLevels group).length = Board.ledCount) (grouped : Grouping rest groups) :
    Grouping (group ++ rest) (group :: groups) := by
  obtain ⟨⟨cuts, cut, rfl⟩, others⟩ := grouped
  obtain ⟨run, more, begun⟩ := runs_eq_cons rest
  rw [begun] at cut
  obtain ⟨first, later, rfl, whole, same⟩ := List.map_eq_cons_iff.1 cut
  refine ⟨⟨(group :: first) :: later, ?_, rfl⟩, List.forall_mem_cons.2 ⟨complete, others⟩⟩
  rw [runs_append data, begun, List.map_cons, List.flatten_cons, whole, same]
  rfl

/-- The first run can be entered at any place. -/
theorem exists_of_runs {before after : List (String × Nat)} {later : List (List (String × Nat))}
    (begun : runs script = (before ++ after) :: later) :
    ∃ more, before ++ more = script ∧ runs more = after :: later := by
  induction before generalizing script with
  | nil => exact ⟨script, rfl, begun⟩
  | cons line others ih =>
      cases script with
      | nil =>
          rw [runs_nil] at begun
          cases begun
      | cons first more =>
          cases data : isDataLine first.1 with
          | false =>
              rw [runs_separator data] at begun
              cases begun
          | true =>
              obtain ⟨run, runs', rest⟩ := runs_eq_cons more
              rw [← List.singleton_append, runs_append (List.forall_mem_singleton.2 data),
                rest] at begun
              cases begun
              obtain ⟨end', whole, ends⟩ := ih rest
              exact ⟨end', by rw [List.cons_append, whole], ends⟩

/-- A script that begins with a line of levels begins with a group. -/
theorem exists_first {first : String × Nat} (head : script.head? = some first)
    (data : isDataLine first.1 = true) (grouped : Grouping script groups) :
    ∃ group others more, groups = group :: others ∧ group ++ more = script ∧
      (∀ line ∈ group, isDataLine line.1 = true) ∧
      (groupLevels group).length = Board.ledCount ∧ Grouping more others := by
  obtain ⟨later, rfl⟩ := List.head?_eq_some_iff.1 head
  have allData : ∀ group ∈ groups, ∀ line ∈ group, isDataLine line.1 = true :=
    fun group member line inGroup => (mem_of_grouping grouped member inGroup).2
  obtain ⟨⟨cuts, cut, rfl⟩, complete⟩ := grouped
  obtain ⟨run, more, begun⟩ := runs_eq_cons later
  have longer : runs (first :: later) = (first :: run) :: more := by
    rw [← List.singleton_append, runs_append (List.forall_mem_singleton.2 data), begun]
    rfl
  rw [longer] at cut
  obtain ⟨firstCut, others, rfl, whole, same⟩ := List.map_eq_cons_iff.1 cut
  cases firstCut with
  | nil => cases whole
  | cons group rest =>
      rw [List.flatten_cons] at whole
      rw [← whole] at longer
      obtain ⟨more, front, ends⟩ := exists_of_runs longer
      obtain ⟨here, there⟩ := List.forall_mem_cons.1 complete
      refine ⟨group, rest ++ others.flatten, more, rfl, front, allData group List.mem_cons_self,
        here, ⟨rest :: others, ?_, rfl⟩, there⟩
      rw [ends, List.map_cons, same]

/-! ## Groups that are begun -/

/-- Lines of levels that hold a level each, together fewer than a frame has. -/
structure Begun (carry : List (String × Nat)) : Prop where
  data : ∀ line ∈ carry, isDataLine line.1 = true
  visible : ∀ line ∈ carry, levelsOf line.1 ≠ []
  short : (groupLevels carry).length < Board.ledCount

variable {carry : List (String × Nat)} {line : String × Nat}

theorem begun_nil : Begun [] :=
  ⟨List.forall_mem_nil _, List.forall_mem_nil _, Nat.zero_lt_succ 23⟩

theorem eq_nil_of_groupLevels (visible : ∀ line ∈ group, levelsOf line.1 ≠ [])
    (empty : groupLevels group = []) : group = [] := by
  cases group with
  | nil => rfl
  | cons line others =>
      have nothing : levelsOf line.1 = [] := (List.append_eq_nil_iff.1 empty).1
      exact absurd nothing (visible line List.mem_cons_self)

/-- The lines that are begun belong to the first group, and more lines do. -/
theorem exists_behind {first : String × Nat} (begun : Begun carry)
    (head : (carry ++ script).head? = some first) (data : isDataLine first.1 = true)
    (grouped : Grouping (carry ++ script) groups) :
    ∃ behind others more, behind ≠ [] ∧ groups = (carry ++ behind) :: others ∧
      script = behind ++ more ∧ (∀ line ∈ behind, isDataLine line.1 = true) ∧
      (groupLevels (carry ++ behind)).length = Board.ledCount ∧ Grouping more others := by
  obtain ⟨group, others, more, rfl, whole, allData, complete, behindGrouped⟩ :=
    exists_first head data grouped
  have short := begun.short
  rcases List.append_eq_append_iff.1 whole with ⟨extra, rfl, -⟩ | ⟨behind, rfl, rest⟩
  · rw [groupLevels_append, List.length_append, complete] at short
    exact absurd short (Nat.not_lt.2 (Nat.le_add_right ..))
  · refine ⟨behind, others, more, ?_, rfl, rest, ?_, complete, behindGrouped⟩
    · rintro rfl
      rw [List.append_nil] at complete
      exact Nat.ne_of_lt short complete
    · exact fun line member => allData line (List.mem_append_right carry member)

/-- A group that is begun goes on with a line of levels. -/
theorem eq_nil_of_grouping (begun : Begun carry) (grouped : Grouping (carry ++ script) groups)
    (stops : ∀ line ∈ script.head?, isDataLine line.1 = false) : carry = [] := by
  cases carry with
  | nil => rfl
  | cons first others =>
      obtain ⟨behind, -, more, filled, -, rfl, allData, -⟩ :=
        exists_behind begun rfl (begun.data first List.mem_cons_self) grouped
      obtain ⟨line, later, rfl⟩ := List.exists_cons_of_ne_nil filled
      have data := allData line List.mem_cons_self
      rw [stops line rfl] at data
      cases data

/-- The next line fits into the group that is begun, and closes it if it completes a frame. -/
theorem grouping_line (begun : Begun carry) (data : isDataLine line.1 = true)
    (visible : ∀ line ∈ rest, isDataLine line.1 = true → levelsOf line.1 ≠ [])
    (grouped : Grouping (carry ++ line :: rest) groups) :
    (groupLevels (carry ++ [line])).length ≤ Board.ledCount ∧
      ((groupLevels (carry ++ [line])).length = Board.ledCount →
        ∃ others, groups = (carry ++ [line]) :: others ∧ Grouping rest others) := by
  obtain ⟨first, head, firstData⟩ : ∃ first, (carry ++ line :: rest).head? = some first ∧
      isDataLine first.1 = true := by
    cases carry with
    | nil => exact ⟨line, rfl, data⟩
    | cons first others => exact ⟨first, rfl, begun.data first List.mem_cons_self⟩
  obtain ⟨behind, others, more, filled, rfl, script, allData, complete, moreGrouped⟩ :=
    exists_behind begun head firstData grouped
  obtain ⟨next, extra, rfl⟩ := List.exists_cons_of_ne_nil filled
  obtain ⟨rfl, rfl⟩ := List.cons.inj script
  have together : carry ++ line :: extra = (carry ++ [line]) ++ extra := by simp
  rw [together, groupLevels_append, List.length_append] at complete
  refine ⟨Nat.le.intro complete, fun full => ⟨others, ?_⟩⟩
  -- Every line of the group holds a level, so nothing follows once all levels are there.
  have nothing : extra = [] := by
    refine eq_nil_of_groupLevels (fun line member => ?_) ?_
    · exact visible line (List.mem_append_left more member)
        (allData line (List.mem_cons_of_mem _ member))
    · exact List.eq_nil_of_length_eq_zero (by omega)
  rw [nothing]
  exact ⟨rfl, moreGrouped⟩

end TreeBoard.Script
