import Mathlib.Algebra.Order.Ring.Nat
import Mathlib.Data.List.Basic
import TreeBoard.Text.Blank
import TreeBoard.Text.Lines

/-!
# Lines of a text and of its bytes

Cutting a text into lines and encoding each of them is the same as encoding the text and cutting the
bytes: the bytes of a character are those of a line feed or of a carriage return only if the
character is one.

Results:
1. `encode_eq`, a text is encoded character by character.
2. `linesOf_line`, `LineWords.linesOf_flatMap`, the lines of a text that is put together.
3. `linesOf_eq`, the lines of a text are what stands between its feeds.
4. `byteLines_encode`, the lines of the bytes of a text.
-/

namespace TreeBoard.Text

/-! ## Bytes of a text -/

theorem encode_eq (text : String) : encode text = text.toList.flatMap String.utf8EncodeChar := by
  unfold encode
  rw [String.toUTF8_eq_toByteArray, ← String.utf8Encode_toList, List.utf8Encode,
    List.toList_data_toByteArray]

theorem utf8ByteSize_eq (text : String) :
    text.utf8ByteSize = (text.toList.map Char.utf8Size).sum := by
  have length := congrArg List.length (encode_eq text)
  rw [List.length_flatMap] at length
  simpa [encode, String.length_utf8EncodeChar] using length

/-- A character that takes several bytes takes none below 128. -/
theorem ascii_of_mem_utf8EncodeChar {c : Char} {byte : UInt8} (ascii : byte.toNat < 128)
    (member : byte ∈ String.utf8EncodeChar c) : c.toNat < 128 := by
  by_contra high
  have several : ¬ c.val.toNat ≤ 127 := fun small => high (Nat.lt_succ_of_le small)
  have above (low marker : Nat) (lead : 128 ≤ marker) (fits : low + marker < 256)
      (same : byte = UInt8.ofNat (low + marker)) : False := by
    rw [same, UInt8.toNat_ofNat_of_lt' fits] at ascii
    omega
  unfold String.utf8EncodeChar at member
  simp only [if_neg several] at member
  split at member
  · simp only [List.mem_cons, List.not_mem_nil, or_false] at member
    rcases member with first | second
    · exact above _ _ (by decide) (by omega) first
    · exact above _ _ (by decide) (by omega) second
  · split at member
    · simp only [List.mem_cons, List.not_mem_nil, or_false] at member
      rcases member with first | second | third
      · exact above _ _ (by decide) (by omega) first
      · exact above _ _ (by decide) (by omega) second
      · exact above _ _ (by decide) (by omega) third
    · simp only [List.mem_cons, List.not_mem_nil, or_false] at member
      rcases member with first | second | third | fourth
      · exact above _ _ (by decide) (by omega) first
      · exact above _ _ (by decide) (by omega) second
      · exact above _ _ (by decide) (by omega) third
      · exact above _ _ (by decide) (by omega) fourth

theorem utf8EncodeChar_ascii {c : Char} (ascii : c.toNat < 128) :
    String.utf8EncodeChar c = [UInt8.ofNat c.toNat] := by
  have small : c.val.toNat ≤ 127 := Nat.le_of_lt_succ ascii
  simp only [String.utf8EncodeChar, if_pos small]
  rfl

/-- A byte below 128 stands for the character of its value only. -/
theorem eq_of_mem_utf8EncodeChar {c : Char} {byte : UInt8} (ascii : byte.toNat < 128)
    (member : byte ∈ String.utf8EncodeChar c) : c = Char.ofNat byte.toNat := by
  have small := ascii_of_mem_utf8EncodeChar ascii member
  rw [utf8EncodeChar_ascii small, List.mem_singleton] at member
  rw [member, UInt8.toNat_ofNat_of_lt' (Nat.lt_trans small (by decide)), Char.ofNat_toNat]

/-! ## Lines -/

section

variable {α : Type} [DecidableEq α] {feed ret : α}

theorem linesOf_feed (rest : List α) :
    linesOf feed ret (feed :: rest) = [] :: linesOf feed ret rest := by
  rw [linesOf, if_pos rfl]

/-- What does not end a line begins the line that follows. -/
theorem linesOf_cons {x : α} {rest : List α} (noFeed : x ≠ feed)
    (noReturn : ¬ (x = ret ∧ rest.head? = some feed)) :
    linesOf feed ret (x :: rest) =
      (x :: (linesOf feed ret rest).headD []) :: (linesOf feed ret rest).tail := by
  rw [linesOf, if_neg noFeed, if_neg noReturn]
  cases linesOf feed ret rest <;> rfl

/-- A word without feeds and returns begins the line that follows. -/
theorem linesOf_append {word : List α} (rest : List α) (nonempty : word ≠ [])
    (plain : ∀ x ∈ word, x ≠ feed ∧ x ≠ ret) :
    linesOf feed ret (word ++ rest) =
      (word ++ (linesOf feed ret rest).headD []) :: (linesOf feed ret rest).tail := by
  induction word with
  | nil => exact absurd rfl nonempty
  | cons x later ih =>
      obtain ⟨⟨noFeed, noReturn⟩, others⟩ := List.forall_mem_cons.1 plain
      rw [List.cons_append, linesOf_cons noFeed fun both => noReturn both.1]
      cases later with
      | nil => rfl
      | cons y word =>
          rw [ih (List.cons_ne_nil y word) others]
          rfl

/-- A feed ends a line without feeds and returns. -/
theorem linesOf_line {line : List α} (rest : List α)
    (plain : ∀ x ∈ line, x ≠ feed ∧ x ≠ ret) :
    linesOf feed ret (line ++ feed :: rest) = line :: linesOf feed ret rest := by
  by_cases empty : line = []
  · rw [empty]
    exact linesOf_feed rest
  · rw [linesOf_append _ empty plain, linesOf_feed]
    simp

/-- Lines without feeds and returns that all end with a feed stand before the lines that follow. -/
theorem linesOf_flatMap_feed {pieces : List (List α)} (rest : List α)
    (plain : ∀ line ∈ pieces, ∀ x ∈ line, x ≠ feed ∧ x ≠ ret) :
    linesOf feed ret (pieces.flatMap (· ++ [feed]) ++ rest) = pieces ++ linesOf feed ret rest := by
  induction pieces with
  | nil => rfl
  | cons line later ih =>
      obtain ⟨first, others⟩ := List.forall_mem_cons.1 plain
      rw [List.flatMap_cons, List.append_assoc, List.append_assoc, List.singleton_append,
        linesOf_line _ first, ih others, List.cons_append]

/-! ## Lines between feeds -/

/-- A line that a feed has ended, without the return before that feed. -/
def dropReturn (ret : α) (line : List α) : List α :=
  if line.getLast? = some ret then line.dropLast else line

/-- What stands between the feeds of a text. Behind the last feed stands a line unless nothing
does. -/
def cutLines (feed ret : α) (text : List α) : List (List α) :=
  let pieces := text.splitOn feed
  pieces.dropLast.map (dropReturn ret) ++ (pieces.getLast?.filter (· ≠ [])).toList

theorem dropReturn_cons {x : α} {line : List α} (stays : ¬ (x = ret ∧ line = [])) :
    dropReturn ret (x :: line) = x :: dropReturn ret line := by
  unfold dropReturn
  cases line with
  | nil =>
      have noReturn : x ≠ ret := fun isReturn => stays ⟨isReturn, rfl⟩
      rw [List.getLast?_singleton, if_neg (mt Option.some.inj noReturn)]
      rfl
  | cons y later =>
      rw [List.getLast?_cons_cons, List.dropLast_cons_cons]
      split <;> rfl

/-- At most a return is taken away. -/
theorem eq_dropReturn (ret : α) (line : List α) :
    line = dropReturn ret line ∨ line = dropReturn ret line ++ [ret] := by
  unfold dropReturn
  split
  · rename_i last
    exact .inr (List.dropLast_append_getLast? ret last).symm
  · exact .inl rfl

/-- A feed ends a line, and one return before it goes with it. -/
theorem linesOf_ended (ret : α) {line : List α} (noFeed : feed ∉ line) (rest : List α) :
    linesOf feed ret (line ++ feed :: rest) = dropReturn ret line :: linesOf feed ret rest := by
  induction line with
  | nil => exact linesOf_feed rest
  | cons x later ih =>
      have differs := (List.ne_of_not_mem_cons noFeed).symm
      have noFeedLater := List.not_mem_of_not_mem_cons noFeed
      by_cases last : x = ret ∧ later = []
      · obtain ⟨rfl, rfl⟩ := last
        rw [List.singleton_append, linesOf, if_neg differs, if_pos ⟨rfl, rfl⟩, linesOf_feed,
          dropReturn, List.getLast?_singleton, if_pos rfl]
        rfl
      · have goesOn : ¬ (x = ret ∧ (later ++ feed :: rest).head? = some feed) := by
          rintro ⟨isReturn, next⟩
          cases later with
          | nil => exact last ⟨isReturn, rfl⟩
          | cons y others =>
              rw [List.cons_append, List.head?_cons, Option.some.injEq] at next
              exact noFeedLater (next ▸ List.mem_cons_self)
        rw [List.cons_append, linesOf_cons differs goesOn, ih noFeedLater, dropReturn_cons last]
        rfl

/-- A line that a feed ends is kept, up to a return. -/
theorem exists_linesOf_feed (ret : α) {line : List α} (noFeed : feed ∉ line) (rest : List α) :
    ∃ cut, linesOf feed ret (line ++ feed :: rest) = cut :: linesOf feed ret rest ∧
      (line = cut ∨ line = cut ++ [ret]) :=
  ⟨dropReturn ret line, linesOf_ended ret noFeed rest, eq_dropReturn ret line⟩

/-- A last line needs no feed. -/
theorem linesOf_last {line : List α} (filled : line ≠ []) (noFeed : feed ∉ line) :
    linesOf feed ret line = [line] := by
  induction line with
  | nil => exact absurd rfl filled
  | cons x later ih =>
      have differs := (List.ne_of_not_mem_cons noFeed).symm
      have noFeedLater := List.not_mem_of_not_mem_cons noFeed
      rw [linesOf_cons differs fun both => noFeedLater (List.mem_of_head? both.2)]
      cases later with
      | nil => rfl
      | cons y others =>
          rw [ih (List.cons_ne_nil y others) noFeedLater]
          rfl

/-- The lines of a text are what stands between its feeds. -/
theorem linesOf_eq (feed ret : α) (text : List α) :
    linesOf feed ret text = cutLines feed ret text := by
  have noneIsFeed {line : List α} (noFeed : feed ∉ line) : ∀ x ∈ line, (x == feed) = false :=
    fun x member => beq_eq_false_iff_ne.2 (ne_of_mem_of_not_mem member noFeed)
  -- The induction takes off one line after the other.
  induction size : text.length using Nat.strong_induction_on generalizing text with
  | _ _ ih =>
      by_cases more : feed ∈ text
      · obtain ⟨line, rest, rfl, noFeed⟩ := List.eq_append_cons_of_mem more
        have shorter : rest.length < (line ++ feed :: rest).length := by
          rw [List.length_append, List.length_cons]
          omega
        have pieces : (line ++ feed :: rest).splitOn feed = line :: rest.splitOn feed :=
          List.splitOnP_append_cons_of_forall_mem (noneIsFeed noFeed) feed BEq.rfl rest
        have filled := List.splitOn_ne_nil feed rest
        rw [linesOf_ended ret noFeed, ih _ (size ▸ shorter) rest rfl, cutLines, cutLines, pieces,
          List.dropLast_cons_of_ne_nil filled, List.getLast?_cons_of_ne_nil filled]
        rfl
      · have pieces : text.splitOn feed = [text] := List.splitOnP_eq_singleton (noneIsFeed more)
        rw [cutLines, pieces]
        cases text with
        | nil => rfl
        | cons x later => exact linesOf_last (List.cons_ne_nil x later) more

end

/-- Words for the elements of a text: the feed and the return become a feed and a return, and no
other word holds one. -/
structure LineWords {α β : Type} (feed ret : α) (feed' ret' : β) (word : α → List β) : Prop where
  feedWord : word feed = [feed']
  retWord : word ret = [ret']
  nonempty : ∀ x, word x ≠ []
  plain : ∀ x, x ≠ feed → x ≠ ret → ∀ y ∈ word x, y ≠ feed' ∧ y ≠ ret'

namespace LineWords

variable {α β : Type} {feed ret : α} {feed' ret' : β} {word : α → List β}

theorem head?_flatMap (words : LineWords feed ret feed' ret' word) (differ : ret' ≠ feed')
    (text : List α) : (text.flatMap word).head? = some feed' ↔ text.head? = some feed := by
  cases text with
  | nil => exact iff_of_false (nomatch ·) (nomatch ·)
  | cons x rest =>
      rw [List.flatMap_cons, List.head?_append_of_ne_nil _ (words.nonempty x), List.head?_cons,
        Option.some.injEq]
      constructor
      · intro first
        by_contra noFeed
        by_cases isReturn : x = ret
        · rw [isReturn, words.retWord, List.head?_cons, Option.some.injEq] at first
          exact differ first
        · exact (words.plain x noFeed isReturn feed' (List.mem_of_head? first)).1 rfl
      · rintro rfl
        rw [words.feedWord]
        rfl

variable [DecidableEq α] [DecidableEq β]

/-- Lines are cut in the same way before and after the elements are replaced by words. -/
theorem linesOf_flatMap (words : LineWords feed ret feed' ret' word) (differ : ret' ≠ feed')
    (text : List α) :
    linesOf feed' ret' (text.flatMap word) = (linesOf feed ret text).map (List.flatMap word) := by
  have distinct : ret ≠ feed := by
    rintro rfl
    exact differ (List.singleton_inj.1 (words.retWord.symm.trans words.feedWord))
  have opened (lines : List (List α)) (first : List β) :
      (first ++ (lines.map (List.flatMap word)).headD []) ::
          (lines.map (List.flatMap word)).tail =
        (first ++ (lines.headD []).flatMap word) :: lines.tail.map (List.flatMap word) := by
    cases lines <;> rfl
  induction text with
  | nil => rfl
  | cons x rest ih =>
      rw [List.flatMap_cons]
      by_cases isFeed : x = feed
      · rw [isFeed, words.feedWord, List.singleton_append, linesOf_feed, linesOf_feed, ih]
        rfl
      · by_cases isReturn : x = ret
        · rw [isReturn, words.retWord, List.singleton_append]
          by_cases ends : rest.head? = some feed
          · have ends' := (words.head?_flatMap differ rest).2 ends
            rw [linesOf, if_neg differ, if_pos ⟨rfl, ends'⟩, linesOf, if_neg distinct,
              if_pos ⟨rfl, ends⟩, ih]
          · have goesOn := mt (words.head?_flatMap differ rest).1 ends
            rw [linesOf_cons differ fun both => goesOn both.2,
              linesOf_cons distinct fun both => ends both.2, ih, List.map_cons,
              List.flatMap_cons, words.retWord]
            exact opened _ [ret']
        · rw [linesOf_append _ (words.nonempty x) (words.plain x isFeed isReturn),
            linesOf_cons isFeed fun both => isReturn both.1, ih, List.map_cons, List.flatMap_cons]
          exact opened _ (word x)

end LineWords

theorem lineWords_utf8 : LineWords '\n' '\r' 0x0A 0x0D String.utf8EncodeChar where
  feedWord := rfl
  retWord := rfl
  nonempty c := String.utf8EncodeChar_ne_nil
  plain c noFeed noReturn byte member := by
    constructor
    · rintro rfl
      exact noFeed (eq_of_mem_utf8EncodeChar (by decide) member)
    · rintro rfl
      exact noReturn (eq_of_mem_utf8EncodeChar (by decide) member)

/-- The lines of the bytes of a text are the bytes of its lines. -/
theorem byteLines_encode (text : String) :
    byteLines (encode text) = (lines text).map encode := by
  unfold byteLines lines
  rw [encode_eq, lineWords_utf8.linesOf_flatMap (by decide), List.map_map]
  refine List.map_congr_left fun line _ => ?_
  rw [Function.comp_apply, encode_eq, String.toList_ofList]

end TreeBoard.Text
