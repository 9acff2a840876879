-- SUMMARY: The line of a position, between line feeds and between all units that end lines.
import Mathlib.Data.List.Infix
import Mathlib.Data.List.TakeWhile
import Descent.Cursor
import Descent.Text.Lines

/-!
# Lines and positions

A place in a source is a line and a column, and both count line feeds alone. The lines
of a text end at other units as well. The two agree up to a position if every line that
ends before it ends in a line feed: then the line of that number is the one with the
position in it, and the column says how far in. Where other units end lines, the line of
that number is part of one that is not behind the position.
-/

namespace Descent

namespace Text

variable {text rest : List Char} {unit : Char}

/-! ## The first line -/

theorem isLineBreak_feed : isLineBreak '\n' = true := by decide

@[simp] theorem lines_nil : lines [] = [] := by rw [lines]

theorem lines_return_feed (rest : List Char) : lines ('\r' :: '\n' :: rest) = [] :: lines rest := by
  rw [lines]

theorem lines_feed (rest : List Char) : lines ('\n' :: rest) = [] :: lines rest := by
  rw [lines.eq_def]
  exact if_pos isLineBreak_feed

/-- A unit that ends no line is the first unit of the line that it is in. -/
theorem lines_cons (h : isLineBreak unit = false) (rest : List Char) :
    lines (unit :: rest) =
      match lines rest with
      | [] => [[unit]]
      | line :: others => (unit :: line) :: others := by
  have hreturn : ∀ rest', unit = '\r' → rest = '\n' :: rest' → False := by
    rintro rest' rfl
    cases h
  rw [lines.eq_3 unit rest hreturn, h]
  rfl

/-- The first line goes up to the first unit that ends a line. -/
theorem head?_lines (h : text ≠ []) :
    (lines text).head? = some (text.takeWhile fun unit => !isLineBreak unit) := by
  fun_induction lines text with
  | case1 => exact absurd rfl h
  | case2 rest => rfl
  | case3 unit rest _ hbreak => simp [hbreak]
  | case4 unit rest _ hbreak hnone ih =>
    have hrest : rest = [] := by
      by_contra hne
      simp [hnone] at ih
      exact hne ih
    simp [hrest, hbreak]
  | case5 unit rest _ hbreak line others hsome ih =>
    have hrest : rest ≠ [] := by
      rintro rfl
      simp at hsome
    have hline : line = rest.takeWhile fun unit => !isLineBreak unit := by
      simpa [hsome] using ih hrest
    simp [hbreak, hline]

/-! ## The line of a position -/

/-- Whether the lines that end within the first `n` units of a text end in a line feed,
which may stand behind a carriage return. -/
def FeedsOnly (text : List Char) (n : Nat) : Prop :=
  ∀ i < n, text[i]?.any isLineBreak = true →
    text[i]? = some '\n' ∨ text[i]? = some '\r' ∧ text[i + 1]? = some '\n'

instance (text : List Char) (n : Nat) : Decidable (FeedsOnly text n) :=
  inferInstanceAs (Decidable (∀ i < n, _ → _))

theorem FeedsOnly.mono {m n : Nat} (h : FeedsOnly text n) (hle : m ≤ n) : FeedsOnly text m :=
  fun i hi => h i (hi.trans_le hle)

/-- What is behind the last line feed of a text. -/
def behindFeed (text : List Char) : List Char := (text.reverse.takeWhile (· != '\n')).reverse

theorem behindFeed_eq_self (h : '\n' ∉ text) : behindFeed text = text := by
  have hall : ∀ unit ∈ text.reverse, (unit != '\n') = true := by
    intro unit hunit
    exact bne_iff_ne.2 fun heq => h (heq ▸ List.mem_reverse.1 hunit)
  rw [behindFeed, List.takeWhile_eq_self_iff.2 hall, List.reverse_reverse]

theorem behindFeed_cons (h : '\n' ∈ unit :: text) :
    behindFeed (unit :: text) = behindFeed text := by
  rw [behindFeed, behindFeed, List.reverse_cons, List.takeWhile_append]
  split
  · -- no line feed is in the tail, so the first unit is one
    rename_i hlength
    have hself := (List.takeWhile_prefix _).eq_of_length hlength
    have hnot : '\n' ∉ text := fun hmem => by
      simpa using List.takeWhile_eq_self_iff.1 hself '\n' (List.mem_reverse.2 hmem)
    obtain rfl : '\n' = unit := (List.mem_cons.1 h).resolve_right hnot
    simp [hself]
  · rfl

theorem FeedsOnly.tail {n : Nat} (h : FeedsOnly (unit :: text) (n + 1)) : FeedsOnly text n := by
  intro i hi
  simpa using h (i + 1) (Nat.succ_lt_succ hi)

theorem FeedsOnly.of_append {head : List Char} {n : Nat}
    (h : FeedsOnly (head ++ text) (head.length + n)) : FeedsOnly text n := by
  induction head with
  | nil => simpa using h
  | cons unit head ih =>
    rw [List.length_cons, Nat.succ_add] at h
    exact ih h.tail

theorem not_mem_behindFeed (text : List Char) : '\n' ∉ behindFeed text := by
  intro hmem
  simpa using List.mem_takeWhile_imp (List.mem_reverse.1 hmem)

/-- In front of what is behind the last line feed there is that line feed, or nothing. -/
theorem exists_append_behindFeed (text : List Char) :
    ∃ head, head ++ behindFeed text = text ∧ (head = [] ∨ head.getLast? = some '\n') := by
  refine ⟨(text.reverse.dropWhile (· != '\n')).reverse, ?_, ?_⟩
  · rw [behindFeed, ← List.reverse_append, List.takeWhile_append_dropWhile, List.reverse_reverse]
  · have hstop := List.head?_dropWhile_not (· != '\n') text.reverse
    cases hrest : text.reverse.dropWhile (· != '\n') with
    | nil => exact .inl rfl
    | cons unit rest =>
      rw [hrest] at hstop
      exact .inr (by simpa using hstop)

theorem length_behindFeed_le (text : List Char) : (behindFeed text).length ≤ text.length := by
  simpa [behindFeed] using (List.takeWhile_prefix (· != '\n') (l := text.reverse)).length_le

/-- If only line feeds end the lines of a text before the line of a position, that line
has as its number the line feeds before it, and begins behind the last of them. -/
theorem getElem?_lines {before after : List Char}
    (h : FeedsOnly (before ++ after) (before.length - (behindFeed before).length)) :
    (lines (before ++ after))[before.count '\n']? =
      (lines (behindFeed before ++ after)).head? := by
  induction before with
  | nil => simp [behindFeed, List.head?_eq_getElem?]
  | cons unit before ih =>
    by_cases hfeed : '\n' ∈ unit :: before
    · have hstart : (unit :: before).length - (behindFeed (unit :: before)).length =
          before.length - (behindFeed before).length + 1 := by
        rw [behindFeed_cons hfeed, List.length_cons, Nat.sub_add_comm (length_behindFeed_le before)]
      rw [hstart] at h
      have hbefore := ih h.tail
      rw [behindFeed_cons hfeed, ← hbefore]
      cases hbreak : isLineBreak unit with
      | true =>
        rcases h 0 (Nat.succ_pos _) hbreak with ⟨⟨⟩⟩ | ⟨⟨⟨⟩⟩, hnext⟩
        · rw [List.count_cons_self, List.cons_append, lines_feed, List.getElem?_cons_succ]
        · -- the carriage return belongs to the line feed behind it, and ends no line of its own
          obtain ⟨before, rfl⟩ : ∃ rest, before = '\n' :: rest := by
            cases before with
            | nil => simp at hfeed
            | cons next rest => exact ⟨rest, by simpa using hnext⟩
          simp only [List.cons_append, lines_return_feed, lines_feed]
          rw [List.count_cons_of_ne (by decide)]
      | false =>
        have hne : unit ≠ '\n' := by
          rintro rfl
          cases hbreak
        have hmem : '\n' ∈ before := (List.mem_cons.1 hfeed).resolve_left hne.symm
        obtain ⟨k, hk⟩ := Nat.exists_eq_succ_of_ne_zero (List.count_pos_iff.2 hmem).ne'
        rw [List.count_cons_of_ne hne, hk, List.cons_append, lines_cons hbreak]
        cases lines (before ++ after) with
        | nil => simp
        | cons line others => rfl
    · rw [behindFeed_eq_self hfeed, List.count_eq_zero_of_not_mem hfeed, List.head?_eq_getElem?]

/-! ## Lines between line feeds -/

theorem splitOn_feed (text : List Char) :
    ('\n' :: text).splitOn '\n' = [] :: text.splitOn '\n' := by
  simp [List.splitOn_eq_splitOnP, List.splitOnP_cons_eq_if_modifyHead]

theorem splitOn_cons (h : unit ≠ '\n') (text : List Char) :
    (unit :: text).splitOn '\n' = (text.splitOn '\n').modifyHead (unit :: ·) := by
  simp [List.splitOn_eq_splitOnP, List.splitOnP_cons_eq_if_modifyHead, h]

theorem head?_splitOn (text : List Char) :
    (text.splitOn '\n').head? = some (text.takeWhile (· != '\n')) := by
  induction text with
  | nil => rfl
  | cons unit text ih =>
    by_cases hfeed : unit = '\n'
    · rw [hfeed, splitOn_feed]
      rfl
    · rw [splitOn_cons hfeed, List.head?_modifyHead, ih]
      simp [hfeed]

/-- A text is built up from its last line, in which there is no line feed: a line feed is put in
front of it, or one more unit of a first line that ends in one. -/
@[elab_as_elim]
theorem feed_induction {motive : List Char → Prop} (flat : ∀ text, '\n' ∉ text → motive text)
    (feed : ∀ text, motive text → motive ('\n' :: text))
    (more : ∀ unit text, unit ≠ '\n' → '\n' ∈ text → motive text → motive (unit :: text))
    (text : List Char) : motive text := by
  induction text with
  | nil => exact flat [] (List.not_mem_nil)
  | cons unit text ih =>
    by_cases hunit : unit = '\n'
    · exact hunit ▸ feed text ih
    · by_cases hmem : '\n' ∈ text
      · exact more unit text hunit hmem ih
      · exact flat (unit :: text) (List.not_mem_cons_of_ne_of_not_mem (Ne.symm hunit) hmem)

/-- Between line feeds, the line of a position has as its number the line feeds before it,
whatever else ends lines. -/
theorem getElem?_splitOn (before after : List Char) :
    ((before ++ after).splitOn '\n')[before.count '\n']? =
      some (behindFeed before ++ after.takeWhile (· != '\n')) := by
  induction before using feed_induction with
  | flat before hnone =>
    rw [behindFeed_eq_self hnone, List.count_eq_zero_of_not_mem hnone,
      ← List.head?_eq_getElem?, head?_splitOn, List.takeWhile_append_of_pos]
    intro unit hunit
    exact bne_iff_ne.2 fun heq => hnone (heq ▸ hunit)
  | feed before ih =>
    rw [behindFeed_cons List.mem_cons_self, ← ih, List.count_cons_self, List.cons_append,
      splitOn_feed, List.getElem?_cons_succ]
  | more unit before hunit hmem ih =>
    -- the unit is added to the first line, and the line of the position is a later one
    obtain ⟨k, hk⟩ := Nat.exists_eq_succ_of_ne_zero (List.count_pos_iff.2 hmem).ne'
    rw [behindFeed_cons (List.mem_cons_of_mem unit hmem), ← ih, List.count_cons_of_ne hunit, hk,
      List.cons_append, splitOn_cons hunit]
    cases (before ++ after).splitOn '\n' with
    | nil => rfl
    | cons line others => rfl

theorem unbroken_isPrefix (text : List Char) :
    (text.takeWhile fun unit => !isLineBreak unit) <+: text.takeWhile (· != '\n') := by
  induction text with
  | nil => exact List.prefix_rfl
  | cons unit text ih =>
    by_cases hbreak : isLineBreak unit = true
    · simp [hbreak]
    · have hfeed : unit ≠ '\n' := by
        rintro rfl
        exact hbreak isLineBreak_feed
      simpa [hbreak, hfeed] using ih

/-- The first line goes up to a line feed at most. -/
theorem exists_splitOn_of_head {row : List Char} (h : (lines text)[0]? = some row) :
    ∃ line, (text.splitOn '\n')[0]? = some line ∧ row <:+: line := by
  have hne : text ≠ [] := by
    rintro rfl
    simp at h
  rw [← List.head?_eq_getElem?, head?_lines hne, Option.some.injEq] at h
  rw [← List.head?_eq_getElem?, head?_splitOn, ← h]
  exact ⟨_, rfl, (unbroken_isPrefix text).isInfix⟩

/-- A unit in front of a text that is no line feed is part of the first line. -/
theorem exists_splitOn_cons (h : unit ≠ '\n') {n : Nat} {line : List Char}
    (hline : (text.splitOn '\n')[n]? = some line) :
    ∃ line', ((unit :: text).splitOn '\n')[n]? = some line' ∧ line <:+: line' := by
  rw [splitOn_cons h]
  cases hlines : text.splitOn '\n' with
  | nil => exact absurd hlines (List.splitOn_ne_nil _ _)
  | cons first others =>
    rw [hlines] at hline
    cases n with
    | zero =>
      obtain rfl : first = line := by simpa using hline
      exact ⟨unit :: first, rfl, (List.suffix_cons unit first).isInfix⟩
    | succ n => exact ⟨line, hline, List.infix_rfl⟩

/-- Every line is part of one between line feeds, whose number is not a larger one. -/
theorem exists_splitOn_of_lines {n : Nat} {row : List Char} (h : (lines text)[n]? = some row) :
    ∃ m ≤ n, ∃ line, (text.splitOn '\n')[m]? = some line ∧ row <:+: line := by
  induction text using lines.induct generalizing n with
  | case1 => simp at h
  | case2 rest ih =>
    cases n with
    | zero => exact ⟨0, Nat.le_refl 0, exists_splitOn_of_head h⟩
    | succ n =>
      rw [lines_return_feed, List.getElem?_cons_succ] at h
      obtain ⟨m, hm, line, hline, hrow⟩ := ih h
      rw [splitOn_cons (by decide), splitOn_feed]
      exact ⟨m + 1, Nat.succ_le_succ hm, line, hline, hrow⟩
  | case3 unit rest hreturn hbreak ih =>
    cases n with
    | zero => exact ⟨0, Nat.le_refl 0, exists_splitOn_of_head h⟩
    | succ n =>
      rw [lines.eq_3 unit rest hreturn, if_pos hbreak, List.getElem?_cons_succ] at h
      obtain ⟨m, hm, line, hline, hrow⟩ := ih h
      by_cases hfeed : unit = '\n'
      · rw [hfeed, splitOn_feed]
        exact ⟨m + 1, Nat.succ_le_succ hm, line, hline, hrow⟩
      · obtain ⟨line', hline', hpart⟩ := exists_splitOn_cons hfeed hline
        exact ⟨m, Nat.le_succ_of_le hm, line', hline', hrow.trans hpart⟩
  | case4 unit rest hreturn hbreak hnone ih =>
    cases n with
    | zero => exact ⟨0, Nat.le_refl 0, exists_splitOn_of_head h⟩
    | succ n =>
      rw [lines_cons (by simpa using hbreak), hnone] at h
      simp at h
  | case5 unit rest hreturn hbreak line others hsome ih =>
    cases n with
    | zero => exact ⟨0, Nat.le_refl 0, exists_splitOn_of_head h⟩
    | succ n =>
      have hfeed : unit ≠ '\n' := by
        rintro rfl
        exact hbreak isLineBreak_feed
      rw [lines_cons (by simpa using hbreak), hsome, List.getElem?_cons_succ] at h
      rw [hsome] at ih
      obtain ⟨m, hm, line, hline, hrow⟩ := ih (n := n + 1) h
      obtain ⟨line', hline', hpart⟩ := exists_splitOn_cons hfeed hline
      exact ⟨m, hm, line', hline', hrow.trans hpart⟩

/-! ## Lines around a position -/

/-- Whether a row is the line of a text that begins at a position: no unit in it ends a
line, and on both sides of it there is one that does, or nothing. -/
structure LineAt (text : List Char) (start : Nat) (row : List Char) : Prop where
  units : row <+: text.drop start
  unbroken : ∀ unit ∈ row, isLineBreak unit = false
  begins : start = 0 ∨ text[start - 1]?.any isLineBreak = true
  ends : ∀ unit, text[start + row.length]? = some unit → isLineBreak unit = true

/-- Behind a line feed, a line goes up to the first unit that ends one. -/
theorem lineAt_takeWhile {head rest : List Char} (h : head = [] ∨ head.getLast? = some '\n') :
    LineAt (head ++ rest) head.length (rest.takeWhile fun unit => !isLineBreak unit) where
  units := by
    rw [List.drop_left]
    exact List.takeWhile_prefix _
  unbroken := by
    intro unit hunit
    simpa using List.mem_takeWhile_imp hunit
  begins := by
    rcases h with rfl | hlast
    · exact .inl rfl
    · have hne : head ≠ [] := by
        rintro rfl
        cases hlast
      have hlt : head.length - 1 < head.length := Nat.sub_one_lt (by simpa using hne)
      rw [List.getLast?_eq_getElem?] at hlast
      rw [List.getElem?_append_left hlt, hlast]
      exact .inr isLineBreak_feed
  ends := by
    intro unit hunit
    have hstop := List.head?_dropWhile_not (fun unit => !isLineBreak unit) rest
    have hhead : (rest.dropWhile fun unit => !isLineBreak unit).head? = some unit := by
      rw [List.getElem?_append_right (Nat.le_add_right _ _), Nat.add_sub_cancel_left] at hunit
      rw [← hunit, List.head?_eq_getElem?, ← Nat.sub_self,
        ← List.getElem?_append_right (Nat.le_refl _), List.takeWhile_append_dropWhile]
    rw [hhead] at hstop
    simpa using hstop

/-- No unit of a line in front of a position ends a line, if only line feeds do there, the
line has none, and the unit at the position does not either. -/
theorem unbroken_of_feedsOnly {line : List Char} (hline : '\n' ∉ line)
    (h : FeedsOnly (line ++ unit :: rest) line.length) (hunit : isLineBreak unit = false) :
    ∀ other ∈ line, isLineBreak other = false := by
  induction line with
  | nil => nofun
  | cons first line ih =>
    have hfirst : isLineBreak first = false := by
      by_contra hbreak
      rcases h 0 (Nat.succ_pos _) (by simpa using hbreak) with heq | ⟨-, hnext⟩
      · simp at heq
        simp [heq] at hline
      · -- what is behind a carriage return is in the line, or at the position
        cases line with
        | nil =>
          obtain rfl : unit = '\n' := by simpa using hnext
          cases hunit
        | cons second line =>
          obtain rfl : second = '\n' := by simpa using hnext
          simp at hline
    have hrest : '\n' ∉ line := fun hmem => hline (List.mem_cons_of_mem _ hmem)
    exact List.forall_mem_cons.2 ⟨hfirst, ih hrest h.tail⟩

end Text

namespace Cursor

theorem before_append_remaining (c : Cursor) : c.before ++ c.remaining = c.source.toList :=
  List.take_append_drop c.pos c.source.toList

theorem length_before (c : Cursor) : c.before.length = c.pos := by
  have hpos := c.pos_le
  simp only [before, List.length_take, Array.length_toList]
  omega

theorem column_eq (c : Cursor) :
    c.lineColumn.column = (Text.behindFeed c.before).length + 1 := by
  simp [lineColumn, Text.behindFeed]

theorem getElem?_before {c : Cursor} {i : Nat} (h : i < c.pos) : c.before[i]? = c.source[i]? := by
  rw [before, List.getElem?_take_of_lt h, Array.getElem?_toList]

/-- The column is the position less that of the last line feed before it, which is taken as -1
where there is none. -/
theorem column_eq_sub (c : Cursor) :
    ('\n' ∉ c.before ∧ (c.lineColumn.column : Int) = c.pos - (-1)) ∨
    ∃ i < c.pos, c.source[i]? = some '\n' ∧
      (∀ j, i < j → j < c.pos → c.source[j]? ≠ some '\n') ∧
      (c.lineColumn.column : Int) = c.pos - i := by
  obtain ⟨head, hhead, hlast⟩ := Text.exists_append_behindFeed c.before
  have hpos : head.length + (Text.behindFeed c.before).length = c.pos := by
    rw [← List.length_append, hhead, c.length_before]
  rw [c.column_eq]
  rcases hlast with rfl | hlast
  · left
    refine ⟨?_, by simp at hpos; omega⟩
    rw [← hhead, List.nil_append]
    exact Text.not_mem_behindFeed c.before
  · right
    rw [List.getLast?_eq_getElem?] at hlast
    obtain ⟨hlt, -⟩ := List.getElem?_eq_some_iff.1 hlast
    refine ⟨head.length - 1, by omega, ?_, fun j hj hjpos hfeed => ?_, by omega⟩
    · rw [← getElem?_before (by omega), ← hhead, List.getElem?_append_left hlt, hlast]
    · -- what is behind the head has no line feed
      rw [← getElem?_before hjpos, ← hhead, List.getElem?_append_right (by omega)] at hfeed
      exact Text.not_mem_behindFeed c.before (List.mem_of_getElem? hfeed)

/-- Where the line of a cursor begins: behind the last line feed before the cursor. -/
def lineStart (c : Cursor) : Nat := c.pos - (Text.behindFeed c.before).length

/-- The text between the last line feed before a cursor and the next one. -/
def line (c : Cursor) : List Char := Text.behindFeed c.before ++ c.remaining.takeWhile (· != '\n')

/-- The line of a cursor, up to the first unit that ends one. -/
def row (c : Cursor) : List Char :=
  (Text.behindFeed c.before ++ c.remaining).takeWhile fun unit => !Text.isLineBreak unit

theorem lineStart_add (c : Cursor) : c.lineStart + c.lineColumn.column = c.pos + 1 := by
  have hle := Text.length_behindFeed_le c.before
  rw [length_before] at hle
  rw [lineStart, column_eq]
  omega

theorem getElem?_splitOn_line (c : Cursor) :
    (c.source.toList.splitOn '\n')[c.lineColumn.line - 1]? = some c.line := by
  rw [← c.before_append_remaining]
  exact Text.getElem?_splitOn c.before c.remaining

theorem row_prefix_line (c : Cursor) : c.row <+: c.line := by
  have hline : c.line = (Text.behindFeed c.before ++ c.remaining).takeWhile (· != '\n') := by
    rw [line, List.takeWhile_append_of_pos]
    intro unit hunit
    exact bne_iff_ne.2 fun heq => Text.not_mem_behindFeed c.before (heq ▸ hunit)
  rw [hline]
  exact Text.unbroken_isPrefix _

theorem lineAt_row (c : Cursor) : Text.LineAt c.source.toList c.lineStart c.row := by
  obtain ⟨head, hhead, hlast⟩ := Text.exists_append_behindFeed c.before
  have hsource : head ++ (Text.behindFeed c.before ++ c.remaining) = c.source.toList := by
    rw [← List.append_assoc, hhead, c.before_append_remaining]
  have hstart : head.length = c.lineStart := by
    have hlength := congrArg List.length hhead
    rw [List.length_append, length_before] at hlength
    exact Nat.eq_sub_of_add_eq hlength
  have hrow : Text.LineAt (head ++ (Text.behindFeed c.before ++ c.remaining)) head.length c.row :=
    Text.lineAt_takeWhile hlast
  rwa [hsource, hstart] at hrow

/-- If only line feeds end the lines before the line of a cursor, the line of its number
begins where that one does. -/
theorem getElem?_lines_eq_head? {c : Cursor} (h : Text.FeedsOnly c.source.toList c.lineStart) :
    (Text.lines c.source.toList)[c.lineColumn.line - 1]? =
      (Text.lines (Text.behindFeed c.before ++ c.remaining)).head? := by
  rw [lineStart, ← c.before_append_remaining, ← c.length_before] at h
  rw [← Text.getElem?_lines h, c.before_append_remaining]
  rfl

/-- There is no such line only if the cursor is at the end of the source, behind a line feed. -/
theorem getElem?_lines_row {c : Cursor} (h : Text.FeedsOnly c.source.toList c.lineStart)
    (hne : Text.behindFeed c.before ++ c.remaining ≠ []) :
    (Text.lines c.source.toList)[c.lineColumn.line - 1]? = some c.row := by
  rw [getElem?_lines_eq_head? h, Text.head?_lines hne]
  rfl

theorem eq_row {c : Cursor} (h : Text.FeedsOnly c.source.toList c.lineStart) {row : List Char}
    (hrow : (Text.lines c.source.toList)[c.lineColumn.line - 1]? = some row) : row = c.row := by
  have hne : Text.behindFeed c.before ++ c.remaining ≠ [] := by
    intro hnil
    rw [getElem?_lines_eq_head? h, hnil] at hrow
    simp at hrow
  rw [getElem?_lines_row h hne, Option.some.injEq] at hrow
  exact hrow.symm

/-- If the line of a cursor reaches to its column, the unit there is the next one to
read. -/
theorem getElem?_row {c : Cursor} (h : c.lineColumn.column ≤ c.row.length) :
    c.row[c.lineColumn.column - 1]? = c.current? := by
  -- the line is a first part of what is behind the last line feed
  obtain ⟨others, hothers⟩ : c.row <+: Text.behindFeed c.before ++ c.remaining :=
    List.takeWhile_prefix _
  rw [c.column_eq] at h ⊢
  calc c.row[(Text.behindFeed c.before).length + 1 - 1]?
      = (c.row ++ others)[(Text.behindFeed c.before).length]? :=
        (List.getElem?_append_left h).symm
    _ = c.remaining.head? := by
        rw [hothers, List.getElem?_append_right (Nat.le_refl _), Nat.sub_self,
          List.head?_eq_getElem?]
    _ = c.current? := c.current?_eq_head?.symm

/-- If only line feeds end lines before a cursor, its line reaches to its column exactly if
the next unit to read is there and ends no line. -/
theorem column_le_length_row_iff {c : Cursor} (h : Text.FeedsOnly c.source.toList c.pos) :
    c.lineColumn.column ≤ c.row.length ↔
      ∃ unit, c.current? = some unit ∧ Text.isLineBreak unit = false := by
  constructor
  · intro hcolumn
    have hlt : c.lineColumn.column - 1 < c.row.length := by
      rw [c.column_eq] at hcolumn ⊢
      exact hcolumn
    have hunit := getElem?_row hcolumn
    rw [List.getElem?_eq_getElem hlt] at hunit
    exact ⟨_, hunit.symm, c.lineAt_row.unbroken _ (List.getElem_mem hlt)⟩
  · rintro ⟨unit, hcurrent, hunit⟩
    rw [c.current?_eq_head?] at hcurrent
    obtain ⟨rest, hrest⟩ := List.head?_eq_some_iff.1 hcurrent
    obtain ⟨head, hhead, -⟩ := Text.exists_append_behindFeed c.before
    have hfeeds : Text.FeedsOnly (Text.behindFeed c.before ++ unit :: rest)
        (Text.behindFeed c.before).length := by
      have hbefore : Text.FeedsOnly (head ++ (Text.behindFeed c.before ++ unit :: rest))
          (head.length + (Text.behindFeed c.before).length) := by
        rw [← List.append_assoc, ← List.length_append, hhead, ← hrest,
          c.before_append_remaining, c.length_before]
        exact h
      exact hbefore.of_append
    have hunbroken := Text.unbroken_of_feedsOnly (Text.not_mem_behindFeed c.before) hfeeds hunit
    have hrow : c.row = Text.behindFeed c.before ++
        unit :: rest.takeWhile fun unit => !Text.isLineBreak unit := by
      rw [row, hrest, List.takeWhile_append_of_pos (by simpa using hunbroken)]
      simp [hunit]
    rw [c.column_eq, hrow, List.length_append, List.length_cons]
    omega

end Cursor

end Descent
