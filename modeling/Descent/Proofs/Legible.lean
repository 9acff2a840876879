-- SUMMARY: The written form of an outcome tells it from every other one.
import Descent.Proofs.Escapes
import Descent.Proofs.Numeral
import Descent.Value.Written

/-!
# Legible forms

The form of a value is legible if it tells the value from every other one, and what stands
behind it as well. The forms of integers are legible only where no digit follows, so that is
what is asked of all of them: behind a value there is a comma, a colon or a closing bracket.

The first unit of a written form tells the kind of the value. The parts of a list, a tuple or a
dictionary are told one after the other: behind each there is a comma and a blank, or the end.
Nothing is assumed about the set of printable units.
-/

namespace Descent

variable {φ α : Type}

/-! ## Legibility -/

/-- Whether a text does not go on with a digit. -/
def NoDigit (text : List Char) : Prop := ∀ unit ∈ text.head?, Text.isDigit unit = false

theorem noDigit_cons {unit : Char} (h : Text.isDigit unit = false) (text : List Char) :
    NoDigit (unit :: text) := by
  rintro _ ⟨⟩
  exact h

theorem noDigit_comma (text : List Char) : NoDigit (", ".toList ++ text) := noDigit_cons rfl _

/-- Whether the form of a value tells it from every other value and from what stands behind it. -/
def Legible (form : α → List Char) (x : α) : Prop :=
  ∀ ⦃y : α⦄ ⦃rest rest' : List Char⦄, NoDigit rest → NoDigit rest' →
    form x ++ rest = form y ++ rest' → x = y ∧ rest = rest'

/-! ## Integers -/

namespace Text

variable {rest rest' : List Char}

theorem toDigits_append_inj {m n : Nat} (hrest : NoDigit rest) (hrest' : NoDigit rest')
    (h : Nat.toDigits 10 m ++ rest = Nat.toDigits 10 n ++ rest') : m = n ∧ rest = rest' := by
  -- no digit follows, so each numeral is what is taken while there are digits
  have hdigits : Nat.toDigits 10 m = Nat.toDigits 10 n := by
    rw [← Parser.takeWhile_append_of_head (fun _ => isDigit_of_mem_toDigits) hrest, h,
      Parser.takeWhile_append_of_head (fun _ => isDigit_of_mem_toDigits) hrest']
  rw [hdigits] at h
  refine ⟨?_, List.append_cancel_left h⟩
  rw [← numeralValue_toDigits m, hdigits, numeralValue_toDigits]

theorem exists_toDigits_eq_cons (n : Nat) :
    ∃ unit rest, Nat.toDigits 10 n = unit :: rest ∧ isDigit unit = true := by
  obtain ⟨unit, rest, hdigits⟩ := List.exists_cons_of_ne_nil (Nat.toDigits_ne_nil (n := n))
  exact ⟨unit, rest, hdigits, isDigit_of_mem_toDigits (hdigits ▸ List.mem_cons_self)⟩

theorem minus_cons_ne_toDigits_append (n : Nat) : '-' :: rest ≠ Nat.toDigits 10 n ++ rest' := by
  obtain ⟨unit, digits, hdigits, hunit⟩ := exists_toDigits_eq_cons n
  rw [hdigits]
  rintro ⟨⟩
  exact absurd hunit (by decide)

theorem legible_writeInteger (n : Int) : Legible (fun n => (writeInteger n).toList) n := by
  intro m rest rest' hrest hrest' h
  dsimp only at h
  rcases Int.lt_or_le n 0 with hn | hn <;> rcases Int.lt_or_le m 0 with hm | hm
  · rw [toList_writeInteger_of_neg hn, toList_writeInteger_of_neg hm, List.cons_append,
      List.cons_append, List.cons.injEq] at h
    obtain ⟨habs, hrests⟩ := toDigits_append_inj hrest hrest' h.2
    exact ⟨by omega, hrests⟩
  · rw [toList_writeInteger_of_neg hn, toList_writeInteger_of_nonneg hm] at h
    exact absurd h (minus_cons_ne_toDigits_append _)
  · rw [toList_writeInteger_of_nonneg hn, toList_writeInteger_of_neg hm] at h
    exact absurd h.symm (minus_cons_ne_toDigits_append _)
  · rw [toList_writeInteger_of_nonneg hn, toList_writeInteger_of_nonneg hm] at h
    obtain ⟨habs, hrests⟩ := toDigits_append_inj hrest hrest' h
    exact ⟨by omega, hrests⟩

end Text

/-! ## Lists of forms -/

/-- Forms behind others: a comma and a blank in front of each. -/
def trailing (form : α → List Char) (xs : List α) : List Char :=
  xs.flatMap fun x => ',' :: ' ' :: form x

/-- Forms with a comma and a blank between them. -/
def separated (form : α → List Char) : List α → List Char
  | [] => []
  | x :: xs => form x ++ trailing form xs

theorem separated_cons_cons (form : α → List Char) (x y : α) (xs : List α) :
    separated form (x :: y :: xs) = form x ++ ',' :: ' ' :: separated form (y :: xs) := by
  simp [separated, trailing]

/-- Whether a list of forms ends where a text begins: the text goes on with no digit, with no
further form, and with no comma in front of one. -/
structure Closes (form : α → List Char) (text : List Char) : Prop where
  noDigit : NoDigit text
  noForm : ∀ x rest, form x ++ rest ≠ text
  noComma : ∀ rest, ',' :: ' ' :: rest ≠ text

section Lists

variable {form : α → List Char} {rest rest' : List Char}

theorem Closes.noDigit_trailing (h : Closes form rest) (xs : List α) :
    NoDigit (trailing form xs ++ rest) := by
  cases xs with
  | nil => exact h.noDigit
  | cons x xs => exact noDigit_cons rfl _

theorem trailing_append_inj {xs ys : List α} (hxs : ∀ x ∈ xs, Legible form x)
    (hrest : Closes form rest) (hrest' : Closes form rest')
    (h : trailing form xs ++ rest = trailing form ys ++ rest') : xs = ys ∧ rest = rest' := by
  -- where one list ends and the other goes on, a comma stands against what closes a list
  induction xs generalizing ys with
  | nil =>
    cases ys with
    | nil => exact ⟨rfl, h⟩
    | cons y ys => exact absurd h.symm (hrest.noComma _)
  | cons x xs ih =>
    cases ys with
    | nil => exact absurd h (hrest'.noComma _)
    | cons y ys =>
      have htail : form x ++ (trailing form xs ++ rest) =
          form y ++ (trailing form ys ++ rest') := by
        simpa [trailing] using h
      obtain ⟨rfl, htails⟩ := hxs x List.mem_cons_self (hrest.noDigit_trailing xs)
        (hrest'.noDigit_trailing ys) htail
      obtain ⟨rfl, hrests⟩ := ih (fun z hz => hxs z (List.mem_cons_of_mem x hz)) htails
      exact ⟨rfl, hrests⟩

/-- Legible forms in a list are told one after the other, up to where the list ends. -/
theorem separated_append_inj {xs ys : List α} (hxs : ∀ x ∈ xs, Legible form x)
    (hrest : Closes form rest) (hrest' : Closes form rest')
    (h : separated form xs ++ rest = separated form ys ++ rest') : xs = ys ∧ rest = rest' := by
  cases xs with
  | nil =>
    cases ys with
    | nil => exact ⟨rfl, h⟩
    | cons y ys =>
      rw [separated, separated, List.append_assoc] at h
      exact absurd h.symm (hrest.noForm y _)
  | cons x xs =>
    cases ys with
    | nil =>
      rw [separated, separated, List.append_assoc] at h
      exact absurd h (hrest'.noForm x _)
    | cons y ys =>
      rw [separated, separated, List.append_assoc, List.append_assoc] at h
      obtain ⟨rfl, htails⟩ := hxs x List.mem_cons_self (hrest.noDigit_trailing xs)
        (hrest'.noDigit_trailing ys) h
      obtain ⟨rfl, hrests⟩ := trailing_append_inj
        (fun z hz => hxs z (List.mem_cons_of_mem x hz)) hrest hrest' htails
      exact ⟨rfl, hrests⟩

end Lists

/-! ## Values -/

namespace Value

/-- The kinds of values. -/
inductive Kind where
  | nothing
  | bool
  | int
  | text
  | list
  | tuple
  | dict
  | function
  deriving DecidableEq

/-- The kind of a value. -/
def kind : Value φ → Kind
  | .nothing => .nothing
  | .bool _ => .bool
  | .int _ => .int
  | .text _ => .text
  | .list _ => .list
  | .tuple _ => .tuple
  | .dict _ => .dict
  | .function _ => .function

/-- The kind of the values whose written forms begin with a unit, if there is one. -/
def Kind.ofUnit? (unit : Char) : Option Kind :=
  if unit = '-' ∨ Text.isDigit unit = true then some .int
  else if unit = 'N' then some .nothing
  else if unit = 'T' ∨ unit = 'F' then some .bool
  else if unit = '\'' ∨ unit = '"' then some .text
  else if unit = '[' then some .list
  else if unit = '(' then some .tuple
  else if unit = '\x7b' then some .dict
  else if unit = '<' then some .function
  else none

theorem Kind.ofUnit?_of_isDigit {unit : Char} (h : Text.isDigit unit = true) :
    ofUnit? unit = some .int :=
  if_pos (.inr h)

/-- What ends a tuple: behind a single item there is a comma. -/
def tupleEnd : List α → List Char
  | [_] => [',', ')']
  | _ => [')']

section Forms

variable (printable : Char → Bool)

/-- The written form of an entry. -/
def writtenEntry (entry : Value φ × Value φ) : List Char :=
  entry.1.writtenWith printable ++ ':' :: ' ' :: entry.2.writtenWith printable

theorem writtenItems_eq_separated (items : List (Value φ)) :
    writtenItems printable items = separated (writtenWith printable) items := by
  induction items with
  | nil => rfl
  | cons item items ih =>
    cases items with
    | nil => simp [writtenItems, separated, trailing]
    | cons next items =>
      rw [separated_cons_cons, ← ih, writtenItems]
      nofun

theorem writtenEntries_eq_separated (entries : List (Value φ × Value φ)) :
    writtenEntries printable entries = separated (writtenEntry printable) entries := by
  induction entries with
  | nil => rfl
  | cons entry entries ih =>
    obtain ⟨key, value⟩ := entry
    cases entries with
    | nil => simp [writtenEntries, writtenEntry, separated, trailing]
    | cons next entries =>
      rw [separated_cons_cons, ← ih, writtenEntries, writtenEntry, List.append_assoc]
      nofun

theorem writtenWith_list (items : List (Value φ)) : writtenWith printable (.list items) =
    '[' :: (separated (writtenWith printable) items ++ [']']) := by
  change '[' :: writtenItems printable items ++ [']'] = _
  rw [writtenItems_eq_separated, List.cons_append]

theorem writtenWith_tuple (items : List (Value φ)) : writtenWith printable (.tuple items) =
    '(' :: (separated (writtenWith printable) items ++ tupleEnd items) := by
  match items with
  | [] => rfl
  | [item] =>
    change '(' :: item.writtenWith printable ++ [',', ')'] = _
    simp [separated, trailing, tupleEnd]
  | item :: next :: items =>
    change '(' :: writtenItems printable (item :: next :: items) ++ [')'] = _
    rw [writtenItems_eq_separated, List.cons_append]
    rfl

theorem writtenWith_dict (entries : List (Value φ × Value φ)) :
    writtenWith printable (.dict entries) =
      '\x7b' :: (separated (writtenEntry printable) entries ++ ['\x7d']) := by
  change '\x7b' :: writtenEntries printable entries ++ ['\x7d'] = _
  rw [writtenEntries_eq_separated, List.cons_append]

/-- The first unit of a written form tells the kind of the value. -/
theorem exists_writtenWith_eq_cons (v : Value φ) :
    ∃ unit rest, v.writtenWith printable = unit :: rest ∧ Kind.ofUnit? unit = some v.kind := by
  cases v with
  | nothing => exact ⟨'N', _, rfl, rfl⟩
  | bool b =>
    change ∃ unit rest, (if b then "True" else "False").toList = unit :: rest ∧ _
    cases b with
    | false => exact ⟨'F', _, rfl, rfl⟩
    | true => exact ⟨'T', _, rfl, rfl⟩
  | int n =>
    change ∃ unit rest, (Text.writeInteger n).toList = unit :: rest ∧ _
    rcases Int.lt_or_le n 0 with hn | hn
    · exact ⟨'-', _, Text.toList_writeInteger_of_neg hn, rfl⟩
    · obtain ⟨unit, rest, hdigits, hunit⟩ := Text.exists_toDigits_eq_cons n.natAbs
      refine ⟨unit, rest, ?_, Kind.ofUnit?_of_isDigit hunit⟩
      rw [Text.toList_writeInteger_of_nonneg hn, hdigits]
  | text t =>
    refine ⟨_, _, rfl, ?_⟩
    rcases Text.quoteFor_eq t.toList with hquote | hquote <;> rw [hquote] <;> rfl
  | list items => exact ⟨'[', _, writtenWith_list printable items, rfl⟩
  | tuple items => exact ⟨'(', _, writtenWith_tuple printable items, rfl⟩
  | dict entries => exact ⟨'\x7b', _, writtenWith_dict printable entries, rfl⟩
  | function f => exact ⟨'<', _, rfl, rfl⟩

end Forms

section Legible

variable {printable : Char → Bool} {v w : Value φ} {rest rest' : List Char}

theorem kind_eq_of_writtenWith
    (h : v.writtenWith printable ++ rest = w.writtenWith printable ++ rest') : v.kind = w.kind := by
  obtain ⟨unit, text, hform, hkind⟩ := exists_writtenWith_eq_cons printable v
  obtain ⟨unit', text', hform', hkind'⟩ := exists_writtenWith_eq_cons printable w
  rw [hform, hform', List.cons_append, List.cons_append, List.cons.injEq] at h
  rw [h.1, hkind', Option.some.injEq] at hkind
  exact hkind.symm

/-- No written form begins with a closing bracket. -/
theorem writtenWith_append_ne_cons {unit : Char} (hunit : Kind.ofUnit? unit = none) :
    v.writtenWith printable ++ rest ≠ unit :: rest' := by
  obtain ⟨first, text, hform, hkind⟩ := exists_writtenWith_eq_cons printable v
  rw [hform]
  rintro ⟨⟩
  cases hunit.symm.trans hkind

theorem closes_bracket {unit : Char} (hunit : Kind.ofUnit? unit = none)
    (hcomma : unit ≠ ',') (rest : List Char) :
    Closes (writtenWith printable : Value φ → List Char) (unit :: rest) where
  noDigit := by
    refine noDigit_cons ?_ rest
    by_contra hdigit
    rw [Kind.ofUnit?_of_isDigit (Bool.not_eq_false _ ▸ hdigit)] at hunit
    cases hunit
  noForm _ _ := writtenWith_append_ne_cons hunit
  noComma _ h := hcomma (List.cons.inj h).1.symm

theorem closes_tupleEnd (items : List (Value φ)) (rest : List Char) :
    Closes (writtenWith printable : Value φ → List Char) (tupleEnd items ++ rest) := by
  match items with
  | [] => exact closes_bracket rfl (by decide) rest
  | [item] =>
    refine ⟨noDigit_cons rfl _, fun _ _ => writtenWith_append_ne_cons rfl, ?_⟩
    rintro rest' ⟨⟩
  | item :: next :: items => exact closes_bracket rfl (by decide) rest

theorem closes_brace (rest : List Char) :
    Closes (writtenEntry printable : Value φ × Value φ → List Char) ('\x7d' :: rest) where
  noDigit := noDigit_cons rfl rest
  noForm entry rest' := by
    rw [writtenEntry, List.append_assoc]
    exact writtenWith_append_ne_cons rfl
  noComma _ := nofun

theorem legible_writtenEntry {key value : Value φ}
    (hkey : Legible (writtenWith printable) key) (hvalue : Legible (writtenWith printable) value) :
    Legible (writtenEntry printable) (key, value) := by
  rintro ⟨key', value'⟩ rest rest' hrest hrest' h
  simp only [writtenEntry, List.append_assoc, List.cons_append] at h
  obtain ⟨rfl, hvalues⟩ := hkey (noDigit_cons rfl _) (noDigit_cons rfl _) h
  simp only [List.cons.injEq, true_and] at hvalues
  obtain ⟨rfl, hrests⟩ := hvalue hrest hrest' hvalues
  exact ⟨rfl, hrests⟩

-- Functions all have one form. They are the values that must not occur: that an integer is within
-- the limit is not needed, nor that the other value can be written.
mutual
/-- The written form of a value that can be written is legible. -/
theorem legible_writtenWith : ∀ v : Value φ, v.unwritable? = none →
    Legible (writtenWith printable) v
  | .nothing => by
    intro _ w rest rest' _ _ h
    match w, kind_eq_of_writtenWith h with
    | .nothing, _ => exact ⟨rfl, List.append_cancel_left h⟩
  | .bool b => by
    intro _ w rest rest' _ _ h
    match w, kind_eq_of_writtenWith h with
    | .bool b', _ =>
      -- the first units of the two words differ
      cases b <;> cases b'
      · exact ⟨rfl, List.append_cancel_left h⟩
      · cases h
      · cases h
      · exact ⟨rfl, List.append_cancel_left h⟩
  | .int n => by
    intro _ w rest rest' hrest hrest' h
    match w, kind_eq_of_writtenWith h with
    | .int m, _ =>
      obtain ⟨rfl, hrests⟩ := Text.legible_writeInteger n hrest hrest' h
      exact ⟨rfl, hrests⟩
  | .text t => by
    intro _ w rest rest' _ _ h
    match w, kind_eq_of_writtenWith h with
    | .text u, _ =>
      obtain ⟨htext, hrests⟩ := Text.quotedWith_append_inj h
      exact ⟨congrArg _ (String.toList_inj.1 htext), hrests⟩
  | .list items => by
    intro hwritable w rest rest' _ _ h
    match w, kind_eq_of_writtenWith h with
    | .list others, _ =>
      simp only [writtenWith_list, List.cons_append, List.append_assoc, List.nil_append,
        List.cons.injEq, true_and] at h
      obtain ⟨rfl, hrests⟩ := separated_append_inj (legible_items items hwritable)
        (closes_bracket rfl (by decide) _) (closes_bracket rfl (by decide) _) h
      exact ⟨rfl, (List.cons.inj hrests).2⟩
  | .tuple items => by
    intro hwritable w rest rest' _ _ h
    match w, kind_eq_of_writtenWith h with
    | .tuple others, _ =>
      simp only [writtenWith_tuple, List.cons_append, List.append_assoc, List.cons.injEq,
        true_and] at h
      obtain ⟨rfl, hrests⟩ := separated_append_inj (legible_items items hwritable)
        (closes_tupleEnd items _) (closes_tupleEnd others _) h
      exact ⟨rfl, List.append_cancel_left hrests⟩
  | .dict entries => by
    intro hwritable w rest rest' _ _ h
    match w, kind_eq_of_writtenWith h with
    | .dict others, _ =>
      simp only [writtenWith_dict, List.cons_append, List.append_assoc, List.nil_append,
        List.cons.injEq, true_and] at h
      obtain ⟨rfl, hrests⟩ := separated_append_inj (legible_entries entries hwritable)
        (closes_brace _) (closes_brace _) h
      exact ⟨rfl, (List.cons.inj hrests).2⟩
  | .function _ => by
    intro hwritable
    cases hwritable

theorem legible_items : ∀ items : List (Value φ), unwritableItems? items = none →
    ∀ item ∈ items, Legible (writtenWith printable) item
  | [] => fun _ => nofun
  | item :: items => by
    intro hwritable
    obtain ⟨hitem, hitems⟩ := Option.or_eq_none_iff.1 hwritable
    exact List.forall_mem_cons.2 ⟨legible_writtenWith item hitem, legible_items items hitems⟩

theorem legible_entries : ∀ entries : List (Value φ × Value φ), unwritableEntries? entries = none →
    ∀ entry ∈ entries, Legible (writtenEntry printable) entry
  | [] => fun _ => nofun
  | (key, value) :: entries => by
    intro hwritable
    obtain ⟨hentry, hentries⟩ := Option.or_eq_none_iff.1 hwritable
    obtain ⟨hkey, hvalue⟩ := Option.or_eq_none_iff.1 hentry
    exact List.forall_mem_cons.2 ⟨legible_writtenEntry (legible_writtenWith key hkey)
      (legible_writtenWith value hvalue), legible_entries entries hentries⟩
end

end Legible

end Value

/-! ## Cursors and outcomes -/

section Outcomes

variable {printable : Char → Bool} {rest rest' : List Char}

/-- A written cursor is told from every other one, whatever stands behind the two. -/
theorem Cursor.writtenWith_append_inj {c d : Cursor}
    (h : c.writtenWith printable ++ rest = d.writtenWith printable ++ rest') :
    c = d ∧ rest = rest' := by
  unfold Cursor.writtenWith at h
  simp only [List.append_assoc] at h
  obtain ⟨hsource, hpositions⟩ := Text.quotedWith_append_inj (List.append_cancel_left h)
  obtain ⟨hpos, hrests⟩ := Text.legible_writeInteger c.pos (noDigit_cons rfl _)
    (noDigit_cons rfl _) (List.append_cancel_left hpositions)
  exact ⟨Cursor.ext (Array.toList_inj.1 hsource) (Int.ofNat.inj hpos), (List.cons.inj hrests).2⟩

namespace Outcome

/-- The written forms of a match and of a failure begin with different units. -/
theorem writtenWith_matched_ne_failed (v : Value φ) (c : Cursor) (failure : Failure) :
    (matched v c).writtenWith printable ≠
      (failed failure : Outcome (Value φ)).writtenWith printable := by
  intro h
  cases congrArg List.head? h

/-- Only the first outcome has to be one that can be written. -/
theorem eq_of_writtenWith {a b : Outcome (Value φ)} (ha : a.unwritable? = none)
    (h : a.writtenWith printable = b.writtenWith printable) : a = b := by
  cases a with
  | matched v c =>
    cases b with
    | matched w d =>
      unfold writtenWith at h
      simp only [List.append_assoc] at h
      obtain ⟨rfl, hcursors⟩ := Value.legible_writtenWith v ha (noDigit_comma _)
        (noDigit_comma _) (List.append_cancel_left h)
      obtain ⟨rfl, -⟩ := Cursor.writtenWith_append_inj (List.append_cancel_left hcursors)
      rfl
    | failed failure => exact absurd h (writtenWith_matched_ne_failed v c failure)
  | failed failure =>
    cases b with
    | matched w d => exact absurd h.symm (writtenWith_matched_ne_failed w d failure)
    | failed other =>
      unfold writtenWith at h
      simp only [List.append_assoc] at h
      obtain ⟨hexpected, hcursors⟩ := Text.quotedWith_append_inj (List.append_cancel_left h)
      obtain ⟨hcursor, -⟩ := Cursor.writtenWith_append_inj (List.append_cancel_left hcursors)
      obtain ⟨expected, c⟩ := failure
      obtain ⟨expected', d⟩ := other
      rw [show expected = expected' from String.toList_inj.1 hexpected, show c = d from hcursor]

theorem written_eq_ok {a : Outcome (Value φ)} (ha : a.unwritable? = none) :
    a.written = .ok (String.ofList (a.writtenWith Text.isPrintable)) := by
  rw [written, ha]

/-- Outcomes have a written form each, and if the two are the same text then the outcomes are one:
the same constructor with the same value or message, the same source and the same position. This
does not depend on which units are taken for printable. -/
theorem written_tells_apart {a b : Outcome (Value φ)} (ha : a.unwritable? = none)
    (hb : b.unwritable? = none) :
    (∃ text text', a.written = .ok text ∧ b.written = .ok text' ∧ (text = text' → a = b)) ∧
      ∀ printable, a.writtenWith printable = b.writtenWith printable → a = b := by
  refine ⟨⟨_, _, written_eq_ok ha, written_eq_ok hb, fun htexts => ?_⟩, fun printable h => ?_⟩
  · exact eq_of_writtenWith ha (String.ofList_inj.1 htexts)
  · exact eq_of_writtenWith ha h

/-- A text that reads like the rest of a list is not taken for it. -/
theorem written_tells_item_from_two :
    let c : Cursor := Cursor.start #['x']
    let one : Outcome (Value Empty) := .matched (.list [.text "a', 'b", .int (-1)]) c
    let two : Outcome (Value Empty) := .matched (.list [.text "a", .text "b", .int (-1)]) c
    one.unwritable? = none ∧ two.unwritable? = none ∧
      ∃ text text', one.written = .ok text ∧ two.written = .ok text' ∧ text ≠ text' := by
  intro c one two
  have hone : one.unwritable? = none := by decide +kernel
  have htwo : two.unwritable? = none := by decide +kernel
  have hne : one ≠ two := by simp [one, two]
  obtain ⟨⟨text, text', hwritten, hwritten', hsame⟩, -⟩ := written_tells_apart hone htwo
  exact ⟨hone, htwo, text, text', hwritten, hwritten', fun htexts => hne (hsame htexts)⟩

end Outcome

end Outcomes

end Descent
