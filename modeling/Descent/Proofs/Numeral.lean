-- SUMMARY: Numbers are read as the positional value of the longest run of digits, with its sign.
import Mathlib.Data.List.Induction
import Mathlib.Data.Nat.Digits.Defs
import Mathlib.Tactic.IntervalCases
import Descent.Proofs.Total
import Descent.Lexeme.Number

/-!
# Numerals

A number takes every digit that follows. What it is read as depends on that run of
digits alone: there is no number without one, a run beyond the limit is refused, and
every other run is read as its positional value. An integer may have a minus sign in
front of it; if no digit follows, the minus sign is given back, and what is reported is
the unit behind it.

Writing an integer and reading it again gives the integer, as long as what is behind it
does not go on with a digit.
-/

namespace Descent

/-! ## Digits and their value -/

namespace Text

/-- The value of a numeral is that of its digits by position, the last one first. -/
theorem numeralValue_eq_ofDigits (numeral : List Char) :
    numeralValue numeral = Nat.ofDigits 10 (numeral.reverse.map digitValue) := by
  induction numeral using List.reverseRecOn with
  | nil => rfl
  | append_singleton numeral c ih =>
    rw [numeralValue_concat, ih, List.reverse_append]
    simp [Nat.ofDigits_cons, Nat.add_comm]

/-- Writing a number in decimal and taking the value gives the number. -/
theorem numeralValue_toDigits (n : Nat) : numeralValue (Nat.toDigits 10 n) = n :=
  Nat.ofDigitChars_toDigits (by decide) (by decide)

theorem isDigit_of_mem_toDigits {n : Nat} {c : Char} (h : c ∈ Nat.toDigits 10 n) :
    isDigit c = true := by
  have hdigit : c.isDigit = true := Nat.isDigit_of_mem_toDigits (by decide) (by decide) h
  obtain ⟨hlow, hhigh⟩ : 48 ≤ c.toNat ∧ c.toNat ≤ 57 := by
    simpa [Char.isDigit, UInt32.le_iff_toNat_le] using hdigit
  rw [← Char.ofNat_toNat c]
  generalize c.toNat = code at *
  interval_cases code <;> decide

theorem toList_writeInteger_of_nonneg {n : Int} (h : 0 ≤ n) :
    (writeInteger n).toList = Nat.toDigits 10 n.natAbs := by
  obtain ⟨m, rfl⟩ := Int.eq_ofNat_of_zero_le h
  exact Nat.toList_repr

theorem toList_writeInteger_of_neg {n : Int} (h : n < 0) :
    (writeInteger n).toList = '-' :: Nat.toDigits 10 n.natAbs := by
  obtain ⟨m, rfl⟩ := Int.eq_negSucc_of_lt_zero h
  change ("-" ++ Nat.repr (m + 1)).toList = _
  rw [String.toList_append, Nat.toList_repr]
  rfl

end Text

namespace Lexeme

open Descent.Parser

variable {ν : Type} {ρ : ν → Type} {c d : Cursor}

/-! ## What is read at a cursor -/

/-- How a run ends that reads a numeral at a cursor: with its value, multiplied by the
sign, or with a failure that is reported at `start` if there is no digit, or with a
fault if there are too many. -/
def decoded (start : Cursor) (sign : Int) (c : Cursor) : Ending (Outcome Int) :=
  let digits := c.remaining.takeWhile Text.isDigit
  if digits = [] then
    .returned (.failed ⟨missingUnit "expected digit" c, start⟩)
  else if digits.length ≤ digitLimit then
    .returned (.matched (sign * (Nat.ofDigits 10 (digits.reverse.map Text.digitValue) : Nat))
      (c.skip digits.length))
  else
    .raised (.longNumeral digits.length)

section Decoded

variable {start : Cursor} {sign : Int}

theorem decoded_of_none (h : c.remaining.takeWhile Text.isDigit = []) :
    decoded start sign c = .returned (.failed ⟨missingUnit "expected digit" c, start⟩) := if_pos h

theorem decoded_of_some (h : c.remaining.takeWhile Text.isDigit ≠ [])
    (hlength : (c.remaining.takeWhile Text.isDigit).length ≤ digitLimit) :
    decoded start sign c = .returned (.matched
      (sign * Text.numeralValue (c.remaining.takeWhile Text.isDigit))
      (c.skip (c.remaining.takeWhile Text.isDigit).length)) := by
  rw [Text.numeralValue_eq_ofDigits]
  exact (if_neg h).trans (if_pos hlength)

theorem decoded_of_long (h : digitLimit < (c.remaining.takeWhile Text.isDigit).length) :
    decoded start sign c =
      .raised (.longNumeral (c.remaining.takeWhile Text.isDigit).length) := by
  have hsome : c.remaining.takeWhile Text.isDigit ≠ [] :=
    List.ne_nil_of_length_pos (Nat.zero_lt_of_lt h)
  exact (if_neg hsome).trans (if_neg (Nat.not_le.2 h))

/-- What is behind a run of digits does not matter if it does not go on with one. -/
theorem decoded_of_append {digits after : List Char} (hc : c.remaining = digits ++ after)
    (hdigits : ∀ unit ∈ digits, Text.isDigit unit = true) (hne : digits ≠ [])
    (hafter : ∀ unit ∈ after.head?, Text.isDigit unit = false)
    (hlength : digits.length ≤ digitLimit) :
    decoded start sign c =
      .returned (.matched (sign * Text.numeralValue digits) (c.skip digits.length)) := by
  have hrun : c.remaining.takeWhile Text.isDigit = digits := by
    rw [hc, takeWhile_append_of_head hdigits hafter]
  rw [← hrun] at hne hlength ⊢
  exact decoded_of_some hne hlength

end Decoded

section Contracts

variable {env : ∀ n, Reading (ρ n)} {F : Failure → Prop} {E : Fault → Prop}

theorem meets_natural {Q : Int → Cursor → Prop}
    (hQ : c.remaining.takeWhile Text.isDigit ≠ [] →
      (c.remaining.takeWhile Text.isDigit).length ≤ digitLimit →
      Q (Text.numeralValue (c.remaining.takeWhile Text.isDigit))
        (c.skip (c.remaining.takeWhile Text.isDigit).length))
    (hF : c.remaining.takeWhile Text.isDigit = [] → F ⟨missingUnit "expected digit" c, c⟩)
    (hE : digitLimit < (c.remaining.takeWhile Text.isDigit).length →
      E (.longNumeral (c.remaining.takeWhile Text.isDigit).length)) :
    ((natural : Parser ν ρ Int).reading env).Meets c Q F E := by
  refine Reading.Meets.convert (meets_oneOrMore_oneOf_missing (fun hrun => ?_) hF)
  unfold Text.readNumeral
  split
  · rename_i hlength
    exact Action.meets_pure (hQ hrun hlength)
  · rename_i hlength
    exact Action.meets_raise (hE (Nat.lt_of_not_le hlength))

/-- The number of an integer, multiplied by the sign that is read before it. A failure is
moved to the start, where it may be already. -/
theorem meets_natural_signed {f : Int → Except Fault Int} {sign : Int}
    (hf : ∀ n, f n = .ok (sign * n)) (hcd : c ≤ d) :
    ((natural.convert f : Parser ν ρ Int).reading env).Meets d
      (fun value after => .returned (.matched value after) = decoded c sign d)
      (fun failure => c ≤ failure.cursor ∧
        .returned (.failed ⟨failure.expected, c⟩) = decoded c sign d)
      (fun fault => .raised fault = decoded c sign d) := by
  refine Reading.Meets.convert (meets_natural (fun hrun hlength => ?_) (fun hrun => ?_)
    fun hlength => (decoded_of_long hlength).symm)
  · rw [hf]
    exact Action.meets_pure (decoded_of_some hrun hlength).symm
  · exact ⟨hcd, (decoded_of_none hrun).symm⟩

/-- The sign of an integer, as the function that it stands for. -/
theorem meets_sign {Q : (Int → Except Fault Int) → Cursor → Prop}
    (hminus : c.current? = some '-' → Q (signed (some "-")) (c.skip 1))
    (hnone : c.current? ≠ some '-' → Q (signed none) c) :
    ((((Parser.optional ((literal "-").map some) none).map signed) :
      Parser ν ρ (Int → Except Fault Int)).reading env).Meets c Q F E := by
  have hliteral : "-" = String.singleton '-' := rfl
  refine meets_map (Reading.Meets.orElse_inPlace (meets_map ?_))
  rw [hliteral]
  exact meets_literal_singleton hminus fun h => ⟨rfl, Reading.meets_yield (hnone h)⟩

end Contracts

theorem natural_avoids {excluded : Set (Feature ν)} :
    (natural : Parser ν ρ Int).Avoids excluded := by
  simp [natural, digitUnit, oneOf, satisfy, satisfyOver, oneOrMore, map, Avoids]

theorem ends_natural (g : Grammar ν ρ) (c : Cursor) :
    (natural : Parser ν ρ Int).Ends g c (decoded c 1 c) := by
  refine ends_of_meets natural_avoids fun env => meets_natural (fun hrun hlength => ?_)
    (fun hrun => (decoded_of_none hrun).symm) fun hlength => (decoded_of_long hlength).symm
  rw [decoded_of_some hrun hlength, Int.one_mul]

theorem integer_avoids {excluded : Set (Feature ν)} :
    (integer : Parser ν ρ Int).Avoids excluded := by
  simp [integer, apply, Parser.optional, map, natural_avoids, Avoids]

theorem ends_integer (g : Grammar ν ρ) (c : Cursor) :
    (integer : Parser ν ρ Int).Ends g c
      (if c.current? = some '-' then decoded c (-1) (c.skip 1) else decoded c 1 c) := by
  refine ends_of_meets integer_avoids fun env => Reading.Meets.rewind_of_le ?_
  refine Reading.Meets.onMatch (meets_sign (fun hminus => ?_) fun hnone => ?_) fun _ _ h => h
  · rw [if_pos hminus]
    exact meets_natural_signed (fun n => congrArg _ (Int.neg_one_mul n).symm) (c.le_skip 1)
  · rw [if_neg hnone]
    exact meets_natural_signed (fun n => congrArg _ (Int.one_mul n).symm) (le_refl c)

/-! ## Written integers -/

section Written

variable {sign : Int} {m : Nat} {after : List Char}

/-- The digits of a number are decoded to the number. -/
theorem decoded_toDigits {start : Cursor} (hc : c.remaining = Nat.toDigits 10 m ++ after)
    (hafter : ∀ unit ∈ after.head?, Text.isDigit unit = false)
    (hlength : (Nat.toDigits 10 m).length ≤ digitLimit) :
    decoded start sign c =
      .returned (.matched (sign * m) (c.skip (Nat.toDigits 10 m).length)) := by
  rw [decoded_of_append hc (fun _ => Text.isDigit_of_mem_toDigits) Nat.toDigits_ne_nil hafter
    hlength, Text.numeralValue_toDigits]

/-- The digits of a number do not begin with a minus sign. -/
theorem current?_ne_minus (hc : c.remaining = Nat.toDigits 10 m ++ after) :
    c.current? ≠ some '-' := by
  obtain ⟨unit, rest, hdigits⟩ : ∃ unit rest, Nat.toDigits 10 m = unit :: rest :=
    List.exists_cons_of_ne_nil Nat.toDigits_ne_nil
  have hunit : Text.isDigit unit = true :=
    Text.isDigit_of_mem_toDigits (hdigits ▸ List.mem_cons_self)
  rw [Cursor.current?_eq_head?, hc, hdigits]
  rintro ⟨⟩
  cases hunit

end Written

theorem ends_integer_written (g : Grammar ν ρ) {n : Int}
    (hlength : (Nat.toDigits 10 n.natAbs).length ≤ digitLimit) (before : List Char)
    {after : List Char} (hafter : ∀ unit ∈ after.head?, Text.isDigit unit = false) :
    (integer : Parser ν ρ Int).Ends g (.between before ((Text.writeInteger n).toList ++ after))
      (.returned (.matched n (.between (before ++ (Text.writeInteger n).toList) after))) := by
  have hends : (integer : Parser ν ρ Int).Ends g
    (.between before ((Text.writeInteger n).toList ++ after)) _ := ends_integer g _
  rw [← Cursor.skip_between]
  rcases Int.lt_or_le n 0 with hneg | hnonneg
  · have hwritten := Text.toList_writeInteger_of_neg hneg
    have hminus : (Cursor.between before ((Text.writeInteger n).toList ++ after)).current? =
        some '-' := by simp [Cursor.current?_eq_head?, hwritten]
    have hdigits : ((Cursor.between before ((Text.writeInteger n).toList ++ after)).skip
        1).remaining = Nat.toDigits 10 n.natAbs ++ after := by simp [hwritten]
    have hvalue : (-1) * (n.natAbs : Int) = n := by omega
    have hskip : 1 + (Nat.toDigits 10 n.natAbs).length = (Text.writeInteger n).toList.length := by
      rw [hwritten, List.length_cons, Nat.add_comm]
    rwa [if_pos hminus, decoded_toDigits hdigits hafter hlength, hvalue, Cursor.skip_skip, hskip]
      at hends
  · have hwritten := Text.toList_writeInteger_of_nonneg hnonneg
    have hdigits : (Cursor.between before ((Text.writeInteger n).toList ++ after)).remaining =
        Nat.toDigits 10 n.natAbs ++ after := by simp [hwritten]
    have hvalue : 1 * (n.natAbs : Int) = n := by omega
    rwa [if_neg (current?_ne_minus hdigits), decoded_toDigits hdigits hafter hlength, hvalue,
      ← hwritten] at hends

/-- Numbers are decoded by position. A natural number is the run of digits at its start;
an integer is the run of digits there or behind a minus sign, and without a digit it fails
at its start. So an integer of at most `digitLimit` digits that is written in front of a
text that does not begin with a digit is read back, and nothing of the text is. The failure
names the unit in place of the digit and its position. -/
theorem integer_decodes (g : Grammar ν ρ) :
    (∀ c, (natural : Parser ν ρ Int).Ends g c (decoded c 1 c)) ∧
    (∀ c, (integer : Parser ν ρ Int).Ends g c
      (if c.current? = some '-' then decoded c (-1) (c.skip 1) else decoded c 1 c)) ∧
    (∀ c : Cursor, missingUnit "expected digit" c =
      match c.current? with
      | none => "expected unit; end of input"
      | some unit => "expected digit; actual: \"" ++ String.singleton unit ++ "\"; index=" ++
          toString c.pos) ∧
    ∀ n : Int, (Text.writeInteger n.natAbs).length ≤ digitLimit → ∀ before after : List Char,
      (∀ unit ∈ after.head?, Text.isDigit unit = false) →
      (integer : Parser ν ρ Int).Ends g
        (.between before ((Text.writeInteger n).toList ++ after))
        (.returned (.matched n (.between (before ++ (Text.writeInteger n).toList) after))) := by
  refine ⟨ends_natural g, ends_integer g, missingUnit_eq "expected digit",
    fun n hlength before after hafter => ?_⟩
  rw [← String.length_toList, Text.toList_writeInteger_of_nonneg (Int.natCast_nonneg _),
    Int.natAbs_natCast] at hlength
  exact ends_integer_written g hlength before hafter

/-- A negative number between a bracket and a unit. -/
theorem integer_decodes_negative :
    (integer : Parser Unit (fun _ => Unit) Int).Ends (fun _ => .pure ())
      (.between ['('] ['-', '4', '2', 'x'])
      (.returned (.matched (-42) (.between ['(', '-', '4', '2'] ['x']))) := by
  have hlength : (Text.writeInteger (Int.natAbs (-42))).length ≤ digitLimit := by decide
  have hafter : ∀ unit ∈ ['x'].head?, Text.isDigit unit = false := by
    rintro _ ⟨⟩
    rfl
  exact (integer_decodes fun _ => .pure ()).2.2.2 (-42) hlength ['('] ['x'] hafter

end Lexeme

end Descent
