-- SUMMARY: A quoted text can be told from every other one, whatever stands behind it.
import Mathlib.Tactic.IntervalCases
import Descent.Text.Quoted

/-!
# Escapes

Each unit of a quoted text is read back by `Text.readUnit`: from the unit itself, from the
letter behind a backslash, or from the code point in as many hexadecimal digits as the letter
says. No unit begins with the quote in use, so the quote that ends a text is its first one, and
a quoted text is told from every other one even if more follows. Nothing is assumed about the
set of printable units.
-/

namespace Descent.Text

/-! ## Hexadecimal digits -/

/-- The number that a hexadecimal digit stands for. -/
def hexDigitValue (c : Char) : Nat :=
  if c.toNat < 'a'.toNat then c.toNat - '0'.toNat else c.toNat - 'a'.toNat + 10

/-- The number that a hexadecimal numeral stands for. -/
def hexValue (numeral : List Char) : Nat :=
  numeral.foldl (fun value c => 16 * value + hexDigitValue c) 0

theorem hexDigitValue_hexDigit {n : Nat} (h : n < 16) : hexDigitValue (hexDigit n) = n := by
  interval_cases n <;> rfl

theorem length_hexDigits (n width : Nat) : (hexDigits n width).length = width := by
  induction width generalizing n with
  | zero => rfl
  | succ width ih => simp [hexDigits, ih]

theorem hexValue_hexDigits {n width : Nat} (h : n < 16 ^ width) :
    hexValue (hexDigits n width) = n := by
  induction width generalizing n with
  | zero =>
    rw [Nat.pow_zero, Nat.lt_one_iff] at h
    rw [h]
    rfl
  | succ width ih =>
    have hrest : hexValue (hexDigits (n / 16) width) = n / 16 :=
      ih (Nat.div_lt_of_lt_mul (by rwa [Nat.pow_succ'] at h))
    have hlast : hexDigitValue (hexDigit (n % 16)) = n % 16 :=
      hexDigitValue_hexDigit (Nat.mod_lt n (by decide))
    rw [hexDigits, hexValue, List.foldl_append, List.foldl_cons, List.foldl_nil, hlast]
    change 16 * hexValue (hexDigits (n / 16) width) + n % 16 = n
    rw [hrest, Nat.div_add_mod]

/-! ## Units -/

/-- The unit of a code point in so many hexadecimal digits, and what stands behind it. -/
def readCodePoint (width : Nat) (text : List Char) : Char × List Char :=
  (Char.ofNat (hexValue (text.take width)), text.drop width)

theorem readCodePoint_hexDigits {c : Char} {width : Nat} (h : c.toNat < 16 ^ width)
    (rest : List Char) : readCodePoint width (hexDigits c.toNat width ++ rest) = (c, rest) := by
  have hlength := length_hexDigits c.toNat width
  rw [readCodePoint, List.take_left' hlength, List.drop_left' hlength, hexValue_hexDigits h,
    Char.ofNat_toNat]

/-- The unit that a quoted text goes on with, and what stands behind it. -/
def readUnit : List Char → Option (Char × List Char)
  | '\\' :: 'n' :: rest => some ('\n', rest)
  | '\\' :: 'r' :: rest => some ('\r', rest)
  | '\\' :: 't' :: rest => some ('\t', rest)
  | '\\' :: 'x' :: rest => some (readCodePoint 2 rest)
  | '\\' :: 'u' :: rest => some (readCodePoint 4 rest)
  | '\\' :: 'U' :: rest => some (readCodePoint 8 rest)
  | '\\' :: c :: rest => some (c, rest)
  | c :: rest => some (c, rest)
  | [] => none

theorem readUnit_codePointEscape (c : Char) (rest : List Char) :
    readUnit (codePointEscape c ++ rest) = some (c, rest) := by
  unfold codePointEscape
  split_ifs with hbyte hpair
  · exact congrArg some (readCodePoint_hexDigits hbyte rest)
  · exact congrArg some (readCodePoint_hexDigits hpair rest)
  · exact congrArg some (readCodePoint_hexDigits c.val.toNat_lt rest)

theorem readUnit_plain {c : Char} (h : c ≠ '\\') (rest : List Char) :
    readUnit (c :: rest) = some (c, rest) := by
  unfold readUnit
  split <;> simp_all

section Quote

variable {printable : Char → Bool} {quote : Char}

/-- Each unit is read back from the way it stands between quotes. -/
theorem readUnit_quotedUnit (hquote : quote = '\'' ∨ quote = '"') (c : Char) (rest : List Char) :
    readUnit (quotedUnit printable quote c ++ rest) = some (c, rest) := by
  unfold quotedUnit
  split_ifs with hescaped hfeed hreturn htab hascii hprintable
  · obtain rfl | rfl : c = quote ∨ c = '\\' := by simpa using hescaped
    · rcases hquote with rfl | rfl <;> rfl
    · rfl
  · rw [hfeed]
    rfl
  · rw [hreturn]
    rfl
  · rw [htab]
    rfl
  · exact readUnit_plain (fun h => hescaped (by simp [h])) rest
  · exact readUnit_plain (fun h => hescaped (by simp [h])) rest
  · exact readUnit_codePointEscape c rest

/-- No unit begins with the quote in use. -/
theorem quotedUnit_ne_quote_cons (hquote : quote = '\'' ∨ quote = '"') (c : Char)
    (rest rest' : List Char) : quotedUnit printable quote c ++ rest ≠ quote :: rest' := by
  have hbackslash : '\\' ≠ quote := by
    rcases hquote with rfl | rfl <;> decide
  unfold quotedUnit codePointEscape
  split_ifs with hescaped
  all_goals simp_all

theorem flatMap_quotedUnit_inj (hquote : quote = '\'' ∨ quote = '"') {s t rest rest' : List Char}
    (h : s.flatMap (quotedUnit printable quote) ++ quote :: rest =
      t.flatMap (quotedUnit printable quote) ++ quote :: rest') : s = t ∧ rest = rest' := by
  induction s generalizing t with
  | nil =>
    cases t with
    | nil => exact ⟨rfl, by simpa using h⟩
    | cons d t =>
      rw [List.flatMap_cons, List.append_assoc] at h
      exact absurd h.symm (quotedUnit_ne_quote_cons hquote d _ _)
  | cons c s ih =>
    rw [List.flatMap_cons, List.append_assoc] at h
    cases t with
    | nil => exact absurd h (quotedUnit_ne_quote_cons hquote c _ _)
    | cons d t =>
      rw [List.flatMap_cons, List.append_assoc] at h
      have hread := congrArg readUnit h
      rw [readUnit_quotedUnit hquote, readUnit_quotedUnit hquote, Option.some.injEq,
        Prod.mk.injEq] at hread
      obtain ⟨rfl, htail⟩ := hread
      obtain ⟨rfl, hrest⟩ := ih htail
      exact ⟨rfl, hrest⟩

end Quote

/-! ## Quoted texts -/

theorem quoteFor_eq (text : List Char) : quoteFor text = '\'' ∨ quoteFor text = '"' := by
  unfold quoteFor
  split
  · exact .inr rfl
  · exact .inl rfl

/-- A quoted text is told from every other one, whatever stands behind the two. -/
theorem quotedWith_append_inj {printable : Char → Bool} {s t rest rest' : List Char}
    (h : quotedWith printable s ++ rest = quotedWith printable t ++ rest') :
    s = t ∧ rest = rest' := by
  simp only [quotedWith, List.cons_append, List.append_assoc, List.nil_append,
    List.cons.injEq] at h
  obtain ⟨hquote, hunits⟩ := h
  rw [← hquote] at hunits
  exact flatMap_quotedUnit_inj (quoteFor_eq s) hunits

end Descent.Text
