-- SUMMARY: Which faults can leave a run whose user's functions refuse nothing that they are given.
import Mathlib.Data.List.Induction
import Mathlib.Data.List.TakeWhile
import Descent.Proofs.InOrder
import Descent.Proofs.Munch
import Descent.Grammar
import Descent.Lexeme.Number
import Descent.Lexeme.Word
import Descent.Lexeme.Quoted
import Descent.Value.Written

/-!
# Safety

`Parser.Unrefusing named p post` says that no function, predicate or mapping of
failures in `p` refuses a value that it can be given, and that every value of a
match of `p` has the property `post`. The properties `named` are what the values
of the names are known to have. A function is only asked about the values that
it may meet: what a test has let through, what an earlier function has made, what
the parser of a name produces.

The one function of the library that refuses values, the reading of numerals, has
a rule of its own. With it, a run of such a parser stops with a fault in two
cases only: a repetition whose body matches in place, and a numeral beyond the
limit on digits. Failures mapped to arbitrary places do not change that.
-/

namespace Descent

variable {ν : Type} {ρ : ν → Type} {α β γ δ : Type}

/-! ## Numerals within the limit -/

namespace Text

theorem numeralValue_lt {numeral : List Char} (h : ∀ c ∈ numeral, isDigit c = true) :
    numeralValue numeral < Nat.pow 10 numeral.length := by
  induction numeral using List.reverseRecOn with
  | nil => exact Nat.one_pos
  | append_singleton numeral c ih =>
    have hvalue : numeralValue numeral < Nat.pow 10 numeral.length :=
      ih fun d hd => h d (List.mem_append_left _ hd)
    have hdigit : digitValue c < 10 :=
      digitValue_lt (h c (List.mem_append_right _ (List.mem_singleton_self c)))
    have hpow : Nat.pow 10 (numeral.length + 1) = Nat.pow 10 numeral.length * 10 := rfl
    rw [numeralValue_concat, List.length_append, List.length_singleton, hpow]
    omega

/-- The limit is a variable here, because the power is too large to be computed. -/
theorem decide_numeralValue_lt {limit : Nat} {numeral : List Char}
    (h : ∀ c ∈ numeral, isDigit c = true) (hlength : numeral.length ≤ limit) :
    decide ((numeralValue numeral : Int).natAbs < Nat.pow 10 limit) = true := by
  have hpow : Nat.pow 10 numeral.length ≤ Nat.pow 10 limit :=
    Nat.pow_le_pow_right (by decide) hlength
  exact decide_eq_true (Nat.lt_of_lt_of_le (numeralValue_lt h) hpow)

/-- What a numeral is read as can be written again. -/
theorem isWritable_of_readNumeral {numeral : List Char} {n : Int}
    (h : ∀ c ∈ numeral, isDigit c = true) (hread : readNumeral numeral = .ok n) :
    0 ≤ n ∧ isWritable n = true := by
  unfold readNumeral at hread
  split at hread
  · rename_i hlength
    cases hread
    exact ⟨Int.natCast_nonneg _, decide_numeralValue_lt h hlength⟩
  · cases hread

theorem isWritable_neg (n : Int) : isWritable (-n) = isWritable n :=
  congrArg (fun size : Nat => decide (size < Nat.pow 10 digitLimit)) (Int.natAbs_neg n)

end Text

/-! ## Parsers whose functions refuse nothing -/

/-- Whether no function of the user refuses a value that it can be given while
the parser runs, and every match has a value with the property. -/
inductive Parser.Unrefusing (named : ∀ n, ρ n → Prop) :
    {α : Type} → Parser ν ρ α → (α → Prop) → Prop where
  | endOfInput {post : Unit → Prop} : post () → Unrefusing named .endOfInput post
  | anyUnit {post : Char → Prop} : (∀ unit, post unit) → Unrefusing named .anyUnit post
  | literal {text : String} {post : String → Prop} :
      post text → Unrefusing named (.literal text) post
  | fail {α : Type} {expected : String} {post : α → Prop} : Unrefusing named (.fail expected) post
  | pure {α : Type} {value : α} {post : α → Prop} :
      post value → Unrefusing named (.pure value) post
  | convert {α β : Type} {p : Parser ν ρ α} {f : α → Except Fault β} {post : β → Prop} :
      Unrefusing named p (fun value => ∃ result, f value = .ok result ∧ post result) →
      Unrefusing named (.convert p f) post
  /-- A tested value has to be shown only if it is rejected. -/
  | check {α : Type} [Display α] {expected : String} {p : Parser ν ρ α}
      {accepts : α → Except Fault Bool} {post : α → Prop} :
      Unrefusing named p (fun value => (accepts value = .ok true ∧ post value) ∨
        (accepts value = .ok false ∧ ∃ shown, display value = .ok shown)) →
      Unrefusing named (.check expected p accepts) post
  | mapFailure {α : Type} {p : Parser ν ρ α} {f : Failure → Except Fault Failure}
      {post : α → Prop} :
      Unrefusing named p post → (∀ failure, ∃ mapped, f failure = .ok mapped) →
      Unrefusing named (.mapFailure p f) post
  | withExpected {α : Type} {p : Parser ν ρ α} {expected : String} {post : α → Prop} :
      Unrefusing named p post → Unrefusing named (.withExpected p expected) post
  | bind {α β : Type} {p : Parser ν ρ α} {next : α → Parser ν ρ β} {mid : α → Prop}
      {post : β → Prop} :
      Unrefusing named p mid → (∀ value, mid value → Unrefusing named (next value) post) →
      Unrefusing named (.bind p next) post
  /-- The parts of a sequence may each have a property of their own. -/
  | inOrder {α : Type} {count : Nat} {ps : Fin count → Parser ν ρ α} {item : Fin count → α → Prop}
      {post : List α → Prop} :
      (∀ i, Unrefusing named (ps i) (item i)) →
      (∀ values : Fin count → α, (∀ i, item i (values i)) → post (List.ofFn values)) →
      Unrefusing named (.inOrder ps) post
  | orElse {α : Type} {first second : Parser ν ρ α} {post : α → Prop} :
      Unrefusing named first post → Unrefusing named second post →
      Unrefusing named (.orElse first second) post
  | rewind {α : Type} {p : Parser ν ρ α} {post : α → Prop} :
      Unrefusing named p post → Unrefusing named (.rewind p) post
  | zeroOrMore {α : Type} {p : Parser ν ρ α} {item : α → Prop} {post : List α → Prop} :
      Unrefusing named p item → (∀ values, (∀ value ∈ values, item value) → post values) →
      Unrefusing named (.zeroOrMore p) post
  | upTo {α : Type} {p : Parser ν ρ α} {count : Nat} {item : α → Prop} {post : List α → Prop} :
      Unrefusing named p item →
      (∀ values, values.length ≤ count → (∀ value ∈ values, item value) → post values) →
      Unrefusing named (.upTo p count) post
  | ref {n : ν} {post : ρ n → Prop} :
      (∀ value, named n value → post value) → Unrefusing named (.ref n) post
  | spy {α : Type} {name : String} {p : Parser ν ρ α} {post : α → Prop} :
      Unrefusing named p post → Unrefusing named (.spy name p) post
  /-- A natural number is within the limit, or reading it is refused. -/
  | natural {post : Int → Prop} :
      (∀ n, 0 ≤ n → Text.isWritable n = true → post n) →
      Unrefusing named Lexeme.natural post

/-! ### Derived rules -/

namespace Parser.Unrefusing

variable {named : ∀ n, ρ n → Prop} {p : Parser ν ρ α} {q : Parser ν ρ β}

theorem mono {post post' : α → Prop} (hp : p.Unrefusing named post)
    (h : ∀ value, post value → post' value) : p.Unrefusing named post' := by
  induction hp with
  | endOfInput hpost => exact .endOfInput (h _ hpost)
  | anyUnit hpost => exact .anyUnit fun unit => h _ (hpost unit)
  | literal hpost => exact .literal (h _ hpost)
  | fail => exact .fail
  | pure hpost => exact .pure (h _ hpost)
  | convert _ ih =>
    refine .convert (ih ?_)
    rintro value ⟨result, hresult, hpost⟩
    exact ⟨result, hresult, h result hpost⟩
  | check _ ih =>
    refine .check (ih ?_)
    rintro value (⟨haccepts, hpost⟩ | hrejected)
    · exact .inl ⟨haccepts, h value hpost⟩
    · exact .inr hrejected
  | mapFailure _ hf ih => exact .mapFailure (ih h) hf
  | withExpected _ ih => exact .withExpected (ih h)
  | bind hp _ _ ihnext => exact .bind hp fun value hmid => ihnext value hmid h
  | inOrder hps hpost => exact .inOrder hps fun values hvalues => h _ (hpost values hvalues)
  | orElse _ _ ihfirst ihsecond => exact .orElse (ihfirst h) (ihsecond h)
  | rewind _ ih => exact .rewind (ih h)
  | zeroOrMore hp hpost => exact .zeroOrMore hp fun values hvalues => h _ (hpost values hvalues)
  | upTo hp hpost =>
    exact .upTo hp fun values hlength hvalues => h _ (hpost values hlength hvalues)
  | ref hpost => exact .ref fun value hvalue => h _ (hpost value hvalue)
  | spy _ ih => exact .spy (ih h)
  | natural hpost => exact .natural fun n hnonneg hwritable => h n (hpost n hnonneg hwritable)

theorem map {f : α → β} {post : β → Prop} (hp : p.Unrefusing named fun value => post (f value)) :
    (p.map f).Unrefusing named post :=
  .convert (hp.mono fun value hpost => ⟨f value, rfl, hpost⟩)

theorem apply {function : Parser ν ρ (α → Except Fault β)} {pre : α → Prop} {post : β → Prop}
    (hfunction : function.Unrefusing named fun f =>
      ∀ value, pre value → ∃ result, f value = .ok result ∧ post result)
    (hp : p.Unrefusing named pre) : (Parser.apply function p).Unrefusing named post :=
  .bind hfunction fun _ hf => .convert (hp.mono hf)

theorem oneOf {expected : String} {units : Char → Bool} {post : Char → Prop}
    (hpost : ∀ unit, units unit = true → post unit) :
    (oneOf expected units : Parser ν ρ Char).Unrefusing named post := by
  refine .rewind (.check (.anyUnit fun unit => ?_))
  cases hunit : units unit with
  | true => exact .inl ⟨rfl, hpost unit hunit⟩
  | false => exact .inr ⟨rfl, String.singleton unit, rfl⟩

theorem sequence2 {P : α → Prop} {Q : β → Prop} {post : Tuple [α, β] → Prop}
    (hp : p.Unrefusing named P) (hq : q.Unrefusing named Q)
    (hpost : ∀ a b, P a → Q b → post (a, b, ())) : (sequence2 p q).Unrefusing named post :=
  .bind hp fun a ha => map (hq.mono fun b hb => hpost a b ha hb)

theorem extend {types : List Type} {p : Parser ν ρ (Tuple types)} {P : Tuple types → Prop}
    {Q : β → Prop} {post : Tuple (types ++ [β]) → Prop} (hp : p.Unrefusing named P)
    (hq : q.Unrefusing named Q)
    (hpost : ∀ values value, P values → Q value → post (values.concat value)) :
    (extend p q).Unrefusing named post :=
  .bind hp fun values hvalues => map (hq.mono fun value hvalue => hpost values value hvalues hvalue)

theorem sequence3 {r : Parser ν ρ γ} {P : α → Prop} {Q : β → Prop} {R : γ → Prop}
    {post : Tuple [α, β, γ] → Prop} (hp : p.Unrefusing named P) (hq : q.Unrefusing named Q)
    (hr : r.Unrefusing named R) (hpost : ∀ a b c, P a → Q b → R c → post (a, b, c, ())) :
    (sequence3 p q r).Unrefusing named post := by
  have hpq : (Parser.sequence2 p q).Unrefusing named fun (a, b, ()) => P a ∧ Q b :=
    sequence2 hp hq fun _ _ ha hb => ⟨ha, hb⟩
  exact extend hpq hr fun (a, b, ()) c hab hc => hpost a b c hab.1 hab.2 hc

theorem sequenceAll {ps : List (Parser ν ρ α)} {item : α → Prop} {post : List α → Prop}
    (hps : ∀ p ∈ ps, p.Unrefusing named item)
    (hpost : ∀ values, values.length = ps.length → (∀ value ∈ values, item value) → post values) :
    (sequenceAll ps).Unrefusing named post := by
  refine .inOrder (fun i => hps _ (List.getElem_mem _)) fun values hvalues => ?_
  exact hpost _ List.length_ofFn (List.forall_mem_ofFn_iff.2 hvalues)

theorem choice {expected : String} {ps : List (Parser ν ρ α)} {post : α → Prop}
    (hps : ∀ p ∈ ps, p.Unrefusing named post) : (choice expected ps).Unrefusing named post := by
  induction ps with
  | nil => exact .fail
  | cons p ps ih =>
    exact .orElse (hps p List.mem_cons_self) (ih fun q hq => hps q (List.mem_cons_of_mem p hq))

theorem optional {default : α} {post : α → Prop} (hp : p.Unrefusing named post)
    (hpost : post default) : (p.optional default).Unrefusing named post :=
  .orElse hp (.pure hpost)

theorem anyMore (hp : p.Unrefusing named fun _ => True) :
    p.zeroOrMore.Unrefusing named fun _ => True := .zeroOrMore hp fun _ _ => trivial

theorem oneOrMore {item : α → Prop} {post : List α → Prop} (hp : p.Unrefusing named item)
    (hpost : ∀ values, (∀ value ∈ values, item value) → post values) :
    p.oneOrMore.Unrefusing named post := by
  refine .bind hp fun first hfirst => map (.zeroOrMore hp fun values hvalues => ?_)
  refine hpost _ fun value hvalue => ?_
  rcases List.mem_cons.1 hvalue with rfl | hmem
  · exact hfirst
  · exact hvalues value hmem

/-! ### The lexemes -/

theorem digit {post : Int → Prop}
    (hpost : ∀ n, 0 ≤ n → Text.isWritable n = true → post n) :
    (Lexeme.digit : Parser ν ρ Int).Unrefusing named post := by
  refine .convert (oneOf fun unit hunit => ?_)
  have hdigits : ∀ c ∈ [unit], Text.isDigit c = true := fun c hc => List.mem_singleton.1 hc ▸ hunit
  have hread : Text.readNumeral [unit] = .ok (Text.numeralValue [unit]) :=
    if_pos (show 1 ≤ digitLimit by decide)
  obtain ⟨hnonneg, hwritable⟩ := Text.isWritable_of_readNumeral hdigits hread
  exact ⟨_, hread, hpost _ hnonneg hwritable⟩

theorem integer {post : Int → Prop} (hpost : ∀ n, Text.isWritable n = true → post n) :
    (Lexeme.integer : Parser ν ρ Int).Unrefusing named post := by
  have hsigned : ∀ (sign? : Option String) (n : Int), Text.isWritable n = true →
      ∃ result, Lexeme.signed sign? n = .ok result ∧ post result := by
    intro sign? n hn
    refine ⟨_, rfl, hpost _ ?_⟩
    split
    · rw [Text.isWritable_neg]
      exact hn
    · exact hn
  refine .rewind (apply (map (optional (map (.literal ?_)) ?_)) (.natural fun n _ hn => hn))
  · exact hsigned _
  · exact hsigned _

theorem blank {post : Char → Prop} (hpost : ∀ unit, Lexeme.isBlank unit = true → post unit) :
    (Lexeme.blank : Parser ν ρ Char).Unrefusing named post := oneOf hpost

theorem anyBlanks {post : String → Prop} (hpost : ∀ text, post text) :
    (Lexeme.anyBlanks : Parser ν ρ String).Unrefusing named post :=
  map (.zeroOrMore (blank fun _ hunit => hunit) fun _ _ => hpost _)

theorem someBlanks {post : String → Prop} (hpost : ∀ text, post text) :
    (Lexeme.someBlanks : Parser ν ρ String).Unrefusing named post :=
  map (oneOrMore (blank fun _ hunit => hunit) fun _ _ => hpost _)

theorem word {post : String → Prop} (hpost : ∀ text, post text) :
    (Lexeme.word : Parser ν ρ String).Unrefusing named post :=
  map (oneOrMore (oneOf fun _ hunit => hunit) fun _ _ => hpost _)

theorem wordEquals {text : String} {post : String → Prop} (hpost : post text) :
    (Lexeme.wordEquals text : Parser ν ρ String).Unrefusing named post := by
  refine .rewind (.check (word fun found => ?_))
  cases hfound : found == text with
  | true => exact .inl ⟨rfl, beq_iff_eq.1 hfound ▸ hpost⟩
  | false => exact .inr ⟨rfl, found, rfl⟩

theorem lookup {expected : String} {table : Lexeme.Table γ} {post : γ → Prop}
    (hpost : ∀ entry ∈ table.spellings, post entry.1) :
    (Lexeme.lookup expected table : Parser ν ρ γ).Unrefusing named post := by
  refine choice fun p hp => ?_
  obtain ⟨entry, hentry, rfl⟩ := List.mem_map.1 hp
  exact map (wordEquals (hpost entry hentry))

theorem quotedString {quote escape : Char} {escapes : Lexeme.Escapes} {post : String → Prop}
    (hpost : ∀ text, post text) :
    (Lexeme.quotedString quote escape escapes : Parser ν ρ String).Unrefusing named post := by
  have hliteral : ∀ text, (Parser.literal text : Parser ν ρ String).Unrefusing named
      fun _ => True := fun _ => .literal trivial
  have hunit : (Parser.anyUnit : Parser ν ρ Char).Unrefusing named fun _ => True :=
    .anyUnit fun _ => trivial
  have hplain : ∀ expected units, (Parser.oneOf expected units : Parser ν ρ Char).Unrefusing named
      fun _ => True := fun _ _ => oneOf fun _ _ => trivial
  refine map (sequence3 (hliteral _) (anyMore (.orElse ?_ ?_)) (.withExpected (hliteral _))
    fun _ _ _ _ _ _ => hpost _)
  · exact map (sequence2 (hliteral _) hunit fun _ _ _ _ => trivial)
  · exact map (hplain _ _)

end Parser.Unrefusing

/-! ## Faults of the source -/

/-- The faults that the source alone can be the cause of, from a cursor on: a
repetition that stands still somewhere, and a run of digits beyond the limit. -/
def Fault.FromInput (c : Cursor) : Fault → Prop
  | .noProgress pos => c.pos ≤ pos ∧ pos ≤ c.source.size
  | .longNumeral digits => digitLimit < digits ∧
      ∃ d, c ≤ d ∧ (d.remaining.takeWhile Text.isDigit).length = digits
  | _ => False

theorem Fault.FromInput.of_le {c d : Cursor} (h : c ≤ d) {fault : Fault}
    (hfault : fault.FromInput d) : fault.FromInput c := by
  cases fault with
  | noProgress pos => exact ⟨Nat.le_trans h.2 hfault.1, h.1 ▸ hfault.2⟩
  | longNumeral digits =>
    obtain ⟨hlimit, e, hde, hdigits⟩ := hfault
    exact ⟨hlimit, e, h.trans hde, hdigits⟩
  | _ => exact hfault.elim

/-- What a run of such a parser may end with: a match that is not before its
start, with a value as promised, any failure, or a fault of the source. -/
def Reading.Safe (post : α → Prop) (p : Reading α) : Prop :=
  ∀ c, p.Meets c (fun value after => c ≤ after ∧ post value) (fun _ => True) (Fault.FromInput c)

namespace Reading

variable {p : Reading α} {post : α → Prop}

/-- Going on behind a match leaves the source where it was. -/
theorem Meets.safe_after {next : Reading β} {c d : Cursor} {R : β → Prop} (hcd : c ≤ d)
    (hnext : next.Safe R) :
    next.Meets d (fun value after => c ≤ after ∧ R value) (fun _ => True) (Fault.FromInput c) :=
  (hnext d).mono (fun _ _ h => ⟨hcd.trans h.1, h.2⟩) (fun _ => id)
    fun _ => Fault.FromInput.of_le hcd

theorem Safe.onMatch {next : α → Reading β} {R : β → Prop} (hp : p.Safe post)
    (hnext : ∀ value, post value → (next value).Safe R) : (p.onMatch next).Safe R := by
  intro c
  exact Meets.onMatch (hp c) fun value d hvalue =>
    Meets.safe_after hvalue.1 (hnext value hvalue.2)

theorem safe_yield {value : α} (hpost : post value) : (yield value).Safe post :=
  fun c => meets_yield ⟨le_refl c, hpost⟩

/-- The values of a sequence have the properties of its parts, in order. -/
theorem Safe.inOrder {ps : List (Reading α)} {items : List (α → Prop)}
    (hps : List.Forall₂ Safe items ps) :
    (inOrder ps).Safe (List.Forall₂ (fun item value => item value) items) := by
  induction hps with
  | nil => exact safe_yield .nil
  | cons hp _ ih =>
    rw [inOrder_cons]
    exact hp.onMatch fun value hvalue =>
      ih.onMatch fun values hvalues => safe_yield (.cons hvalue hvalues)

theorem Safe.zeroOrMore {item : α → Prop} {R : List α → Prop} (hp : p.Safe item)
    (hR : ∀ values, (∀ value ∈ values, item value) → R values) : p.zeroOrMore.Safe R := by
  intro c
  refine meets_zeroOrMore (fun values d => c ≤ d ∧ ∀ value ∈ values, item value)
    ⟨le_refl c, by simp⟩ ?_
  rintro values d ⟨hcd, hvalues⟩
  refine (Meets.safe_after hcd hp).imp (fun value e hvalue => ?_)
    fun _ _ => ⟨hcd, hR values hvalues⟩
  split
  · exact ⟨hcd.2, hcd.1 ▸ d.pos_le⟩
  · refine ⟨hvalue.1, fun other hother => ?_⟩
    rcases List.mem_append.1 hother with hmem | hmem
    · exact hvalues other hmem
    · exact List.mem_singleton.1 hmem ▸ hvalue.2

theorem Safe.upTo {item : α → Prop} {R : List α → Prop} {count : Nat} (hp : p.Safe item)
    (hR : ∀ values, values.length ≤ count → (∀ value ∈ values, item value) → R values) :
    (p.upTo count).Safe R := by
  intro c
  refine meets_upTo (fun values d => c ≤ d ∧ ∀ value ∈ values, item value)
    ⟨le_refl c, by simp⟩ ?_ fun values d hlength h => ⟨h.1, hR values (Nat.le_of_eq hlength) h.2⟩
  rintro values d hlength ⟨hcd, hvalues⟩
  refine (Meets.safe_after hcd hp).imp (fun value e hvalue => ⟨hvalue.1, fun other hother => ?_⟩)
    fun _ _ => ⟨hcd, hR values (Nat.le_of_lt hlength) hvalues⟩
  rcases List.mem_append.1 hother with hmem | hmem
  · exact hvalues other hmem
  · exact List.mem_singleton.1 hmem ▸ hvalue.2

/-- A natural number is the longest run of digits, and it is refused only if that
run is beyond the limit. -/
theorem safe_natural {env : ∀ n, Reading (ρ n)} {R : Int → Prop}
    (hR : ∀ n, 0 ≤ n → Text.isWritable n = true → R n) :
    ((Lexeme.natural : Parser ν ρ Int).reading env).Safe R := by
  intro c
  refine Meets.convert (Parser.meets_oneOrMore_oneOf (fun _ => ?_) fun _ _ _ => trivial)
  have hdigits : ∀ unit ∈ c.remaining.takeWhile Text.isDigit, Text.isDigit unit = true :=
    fun unit hunit => List.mem_takeWhile_imp hunit
  refine Action.meets_ofExcept (fun n hread => ?_) fun fault hread => ?_
  · obtain ⟨hnonneg, hwritable⟩ := Text.isWritable_of_readNumeral hdigits hread
    exact ⟨Cursor.le_skip _ _, hR n hnonneg hwritable⟩
  · unfold Text.readNumeral at hread
    split at hread
    · cases hread
    · rename_i hlimit
      cases hread
      exact ⟨Nat.lt_of_not_le hlimit, c, le_refl c, rfl⟩

end Reading

/-- A parser whose functions refuse nothing is safe if the names it refers to
are. -/
theorem Parser.Unrefusing.safe_reading {named : ∀ n, ρ n → Prop} {env : ∀ n, Reading (ρ n)}
    (henv : ∀ n, (env n).Safe (named n)) {p : Parser ν ρ α} {post : α → Prop}
    (hp : p.Unrefusing named post) : (p.reading env).Safe post := by
  induction hp with
  | endOfInput hpost =>
    exact fun c => Reading.meets_endOfInput (fun _ => ⟨le_refl c, hpost⟩) fun _ => trivial
  | anyUnit hpost =>
    exact fun c => Reading.meets_anyUnit (fun unit _ _ => ⟨c.le_skip 1, hpost unit⟩)
      fun _ => trivial
  | literal hpost =>
    exact fun c => Reading.meets_literal (fun _ => ⟨c.le_skip _, hpost⟩) fun _ => trivial
  | fail => exact fun c => Reading.meets_fail trivial
  | pure hpost => exact fun c => Reading.meets_yield ⟨le_refl c, hpost⟩
  | convert _ ih =>
    intro c
    refine Reading.Meets.convert ((ih c).imp_match fun value d hvalue => ?_)
    obtain ⟨hcd, result, hresult, hpost⟩ := hvalue
    rw [hresult]
    exact Action.meets_pure ⟨hcd, hpost⟩
  | check _ ih =>
    intro c
    refine Reading.Meets.check ((ih c).imp_match fun value d hvalue => ?_)
    obtain ⟨hcd, ⟨haccepts, hpost⟩ | ⟨haccepts, shown, hshown⟩⟩ := hvalue <;> rw [haccepts]
    · exact Action.meets_pure ⟨fun _ => ⟨hcd, hpost⟩, nofun⟩
    · refine Action.meets_pure ⟨nofun, fun _ => ?_⟩
      rw [hshown]
      exact Action.meets_pure trivial
  | mapFailure _ hf ih =>
    intro c
    refine Reading.Meets.mapFailure ((ih c).imp_failure fun failure _ => ?_)
    obtain ⟨mapped, hmapped⟩ := hf failure
    rw [hmapped]
    exact Action.meets_pure trivial
  | withExpected _ ih =>
    exact fun c => Reading.Meets.withExpected (ih c)
  | bind _ _ ih ihnext => exact ih.onMatch ihnext
  | inOrder _ hpost ih =>
    intro c
    refine (Reading.Safe.inOrder (forall₂_ofFn ih) c).imp_match fun values d hvalues => ?_
    obtain ⟨f, rfl, hf⟩ := exists_ofFn_of_forall₂ hvalues.2
    exact ⟨hvalues.1, hpost f hf⟩
  | orElse _ _ ihfirst ihsecond =>
    intro c
    refine Reading.Meets.orElse ((ihfirst c).imp_failure fun failure _ => ?_)
    split
    · exact ihsecond c
    · trivial
  | rewind _ ih =>
    exact fun c => Reading.Meets.rewind (ih c)
  | zeroOrMore _ hpost ih => exact ih.zeroOrMore hpost
  | upTo _ hpost ih => exact ih.upTo hpost
  | ref hpost => exact fun c => (henv _ c).imp_match fun _ _ h => ⟨h.1, hpost _ h.2⟩
  | spy _ ih => exact fun c => (ih c).spy
  | natural hpost => exact Reading.safe_natural hpost

/-- The names of a grammar are safe at every depth if its parsers refuse
nothing: at depth zero nothing is raised. -/
theorem Grammar.safe_names {named : ∀ n, ρ n → Prop} {g : Grammar ν ρ}
    (hg : ∀ n, (g n).Unrefusing named (named n)) (depth : Nat) (n : ν) :
    (g.names depth n).Safe (named n) := by
  induction depth generalizing n with
  | zero => exact fun _ _ => trivial
  | succ depth ih => exact (hg n).safe_reading ih

namespace Parser

/-- If no function of the user refuses what it is given, a run stops only with a
repetition that stands still or with a numeral beyond the limit; and no cursor
outside of the source is made on the way. -/
theorem fromInput_of_raised {named : ∀ n, ρ n → Prop} {g : Grammar ν ρ} {p : Parser ν ρ α}
    {post : α → Prop} (hg : ∀ n, (g n).Unrefusing named (named n)) (hp : p.Unrefusing named post)
    (c : Cursor) (s : Settings) :
    (∀ fault, (p.runAt g c s).ending = .raised fault → fault.FromInput c) ∧
    ∀ d, (∃ outcome, Reading.anyUnit d = Pure.pure outcome) ∧
      ∀ text, ∃ outcome, Reading.literal text d = Pure.pure outcome := by
  refine ⟨fun fault hrun => ?_, Reading.answers_everywhere⟩
  have hsafe := hp.safe_reading (Grammar.safe_names hg s.budget) c s
  change (p.runAt g c s).ending.Meets _ _ at hsafe
  rw [hrun] at hsafe
  exact hsafe

/-- A number as a value. -/
def numberValue : Parser Unit (fun _ => Value Empty) (Value Empty) := Lexeme.natural.map Value.int

/-- Numbers below a hundred, one after another, with nothing in place of one that
is missing. -/
def smallNumbers : Parser Unit (fun _ => Value Empty) (List (Value Empty)) :=
  ((satisfyOver "expected a small number" (ref ()) fun v =>
    .ok (v.number?.all (· < 100))).optional .nothing).zeroOrMore

/-- The source of a seven and a blank: behind the seven a number is missing, and
the repetition stands still. Integers can be shown since they come from numerals
within the limit, which not all integers do. -/
theorem fromInput_of_smallNumbers :
    (smallNumbers.runAt (fun _ => numberValue) (Cursor.start #['7', ' ']) { budget := 5 }).ending =
        .raised (.noProgress 1) ∧
      Fault.FromInput (Cursor.start #['7', ' ']) (.noProgress 1) := by
  have hrun : (smallNumbers.runAt (fun _ => numberValue) (Cursor.start #['7', ' '])
      { budget := 5 }).ending = .raised (.noProgress 1) := rfl
  let named : Unit → Value Empty → Prop := fun _ v =>
    ∃ n, v = .int n ∧ Text.isWritable n = true
  have hnumber : numberValue.Unrefusing named (named ()) :=
    .map (.natural fun n _ hn => ⟨n, rfl, hn⟩)
  have hsmall : smallNumbers.Unrefusing named fun _ => True := by
    refine .anyMore (.optional (.rewind (.check (.ref ?_))) trivial)
    rintro _ ⟨n, rfl, hn⟩
    cases hless : decide (n < 100) with
    | true => exact .inl ⟨by simpa [Value.number?] using hless, trivial⟩
    | false =>
      have hshown : ∃ shown, (Value.int n : Value Empty).written = .ok shown :=
        ⟨_, by rw [Value.written, Value.unwritable?, if_pos hn]⟩
      exact .inr ⟨by simpa [Value.number?] using hless, hshown⟩
  exact ⟨hrun, (fromInput_of_raised (fun _ => hnumber) hsmall _ _).1 _ hrun⟩

end Parser

end Descent
