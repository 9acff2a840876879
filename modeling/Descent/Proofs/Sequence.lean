-- SUMMARY: The sequences of fixed length and the sequence of a list, and which parsers they call.
import Descent.Proofs.Execution
import Descent.Script.Description

/-!
# Sequences

The sequence of a list is a loop, and the sequences of two to five parsers add one item at a
time to a tuple; both are the same recursion along the parsers. So they agree item by item,
and the sequence of a list may be cut anywhere. An item may be a tuple itself, of a type or
as a value of a script: it is one item of the whole, and not as many as it has items.

These are equations between readings. Both sides end in the same way and write the same
journal, for all cursors and settings; and since nothing is assumed about the parsers,
they may be watched ones, so both sides make the same calls.
-/

namespace Descent

variable {ν : Type} {ρ : ν → Type} {α β γ δ ε τ : Type}

/-! ## Going on after a match -/

namespace Reading

/-- The journal of a reading that goes on after a match is the one up to there, and then
the one from there on. -/
theorem journal_onMatch (p : Reading α) (next : α → Reading β) (c : Cursor) (s : Settings) :
    (p.onMatch next c s).journal = (p c s).journal ++
      match (p c s).ending with
      | .returned (.matched value after) => (next value after s).journal
      | _ => [] := by
  simp only [onMatch, Action.bind_apply]
  rcases p c s with ⟨journal, (⟨value, after⟩ | failure) | fault | _⟩ <;>
    simp [Run.after, Action.pure_apply]

end Reading

namespace Parser

variable {env : ∀ n, Reading (ρ n)}

theorem reading_bind (p : Parser ν ρ α) (next : α → Parser ν ρ β) : (p.bind next).reading env =
    (p.reading env).onMatch fun value => (next value).reading env := rfl

theorem reading_map (p : Parser ν ρ α) (f : α → β) :
    (p.map f).reading env = (p.reading env).onMatch fun value => Reading.yield (f value) := rfl

theorem journal_map (p : Parser ν ρ α) (f : α → β) (c : Cursor) (s : Settings) :
    ((p.map f).reading env c s).journal = (p.reading env c s).journal := by
  rw [reading_map, Reading.journal_onMatch]
  rcases p.reading env c s with ⟨journal, (⟨value, after⟩ | failure) | fault | _⟩ <;>
    exact List.append_nil journal

theorem reading_map_id (p : Parser ν ρ α) : (p.map id).reading env = p.reading env :=
  Reading.onMatch_yield _

/-! ## The sequence of a list -/

/-- The sequence of a list is that of a first part of it, and then that of the rest. -/
theorem reading_sequenceAll_append (ps qs : List (Parser ν ρ α)) :
    (sequenceAll (ps ++ qs)).reading env =
      ((sequenceAll ps).bind fun values => (sequenceAll qs).map (values ++ ·)).reading env := by
  rw [reading_sequenceAll, List.map_append, Reading.inOrder_append, ← reading_sequenceAll,
    ← reading_sequenceAll]
  rfl

theorem reading_single (p : Parser ν ρ α) (f : α → τ) :
    (p.map fun a => [f a]).reading env = (sequenceAll [p.map f]).reading env := by
  simp only [reading_sequenceAll_cons, reading_sequenceAll_nil, reading_map,
    Reading.onMatch_assoc, Reading.yield_onMatch]

/-! ## Sequences of fixed length -/

/-- If a parser of tuples is the sequence of a list, then with one more item at the end of
the tuples it is the sequence of the list with one more parser at its end. -/
theorem reading_extend {types : List Type} {p : Parser ν ρ (Tuple types)}
    {items : Tuple types → List τ} {items' : Tuple (types ++ [β]) → List τ}
    {ps : List (Parser ν ρ τ)} (hp : (p.map items).reading env = (sequenceAll ps).reading env)
    (q : Parser ν ρ β) (g : β → τ)
    (hitems : ∀ values value, items' (values.concat value) = items values ++ [g value]) :
    ((extend p q).map items').reading env = (sequenceAll (ps ++ [q.map g])).reading env := by
  rw [reading_sequenceAll_append, reading_bind, ← hp]
  simp only [extend, reading_bind, reading_map, ← reading_single, Reading.onMatch_assoc,
    Reading.yield_onMatch, hitems]

section Fixed

variable (p : Parser ν ρ α) (q : Parser ν ρ β) (r : Parser ν ρ γ) (t : Parser ν ρ δ)
  (u : Parser ν ρ ε) (f : α → τ) (g : β → τ) (h : γ → τ) (k : δ → τ) (l : ε → τ)

theorem reading_sequence2 : ((sequence2 p q).map fun (a, b, ()) => [f a, g b]).reading env =
    (sequenceAll [p.map f, q.map g]).reading env := by
  simp only [sequence2, reading_sequenceAll_cons, reading_sequenceAll_nil, reading_bind,
    reading_map, Reading.onMatch_assoc, Reading.yield_onMatch]

theorem reading_sequence3 :
    ((sequence3 p q r).map fun (a, b, c, ()) => [f a, g b, h c]).reading env =
      (sequenceAll [p.map f, q.map g, r.map h]).reading env :=
  reading_extend (reading_sequence2 p q f g) r h fun _ _ => rfl

theorem reading_sequence4 :
    ((sequence4 p q r t).map fun (a, b, c, d, ()) => [f a, g b, h c, k d]).reading env =
      (sequenceAll [p.map f, q.map g, r.map h, t.map k]).reading env :=
  reading_extend (reading_sequence3 p q r f g h) t k fun _ _ => rfl

theorem reading_sequence5 :
    ((sequence5 p q r t u).map fun (a, b, c, d, e, ()) => [f a, g b, h c, k d, l e]).reading env =
      (sequenceAll [p.map f, q.map g, r.map h, t.map k, u.map l]).reading env :=
  reading_extend (reading_sequence4 p q r t f g h k) u l fun _ _ => rfl

end Fixed

/-! ## Tuples as values -/

theorem reading_sequenceAll_map_id (ps : List (Parser ν ρ α)) :
    (sequenceAll (ps.map fun p => p.map id)).reading env = (sequenceAll ps).reading env := by
  rw [reading_sequenceAll, reading_sequenceAll, List.map_map]
  exact congrArg Reading.inOrder (List.map_congr_left fun p _ => reading_map_id p)

/-- If a parser of tuples is the sequence of a list of parsers, item by item, then it is so with
its values and those of the sequence made into another kind of value. -/
theorem reading_map_items {p : Parser ν ρ α} {items : α → List τ} {ps : List (Parser ν ρ τ)}
    (hp : (p.map items).reading env = (sequenceAll (ps.map fun p => p.map id)).reading env)
    (f : List τ → β) :
    (p.map fun a => f (items a)).reading env = ((sequenceAll ps).map f).reading env := by
  rw [reading_map (sequenceAll ps), ← reading_sequenceAll_map_id, ← hp]
  simp only [reading_map, Reading.onMatch_assoc, Reading.yield_onMatch]

/-- The sequences that scripts have are those of two to five parsers, each with the values of
its parsers as the items of one tuple. -/
theorem reading_sequenceOf (env : String → Reading Script.Item)
    (ps : List Script.ScriptParser) :
    (∃ p, Script.Description.sequenceOf ps = .ok p ∧
      p.reading env = ((sequenceAll ps).map Value.tuple).reading env) ↔
    2 ≤ ps.length ∧ ps.length ≤ 5 := by
  match ps with
  | [] | [_] => exact iff_of_false nofun nofun
  | [p, q] =>
    refine iff_of_true ⟨_, rfl, ?_⟩ (by simp)
    exact reading_map_items (reading_sequence2 p q id id) Value.tuple
  | [p, q, r] =>
    refine iff_of_true ⟨_, rfl, ?_⟩ (by simp)
    exact reading_map_items (reading_sequence3 p q r id id id) Value.tuple
  | [p, q, r, t] =>
    refine iff_of_true ⟨_, rfl, ?_⟩ (by simp)
    exact reading_map_items (reading_sequence4 p q r t id id id id) Value.tuple
  | [p, q, r, t, u] =>
    refine iff_of_true ⟨_, rfl, ?_⟩ (by simp)
    exact reading_map_items (reading_sequence5 p q r t u id id id id id) Value.tuple
  | _ :: _ :: _ :: _ :: _ :: _ :: _ => exact iff_of_false nofun (by simp)

/-! ## Calls -/

/-- The calls of a sequence, from a cursor on: each parser with the cursor behind the match
of the one before it, up to the first parser that does not match. -/
def calls (env : ∀ n, Reading (ρ n)) (s : Settings) :
    Cursor → List (Parser ν ρ α) → List (Parser ν ρ α × Cursor)
  | _, [] => []
  | c, p :: ps =>
    (p, c) :: match (p.reading env c s).ending with
      | .returned (.matched _ after) => calls env s after ps
      | _ => []

/-- A sequence writes down what its calls write down, one after another. -/
theorem journal_sequenceAll (env : ∀ n, Reading (ρ n)) (ps : List (Parser ν ρ α)) (c : Cursor)
    (s : Settings) : ((sequenceAll ps).reading env c s).journal =
      (calls env s c ps).flatMap fun (p, d) => (p.reading env d s).journal := by
  induction ps generalizing c with
  | nil => rfl
  | cons p ps ih =>
    rw [reading_sequenceAll_cons, Reading.journal_onMatch, calls, List.flatMap_cons]
    congr 1
    cases (p.reading env c s).ending with
    | returned outcome =>
      cases outcome with
      | matched value d => exact (journal_map (sequenceAll ps) (value :: ·) d s).trans (ih d)
      | failed failure => rfl
    | raised fault => rfl
    | exhausted => rfl

/-- The sequences of two to five parsers are the sequence of the list of these parsers, with
its values as a flat tuple instead of a list: the tuple has one item for each parser, in their
order, also where an item is a tuple itself. Items of different types are put into one type to
be in a list; for the values of scripts, which are of one type, the tuple has the values of the
list as they are.

The sequence of two lists in a row is that of the first one, and then that of the second one;
the sequence of no parsers matches in place. What is called is each parser of the list behind
the match of the one before it, up to the first one that does not match. -/
theorem sequences_agree (env : ∀ n, Reading (ρ n)) (p : Parser ν ρ α) (q : Parser ν ρ β)
    (r : Parser ν ρ γ) (t : Parser ν ρ δ) (u : Parser ν ρ ε) (f : α → τ) (g : β → τ) (h : γ → τ)
    (k : δ → τ) (l : ε → τ) (ps qs : List (Parser ν ρ τ)) (names : String → Reading Script.Item)
    (scripts : List Script.ScriptParser) :
    ((sequence2 p q).map fun (a, b, ()) => [f a, g b]).reading env =
        (sequenceAll [p.map f, q.map g]).reading env ∧
      ((sequence3 p q r).map fun (a, b, c, ()) => [f a, g b, h c]).reading env =
        (sequenceAll [p.map f, q.map g, r.map h]).reading env ∧
      ((sequence4 p q r t).map fun (a, b, c, d, ()) => [f a, g b, h c, k d]).reading env =
        (sequenceAll [p.map f, q.map g, r.map h, t.map k]).reading env ∧
      ((sequence5 p q r t u).map fun (a, b, c, d, e, ()) =>
          [f a, g b, h c, k d, l e]).reading env =
        (sequenceAll [p.map f, q.map g, r.map h, t.map k, u.map l]).reading env ∧
      ((∃ p, Script.Description.sequenceOf scripts = .ok p ∧
          p.reading names = ((sequenceAll scripts).map Value.tuple).reading names) ↔
        2 ≤ scripts.length ∧ scripts.length ≤ 5) ∧
      (sequenceAll (ps ++ qs)).reading env =
        ((sequenceAll ps).bind fun values => (sequenceAll qs).map (values ++ ·)).reading env ∧
      ∀ c s, (sequenceAll ([] : List (Parser ν ρ τ))).reading env c s =
          ⟨[], .returned (.matched [] c)⟩ ∧
        (∀ values after, ((sequenceAll ps).reading env c s).ending =
          .returned (.matched values after) → values.length = ps.length) ∧
        ((sequenceAll ps).reading env c s).journal =
          (calls env s c ps).flatMap fun (p, d) => (p.reading env d s).journal :=
  ⟨reading_sequence2 p q f g, reading_sequence3 p q r f g h, reading_sequence4 p q r t f g h k,
    reading_sequence5 p q r t u f g h k l, reading_sequenceOf names scripts,
    reading_sequenceAll_append ps qs, fun c s => ⟨rfl,
      fun _ _ hrun => length_eq_of_sequenceAll hrun, journal_sequenceAll env ps c s⟩⟩

/-- A pair in the last place is the third of three items, and not the last two of four. -/
example (names : String → Reading Script.Item) (a b c d : Script.Item) (start : Cursor)
    (s : Settings) : ∃ pair triple,
      Script.Description.sequenceOf [.pure c, .pure d] = .ok pair ∧
      Script.Description.sequenceOf [.pure a, .pure b, pair] = .ok triple ∧
      triple.reading names start s =
        ⟨[], .returned (.matched (.tuple [a, b, .tuple [c, d]]) start)⟩ :=
  ⟨_, _, rfl, rfl, rfl⟩

end Parser

end Descent
