-- SUMMARY: Relations between two runs that every combinator respects, and runs with larger budgets.
import Descent.Proofs.Forward
import Descent.Proofs.InOrder

/-!
# Simulations

Two runs of one parser, with different settings or with different meanings of
the names, are compared by a relation between runs. If the relation is respected
by sequencing and by what the combinators write down, it is respected by every
parser: `Simulation.reading` is the only induction over parsers that such a
comparison takes.

Two relations are made here. A run extends another one if it is the same run, or
the other one ran out of budget and has written down a first part of its journal:
so it is for a larger budget. Two runs agree on a view of the journal if they end
in the same way and the views are equal.
-/

namespace Descent

variable {ν : Type} {ρ : ν → Type} {α β σ ω : Type}

/-- A run, followed by the run chosen from its result if it returns. -/
def Run.andThen (run : Run α) (next : α → Run β) : Run β :=
  match run with
  | ⟨journal, .returned result⟩ => (next result).after journal
  | ⟨journal, .raised fault⟩ => ⟨journal, .raised fault⟩
  | ⟨journal, .exhausted⟩ => ⟨journal, .exhausted⟩

/-- A relation between runs with settings `s` and runs with settings `s'` that
sequencing and journals respect. Either the budgets are the same, or they grow
and a run that is out of budget is related to every run. -/
structure Simulation (s s' : Settings) where
  rel : ∀ {α : Type}, Run α → Run α → Prop
  ended : ∀ {α : Type} (ending : Ending α), rel ⟨[], ending⟩ ⟨[], ending⟩
  andThen : ∀ {α β : Type} {r r' : Run α} {next next' : α → Run β}, rel r r' →
    (∀ result, rel (next result) (next' result)) → rel (r.andThen next) (r'.andThen next')
  record : ∀ decision, rel (Action.record decision s) (Action.record decision s')
  visit : ∀ mark name c, rel (Action.visit mark name c s) (Action.visit mark name c s')
  budgets : s.budget = s'.budget ∨
    s.budget ≤ s'.budget ∧ ∀ {α : Type} (r : Run α), rel ⟨[], .exhausted⟩ r

namespace Simulation

variable {s s' : Settings}

/-! ## Actions -/

section Actions

variable (S : Simulation s s')

theorem pure (result : α) :
    S.rel ((Pure.pure result : Action α) s) ((Pure.pure result : Action α) s') := S.ended _

theorem ofExcept (e : Except Fault α) : S.rel (Action.ofExcept e s) (Action.ofExcept e s') := by
  cases e with
  | ok result => exact S.ended _
  | error fault => exact S.ended _

variable {S}

theorem bind {a a' : Action α} {next next' : α → Action β} (ha : S.rel (a s) (a' s'))
    (hnext : ∀ result, S.rel (next result s) (next' result s')) :
    S.rel ((a >>= next) s) ((a' >>= next') s') := S.andThen ha hnext

/-- The rule of loops, for the same number of turns or for a larger one. -/
theorem loop {turn turn' : σ → Action (Action.Turn σ β)} {spent : σ → Ending β}
    (hturn : ∀ state, S.rel (turn state s) (turn' state s')) {turns turns' : Nat}
    (hturns : turns = turns' ∨
      turns ≤ turns' ∧ ∀ (state : σ) (r : Run β), S.rel ⟨[], spent state⟩ r) (state : σ) :
    S.rel (Action.loop turn spent turns state s) (Action.loop turn' spent turns' state s') := by
  induction turns generalizing turns' state with
  | zero =>
    obtain rfl | ⟨-, hleast⟩ := hturns
    · exact S.ended _
    · exact hleast state _
  | succ left ih =>
    obtain ⟨left', rfl⟩ : ∃ left', turns' = left' + 1 := by
      exact ⟨turns' - 1, by omega⟩
    have hleft : left = left' ∨
        left ≤ left' ∧ ∀ (state : σ) (r : Run β), S.rel ⟨[], spent state⟩ r :=
      hturns.imp (fun h => by omega) fun h => ⟨by omega, h.2⟩
    rw [Action.loop_succ, Action.loop_succ]
    refine bind (hturn state) fun next => ?_
    cases next with
    | again state => exact ih hleft state
    | done result => exact S.pure result

end Actions

/-! ## Readings -/

section Readings

variable {S : Simulation s s'} {p p' : Reading α}

theorem onMatch {next next' : α → Reading β} {c : Cursor} (hp : S.rel (p c s) (p' c s'))
    (hnext : ∀ value d, S.rel (next value d s) (next' value d s')) :
    S.rel (p.onMatch next c s) (p'.onMatch next' c s') := by
  refine bind hp fun outcome => ?_
  cases outcome with
  | matched value after => exact hnext value after
  | failed failure => exact S.pure _

theorem inOrder {ps ps' : List (Reading α)}
    (hps : List.Forall₂ (fun p p' => ∀ c, S.rel (p c s) (p' c s')) ps ps') (c : Cursor) :
    S.rel (Reading.inOrder ps c s) (Reading.inOrder ps' c s') :=
  Reading.inOrder_related (R := fun p p' => ∀ c, S.rel (p c s) (p' c s')) (fun _ _ => S.pure _)
    (fun hp hnext c => onMatch (hp c) hnext) hps c

theorem onFailure {next next' : Failure → Action (Outcome α)} {c : Cursor}
    (hp : S.rel (p c s) (p' c s')) (hnext : ∀ failure, S.rel (next failure s) (next' failure s')) :
    S.rel (p.onFailure next c s) (p'.onFailure next' c s') := by
  refine bind hp fun outcome => ?_
  cases outcome with
  | matched value after => exact S.pure _
  | failed failure => exact hnext failure

theorem orElse {q q' : Reading α} {c : Cursor} (hp : S.rel (p c s) (p' c s'))
    (hq : S.rel (q c s) (q' c s')) : S.rel (p.orElse q c s) (p'.orElse q' c s') := by
  refine onFailure hp fun failure => ?_
  split
  · exact bind (S.record _) fun _ => hq
  · exact bind (S.record _) fun _ => S.pure _

theorem rewind {c : Cursor} (hp : S.rel (p c s) (p' c s')) :
    S.rel (p.rewind c s) (p'.rewind c s') := by
  refine onFailure hp fun failure => ?_
  split
  · exact S.pure _
  · exact bind (S.record _) fun _ => S.pure _

theorem zeroOrMore (hp : ∀ c, S.rel (p c s) (p' c s')) (c : Cursor) :
    S.rel (p.zeroOrMore c s) (p'.zeroOrMore c s') := by
  refine loop (fun (state : Reading.Collected α) => bind (hp state.cursor) fun outcome => ?_) ?_ _
  · cases outcome with
    | matched value after =>
      simp only
      split
      · exact S.ended _
      · exact S.pure _
    | failed failure => exact bind (S.record _) fun _ => S.pure _
  · exact S.budgets.imp id fun h => ⟨h.1, fun _ => h.2⟩

theorem upTo {count : Nat} (hp : ∀ c, S.rel (p c s) (p' c s')) (c : Cursor) :
    S.rel (p.upTo count c s) (p'.upTo count c s') := by
  refine loop (fun (state : Reading.Collected α) => ?_) (.inl rfl) _
  refine bind (hp state.cursor) fun outcome => ?_
  cases outcome with
  | matched value after => exact S.pure _
  | failed failure => exact S.pure _

theorem spy {name : String} {c : Cursor} (hp : S.rel (p c s) (p' c s')) :
    S.rel (p.spy name c s) (p'.spy name c s') :=
  bind (S.visit _ _ _) fun _ => bind hp fun _ => bind (S.visit _ _ _) fun _ => S.pure _

end Readings

/-! ## Parsers and grammars -/

variable {S : Simulation s s'}

/-- Runs of a parser are related if the runs of the names are. -/
theorem reading {env env' : ∀ n, Reading (ρ n)}
    (henv : ∀ n c, S.rel (env n c s) (env' n c s')) (p : Parser ν ρ α) (c : Cursor) :
    S.rel (p.reading env c s) (p.reading env' c s') := by
  induction p generalizing c with
  | endOfInput => exact S.pure _
  | anyUnit =>
    obtain ⟨outcome, houtcome⟩ := (Reading.answers_everywhere c).1
    simp only [Parser.reading]
    rw [houtcome]
    exact S.pure outcome
  | literal text =>
    obtain ⟨outcome, houtcome⟩ := (Reading.answers_everywhere c).2 text
    simp only [Parser.reading]
    rw [houtcome]
    exact S.pure outcome
  | fail expected => exact S.pure _
  | pure value => exact S.pure _
  | convert p f ih => exact onMatch (ih c) fun _ _ => bind (S.ofExcept _) fun _ => S.pure _
  | check expected p accepts ih =>
    refine onMatch (ih c) fun _ _ => bind (S.ofExcept _) fun accepted => ?_
    split
    · exact S.pure _
    · exact bind (S.ofExcept _) fun _ => S.pure _
  | mapFailure p f ih => exact onFailure (ih c) fun _ => bind (S.ofExcept _) fun _ => S.pure _
  | withExpected p expected ih => exact onFailure (ih c) fun _ => S.pure _
  | bind p next ih ihnext => exact onMatch (ih c) fun value d => ihnext value d
  | inOrder ps ih => exact inOrder (forall₂_ofFn ih) c
  | orElse first second ihfirst ihsecond => exact orElse (ihfirst c) (ihsecond c)
  | rewind p ih => exact rewind (ih c)
  | zeroOrMore p ih => exact zeroOrMore ih c
  | upTo p count ih => exact upTo ih c
  | ref name => exact henv name c
  | custom read => exact S.ofExcept _
  | spy name p ih => exact spy (ih c)

theorem names (g : Grammar ν ρ) {depth depth' : Nat} (hdepth : depth = depth' ∨
    depth ≤ depth' ∧ ∀ {α : Type} (r : Run α), S.rel ⟨[], .exhausted⟩ r) (n : ν) (c : Cursor) :
    S.rel (g.names depth n c s) (g.names depth' n c s') := by
  induction depth generalizing depth' n c with
  | zero =>
    obtain rfl | ⟨-, hleast⟩ := hdepth
    · exact S.ended _
    · exact hleast _
  | succ depth ih =>
    obtain ⟨rest, rfl⟩ : ∃ rest, depth' = rest + 1 := ⟨depth' - 1, by omega⟩
    have hrest : depth = rest ∨
        depth ≤ rest ∧ ∀ {α : Type} (r : Run α), S.rel ⟨[], .exhausted⟩ r :=
      hdepth.imp (fun h => by omega) fun h => ⟨by omega, h.2⟩
    exact reading (fun n c => ih hrest n c) (g n) c

theorem runAt (S : Simulation s s') (p : Parser ν ρ α) (g : Grammar ν ρ) (c : Cursor) :
    S.rel (p.runAt g c s) (p.runAt g c s') :=
  reading (fun n c => names g S.budgets n c) p c

end Simulation

/-! ## Larger budgets -/

/-- Whether a run is the same as another one, or goes on with the journal with
which the other one ran out of budget. -/
def Run.Extends (r' r : Run α) : Prop :=
  r' = r ∨ (r.ending = .exhausted ∧ r.journal <+: r'.journal)

theorem Run.Extends.andThen {r r' : Run α} {next next' : α → Run β} (hr : r'.Extends r)
    (hnext : ∀ result, (next' result).Extends (next result)) :
    (r'.andThen next').Extends (r.andThen next) := by
  rcases hr with rfl | ⟨hend, hjournal⟩
  · rcases r' with ⟨journal, result | fault | _⟩
    · rcases hnext result with heq | ⟨hend, hjournal⟩
      · exact .inl (by simp [Run.andThen, heq])
      · refine .inr ⟨hend, ?_⟩
        simpa [Run.andThen, Run.after] using hjournal
    · exact .inl rfl
    · exact .inl rfl
  · rcases r with ⟨journal, ending⟩
    obtain rfl : ending = .exhausted := hend
    refine .inr ⟨rfl, hjournal.trans ?_⟩
    rcases r' with ⟨journal', result | fault | _⟩ <;> simp [Run.andThen, Run.after]

/-- Runs with larger budgets extend those with smaller ones. -/
def Simulation.extension {s s' : Settings} (hdebug : s.debug = s'.debug)
    (hbudget : s.budget ≤ s'.budget) : Simulation s s' where
  rel r r' := r'.Extends r
  ended _ := .inl rfl
  andThen := Run.Extends.andThen
  record _ := .inl (by simp [Action.record, hdebug])
  visit _ _ _ := .inl rfl
  budgets := .inr ⟨hbudget, fun _ => .inr ⟨rfl, List.nil_prefix⟩⟩

namespace Parser

variable {p : Parser ν ρ α} {g : Grammar ν ρ} {c : Cursor}

/-- A larger budget lets a run go on where it stopped, if it stopped for want of
budget, and changes nothing else. -/
theorem extends_runAt {s s' : Settings} (hdebug : s.debug = s'.debug)
    (hbudget : s.budget ≤ s'.budget) : (p.runAt g c s').Extends (p.runAt g c s) :=
  (Simulation.extension hdebug hbudget).runAt p g c

/-- Whether a run comes to an end: from some budget on it is one and the same
run, with an outcome or with a fault. -/
def Terminates (p : Parser ν ρ α) (g : Grammar ν ρ) (debug : Bool) (c : Cursor) : Prop :=
  ∃ run budget, run.ending ≠ .exhausted ∧
    ∀ larger, budget ≤ larger → p.runAt g c { debug, budget := larger } = run

/-- One budget that is not spent is enough. -/
theorem terminates_of_budget {debug : Bool} {budget : Nat}
    (h : (p.runAt g c { debug, budget }).ending ≠ .exhausted) : p.Terminates g debug c := by
  refine ⟨p.runAt g c { debug, budget }, budget, h, fun larger hlarger => ?_⟩
  have hextends : (p.runAt g c { debug, budget := larger }).Extends
      (p.runAt g c { debug, budget }) := extends_runAt rfl hlarger
  rcases hextends with heq | ⟨hend, -⟩
  · exact heq
  · exact absurd hend h

theorem terminates_iff {debug : Bool} :
    p.Terminates g debug c ↔ ∃ budget, (p.runAt g c { debug, budget }).ending ≠ .exhausted := by
  constructor
  · rintro ⟨run, budget, hend, hrun⟩
    exact ⟨budget, hrun budget (Nat.le_refl budget) ▸ hend⟩
  · rintro ⟨budget, hend⟩
    exact terminates_of_budget hend

end Parser

/-! ## Views of the journal -/

/-- Runs that end in the same way and whose journals look the same, for a way of
looking that takes journals entry by entry. -/
def Simulation.agreement {s s' : Settings} (view : Journal → List ω)
    (happend : ∀ j k, view (j ++ k) = view j ++ view k)
    (hrecord : ∀ decision, view (Action.record decision s).journal =
      view (Action.record decision s').journal)
    (hbudget : s.budget = s'.budget) : Simulation s s' where
  rel r r' := r.ending = r'.ending ∧ view r.journal = view r'.journal
  ended _ := ⟨rfl, rfl⟩
  andThen := by
    rintro α β ⟨journal, ending⟩ ⟨journal', ending'⟩ next next' ⟨hend, hview⟩ hnext
    obtain rfl : ending = ending' := hend
    cases ending with
    | returned result =>
      obtain ⟨hend, hview'⟩ := hnext result
      have hjournal : view journal = view journal' := hview
      exact ⟨hend, by simp [Run.andThen, Run.after, happend, hview', hjournal]⟩
    | raised fault => exact ⟨rfl, hview⟩
    | exhausted => exact ⟨rfl, hview⟩
  record decision := ⟨rfl, hrecord decision⟩
  visit _ _ _ := ⟨rfl, rfl⟩
  budgets := .inl hbudget

end Descent
