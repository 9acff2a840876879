-- SUMMARY: Runs end unless a name is entered where a call of it is still active.
import Mathlib.Data.Finset.Prod
import Mathlib.Data.Finset.Card
import Descent.Proofs.Span
import Descent.Proofs.Execution

/-!
# Termination

The names of a grammar are watched by wrapping each parser in `Parser.spy`, so
that the visits in the journal are the calls of names, properly nested. A call is
a name with the position where it started. As long as no call starts while the
same one is active, there are never more active calls than pairs of a name and a
position; and a repetition takes a turn only for a body that has moved forward.
Both together bound the run, whatever the parsers do inside of a call.
-/

namespace Descent

variable {ν : Type} {ρ : ν → Type} {α β σ : Type}

/-! ## Calls -/

/-- A call of a name: the label of the name and the position where it started. -/
abbrev Call := String × Nat

/-- The active calls after one more visit, the latest first: an entry starts a
call, and every other visit is the end of the latest one. -/
def Visit.update (calls : List Call) (visit : Visit) : List Call :=
  match visit.mark with
  | .enter => (visit.name, visit.cursor.pos) :: calls
  | .matched => calls.tail
  | .failed => calls.tail

/-- The active calls after some visits. -/
def activeAfter (calls : List Call) (visits : List Visit) : List Call :=
  visits.foldl Visit.update calls

theorem activeAfter_append (calls : List Call) (v w : List Visit) :
    activeAfter calls (v ++ w) = activeAfter (activeAfter calls v) w := List.foldl_append

/-- Whether no call starts while the same call is active. -/
def NeverReenters (calls : List Call) : List Visit → Prop
  | [] => True
  | visit :: visits =>
    (visit.mark = .enter → (visit.name, visit.cursor.pos) ∉ calls) ∧
      NeverReenters (visit.update calls) visits

instance NeverReenters.decidable (calls : List Call) :
    (visits : List Visit) → Decidable (NeverReenters calls visits)
  | [] => inferInstanceAs (Decidable True)
  | visit :: visits =>
    have := NeverReenters.decidable (visit.update calls) visits
    inferInstanceAs (Decidable (_ ∧ _))

theorem neverReenters_append {calls : List Call} {v w : List Visit} :
    NeverReenters calls (v ++ w) ↔
      NeverReenters calls v ∧ NeverReenters (activeAfter calls v) w := by
  induction v generalizing calls with
  | nil => simp [NeverReenters, activeAfter]
  | cons visit v ih =>
    have hactive : activeAfter calls (visit :: v) = activeAfter (visit.update calls) v := rfl
    simp only [List.cons_append, NeverReenters, hactive, ih, and_assoc]

/-! ## Watched grammars -/

/-- The grammar in which every name writes down its calls under a label. -/
def Grammar.watched (g : Grammar ν ρ) (label : ν → String) : Grammar ν ρ :=
  fun n => (g n).spy (label n)

/-! ## Runs that settle -/

/-- Whether a run ends within its budget and, if it returns, has ended all of its
calls; if the names are watched, only as long as no call is entered again. -/
def Run.Settles (watched : Prop) (calls : List Call) (run : Run α) : Prop :=
  (watched → NeverReenters calls run.journal.visits) →
    match run.ending with
    | .returned _ => activeAfter calls run.journal.visits = calls
    | .raised _ => True
    | .exhausted => False

namespace Run.Settles

variable {watched : Prop} {calls : List Call} {s : Settings}

theorem ending_ne {run : Run α} (h : run.Settles watched calls)
    (hnever : watched → NeverReenters calls run.journal.visits) : run.ending ≠ .exhausted := by
  intro hend
  have hends := h hnever
  rw [hend] at hends
  exact hends

theorem of_silent {run : Run α} (hvisits : run.journal.visits = [])
    (hend : run.ending ≠ .exhausted) : run.Settles watched calls := by
  intro _
  cases hrun : run.ending with
  | returned result => simp [hvisits, activeAfter]
  | raised fault => trivial
  | exhausted => exact hend hrun

theorem pure (result : α) : ((Pure.pure result : Action α) s).Settles watched calls :=
  of_silent rfl nofun

theorem ofExcept (e : Except Fault α) : (Action.ofExcept e s).Settles watched calls := by
  cases e with
  | ok result => exact of_silent rfl nofun
  | error fault => exact of_silent rfl nofun

theorem record (decision : Decision) : (Action.record decision s).Settles watched calls := by
  refine of_silent ?_ nofun
  unfold Action.record
  split <;> rfl

/-- A run after another one starts with the calls that the first one started
with, since that one has ended all of its own. -/
theorem andThen {r : Run α} {next : α → Run β} (hr : r.Settles watched calls)
    (hnext : ∀ result, r.ending = .returned result → (next result).Settles watched calls) :
    (r.andThen next).Settles watched calls := by
  rcases r with ⟨journal, result | fault | _⟩
  · have hjournal : ((⟨journal, .returned result⟩ : Run α).andThen next).journal.visits =
        Journal.visits journal ++ (next result).journal.visits := by
      simp [Run.andThen, Run.after]
    intro hnever
    rw [hjournal] at hnever
    have hcalls : activeAfter calls (Journal.visits journal) = calls :=
      hr fun h => (neverReenters_append.1 (hnever h)).1
    have hrest := hnext result rfl fun h => hcalls ▸ (neverReenters_append.1 (hnever h)).2
    rw [hjournal, activeAfter_append, hcalls]
    exact hrest
  · exact hr
  · exact hr

theorem bind {a : Action α} {next : α → Action β} (ha : (a s).Settles watched calls)
    (hnext : ∀ result, (a s).ending = .returned result →
      (next result s).Settles watched calls) : ((a >>= next) s).Settles watched calls :=
  andThen ha hnext

/-- The rule of loops. The invariant is about the number of turns that are left
and a state, and has to rule out that a loop without turns ends out of budget. -/
theorem loop {turn : σ → Action (Action.Turn σ β)} {spent : σ → Ending β}
    (inv : Nat → σ → Prop)
    (hturn : ∀ left state, inv (left + 1) state → (turn state s).Settles watched calls)
    (hagain : ∀ left state state', inv (left + 1) state →
      (turn state s).ending = .returned (.again state') → inv left state')
    (hspent : ∀ state, inv 0 state → spent state ≠ .exhausted) {turns : Nat} {state : σ}
    (hinit : inv turns state) : (Action.loop turn spent turns state s).Settles watched calls := by
  induction turns generalizing state with
  | zero => exact of_silent rfl (hspent state hinit)
  | succ left ih =>
    rw [Action.loop_succ]
    refine bind (hturn left state hinit) fun next hrun => ?_
    cases next with
    | again state' => exact ih (hagain left state state' hinit hrun)
    | done result => exact pure result

/-! ### Readings -/

variable {p : Reading α} {c : Cursor}

theorem onMatch {next : α → Reading β} (hp : (p c s).Settles watched calls)
    (hnext : ∀ value d, (p c s).ending = .returned (.matched value d) →
      (next value d s).Settles watched calls) : (p.onMatch next c s).Settles watched calls := by
  refine bind hp fun outcome hrun => ?_
  cases outcome with
  | matched value after => exact hnext value after hrun
  | failed failure => exact pure _

/-- In a sequence, each match leaves the next parser in the source where the first one started. -/
theorem inOrder {source : Source} {ps : List (Reading α)} (hspans : ∀ p ∈ ps, p.Spans False)
    (hps : ∀ p ∈ ps, ∀ c, c.source = source → (p c s).Settles watched calls)
    (hc : c.source = source) : (Reading.inOrder ps c s).Settles watched calls := by
  have hinOrder : (Reading.inOrder ps).Spans False ∧
      ∀ c, c.source = source → (Reading.inOrder ps c s).Settles watched calls := by
    refine Reading.inOrder_of_forall
      (P := fun p => p.Spans False ∧ ∀ c, c.source = source → (p c s).Settles watched calls)
      (fun value => ⟨fun d => Reading.meets_yield (le_refl d), fun _ _ => pure _⟩)
      (fun hp hnext => ⟨hp.1.onMatch fun value => (hnext value).1, fun d hd => ?_⟩)
      fun p hp => ⟨hspans p hp, hps p hp⟩
    refine onMatch (hp.2 d hd) fun value e hrun => (hnext value).2 e ?_
    obtain ⟨hsource, -⟩ : d ≤ e := (hp.1 d).of_returned hrun
    exact hsource.symm.trans hd
  exact hinOrder.2 c hc

theorem onFailure {next : Failure → Action (Outcome α)} (hp : (p c s).Settles watched calls)
    (hnext : ∀ failure, (next failure s).Settles watched calls) :
    (p.onFailure next c s).Settles watched calls := by
  refine bind hp fun outcome _ => ?_
  cases outcome with
  | matched value after => exact pure _
  | failed failure => exact hnext failure

theorem orElse {q : Reading α} (hp : (p c s).Settles watched calls)
    (hq : (q c s).Settles watched calls) : (p.orElse q c s).Settles watched calls := by
  refine onFailure hp fun failure => ?_
  split
  · exact bind (record _) fun _ _ => hq
  · exact bind (record _) fun _ _ => pure _

theorem rewind (hp : (p c s).Settles watched calls) : (p.rewind c s).Settles watched calls := by
  refine onFailure hp fun failure => ?_
  split
  · exact pure _
  · exact bind (record _) fun _ _ => pure _

/-- In the unbounded repetition, each turn leaves fewer units than there were
before it, so a budget of more turns than there are units is not spent. -/
theorem zeroOrMore {source : Source} (hspans : p.Spans False) (hbudget : source.size < s.budget)
    (hp : ∀ c, c.source = source → (p c s).Settles watched calls) (hc : c.source = source) :
    (p.zeroOrMore c s).Settles watched calls := by
  refine loop (fun left (state : Reading.Collected α) =>
    state.cursor.source = source ∧ source.size - state.cursor.pos < left)
    (fun left state hstate => ?_) (fun left state next hstate hrun => ?_)
    (fun state hstate => absurd hstate.2 (Nat.not_lt_zero _)) ⟨hc, by simp only; omega⟩
  · refine bind (hp state.cursor hstate.1) fun outcome _ => ?_
    cases outcome with
    | matched value after =>
      simp only
      split
      · exact of_silent rfl nofun
      · exact pure _
    | failed failure => exact bind (record _) fun _ _ => pure _
  · obtain ⟨hsource, hleft⟩ := hstate
    obtain ⟨⟨hsame, -⟩, hlt⟩ := (hspans.unboundedTurn state).of_returned hrun
    have hle : next.cursor.pos ≤ source.size := by
      rw [← hsource, hsame]
      exact next.cursor.pos_le
    refine ⟨hsame.symm.trans hsource, ?_⟩
    omega

theorem upTo {source : Source} {count : Nat} (hspans : p.Spans False)
    (hp : ∀ c, c.source = source → (p c s).Settles watched calls) (hc : c.source = source) :
    (p.upTo count c s).Settles watched calls := by
  refine loop (fun _ (state : Reading.Collected α) => state.cursor.source = source)
    (fun _ state hstate => ?_) (fun _ state next hstate hrun => ?_) ?_ hc
  · refine bind (hp state.cursor hstate) fun outcome _ => ?_
    cases outcome with
    | matched value after => exact pure _
    | failed failure => exact pure _
  · obtain ⟨hsame, -⟩ := (hspans.boundedTurn state).of_returned hrun
    exact hsame.symm.trans hstate
  · intro _ _
    nofun

/-- Inside of a call that is entered for the first time, one more call is
active. -/
theorem spy {name : String}
    (hp : (name, c.pos) ∉ calls → (p c s).Settles True ((name, c.pos) :: calls)) :
    (p.spy name c s).Settles True calls := by
  intro hnever
  rw [Reading.visits_spy, NeverReenters] at hnever
  obtain ⟨hfresh, hinside⟩ := hnever trivial
  rw [Reading.visits_spy, Reading.ending_spy]
  have hends := hp (hfresh rfl) fun _ => (neverReenters_append.1 hinside).1
  cases hrun : (p c s).ending with
  | returned outcome =>
    rw [hrun] at hends
    calc activeAfter calls (⟨.enter, name, c⟩ ::
          ((p c s).journal.visits ++ [Visit.leave name outcome]))
      _ = activeAfter (activeAfter ((name, c.pos) :: calls) (p c s).journal.visits)
          [Visit.leave name outcome] := activeAfter_append _ _ _
      _ = activeAfter ((name, c.pos) :: calls) [Visit.leave name outcome] := by rw [hends]
      _ = calls := by cases outcome <;> rfl
  | raised fault => trivial
  | exhausted =>
    rw [hrun] at hends
    exact hends

end Run.Settles

/-! ## Parsers and grammars -/

/-- What parsers over some known names have no use for: all other names, and what
is not of the library. -/
def Feature.foreign (known : Finset ν) : Set (Feature ν) := fun
  | .custom => True
  | .mapFailure => False
  | .spy => True
  | .ref name => name ∉ known

/-- A run of a parser settles if the runs of the names in it do. -/
theorem Parser.settles_reading {known : Finset ν} {env : ∀ n, Reading (ρ n)} {watched : Prop}
    {calls : List Call} {source : Source} {s : Settings} (hbudget : source.size < s.budget)
    (hspans : ∀ n ∈ known, (env n).Spans False)
    (henv : ∀ n ∈ known, ∀ c, c.source = source → (env n c s).Settles watched calls)
    {p : Parser ν ρ α} (hp : p.Avoids (Feature.foreign known)) {c : Cursor}
    (hc : c.source = source) : (p.reading env c s).Settles watched calls := by
  have hcustom : .custom ∈ Feature.foreign known := trivial
  have hspan : ∀ {α : Type} {p : Parser ν ρ α}, p.Avoids (Feature.foreign known) →
      (p.reading env).Spans False := fun hp =>
    Parser.spans_reading hcustom False.elim (fun n hn => hspans n (not_not.1 hn)) hp
  induction p generalizing c with
  | endOfInput => exact .pure _
  | anyUnit =>
    obtain ⟨outcome, houtcome⟩ := (Reading.answers_everywhere c).1
    simp only [Parser.reading]
    rw [houtcome]
    exact .pure outcome
  | literal text =>
    obtain ⟨outcome, houtcome⟩ := (Reading.answers_everywhere c).2 text
    simp only [Parser.reading]
    rw [houtcome]
    exact .pure outcome
  | fail expected => exact .pure _
  | pure value => exact .pure _
  | convert p f ih => exact .onMatch (ih hp hc) fun _ _ _ => .bind (.ofExcept _) fun _ _ => .pure _
  | check expected p accepts ih =>
    refine .onMatch (ih hp hc) fun _ _ _ => .bind (.ofExcept _) fun accepted _ => ?_
    split
    · exact .pure _
    · exact .bind (.ofExcept _) fun _ _ => .pure _
  | mapFailure p f ih =>
    exact .onFailure (ih hp.2 hc) fun _ => .bind (.ofExcept _) fun _ _ => .pure _
  | withExpected p expected ih => exact .onFailure (ih hp hc) fun _ => .pure _
  | bind p next ih ihnext =>
    refine .onMatch (ih hp.1 hc) fun value d hrun => ihnext value (hp.2 value) ?_
    obtain ⟨hsource, -⟩ : c ≤ d := (hspan hp.1 c).of_returned hrun
    exact hsource.symm.trans hc
  | inOrder ps ih =>
    exact .inOrder (List.forall_mem_ofFn_iff.2 fun i => hspan (hp i))
      (List.forall_mem_ofFn_iff.2 fun i _ => ih i (hp i)) hc
  | orElse first second ihfirst ihsecond => exact .orElse (ihfirst hp.1 hc) (ihsecond hp.2 hc)
  | rewind p ih => exact .rewind (ih hp hc)
  | zeroOrMore p ih => exact .zeroOrMore (hspan hp) hbudget (fun _ => ih hp) hc
  | upTo p count ih => exact .upTo (hspan hp) (fun _ => ih hp) hc
  | ref name => exact henv name (not_not.1 hp) c hc
  | custom read => exact absurd hcustom hp
  | spy name p ih => exact absurd trivial hp.1

/-- Different calls of known names in a source are not more than the names times
the positions. -/
theorem length_calls_le {known : Finset ν} {label : ν → String} {size : Nat} {calls : List Call}
    (hnodup : calls.Nodup)
    (hcalls : ∀ call ∈ calls, call ∈ known.image label ×ˢ Finset.range (size + 1)) :
    calls.length ≤ known.card * (size + 1) := by
  have hsubset : calls.toFinset ⊆ known.image label ×ˢ Finset.range (size + 1) :=
    fun call hcall => hcalls call (List.mem_toFinset.1 hcall)
  calc calls.length
    _ = calls.toFinset.card := (List.toFinset_card_of_nodup hnodup).symm
    _ ≤ (known.image label ×ˢ Finset.range (size + 1)).card := Finset.card_le_card hsubset
    _ = (known.image label).card * (size + 1) := by
      rw [Finset.card_product, Finset.card_range]
    _ ≤ known.card * (size + 1) := Nat.mul_le_mul_right _ Finset.card_image_le

namespace Grammar

variable {g : Grammar ν ρ} {label : ν → String} {known : Finset ν}

theorem spans_watched (hg : ∀ n ∈ known, (g n).Avoids (Feature.foreign known)) (depth : Nat)
    (n : ν) (hn : n ∈ known) : ((g.watched label).names depth n).Spans False := by
  have hcustom : .custom ∈ Feature.foreign known \ {.spy} := ⟨trivial, nofun⟩
  refine spans_names hcustom False.elim (fun m hm => ?_) depth n fun h => h.1 hn
  have hm : m ∈ known := by
    by_contra hm'
    exact hm ⟨hm', nofun⟩
  exact ⟨fun h => h.2 rfl, (hg m hm).subset Set.sdiff_subset⟩

/-- A depth that suffices for all calls that are not active yet suffices for a
run of a known name. -/
theorem settles_names (hg : ∀ n ∈ known, (g n).Avoids (Feature.foreign known)) {source : Source}
    {s : Settings} (hbudget : source.size < s.budget) {depth : Nat} {calls : List Call}
    (hnodup : calls.Nodup)
    (hcalls : ∀ call ∈ calls, call ∈ known.image label ×ˢ Finset.range (source.size + 1))
    (hdepth : known.card * (source.size + 1) < calls.length + depth) {n : ν} (hn : n ∈ known)
    {c : Cursor} (hc : c.source = source) :
    ((g.watched label).names depth n c s).Settles True calls := by
  induction depth generalizing calls n c with
  | zero => exact absurd hdepth (Nat.not_lt.2 (length_calls_le hnodup hcalls))
  | succ depth ih =>
    refine Run.Settles.spy fun hfresh => ?_
    have hcall : (label n, c.pos) ∈ known.image label ×ˢ Finset.range (source.size + 1) := by
      have hpos : c.pos < source.size + 1 := hc ▸ Nat.lt_succ_of_le c.pos_le
      simp only [Finset.mem_product, Finset.mem_image, Finset.mem_range]
      exact ⟨⟨n, hn, rfl⟩, hpos⟩
    have hcalls' : ∀ call ∈ (label n, c.pos) :: calls,
        call ∈ known.image label ×ˢ Finset.range (source.size + 1) :=
      List.forall_mem_cons.2 ⟨hcall, hcalls⟩
    refine Parser.settles_reading hbudget (spans_watched hg depth) (fun m hm d hd => ?_)
      (hg n hn) hc
    refine ih (List.nodup_cons.2 ⟨hfresh, hnodup⟩) hcalls' ?_ hm hd
    rw [List.length_cons]
    omega

/-- Watching the names changes what is written down, and nothing else. -/
theorem ending_watched (p : Parser ν ρ α) (c : Cursor) (s : Settings) :
    (p.runAt (g.watched label) c s).ending = (p.runAt g c s).ending := by
  let S : Simulation s s := .agreement Journal.decisions (fun _ _ => by simp) (fun _ => rfl) rfl
  have hnames : ∀ depth n c,
      S.rel ((g.watched label).names depth n c s) (g.names depth n c s) := by
    intro depth
    induction depth with
    | zero => exact fun _ _ => S.ended _
    | succ depth ih =>
      intro n c
      obtain ⟨hending, hdecisions⟩ := Simulation.reading (S := S) ih (g n) c
      exact ⟨(Reading.ending_spy _ _ _ _).trans hending,
        (Reading.decisions_spy _ _ _ _).trans hdecisions⟩
  exact (Simulation.reading (S := S) (hnames s.budget) p c).1

end Grammar

namespace Parser

variable {g : Grammar ν ρ} {known : Finset ν} {p : Parser ν ρ α}

/-- One run that has come to an end shows all calls that any budget shows. -/
theorem neverReenters_of_ended {debug : Bool} {c : Cursor} {budget : Nat}
    (hend : (p.runAt g c { debug, budget }).ending ≠ .exhausted)
    (hnever : NeverReenters [] (p.runAt g c { debug, budget }).journal.visits) (other : Nat) :
    NeverReenters [] (p.runAt g c { debug, budget := other }).journal.visits := by
  rcases Nat.le_total budget other with hle | hle
  · have hextends : (p.runAt g c { debug, budget := other }).Extends
        (p.runAt g c { debug, budget }) := extends_runAt rfl hle
    rcases hextends with heq | ⟨hexhausted, -⟩
    · rwa [heq]
    · exact absurd hexhausted hend
  · have hextends : (p.runAt g c { debug, budget }).Extends
        (p.runAt g c { debug, budget := other }) := extends_runAt rfl hle
    rcases hextends with heq | ⟨-, rest, hjournal⟩
    · rwa [← heq]
    · rw [← hjournal, Journal.visits_append] at hnever
      exact (neverReenters_append.1 hnever).1

/-- A parser over known names comes to an end if none of its calls is entered
again while it is active, however far the run has come; that is for all budgets,
since a larger one shows more of the same run. In particular, it comes to an end
if it refers to no names. -/
theorem terminates_of_neverReenters (hp : p.Avoids (Feature.foreign known))
    (hg : ∀ n ∈ known, (g n).Avoids (Feature.foreign known)) (label : ν → String) (debug : Bool)
    (c : Cursor) :
    ((∀ budget, NeverReenters []
      (p.runAt (g.watched label) c { debug, budget }).journal.visits) → p.Terminates g debug c) ∧
    (p.Avoids (Set.range Feature.ref) → p.Terminates g debug c) := by
  constructor
  · intro hnever
    let bound := known.card * (c.source.size + 1)
    let s : Settings := { debug, budget := bound + c.source.size + 1 }
    have hbudget : c.source.size < s.budget := show _ < bound + c.source.size + 1 by omega
    have hdepth : bound < ([] : List Call).length + s.budget :=
      show bound < 0 + (bound + c.source.size + 1) by omega
    have hsettles : (p.runAt (g.watched label) c s).Settles True [] :=
      settles_reading hbudget (Grammar.spans_watched hg s.budget)
        (fun n hn d hd => Grammar.settles_names hg hbudget List.nodup_nil nofun hdepth hn hd) hp rfl
    have hending := hsettles.ending_ne fun _ => hnever s.budget
    rw [Grammar.ending_watched] at hending
    exact terminates_of_budget hending
  · intro hp'
    let s : Settings := { debug, budget := c.source.size + 1 }
    have hforeign : p.Avoids (Feature.foreign ∅) := by
      refine (hp.union hp').subset fun feature hfeature => ?_
      cases feature with
      | ref name => exact .inr ⟨name, rfl⟩
      | custom | spy => exact .inl trivial
      | mapFailure => exact hfeature.elim
    have hsettles : (p.runAt g c s).Settles False [] :=
      settles_reading (Nat.lt_succ_self _) nofun nofun hforeign rfl
    exact terminates_of_budget (hsettles.ending_ne False.elim)

/-- The grammar of nested brackets, with its calls written down. -/
def watchedNested : Grammar Unit (fun _ => Nat) :=
  Grammar.watched (fun _ => nested) fun _ => "nested"

/-- The brackets of `x(())y` are entered at each position at most once. -/
theorem terminates_of_nested : nested.Terminates (fun _ => nested) true (nestedAt 1) := by
  have hnested : nested.Avoids (Feature.foreign {()}) :=
    nested_avoids (not_not.2 (Finset.mem_singleton_self ()))
  have hend : (nested.runAt watchedNested (nestedAt 1) { debug := true, budget := 7 }).ending =
      .returned (.matched 2 (nestedAt 5)) := rfl
  have hended : (nested.runAt watchedNested (nestedAt 1) { debug := true, budget := 7 }).ending ≠
      .exhausted := by
    rw [hend]
    nofun
  have hnever : NeverReenters []
      (nested.runAt watchedNested (nestedAt 1) { debug := true, budget := 7 }).journal.visits := by
    decide +kernel
  have hall : ∀ budget, NeverReenters []
      (nested.runAt watchedNested (nestedAt 1) { debug := true, budget }).journal.visits :=
    fun budget => neverReenters_of_ended hended hnever budget
  exact (terminates_of_neverReenters hnested (fun _ _ => hnested) (fun _ => "nested") true
    (nestedAt 1)).1 hall

end Parser

end Descent
