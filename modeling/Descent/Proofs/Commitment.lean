-- SUMMARY: A failure ahead of where its parser was called is the answer of the whole run.
import Descent.Proofs.Span
import Descent.Proofs.Execution

/-!
# Committed failures

The run of a parser is made of calls of its parts. A call in it is exposed if no
combinator on the way to it takes failures in, as rewinds and repetitions do. The
way is a route, a list of frames with the outermost one first.

If an exposed call fails ahead of the cursor where it started, it fails ahead of
where every alternative on the route started, because no route leads backwards. So
every one of them is committed: the whole run fails at the same cursor, and nothing
is called after that. Only the wording may be another one, that of the outermost
rewording on the route.
-/

namespace Descent

variable {ν : Type} {ρ : ν → Type} {α β γ : Type}

/-! ## Routes -/

/-- Which part of a parser is called. -/
inductive Frame where
  /-- The only part. -/
  | within
  /-- The only part, the failures of which are reworded. -/
  | reworded (expected : String)
  /-- The first part of two, or the first alternative. -/
  | first
  /-- What comes after the first part. -/
  | second
  /-- A part of the sequence of a list. -/
  | member (index : Nat)
  deriving DecidableEq

/-- The wording that a frame gives to a failure, if it does. -/
def Frame.wording? : Frame → Option String
  | .reworded expected => some expected
  | _ => none

/-- The frames between a run and a call in it, outermost one first. -/
abbrev Route := List Frame

namespace Route

/-- What becomes of a message on a route: the outermost rewording, if there is one. -/
def wording (route : Route) (expected : String) : String :=
  (route.findSome? Frame.wording?).getD expected

@[simp] theorem wording_nil (expected : String) : wording [] expected = expected := rfl

@[simp] theorem wording_reworded (route : Route) (expected expected' : String) :
    wording (.reworded expected' :: route) expected = expected' := rfl

@[simp] theorem wording_within (route : Route) (expected : String) :
    wording (.within :: route) expected = wording route expected := rfl

@[simp] theorem wording_first (route : Route) (expected : String) :
    wording (.first :: route) expected = wording route expected := rfl

@[simp] theorem wording_second (route : Route) (expected : String) :
    wording (.second :: route) expected = wording route expected := rfl

@[simp] theorem wording_member (index : Nat) (route : Route) (expected : String) :
    wording (.member index :: route) expected = wording route expected := rfl

/-- Whether the call at the end of a route is over before the one at the end of another
route starts: where the two part, the first one leads to the first part, or to an earlier
one of a list. -/
inductive Before : Route → Route → Prop where
  | part (route route' : Route) : Before (.first :: route) (.second :: route')
  | member {index index' : Nat} (route route' : Route) :
      index < index' → Before (.member index :: route) (.member index' :: route')
  | under {route route' : Route} (frame : Frame) :
      Before route route' → Before (frame :: route) (frame :: route')

end Route

/-! ## Exposed calls -/

/-- Whether a parser is called from a cursor in the run of another one, on a route on
which nothing takes failures in. The names of the called parser mean what they do at
depth `k`, those of the other one at the depth that is given first. The journal is what
is written down between the start of the run and the call.

A second part is called if the first one matches, a part of a list if all before it match
one after another, and the second alternative if the first one fails in place. -/
inductive Parser.Exposes (g : Grammar ν ρ) (s : Settings) (k : Nat) (q : Parser ν ρ β)
    (d : Cursor) : {α : Type} → Nat → Parser ν ρ α → Cursor → Journal → Route → Prop where
  | here : Exposes g s k q d k q d [] []
  | convert {α γ : Type} {depth : Nat} {p : Parser ν ρ α} {c : Cursor} {before : Journal}
      {route : Route} (f : α → Except Fault γ) : Exposes g s k q d depth p c before route →
      Exposes g s k q d depth (.convert p f) c before (.within :: route)
  | check {α : Type} [Display α] {depth : Nat} {p : Parser ν ρ α} {c : Cursor}
      {before : Journal} {route : Route} (expected : String) (accepts : α → Except Fault Bool) :
      Exposes g s k q d depth p c before route →
      Exposes g s k q d depth (.check expected p accepts) c before (.within :: route)
  | withExpected {α : Type} {depth : Nat} {p : Parser ν ρ α} {c : Cursor} {before : Journal}
      {route : Route} (expected : String) : Exposes g s k q d depth p c before route →
      Exposes g s k q d depth (.withExpected p expected) c before (.reworded expected :: route)
  | bindFirst {α γ : Type} {depth : Nat} {p : Parser ν ρ α} {c : Cursor} {before : Journal}
      {route : Route} (next : α → Parser ν ρ γ) : Exposes g s k q d depth p c before route →
      Exposes g s k q d depth (.bind p next) c before (.first :: route)
  | bindSecond {α γ : Type} {depth : Nat} {p : Parser ν ρ α} {next : α → Parser ν ρ γ}
      {c after : Cursor} {value : α} {journal before : Journal} {route : Route} :
      p.reading (g.names depth) c s = ⟨journal, .returned (.matched value after)⟩ →
      Exposes g s k q d depth (next value) after before route →
      Exposes g s k q d depth (.bind p next) c (journal ++ before) (.second :: route)
  | inOrder {α : Type} {depth count : Nat} {ps : Fin count → Parser ν ρ α} {index : Nat}
      {c after : Cursor} {values : List α} {journal before : Journal} {route : Route}
      (hindex : index < count) :
      Reading.inOrder ((List.ofFn fun i => (ps i).reading (g.names depth)).take index) c s =
        ⟨journal, .returned (.matched values after)⟩ →
      Exposes g s k q d depth (ps ⟨index, hindex⟩) after before route →
      Exposes g s k q d depth (.inOrder ps) c (journal ++ before) (.member index :: route)
  | orElseFirst {α : Type} {depth : Nat} {first : Parser ν ρ α} {c : Cursor} {before : Journal}
      {route : Route} (second : Parser ν ρ α) : Exposes g s k q d depth first c before route →
      Exposes g s k q d depth (.orElse first second) c before (.first :: route)
  | orElseSecond {α : Type} {depth : Nat} {first second : Parser ν ρ α} {c : Cursor}
      {failure : Failure} {journal before : Journal} {route : Route} :
      first.reading (g.names depth) c s = ⟨journal, .returned (.failed failure)⟩ →
      failure.cursor.samePos c = true → Exposes g s k q d depth second c before route →
      Exposes g s k q d depth (.orElse first second) c
        (journal ++ (Action.record (.fallback c.pos failure.expected) s).journal ++ before)
        (.second :: route)
  | ref {depth : Nat} {c : Cursor} {before : Journal} {route : Route} (n : ν) :
      Exposes g s k q d depth (g n) c before route →
      Exposes g s k q d (depth + 1) (.ref n) c before (.within :: route)
  | spy {α : Type} {depth : Nat} {p : Parser ν ρ α} {c : Cursor} {before : Journal}
      {route : Route} (name : String) : Exposes g s k q d depth p c before route →
      Exposes g s k q d depth (.spy name p) c (.visit ⟨.enter, name, c⟩ :: before)
        (.within :: route)

/-- What is still written down when a failure at a cursor is the answer: that an
alternative is committed to it, or that a watched parser fails with it. -/
inductive Event.Closes (f : Cursor) : Event → Prop where
  | commit {start : Nat} (expected : String) :
      start < f.pos → Closes f (.decision (.commit start f.pos expected))
  | leave (name : String) : Closes f (.visit ⟨.failed, name, f⟩)

theorem Event.closes_of_commit {f : Cursor} {start : Nat} {expected : String} {s : Settings}
    (h : start < f.pos) :
    ∀ event ∈ (Action.record (.commit start f.pos expected) s).journal, event.Closes f := by
  intro event hevent
  unfold Action.record at hevent
  split at hevent
  · obtain rfl := List.mem_singleton.1 hevent
    exact .commit expected h
  · cases hevent

/-! ## Calls that fail ahead -/

namespace Parser.Exposes

variable {g : Grammar ν ρ} {s : Settings} {k : Nat} {q : Parser ν ρ β} {d : Cursor} {depth : Nat}
  {p : Parser ν ρ α} {c : Cursor} {before : Journal} {route : Route}

/-- No route leads backwards. -/
theorem le (h : Exposes g s k q d depth p c before route) (hp : p.Avoids {.custom})
    (hg : ∀ n, (g n).Avoids {.custom}) : c ≤ d := by
  have hspans : ∀ {γ : Type} {p : Parser ν ρ γ} (depth : Nat), p.Avoids {.custom} →
      (p.reading (g.names depth)).Spans False := fun depth hp =>
    spans_reading (Set.mem_singleton _) False.elim
      (Grammar.spans_names (Set.mem_singleton _) False.elim (fun n _ => hg n) depth) hp
  induction h with
  | here => exact le_refl d
  | convert f h ih => exact ih hp
  | check expected accepts h ih => exact ih hp
  | withExpected expected h ih => exact ih hp
  | bindFirst next h ih => exact ih hp.1
  | @bindSecond _ _ depth p _ c _ value _ _ _ hrun h ih =>
    have hends := hspans depth hp.1 c s
    rw [hrun] at hends
    exact le_trans hends (ih (hp.2 value))
  | @inOrder _ depth _ ps index c _ _ _ _ _ hindex hrun h ih =>
    have hmembers : ∀ p ∈ (List.ofFn fun i => (ps i).reading (g.names depth)).take index,
        p.Spans False := fun p hmember => List.forall_mem_ofFn_iff.2
      (fun i => hspans depth (hp i)) p (List.mem_of_mem_take hmember)
    have hends := Reading.Spans.inOrder hmembers c s
    rw [hrun] at hends
    exact le_trans hends (ih (hp ⟨index, hindex⟩))
  | orElseFirst second h ih => exact ih hp.1
  | orElseSecond hrun hsame h ih => exact ih hp.2
  | ref n h ih => exact ih (hg n)
  | spy name h ih => exact ih hp.2

/-- The reading of a part of a list, found by its index. -/
theorem member_reading {count index : Nat} {ps : Fin count → Parser ν ρ γ}
    (hindex : index < count) :
    (List.ofFn fun i => (ps i).reading (g.names depth))[index]? =
      some ((ps ⟨index, hindex⟩).reading (g.names depth)) := by
  simp [hindex]

variable {e : String} {f : Cursor} {journal : Journal}

/-- What is ahead of the call is elsewhere than the start of the run. -/
theorem not_samePos (h : Exposes g s k q d depth p c before route) (hp : p.Avoids {.custom})
    (hg : ∀ n, (g n).Avoids {.custom}) (hahead : d.pos < f.pos) :
    c.pos < f.pos ∧ ¬ f.samePos c := by
  have hpos : c.pos < f.pos := Nat.lt_of_le_of_lt (h.le hp hg).2 hahead
  exact ⟨hpos, fun hsame => Nat.ne_of_gt hpos (Cursor.samePos_iff.1 hsame)⟩

/-- The run fails as the call does, reworded at most, and only closes what is open. -/
theorem run_eq (h : Exposes g s k q d depth p c before route) (hp : p.Avoids {.custom})
    (hg : ∀ n, (g n).Avoids {.custom})
    (hfail : q.reading (g.names k) d s = ⟨journal, .returned (.failed ⟨e, f⟩)⟩)
    (hahead : d.pos < f.pos) :
    ∃ after, p.reading (g.names depth) c s =
        ⟨before ++ journal ++ after, .returned (.failed ⟨route.wording e, f⟩)⟩ ∧
      ∀ event ∈ after, event.Closes f := by
  induction h with
  | here => exact ⟨[], by simp [hfail], by simp⟩
  | convert f h ih =>
    obtain ⟨after, hrun, hafter⟩ := ih hp
    exact ⟨after, Reading.run_onMatch_failed hrun _, hafter⟩
  | check expected accepts h ih =>
    obtain ⟨after, hrun, hafter⟩ := ih hp
    exact ⟨after, Reading.run_check_failed hrun expected accepts, hafter⟩
  | withExpected expected h ih =>
    obtain ⟨after, hrun, hafter⟩ := ih hp
    exact ⟨after, Reading.run_withExpected_failed hrun expected, hafter⟩
  | bindFirst next h ih =>
    obtain ⟨after, hrun, hafter⟩ := ih hp.1
    exact ⟨after, Reading.run_onMatch_failed hrun _, hafter⟩
  | bindSecond hfirst h ih =>
    obtain ⟨after, hrun, hafter⟩ := ih (hp.2 _)
    refine ⟨after, (Reading.run_onMatch_matched hfirst _).trans ?_, hafter⟩
    rw [hrun]
    simp [Run.after]
  | @inOrder _ _ _ _ index _ _ _ _ _ _ hindex hfirst h ih =>
    obtain ⟨after, hrun, hafter⟩ := ih (hp ⟨index, hindex⟩)
    refine ⟨after, (Reading.run_inOrder_failed (member_reading hindex) hfirst hrun).trans ?_,
      hafter⟩
    simp
  | @orElseFirst _ _ first c _ route second h ih =>
    obtain ⟨after, hrun, hafter⟩ := ih hp.1
    obtain ⟨hpos, hmoved⟩ := h.not_samePos hp.1 hg hahead
    refine ⟨after ++ (Action.record (.commit c.pos f.pos (route.wording e)) s).journal,
      (Reading.run_orElse_commits _ hrun hmoved).trans ?_, ?_⟩
    · simp
    · exact List.forall_mem_append.2 ⟨hafter, Event.closes_of_commit hpos⟩
  | orElseSecond hfirst hsame h ih =>
    obtain ⟨after, hrun, hafter⟩ := ih hp.2
    refine ⟨after, (Reading.run_orElse_falls_back _ hfirst hsame).trans ?_, hafter⟩
    rw [hrun]
    simp [Run.after]
  | ref n h ih => exact ih (hg n)
  | spy name h ih =>
    obtain ⟨after, hrun, hafter⟩ := ih hp.2
    refine ⟨after ++ [.visit ⟨.failed, name, f⟩],
      (Reading.run_spy_failed hrun name).trans ?_, ?_⟩
    · simp
    · exact List.forall_mem_append.2 ⟨hafter, List.forall_mem_singleton.2 (.leave name)⟩

/-- A call exposed in the run of a name is that run, or it is exposed in the run of the
parser of the name. The statement is a match because two names may have values of one
type, so that a case analysis at a name does not find out that they are the same. -/
theorem of_ref (h : Exposes g s k q d depth p c before route) :
    match p with
    | .ref n => route = [] ∨ ∃ depth' route', depth = depth' + 1 ∧ route = .within :: route' ∧
        Exposes g s k q d depth' (g n) c before route'
    | _ => True := by
  cases h with
  | here => split <;> simp
  | ref n h => exact .inr ⟨_, _, rfl, rfl, h⟩
  | _ => trivial

/-- The same for a call exposed in the run of a sequence: it is that run, or it is exposed in
the run of a part of the list, once all parts before it have matched. -/
theorem of_inOrder (h : Exposes g s k q d depth p c before route) :
    match p with
    | @Parser.inOrder _ _ γ count ps => route = [] ∨ ∃ (index : Nat) (hindex : index < count)
        (values : List γ) (after : Cursor) (journal before' : Journal) (route' : Route),
        route = .member index :: route' ∧
        Reading.inOrder ((List.ofFn fun i => (ps i).reading (g.names depth)).take index) c s =
          ⟨journal, .returned (.matched values after)⟩ ∧
        Exposes g s k q d depth (ps ⟨index, hindex⟩) after before' route'
    | _ => True := by
  cases h with
  | here => split <;> simp
  | inOrder hindex hfirst h => exact .inr ⟨_, hindex, _, _, _, _, _, rfl, hfirst, h⟩
  | _ => trivial

/-- A run makes no exposed call after the one that fails ahead. -/
theorem not_before (h : Exposes g s k q d depth p c before route) (hp : p.Avoids {.custom})
    (hg : ∀ n, (g n).Avoids {.custom})
    (hfail : q.reading (g.names k) d s = ⟨journal, .returned (.failed ⟨e, f⟩)⟩)
    (hahead : d.pos < f.pos) {k' : Nat} {q' : Parser ν ρ γ} {d' : Cursor} {before' : Journal}
    {route' : Route} (h' : Exposes g s k' q' d' depth p c before' route') :
    ¬ route.Before route' := by
  intro hbefore
  induction h generalizing before' route' with
  | here => cases hbefore
  | convert f h ih =>
    cases hbefore with
    | under _ hbefore => cases h' with
      | convert _ h' => exact ih hp h' hbefore
  | check expected accepts h ih =>
    cases hbefore with
    | under _ hbefore => cases h' with
      | check _ _ h' => exact ih hp h' hbefore
  | withExpected expected h ih =>
    cases hbefore with
    | under _ hbefore => cases h' with
      | withExpected _ h' => exact ih hp h' hbefore
  | bindFirst next h ih =>
    cases hbefore with
    | part => cases h' with
      | bindSecond hmatched h' =>
        -- The later call needs a match of the first part, which fails as the earlier call does.
        obtain ⟨_, hrun, -⟩ := h.run_eq hp.1 hg hfail hahead
        cases hmatched.symm.trans hrun
    | under _ hbefore => cases h' with
      | bindFirst _ h' => exact ih hp.1 h' hbefore
  | bindSecond hmatched h ih =>
    cases hbefore with
    | under _ hbefore => cases h' with
      | bindSecond hmatched' h' =>
        cases hmatched.symm.trans hmatched'
        exact ih (hp.2 _) h' hbefore
  | inOrder hindex hfirst h ih =>
    obtain rfl | ⟨index', hindex', _, _, _, _, _, rfl, hfirst', h'⟩ := h'.of_inOrder
    · cases hbefore
    · cases hbefore with
      | member _ _ hlt =>
        -- The later call needs a match of all parts before it, and the earlier one is in these.
        obtain ⟨_, hrun, -⟩ := h.run_eq (hp ⟨_, hindex⟩) hg hfail hahead
        rw [← Nat.min_eq_left (Nat.le_of_lt hlt), ← List.take_take] at hfirst
        have hfailed := Reading.run_inOrder_failed
          ((List.getElem?_take_of_lt hlt).trans (member_reading hindex)) hfirst hrun
        cases hfirst'.symm.trans hfailed
      | under _ hbefore =>
        cases hfirst.symm.trans hfirst'
        exact ih (hp ⟨_, hindex⟩) h' hbefore
  | orElseFirst second h ih =>
    cases hbefore with
    | part => cases h' with
      | orElseSecond hfailed hsame h' =>
        obtain ⟨_, hrun, -⟩ := h.run_eq hp.1 hg hfail hahead
        cases hfailed.symm.trans hrun
        exact (h.not_samePos hp.1 hg hahead).2 hsame
    | under _ hbefore => cases h' with
      | orElseFirst _ h' => exact ih hp.1 h' hbefore
  | orElseSecond hfailed hsame h ih =>
    cases hbefore with
    | under _ hbefore => cases h' with
      | orElseSecond hfailed' hsame' h' => exact ih hp.2 h' hbefore
  | ref n h ih =>
    cases hbefore with
    | under _ hbefore =>
      obtain hnil | ⟨depth', route', hdepth, hroute, h'⟩ := h'.of_ref
      · cases hnil
      · cases hdepth
        cases hroute
        exact ih (hg n) h' hbefore
  | spy name h ih =>
    cases hbefore with
    | under _ hbefore => cases h' with
      | spy _ h' => exact ih hp.2 h' hbefore

end Parser.Exposes

namespace Parser

/-- If a call fails ahead of where it started, and nothing on the way to it takes failures
in, the run of which it is a part fails at the same cursor, with the message of the call
or that of the outermost rewording around it. After that, the run only closes what is
open, and makes none of the calls that would come later. -/
theorem fails_as_exposed {g : Grammar ν ρ} {p : Parser ν ρ α} {q : Parser ν ρ β} {c d f : Cursor}
    {s : Settings} {k : Nat} {before journal : Journal} {route : Route} {e : String}
    (hp : p.Avoids {.custom}) (hg : ∀ n, (g n).Avoids {.custom})
    (hcall : Exposes g s k q d s.budget p c before route)
    (hfail : q.reading (g.names k) d s = ⟨journal, .returned (.failed ⟨e, f⟩)⟩)
    (hahead : d.pos < f.pos) :
    (∃ after, p.runAt g c s =
        ⟨before ++ journal ++ after, .returned (.failed ⟨route.wording e, f⟩)⟩ ∧
      ∀ event ∈ after, event.Closes f) ∧
    ∀ {γ : Type} (k' : Nat) (q' : Parser ν ρ γ) (d' : Cursor) (before' : Journal)
      (route' : Route), Exposes g s k' q' d' s.budget p c before' route' →
      ¬ route.Before route' :=
  ⟨hcall.run_eq hp hg hfail hahead,
    fun _ _ _ _ _ hcall' => hcall.not_before hp hg hfail hahead hcall'⟩

/-- An opening bracket, any number of pairs in each other, and a closing bracket. -/
def pair : Parser Unit (fun _ => Nat) (Tuple [String, Nat, String]) :=
  sequence3 (literal "(") (ref ()) (literal ")")

/-- Any number of pairs in each other, without a way back from an opening bracket. -/
def pairs : Parser Unit (fun _ => Nat) Nat :=
  (pair.map fun (_, depth, _, ()) => depth + 1).orElse (spy "no pair" (Parser.pure 0))

/-- A cursor of the source `((`. -/
def openedAt (pos : Nat) : Cursor := (Cursor.start #['(', '(']).skip pos

/-- The inner pair is not closed. That there might be no pair is then tried neither for
the inner nor for the outer one. -/
theorem fails_as_exposed_pairs :
    (∃ after, (pairs.withExpected "pairs").runAt (fun _ => pairs) (openedAt 0)
        { debug := true, budget := 3 } =
      ⟨[.decision (.fallback 2 (Mismatch.message (Mismatch.expectedText "(") "" 2)),
          .visit ⟨.enter, "no pair", openedAt 2⟩, .visit ⟨.matched, "no pair", openedAt 2⟩] ++
        after, .returned (.failed ⟨"pairs", openedAt 2⟩)⟩ ∧
      ∀ event ∈ after, event.Closes (openedAt 2)) ∧
    ∀ before, ¬ Exposes (fun _ => pairs) { debug := true, budget := 3 } 3
      (spy "no pair" (Parser.pure 0)) (openedAt 0) 3 (pairs.withExpected "pairs") (openedAt 0)
      before [.reworded "pairs", .second] := by
  have hpairs : pairs.Avoids {.custom} := by
    simp [pairs, pair, Avoids, sequence3, extend, sequence2, map]
  have hopen : (literal "(" : Parser Unit (fun _ => Nat) String).reading
      (Grammar.names (fun _ => pairs) 3) (openedAt 0) { debug := true, budget := 3 } =
      ⟨[], .returned (.matched "(" (openedAt 1))⟩ := by decide +kernel
  have hcall : Exposes (fun _ => pairs) { debug := true, budget := 3 } 2 pair (openedAt 1) 3
      (pairs.withExpected "pairs") (openedAt 0) ([] ++ []) [.reworded "pairs", .first, .within,
        .first, .second, .within, .within, .first, .within] :=
    .withExpected _ <| .orElseFirst _ <| .convert _ <| .bindFirst _ <| .bindSecond hopen <|
      .convert _ <| .ref () <| .orElseFirst _ <| .convert _ .here
  have hfail : pair.reading (Grammar.names (fun _ => pairs) 2) (openedAt 1)
      { debug := true, budget := 3 } =
      ⟨[.decision (.fallback 2 (Mismatch.message (Mismatch.expectedText "(") "" 2)),
        .visit ⟨.enter, "no pair", openedAt 2⟩, .visit ⟨.matched, "no pair", openedAt 2⟩],
        .returned (.failed ⟨Mismatch.message (Mismatch.expectedText ")") "" 2, openedAt 2⟩)⟩ := by
    decide +kernel
  obtain ⟨hrun, hlater⟩ := fails_as_exposed (p := pairs.withExpected "pairs") hpairs
    (fun _ => hpairs) hcall hfail (by decide)
  exact ⟨hrun, fun before hdefault => hlater _ _ _ _ _ hdefault (.under _ (.part _ _))⟩

end Parser

end Descent
