-- SUMMARY: Two runs that go through the same turns and end in the same way, up to relations.
import Descent.Grammar
import Descent.Proofs.Forward

/-!
# Lockstep

Two actions are in lockstep if, for all settings, they end in the same way: both
return, with results that are related, or both stop, with faults that are related,
or both run out of budget. They may be runs of different parsers from different
cursors, so nothing is said about their journals, which name positions and quote
messages.

The rules for actions are those of sequencing and of loops. The rule of loops has a
relation between the states of the two loops as its invariant; both take the same
number of turns.
-/

namespace Descent

variable {α α' β β' σ σ' : Type}

/-- Two endings of one kind, with results related by `R`, or with faults related
by `E`. -/
inductive Ending.Lockstep (R : α → α' → Prop) (E : Fault → Fault → Prop) :
    Ending α → Ending α' → Prop where
  | returned {result : α} {result' : α'} :
      R result result' → Lockstep R E (.returned result) (.returned result')
  | raised {fault fault' : Fault} : E fault fault' → Lockstep R E (.raised fault) (.raised fault')
  | exhausted : Lockstep R E .exhausted .exhausted

namespace Ending.Lockstep

variable {R Q : α → α' → Prop} {E F : Fault → Fault → Prop} {ending : Ending α}
  {ending' : Ending α'}

theorem mono (h : ending.Lockstep R E ending') (hR : ∀ result result', R result result' →
    Q result result') (hE : ∀ fault fault', E fault fault' → F fault fault') :
    ending.Lockstep Q F ending' := by
  cases h with
  | returned hresult => exact .returned (hR _ _ hresult)
  | raised hfault => exact .raised (hE _ _ hfault)
  | exhausted => exact .exhausted

/-- If the first run returns, so does the second one. -/
theorem of_returned {result : α} (h : ending.Lockstep R E ending')
    (hend : ending = .returned result) :
    ∃ result', ending' = .returned result' ∧ R result result' := by
  cases h with
  | returned hresult =>
    cases hend
    exact ⟨_, rfl, hresult⟩
  | raised => cases hend
  | exhausted => cases hend

theorem exhausted_iff (h : ending.Lockstep R E ending') :
    ending = .exhausted ↔ ending' = .exhausted := by
  cases h <;> simp

end Ending.Lockstep

/-- Two turns that both go on, with states related by `I`, or are both the last, with
results related by `R`. -/
inductive Action.Turn.Lockstep (I : σ → σ' → Prop) (R : β → β' → Prop) :
    Turn σ β → Turn σ' β' → Prop where
  | again {state : σ} {state' : σ'} : I state state' → Lockstep I R (.again state) (.again state')
  | done {result : β} {result' : β'} :
      R result result' → Lockstep I R (.done result) (.done result')

namespace Action

/-- Whether two actions end in the same way, up to relations, for all settings. -/
def Lockstep (R : α → α' → Prop) (E : Fault → Fault → Prop) (a : Action α) (a' : Action α') :
    Prop :=
  ∀ s, (a s).ending.Lockstep R E (a' s).ending

variable {R : α → α' → Prop} {E : Fault → Fault → Prop}

theorem lockstep_pure {result : α} {result' : α'} (h : R result result') :
    Lockstep R E (Pure.pure result) (Pure.pure result') := fun _ => .returned h

theorem lockstep_raise {fault fault' : Fault} (h : E fault fault') :
    Lockstep R E (raise fault) (raise fault') := fun _ => .raised h

/-- The rule of sequencing: that the results are related is all that the second
actions are told. -/
theorem Lockstep.bind {a : Action α} {a' : Action α'} {next : α → Action β}
    {next' : α' → Action β'} {Q : β → β' → Prop} (ha : Lockstep R E a a')
    (hnext : ∀ result result', R result result' → Lockstep Q E (next result) (next' result')) :
    Lockstep Q E (a >>= next) (a' >>= next') := by
  intro s
  have hs := ha s
  rw [bind_apply, bind_apply]
  generalize a s = run at hs ⊢
  generalize a' s = run' at hs ⊢
  rcases run with ⟨journal, ending⟩
  rcases run' with ⟨journal', ending'⟩
  cases hs with
  | returned hresult => exact hnext _ _ hresult s
  | raised hfault => exact .raised hfault
  | exhausted => exact .exhausted

/-- The rule of computations that are the same on both sides. -/
theorem lockstep_ofExcept_bind {e : Except Fault α} {next : α → Action β}
    {next' : α → Action β'} {Q : β → β' → Prop} (hE : ∀ fault, E fault fault)
    (hnext : ∀ result, Lockstep Q E (next result) (next' result)) :
    Lockstep Q E (ofExcept e >>= next) (ofExcept e >>= next') := by
  cases e with
  | ok result => exact hnext result
  | error fault => exact lockstep_raise (hE fault)

/-- What the two actions write down before has no part in how they end. -/
theorem Lockstep.after_record {a : Action α} {a' : Action α'} {decision decision' : Decision}
    (h : Lockstep R E a a') :
    Lockstep R E (record decision >>= fun _ => a) (record decision' >>= fun _ => a') := h

theorem Lockstep.after_visit {a : Action α} {a' : Action α'} {mark mark' : Mark}
    {name name' : String} {c c' : Cursor} (h : Lockstep R E a a') :
    Lockstep R E (visit mark name c >>= fun _ => a) (visit mark' name' c' >>= fun _ => a') := h

/-- The rule of loops. The invariant relates the states of the two loops. -/
theorem lockstep_loop {turn : σ → Action (Turn σ β)} {turn' : σ' → Action (Turn σ' β')}
    {spent : σ → Ending β} {spent' : σ' → Ending β'} {Q : β → β' → Prop} (I : σ → σ' → Prop)
    (hturn : ∀ state state', I state state' →
      Lockstep (Turn.Lockstep I Q) E (turn state) (turn' state'))
    (hspent : ∀ state state', I state state' → (spent state).Lockstep Q E (spent' state'))
    {turns : Nat} {state : σ} {state' : σ'} (hinit : I state state') :
    Lockstep Q E (loop turn spent turns state) (loop turn' spent' turns state') := by
  induction turns generalizing state state' with
  | zero => exact fun _ => hspent state state' hinit
  | succ turns ih =>
    rw [loop_succ, loop_succ]
    refine (hturn state state' hinit).bind fun next next' hnext => ?_
    cases hnext with
    | again hstate => exact ih hstate
    | done hresult => exact lockstep_pure hresult

end Action

end Descent
