-- SUMMARY: How the run of a combinator ends, computed from how the runs of its parts end.
import Descent.Parser.Combinators
import Descent.Proofs.Execution

/-!
# Endings

What a run writes down has no part in how it ends. So the ending of a combinator is
computed from the endings of its parts, and two parsers that call their parts in different
ways, one of them more often, are compared by these equations alone.
-/

namespace Descent

variable {ν : Type} {ρ : ν → Type} {α β γ : Type}

/-! ## Going on from an ending -/

namespace Ending

/-- Goes on from an outcome, in one way after a match and in another after a failure. -/
def proceed (ending : Ending (Outcome α)) (match_ : α → Cursor → Ending (Outcome β))
    (failure : Failure → Ending (Outcome β)) : Ending (Outcome β) :=
  match ending with
  | .returned (.matched value after) => match_ value after
  | .returned (.failed reported) => failure reported
  | .raised fault => .raised fault
  | .exhausted => .exhausted

section Proceed

variable (match_ : α → Cursor → Ending (Outcome β)) (failure : Failure → Ending (Outcome β))

@[simp] theorem proceed_matched (value : α) (after : Cursor) :
    (returned (.matched value after)).proceed match_ failure = match_ value after := rfl

@[simp] theorem proceed_failed (reported : Failure) :
    (returned (.failed reported)).proceed match_ failure = failure reported := rfl

@[simp] theorem proceed_raised (fault : Fault) :
    (raised fault).proceed match_ failure = raised fault := rfl

@[simp] theorem proceed_exhausted : exhausted.proceed match_ failure = exhausted := rfl

end Proceed

/-- Going on twice after a match is going on once, as long as the first time passes
failures through. -/
theorem proceed_proceed (match_ : α → Cursor → Ending (Outcome β))
    (next : β → Cursor → Ending (Outcome γ)) (failure : Failure → Ending (Outcome γ))
    (ending : Ending (Outcome α)) :
    (ending.proceed match_ fun reported => .returned (.failed reported)).proceed next failure =
      ending.proceed (fun value after => (match_ value after).proceed next failure) failure := by
  rcases ending with (⟨value, after⟩ | reported) | fault | _ <;> rfl

/-- Maps the value of a match. -/
def mapValue (f : α → β) (ending : Ending (Outcome α)) : Ending (Outcome β) :=
  ending.proceed (fun value after => .returned (.matched (f value) after))
    fun failure => .returned (.failed failure)

section MapValue

variable (f : α → β)

@[simp] theorem mapValue_matched (value : α) (after : Cursor) :
    (returned (.matched value after)).mapValue f = returned (.matched (f value) after) := rfl

@[simp] theorem mapValue_failed (failure : Failure) :
    (returned (.failed failure)).mapValue f = returned (.failed failure) := rfl

@[simp] theorem mapValue_raised (fault : Fault) : (raised fault).mapValue f = raised fault := rfl

@[simp] theorem mapValue_exhausted : exhausted.mapValue f = exhausted := rfl

end MapValue

@[simp] theorem mapValue_id (ending : Ending (Outcome α)) :
    ending.mapValue (fun value => value) = ending := by
  rcases ending with (⟨value, after⟩ | failure) | fault | _ <;> rfl

theorem mapValue_mapValue (f : α → β) (g : β → γ) (ending : Ending (Outcome α)) :
    (ending.mapValue f).mapValue g = ending.mapValue (g ∘ f) := proceed_proceed _ _ _ _

theorem proceed_mapValue (f : α → β) (match_ : β → Cursor → Ending (Outcome γ))
    (failure : Failure → Ending (Outcome γ)) (ending : Ending (Outcome α)) :
    (ending.mapValue f).proceed match_ failure =
      ending.proceed (fun value after => match_ (f value) after) failure := proceed_proceed _ _ _ _

theorem mapValue_proceed (f : β → γ) (match_ : α → Cursor → Ending (Outcome β))
    (ending : Ending (Outcome α)) :
    (ending.proceed match_ fun failure => .returned (.failed failure)).mapValue f =
      ending.proceed (fun value after => (match_ value after).mapValue f)
        fun failure => .returned (.failed failure) := proceed_proceed _ _ _ _

end Ending

/-! ## Combinators -/

namespace Reading

variable (p : Reading α) (c : Cursor) (s : Settings)

theorem ending_onMatch (next : α → Reading β) : (p.onMatch next c s).ending =
    (p c s).ending.proceed (fun value after => (next value after s).ending)
      fun failure => .returned (.failed failure) := by
  simp only [onMatch, Action.bind_apply]
  rcases p c s with ⟨journal, (⟨value, after⟩ | failure) | fault | _⟩ <;> rfl

theorem ending_onFailure (next : Failure → Action (Outcome α)) : (p.onFailure next c s).ending =
    (p c s).ending.proceed (fun value after => .returned (.matched value after))
      fun failure => (next failure s).ending := by
  simp only [onFailure, Action.bind_apply]
  rcases p c s with ⟨journal, (⟨value, after⟩ | failure) | fault | _⟩ <;> rfl

theorem ending_orElse (second : Reading α) : (p.orElse second c s).ending =
    (p c s).ending.proceed (fun value after => .returned (.matched value after)) fun failure =>
      if failure.cursor.samePos c then (second c s).ending else .returned (.failed failure) := by
  rw [orElse, ending_onFailure]
  congr
  funext failure
  split <;> rfl

theorem ending_rewind : (p.rewind c s).ending =
    (p c s).ending.proceed (fun value after => .returned (.matched value after)) fun failure =>
      .returned (.failed
        (if failure.cursor.samePos c then failure else ⟨failure.expected, c⟩)) := by
  rw [rewind, ending_onFailure]
  congr
  funext failure
  split <;> rfl

/-- A rewound failure is one in place, so after it the second alternative is the answer. -/
theorem ending_rewind_orElse (second : Reading α) : (p.rewind.orElse second c s).ending =
    (p c s).ending.proceed (fun value after => .returned (.matched value after))
      fun _ => (second c s).ending := by
  rw [ending_orElse, ending_rewind]
  rcases (p c s).ending with (⟨value, after⟩ | failure) | fault | _
  · rfl
  · by_cases hsame : failure.cursor.samePos c <;> simp [hsame, Cursor.samePos_self]
  · rfl
  · rfl

end Reading

namespace Parser

variable (env : ∀ n, Reading (ρ n)) (p : Parser ν ρ α) (c : Cursor) (s : Settings)

theorem ending_map (f : α → β) :
    ((p.map f).reading env c s).ending = (p.reading env c s).ending.mapValue f :=
  Reading.ending_onMatch _ _ _ _

theorem ending_bind (next : α → Parser ν ρ β) : ((p.bind next).reading env c s).ending =
    (p.reading env c s).ending.proceed
      (fun value after => ((next value).reading env after s).ending)
      fun failure => .returned (.failed failure) :=
  Reading.ending_onMatch _ _ _ _

theorem ending_optional_rewind (default : α) :
    ((optional p.rewind default).reading env c s).ending =
      (p.reading env c s).ending.proceed (fun value after => .returned (.matched value after))
        fun _ => .returned (.matched default c) :=
  Reading.ending_rewind_orElse _ _ _ _

theorem ending_oneOrMore : (p.oneOrMore.reading env c s).ending =
    (p.reading env c s).ending.proceed
      (fun value after => (p.zeroOrMore.reading env after s).ending.mapValue (value :: ·))
      fun failure => .returned (.failed failure) := by
  rw [oneOrMore, ending_bind]
  simp only [ending_map]

end Parser

end Descent
