import TextDiagram.Store.Observed
import TextDiagram.Proofs.Store.Calls

/-!
# Calls that may fail

What is known after a call on a store of which any call may fail. Main statement: a call that
creates fails without an effect, or answers what it should, or is done and answers with an empty
document; any other call fails without an effect or answers what it should, as long as no call is
told to find nothing where there is something.
-/
namespace TextDiagram

variable {α σ β γ : Type}

namespace StoreCall

/-- From a state of which `pre` holds, the call either answers so that `done` holds of the answer
and of the state it leaves, or fails and leaves a state of which `failed` holds. -/
def Ensures (pre : σ → Prop) (call : StoreCall σ β) (done : β → σ → Prop)
    (failed : σ → Prop) : Prop :=
  ∀ before, pre before →
    match call.run.run before with
    | (.ok answer, after) => done answer after
    | (.error _, after) => failed after

/-- The call keeps something true, whether it answers or fails. -/
def Keeps (holds : σ → Prop) (call : StoreCall σ β) : Prop :=
  Ensures holds call (fun _ => holds) holds

namespace Ensures

variable {pre pre' : σ → Prop} {done done' : β → σ → Prop} {failed failed' : σ → Prop}
  {call : StoreCall σ β}

theorem pure {answer : β} (holds : ∀ state, pre state → done answer state) :
    Ensures pre (Pure.pure answer) done failed :=
  holds

theorem throw {error : StoreError} (holds : ∀ state, pre state → failed state) :
    Ensures pre (MonadExcept.throw error) done failed :=
  holds

theorem bind {next : β → StoreCall σ γ} {last : γ → σ → Prop}
    (first : Ensures pre call done failed)
    (continued : ∀ answer, Ensures (done answer) (next answer) last failed) :
    Ensures pre (call >>= next) last failed := by
  intro before holds
  have called := first before holds
  rw [run_bind_eq]
  rcases ran : call.run.run before with ⟨error | answer, after⟩
  · rw [ran] at called
    exact called
  · rw [ran] at called
    exact continued answer after called

/-- A call on listed entries is left out when there are none. -/
theorem listed {ι : Type} {entries : List ι} {last : σ → Prop}
    (none_listed : entries = [] → ∀ state, pre state → last state)
    (ensures : Ensures pre call (fun _ => last) failed) :
    Ensures pre (if entries.isEmpty then Pure.pure () else call >>= fun _ => Pure.pure ())
      (fun _ => last) failed := by
  split
  next empty => exact .pure (none_listed (List.isEmpty_iff.mp empty))
  next => exact ensures.bind fun _ => .pure fun _ => id

theorem imp (ensures : Ensures pre call done failed) (stronger : ∀ state, pre' state → pre state)
    (weaker : ∀ answer state, done answer state → done' answer state)
    (weaker_failed : ∀ state, failed state → failed' state) :
    Ensures pre' call done' failed' := by
  intro before holds
  have called := ensures before (stronger before holds)
  split at called
  · exact weaker _ _ called
  · exact weaker_failed _ called

theorem imp_pre (ensures : Ensures pre call done failed)
    (stronger : ∀ state, pre' state → pre state) : Ensures pre' call done failed :=
  ensures.imp stronger (fun _ _ => id) fun _ => id

/-- A fact that has nothing to do with the state is known from then on. -/
theorem of_fact {fact : Prop} (ensures : fact → Ensures pre call done failed) :
    Ensures (fun state => fact ∧ pre state) call done failed :=
  fun before ⟨known, holds⟩ => ensures known before holds

theorem imp_done (ensures : Ensures pre call done failed)
    (weaker : ∀ answer state, done answer state → done' answer state) :
    Ensures pre call done' failed :=
  ensures.imp (fun _ => id) weaker fun _ => id

theorem imp_failed (ensures : Ensures pre call done failed)
    (weaker : ∀ state, failed state → failed' state) : Ensures pre call done failed' :=
  ensures.imp (fun _ => id) (fun _ _ => id) weaker

end Ensures

end StoreCall

namespace Observed

open StoreCall (Ensures)

/-- Something holds of the state of the store behind, and no call is told to find nothing. -/
def Behind (holds : σ → Prop) (observed : Observed σ) : Prop :=
  (∀ disturbance ∈ observed.disturbances, disturbance.effect ≠ .nothing) ∧ holds observed.inner

variable {pre : σ → Prop}

theorem ensures_of_fact {fact : Prop} {call : StoreCall (Observed σ) β}
    {done : β → Observed σ → Prop} {failed : Observed σ → Prop}
    (ensures : fact → Ensures (Behind pre) call done failed) :
    Ensures (Behind fun state => fact ∧ pre state) call done failed :=
  fun before ⟨heeded, known, holds⟩ => ensures known before ⟨heeded, holds⟩

theorem log_ensures (call : Call) (failed : Observed σ → Prop) :
    Ensures (Behind pre) (log call)
      (fun effect observed => effect ≠ some .nothing ∧ Behind pre observed) failed := by
  rintro before ⟨heeded, holds⟩
  refine ⟨?_, heeded, holds⟩
  intro nothing
  obtain ⟨disturbance, due, same⟩ := Option.map_eq_some_iff.mp nothing
  exact heeded disturbance (List.mem_of_find?_eq_some due) same

theorem pass_run (action : StoreCall σ β) (before : Observed σ) :
    (pass action).run.run before =
      ((action.run.run before.inner).1,
        { before with inner := (action.run.run before.inner).2 }) := by
  have got : (get : StoreCall (Observed σ) (Observed σ)).run.run before =
      pure (.ok before, before) := rfl
  unfold pass
  rw [ExceptT.run_bind, StateT.run_bind, got, pure_bind]
  rcases ran : action.run.run before.inner with ⟨error | value, inner⟩
  · have failed : action.run before.inner = (.error error, inner) := ran
    simp only [failed]
    rfl
  · have answered : action.run before.inner = (.ok value, inner) := ran
    simp only [answered]
    rfl

section

variable {action : StoreCall σ β} {done : β → σ → Prop}
  (acts : ∀ before, pre before →
    ∃ answer after, action.Yields before answer after ∧ done answer after)

include acts

theorem pass_ensures (failed : Observed σ → Prop) :
    Ensures (Behind pre) (pass action) (fun answer => Behind (done answer)) failed := by
  rintro before ⟨heeded, holds⟩
  obtain ⟨answer, after, yields, now⟩ := acts before.inner holds
  rw [pass_run, show action.run.run before.inner = (.ok answer, after) from yields]
  exact ⟨heeded, now⟩

end

/-- A call that creates may be done without telling what it has created. -/
theorem creating_ensures {action : StoreCall σ (Document α)} {done : Document α → σ → Prop}
    (acts : ∀ before, pre before →
      ∃ answer after, action.Yields before answer after ∧ done answer after)
    (document : DocumentId) (call : Call) :
    Ensures (Behind pre) (creating document call action)
      (fun answer => Behind fun after =>
        ∃ created, done created after ∧ (answer = created ∨ answer = .empty document))
      (Behind pre) := by
  refine (log_ensures call _).bind fun effect => .of_fact fun heard => ?_
  have passed := pass_ensures acts (Behind pre)
  match effect with
  | some (.fail _) | some .loseDocument => exact .throw fun _ => id
  | some .hollow =>
    refine passed.bind fun answer => .pure ?_
    exact fun _ ⟨heeded, holds⟩ => ⟨heeded, answer, holds, .inr rfl⟩
  | some .nothing | none =>
    refine passed.imp_done ?_
    exact fun answer _ ⟨heeded, holds⟩ => ⟨heeded, answer, holds, .inl rfl⟩

/-- A call that may find nothing finds what there is. -/
theorem finding_ensures {action : StoreCall σ (Option β)} {done : Option β → σ → Prop}
    (acts : ∀ before, pre before →
      ∃ answer after, action.Yields before answer after ∧ done answer after)
    (document : DocumentId) (call : Call) :
    Ensures (Behind pre) (finding document call action) (fun answer => Behind (done answer))
      (Behind pre) := by
  refine (log_ensures call _).bind fun effect => .of_fact fun heard => ?_
  have passed := pass_ensures acts (Behind pre)
  match effect with
  | some (.fail _) | some .loseDocument => exact .throw fun _ => id
  | some .nothing => exact absurd rfl heard
  | some .hollow | none => exact passed

end Observed

end TextDiagram
