import Mathlib.Tactic.Common

/-!
# Runs of a labelled transition relation

A step relation says how one labelled step changes a state, and `Run step` relates the first and
the last state of a finite sequence of steps. A state is reached by a run when it ends one, so a
property of every reached state is a statement about the ends of all runs.

`guarded step guard` is the relation whose steps meet a condition on the state before the step and
its label: a run of it is a run of `step` all of whose steps meet the condition. The induction over
runs is `Run.invariant`, and `Run.relates` for a reflexive and transitive relation between the
first and the last state. `Run.guarded_iff` is for a condition that is exact: a property holds all
along a run when all its steps meet the condition, and only then.
-/

set_option autoImplicit false
set_option relaxedAutoImplicit false

namespace Ec2Wrappers.Foundations

variable {State Label : Type*}

/-- A finite run: its first state, the labels of its steps in order, and its last state. -/
inductive Run (step : State → Label → State → Prop) : State → List Label → State → Prop
  | refl (state : State) : Run step state [] state
  | head {first second last : State} {label : Label} {labels : List Label}
      (hstep : step first label second) (hrest : Run step second labels last) :
      Run step first (label :: labels) last

/-- The steps that meet a condition on the state before them and on their label. -/
def guarded (step : State → Label → State → Prop) (guard : State → Label → Prop) :
    State → Label → State → Prop :=
  fun before label after ↦ step before label after ∧ guard before label

/-- The step relation of a function that returns the next state, or nothing where the step is not
possible. -/
def stepsOf (next : State → Label → Option State) : State → Label → State → Prop :=
  fun before label after ↦ next before label = some after

/-- The next state where the condition holds, and nothing where it does not. -/
def checked (next : State → Label → Option State) (guard : State → Label → Prop)
    [∀ state label, Decidable (guard state label)] (state : State) (label : Label) :
    Option State :=
  if guard state label then next state label else none

/-- A checked step is a step that meets the condition. -/
theorem guarded_of_checked {next : State → Label → Option State} {guard : State → Label → Prop}
    [∀ state label, Decidable (guard state label)] {before after : State} {label : Label}
    (hstep : stepsOf (checked next guard) before label after) :
    guarded (stepsOf next) guard before label after := by
  unfold stepsOf checked at hstep
  split_ifs at hstep with hguard
  exact ⟨hstep, hguard⟩

namespace Run

variable {step : State → Label → State → Prop}

/-- A run of one step. -/
theorem single {before after : State} {label : Label} (hstep : step before label after) :
    Run step before [label] after := .head hstep (.refl after)

/-- Two runs that meet compose. -/
theorem append {first middle last : State} {labels rest : List Label}
    (hfirst : Run step first labels middle) (hlast : Run step middle rest last) :
    Run step first (labels ++ rest) last := by
  induction hfirst with
  | refl => exact hlast
  | head hstep _ ih => exact .head hstep (ih hlast)

/-- A run of a larger step relation. -/
theorem mono {larger : State → Label → State → Prop}
    (hlarger : ∀ before label after, step before label after → larger before label after)
    {first last : State} {labels : List Label} (hrun : Run step first labels last) :
    Run larger first labels last := by
  induction hrun with
  | refl state => exact .refl state
  | head hstep _ ih => exact .head (hlarger _ _ _ hstep) ih

/-- Folding the next-state function over the labels gives a run. -/
theorem of_foldlM {next : State → Label → Option State} {first last : State}
    {labels : List Label} (hfold : labels.foldlM next first = some last) :
    Run (stepsOf next) first labels last := by
  induction labels generalizing first with
  | nil =>
    cases hfold
    exact .refl _
  | cons label rest ih =>
    obtain ⟨second, hstep, hrest⟩ := Option.bind_eq_some_iff.mp hfold
    exact .head hstep (ih hrest)

/-- Folding the checked function gives a run whose steps meet the condition. -/
theorem of_foldlM_checked {next : State → Label → Option State} {guard : State → Label → Prop}
    [∀ state label, Decidable (guard state label)] {first last : State} {labels : List Label}
    (hfold : labels.foldlM (checked next guard) first = some last) :
    Run (guarded (stepsOf next) guard) first labels last :=
  (of_foldlM hfold).mono fun _ _ _ ↦ guarded_of_checked

/-- What every step keeps, a run keeps. -/
theorem invariant {property : State → Prop}
    (hkeeps : ∀ before label after, step before label after → property before → property after)
    {first last : State} {labels : List Label} (hrun : Run step first labels last)
    (hfirst : property first) : property last := by
  induction hrun with
  | refl => exact hfirst
  | head hstep _ ih => exact ih (hkeeps _ _ _ hstep hfirst)

/-- A reflexive and transitive relation that holds across every step from a state with the
invariant holds across the run. -/
theorem relates {property : State → Prop} {relation : State → State → Prop}
    (hrefl : ∀ state, relation state state)
    (htrans : ∀ first second third, relation first second → relation second third →
      relation first third)
    (hkeeps : ∀ before label after, step before label after → property before → property after)
    (hstep : ∀ before label after, step before label after → property before →
      relation before after)
    {first last : State} {labels : List Label} (hrun : Run step first labels last)
    (hfirst : property first) : relation first last := by
  induction hrun with
  | refl state => exact hrefl state
  | head hhead _ ih =>
    exact htrans _ _ _ (hstep _ _ _ hhead hfirst) (ih (hkeeps _ _ _ hhead hfirst))

/-- Where a property decides which steps keep it, it holds in every state that a run of a function
goes through exactly when all steps of the run meet the condition. -/
theorem guarded_iff {next : State → Label → Option State} {guard : State → Label → Prop}
    {invariant property : State → Prop}
    (hkeeps : ∀ before label after, next before label = some after → invariant before →
      invariant after)
    (hexact : ∀ before label after, next before label = some after → invariant before →
      property before → (property after ↔ guard before label))
    {first last : State} {labels : List Label} (hrun : Run (stepsOf next) first labels last)
    (hinvariant : invariant first) (hfirst : property first) :
    (∀ before rest middle, labels = before ++ rest → Run (stepsOf next) first before middle →
      property middle) ↔ Run (guarded (stepsOf next) guard) first labels last := by
  constructor
  · intro hthrough
    induction hrun with
    | refl state => exact .refl state
    | @head first second last label labels hstep hrest ih =>
      have hsecond : property second := hthrough [label] labels second rfl (single hstep)
      refine .head ⟨hstep, (hexact _ _ _ hstep hinvariant hfirst).mp hsecond⟩
        (ih (hkeeps _ _ _ hstep hinvariant) hsecond fun before rest middle hlabels hmiddle ↦ ?_)
      exact hthrough (label :: before) rest middle (by rw [hlabels, List.cons_append])
        (.head hstep hmiddle)
  · intro hguarded before
    clear hrun
    induction before generalizing first labels with
    | nil =>
      intro rest middle _ hmiddle
      cases hmiddle
      exact hfirst
    | cons label before ih =>
      intro rest middle hlabels hmiddle
      subst hlabels
      cases hguarded with
      | head hhead hguarded =>
        cases hmiddle with
        | head hstep hmiddle =>
          cases Option.some.inj (hhead.1.symm.trans hstep)
          exact ih (hkeeps _ _ _ hstep hinvariant)
            ((hexact _ _ _ hstep hinvariant hfirst).mpr hhead.2) hguarded rest middle rfl hmiddle

end Run

end Ec2Wrappers.Foundations
