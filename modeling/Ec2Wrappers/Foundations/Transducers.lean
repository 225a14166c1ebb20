import Mathlib.Tactic.Common

/-!
# Transducers

A transducer gets an input in pieces and gives out a piece of its output for each of them; the last
piece, which may be empty, is marked as such. It computes a function when what it gives out, taken
together, is the function of what it got, taken together, however the input was cut
(`Computes`).

Of transducers in a row the second one is fed the pieces that the first one gives out, which are cut
in another way than the input (`outputs_andThen`). A transducer that only holds back the end of what
it got, by whatever rule, computes the identity (`computes_holding`). `run_eq_of_simulates` compares
transducers with different states.
-/

set_option autoImplicit false
set_option relaxedAutoImplicit false

namespace Ec2Wrappers.Foundations

/-- What is given out for a piece, with the next state, and for the last piece. -/
structure Transducer (State In Out : Type*) where
  feed : State → List In → State × List Out
  finish : State → List In → List Out

namespace Transducer

variable {State Next In Middle Out : Type*}

/-! ### Runs -/

/-- The state after some pieces. -/
def after (t : Transducer State In Out) (state : State) (pieces : List (List In)) : State :=
  pieces.foldl (fun state piece ↦ (t.feed state piece).1) state

/-- What is given out for each of some pieces. -/
def outputs (t : Transducer State In Out) (state : State) : List (List In) → List (List Out)
  | [] => []
  | piece :: rest => (t.feed state piece).2 :: t.outputs (t.feed state piece).1 rest

/-- All that is given out. -/
def run (t : Transducer State In Out) (state : State) (pieces : List (List In)) (last : List In) :
    List Out :=
  (t.outputs state pieces).flatten ++ t.finish (t.after state pieces) last

theorem run_cons (t : Transducer State In Out) (state : State) (piece : List In)
    (rest : List (List In)) (last : List In) :
    t.run state (piece :: rest) last =
      (t.feed state piece).2 ++ t.run (t.feed state piece).1 rest last := by
  simp [run, outputs, after]

/-- From the state, the transducer gives out the function of the whole input, however it is cut. -/
def Computes (t : Transducer State In Out) (state : State) (f : List In → List Out) : Prop :=
  ∀ pieces last, t.run state pieces last = f (pieces.flatten ++ last)

/-! ### Simulation -/

section Simulation

variable {t : Transducer State In Out} {u : Transducer Next In Out}
  (relation : State → Next → Prop)

/-- Transducers whose states can be kept related give out the same pieces. -/
theorem outputs_of_simulates
    (hfeed : ∀ first second piece, relation first second →
      relation (t.feed first piece).1 (u.feed second piece).1 ∧
        (t.feed first piece).2 = (u.feed second piece).2)
    {first : State} {second : Next} (hstart : relation first second) (pieces : List (List In)) :
    t.outputs first pieces = u.outputs second pieces ∧
      relation (t.after first pieces) (u.after second pieces) := by
  induction pieces generalizing first second with
  | nil => exact ⟨rfl, hstart⟩
  | cons piece rest ih =>
    obtain ⟨hnext, hsame⟩ := hfeed first second piece hstart
    obtain ⟨hrest, hafter⟩ := ih hnext
    exact ⟨by rw [outputs, outputs, hsame, hrest], hafter⟩

/-- Where the last pieces agree as well, they give out the same. -/
theorem run_eq_of_simulates
    (hfeed : ∀ first second piece, relation first second →
      relation (t.feed first piece).1 (u.feed second piece).1 ∧
        (t.feed first piece).2 = (u.feed second piece).2)
    (hfinish : ∀ first second last, relation first second →
      t.finish first last = u.finish second last)
    {first : State} {second : Next} (hstart : relation first second) (pieces : List (List In))
    (last : List In) : t.run first pieces last = u.run second pieces last := by
  obtain ⟨hsame, hafter⟩ := outputs_of_simulates relation hfeed hstart pieces
  rw [run, run, hsame, hfinish _ _ last hafter]

end Simulation

/-! ### Transducers in a row -/

/-- What the first transducer gives out is fed to the second one. -/
def andThen (t : Transducer State In Middle) (u : Transducer Next Middle Out) :
    Transducer (State × Next) In Out where
  feed state piece :=
    (((t.feed state.1 piece).1, (u.feed state.2 (t.feed state.1 piece).2).1),
      (u.feed state.2 (t.feed state.1 piece).2).2)
  finish state last := u.finish state.2 (t.finish state.1 last)

/-- The second one has got what the first one has given out. -/
theorem outputs_andThen (t : Transducer State In Middle) (u : Transducer Next Middle Out)
    (first : State) (second : Next) (pieces : List (List In)) :
    (t.andThen u).outputs (first, second) pieces = u.outputs second (t.outputs first pieces) ∧
      (t.andThen u).after (first, second) pieces =
        (t.after first pieces, u.after second (t.outputs first pieces)) := by
  induction pieces generalizing first second with
  | nil => exact ⟨rfl, rfl⟩
  | cons piece rest ih =>
    obtain ⟨houtputs, hafter⟩ := ih (t.feed first piece).1 (u.feed second (t.feed first piece).2).1
    exact ⟨congrArg (_ :: ·) houtputs, hafter⟩

/-! ### Holding back -/

/-- The transducer that holds back what is behind the cut, and passes it on with the next piece. -/
def holding {Item : Type*} (cut : List Item → ℕ) : Transducer (List Item) Item Item where
  feed held piece := ((held ++ piece).drop (cut (held ++ piece)),
    (held ++ piece).take (cut (held ++ piece)))
  finish held last := held ++ last

section Holding

variable {Item : Type*} (cut : List Item → ℕ)

/-- What was given out and what is held back are what was got. -/
theorem flatten_outputs_holding (held : List Item) (pieces : List (List Item)) :
    ((holding cut).outputs held pieces).flatten ++ (holding cut).after held pieces =
      held ++ pieces.flatten := by
  induction pieces generalizing held with
  | nil => exact (List.append_nil held).symm
  | cons piece rest ih =>
    have hsplit := List.take_append_drop (cut (held ++ piece)) (held ++ piece)
    rw [outputs, List.flatten_cons, List.append_assoc]
    refine (congrArg (_ ++ ·) (ih _)).trans ?_
    rw [← List.append_assoc, List.flatten_cons, ← List.append_assoc]
    exact congrArg (· ++ rest.flatten) hsplit

/-- Nothing is lost by holding back, whatever the rule. -/
theorem computes_holding : (holding cut).Computes [] id := by
  intro pieces last
  rw [run, id]
  change _ ++ ((holding cut).after [] pieces ++ last) = _
  rw [← List.append_assoc, flatten_outputs_holding cut [], List.nil_append]

/-- The output for one more piece is what the rule passes on of the data at hand: what was held
back, and the piece. -/
theorem flatten_outputs_holding_concat (held : List Item) (pieces : List (List Item))
    (piece : List Item) :
    ((holding cut).outputs held (pieces ++ [piece])).flatten =
      ((holding cut).outputs held pieces).flatten ++
        ((holding cut).after held pieces ++ piece).take
          (cut ((holding cut).after held pieces ++ piece)) := by
  induction pieces generalizing held with
  | nil => simp [outputs, after, holding]
  | cons first rest ih =>
    rw [List.cons_append, outputs, List.flatten_cons, ih, outputs, List.flatten_cons,
      List.append_assoc]
    rfl

end Holding

end Transducer

end Ec2Wrappers.Foundations
