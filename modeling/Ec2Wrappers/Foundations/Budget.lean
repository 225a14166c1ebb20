import Ec2Wrappers.Foundations.Runs
import Mathlib.Algebra.Order.Monoid.Defs
import Mathlib.Tactic.Abel

/-!
# A budget with reservations

A budget holds what is spent now and what is reserved and may still become spent. Spending and
reserving are admitted against the sum of both, so a reservation that is settled later cannot push
the spending over the limit. The amounts form any ordered commutative monoid.

`Move.committed_le` is the step: a move keeps the commitment within the limit. `run_spent_le` is the
run: from a budget within the limit, what is spent stays within it as long as no reservation is
negative.
-/

set_option autoImplicit false
set_option relaxedAutoImplicit false

namespace Ec2Wrappers.Foundations

/-- What is spent now and what is reserved. -/
structure Budget (Amount : Type*) where
  spent : Amount
  reserved : Amount

namespace Budget

variable {Amount : Type*} [AddCommMonoid Amount] [PartialOrder Amount] [IsOrderedAddMonoid Amount]

/-- What is committed: spent or reserved. -/
def committed (budget : Budget Amount) : Amount := budget.spent + budget.reserved

/-- The moves of a budget under a limit. An amount is admitted, as spent or as reserved, against
everything committed; a reservation is settled by spending it; what is spent is released. -/
inductive Move (limit : Amount) : Budget Amount → Budget Amount → Prop
  | idle (budget : Budget Amount) : Move limit budget budget
  | spend {spent reserved : Amount} (amount : Amount)
      (hadmitted : spent + reserved + amount ≤ limit) :
      Move limit ⟨spent, reserved⟩ ⟨spent + amount, reserved⟩
  | reserve {spent reserved : Amount} (amount : Amount)
      (hadmitted : spent + reserved + amount ≤ limit) :
      Move limit ⟨spent, reserved⟩ ⟨spent, reserved + amount⟩
  | settle {spent reserved : Amount} (amount : Amount) :
      Move limit ⟨spent, reserved + amount⟩ ⟨spent + amount, reserved⟩
  | release {spent reserved : Amount} (amount : Amount) (hamount : 0 ≤ amount) :
      Move limit ⟨spent + amount, reserved⟩ ⟨spent, reserved⟩

/-- A move keeps the commitment within the limit. -/
theorem Move.committed_le {limit : Amount} {before after : Budget Amount}
    (hmove : Move limit before after) (hbefore : before.committed ≤ limit) :
    after.committed ≤ limit := by
  cases hmove with
  | idle => exact hbefore
  | spend amount hadmitted =>
    refine le_trans (le_of_eq ?_) hadmitted
    simp only [committed]
    abel
  | reserve amount hadmitted =>
    refine le_trans (le_of_eq ?_) hadmitted
    simp only [committed]
    abel
  | settle amount =>
    refine le_trans (le_of_eq ?_) hbefore
    simp only [committed]
    abel
  | release amount hamount =>
    refine le_trans ?_ hbefore
    simp only [committed]
    gcongr
    exact le_add_of_nonneg_right hamount

/-- A system whose steps are moves of a budget keeps what is spent within the limit, at every state
where no reservation is negative. -/
theorem run_spent_le {State Label : Type*} {step : State → Label → State → Prop} {limit : Amount}
    (budgetOf : State → Budget Amount)
    (hmoves : ∀ before label after, step before label after →
      Move limit (budgetOf before) (budgetOf after))
    {first last : State} {labels : List Label} (hrun : Run step first labels last)
    (hfirst : (budgetOf first).committed ≤ limit) (hreserved : 0 ≤ (budgetOf last).reserved) :
    (budgetOf last).spent ≤ limit := by
  have hkeeps : ∀ before label after, step before label after →
      (budgetOf before).committed ≤ limit → (budgetOf after).committed ≤ limit :=
    fun before label after hstep ↦ (hmoves before label after hstep).committed_le
  exact (le_add_of_nonneg_right hreserved).trans (hrun.invariant hkeeps hfirst)

end Budget

end Ec2Wrappers.Foundations
