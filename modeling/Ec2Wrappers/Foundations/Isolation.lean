import Ec2Wrappers.Foundations.Tables

/-!
# Loops of transactions on separate parts of a database

A loop that runs one transaction for each item has no handler: the first body that raises leaves its
transaction open and ends the loop. `Isolated view keyOf body` says that every body works on a part
of the database of its own, the part that `view` shows for the key of the item: it reads nothing
else (`determined`) and changes nothing else (`frame`).

For items with pairwise different keys the order then does not matter. When every body returns from
the first database, the loop returns with no open transaction and every part is as the item alone
would leave it (`forEach_isolated_ok`); when one of them raises, the loop leaves a transaction open
(`forEach_isolated_error`). `forEach_isolated_of_ok` starts from a loop that returned.
-/

set_option autoImplicit false
set_option relaxedAutoImplicit false

namespace Ec2Wrappers.Foundations

variable {Database Item Key View : Type}

/-- Every body reads and changes only the part of the database that belongs to its item. -/
structure Isolated (view : Key → Database → View) (keyOf : Item → Key)
    (body : Item → Py Database Unit) : Prop where
  frame : ∀ {item before after other}, body item before = (.ok (), after) → other ≠ keyOf item →
    view other after = view other before
  determined : ∀ {item first second after},
    view (keyOf item) first = view (keyOf item) second → body item first = (.ok (), after) →
      ∃ same, body item second = (.ok (), same) ∧ view (keyOf item) same = view (keyOf item) after

/-- The body returns from the database. -/
def Returns (body : Py Database Unit) (database : Database) : Prop :=
  ∃ after, body database = (.ok (), after)

/-- A body returns or raises. -/
theorem returns_or_raises (body : Py Database Unit) (database : Database) :
    Returns body database ∨ ∃ error left, body database = (.error error, left) := by
  rcases hrun : body database with ⟨result, after⟩
  cases result with
  | ok value => exact Or.inl ⟨after, hrun⟩
  | error error => exact Or.inr ⟨error, after, rfl⟩

section Isolated

variable {view : Key → Database → View} {keyOf : Item → Key} {body : Item → Py Database Unit}

/-- Whether a body returns depends on its own part alone. -/
theorem Isolated.returns_iff (hisolated : Isolated view keyOf body) {item : Item}
    {first second : Database} (hview : view (keyOf item) first = view (keyOf item) second) :
    Returns (body item) first ↔ Returns (body item) second := by
  constructor
  · rintro ⟨after, hrun⟩
    obtain ⟨same, hsame, -⟩ := hisolated.determined hview hrun
    exact ⟨same, hsame⟩
  · rintro ⟨after, hrun⟩
    obtain ⟨same, hsame, -⟩ := hisolated.determined hview.symm hrun
    exact ⟨same, hsame⟩

/-- When every body returns from the first database the loop returns, and leaves every part as the
item alone would. -/
theorem forEach_isolated_ok (hisolated : Isolated view keyOf body) {items : List Item}
    {database : Database} (hnodup : (items.map keyOf).Nodup)
    (hreturns : ∀ item ∈ items, Returns (body item) database) :
    ∃ after, Py.forEach items (fun item ↦ transaction (body item)) (.idle database) =
        (.ok (), .idle after) ∧
      (∀ item ∈ items, ∀ alone, body item database = (.ok (), alone) →
        view (keyOf item) after = view (keyOf item) alone) ∧
      ∀ other, other ∉ items.map keyOf → view other after = view other database := by
  induction items generalizing database with
  | nil => exact ⟨database, rfl, by simp, by simp⟩
  | cons item rest ih =>
    obtain ⟨hnew, hrest⟩ := List.nodup_cons.mp hnodup
    obtain ⟨middle, hmiddle⟩ := hreturns item List.mem_cons_self
    -- the parts of the other items are as before, so their bodies still return
    have hkept : ∀ other ∈ rest, view (keyOf other) middle = view (keyOf other) database := by
      intro other hother
      refine hisolated.frame hmiddle fun hsame ↦ hnew ?_
      exact hsame ▸ List.mem_map_of_mem hother
    have hstill : ∀ other ∈ rest, Returns (body other) middle := fun other hother ↦
      (hisolated.returns_iff (hkept other hother)).mpr
        (hreturns other (List.mem_cons_of_mem item hother))
    obtain ⟨after, hloop, hparts, hothers⟩ := ih hrest hstill
    refine ⟨after, ?_, ?_, ?_⟩
    · rw [Py.forEach_cons, Py.run_bind_ok (transaction_of_ok hmiddle)]
      exact hloop
    · intro other hother alone halone
      rcases List.mem_cons.mp hother with rfl | hmem
      · rw [hmiddle] at halone
        cases halone
        exact hothers (keyOf other) hnew
      · obtain ⟨same, hsame, hview⟩ := hisolated.determined (hkept other hmem).symm halone
        rw [hparts other hmem same hsame, hview]
    · intro other hother
      rw [List.map_cons, List.mem_cons, not_or] at hother
      rw [hothers other hother.2, hisolated.frame hmiddle hother.1]

/-- When one of the bodies raises from the first database the loop leaves a transaction open. -/
theorem forEach_isolated_error (hisolated : Isolated view keyOf body) {items : List Item}
    {database : Database} (hnodup : (items.map keyOf).Nodup)
    (hraises : ∃ item ∈ items, ¬ Returns (body item) database) :
    (Py.forEach items (fun item ↦ transaction (body item)) (.idle database)).2.working ≠ none := by
  induction items generalizing database with
  | nil => simp at hraises
  | cons item rest ih =>
    obtain ⟨hnew, hrest⟩ := List.nodup_cons.mp hnodup
    rw [Py.forEach_cons]
    rcases returns_or_raises (body item) database with ⟨middle, hmiddle⟩ | ⟨error, left, hleft⟩
    · rw [Py.run_bind_ok (transaction_of_ok hmiddle)]
      obtain ⟨raising, hmem, hraising⟩ := hraises
      rcases List.mem_cons.mp hmem with rfl | hlater
      · exact absurd ⟨middle, hmiddle⟩ hraising
      · refine ih hrest ⟨raising, hlater, fun hreturns ↦ hraising ?_⟩
        refine (hisolated.returns_iff (hisolated.frame hmiddle fun hsame ↦ hnew ?_)).mp hreturns
        exact hsame ▸ List.mem_map_of_mem hlater
    · rw [Py.run_bind_error (transaction_of_error hleft)]
      exact Option.some_ne_none left

/-- A loop of transactions that returns leaves none open. -/
theorem working_of_forEach_ok {items : List Item} {database : Database}
    {connection : Connection Database}
    (hrun : Py.forEach items (fun item ↦ transaction (body item)) (.idle database) =
      (.ok (), connection)) : connection.working = none := by
  refine Py.forEach_invariant (fun _ store ↦ store.working = none) ?_ items rfl hrun
  intro item _ before after _ hbody
  unfold transaction at hbody
  split at hbody
  · cases hbody
  · split at hbody
    · cases hbody
      rfl
    · cases hbody

/-- A loop that returns leaves the part of each item as the item alone would, and the other parts as
they were. -/
theorem forEach_isolated_of_ok (hisolated : Isolated view keyOf body) {items : List Item}
    {database : Database} {connection : Connection Database} (hnodup : (items.map keyOf).Nodup)
    (hrun : Py.forEach items (fun item ↦ transaction (body item)) (.idle database) =
      (.ok (), connection)) :
    (∀ item ∈ items, ∃ alone, body item database = (.ok (), alone) ∧
      view (keyOf item) connection.close = view (keyOf item) alone) ∧
    ∀ other, other ∉ items.map keyOf → view other connection.close = view other database := by
  have hreturns : ∀ item ∈ items, Returns (body item) database := by
    by_contra hraises
    push Not at hraises
    have hopen := forEach_isolated_error hisolated hnodup hraises
    rw [hrun] at hopen
    exact hopen (working_of_forEach_ok hrun)
  obtain ⟨after, hloop, hparts, hothers⟩ := forEach_isolated_ok hisolated hnodup hreturns
  rw [hrun] at hloop
  cases hloop
  refine ⟨fun item hitem ↦ ?_, hothers⟩
  obtain ⟨alone, halone⟩ := hreturns item hitem
  exact ⟨alone, halone, hparts item hitem alone halone⟩

end Isolated

end Ec2Wrappers.Foundations
