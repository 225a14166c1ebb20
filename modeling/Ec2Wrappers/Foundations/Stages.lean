import Ec2Wrappers.Foundations.Python

/-!
# How a stage of a program ends

A stage of a program returns, or fails, or ends in a fault. A fault is an exception that leaves its
mark in the store, so that it can be told from any other failure. `Stage` says which of the three it
is: with two propositions that do not depend on the store, the stage is safe, and it works. A safe
stage that works returns, a safe stage that does not fails, and one that is not safe ends in a
fault.

The rules are those of a Hoare logic with the two propositions computed along the way. In a sequence
the second part has to be safe only if the first one works (`Stage.bind`). So the question whether a
whole program is free of faults comes down to a proposition about its inputs
(`Stage.not_faulty_iff`), and so does the question whether it returns (`Stage.returns`).
-/

set_option autoImplicit false
set_option relaxedAutoImplicit false

namespace Ec2Wrappers.Foundations

variable {Store Value Other Item : Type}

/-- From a store with the first property the program ends as `safe` and `works` say, and when it
returns its value and the store have the second one. -/
structure Stage (faulty before : Store → Prop) (program : Py Store Value)
    (after : Value → Store → Prop) (safe works : Prop) : Prop where
  completes : safe → works → ∀ store, before store →
    ∃ value next, program store = (.ok value, next) ∧ after value next
  fails : safe → ¬ works → ∀ store, before store →
    ∃ error next, program store = (.error error, next) ∧ ¬ faulty next
  faults : ¬ safe → ∀ store, before store →
    ∃ error next, program store = (.error error, next) ∧ faulty next

namespace Stage

variable {faulty before : Store → Prop} {program : Py Store Value} {after : Value → Store → Prop}
variable {safe works : Prop}

/-! ### Rules -/

/-- A sequence: the second part matters only where the first one works. -/
theorem bind {next : Value → Py Store Other} {last : Other → Store → Prop}
    {safeNext worksNext : Prop}
    (hfirst : Stage faulty before program after safe works)
    (hnext : ∀ value, Stage faulty (after value) (next value) last safeNext worksNext) :
    Stage faulty before (program >>= next) last (safe ∧ (works → safeNext))
      (works ∧ worksNext) where
  completes := by
    rintro ⟨hsafe, hsafeNext⟩ ⟨hworks, hworksNext⟩ store hbefore
    obtain ⟨value, middle, hrun, hmiddle⟩ := hfirst.completes hsafe hworks store hbefore
    rw [Py.bind_eq, Py.run_bind_ok hrun]
    exact (hnext value).completes (hsafeNext hworks) hworksNext middle hmiddle
  fails := by
    rintro ⟨hsafe, hsafeNext⟩ hfails store hbefore
    by_cases hworks : works
    · obtain ⟨value, middle, hrun, hmiddle⟩ := hfirst.completes hsafe hworks store hbefore
      rw [Py.bind_eq, Py.run_bind_ok hrun]
      exact (hnext value).fails (hsafeNext hworks) (fun hworksNext ↦ hfails ⟨hworks, hworksNext⟩)
        middle hmiddle
    · obtain ⟨error, left, hrun, hleft⟩ := hfirst.fails hsafe hworks store hbefore
      exact ⟨error, left, Py.run_bind_error hrun _, hleft⟩
  faults := by
    intro hnotSafe store hbefore
    by_cases hsafe : safe
    · have hworks : works := by
        by_contra hworks
        exact hnotSafe ⟨hsafe, fun hreached ↦ absurd hreached hworks⟩
      obtain ⟨value, middle, hrun, hmiddle⟩ := hfirst.completes hsafe hworks store hbefore
      rw [Py.bind_eq, Py.run_bind_ok hrun]
      exact (hnext value).faults (fun hsafeNext ↦ hnotSafe ⟨hsafe, fun _ ↦ hsafeNext⟩)
        middle hmiddle
    · obtain ⟨error, left, hrun, hleft⟩ := hfirst.faults hsafe store hbefore
      exact ⟨error, left, Py.run_bind_error hrun _, hleft⟩

/-- A part that only computes is safe, and works when there is a value. -/
theorem ofExcept (hbefore : ∀ store, before store → ¬ faulty store)
    (result : Except PyError Value) :
    Stage faulty before (Py.ofExcept result) (fun value store ↦ before store ∧ result = .ok value)
      True (∃ value, result = .ok value) where
  completes := by
    rintro - ⟨value, rfl⟩ store hstore
    exact ⟨value, store, rfl, hstore, rfl⟩
  fails := by
    intro _ hnone store hstore
    cases result with
    | ok value => exact absurd ⟨value, rfl⟩ hnone
    | error error => exact ⟨error, store, rfl, hbefore store hstore⟩
  faults := fun hnotSafe ↦ absurd trivial hnotSafe

/-- A part that always returns. -/
theorem returns_always (hrun : ∀ store, before store →
      ∃ value next, program store = (.ok value, next) ∧ after value next) :
    Stage faulty before program after True True where
  completes := fun _ _ ↦ hrun
  fails := fun _ hfails ↦ absurd trivial hfails
  faults := fun hnotSafe ↦ absurd trivial hnotSafe

/-- A part that always fails. -/
theorem fails_always (hsafe : safe) (hfails : ¬ works) (hrun : ∀ store, before store →
      ∃ error next, program store = (.error error, next) ∧ ¬ faulty next) :
    Stage faulty before program after safe works where
  completes := fun _ hworks ↦ absurd hworks hfails
  fails := fun _ _ ↦ hrun
  faults := fun hnotSafe ↦ absurd hsafe hnotSafe

/-- A part that always ends in a fault. -/
theorem faults_always (hnotSafe : ¬ safe) (hrun : ∀ store, before store →
      ∃ error next, program store = (.error error, next) ∧ faulty next) :
    Stage faulty before program after safe works where
  completes := fun hsafe ↦ absurd hsafe hnotSafe
  fails := fun hsafe ↦ absurd hsafe hnotSafe
  faults := fun _ ↦ hrun

/-- The propositions up to equivalence; whether a stage works matters only when it is safe. -/
theorem congr {safe' works' : Prop} (hstage : Stage faulty before program after safe works)
    (hsafe : safe ↔ safe') (hworks : safe → (works ↔ works')) :
    Stage faulty before program after safe' works' where
  completes := fun hsafe' hworks' ↦
    have hold := hsafe.mpr hsafe'
    hstage.completes hold ((hworks hold).mpr hworks')
  fails := fun hsafe' hfails ↦
    have hold := hsafe.mpr hsafe'
    hstage.fails hold fun hworksOld ↦ hfails ((hworks hold).mp hworksOld)
  faults := fun hnotSafe ↦ hstage.faults fun hold ↦ hnotSafe (hsafe.mp hold)

/-- A stronger property before, a weaker one after. -/
theorem conseq {before' : Store → Prop} {after' : Value → Store → Prop}
    (hstage : Stage faulty before program after safe works)
    (hbefore : ∀ store, before' store → before store)
    (hafter : ∀ value store, after value store → after' value store) :
    Stage faulty before' program after' safe works where
  completes := fun hsafe hworks store hstore ↦ by
    obtain ⟨value, next, hrun, hnext⟩ :=
      hstage.completes hsafe hworks store (hbefore store hstore)
    exact ⟨value, next, hrun, hafter value next hnext⟩
  fails := fun hsafe hfails store hstore ↦ hstage.fails hsafe hfails store (hbefore store hstore)
  faults := fun hnotSafe store hstore ↦ hstage.faults hnotSafe store (hbefore store hstore)

/-- A program that goes on as another one after a change of the store. -/
theorem step {other : Py Store Value} {change : Store → Store} {middle : Store → Prop}
    (hother : Stage faulty middle other after safe works)
    (hrun : ∀ store, program store = other (change store))
    (hchange : ∀ store, before store → middle (change store)) :
    Stage faulty before program after safe works where
  completes := fun hsafe hworks store hstore ↦ by
    rw [hrun]
    exact hother.completes hsafe hworks (change store) (hchange store hstore)
  fails := fun hsafe hfails store hstore ↦ by
    rw [hrun]
    exact hother.fails hsafe hfails (change store) (hchange store hstore)
  faults := fun hnotSafe store hstore ↦ by
    rw [hrun]
    exact hother.faults hnotSafe (change store) (hchange store hstore)

/-- What is known before a stage and does not depend on the store may be used for it. -/
theorem assume {known : Prop} (hstage : known → Stage faulty before program after safe works) :
    Stage faulty (fun store ↦ before store ∧ known) program after safe works where
  completes := fun hsafe hworks store hstore ↦
    (hstage hstore.2).completes hsafe hworks store hstore.1
  fails := fun hsafe hfails store hstore ↦ (hstage hstore.2).fails hsafe hfails store hstore.1
  faults := fun hnotSafe store hstore ↦ (hstage hstore.2).faults hnotSafe store hstore.1

/-- A loop over passes that are safe and keep the property works when every pass does. -/
theorem forEach {body : Item → Py Store Unit} {worksFor : Item → Prop}
    (hbody : ∀ item, Stage faulty before (body item) (fun _ ↦ before) True (worksFor item))
    (items : List Item) : Stage faulty before (Py.forEach items body) (fun _ ↦ before) True
      (∀ item ∈ items, worksFor item) := by
  induction items with
  | nil =>
    refine congr (returns_always fun store hstore ↦ ⟨(), store, rfl, hstore⟩) Iff.rfl fun _ ↦ ?_
    simp
  | cons item rest ih =>
    refine congr ((hbody item).bind fun _ ↦ ih) ?_ fun _ ↦ ?_
    · simp
    · simp

/-! ### Whole programs -/

/-- A program is free of faults exactly when it is safe. -/
theorem not_faulty_iff (hstage : Stage faulty before program after safe works)
    (hafter : ∀ value store, after value store → ¬ faulty store) {store : Store}
    (hstore : before store) : ¬ faulty (program store).2 ↔ safe := by
  by_cases hsafe : safe
  · refine iff_of_true ?_ hsafe
    by_cases hworks : works
    · obtain ⟨value, next, hrun, hnext⟩ := hstage.completes hsafe hworks store hstore
      rw [hrun]
      exact hafter value next hnext
    · obtain ⟨error, next, hrun, hnext⟩ := hstage.fails hsafe hworks store hstore
      rw [hrun]
      exact hnext
  · obtain ⟨error, next, hrun, hnext⟩ := hstage.faults hsafe store hstore
    refine iff_of_false ?_ hsafe
    rw [hrun]
    exact fun hclean ↦ hclean hnext

/-- A safe program that works returns. -/
theorem returns (hstage : Stage faulty before program after safe works) (hsafe : safe)
    (hworks : works) {store : Store} (hstore : before store) :
    ∃ value, (program store).1 = .ok value := by
  obtain ⟨value, next, hrun, -⟩ := hstage.completes hsafe hworks store hstore
  exact ⟨value, by rw [hrun]⟩

end Stage

end Ec2Wrappers.Foundations
