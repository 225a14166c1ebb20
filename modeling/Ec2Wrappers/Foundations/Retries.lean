import Mathlib.Data.List.Basic
import Mathlib.Tactic.Common

/-!
# Asking until an answer is final

A client that sends the same request again and again. An answer is final, or it has failed and uses
up one of a number of tries, or it sends the client elsewhere at no cost. `ask` goes through the
answers that the network will give; it is none while the client still waits for one.

`ask_eq_some_iff` says what has been asked when the client stops. The answers that do not send it
elsewhere are at most as many as the tries (`Stopped.length_charged_le`), so whatever the other side
does for each of them is done at most that often (`length_filter_le_of_ask`). The client stops as
soon as there are that many (`exists_ask`): only answers that send it elsewhere can keep it asking.
-/

set_option autoImplicit false
set_option relaxedAutoImplicit false

namespace Ec2Wrappers.Foundations

/-- What an answer means to the client. -/
inductive Verdict
  | final
  | failed
  | moved
  deriving DecidableEq, Repr

/-- The answers that were asked for, in order, and the final one if there was one. -/
structure Asked (Answer : Type*) where
  answers : List Answer
  final : Option Answer

variable {Answer : Type*} (judge : Answer → Verdict)

/-- With one more answer in front. -/
def Asked.after (answer : Answer) (asked : Asked Answer) : Asked Answer :=
  ⟨answer :: asked.answers, asked.final⟩

/-- Ask with a number of tries left. -/
def ask : ℕ → List Answer → Option (Asked Answer)
  | 0, _ => some ⟨[], none⟩
  | _ + 1, [] => none
  | tries + 1, answer :: rest =>
    match judge answer with
    | .final => some ⟨[answer], some answer⟩
    | .failed => (ask tries rest).map (Asked.after answer)
    | .moved => (ask (tries + 1) rest).map (Asked.after answer)

/-- The answers that use up a try. -/
def failures (answers : List Answer) : List Answer := answers.filter (judge · = .failed)

/-- The answers that do not send the client elsewhere. -/
def charged (answers : List Answer) : List Answer := answers.filter (judge · ≠ .moved)

/-- The client has stopped: it had no try, or the last answer is final, or the last answer is the
failure that has used up the tries. -/
inductive Stopped : ℕ → Asked Answer → Prop
  | untried : Stopped 0 ⟨[], none⟩
  | final {tries : ℕ} (before : List Answer) {answer : Answer}
      (hbefore : ∀ other ∈ before, judge other ≠ .final)
      (hfailures : (failures judge before).length < tries) (hanswer : judge answer = .final) :
      Stopped tries ⟨before ++ [answer], some answer⟩
  | exhausted {tries : ℕ} (before : List Answer) {answer : Answer}
      (hbefore : ∀ other ∈ before, judge other ≠ .final)
      (hfailures : (failures judge before).length + 1 = tries) (hanswer : judge answer = .failed) :
      Stopped tries ⟨before ++ [answer], none⟩

variable {judge} {tries : ℕ} {answer : Answer} {answers : List Answer} {asked : Asked Answer}

theorem failures_cons_failed (hanswer : judge answer = .failed) :
    failures judge (answer :: answers) = answer :: failures judge answers := by
  simp [failures, hanswer]

theorem failures_cons_moved (hanswer : judge answer = .moved) :
    failures judge (answer :: answers) = failures judge answers := by
  simp [failures, hanswer]

/-- One more failure in front of a client that has stopped. -/
theorem Stopped.cons_failed (hstopped : Stopped judge tries asked)
    (hanswer : judge answer = .failed) : Stopped judge (tries + 1) (asked.after answer) := by
  have hfinal : judge answer ≠ .final := by simp [hanswer]
  cases hstopped with
  | untried => exact .exhausted [] (by simp) rfl hanswer
  | final before hbefore hfailures hlast =>
    refine .final (answer :: before) (List.forall_mem_cons.mpr ⟨hfinal, hbefore⟩) ?_ hlast
    rw [failures_cons_failed hanswer]
    exact Nat.succ_lt_succ hfailures
  | exhausted before hbefore hfailures hlast =>
    refine .exhausted (answer :: before) (List.forall_mem_cons.mpr ⟨hfinal, hbefore⟩) ?_ hlast
    rw [failures_cons_failed hanswer, List.length_cons, hfailures]

/-- One more move in front of a client that has stopped and had a try left. -/
theorem Stopped.cons_moved (hstopped : Stopped judge (tries + 1) asked)
    (hanswer : judge answer = .moved) : Stopped judge (tries + 1) (asked.after answer) := by
  have hfinal : judge answer ≠ .final := by simp [hanswer]
  cases hstopped with
  | final before hbefore hfailures hlast =>
    refine .final (answer :: before) (List.forall_mem_cons.mpr ⟨hfinal, hbefore⟩) ?_ hlast
    rw [failures_cons_moved hanswer]
    exact hfailures
  | exhausted before hbefore hfailures hlast =>
    refine .exhausted (answer :: before) (List.forall_mem_cons.mpr ⟨hfinal, hbefore⟩) ?_ hlast
    rw [failures_cons_moved hanswer]
    exact hfailures

/-- What has been asked for when the client stops: the first answers, and it has stopped there. -/
theorem ask_spec (hasked : ask judge tries answers = some asked) :
    asked.answers <+: answers ∧ Stopped judge tries asked := by
  induction answers generalizing tries asked with
  | nil =>
    cases tries with
    | zero =>
      cases hasked
      exact ⟨List.prefix_rfl, .untried⟩
    | succ tries => cases hasked
  | cons answer rest ih =>
    cases tries with
    | zero =>
      cases hasked
      exact ⟨List.nil_prefix, .untried⟩
    | succ tries =>
      rw [ask] at hasked
      split at hasked
      · next hanswer =>
        cases hasked
        exact ⟨List.cons_prefix_cons.mpr ⟨rfl, List.nil_prefix⟩,
          .final [] (by simp) (Nat.succ_pos _) hanswer⟩
      · next hanswer =>
        obtain ⟨later, hlater, rfl⟩ := Option.map_eq_some_iff.mp hasked
        obtain ⟨hstart, hstopped⟩ := ih hlater
        exact ⟨List.cons_prefix_cons.mpr ⟨rfl, hstart⟩, hstopped.cons_failed hanswer⟩
      · next hanswer =>
        obtain ⟨later, hlater, rfl⟩ := Option.map_eq_some_iff.mp hasked
        obtain ⟨hstart, hstopped⟩ := ih hlater
        exact ⟨List.cons_prefix_cons.mpr ⟨rfl, hstart⟩, hstopped.cons_moved hanswer⟩

/-- Answers that leave a try are followed by what is asked for with the tries that they leave. -/
theorem ask_append {before : List Answer} (left : ℕ)
    (hbefore : ∀ other ∈ before, judge other ≠ .final)
    (hfailures : (failures judge before).length + (left + 1) = tries) (rest : List Answer) :
    ask judge tries (before ++ rest) =
      (ask judge (left + 1) rest).map fun asked ↦ ⟨before ++ asked.answers, asked.final⟩ := by
  induction before generalizing tries with
  | nil =>
    cases hfailures
    simp [failures]
  | cons first before ih =>
    obtain ⟨hfirst, hbefore⟩ := List.forall_mem_cons.mp hbefore
    obtain ⟨tries, rfl⟩ : ∃ fewer, tries = fewer + 1 :=
      ⟨_, hfailures.symm.trans (Nat.add_assoc _ _ _).symm⟩
    rw [List.cons_append, ask]
    cases hjudged : judge first with
    | final => exact absurd hjudged hfirst
    | failed =>
      rw [failures_cons_failed hjudged, List.length_cons] at hfailures
      simp only
      rw [ih hbefore (by omega), Option.map_map]
      rfl
    | moved =>
      rw [failures_cons_moved hjudged] at hfailures
      simp only
      rw [ih hbefore hfailures, Option.map_map]
      rfl

/-- A client that has stopped asks for nothing more. -/
theorem ask_of_stopped (hstopped : Stopped judge tries asked) (rest : List Answer) :
    ask judge tries (asked.answers ++ rest) = some asked := by
  cases hstopped with
  | untried => rw [ask]
  | @final _ before answer hbefore hfailures hanswer =>
    obtain ⟨left, rfl⟩ := Nat.exists_eq_add_of_lt hfailures
    rw [List.append_assoc, ask_append left hbefore (by omega)]
    simp [ask, hanswer]
  | @exhausted _ before answer hbefore hfailures hanswer =>
    rw [List.append_assoc, ask_append 0 hbefore (by omega)]
    simp [ask, hanswer, Asked.after]

/-- The client stops where it has to stop. -/
theorem ask_eq_some_iff : ask judge tries answers = some asked ↔
    asked.answers <+: answers ∧ Stopped judge tries asked := by
  refine ⟨ask_spec, ?_⟩
  rintro ⟨⟨rest, rfl⟩, hstopped⟩
  exact ask_of_stopped hstopped rest

/-- Answers none of which is final are charged when they have failed. -/
theorem charged_eq_failures (hanswers : ∀ other ∈ answers, judge other ≠ .final) :
    charged judge answers = failures judge answers := by
  refine List.filter_congr fun other hother ↦ ?_
  have hother := hanswers other hother
  cases hjudged : judge other <;> simp_all

/-- No more answers are charged than there are tries. -/
theorem Stopped.length_charged_le (hstopped : Stopped judge tries asked) :
    (charged judge asked.answers).length ≤ tries := by
  have hlast {before : List Answer} {answer : Answer}
      (hbefore : ∀ other ∈ before, judge other ≠ .final) (hanswer : judge answer ≠ .moved) :
      charged judge (before ++ [answer]) = failures judge before ++ [answer] := by
    rw [charged, List.filter_append, ← charged, charged_eq_failures hbefore]
    simp [hanswer]
  cases hstopped with
  | untried => exact Nat.le_refl 0
  | final before hbefore hfailures hanswer =>
    rw [hlast hbefore (by simp [hanswer]), List.length_append]
    exact hfailures
  | exhausted before hbefore hfailures hanswer =>
    rw [hlast hbefore (by simp [hanswer]), List.length_append]
    exact Nat.le_of_eq hfailures

/-- What is done at most once for each answer, and not for one that sends the client elsewhere, is
done at most as often as there are tries. -/
theorem length_filter_le_of_ask {done : Answer → Bool}
    (hdone : ∀ other, judge other = .moved → done other = false)
    (hasked : ask judge tries answers = some asked) :
    (asked.answers.filter done).length ≤ tries := by
  have hcharged : (asked.answers.filter done).Sublist (charged judge asked.answers) := by
    refine List.monotone_filter_right _ fun other hother ↦ ?_
    simp only [decide_eq_true_eq]
    intro hmoved
    rw [hdone other hmoved] at hother
    cases hother
  exact Nat.le_trans hcharged.length_le (ask_spec hasked).2.length_charged_le

/-- The client stops once there are as many charged answers as tries. -/
theorem exists_ask (hanswers : tries ≤ (charged judge answers).length) :
    ∃ asked, ask judge tries answers = some asked := by
  induction answers generalizing tries with
  | nil =>
    cases Nat.le_zero.mp hanswers
    exact ⟨_, rfl⟩
  | cons answer rest ih =>
    cases tries with
    | zero => exact ⟨_, rfl⟩
    | succ tries =>
      rw [ask]
      split
      · exact ⟨_, rfl⟩
      · next hanswer =>
        simp only [charged, hanswer, ne_eq, reduceCtorEq, not_false_eq_true, decide_true,
          List.filter_cons_of_pos, List.length_cons, Nat.add_le_add_iff_right] at hanswers
        obtain ⟨asked, hasked⟩ := ih hanswers
        exact ⟨_, Option.map_eq_some_iff.mpr ⟨asked, hasked, rfl⟩⟩
      · next hanswer =>
        have hrest : tries + 1 ≤ (charged judge rest).length := by
          simpa [charged, hanswer] using hanswers
        obtain ⟨asked, hasked⟩ := ih hrest
        exact ⟨_, Option.map_eq_some_iff.mpr ⟨asked, hasked, rfl⟩⟩

/-- As many failures as tries are all asked for. -/
theorem ask_of_failed (hfailed : ∀ other ∈ answers, judge other = .failed) :
    ask judge answers.length answers = some ⟨answers, none⟩ := by
  induction answers with
  | nil => rfl
  | cons answer rest ih =>
    obtain ⟨hanswer, hrest⟩ := List.forall_mem_cons.mp hfailed
    rw [List.length_cons, ask, hanswer]
    simp [ih hrest, Asked.after]

/-- Asking for what is drawn from other answers. -/
theorem ask_map {Other : Type*} (f : Other → Answer) (others : List Other) :
    ask judge tries (others.map f) = (ask (judge ∘ f) tries others).map fun asked ↦
      ⟨asked.answers.map f, asked.final.map f⟩ := by
  induction others generalizing tries with
  | nil => cases tries <;> rfl
  | cons other rest ih =>
    cases tries with
    | zero => rfl
    | succ tries =>
      rw [List.map_cons, ask, ask, Function.comp_apply]
      cases judge (f other) with
      | final => rfl
      | failed =>
        simp only [ih, Option.map_map]
        rfl
      | moved =>
        simp only [ih, Option.map_map]
        rfl

end Ec2Wrappers.Foundations
