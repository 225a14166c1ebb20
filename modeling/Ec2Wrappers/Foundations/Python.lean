import Ec2Wrappers.Foundations.Text
import Mathlib.Algebra.Order.Ring.Rat
import Mathlib.Tactic.Ring

/-!
# Python programs that change a store and may raise

A Python function that talks to a database or to a remote service is read here as a function from
a store to a result and the store it leaves. The result is a value or the exception that ended the
function. An exception does not undo what was done before it: `Py.bind` keeps the store of the part
that raised, and only a transaction of the store itself can take it back.

`forEach` is the `for` loop over a list. `exceptStandardError` is `try: … except StandardError:
pass`, which swallows the exception and keeps the store; `exceptOSError` handles an `OSError` by its
`errno`, and `tryFinally` runs a cleanup on every exit of its body (`holds_tryFinally`).

Two rules carry the proofs about such functions. `Py.Keeps P x` says that `x` keeps a property of
the store whether it returns or raises; it is closed under `bind` and `forEach` (`keeps_bind`,
`keeps_forEach`). `ok_of_bind` takes a part that only computes apart once it has returned.
`forEach_invariant` is the loop rule for a loop that ran to its end: an invariant indexed by the
elements still to come.

Numbers are `PyNumber`, an `int` or a `float`; a float is an exact rational. Where costs are added,
the rounding of the doubles is left out: it matters only where a total is exactly the limit it is
compared with. `PyValue` is what an option or a JSON entry can hold in place of a number.
-/

set_option autoImplicit false
set_option relaxedAutoImplicit false

namespace Ec2Wrappers.Foundations

/-- The exceptions that can end a function. `exception` is a bare `Exception`, and `library` an
exception class of a library, derived from `StandardError`. -/
inductive PyError
  | nameError (name : Text)
  | attributeError (name : Text)
  | keyError (key : Text)
  | typeError
  | indexError
  | exception (message : Text)
  | library (exceptionClass : Text) (reason : Text)
  deriving DecidableEq, Repr

/-- Whether `except StandardError` catches the exception. -/
def PyError.isStandardError : PyError → Bool
  | .exception _ => false
  | _ => true

/-- The class of the exceptions of the operating system's calls. -/
def osErrorClass : Text := "OSError".toList

/-- An `OSError` with the name of its `errno`. -/
def PyError.osError (errno : Text) : PyError := .library osErrorClass errno

/-- The `errno` of an `OSError`. -/
def PyError.errno? : PyError → Option Text
  | .library exceptionClass reason => if exceptionClass = osErrorClass then some reason else none
  | _ => none

/-! ### Parts that only compute -/

/-- A sequence that returned: its first part did, and its second part on the value of the first. -/
theorem ok_of_bind {Error Value Other : Type} {first : Except Error Value}
    {next : Value → Except Error Other} {result : Other} (hok : first >>= next = .ok result) :
    ∃ value, first = .ok value ∧ next value = .ok result := by
  cases first with
  | ok value => exact ⟨value, rfl, hok⟩
  | error error => cases hok

/-- A part with its error rewrapped returns what it returned before. -/
theorem ok_of_mapError {Error Other Value : Type} {first : Except Error Value}
    {wrap : Error → Other} {value : Value} (hok : first.mapError wrap = .ok value) :
    first = .ok value := by
  cases first with
  | ok value => cases hok; rfl
  | error error => cases hok

/-- A part whose value is known has returned it. -/
theorem ok_of_toOption {Error Value : Type} {first : Except Error Value} {value : Value}
    (hvalue : first.toOption = some value) : first = .ok value := by
  cases first with
  | ok value => exact congrArg Except.ok (Option.some.inj hvalue)
  | error error => cases hvalue

/-- A sequence whose second part only rewraps the value returns when its first part does. -/
theorem returns_bind_pure_iff {Value Other : Type} (first : Except PyError Value)
    (wrap : Value → Other) :
    (∃ other, (first >>= fun value ↦ pure (wrap value)) = .ok other) ↔
      ∃ value, first = .ok value := by
  constructor
  · rintro ⟨other, hother⟩
    obtain ⟨value, hvalue, -⟩ := ok_of_bind hother
    exact ⟨value, hvalue⟩
  · rintro ⟨value, rfl⟩
    exact ⟨wrap value, rfl⟩

/-! ### Numbers -/

/-- A Python number; a float is an exact rational, and sums and products are not rounded. -/
inductive PyNumber
  | int (value : ℤ)
  | float (value : ℚ)
  deriving DecidableEq, Repr

/-- The value of a number. -/
def PyNumber.toRat : PyNumber → ℚ
  | .int value => value
  | .float value => value

/-- `+` of two numbers. -/
def PyNumber.add : PyNumber → PyNumber → PyNumber
  | .int first, .int second => .int (first + second)
  | first, second => .float (first.toRat + second.toRat)

@[simp] theorem PyNumber.toRat_int (value : ℤ) : (PyNumber.int value).toRat = value := rfl

@[simp] theorem PyNumber.toRat_float (value : ℚ) : (PyNumber.float value).toRat = value := rfl

@[simp] theorem PyNumber.toRat_add (first second : PyNumber) :
    (first.add second).toRat = first.toRat + second.toRat := by
  cases first <;> cases second <;> simp [PyNumber.add]

/-- A value met where the code expects a number. -/
inductive PyValue
  | number (value : PyNumber)
  | text (value : Text)
  | none
  deriving DecidableEq, Repr

/-- `number * value`: an integer repeats a text, a float cannot. -/
def PyNumber.mul : PyNumber → PyValue → Except PyError PyValue
  | .int first, .number (.int second) => .ok (.number (.int (first * second)))
  | first, .number second => .ok (.number (.float (first.toRat * second.toRat)))
  | .int count, .text value => .ok (.text (List.replicate count.toNat value).flatten)
  | .float _, .text _ => .error .typeError
  | _, .none => .error .typeError

/-- The product of two numbers. -/
theorem PyNumber.mul_number (first second : PyNumber) :
    ∃ product, first.mul (.number second) = .ok (.number product) ∧
      product.toRat = first.toRat * second.toRat := by
  cases first <;> cases second <;> exact ⟨_, rfl, by simp⟩

/-- A product that is a number has the product of the values. -/
theorem PyNumber.mul_eq_number {first : PyNumber} {value : PyValue} {product : PyNumber}
    (hmul : first.mul value = .ok (.number product)) :
    ∃ second, value = .number second ∧ product.toRat = first.toRat * second.toRat := by
  cases value with
  | number second =>
    refine ⟨second, rfl, ?_⟩
    cases first <;> cases second <;> simp_all [PyNumber.mul] <;> simp [← hmul]
  | text _ => cases first <;> simp [PyNumber.mul] at hmul
  | none => cases first <;> simp [PyNumber.mul] at hmul

/-- `number + value`. -/
def PyNumber.addValue (first : PyNumber) : PyValue → Except PyError PyNumber
  | .number second => .ok (first.add second)
  | _ => .error .typeError

/-- Only a number can be added to a number. -/
theorem PyNumber.addValue_eq_ok {first total : PyNumber} {value : PyValue}
    (hadd : first.addValue value = .ok total) :
    ∃ second, value = .number second ∧ total = first.add second := by
  cases value with
  | number second => exact ⟨second, rfl, by simpa [PyNumber.addValue] using hadd.symm⟩
  | text _ => simp [PyNumber.addValue] at hadd
  | none => simp [PyNumber.addValue] at hadd

/-! ### Functions of a store -/

/-- A function of the store that returns a value or raises, and leaves a store in both cases. -/
def Py (Store Value : Type) := Store → Except PyError Value × Store

namespace Py

variable {Store Value Other Item : Type}

/-- Return a value without touching the store. -/
def ret (value : Value) : Py Store Value := fun store ↦ (.ok value, store)

/-- Run the second part on the value of the first; an exception of the first part ends both. -/
def bind (first : Py Store Value) (next : Value → Py Store Other) : Py Store Other := fun store ↦
  match first store with
  | (.ok value, store) => next value store
  | (.error error, store) => (.error error, store)

instance : Monad (Py Store) where
  pure := ret
  bind := bind

/-- `raise`. -/
def raise (error : PyError) : Py Store Value := fun store ↦ (.error error, store)

/-- A part that only computes. -/
def ofExcept (result : Except PyError Value) : Py Store Value := fun store ↦ (result, store)

/-- Read the store. -/
def get : Py Store Store := fun store ↦ (.ok store, store)

/-- Change the store. -/
def modify (change : Store → Store) : Py Store Unit := fun store ↦ (.ok (), change store)

/-- A function of a part of the store, run on the whole store. -/
def within {Part : Type} (part : Store → Part) (put : Store → Part → Store)
    (program : Py Part Value) : Py Store Value := fun store ↦
  let (result, after) := program (part store)
  (result, put store after)

/-- `for item in items: body(item)`. -/
def forEach : List Item → (Item → Py Store Unit) → Py Store Unit
  | [], _ => ret ()
  | item :: rest, body => bind (body item) fun _ ↦ forEach rest body

/-- `try: body; except StandardError: pass`. -/
def exceptStandardError (body : Py Store Unit) : Py Store Unit := fun store ↦
  match body store with
  | (.error error, after) =>
    if error.isStandardError then (.ok (), after) else (.error error, after)
  | returned => returned

/-- `try: body; except OSError, e: handler(e.errno, e)`. -/
def exceptOSError (body : Py Store Value) (handler : Text → PyError → Py Store Value) :
    Py Store Value := fun store ↦
  match body store with
  | (.error error, after) =>
    match error.errno? with
    | some errno => handler errno error after
    | none => (.error error, after)
  | returned => returned

/-- `try: body; finally: cleanup`. An exception of the cleanup takes the place of the outcome of the
body. -/
def tryFinally (body : Py Store Value) (cleanup : Py Store Unit) : Py Store Value := fun store ↦
  match body store with
  | (result, middle) =>
    match cleanup middle with
    | (.ok _, after) => (result, after)
    | (.error error, after) => (.error error, after)

/-! ### Running the parts -/

@[simp] theorem run_pure (value : Value) (store : Store) :
    (pure value : Py Store Value) store = (.ok value, store) := rfl

@[simp] theorem run_ret (value : Value) (store : Store) :
    (ret value : Py Store Value) store = (.ok value, store) := rfl

@[simp] theorem run_raise (error : PyError) (store : Store) :
    (raise error : Py Store Value) store = (.error error, store) := rfl

@[simp] theorem run_ofExcept (result : Except PyError Value) (store : Store) :
    (ofExcept result : Py Store Value) store = (result, store) := rfl

@[simp] theorem run_get (store : Store) : (get : Py Store Store) store = (.ok store, store) := rfl

@[simp] theorem run_modify (change : Store → Store) (store : Store) :
    modify change store = (.ok (), change store) := rfl

/-- Running a function of a part. -/
theorem run_within {Part : Type} {part : Store → Part} {put : Store → Part → Store}
    {program : Py Part Value} {store : Store} {result : Except PyError Value} {after : Part}
    (hrun : program (part store) = (result, after)) :
    within part put program store = (result, put store after) := by
  rw [within, hrun]

/-- The monad's bind is `Py.bind`. -/
theorem bind_eq (first : Py Store Value) (next : Value → Py Store Other) :
    (first >>= next) = bind first next := rfl

/-- Bind after a part that returned. -/
theorem run_bind_ok {first : Py Store Value} {store after : Store} {value : Value}
    (hfirst : first store = (.ok value, after)) (next : Value → Py Store Other) :
    bind first next store = next value after := by
  rw [bind, hfirst]

/-- Bind after a part that raised. -/
theorem run_bind_error {first : Py Store Value} {store after : Store} {error : PyError}
    (hfirst : first store = (.error error, after)) (next : Value → Py Store Other) :
    bind first next store = (.error error, after) := by
  rw [bind, hfirst]

@[simp] theorem forEach_nil (body : Item → Py Store Unit) (store : Store) :
    forEach [] body store = (.ok (), store) := rfl

/-- A loop runs its body on the first item and then loops over the rest. -/
theorem forEach_cons (item : Item) (rest : List Item) (body : Item → Py Store Unit) :
    forEach (item :: rest) body = bind (body item) fun _ ↦ forEach rest body := rfl

/-- A loop over a list and then over another. -/
theorem forEach_append (first second : List Item) (body : Item → Py Store Unit) :
    forEach (first ++ second) body = bind (forEach first body) fun _ ↦ forEach second body := by
  induction first with
  | nil => rfl
  | cons item rest ih =>
    funext store
    rw [List.cons_append, forEach_cons, forEach_cons, ih]
    cases hrun : body item store with
    | mk result after => cases result <;> simp [bind, hrun]

/-- Nested loops are one loop over the flattened list. -/
theorem forEach_flatten (items : List (List Item)) (body : Item → Py Store Unit) :
    forEach items.flatten body = forEach items fun inner ↦ forEach inner body := by
  induction items with
  | nil => rfl
  | cons inner rest ih => rw [List.flatten_cons, forEach_append, forEach_cons, ih]

/-- A loop whose every pass returns without a change returns without a change. -/
theorem forEach_unchanged {items : List Item} {body : Item → Py Store Unit} {store : Store}
    (hbody : ∀ item ∈ items, body item store = (.ok (), store)) :
    forEach items body store = (.ok (), store) := by
  induction items with
  | nil => rfl
  | cons item rest ih =>
    rw [forEach_cons, run_bind_ok (hbody item List.mem_cons_self)]
    exact ih fun other hother ↦ hbody other (List.mem_cons_of_mem item hother)

/-- A loop whose every pass returns with a known store returns with the passes' stores folded. -/
theorem forEach_returns {items : List Item} {body : Item → Py Store Unit}
    {after : Store → Item → Store}
    (hbody : ∀ item ∈ items, ∀ store, body item store = (.ok (), after store item))
    (store : Store) :
    forEach items body store = (.ok (), items.foldl after store) := by
  induction items generalizing store with
  | nil => rfl
  | cons item rest ih =>
    rw [forEach_cons, run_bind_ok (hbody item List.mem_cons_self store)]
    exact ih (fun other hother ↦ hbody other (List.mem_cons_of_mem item hother)) _

/-- A loop ends at the first pass that raises, when no pass before it makes a change. -/
theorem forEach_raises {items : List Item} {body : Item → Py Store Unit} {store : Store}
    (hbody : ∀ item ∈ items, body item store = (.ok (), store) ∨
      ∃ error, body item store = (.error error, store))
    (hsome : ∃ item ∈ items, body item store ≠ (.ok (), store)) :
    ∃ error, forEach items body store = (.error error, store) := by
  induction items with
  | nil => simp at hsome
  | cons item rest ih =>
    rw [forEach_cons]
    rcases hbody item List.mem_cons_self with hreturns | ⟨error, hraises⟩
    · rw [run_bind_ok hreturns]
      obtain ⟨raising, hmem, hraising⟩ := hsome
      rcases List.mem_cons.mp hmem with rfl | hrest
      · exact absurd hreturns hraising
      · exact ih (fun other hother ↦ hbody other (List.mem_cons_of_mem item hother))
          ⟨raising, hrest, hraising⟩
    · rw [run_bind_error hraises]
      exact ⟨error, rfl⟩

/-! ### Functions that never return -/

/-- The function raises from every store. -/
def Raises (program : Py Store Value) : Prop :=
  ∀ store, ∃ error after, program store = (.error error, after)

/-- What comes before a part that always raises either raises itself or reaches it. -/
theorem raises_bind {first : Py Store Value} {next : Value → Py Store Other}
    (hnext : ∀ value, Raises (next value)) : Raises (bind first next) := by
  intro store
  cases hrun : first store with
  | mk result after =>
    cases result with
    | ok value =>
      rw [run_bind_ok hrun]
      exact hnext value after
    | error error => exact ⟨error, after, run_bind_error hrun next⟩

/-- What comes after a part that always raises is not reached. -/
theorem raises_bind_first {first : Py Store Value} (hfirst : Raises first)
    (next : Value → Py Store Other) : Raises (bind first next) := by
  intro store
  obtain ⟨error, after, hrun⟩ := hfirst store
  exact ⟨error, after, run_bind_error hrun next⟩

/-! ### Properties kept whatever the outcome -/

/-- The function keeps a property of the store, whether it returns or raises. -/
def Keeps (property : Store → Prop) (program : Py Store Value) : Prop :=
  ∀ store, property store → property (program store).2

theorem keeps_ret (property : Store → Prop) (value : Value) :
    Keeps property (ret value : Py Store Value) := fun _ hstore ↦ hstore

theorem keeps_raise (property : Store → Prop) (error : PyError) :
    Keeps property (raise error : Py Store Value) := fun _ hstore ↦ hstore

theorem keeps_ofExcept (property : Store → Prop) (result : Except PyError Value) :
    Keeps property (ofExcept result : Py Store Value) := fun _ hstore ↦ hstore

theorem keeps_get (property : Store → Prop) : Keeps property (get : Py Store Store) :=
  fun _ hstore ↦ hstore

/-- A property that the first part leaves and the second keeps holds after their sequence. -/
theorem holds_bind {property : Store → Prop} {first : Py Store Value}
    {next : Value → Py Store Other} {store : Store} (hfirst : property (first store).2)
    (hnext : ∀ value, Keeps property (next value)) : property (bind first next store).2 := by
  cases hrun : first store with
  | mk result after =>
    rw [hrun] at hfirst
    cases result with
    | ok value =>
      rw [run_bind_ok hrun]
      exact hnext value after hfirst
    | error error =>
      rw [run_bind_error hrun]
      exact hfirst

/-- A property kept by both parts is kept by their sequence. -/
theorem keeps_bind {property : Store → Prop} {first : Py Store Value}
    {next : Value → Py Store Other} (hfirst : Keeps property first)
    (hnext : ∀ value, Keeps property (next value)) : Keeps property (bind first next) :=
  fun store hstore ↦ holds_bind (hfirst store hstore) hnext

/-- After a part that only computes a property is kept if what follows keeps it for the value
computed. -/
theorem keeps_ofExcept_bind {property : Store → Prop} {result : Except PyError Value}
    {next : Value → Py Store Other}
    (hnext : ∀ value, result = .ok value → Keeps property (next value)) :
    Keeps property (bind (ofExcept result) next) := by
  intro store hstore
  cases result with
  | error error =>
    rw [run_bind_error (run_ofExcept _ _)]
    exact hstore
  | ok value =>
    rw [run_bind_ok (run_ofExcept _ _)]
    exact hnext value rfl store hstore

/-- A property kept by every pass of the body is kept by the loop. -/
theorem keeps_forEach {property : Store → Prop} {body : Item → Py Store Unit} (items : List Item)
    (hbody : ∀ item ∈ items, Keeps property (body item)) : Keeps property (forEach items body) := by
  induction items with
  | nil => exact keeps_ret property ()
  | cons item rest ih =>
    rw [forEach_cons]
    exact keeps_bind (hbody item List.mem_cons_self)
      fun _ ↦ ih fun other hother ↦ hbody other (List.mem_cons_of_mem item hother)

/-- A property kept by the body and by the handler is kept by the two together. -/
theorem keeps_exceptOSError {property : Store → Prop} {body : Py Store Value}
    {handler : Text → PyError → Py Store Value} (hbody : Keeps property body)
    (hhandler : ∀ errno error, Keeps property (handler errno error)) :
    Keeps property (exceptOSError body handler) := by
  intro store hstore
  have hafter := hbody store hstore
  unfold exceptOSError
  cases hrun : body store with
  | mk result after =>
    rw [hrun] at hafter
    cases result with
    | ok value => exact hafter
    | error error =>
      cases herrno : error.errno? with
      | some errno => simpa only [herrno] using hhandler errno error after hafter
      | none => simpa only [herrno] using hafter

/-- The rule of `finally`: what the body keeps holds when the cleanup starts, so what the cleanup
makes of it holds afterwards, however the body ended. -/
theorem holds_tryFinally {during afterwards : Store → Prop} {body : Py Store Value}
    {cleanup : Py Store Unit} {store : Store} (hbody : Keeps during body)
    (hcleanup : ∀ middle, during middle → afterwards (cleanup middle).2) (hstore : during store) :
    afterwards (tryFinally body cleanup store).2 := by
  have hmiddle := hbody store hstore
  unfold tryFinally
  cases hrun : body store with
  | mk result middle =>
    rw [hrun] at hmiddle
    have hafter := hcleanup middle hmiddle
    cases hclean : cleanup middle with
    | mk cleaned after =>
      rw [hclean] at hafter
      cases cleaned <;> simpa only [hclean] using hafter

/-! ### Loops that ran to their end -/

/-- The loop rule: an invariant of the items still to come holds with no item left when the loop
returns. -/
theorem forEach_invariant (invariant : List Item → Store → Prop) {body : Item → Py Store Unit}
    (hstep : ∀ item rest store after, invariant (item :: rest) store →
      body item store = (.ok (), after) → invariant rest after) (items : List Item)
    {store after : Store} (hstart : invariant items store)
    (hrun : forEach items body store = (.ok (), after)) : invariant [] after := by
  induction items generalizing store with
  | nil =>
    rw [forEach_nil] at hrun
    cases hrun
    exact hstart
  | cons item rest ih =>
    rw [forEach_cons] at hrun
    cases hbody : body item store with
    | mk result middle =>
      cases result with
      | ok value =>
        rw [run_bind_ok hbody] at hrun
        exact ih (hstep item rest store middle hstart hbody) hrun
      | error error =>
        rw [run_bind_error hbody] at hrun
        cases hrun

end Py

end Ec2Wrappers.Foundations
