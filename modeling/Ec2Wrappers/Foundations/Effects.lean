import Ec2Wrappers.Foundations.Python

/-!
# Programs that can be cut off between two effects

`Effects Store Value` is a program as the sequence of the external effects it asks for: it is done
with a value or an exception, or it reads the store, or it asks for one effect and goes on with the
answer. `run` is the program that nobody stops; `cutOff n` is what is left of the store when the
process ends after `n` effects, whatever was still to come.

Reading is not an effect. An effect is one call of a remote service or one commit, which a stop
cannot divide.
-/

set_option autoImplicit false
set_option relaxedAutoImplicit false

namespace Ec2Wrappers.Foundations

/-- A program that asks for effects one after another. -/
inductive Effects (Store Value : Type) : Type 1
  | done (value : Value)
  | raised (error : PyError)
  | read (next : Store → Effects Store Value)
  | effect {Answer : Type} (action : Py Store Answer) (next : Answer → Effects Store Value)

namespace Effects

variable {Store Value Other Item : Type}

/-- The second program on the value of the first. -/
def bind : Effects Store Value → (Value → Effects Store Other) → Effects Store Other
  | done value, next => next value
  | raised error, _ => raised error
  | read rest, next => read fun store ↦ bind (rest store) next
  | effect action rest, next => effect action fun answer ↦ bind (rest answer) next

instance : Monad (Effects Store) where
  pure := done
  bind := bind

/-- One effect. -/
def perform (action : Py Store Value) : Effects Store Value := effect action done

/-- Read the store. -/
def get : Effects Store Store := read done

/-- `for item in items: body(item)`. -/
def forEach : List Item → (Item → Effects Store Unit) → Effects Store Unit
  | [], _ => done ()
  | item :: rest, body => bind (body item) fun _ ↦ forEach rest body

/-- The program that nobody stops. -/
def run : Effects Store Value → Py Store Value
  | done value => Py.ret value
  | raised error => Py.raise error
  | read next => fun store ↦ run (next store) store
  | effect action next => Py.bind action fun answer ↦ run (next answer)

/-- The store when the process ends after a number of effects. -/
def cutOff : ℕ → Effects Store Value → Store → Store
  | count, read next, store => cutOff count (next store) store
  | count + 1, effect action next, store =>
    match action store with
    | (.ok answer, after) => cutOff count (next answer) after
    | (.error _, after) => after
  | _, _, store => store

end Effects

end Ec2Wrappers.Foundations
