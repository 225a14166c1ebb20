import Ec2Wrappers.Microproxy.BodyFilters
import Mathlib.Data.List.Forall2

/-!
# The stack of body filters

A stack has filters with the tests that select them (`slots`), and, once they have been selected for
a message, the buffers of the selected ones. `selectFilters` does nothing while a selection stands,
`filter` sends a piece through the selected filters, `filterLast` the last one, and `eod` drops the
selection. What a stack gives out for a body is the composition of what its selected filters
compute, in the order of the stack and whatever the pieces (`run_selected`).

`forward` is what `serve_connections` does with the stack for one response of an origin server. A
response without a body never reaches the callback; its filters are selected after the last pass,
and the selection stays for the response that the process serves next, on this connection or
another one. `deliveries_eq` says of every sequence of responses which filters each body goes
through.

The filters are kept with their selection, so an `insert`, `remove` or `push` between the selection
and the end of a message, and one object pushed twice, are left out, as are the `begin` and `end`
methods.
-/

set_option autoImplicit false
set_option relaxedAutoImplicit false

namespace Ec2Wrappers.Microproxy

open Foundations

/-- A filter with its test, its own state, and its buffer while it is selected. -/
structure Slot (Message : Type) where
  rule : Message → Bool
  object : BodyFilter
  state : object.State
  buffer : Option Text

/-- `current` is whether a selection stands, `willModify` what the last one computed. -/
structure FilterStack (Message : Type) where
  slots : List (Slot Message)
  current : Bool
  willModify : Bool

namespace FilterStack

variable {Message : Type}

/-! ### The methods -/

/-- `new` and `push`. -/
def ofFilters (slots : List (Slot Message)) : FilterStack Message where
  slots := slots.map fun slot ↦ { slot with buffer := none }
  current := false
  willModify := false

def selectFilters (stack : FilterStack Message) (message : Message) : FilterStack Message :=
  if stack.current then stack
  else
    { slots := stack.slots.map fun slot ↦
        { slot with buffer := if slot.rule message then some [] else none }
      current := true
      willModify := stack.slots.any fun slot ↦ slot.rule message && slot.object.willModify }

/-- The loop of `filter`. -/
def filterSlots : List (Slot Message) → Text → List (Slot Message) × Text
  | [], data => ([], data)
  | slot :: rest, data =>
    match slot.buffer with
    | none =>
      let (rest, data) := filterSlots rest data
      (slot :: rest, data)
    | some buffer =>
      let (state, data, buffer) := slot.object.filter slot.state (buffer ++ data) true
      let (rest, data) := filterSlots rest data
      ({ slot with state := state, buffer := some buffer } :: rest, data)

/-- The loop of `filter_last`. -/
def filterLastSlots : List (Slot Message) → Text → List (Slot Message) × Text
  | [], data => ([], data)
  | slot :: rest, data =>
    match slot.buffer with
    | none =>
      let (rest, data) := filterLastSlots rest data
      (slot :: rest, data)
    | some buffer =>
      let (state, data, _) := slot.object.filter slot.state (buffer ++ data) false
      let (rest, data) := filterLastSlots rest data
      ({ slot with state := state, buffer := some [] } :: rest, data)

def filter (stack : FilterStack Message) (data : Text) : FilterStack Message × Text :=
  let (slots, data) := filterSlots stack.slots data
  ({ stack with slots := slots }, data)

def eod (stack : FilterStack Message) : FilterStack Message :=
  { stack with
    slots := stack.slots.map fun slot ↦ { slot with buffer := none }
    current := false }

def filterLast (stack : FilterStack Message) (data : Text) : FilterStack Message × Text :=
  let (slots, data) := filterLastSlots stack.slots data
  (eod { stack with slots := slots }, data)

/-! ### One response -/

/-- What the client is sent of a body: a piece for each call of the callback, and what the last pass
leaves. -/
structure Delivery where
  pieces : List Text
  last : Text
  deriving DecidableEq

/-- The whole of it. -/
def Delivery.body (delivery : Delivery) : Text := delivery.pieces.flatten ++ delivery.last

/-- The calls of the callback after the first selection. -/
def filterPieces (stack : FilterStack Message) : List Text → FilterStack Message × List Text
  | [] => (stack, [])
  | piece :: rest =>
    let (stack, data) := stack.filter piece
    let (stack, pieces) := stack.filterPieces rest
    (stack, data :: pieces)

/-- The response stack over one response: the callback is called once for each piece of the body,
and not at all where there is none. -/
def forward (stack : FilterStack Message) (message : Message) (pieces : List Text) :
    FilterStack Message × Delivery :=
  -- the first call selects the filters
  let stack := if pieces = [] then stack else stack.selectFilters message
  let (stack, outputs) := stack.filterPieces pieces
  let (stack, last) := stack.filterLast []
  -- `if ( !$sent )`
  let stack := if pieces = [] then stack.selectFilters message else stack
  (stack, ⟨outputs, last⟩)

/-- The responses that one process serves, one after another. -/
def deliveries (stack : FilterStack Message) : List (Message × List Text) → List Delivery
  | [] => []
  | (message, pieces) :: rest =>
    let (stack, delivery) := stack.forward message pieces
    delivery :: stack.deliveries rest

/-! ### The stack as a transducer -/

/-- The loops of `filter` and `filter_last`. -/
def transducer : Transducer (List (Slot Message)) Char Char where
  feed := filterSlots
  finish slots last := (filterLastSlots slots last).2

/-- A slot that is selected, with the state and the buffer that its filter has come to. -/
def Slot.at (slot : Slot Message) (reached : slot.object.State × Text) : Slot Message :=
  { slot with state := reached.1, buffer := some reached.2 }

/-- A slot that is not selected passes everything on. -/
theorem outputs_skipped {slot : Slot Message} (hbuffer : slot.buffer = none)
    (rest : List (Slot Message)) (pieces : List Text) :
    transducer.outputs (slot :: rest) pieces = transducer.outputs rest pieces ∧
      transducer.after (slot :: rest) pieces = slot :: transducer.after rest pieces := by
  refine Transducer.outputs_of_simulates (fun first second ↦ first = slot :: second) ?_ rfl pieces
  rintro first second piece rfl
  simp [transducer, filterSlots, hbuffer]

/-- A selected slot is in a row with the rest of the stack. -/
theorem outputs_selected (slot : Slot Message) (start : slot.object.State × Text)
    (rest : List (Slot Message)) (pieces : List Text) :
    transducer.outputs (Slot.at slot start :: rest) pieces =
        transducer.outputs rest (slot.object.transducer.outputs start pieces) ∧
      transducer.after (Slot.at slot start :: rest) pieces =
        Slot.at slot (slot.object.transducer.after start pieces) ::
          transducer.after rest (slot.object.transducer.outputs start pieces) := by
  obtain ⟨houtputs, hafter⟩ := Transducer.outputs_andThen slot.object.transducer transducer start
    rest pieces
  let related (first : List (Slot Message))
      (second : (slot.object.State × Text) × List (Slot Message)) : Prop :=
    first = Slot.at slot second.1 :: second.2
  have hstart : related (Slot.at slot start :: rest) (start, rest) := rfl
  have hfeed (first second piece) (hrelated : related first second) :
      related (transducer.feed first piece).1
          ((slot.object.transducer.andThen transducer).feed second piece).1 ∧
        (transducer.feed first piece).2 =
          ((slot.object.transducer.andThen transducer).feed second piece).2 := by
    subst hrelated
    exact ⟨rfl, rfl⟩
  obtain ⟨hsame, hrelated⟩ := Transducer.outputs_of_simulates related hfeed hstart pieces
  rw [hafter] at hrelated
  exact ⟨hsame.trans houtputs, hrelated⟩

/-! ### What a stack does to a body -/

/-- Whenever it is ready, and it is again after every body, the filter gives out the meaning of the
body. -/
structure Works (object : BodyFilter) (ready : object.State → Prop) (meaning : Text → Text) :
    Prop where
  computes : ∀ state, ready state → object.transducer.Computes (state, []) meaning
  again : ∀ state pieces last, ready state →
    ready (object.filter (object.transducer.after (state, []) pieces).1
      ((object.transducer.after (state, []) pieces).2 ++ last) false).1

/-- The filter in the slot gives out the meaning of every body. -/
def Serves (slot : Slot Message) (meaning : Text → Text) : Prop :=
  ∃ ready, Works slot.object ready meaning ∧ ready slot.state

/-- The meanings of the filters that the message selects, in the order of the stack; without a
message none is selected. -/
def meaningFor (message : Option Message) : List (Slot Message) → List (Text → Text) → Text → Text
  | slot :: slots, meaning :: meanings, body =>
    meaningFor message slots meanings (if message.any slot.rule then meaning body else body)
  | _, _, body => body

/-- The filters that the message selects are selected, with empty buffers. -/
def SelectedFor (message : Option Message) (slots : List (Slot Message)) : Prop :=
  ∀ slot ∈ slots, slot.buffer = if message.any slot.rule then some [] else none

theorem transducer_nil (pieces : List Text) :
    (@transducer Message).outputs [] pieces = pieces ∧
      (@transducer Message).after [] pieces = [] := by
  induction pieces with
  | nil => exact ⟨rfl, rfl⟩
  | cons piece rest ih => exact ⟨congrArg (piece :: ·) ih.1, ih.2⟩

/-- The tests do not change while a body goes through. -/
def SameRules (slots others : List (Slot Message)) : Prop :=
  slots.map Slot.rule = others.map Slot.rule

theorem filterLastSlots_skipped {slot : Slot Message} (hbuffer : slot.buffer = none)
    (rest : List (Slot Message)) (data : Text) :
    filterLastSlots (slot :: rest) data =
      (slot :: (filterLastSlots rest data).1, (filterLastSlots rest data).2) := by
  rw [filterLastSlots, hbuffer]

/-- The body comes out as the meanings of the selected filters make it, in whatever pieces it goes
in, and the filters are ready for the next body. -/
theorem run_selected {message : Option Message} {slots : List (Slot Message)}
    {meanings : List (Text → Text)} (hserves : List.Forall₂ Serves slots meanings)
    (hselected : SelectedFor message slots) (pieces : List Text) (last : Text) :
    transducer.run slots pieces last =
        meaningFor message slots meanings (pieces.flatten ++ last) ∧
      List.Forall₂ Serves (filterLastSlots (transducer.after slots pieces) last).1 meanings ∧
      SameRules (filterLastSlots (transducer.after slots pieces) last).1 slots := by
  induction hserves generalizing pieces last with
  | nil =>
    obtain ⟨houtputs, hafter⟩ := @transducer_nil Message pieces
    rw [Transducer.run, houtputs, hafter]
    exact ⟨rfl, .nil, rfl⟩
  | @cons slot meaning slots meanings hslot hserves ih =>
    obtain ⟨hbuffer, hrest⟩ := List.forall_mem_cons.mp hselected
    cases hrule : message.any slot.rule with
    | false =>
      rw [hrule] at hbuffer
      obtain ⟨houtputs, hafter⟩ := outputs_skipped hbuffer slots pieces
      obtain ⟨hrun, hagain, hrules⟩ := ih hrest pieces last
      have hfinish := filterLastSlots_skipped hbuffer (transducer.after slots pieces) last
      rw [Transducer.run, houtputs, hafter]
      refine ⟨?_, ?_, ?_⟩
      · refine (congrArg (_ ++ ·) (congrArg Prod.snd hfinish)).trans (hrun.trans ?_)
        rw [meaningFor, hrule]
        rfl
      · rw [hfinish]
        exact .cons hslot hagain
      · rw [hfinish]
        exact congrArg (slot.rule :: ·) hrules
    | true =>
      rw [hrule] at hbuffer
      obtain ⟨ready, hworks, hready⟩ := hslot
      have hat : slot = Slot.at slot (slot.state, []) := by
        rw [if_pos rfl] at hbuffer
        change slot = { slot with buffer := some [] }
        rw [← hbuffer]
      obtain ⟨houtputs, hafter⟩ := outputs_selected slot (slot.state, []) slots pieces
      obtain ⟨hrun, hagain, hrules⟩ := ih hrest
        (slot.object.transducer.outputs (slot.state, []) pieces)
        (slot.object.transducer.finish (slot.object.transducer.after (slot.state, []) pieces) last)
      rw [← hat] at houtputs hafter
      rw [Transducer.run, houtputs, hafter]
      refine ⟨?_, ?_, ?_⟩
      · refine Eq.trans ?_ (hrun.trans ?_)
        · rfl
        · rw [meaningFor, hrule, if_pos rfl]
          exact congrArg _ (hworks.computes slot.state hready pieces last)
      · exact .cons ⟨ready, hworks, hworks.again slot.state pieces last hready⟩ hagain
      · exact congrArg (slot.rule :: ·) hrules

/-! ### The bodies that one process delivers -/

/-- The loops of the callback, by the transducer. -/
theorem filterPieces_eq (stack : FilterStack Message) (pieces : List Text) :
    stack.filterPieces pieces =
      ({ stack with slots := transducer.after stack.slots pieces },
        transducer.outputs stack.slots pieces) := by
  induction pieces generalizing stack with
  | nil => rfl
  | cons piece rest ih =>
    simp only [filterPieces, ih]
    rfl

theorem meaningFor_congr (message : Option Message) {slots others : List (Slot Message)}
    (hrules : SameRules slots others) (meanings : List (Text → Text)) (body : Text) :
    meaningFor message slots meanings body = meaningFor message others meanings body := by
  induction slots generalizing others meanings body with
  | nil =>
    obtain rfl : others = [] := List.map_eq_nil_iff.mp hrules.symm
    rfl
  | cons slot slots ih =>
    cases others with
    | nil => exact absurd hrules (by simp [SameRules])
    | cons other others =>
      obtain ⟨hrule, hrest⟩ := List.cons.inj hrules
      cases meanings with
      | nil => rfl
      | cons meaning meanings =>
        rw [meaningFor, meaningFor, hrule]
        exact ih hrest meanings _

/-- What holds between two responses: the filters are ready, and either none is selected, or those
of an earlier message are, with nothing in their buffers. -/
structure Between (slots : List (Slot Message)) (meanings : List (Text → Text))
    (stale : Option Message) (stack : FilterStack Message) : Prop where
  serves : List.Forall₂ Serves stack.slots meanings
  rules : SameRules stack.slots slots
  current : stack.current = stale.isSome
  selected : SelectedFor stale stack.slots

theorem sameRules_map {slots : List (Slot Message)} (buffer : Slot Message → Option Text) :
    SameRules (slots.map fun slot ↦ { slot with buffer := buffer slot }) slots := by
  rw [SameRules, List.map_map]
  rfl

theorem serves_map {slots : List (Slot Message)} {meanings : List (Text → Text)}
    (hserves : List.Forall₂ Serves slots meanings) (buffer : Slot Message → Option Text) :
    List.Forall₂ Serves (slots.map fun slot ↦ { slot with buffer := buffer slot }) meanings :=
  List.forall₂_map_left_iff.mpr (hserves.imp fun _ _ hslot ↦ hslot)

theorem selectedFor_map {slots : List (Slot Message)} (message : Option Message) :
    SelectedFor message (slots.map fun slot ↦
      { slot with buffer := if message.any slot.rule then some [] else none }) := by
  intro slot hslot
  obtain ⟨old, -, rfl⟩ := List.mem_map.mp hslot
  rfl

theorem between_ofFilters {slots : List (Slot Message)} {meanings : List (Text → Text)}
    (hserves : List.Forall₂ Serves slots meanings) :
    Between slots meanings none (ofFilters slots) :=
  ⟨serves_map hserves _, sameRules_map _, rfl, selectedFor_map none⟩

section Between

variable {slots : List (Slot Message)} {meanings : List (Text → Text)} {stale : Option Message}
  {stack : FilterStack Message}

/-- After the selection the filters of the message are selected, or still those of the earlier
one. -/
theorem Between.selectFilters (hbetween : Between slots meanings stale stack)
    (message : Message) :
    Between slots meanings (some (stale.getD message)) (stack.selectFilters message) := by
  cases stale with
  | some earlier =>
    have hcurrent : stack.current = true := hbetween.current
    rw [FilterStack.selectFilters, if_pos hcurrent]
    exact hbetween
  | none =>
    have hcurrent : ¬ stack.current = true := by simp [hbetween.current]
    rw [FilterStack.selectFilters, if_neg hcurrent]
    exact ⟨serves_map hbetween.serves _, (sameRules_map _).trans hbetween.rules, rfl,
      selectedFor_map (some message)⟩

/-- A body goes through the filters that are selected, and then none is. -/
theorem Between.finish (hbetween : Between slots meanings stale stack) (pieces : List Text) :
    (stack.filterPieces pieces).2.flatten ++
        (filterLast (stack.filterPieces pieces).1 []).2 =
          meaningFor stale slots meanings pieces.flatten ∧
      Between slots meanings none (filterLast (stack.filterPieces pieces).1 []).1 := by
  obtain ⟨hrun, hagain, hrules⟩ := run_selected hbetween.serves hbetween.selected pieces []
  rw [List.append_nil, meaningFor_congr stale hbetween.rules] at hrun
  rw [filterPieces_eq]
  exact ⟨hrun, serves_map hagain _, (sameRules_map _).trans (hrules.trans hbetween.rules), rfl,
    selectedFor_map none⟩

/-- One response: what it delivers, and the selection that it leaves. -/
theorem Between.forward (hbetween : Between slots meanings stale stack) (message : Message)
    (pieces : List Text) :
    (stack.forward message pieces).2.body =
        meaningFor (if pieces = [] then stale else some (stale.getD message)) slots meanings
          pieces.flatten ∧
      Between slots meanings (if pieces = [] then some message else none)
        (stack.forward message pieces).1 := by
  by_cases hempty : pieces = []
  · subst hempty
    obtain ⟨hbody, hafter⟩ := hbetween.finish []
    exact ⟨hbody, hafter.selectFilters message⟩
  · obtain ⟨hbody, hafter⟩ := (hbetween.selectFilters message).finish pieces
    simp only [FilterStack.forward, if_neg hempty]
    exact ⟨hbody, hafter⟩

end Between

/-- The message whose filters a body goes through: its own, unless the response directly before had
no body. Where there is none before, an earlier selection may stand. -/
def selector (stale : Option Message) (before : List (Message × List Text)) (message : Message) :
    Message :=
  match before.getLast? with
  | some last => if last.2 = [] then last.1 else message
  | none => stale.getD message

theorem selector_cons (stale : Option Message) (first : Message × List Text)
    (before : List (Message × List Text)) (message : Message) :
    selector stale (first :: before) message =
      selector (if first.2 = [] then some first.1 else none) before message := by
  cases before with
  | nil =>
    by_cases hempty : first.2 = []
    · simp [selector, hempty]
    · simp [selector, hempty]
  | cons second rest =>
    rw [selector, selector, List.getLast?_cons_cons]
    cases hlast : (second :: rest).getLast? with
    | none => exact absurd (List.getLast?_eq_none_iff.mp hlast) (List.cons_ne_nil _ _)
    | some last => rfl

theorem Between.deliveries {slots : List (Slot Message)} {meanings : List (Text → Text)}
    {stale : Option Message} {stack : FilterStack Message}
    (hbetween : Between slots meanings stale stack) (before after : List (Message × List Text))
    (message : Message) {pieces : List Text} (hpieces : pieces ≠ []) :
    ((stack.deliveries (before ++ (message, pieces) :: after))[before.length]?).map
        Delivery.body =
      some (meaningFor (some (selector stale before message)) slots meanings pieces.flatten) := by
  induction before generalizing stale stack with
  | nil =>
    obtain ⟨hbody, -⟩ := hbetween.forward message pieces
    rw [if_neg hpieces] at hbody
    exact congrArg some hbody
  | cons first before ih =>
    obtain ⟨earlier, others⟩ := first
    obtain ⟨-, hafter⟩ := hbetween.forward earlier others
    rw [selector_cons]
    exact ih hafter

/-- The request stack over one request, whose body comes in one piece and has no last pass. -/
def forwardRequest (stack : FilterStack Message) (message : Message) (content : Text) :
    FilterStack Message × Text :=
  let (stack, content) := (stack.selectFilters message).filter content
  (stack.eod, content)

/-- The bodies of the requests that one process forwards, one after another. -/
def forwardRequests (stack : FilterStack Message) : List (Message × Text) → List Text
  | [] => []
  | (message, content) :: rest =>
    let (stack, content) := stack.forwardRequest message content
    content :: stack.forwardRequests rest

/-- A slot with a filter that only keeps a part of the data in its buffer. -/
def keepingSlot (entry : (Message → Bool) × (Text → Text × Text)) : Slot Message where
  rule := entry.1
  object := .keeping entry.2
  state := ()
  buffer := none

/-- The filters that the message selects pass on the front part of what they get. -/
def passedFor (message : Message) : List ((Message → Bool) × (Text → Text × Text)) → Text → Text
  | [], data => data
  | (rule, split) :: rest, data =>
    passedFor message rest (if rule message then (split data).1 else data)

theorem filterSlots_keeping (message : Message)
    (entries : List ((Message → Bool) × (Text → Text × Text))) (data : Text) :
    let selected := entries.map fun entry ↦
      { keepingSlot entry with buffer := if entry.1 message then some [] else none }
    (filterSlots selected data).2 = passedFor message entries data ∧
      ((filterSlots selected data).1.map fun slot ↦ { slot with buffer := none }) =
        entries.map keepingSlot := by
  induction entries generalizing data with
  | nil => exact ⟨rfl, rfl⟩
  | cons entry rest ih =>
    obtain ⟨rule, split⟩ := entry
    cases hrule : rule message with
    | false =>
      obtain ⟨hdata, hslots⟩ := ih data
      simp only [List.map_cons, hrule, filterSlots, passedFor]
      exact ⟨hdata, congrArg (keepingSlot (rule, split) :: ·) hslots⟩
    | true =>
      obtain ⟨hdata, hslots⟩ := ih (split data).1
      simp only [List.map_cons, hrule, filterSlots, passedFor]
      exact ⟨hdata, congrArg (keepingSlot (rule, split) :: ·) hslots⟩

section Passed

variable {entries : List ((Message → Bool) × (Text → Text × Text))}

theorem passedFor_start (hsplits : ∀ entry ∈ entries, BodyFilter.Splits entry.2)
    (message : Message) (data : Text) : passedFor message entries data <+: data := by
  induction entries generalizing data with
  | nil => exact List.prefix_rfl
  | cons entry rest ih =>
    obtain ⟨hsplit, hrest⟩ := List.forall_mem_cons.mp hsplits
    rw [passedFor]
    refine (ih hrest _).trans ?_
    split_ifs
    · exact ⟨(entry.2 data).2, hsplit data⟩
    · exact List.prefix_rfl

/-- Everything is passed on when no selected filter would keep anything of it. -/
theorem passedFor_eq_iff (hsplits : ∀ entry ∈ entries, BodyFilter.Splits entry.2)
    (message : Message) (data : Text) :
    passedFor message entries data = data ↔
      ∀ entry ∈ entries, entry.1 message = true → (entry.2 data).2 = [] := by
  induction entries with
  | nil => simp [passedFor]
  | cons entry rest ih =>
    obtain ⟨hsplit, hrest⟩ := List.forall_mem_cons.mp hsplits
    rw [passedFor, List.forall_mem_cons]
    split_ifs with hrule
    · have hparts := hsplit data
      by_cases hkept : (entry.2 data).2 = []
      · rw [hkept, List.append_nil] at hparts
        rw [hparts, ih hrest]
        exact ⟨fun hall ↦ ⟨fun _ ↦ hkept, hall⟩, And.right⟩
      · refine iff_of_false (fun hwhole ↦ hkept ?_) fun hall ↦ hkept (hall.1 hrule)
        -- the rest of the stack passes on no more than it gets
        have hlength := (passedFor_start hrest message (entry.2 data).1).length_le
        rw [hwhole] at hlength
        have htotal := congrArg List.length hparts
        rw [List.length_append] at htotal
        exact List.eq_nil_of_length_eq_zero (by omega)
    · rw [ih hrest]
      exact ⟨fun hall ↦ ⟨fun hselected ↦ absurd hselected hrule, hall⟩, And.right⟩

/-- A stack of such filters between two requests. -/
theorem forwardRequest_keeping {stack : FilterStack Message}
    (hslots : stack.slots = entries.map keepingSlot) (hcurrent : stack.current = false)
    (message : Message) (content : Text) :
    (stack.forwardRequest message content).2 = passedFor message entries content ∧
      (stack.forwardRequest message content).1.slots = entries.map keepingSlot ∧
      (stack.forwardRequest message content).1.current = false := by
  have hselected : (stack.selectFilters message).slots = entries.map fun entry ↦
      { keepingSlot entry with buffer := if entry.1 message then some [] else none } := by
    rw [selectFilters, if_neg (by simp [hcurrent]), hslots, List.map_map]
    rfl
  obtain ⟨hdata, hafter⟩ := filterSlots_keeping message entries content
  rw [← hselected] at hdata hafter
  exact ⟨hdata, hafter, rfl⟩

/-- Of every sequence of requests that one process forwards: all bodies reach the origin server
whole exactly when no selected filter would keep anything of a body that comes in one piece; what is
left in a buffer then is never sent. -/
theorem requests_arrive_iff (hsplits : ∀ entry ∈ entries, BodyFilter.Splits entry.2)
    (requests : List (Message × Text)) :
    (ofFilters (entries.map keepingSlot)).forwardRequests requests = requests.map Prod.snd ↔
      ∀ request ∈ requests, ∀ entry ∈ entries,
        entry.1 request.1 = true → (entry.2 request.2).2 = [] := by
  have hstart : (ofFilters (entries.map keepingSlot)).slots = entries.map keepingSlot := by
    rw [ofFilters, List.map_map]
    rfl
  have hcurrent : (ofFilters (entries.map keepingSlot)).current = false := rfl
  generalize ofFilters (entries.map keepingSlot) = stack at hstart hcurrent
  induction requests generalizing stack with
  | nil => simp [forwardRequests]
  | cons request rest ih =>
    obtain ⟨message, content⟩ := request
    obtain ⟨hcontent, hslots, hnone⟩ := forwardRequest_keeping hstart hcurrent message content
    rw [List.forall_mem_cons]
    have hfirst := passedFor_eq_iff hsplits message content
    rw [← hcontent] at hfirst
    exact List.cons_eq_cons.trans (and_congr hfirst (ih _ hslots hnone))

end Passed

/-! ### Instances -/

/-- A filter without a state of its own that changes the data letter by letter. -/
abbrev letterwise (change : Char → Char) : BodyFilter where
  State := Unit
  filter _ data _ := ((), data.map change, [])
  willModify := true

theorem works_keeping {split : Text → Text × Text} (hsplit : BodyFilter.Splits split) :
    Works (.keeping split) (fun _ ↦ True) id where
  computes _ _ := BodyFilter.computes_keeping hsplit
  again _ _ _ _ := trivial

theorem works_letterwise (change : Char → Char) :
    Works (letterwise change) (fun _ ↦ True) (List.map change) where
  computes _ _ pieces last := by
    induction pieces with
    | nil => rfl
    | cons piece rest ih =>
      rw [Transducer.run_cons, List.flatten_cons, List.append_assoc, List.map_append]
      exact congrArg (piece.map change ++ ·) ih
  again _ _ _ _ := trivial

/-- `lines` on every response, and a filter into capitals on those that are marked. -/
def sampleSlots : List (Slot Bool) :=
  [⟨fun _ ↦ true, .lines ['\n'], (), none⟩, ⟨id, letterwise Char.toUpper, (), none⟩]

/-- A marked response without a body, and one with a body that is not marked. -/
def sampleBefore : List (Bool × List Text) := [(true, [])]

def sampleBody : List Text := ["a\nb".toList, "c".toList]

/-- The last body is not marked, and comes out in capitals all the same. -/
example : ((ofFilters sampleSlots).deliveries
    [(false, sampleBody), (true, []), (false, sampleBody)]).map Delivery.body =
      ["a\nbc".toList, [], "A\nBC".toList] := by decide +kernel

theorem requests_arrive_iff_sample :
    (ofFilters ([(fun _ ↦ true, BodyFilter.splitComplete)].map keepingSlot)).forwardRequests
        [(true, sampleBody.flatten)] = [(true, sampleBody.flatten)].map Prod.snd ↔
      ∀ request ∈ [(true, sampleBody.flatten)],
        ∀ entry ∈ [((fun _ ↦ true : Bool → Bool), BodyFilter.splitComplete)],
          entry.1 request.1 = true → (entry.2 request.2).2 = [] :=
  requests_arrive_iff (fun entry hentry ↦ by
    rw [List.mem_singleton.mp hentry]
    exact BodyFilter.splits_complete) _

end FilterStack

end Ec2Wrappers.Microproxy
