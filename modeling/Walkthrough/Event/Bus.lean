/-
# Telling listeners

A bus knows who listens to which events, in the order of their subscriptions; that nobody listens twice
to one event is part of the type. An event goes to those who listened when it was emitted, each with the
whole payload, up to the first that fails. What a listener does may change the bus and emit more.
-/

import Walkthrough.Error.Basic
import Walkthrough.Event.Basic

namespace Walkthrough

/-- Who listens to what. -/
structure Bus (ι : Type) where
  subscriptions : List (EventKind × ι)
  nodup : subscriptions.Nodup

namespace Bus

variable {ι : Type} [DecidableEq ι]

/-- The bus without listeners. -/
def empty : Bus ι := ⟨[], List.nodup_nil⟩

instance : Inhabited (Bus ι) := ⟨empty⟩

/-- Adds a listener behind the others, unless it listens already. -/
def subscribe (b : Bus ι) (kind : EventKind) (l : ι) : Bus ι :=
  if h : (kind, l) ∈ b.subscriptions then b
  else ⟨b.subscriptions ++ [(kind, l)], by
    have hd := b.nodup
    simp only [List.Nodup, List.pairwise_append, List.pairwise_cons, List.not_mem_nil,
      List.Pairwise.nil] at hd ⊢
    refine ⟨hd, ⟨by simp, trivial⟩, ?_⟩
    intro x hx y hy
    simp only [List.mem_cons, List.not_mem_nil, or_false] at hy
    subst hy
    exact fun e => h (e ▸ hx)⟩

/-- Removes a listener from one event. -/
def unsubscribe (b : Bus ι) (kind : EventKind) (l : ι) : Bus ι :=
  ⟨b.subscriptions.filter fun s => !decide (s = (kind, l)), by
    have h := b.nodup
    rw [List.Nodup] at h ⊢
    exact h.filter _⟩

/-- Who listens to an event, in the order of their subscriptions. -/
def listeners (b : Bus ι) (kind : EventKind) : List ι :=
  (b.subscriptions.filter fun s => decide (s.1 = kind)).map Prod.snd

/-- Whether anybody listens to an event. -/
def hasListeners (b : Bus ι) (kind : EventKind) : Bool := !(b.listeners kind).isEmpty

/-- Subscribes by the name of the event. -/
def subscribeNamed (b : Bus ι) (event : String) (l : ι) : Except Failure (Bus ι) :=
  match EventKind.ofName? event with
  | some kind => .ok (b.subscribe kind l)
  | none => .error (.usage (.unknownEvent event))

/-- Unsubscribes by the name of the event; nobody listens to an unknown one. -/
def unsubscribeNamed (b : Bus ι) (event : String) (l : ι) : Bus ι :=
  match EventKind.ofName? event with
  | some kind => b.unsubscribe kind l
  | none => b

/-! ## Emitting -/

/-- What a listener can do when it is told of an event. -/
inductive Action (ι : Type) where
  | subscribe (kind : EventKind) (l : ι)
  /-- Removes a listener from one event, as what its subscription returned does when it is called. -/
  | unsubscribe (kind : EventKind) (l : ι)
  | clear
  /-- Changes the payload that was received. -/
  | edit (change : Payload → Payload)
  /-- Emits an event, with a payload made from the one that was received as it is by now. The failure of a
  guarded event is caught. -/
  | emit (kind : EventKind) (payload : Payload → Payload) (guarded : Bool)
  | fail (cause : Failure)

/-- A call of a listener: how deep events can still be nested inside of it, who is called, and what is told. -/
structure Notice (ι : Type) where
  room : Nat
  listener : ι
  kind : EventKind
  payload : Payload

/-- A bus and the calls of listeners so far, oldest first. -/
structure Delivery (ι : Type) where
  bus : Bus ι
  told : List (Notice ι)

/-- How listeners react to a call; it may depend on all that was told before. How the events end that a listener
emits is no more than that: the same reactions decide it, with less room. -/
abbrev Reactions (ι : Type) := Delivery ι → Notice ι → List (Action ι)

/-- How far a delivery went, and why it broke off if it did. -/
abbrev Outcome (ι : Type) := Delivery ι × Option Failure

/-- Does what a listener does, one action after the other; `own` is the payload that it received. -/
def perform (emit : EventKind → Payload → Delivery ι → Outcome ι) :
    List (Action ι) → Payload → Delivery ι → Outcome ι
  | [], _, d => (d, none)
  | .subscribe kind l :: rest, own, d => perform emit rest own { d with bus := d.bus.subscribe kind l }
  | .unsubscribe kind l :: rest, own, d => perform emit rest own { d with bus := d.bus.unsubscribe kind l }
  | .clear :: rest, own, d => perform emit rest own { d with bus := empty }
  | .edit change :: rest, own, d => perform emit rest (change own) d
  | .emit kind payload guarded :: rest, own, d =>
    match emit kind (payload own) d with
    | (d, none) => perform emit rest own d
    | (d, some cause) => if guarded then perform emit rest own d else (d, some cause)
  | .fail cause :: _, _, d => (d, some cause)

/-- Calls one listener, with a payload of its own. -/
def call (react : Reactions ι) (emit : EventKind → Payload → Delivery ι → Outcome ι) (n : Notice ι)
    (d : Delivery ι) : Outcome ι :=
  let d := { d with told := d.told ++ [n] }
  perform emit (react d n) n.payload d

/-- Calls listeners, one after the other, up to the first that fails. -/
def tell (react : Reactions ι) (emit : EventKind → Payload → Delivery ι → Outcome ι) :
    List (Notice ι) → Delivery ι → Outcome ι
  | [], d => (d, none)
  | n :: rest, d =>
    match call react emit n d with
    | (d, none) => tell react emit rest d
    | (d, some cause) => (d, some cause)

/-- The calls that are due when an event is emitted. -/
def due (b : Bus ι) (room : Nat) (kind : EventKind) (payload : Payload) : List (Notice ι) :=
  (b.listeners kind).map fun l => ⟨room, l, kind, payload⟩

/-- **Emitting** an event to those who listen now. Events inside of events may be nested at most
`depth` deep. -/
def emit (react : Reactions ι) : Nat → EventKind → Payload → Delivery ι → Outcome ι
  | 0, _, _, d => (d, some .tooDeep)
  | depth + 1, kind, payload, d => tell react (emit react depth) (d.bus.due depth kind payload) d

/-- Emits by the name of the event. -/
def emitNamed (react : Reactions ι) (depth : Nat) (event : String) (payload : Payload)
    (d : Delivery ι) : Outcome ι :=
  match EventKind.ofName? event with
  | some kind => emit react depth kind payload d
  | none => (d, none)

end Bus
end Walkthrough
