/-
# Events that are told while others are

A listener may change the bus while an event is delivered, it may emit events itself, and these may reach it
again. None of this changes to whom the event goes: that was settled when it was emitted.

| what a listener does meanwhile | the event that is delivered | later events |
| --- | --- | --- |
| subscribes somebody | does not reach them | reach them |
| removes somebody, or all | reaches them still | do not reach them |
| changes its payload | keeps its own | |
| emits an event | goes on after it | |
| fails | ends with this failure | |

Events inside of events are delivered in the same way, one level deeper. The record of what was told shows the
level of each call (`Notice.room`), so the calls that belong to one event can be picked out of all that were made
while it was delivered (`Records`). What is said of an event is said for every bus and every record so far, so it
holds of the events that listeners emit as well.
-/

import Mathlib.Data.List.Nodup
import Walkthrough.Event.Bus

namespace Walkthrough
namespace Bus

variable {ι : Type}

/-! ## Who listens -/

section Listeners

variable (b : Bus ι) (kind : EventKind) (l : ι)

theorem mem_listeners {b : Bus ι} {kind : EventKind} {l : ι} :
    l ∈ b.listeners kind ↔ (kind, l) ∈ b.subscriptions := by
  unfold listeners
  rw [List.mem_map]
  constructor
  · rintro ⟨⟨k, l⟩, h, rfl⟩
    obtain ⟨hmem, hk⟩ := List.mem_filter.1 h
    obtain rfl : k = kind := by simpa using hk
    exact hmem
  · exact fun h => ⟨(kind, l), List.mem_filter.2 ⟨h, decide_eq_true rfl⟩, rfl⟩

/-- **Nobody listens twice** to one event. -/
theorem nodup_listeners : (b.listeners kind).Nodup := by
  have hkind : ∀ z ∈ b.subscriptions.filter fun s => decide (s.1 = kind), z.1 = kind :=
    fun z hz => by simpa using (List.mem_filter.1 hz).2
  have hinj : ∀ x ∈ b.subscriptions.filter fun s => decide (s.1 = kind),
      ∀ y ∈ b.subscriptions.filter fun s => decide (s.1 = kind), x.2 = y.2 → x = y :=
    fun x hx y hy heq => Prod.ext ((hkind x hx).trans (hkind y hy).symm) heq
  exact List.Nodup.map_on hinj (List.Nodup.filter _ b.nodup)

variable [DecidableEq ι]

/-- **Subscribing** puts a listener behind those of its event, unless it listens already. -/
theorem listeners_subscribe (k : EventKind) : (b.subscribe kind l).listeners k =
    if k = kind ∧ l ∉ b.listeners kind then b.listeners k ++ [l] else b.listeners k := by
  by_cases h : (kind, l) ∈ b.subscriptions
  · rw [if_neg fun hk => hk.2 (mem_listeners.2 h), subscribe, dif_pos h]
  · have hmem : l ∉ b.listeners kind := fun hl => h (mem_listeners.1 hl)
    simp only [subscribe, dif_neg h, hmem, not_false_eq_true, and_true]
    unfold listeners
    rw [List.filter_append, List.map_append]
    by_cases hk : k = kind
    · simp [hk]
    · simp [hk, Ne.symm hk]

/-- **Unsubscribing** takes a listener from one event and leaves the other events alone. -/
theorem listeners_unsubscribe (k : EventKind) : (b.unsubscribe kind l).listeners k =
    if k = kind then (b.listeners k).erase l else b.listeners k := by
  rw [(b.nodup_listeners k).erase_eq_filter]
  unfold unsubscribe listeners
  rw [List.filter_comm]
  split
  · next hk =>
    rw [List.filter_map, List.filter_filter, List.filter_filter]
    congr 1
    refine List.filter_congr fun s _ => ?_
    obtain ⟨k', l'⟩ := s
    by_cases hkind : k' = k
    · simp only [hkind, ← hk, Function.comp_apply, Prod.mk.injEq, true_and, decide_true, Bool.and_true, bne,
        beq_eq_decide]
    · simp [hkind]
  · next hk =>
    rw [List.filter_filter]
    congr 1
    refine List.filter_congr fun s _ => ?_
    obtain ⟨k', l'⟩ := s
    by_cases hkind : k' = k
    · subst hkind
      simp [hk]
    · simp [hkind]

end Listeners

/-! ## The record of an event -/

variable {room : Nat} {made more due : List (Notice ι)} {d d' d'' : Delivery ι}

/-- **What was recorded** from one moment to another: at one level these calls, and all others deeper. -/
def Records (room : Nat) (made : List (Notice ι)) (d d' : Delivery ι) : Prop :=
  ∃ new, d'.told = d.told ++ new ∧ (new.filter fun n => n.room == room) = made ∧ ∀ n ∈ new, n.room ≤ room

theorem Records.of_told_eq (h : d'.told = d.told) : Records room [] d d' :=
  ⟨[], by rw [h, List.append_nil], rfl, fun _ hn => absurd hn List.not_mem_nil⟩

theorem Records.trans (h : Records room made d d') (h' : Records room more d' d'') :
    Records room (made ++ more) d d'' := by
  obtain ⟨new, htold, rfl, hdeep⟩ := h
  obtain ⟨new', htold', rfl, hdeep'⟩ := h'
  refine ⟨new ++ new', by rw [htold', htold, List.append_assoc], List.filter_append .., ?_⟩
  exact List.forall_mem_append.2 ⟨hdeep, hdeep'⟩

/-- A call is recorded when it is made. -/
theorem Records.noted {n : Notice ι} (hn : n.room = room) :
    Records room [n] d { d with told := d.told ++ [n] } := by
  refine ⟨[n], rfl, by simp [hn], ?_⟩
  exact List.forall_mem_singleton.2 (Nat.le_of_eq hn)

/-- All of it is deeper than the level above. -/
theorem Records.inside (h : Records room made d d') : Records (room + 1) [] d d' := by
  obtain ⟨new, htold, -, hdeep⟩ := h
  refine ⟨new, htold, List.filter_eq_nil_iff.2 fun n hn => ?_, fun n hn => Nat.le_succ_of_le (hdeep n hn)⟩
  have hlt := hdeep n hn
  simp only [beq_iff_eq]
  omega

theorem room_due (b : Bus ι) (room : Nat) (kind : EventKind) (payload : Payload) :
    ∀ n ∈ b.due room kind payload, n.room = room := by
  intro n hn
  obtain ⟨l, -, rfl⟩ := List.mem_map.1 hn
  rfl

/-! ## Delivering an event -/

variable [DecidableEq ι] {react : Reactions ι} {emit : EventKind → Payload → Delivery ι → Outcome ι}
  {failure : Option Failure}

/-- Calls one after the other, none of which fails. -/
inductive Calls (react : Reactions ι) (emit : EventKind → Payload → Delivery ι → Outcome ι) :
    List (Notice ι) → Delivery ι → Delivery ι → Prop
  | nil (d : Delivery ι) : Calls react emit [] d d
  | cons {n : Notice ι} {rest : List (Notice ι)} {d d' d'' : Delivery ι} (first : call react emit n d = (d', none))
      (more : Calls react emit rest d' d'') : Calls react emit (n :: rest) d d''

/-- **How calls that are due are made**: all of them, or those up to the first that fails, with whose failure it
ends. -/
inductive Delivers (react : Reactions ι) (emit : EventKind → Payload → Delivery ι → Outcome ι) (due : List (Notice ι))
    (d d' : Delivery ι) : List (Notice ι) → Option Failure → Prop
  | all (calls : Calls react emit due d d') : Delivers react emit due d d' due none
  | brokeOff {before after : List (Notice ι)} {n : Notice ι} {between : Delivery ι} {cause : Failure}
      (split : due = before ++ n :: after) (calls : Calls react emit before d between)
      (failed : call react emit n between = (d', some cause)) :
      Delivers react emit due d d' (before ++ [n]) (some cause)

/-- Telling listeners makes the calls that are due. -/
theorem tell_delivers (react : Reactions ι) (emit : EventKind → Payload → Delivery ι → Outcome ι)
    (due : List (Notice ι)) (d : Delivery ι) :
    ∃ made, Delivers react emit due d (tell react emit due d).1 made (tell react emit due d).2 := by
  induction due generalizing d with
  | nil => exact ⟨[], .all (.nil d)⟩
  | cons n rest ih =>
    unfold tell
    rcases hcall : call react emit n d with ⟨d₁, _ | cause⟩
    · obtain ⟨made, hmade⟩ := ih d₁
      dsimp only
      generalize (tell react emit rest d₁).1 = d', (tell react emit rest d₁).2 = failure at hmade ⊢
      cases hmade with
      | all calls => exact ⟨_, .all (.cons hcall calls)⟩
      | brokeOff split calls failed =>
        exact ⟨_, .brokeOff (congrArg (n :: ·) split) (.cons hcall calls) failed⟩
    · exact ⟨[n], .brokeOff rfl (.nil d) hcall⟩

/-- A listener that acts records nothing at its own level, if the events that it emits do not. -/
theorem perform_records (inside : ∀ kind payload d, Records room [] d (emit kind payload d).1)
    (actions : List (Action ι)) (own : Payload) (d : Delivery ι) :
    Records room [] d (perform emit actions own d).1 := by
  induction actions generalizing own d with
  | nil => exact .of_told_eq rfl
  | cons action rest ih =>
    cases action with
    | subscribe kind l => exact (Records.of_told_eq rfl).trans (ih own { d with bus := d.bus.subscribe kind l })
    | unsubscribe kind l => exact (Records.of_told_eq rfl).trans (ih own { d with bus := d.bus.unsubscribe kind l })
    | clear => exact (Records.of_told_eq rfl).trans (ih own { d with bus := empty })
    | edit change => exact ih (change own) d
    | fail cause => exact .of_told_eq rfl
    | emit kind payload guarded =>
      have hevent := inside kind (payload own) d
      unfold perform
      generalize emit kind (payload own) d = out at hevent ⊢
      rcases out with ⟨d₁, _ | cause⟩
      · exact hevent.trans (ih own d₁)
      · cases guarded
        · exact hevent
        · exact hevent.trans (ih own d₁)

/-- A call records itself. -/
theorem call_records (inside : ∀ kind payload d, Records room [] d (emit kind payload d).1) {n : Notice ι}
    (hn : n.room = room) (h : call react emit n d = (d', failure)) : Records room [n] d d' := by
  have hperform := perform_records inside (react { d with told := d.told ++ [n] } n) n.payload
    { d with told := d.told ++ [n] }
  have hcall : (perform emit (react { d with told := d.told ++ [n] } n) n.payload
      { d with told := d.told ++ [n] }).1 = d' := congrArg Prod.fst h
  exact (Records.noted hn).trans (hcall ▸ hperform)

theorem Calls.records (inside : ∀ kind payload d, Records room [] d (emit kind payload d).1)
    (h : Calls react emit due d d') (level : ∀ n ∈ due, n.room = room) : Records room due d d' := by
  induction h with
  | nil d => exact .of_told_eq rfl
  | cons first _ ih =>
    obtain ⟨hn, hrest⟩ := List.forall_mem_cons.1 level
    exact (call_records inside hn first).trans (ih hrest)

/-- **The calls that are made are those on record.** -/
theorem Delivers.records (inside : ∀ kind payload d, Records room [] d (emit kind payload d).1)
    (h : Delivers react emit due d d' made failure) (level : ∀ n ∈ due, n.room = room) : Records room made d d' := by
  cases h with
  | all calls => exact calls.records inside level
  | brokeOff split calls failed =>
    subst split
    obtain ⟨hbefore, hrest⟩ := List.forall_mem_append.1 level
    exact (calls.records inside hbefore).trans (call_records inside (List.forall_mem_cons.1 hrest).1 failed)

/-! ## Emitting an event -/

/-- An event records nothing at the level of the listener that emits it. -/
theorem emit_records (react : Reactions ι) (depth : Nat) :
    ∀ kind payload d, Records depth [] d (Bus.emit react depth kind payload d).1 := by
  induction depth with
  | zero => exact fun _ _ _ => .of_told_eq rfl
  | succ depth ih =>
    intro kind payload d
    obtain ⟨made, hmade⟩ := tell_delivers react (Bus.emit react depth) (d.bus.due depth kind payload) d
    exact (hmade.records ih (room_due _ _ _ _)).inside

/-- **Delivery is stable.** Nobody listens twice to one event, whatever was done to a bus; subscribing puts a listener
behind the others, and removing one from an event leaves the other events alone. An event that is emitted calls those
who listen to it at that moment, each with the whole payload, in the order of their subscriptions: all of them, or
those up to the first that fails, and then the event fails for the same cause. This is so whatever bus and record it
finds and whatever listeners do to the bus, to their payloads or by emitting events of their own, so it is so for the
events inside of events too. The calls of the event are exactly those on record at its level. -/
theorem delivery_stable (react : Reactions ι) :
    (∀ (b : Bus ι) kind, (b.listeners kind).Nodup) ∧
    (∀ (b : Bus ι) kind l k, (b.subscribe kind l).listeners k =
      if k = kind ∧ l ∉ b.listeners kind then b.listeners k ++ [l] else b.listeners k) ∧
    (∀ (b : Bus ι) kind l k, (b.unsubscribe kind l).listeners k =
      if k = kind then (b.listeners k).erase l else b.listeners k) ∧
    ∀ depth kind payload (d : Delivery ι),
      let out := Bus.emit react (depth + 1) kind payload d
      let due := (d.bus.listeners kind).map fun l => ⟨depth, l, kind, payload⟩
      ∃ made, Delivers react (Bus.emit react depth) due d out.1 made out.2 ∧ Records depth made d out.1 := by
  refine ⟨nodup_listeners, fun b kind l => b.listeners_subscribe kind l,
    fun b kind l => b.listeners_unsubscribe kind l, fun depth kind payload d => ?_⟩
  obtain ⟨made, hmade⟩ := tell_delivers react (Bus.emit react depth) (d.bus.due depth kind payload) d
  exact ⟨made, hmade, hmade.records (emit_records react depth) (room_due _ _ _ _)⟩

/-- The first of three listeners removes the last one, empties its payload and emits an event with what is left; the
second one fails at that event, which is caught, and removes everybody at the first one. -/
def meddling : Reactions Nat := fun _ n =>
  match n.listener, n.kind with
  | 0, .started => [.unsubscribe .started 2, .edit fun _ => [], .emit .finished id true]
  | 1, .finished => [.fail (.host "no")]
  | 1, .started => [.clear]
  | _, _ => []

/-- Still the event reaches all three, each with the whole payload, and nobody listens in the end. -/
example :
    let b : Bus Nat := ((empty.subscribe .started 0).subscribe .started 1).subscribe .started 2
    let b := b.subscribe .finished 1
    let out := Bus.emit meddling 2 .started [("step_id", .int 7)] ⟨b, []⟩
    out.1.told.map (fun n => (n.room, n.listener, n.kind, n.payload.length)) =
        [(1, 0, .started, 1), (0, 1, .finished, 0), (1, 1, .started, 1), (1, 2, .started, 1)] ∧
      out.2.isNone = true ∧ out.1.bus.subscriptions = [] := by
  decide

end Bus
end Walkthrough
