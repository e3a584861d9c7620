import Codemod.Event.Stream
import Mathlib.Data.List.Basic
import Mathlib.Data.List.TakeWhile
import Mathlib.Order.Bounds.Basic

/-!
# What a receiver is told

Subscribing, unsubscribing, publishing and receiving are the steps on a stream, and they come in any
order. Behind the ring stands the list of all events that the stream has taken: the slots hold the
newest of them, and every receiver is at a place of that list. From one of its places to the next
there is one event that it gets, or a stretch of events that one notice counts. So what a receiver
has got can be unfolded again to what has been published since it subscribed.

## Main definitions

* `Action`, `performAll` — steps on a stream.
* `received` — what a receiver gets in the course of steps.
* `Describes` — how receipts unfold to events.
* `Holds` — the ring as a view of all events.
* `AccountsFor` — where a receiver stands.

## Main results

* `isLeast_slotCount` — the size of the ring.
* `Holds.next?_cases` — what there is to receive at a place of the list.
* `Tells.perform`, `Tells.performAll` — receipts unfold to events after a step, and after a run.
* `receipts_account_for_events` — every event is delivered or counted, once and in order.
* `receive_drain` — a receiver that has been drained is at the end.
-/

namespace Codemod.Event.Stream

/-! ## Steps -/

inductive Action where
  | subscribe
  | unsubscribe (receiver : Nat)
  | publish (e : Event)
  | receive (receiver : Nat)
  deriving DecidableEq

def perform (s : Stream) : Action → Stream
  | .subscribe => s.subscribe.2
  | .unsubscribe i => s.unsubscribe i
  | .publish e => s.publish e
  | .receive i => (s.receive i).2

def performAll (s : Stream) (actions : List Action) : Stream :=
  actions.foldl perform s

/-- What receiver `i` gets in one step. -/
def gets (s : Stream) (i : Nat) : Action → List Received
  | .receive j => if j = i then (s.receive i).1.toList else []
  | _ => []

/-- What receiver `i` gets in the course of `actions`. -/
def received (i : Nat) : Stream → List Action → List Received
  | _, [] => []
  | s, a :: rest => s.gets i a ++ received i (s.perform a) rest

/-- The event that a step is to publish, as a list. -/
def Action.events : Action → List Event
  | .publish e => [e]
  | _ => []

def published (actions : List Action) : List Event :=
  actions.flatMap Action.events

/-- How many events the receipts tell of. -/
def total : List Received → Nat
  | [] => 0
  | r :: rest => r.count + total rest

/-- The receipts are these events, where each notice stands for a stretch of them. -/
inductive Describes : List Received → List Event → Prop
  | nil : Describes [] []
  | event (e : Event) {got : List Received} {es : List Event} :
    Describes got es → Describes (.event e :: got) (e :: es)
  | lagged {missed : List Event} {got : List Received} {es : List Event} :
    missed ≠ [] → Describes got es → Describes (.lagged missed.length :: got) (missed ++ es)

variable {s : Stream} {es : List Event} {i : Nat}

theorem Describes.append {a b : List Received} {x y : List Event} (h : Describes a x)
    (h' : Describes b y) : Describes (a ++ b) (x ++ y) := by
  induction h with
  | nil => exact h'
  | event e _ ih => exact .event e ih
  | lagged hne _ ih =>
    rw [List.append_assoc]
    exact .lagged hne ih

@[simp] theorem total_append (a b : List Received) : total (a ++ b) = total a + total b := by
  induction a with
  | nil => simp [total]
  | cons r rest ih => simp [total, ih, Nat.add_assoc]

@[simp] theorem perform_subscribe (s : Stream) : s.perform .subscribe = s.subscribe.2 := rfl

@[simp] theorem perform_unsubscribe (s : Stream) (j : Nat) :
    s.perform (.unsubscribe j) = s.unsubscribe j := rfl

@[simp] theorem perform_publish (s : Stream) (e : Event) :
    s.perform (.publish e) = s.publish e := rfl

@[simp] theorem perform_receive (s : Stream) (j : Nat) :
    s.perform (.receive j) = (s.receive j).2 := rfl

theorem received_append (i : Nat) (s : Stream) (a b : List Action) :
    received i s (a ++ b) = received i s a ++ received i (s.performAll a) b := by
  induction a generalizing s with
  | nil => rfl
  | cons x rest ih => simp [received, performAll, ih]

/-! ## The size of the ring -/

/-- A ring has as many slots as the least power of two that is not below the room asked for. -/
theorem isLeast_slotCount (n : Nat) : IsLeast {c | n ≤ c ∧ c.isPowerOfTwo} (slotCount n) := by
  by_cases hn : n ≤ 1
  · rw [slotCount, if_pos hn]
    refine ⟨⟨hn, 0, rfl⟩, ?_⟩
    rintro c ⟨-, k, rfl⟩
    exact Nat.one_le_two_pow
  · rw [slotCount, if_neg hn]
    refine ⟨⟨?_, _, rfl⟩, ?_⟩
    · have hlt : n - 1 < Nat.pow 2 ((n - 1).log2 + 1) := Nat.lt_log2_self
      omega
    · rintro c ⟨hc, k, rfl⟩
      have hk : (n - 1).log2 < k := (Nat.log2_lt (by omega)).mpr (by omega)
      exact Nat.pow_le_pow_right (by omega) hk

theorem slotCount_pos (n : Nat) : 0 < slotCount n := by
  obtain ⟨⟨-, k, hk⟩, -⟩ := isLeast_slotCount n
  rw [hk]
  exact Nat.two_pow_pos k

/-! ## What a step does

A step puts an event into the ring, or it changes the position of one receiver. -/

@[simp] theorem capacity_perform (s : Stream) (a : Action) :
    (s.perform a).capacity = s.capacity := by
  cases a with
  | subscribe => rfl
  | unsubscribe j => rfl
  | publish e => grind [perform, publish, capacity]
  | receive j => grind [perform, receive, capacity]

theorem capacity_performAll (s : Stream) (actions : List Action) :
    (s.performAll actions).capacity = s.capacity := by
  induction actions generalizing s with
  | nil => rfl
  | cons a rest ih => exact (ih _).trans (capacity_perform s a)

theorem position?_subscribe (s : Stream) (i : Nat) :
    s.subscribe.2.position? i =
      if i = s.receivers.length then some s.tail else s.position? i := by
  grind [subscribe, position?]

theorem position?_unsubscribe (s : Stream) (i j : Nat) :
    (s.unsubscribe j).position? i = if i = j then none else s.position? i := by
  grind [unsubscribe, position?]

@[simp] theorem position?_publish (s : Stream) (e : Event) (i : Nat) :
    (s.publish e).position? i = s.position? i := by
  grind [publish, position?]

theorem receive_cases (s : Stream) (j : Nat) :
    (s.receive j = (none, s) ∧ ∀ p, s.position? j = some p → s.next? p = none) ∨
      ∃ p r, s.position? j = some p ∧ s.next? p = some r ∧ s.receive j =
        (some r, { s with receivers := s.receivers.set j (some (p + r.count)) }) := by
  grind [receive]

theorem receive_eq_none (h : s.position? i = none) : s.receive i = (none, s) := by
  grind [receive]

theorem fst_receive {p : Nat} (h : s.position? i = some p) : (s.receive i).1 = s.next? p := by
  grind [receive]

theorem position?_receive (s : Stream) (i j : Nat) :
    (s.receive j).2.position? i =
      if i = j then (s.position? i).map (· + total (s.receive i).1.toList) else s.position? i := by
  obtain ⟨heq, -⟩ | ⟨p, r, hp, -, heq⟩ := receive_cases s j
  · by_cases hi : i = j
    · subst hi
      simp [heq, total]
    · simp [heq, hi]
  · have hj : j < s.receivers.length := by
      by_contra hlen
      simp [position?, List.getElem?_eq_none (Nat.not_lt.mp hlen)] at hp
    by_cases hi : i = j
    · subst hi
      rw [hp, heq]
      simp [position?, hj, total]
    · simp [heq, position?, hi, Ne.symm hi]

theorem slot?_publish (s : Stream) (e : Event) (hs : s.subscriberCount ≠ 0) (hc : 0 < s.capacity)
    (n : Nat) :
    (s.publish e).slot? n =
      if n % s.capacity = s.tail % s.capacity then some ⟨s.tail, e⟩ else s.slot? n := by
  have := Nat.mod_lt n hc
  grind [publish, slot?, capacity]

/-! ## The ring as a view of all events -/

/-- The stream has taken the events `es`. Its slots hold the newest of them. -/
structure Holds (s : Stream) (es : List Event) : Prop where
  capacity_pos : 0 < s.capacity
  tail_eq : s.tail = es.length
  recent {n : Nat} {e : Event} :
    es[n]? = some e → es.length ≤ n + s.capacity → s.slot? n = some ⟨n, e⟩
  fresh {n : Nat} : es.length ≤ n → n < s.capacity → s.slot? n = none
  position_le {i p : Nat} : s.position? i = some p → p ≤ es.length

theorem holds_ofCapacity (n : Nat) : Holds (ofCapacity n) [] where
  capacity_pos := by simpa [ofCapacity, capacity] using slotCount_pos n
  tail_eq := rfl
  recent := by simp
  fresh := by grind [ofCapacity, slot?]
  position_le := by simp [ofCapacity, position?]

/-- The slot of an event that has been published holds the newest event of that slot. -/
theorem Holds.exists_slot? (h : Holds s es) {p : Nat} (hp : p < es.length) :
    ∃ q e, s.slot? p = some ⟨q, e⟩ ∧ p ≤ q ∧ es.length ≤ q + s.capacity := by
  have hc := h.capacity_pos
  -- go on from `p` by as many rounds as there are before the end
  obtain ⟨rounds, hr⟩ : ∃ rounds, (es.length - 1 - p) / s.capacity = rounds := ⟨_, rfl⟩
  have hsplit := Nat.div_add_mod (es.length - 1 - p) s.capacity
  have hlt := Nat.mod_lt (es.length - 1 - p) hc
  rw [hr] at hsplit
  have hq : p + s.capacity * rounds < es.length := by omega
  have hslot : s.slot? (p + s.capacity * rounds) = s.slot? p := by
    simp [slot?]
  refine ⟨p + s.capacity * rounds, es[p + s.capacity * rounds], ?_, by omega, by omega⟩
  rw [← hslot]
  exact h.recent (List.getElem?_eq_getElem hq) (by omega)

/-- The slot that comes next holds the event of a whole round before, if there has been one. -/
theorem Holds.next?_end (h : Holds s es) : s.next? es.length = none := by
  by_cases hc : es.length < s.capacity
  · simp [next?, h.fresh (Nat.le_refl _) hc]
  · have hpos := h.capacity_pos
    have hlt : es.length - s.capacity < es.length := by omega
    have hslot : s.slot? (es.length - s.capacity) = s.slot? es.length := by
      rw [slot?, slot?, ← Nat.mod_eq_sub_mod (by omega)]
    have hold := h.recent (List.getElem?_eq_getElem hlt) (by omega)
    rw [hslot] at hold
    grind [next?]

theorem Holds.next?_cases (h : Holds s es) {p : Nat} (hp : p ≤ es.length) :
    (p = es.length ∧ s.next? p = none) ∨
      (∃ e, es[p]? = some e ∧ es.length ≤ p + s.capacity ∧ s.next? p = some (.event e)) ∨
      (p + s.capacity < es.length ∧
        s.next? p = some (.lagged (es.length - s.capacity - p))) := by
  rcases Nat.eq_or_lt_of_le hp with rfl | hlt
  · exact .inl ⟨rfl, h.next?_end⟩
  by_cases hnew : es.length ≤ p + s.capacity
  · have hslot := h.recent (List.getElem?_eq_getElem hlt) hnew
    exact .inr (.inl ⟨es[p], List.getElem?_eq_getElem hlt, hnew, by simp [next?, hslot]⟩)
  · obtain ⟨q, e, hslot, hpq, hq⟩ := h.exists_slot? hlt
    have hne : ¬ q = p := by omega
    have hne' : ¬ q + s.capacity = p := by omega
    exact .inr (.inr ⟨by omega, by simp [next?, hslot, hne, hne', h.tail_eq]⟩)

/-! ### Every step keeps the view -/

theorem Holds.of_ring_eq {s' : Stream} (h : Holds s es) (hslots : s'.slots = s.slots)
    (htail : s'.tail = s.tail) (hpos : ∀ i p, s'.position? i = some p → p ≤ es.length) :
    Holds s' es where
  capacity_pos := by simpa only [capacity, hslots] using h.capacity_pos
  tail_eq := htail.trans h.tail_eq
  recent he hn := by
    simp only [slot?, capacity, hslots] at hn ⊢
    exact h.recent he hn
  fresh hn hc := by
    simp only [slot?, capacity, hslots] at hc ⊢
    exact h.fresh hn hc
  position_le := hpos _ _

theorem Holds.subscribe (h : Holds s es) : Holds s.subscribe.2 es := by
  refine h.of_ring_eq rfl rfl fun i p hp => ?_
  rw [position?_subscribe] at hp
  split at hp
  · have := h.tail_eq
    grind
  · exact h.position_le hp

theorem Holds.unsubscribe (h : Holds s es) (j : Nat) : Holds (s.unsubscribe j) es := by
  refine h.of_ring_eq rfl rfl fun i p hp => ?_
  rw [position?_unsubscribe] at hp
  split at hp
  · cases hp
  · exact h.position_le hp

/-- A receiver is told of no event that has not been published. -/
theorem Holds.add_count_le (h : Holds s es) {p : Nat} {r : Received} (hp : p ≤ es.length)
    (hr : s.next? p = some r) : p + r.count ≤ es.length := by
  obtain ⟨-, hnone⟩ | ⟨e, he, -, hev⟩ | ⟨hlag, hev⟩ := h.next?_cases hp
  · grind
  · obtain ⟨hlt, -⟩ := List.getElem?_eq_some_iff.mp he
    grind [Received.count]
  · grind [Received.count]

theorem Holds.receive (h : Holds s es) (j : Nat) : Holds (s.receive j).2 es := by
  obtain ⟨heq, -⟩ | ⟨p, r, hp, hr, heq⟩ := receive_cases s j
  · rwa [heq]
  · have hle := h.add_count_le (h.position_le hp) hr
    rw [heq]
    refine h.of_ring_eq rfl rfl fun i q hq => ?_
    have hcases : q = p + r.count ∨ s.position? i = some q := by
      grind [position?]
    rcases hcases with rfl | hq
    · exact hle
    · exact h.position_le hq

/-- Numbers that are less than a round apart have different slots. -/
theorem mod_ne_mod {n m c : Nat} (hlt : n < m) (hround : m < n + c) : n % c ≠ m % c := by
  intro heq
  have hzero := Nat.sub_mod_eq_zero_of_mod_eq heq.symm
  rw [Nat.mod_eq_of_lt (by omega)] at hzero
  omega

theorem Holds.publish (h : Holds s es) (hs : s.subscriberCount ≠ 0) (e : Event) :
    Holds (s.publish e) (es ++ [e]) := by
  have hc := h.capacity_pos
  have htail := h.tail_eq
  have hcap : (s.publish e).capacity = s.capacity := capacity_perform s (.publish e)
  refine ⟨by rwa [hcap], by simp [Stream.publish, hs, htail], ?_, ?_, ?_⟩
  · intro n e' he' hn
    rw [hcap, List.length_append, List.length_singleton] at hn
    rw [slot?_publish s e hs hc, htail]
    by_cases hlast : n = es.length
    · grind
    · have hlt : n < es.length := by grind
      rw [if_neg (mod_ne_mod hlt (by omega))]
      exact h.recent (by grind) (by omega)
  · intro n hlen hn
    rw [List.length_append, List.length_singleton] at hlen
    rw [hcap] at hn
    rw [slot?_publish s e hs hc, htail, if_neg (mod_ne_mod (by omega) (by omega)).symm]
    exact h.fresh (by omega) hn
  · intro i p hp
    rw [position?_publish] at hp
    have := h.position_le hp
    grind

/-- What nobody can receive is dropped. -/
theorem Holds.perform (h : Holds s es) (a : Action) :
    Holds (s.perform a) (es ++ if s.subscriberCount = 0 then [] else a.events) := by
  cases a with
  | subscribe => simpa [Action.events] using h.subscribe
  | unsubscribe j => simpa [Action.events] using h.unsubscribe j
  | receive j => simpa [Action.events] using h.receive j
  | publish e =>
    by_cases hs : s.subscriberCount = 0
    · simpa [Stream.perform, Stream.publish, hs] using h
    · simpa [Action.events, hs] using h.publish hs e

theorem Holds.exists_performAll (h : Holds s es) (actions : List Action) :
    ∃ es', Holds (s.performAll actions) es' := by
  induction actions generalizing s es with
  | nil => exact ⟨es, h⟩
  | cons a rest ih => exact ih (h.perform a)

/-! ## A receiver on its way -/

/-- Receiver `i` has subscribed after `earlier`, and since then `es` has been published and it has
got `got`. -/
structure Tells (i : Nat) (earlier : List Event) (s : Stream) (es : List Event)
    (got : List Received) : Prop where
  holds : Holds s (earlier ++ es)
  position?_eq : s.position? i = some (earlier.length + total got)
  describes : Describes got (es.take (total got))

variable {earlier : List Event} {got : List Received}

theorem Tells.total_le (h : Tells i earlier s es got) : total got ≤ es.length := by
  have := h.holds.position_le h.position?_eq
  grind

theorem subscriberCount_ne_zero {p : Nat} (h : s.position? i = some p) :
    s.subscriberCount ≠ 0 := by
  have hmem : some p ∈ s.receivers := List.mem_of_getElem? (i := i) (by grind [position?])
  have : some p ∈ s.receivers.filter Option.isSome := by simpa using hmem
  grind [subscriberCount]

/-- One receipt unfolds to the events from one position to the next. -/
theorem Holds.describes_next? (h : Holds s (earlier ++ es)) {n : Nat} {r : Received}
    (hn : n ≤ es.length) (hr : s.next? (earlier.length + n) = some r) :
    Describes [r] ((es.drop n).take r.count) := by
  have hle : earlier.length + n ≤ (earlier ++ es).length := by grind
  obtain ⟨-, hnone⟩ | ⟨e, he, -, hev⟩ | ⟨hlag, hev⟩ := h.next?_cases hle
  · grind
  · obtain rfl : r = .event e := by grind
    have hen : es[n]? = some e := by grind
    have hone : (es.drop n).take 1 = [e] := by
      rw [List.take_one, List.head?_drop, hen, Option.toList_some]
    rw [Received.count, hone]
    exact .event e .nil
  · obtain ⟨m, hm⟩ : ∃ m, (earlier ++ es).length - s.capacity - (earlier.length + n) = m := ⟨_, rfl⟩
    obtain rfl : r = .lagged m := by grind
    have hlen : ((es.drop n).take m).length = m := by grind
    have hne : (es.drop n).take m ≠ [] := by grind
    have := Describes.lagged hne .nil
    rwa [hlen, List.append_nil] at this

theorem position?_perform {p : Nat} {a : Action} (h : s.position? i = some p)
    (ha : a ≠ .unsubscribe i) :
    (s.perform a).position? i = some (p + total (s.gets i a)) := by
  cases a with
  | subscribe =>
    have hne : i ≠ s.receivers.length := by grind [position?]
    simp [position?_subscribe, gets, total, hne, h]
  | unsubscribe j =>
    have hne : i ≠ j := by grind
    simp [position?_unsubscribe, gets, total, hne, h]
  | publish e => simp [gets, total, h]
  | receive j =>
    by_cases hj : j = i
    · subst hj
      simp [position?_receive, gets, h]
    · simp [position?_receive, gets, total, hj, Ne.symm hj, h]

theorem Tells.describes_gets (h : Tells i earlier s es got) (a : Action) :
    Describes (s.gets i a)
      (((es ++ a.events).drop (total got)).take (total (s.gets i a))) := by
  cases a with
  | subscribe | unsubscribe j | publish e => simpa [gets, total] using Describes.nil
  | receive j =>
    by_cases hj : j = i
    · subst hj
      simp only [gets, Action.events, List.append_nil, ↓reduceIte, fst_receive h.position?_eq]
      cases hr : s.next? (earlier.length + total got) with
      | none => simpa [total] using Describes.nil
      | some r => simpa [total] using h.holds.describes_next? h.total_le hr
    · simpa [gets, total, hj] using Describes.nil

theorem Tells.perform (h : Tells i earlier s es got) {a : Action} (ha : a ≠ .unsubscribe i) :
    Tells i earlier (s.perform a) (es ++ a.events) (got ++ s.gets i a) where
  holds := by
    -- the receiver itself is one who can receive what is published
    have hholds := h.holds.perform a
    rwa [if_neg (subscriberCount_ne_zero h.position?_eq), List.append_assoc] at hholds
  position?_eq := by
    rw [position?_perform h.position?_eq ha, total_append, Nat.add_assoc]
  describes := by
    -- what has been got so far is about events that were there before this step
    have hold : (es ++ a.events).take (total got) = es.take (total got) :=
      List.take_append_of_le_length h.total_le
    rw [total_append, List.take_add, hold]
    exact h.describes.append (h.describes_gets a)

theorem Tells.performAll (h : Tells i earlier s es got) {actions : List Action}
    (hi : .unsubscribe i ∉ actions) :
    Tells i earlier (s.performAll actions) (es ++ published actions)
      (got ++ received i s actions) := by
  induction actions generalizing s es got with
  | nil => simpa [Stream.performAll, published, received] using h
  | cons a rest ih =>
    simp only [List.mem_cons, not_or] at hi
    have := ih (h.perform (Ne.symm hi.1)) hi.2
    simpa [Stream.performAll, published, received] using this

/-- A receiver that has just subscribed. -/
theorem Holds.tells_subscribe (h : Holds s earlier) :
    Tells s.subscribe.1 earlier s.subscribe.2 [] [] where
  holds := by simpa using h.subscribe
  position?_eq := by
    have hi : s.subscribe.1 = s.receivers.length := rfl
    simp [position?_subscribe, hi, h.tail_eq, total]
  describes := .nil

/-! ## Before the subscription and after its end -/

theorem length_receivers_le_perform (s : Stream) (a : Action) :
    s.receivers.length ≤ (s.perform a).receivers.length := by
  cases a with
  | subscribe => simp [subscribe]
  | unsubscribe j => simp [unsubscribe]
  | publish e => grind [perform_publish, publish]
  | receive j => grind [perform_receive, receive]

theorem length_receivers_le_performAll (s : Stream) (actions : List Action) :
    s.receivers.length ≤ (s.performAll actions).receivers.length := by
  induction actions generalizing s with
  | nil => exact Nat.le_refl _
  | cons a rest ih => exact (length_receivers_le_perform s a).trans (ih _)

theorem gets_eq_nil (h : s.position? i = none) (a : Action) : s.gets i a = [] := by
  cases a with
  | subscribe | unsubscribe j | publish e => rfl
  | receive j => simp [gets, receive_eq_none h]

theorem received_early {actions : List Action}
    (h : (s.performAll actions).receivers.length ≤ i) : received i s actions = [] := by
  induction actions generalizing s with
  | nil => rfl
  | cons a rest ih =>
    have hle := length_receivers_le_performAll s (a :: rest)
    have hnone : s.position? i = none := by grind [position?]
    rw [received, gets_eq_nil hnone, ih h, List.append_nil]

theorem received_late (hlen : i < s.receivers.length) (hnone : s.position? i = none)
    (actions : List Action) : received i s actions = [] := by
  induction actions generalizing s with
  | nil => rfl
  | cons a rest ih =>
    have hnone' : (s.perform a).position? i = none := by
      cases a with
      | subscribe => simp [position?_subscribe, hnone, Nat.ne_of_lt hlen]
      | unsubscribe j => simp [position?_unsubscribe, hnone]
      | publish e => simp [hnone]
      | receive j => simp [position?_receive, hnone]
    rw [received, gets_eq_nil hnone, ih (hlen.trans_le (length_receivers_le_perform s a)) hnone',
      List.append_nil]

/-- The steps up to the end of the subscription of `i`. -/
def whileSubscribed (i : Nat) (actions : List Action) : List Action :=
  actions.takeWhile (· ≠ .unsubscribe i)

theorem notMem_whileSubscribed (i : Nat) (actions : List Action) :
    .unsubscribe i ∉ whileSubscribed i actions := by
  intro hmem
  simpa using List.mem_takeWhile_imp hmem

theorem exists_eq_whileSubscribed_append (i : Nat) (actions : List Action) :
    ∃ rest, actions = whileSubscribed i actions ++ rest ∧ rest.head?.all (· = .unsubscribe i) := by
  refine ⟨actions.dropWhile (· ≠ .unsubscribe i), List.takeWhile_append_dropWhile.symm, ?_⟩
  have hhead := List.head?_dropWhile_not (· ≠ Action.unsubscribe i) actions
  grind

/-- A receiver gets nothing but between its subscription and the end of it. -/
theorem received_eq_whileSubscribed (n : Nat) (before since : List Action) :
    let start := (ofCapacity n).performAll before
    let i := start.subscribe.1
    received i (ofCapacity n) (before ++ .subscribe :: since) =
      received i start.subscribe.2 (whileSubscribed i since) := by
  intro start i
  have hearly : received i (ofCapacity n) before = [] := received_early (Nat.le_refl _)
  obtain ⟨rest, hsince, hrest⟩ := exists_eq_whileSubscribed_append i since
  have hlate : received i (start.subscribe.2.performAll (whileSubscribed i since)) rest = [] := by
    cases rest with
    | nil => rfl
    | cons a more =>
      obtain rfl : a = .unsubscribe i := by simpa using hrest
      have hlen : i < start.subscribe.2.receivers.length := by simp [i, subscribe]
      have hlen' := hlen.trans_le (length_receivers_le_performAll _ (whileSubscribed i since))
      have hlen'' := hlen'.trans_le (length_receivers_le_perform _ (.unsubscribe i))
      exact received_late hlen'' (by simp [position?_unsubscribe]) more
  calc received i (ofCapacity n) (before ++ .subscribe :: since)
      = received i start (.subscribe :: since) := by
        rw [received_append, hearly, List.nil_append]
    _ = received i start.subscribe.2 (whileSubscribed i since ++ rest) := by
        rw [← hsince]
        rfl
    _ = received i start.subscribe.2 (whileSubscribed i since) := by
        rw [received_append, hlate, List.append_nil]

/-! ## Every event is delivered or counted -/

/-- Where a receiver stands that has got `got` when `es` has been published since its subscription.
The ring has `c` slots, and `next` is what it would get now. -/
structure AccountsFor (c : Nat) (es : List Event) (got : List Received)
    (next : Option Received) : Prop where
  total_le : total got ≤ es.length
  /-- The receipts unfold to the events up to its position. -/
  describes : Describes got (es.take (total got))
  /-- The next event follows, if there is one and it is among the newest `c`. -/
  next_eq_event : es.length ≤ total got + c → next = (es[total got]?).map .event
  /-- Otherwise all events but the newest `c` are counted as missed. -/
  next_eq_lagged : total got + c < es.length →
    ∃ m, 0 < m ∧ total got + m + c = es.length ∧ next = some (.lagged m)

theorem Tells.accountsFor (h : Tells i earlier s es got) :
    AccountsFor s.capacity es got (s.receive i).1 := by
  have hle := h.total_le
  have hnext := h.holds.next?_cases (h.holds.position_le h.position?_eq)
  have hlen : (earlier ++ es).length = earlier.length + es.length := List.length_append
  have hget : (earlier ++ es)[earlier.length + total got]? = es[total got]? := by
    simp [List.getElem?_append]
  rw [hlen, hget] at hnext
  refine ⟨hle, h.describes, fun hnew => ?_, fun hold => ?_⟩
  · rw [fst_receive h.position?_eq]
    obtain ⟨hend, hnone⟩ | ⟨e, he, -, hev⟩ | ⟨hlag, -⟩ := hnext
    · rw [hnone, List.getElem?_eq_none (by omega), Option.map_none]
    · rw [hev, he, Option.map_some]
    · omega
  · rw [fst_receive h.position?_eq]
    obtain ⟨hend, -⟩ | ⟨e, -, hnew, -⟩ | ⟨hlag, hev⟩ := hnext
    · omega
    · omega
    · exact ⟨_, by omega, by omega, hev⟩

/-- Every receiver of every stream, at all times while it is subscribed: what it has got describes
the events published since its subscription up to its position, and what it gets next goes on from
there. The newest events, as many as there are slots, are never counted as missed. -/
theorem receipts_account_for_events (n : Nat) (before since : List Action) :
    let start := (ofCapacity n).performAll before
    let i := start.subscribe.1
    let s := start.subscribe.2
    ∃ c, IsLeast {c | n ≤ c ∧ c.isPowerOfTwo} c ∧
      received i (ofCapacity n) (before ++ .subscribe :: since) =
        received i s (whileSubscribed i since) ∧
      ∀ soon, soon <+: whileSubscribed i since →
        (s.performAll soon).position? i = some (s.tail + total (received i s soon)) ∧
        AccountsFor c (published soon) (received i s soon) ((s.performAll soon).receive i).1 := by
  intro start i s
  refine ⟨slotCount n, isLeast_slotCount n, received_eq_whileSubscribed n before since, ?_⟩
  intro soon hsoon
  obtain ⟨earlier, hstart⟩ := (holds_ofCapacity n).exists_performAll before
  have hmem : .unsubscribe i ∉ soon := fun h =>
    notMem_whileSubscribed i since (hsoon.subset h)
  have htells := hstart.tells_subscribe.performAll hmem
  rw [List.nil_append, List.nil_append] at htells
  have hcap : (s.performAll soon).capacity = slotCount n := by
    rw [capacity_performAll]
    change start.capacity = slotCount n
    rw [capacity_performAll]
    simp [ofCapacity, capacity]
  constructor
  · rw [htells.position?_eq, ← hstart.tail_eq]
    rfl
  · rw [← hcap]
    exact htells.accountsFor

/-- A ring of two slots. The first receiver keeps the stream going, the second one misses an event
and leaves before the last one. -/
theorem receipts_account_for_events_lagging :
    let before := [.publish (.file "x" ""), .subscribe, .publish (.file "y" "")]
    let soon := [.publish (.file "a" ""), .receive 1, .publish (.file "b" ""),
      .publish (.file "c" ""), .publish (.file "d" ""), .receive 1, .receive 1]
    let got := [.event (.file "a" ""), .lagged 1, .event (.file "c" "")]
    received 1 (ofCapacity 2)
        (before ++ .subscribe :: (soon ++ [.unsubscribe 1, .publish (.file "e" ""), .receive 1])) =
      got ∧
    AccountsFor 2 (published soon) got (some (.event (.file "d" ""))) := by
  intro before soon got
  obtain ⟨c, hc, -, hsoon⟩ := receipts_account_for_events 2 before
    (soon ++ [.unsubscribe 1, .publish (.file "e" ""), .receive 1])
  obtain rfl : c = 2 := hc.unique (isLeast_slotCount 2)
  have hi : ((ofCapacity 2).performAll before).subscribe.1 = 1 := by decide +kernel
  have hgot : received 1 ((ofCapacity 2).performAll before).subscribe.2 soon = got := by
    decide +kernel
  have hnext : ((((ofCapacity 2).performAll before).subscribe.2.performAll soon).receive 1).1 =
      some (.event (.file "d" "")) := by decide +kernel
  have haccounts := (hsoon soon (by decide +kernel)).2
  rw [hi, hgot, hnext] at haccounts
  exact ⟨by decide +kernel, haccounts⟩

/-! ## Draining

Asking again and again is a run of steps as well. A receiver is behind by at most the events in the
ring once it has been told of those that it has missed, so as many steps and one more take it to the
end. -/

theorem performAll_idle (h : s.receive i = (none, s)) (limit : Nat) :
    received i s (List.replicate limit (.receive i)) = [] ∧
      s.performAll (List.replicate limit (.receive i)) = s := by
  induction limit with
  | zero => exact ⟨rfl, rfl⟩
  | succ limit ih =>
    simpa [List.replicate_succ, received, gets, performAll, h] using ih

theorem receiveUpTo_eq (i limit : Nat) (s : Stream) :
    receiveUpTo i limit s =
      (received i s (List.replicate limit (.receive i)),
        s.performAll (List.replicate limit (.receive i))) := by
  induction limit generalizing s with
  | zero => rfl
  | succ limit ih =>
    obtain ⟨heq, -⟩ | ⟨p, r, -, -, heq⟩ := receive_cases s i
    · obtain ⟨hgot, hsame⟩ := performAll_idle heq (limit + 1)
      simp [receiveUpTo, heq, hgot, hsame]
    · simp [receiveUpTo, heq, ih, List.replicate_succ, received, gets, performAll]

theorem Holds.position?_receive_self (h : Holds s es) {p : Nat} (hp : s.position? i = some p) :
    (s.receive i).2.position? i =
      some (if es.length ≤ p + s.capacity then min (p + 1) es.length
        else es.length - s.capacity) := by
  rw [position?_receive, if_pos rfl, fst_receive hp, hp, Option.map_some]
  obtain ⟨hend, hev⟩ | ⟨e, he, hnew, hev⟩ | ⟨hlag, hev⟩ := h.next?_cases (h.position_le hp)
  · subst hend
    simp [hev, total]
  · obtain ⟨hlt, -⟩ := List.getElem?_eq_some_iff.mp he
    simp [hev, hnew, total, Received.count, Nat.min_eq_left hlt]
  · have hold : ¬ es.length ≤ p + s.capacity := by omega
    simp only [hev, hold, total, Received.count, Option.toList_some, if_false]
    grind

theorem Holds.position?_receiveUpTo (h : Holds s es) {p : Nat} (hp : s.position? i = some p)
    (hnew : es.length ≤ p + s.capacity) (limit : Nat) :
    Holds (receiveUpTo i limit s).2 es ∧
      (receiveUpTo i limit s).2.position? i = some (min (p + limit) es.length) := by
  simp only [receiveUpTo_eq]
  induction limit generalizing s p with
  | zero => exact ⟨h, by simpa [performAll, h.position_le hp] using hp⟩
  | succ limit ih =>
    have hp' := h.position?_receive_self hp
    rw [if_pos hnew] at hp'
    have hcap : (s.receive i).2.capacity = s.capacity := capacity_perform s (.receive i)
    obtain ⟨hholds, hpos⟩ := ih (h.receive i) hp' (by omega)
    refine ⟨hholds, ?_⟩
    have hmin : min (min (p + 1) es.length + limit) es.length =
        min (p + (limit + 1)) es.length := by omega
    rw [List.replicate_succ, ← hmin]
    exact hpos

theorem Holds.position?_drain (h : Holds s es) {p : Nat} (hp : s.position? i = some p) :
    Holds (s.drain i).2 es ∧ (s.drain i).2.position? i = some es.length := by
  simp only [drain, hp]
  by_cases hnew : es.length ≤ p + s.capacity
  · obtain ⟨hholds, hpos⟩ := h.position?_receiveUpTo hp hnew (s.capacity + 1)
    exact ⟨hholds, by rwa [Nat.min_eq_right (by omega)] at hpos⟩
  · -- the first step counts what has been missed
    have hp' := h.position?_receive_self hp
    rw [if_neg hnew] at hp'
    have hcap : (s.receive i).2.capacity = s.capacity := capacity_perform s (.receive i)
    obtain ⟨hholds, hpos⟩ := (h.receive i).position?_receiveUpTo hp' (by omega) s.capacity
    simp only [receiveUpTo_eq] at hholds hpos ⊢
    exact ⟨hholds, by rwa [Nat.min_eq_right (by omega)] at hpos⟩

/-- A receiver that has been drained is at the end. -/
theorem receive_drain (n : Nat) (actions : List Action) (i : Nat) :
    ((((ofCapacity n).performAll actions).drain i).2.receive i).1 = none := by
  obtain ⟨es, h⟩ := (holds_ofCapacity n).exists_performAll actions
  cases hp : ((ofCapacity n).performAll actions).position? i with
  | none => simp [drain, hp, receive_eq_none]
  | some p =>
    obtain ⟨hholds, hpos⟩ := h.position?_drain hp
    rw [fst_receive hpos, hholds.next?_end]

end Codemod.Event.Stream
