import DfStudy.Support.Machine
import DfStudy.Support.IndexWalk
import Mathlib.Data.List.Forall2

/-! The class `Evented`, whose `trigger` walks over an array that the callbacks may change, against a list of
registrations. -/

namespace DfStudy.Listeners
open Support.Machine Support.IndexWalk

section
variable {Event Callback Args : Type} [DecidableEq Event] [DecidableEq Callback]

/-- The object `cbMap`: its own properties, in the order in which they have come to it. -/
abbrev CallbackMap (Event Callback : Type) := List (Event × List Callback)

/-- `cbMap[event]`, unless that is a property the object inherits. -/
def CallbackMap.get : CallbackMap Event Callback → Event → Option (List Callback)
  | [], _ => none
  | (key, cbs) :: cbMap, event => if key = event then some cbs else CallbackMap.get cbMap event

/-- `cbMap[event] = cbs`. A new property comes last. -/
def CallbackMap.set : CallbackMap Event Callback → Event → List Callback → CallbackMap Event Callback
  | [], event, cbs => [(event, cbs)]
  | (key, old) :: cbMap, event, cbs =>
    if key = event then (key, cbs) :: cbMap else (key, old) :: CallbackMap.set cbMap event cbs

/-- The callbacks of an event, none where there is no array yet. -/
def CallbackMap.callbacks (cbMap : CallbackMap Event Callback) (event : Event) : List Callback := (cbMap.get event).getD []

def CallbackMap.on (cbMap : CallbackMap Event Callback) (event : Event) (cb : Callback) : CallbackMap Event Callback :=
  cbMap.set event (cbMap.callbacks event ++ [cb])

def indexOf (cbs : List Callback) (cb : Callback) : Int :=
  match cbs.idxOf? cb with
  | some index => index
  | none => -1

/-- `cbs.splice(start, 1)`. A negative start counts from the end. -/
def splice (cbs : List Callback) (start : Int) : List Callback :=
  cbs.eraseIdx (if start < 0 then cbs.length + start else start).toNat

def CallbackMap.off (cbMap : CallbackMap Event Callback) (event : Event) (cb : Callback) : CallbackMap Event Callback :=
  match cbMap.get event with
  | none => cbMap
  | some cbs => cbMap.set event (splice cbs (indexOf cbs cb))

/-- A running `forEach`: the array is that of the event, and the length is the one it had at first. -/
structure Walk (Event Args : Type) where
  event : Event
  args : Args
  next : Nat
  len : Nat

/-- An object with the calls that are running on it, innermost first, and the calls it has made. -/
structure Evented (Event Callback Args : Type) where
  cbMap : CallbackMap Event Callback := []
  walks : List (Walk Event Args) := []
  calls : List (Event × Callback × Args) := []
  /-- The events whose `cbMap[event]` was not the array it was taken for. -/
  errors : List Event := []

def Evented.on (s : Evented Event Callback Args) (event : Event) (cb : Callback) : Evented Event Callback Args :=
  { s with cbMap := s.cbMap.on event cb }

def Evented.off (s : Evented Event Callback Args) (event : Event) (cb : Callback) : Evented Event Callback Args :=
  { s with cbMap := s.cbMap.off event cb }

/-- The innermost `forEach` goes on: it calls the next callback that is there, or returns. -/
def Evented.proceed (s : Evented Event Callback Args) : Evented Event Callback Args :=
  match s.walks with
  | [] => s
  | walk :: walks =>
    match (s.cbMap.callbacks walk.event)[walk.next]? with
    | some cb =>
      if walk.next < walk.len then
        { s with walks := { walk with next := walk.next + 1 } :: walks, calls := s.calls ++ [(walk.event, cb, walk.args)] }
      else { s with walks }
    | none => { s with walks }

def Evented.trigger (s : Evented Event Callback Args) (event : Event) (args : Args) : Evented Event Callback Args :=
  match s.cbMap.get event with
  | none => s
  | some cbs => ({ s with walks := { event, args, next := 0, len := cbs.length } :: s.walks } : Evented _ _ _).proceed

/-- What is called on the object, by a callback that is running or otherwise, and the return of the callback that is
running. -/
inductive Move (Event Callback Args : Type) where
  | on (event : Event) (cb : Callback)
  | off (event : Event) (cb : Callback)
  | trigger (event : Event) (args : Args)
  | returned

/-- The event that is named. -/
def Move.event : Move Event Callback Args → Option Event
  | .on event _ => some event
  | .off event _ => some event
  | .trigger event _ => some event
  | .returned => none

/-- What the move does to an object that has the event's property itself, or has none. -/
def Evented.move (s : Evented Event Callback Args) : Move Event Callback Args → Evented Event Callback Args
  | .on event cb => s.on event cb
  | .off event cb => s.off event cb
  | .trigger event args => s.trigger event args
  | .returned => s.proceed

/-- A property that `cbMap` inherits is not undefined and no array, so the call of `push`, `indexOf` or `forEach` throws a
`TypeError`, before anything is changed. What becomes of it is the caller's affair. -/
def Evented.step (inherited : Event → Bool) (s : Evented Event Callback Args) (move : Move Event Callback Args) :
    Evented Event Callback Args :=
  match move.event.filter inherited with
  | some event => { s with errors := s.errors ++ [event] }
  | none => s.move move

/-- What a plain object inherits. -/
def objectPrototype : List String :=
  ["constructor", "__defineGetter__", "__defineSetter__", "hasOwnProperty", "__lookupGetter__", "__lookupSetter__",
    "isPrototypeOf", "propertyIsEnumerable", "toString", "valueOf", "__proto__", "toLocaleString"]

def plainObject (event : String) : Bool := event ∈ objectPrototype

/-! What the class is for. -/

structure Registration (Event Callback : Type) where
  id : Nat
  event : Event
  callback : Callback

/-- The registrations in their order, and for each trigger that is running those whose turn is still to come. -/
structure Registry (Event Callback Args : Type) where
  issued : Nat := 0
  registrations : List (Registration Event Callback) := []
  turns : List (Args × List (Registration Event Callback)) := []
  calls : List (Event × Callback × Args) := []

namespace Registry

def listed (t : Registry Event Callback Args) (event : Event) : List (Registration Event Callback) :=
  t.registrations.filter (·.event = event)

def on (t : Registry Event Callback Args) (event : Event) (callback : Callback) : Registry Event Callback Args :=
  { t with issued := t.issued + 1, registrations := t.registrations ++ [{ id := t.issued, event, callback }] }

/-- The first registration of the callback for the event is removed, if there is one. -/
def off (t : Registry Event Callback Args) (event : Event) (callback : Callback) : Registry Event Callback Args :=
  match (t.listed event).find? (·.callback = callback) with
  | none => t
  | some removed => { t with
      registrations := without Registration.id removed t.registrations
      turns := t.turns.map fun (args, turns) => (args, without Registration.id removed turns) }

/-- The next registration whose turn it is gets called. -/
def proceed (t : Registry Event Callback Args) : Registry Event Callback Args :=
  match t.turns with
  | [] => t
  | (_, []) :: rest => { t with turns := rest }
  | (args, first :: later) :: rest =>
    { t with turns := (args, later) :: rest, calls := t.calls ++ [(first.event, first.callback, args)] }

def trigger (t : Registry Event Callback Args) (event : Event) (args : Args) : Registry Event Callback Args :=
  ({ t with turns := (args, t.listed event) :: t.turns } : Registry _ _ _).proceed

def step (t : Registry Event Callback Args) : Move Event Callback Args → Registry Event Callback Args
  | .on event callback => t.on event callback
  | .off event callback => t.off event callback
  | .trigger event args => t.trigger event args
  | .returned => t.proceed

end Registry

/-! The moves that do no harm. -/

/-- A callback that is added does not take the place of one that has been removed from a walk that is running; one that
is removed is there, and shifts nothing that a running walk has still to visit out of or into its way. -/
def Spares (s : Evented Event Callback Args) : Move Event Callback Args → Prop
  | .on event _ => ∀ walk ∈ s.walks, walk.event = event →
      walk.len ≤ (s.cbMap.callbacks event).length ∨ (s.cbMap.callbacks event).length < walk.next
  | .off event cb =>
      if cb ∈ s.cbMap.callbacks event then
        ∀ walk ∈ s.walks, walk.event = event →
          Bears walk.next walk.len (s.cbMap.callbacks event).length ((s.cbMap.callbacks event).idxOf cb)
      else s.cbMap.callbacks event = []
  | .trigger _ _ => True
  | .returned => True

instance (s : Evented Event Callback Args) (move : Move Event Callback Args) : Decidable (Spares s move) := by
  unfold Spares
  cases move <;> infer_instance

/-- No inherited property is taken for an event, and the walks are spared. -/
def Harmless (inherited : Event → Bool) (s : Evented Event Callback Args) (move : Move Event Callback Args) : Prop :=
  move.event.filter inherited = none ∧ Spares s move

instance (inherited : Event → Bool) (s : Evented Event Callback Args) (move : Move Event Callback Args) :
    Decidable (Harmless inherited s move) := inferInstanceAs (Decidable (_ ∧ _))

end

section
variable {Event Callback Args : Type} [DecidableEq Event]

/-! The callback map. -/

@[simp] theorem get_set_same (cbMap : CallbackMap Event Callback) (event : Event) (cbs : List Callback) :
    (cbMap.set event cbs).get event = some cbs := by
  induction cbMap with
  | nil => exact if_pos rfl
  | cons entry cbMap ih =>
    obtain ⟨key, old⟩ := entry
    unfold CallbackMap.set
    split
    next same => exact if_pos same
    next apart => exact (if_neg apart).trans ih

@[simp] theorem get_set_other (cbMap : CallbackMap Event Callback) {event other : Event} (apart : other ≠ event)
    (cbs : List Callback) : (cbMap.set event cbs).get other = cbMap.get other := by
  induction cbMap with
  | nil => exact if_neg apart.symm
  | cons entry cbMap ih =>
    obtain ⟨key, old⟩ := entry
    unfold CallbackMap.set
    split
    next same =>
      have elsewhere : key ≠ other := fun here => apart (here.symm.trans same)
      exact (if_neg elsewhere).trans (if_neg elsewhere).symm
    next =>
      unfold CallbackMap.get
      rw [ih]

theorem callbacks_set_same (cbMap : CallbackMap Event Callback) (event : Event) (cbs : List Callback) :
    (cbMap.set event cbs).callbacks event = cbs := by
  unfold CallbackMap.callbacks
  rw [get_set_same]
  rfl

theorem callbacks_set_other (cbMap : CallbackMap Event Callback) {event other : Event} (apart : other ≠ event)
    (cbs : List Callback) : (cbMap.set event cbs).callbacks other = cbMap.callbacks other := by
  unfold CallbackMap.callbacks
  rw [get_set_other cbMap apart]

end

section
variable {Event Callback Args : Type} [DecidableEq Event] [DecidableEq Callback]

theorem splice_present {before after : List Callback} {cb : Callback} (first : cb ∉ before) :
    splice (before ++ cb :: after) (indexOf (before ++ cb :: after) cb) = before ++ after := by
  have found : (before ++ cb :: after).idxOf? cb = some before.length := by
    induction before with
    | nil => simp [List.idxOf?_cons]
    | cons other before ih =>
      rw [List.mem_cons, not_or] at first
      rw [List.cons_append, List.idxOf?_cons, if_neg (fun same => first.1 (beq_iff_eq.mp same).symm), ih first.2]
      rfl
  unfold splice indexOf
  rw [found]
  have place : ((if (before.length : Int) < 0 then ((before ++ cb :: after).length : Int) + before.length
      else before.length) : Int).toNat = before.length := by
    rw [if_neg (by omega)]
    omega
  rw [place, List.eraseIdx_append_of_length_le (Nat.le_refl _), Nat.sub_self]
  rfl

theorem callbacks_off_empty {cbMap : CallbackMap Event Callback} {event : Event} (cb : Callback)
    (empty : cbMap.callbacks event = []) (other : Event) :
    (cbMap.off event cb).callbacks other = cbMap.callbacks other := by
  unfold CallbackMap.off
  cases present : cbMap.get event with
  | none => rfl
  | some cbs =>
    have none : cbs = [] := by
      unfold CallbackMap.callbacks at empty
      rwa [present] at empty
    have nothing : splice cbs (indexOf cbs cb) = [] := by
      rw [none]
      rfl
    change (cbMap.set event (splice cbs (indexOf cbs cb))).callbacks other = _
    rw [nothing]
    by_cases same : other = event
    · rw [same, callbacks_set_same, empty]
    · exact callbacks_set_other cbMap same []

theorem callbacks_off_present {cbMap : CallbackMap Event Callback} {event : Event} {cb : Callback}
    {before after : List Callback} (callbacks : cbMap.callbacks event = before ++ cb :: after) (first : cb ∉ before) :
    cbMap.off event cb = cbMap.set event (before ++ after) := by
  unfold CallbackMap.off
  cases present : cbMap.get event with
  | none =>
    unfold CallbackMap.callbacks at callbacks
    rw [present] at callbacks
    exact absurd callbacks.symm (List.append_ne_nil_of_right_ne_nil _ (List.cons_ne_nil _ _))
  | some cbs =>
    have whole : cbs = before ++ cb :: after := by
      unfold CallbackMap.callbacks at callbacks
      rwa [present] at callbacks
    change cbMap.set event (splice cbs (indexOf cbs cb)) = _
    rw [whole, splice_present first]

end

/-! The registrations. -/

section
variable {Event Callback : Type} {registrations : List (Registration Event Callback)}

/-- A registration of another event has another id. -/
theorem id_apart (unique : (registrations.map Registration.id).Nodup) {registration other : Registration Event Callback}
    (member : registration ∈ registrations) (present : other ∈ registrations) (apart : registration.event ≠ other.event) :
    registration.id ≠ other.id := by
  intro same
  have equal := List.inj_on_of_nodup_map unique member present same
  exact apart (congrArg Registration.event equal)

theorem listed_without [DecidableEq Event] (removed : Registration Event Callback) (event : Event) :
    (without Registration.id removed registrations).filter (·.event = event) =
      without Registration.id removed (registrations.filter (·.event = event)) := by
  unfold without
  rw [List.filter_filter, List.filter_filter]
  congr 1
  funext registration
  exact Bool.and_comm _ _

end

section
variable {Event Callback Args : Type} [DecidableEq Event]

/-! How far the two agree. -/

/-- A walk and the turns that are still to come. -/
structure Walk.Follows (walk : Walk Event Args) (registrations : List (Registration Event Callback))
    (running : Args × List (Registration Event Callback)) : Prop where
  args : walk.args = running.1
  turns : ahead walk.next walk.len (registrations.filter (·.event = walk.event)) = running.2

structure Agrees (s : Evented Event Callback Args) (t : Registry Event Callback Args) : Prop where
  callbacks : ∀ event, s.cbMap.callbacks event = (t.listed event).map Registration.callback
  walks : List.Forall₂ (fun walk running => Walk.Follows walk t.registrations running) s.walks t.turns
  calls : s.calls = t.calls
  unique : (t.registrations.map Registration.id).Nodup
  below : ∀ registration ∈ t.registrations, registration.id < t.issued

variable {s : Evented Event Callback Args} {t : Registry Event Callback Args}

theorem forall_walks {Left Right : Type} {related after : Left → Right → Prop} {left : List Left} {right : List Right}
    (pairs : List.Forall₂ related left right) (each : ∀ walk ∈ left, ∀ turn, related walk turn → after walk turn) :
    List.Forall₂ after left right := by
  induction pairs with
  | nil => exact .nil
  | cons pair _ ih =>
    exact .cons (each _ List.mem_cons_self _ pair) (ih fun walk member => each walk (List.mem_cons_of_mem _ member))

theorem Agrees.proceed (agrees : Agrees s t) : Agrees s.proceed t.proceed := by
  obtain ⟨callbacks, walks, calls, unique, below⟩ := agrees
  cases s with | mk cbMap running made errors =>
  cases t with | mk issued registrations turns called =>
  cases walks with
  | nil => exact ⟨callbacks, .nil, calls, unique, below⟩
  | @cons walk turn walks turns follows rest =>
    obtain ⟨args, pending⟩ := turn
    obtain ⟨same, left⟩ := follows
    have array := callbacks walk.event
    unfold Evented.proceed
    by_cases goes : walk.next < walk.len ∧ walk.next < (registrations.filter (·.event = walk.event)).length
    · have here := List.getElem?_eq_getElem goes.2
      have event := of_decide_eq_true (List.mem_filter.mp (List.getElem_mem goes.2)).2
      rw [ahead_cons goes.1 here] at left
      have called_ : (cbMap.callbacks walk.event)[walk.next]? =
          some (registrations.filter (·.event = walk.event))[walk.next].callback := by
        rw [array]
        unfold Registry.listed
        rw [List.getElem?_map, here]
        rfl
      dsimp only
      rw [called_]
      dsimp only
      rw [if_pos goes.1]
      subst left
      refine ⟨callbacks, .cons ⟨same, rfl⟩ rest, ?_, unique, below⟩
      have calls : made = called := calls
      change made ++ [_] = called ++ [_]
      rw [calls, event, same]
    · have none : pending = [] := by
        refine left.symm.trans (ahead_done ?_)
        dsimp only at goes ⊢
        omega
      subst none
      have ends : Agrees { cbMap, walks, calls := made, errors } { issued, registrations, turns, calls := called } :=
        ⟨callbacks, rest, calls, unique, below⟩
      dsimp only
      split
      next cb found =>
        have inside : walk.next < (registrations.filter (·.event = walk.event)).length := by
          rw [array] at found
          have short := (List.getElem?_eq_some_iff.mp found).1
          rwa [List.length_map] at short
        rw [if_neg fun below => goes ⟨below, inside⟩]
        exact ends
      next => exact ends

theorem Agrees.trigger (agrees : Agrees s t) (event : Event) (args : Args) :
    Agrees (s.trigger event args) (t.trigger event args) := by
  have array := agrees.callbacks event
  unfold Evented.trigger Registry.trigger
  cases present : s.cbMap.get event with
  | none =>
    have none : t.listed event = [] := by
      unfold CallbackMap.callbacks at array
      rw [present] at array
      exact List.map_eq_nil_iff.mp array.symm
    rw [none]
    exact ⟨agrees.callbacks, agrees.walks, agrees.calls, agrees.unique, agrees.below⟩
  | some cbs =>
    refine Agrees.proceed ⟨agrees.callbacks, .cons ⟨rfl, ?_⟩ agrees.walks, agrees.calls, agrees.unique, agrees.below⟩
    have length : cbs.length = (t.listed event).length := by
      unfold CallbackMap.callbacks at array
      rw [present] at array
      rw [← List.length_map (f := Registration.callback), ← array]
      rfl
    change ahead 0 cbs.length (t.listed event) = t.listed event
    rw [length, ahead_start]

section
variable {event : Event} {cb : Callback} {before after : List (Registration Event Callback)}
variable {removed : Registration Event Callback}

/-- The registrations of other events are other registrations. -/
theorem Agrees.elsewhere (agrees : Agrees s t) (present : removed ∈ t.listed event) {other : Event} (apart : other ≠ event) :
    ∀ registration ∈ t.listed other, registration.id ≠ removed.id := by
  intro registration listed
  obtain ⟨inside, same⟩ := List.mem_filter.mp listed
  obtain ⟨member, here⟩ := List.mem_filter.mp present
  exact id_apart agrees.unique inside member fun equal =>
    apart ((of_decide_eq_true same).symm.trans (equal.trans (of_decide_eq_true here)))

theorem Agrees.distinct (agrees : Agrees s t) (listed : t.listed event = before ++ removed :: after) :
    ((before ++ removed :: after).map Registration.id).Nodup := by
  rw [← listed]
  exact agrees.unique.sublist (List.filter_sublist.map _)

theorem Agrees.array (agrees : Agrees s t) (listed : t.listed event = before ++ removed :: after)
    (callback : removed.callback = cb) :
    s.cbMap.callbacks event = before.map Registration.callback ++ cb :: after.map Registration.callback := by
  rw [agrees.callbacks, listed, List.map_append, List.map_cons, callback]

end

end

section
variable {Event Callback Args : Type} [DecidableEq Event] [DecidableEq Callback]
variable {s : Evented Event Callback Args} {t : Registry Event Callback Args}

theorem Agrees.on (agrees : Agrees s t) {event : Event} {cb : Callback} (spares : Spares s (.on event cb)) :
    Agrees (s.on event cb) (t.on event cb) := by
  have listed : ∀ other, (t.on event cb).listed other =
      t.listed other ++ if other = event then [{ id := t.issued, event, callback := cb }] else [] := by
    intro other
    unfold Registry.listed Registry.on
    rw [List.filter_append]
    by_cases same : other = event
    · simp [same]
    · simp [same, Ne.symm same]
  refine ⟨fun other => ?_, forall_walks agrees.walks fun walk member turn follows => ⟨follows.args, ?_⟩, agrees.calls, ?_, ?_⟩
  · change (s.cbMap.set event (s.cbMap.callbacks event ++ [cb])).callbacks other = _
    rw [listed other, List.map_append, ← agrees.callbacks other]
    by_cases same : other = event
    · rw [same, callbacks_set_same, if_pos rfl]
      rfl
    · rw [callbacks_set_other _ same, if_neg same]
      exact (List.append_nil _).symm
  · have later := listed walk.event
    unfold Registry.listed at later
    rw [later, ← follows.turns]
    by_cases same : walk.event = event
    · have settled := spares walk member same
      rw [agrees.callbacks event, List.length_map, ← same] at settled
      rw [if_pos same]
      exact ahead_append settled _
    · rw [if_neg same, List.append_nil]
  · change ((t.registrations ++ [_]).map Registration.id).Nodup
    rw [List.map_append, List.nodup_append]
    refine ⟨agrees.unique, List.nodup_singleton _, fun id earlier other last => ?_⟩
    obtain ⟨registration, member, rfl⟩ := List.mem_map.mp earlier
    rw [List.mem_singleton.mp last]
    exact Nat.ne_of_lt (agrees.below registration member)
  · intro registration member
    cases List.mem_append.mp member with
    | inl earlier => exact Nat.lt_succ_of_lt (agrees.below registration earlier)
    | inr last =>
      rw [List.mem_singleton.mp last]
      exact Nat.lt_succ_self _

section
variable {event : Event} {cb : Callback} {before after : List (Registration Event Callback)}
variable {removed : Registration Event Callback}

/-- A walk has the same callbacks ahead of it, but for the one that is removed. -/
theorem Agrees.walk_without (agrees : Agrees s t) (listed : t.listed event = before ++ removed :: after)
    (callback : removed.callback = cb) (first : ∀ registration ∈ before, registration.callback ≠ cb)
    (spares : Spares s (.off event cb)) {walk : Walk Event Args} (running : walk ∈ s.walks) :
    ahead walk.next walk.len (without Registration.id removed (t.listed walk.event)) =
      without Registration.id removed (ahead walk.next walk.len (t.listed walk.event)) := by
  have inside : removed ∈ t.listed event := by
    rw [listed]
    exact List.mem_append_right _ List.mem_cons_self
  have array := agrees.array listed callback
  have absent : cb ∉ before.map Registration.callback := by simpa using first
  by_cases same : walk.event = event
  · have present : cb ∈ s.cbMap.callbacks event := by
      rw [array]
      exact List.mem_append_right _ List.mem_cons_self
    have place : (s.cbMap.callbacks event).idxOf cb = before.length := by
      rw [array, List.idxOf_append_of_notMem absent, List.idxOf_cons_self, List.length_map]
      rfl
    have length : (s.cbMap.callbacks event).length = (before ++ removed :: after).length := by
      rw [agrees.callbacks, listed, List.length_map]
    have bears := (if_pos present).mp spares walk running same
    rw [place, length] at bears
    rw [same, listed]
    exact ahead_without (agrees.distinct listed) bears
  · have others := agrees.elsewhere inside same
    rw [without_absent others, without_absent fun registration present => others registration (mem_of_ahead present)]

theorem Agrees.remove (agrees : Agrees s t) (listed : t.listed event = before ++ removed :: after)
    (callback : removed.callback = cb) (first : ∀ registration ∈ before, registration.callback ≠ cb)
    (spares : Spares s (.off event cb)) :
    Agrees (s.off event cb) { t with
      registrations := without Registration.id removed t.registrations
      turns := t.turns.map fun (args, turns) => (args, without Registration.id removed turns) } := by
  have inside : removed ∈ t.listed event := by
    rw [listed]
    exact List.mem_append_right _ List.mem_cons_self
  have array := agrees.array listed callback
  have absent : cb ∉ before.map Registration.callback := by simpa using first
  refine ⟨fun other => ?_, List.forall₂_map_right_iff.mpr (forall_walks agrees.walks fun walk running turn follows =>
    ⟨follows.args, ?_⟩), agrees.calls, agrees.unique.sublist (List.filter_sublist.map _),
    fun registration present => agrees.below registration (List.mem_filter.mp present).1⟩
  · change (s.cbMap.off event cb).callbacks other =
      ((without Registration.id removed t.registrations).filter (·.event = other)).map Registration.callback
    rw [callbacks_off_present array absent, listed_without]
    change _ = (without Registration.id removed (t.listed other)).map Registration.callback
    by_cases same : other = event
    · rw [same, callbacks_set_same, listed, without_here (agrees.distinct listed), List.map_append]
    · rw [callbacks_set_other _ same, without_absent (agrees.elsewhere inside same), agrees.callbacks]
  · rw [listed_without]
    change ahead walk.next walk.len (without Registration.id removed (t.listed walk.event)) =
      without Registration.id removed turn.2
    rw [← follows.turns]
    exact agrees.walk_without listed callback first spares running

end

theorem Agrees.off (agrees : Agrees s t) {event : Event} {cb : Callback} (spares : Spares s (.off event cb)) :
    Agrees (s.off event cb) (t.off event cb) := by
  unfold Registry.off
  cases found : (t.listed event).find? (·.callback = cb) with
  | none =>
    have absent : cb ∉ s.cbMap.callbacks event := fun inside => by
      rw [agrees.callbacks event] at inside
      obtain ⟨registration, present, same⟩ := List.mem_map.mp inside
      exact absurd (decide_eq_true same) (List.find?_eq_none.mp found registration present)
    have empty : s.cbMap.callbacks event = [] := (if_neg absent).mp spares
    exact ⟨fun other => (callbacks_off_empty cb empty other).trans (agrees.callbacks other), agrees.walks, agrees.calls,
      agrees.unique, agrees.below⟩
  | some removed =>
    obtain ⟨callback, before, after, listed, first⟩ := List.find?_eq_some_iff_append.mp found
    exact agrees.remove listed (of_decide_eq_true callback) (fun registration earlier => by
      simpa using first registration earlier) spares

theorem Agrees.move (agrees : Agrees s t) {move : Move Event Callback Args} (spares : Spares s move) :
    Agrees (s.move move) (t.step move) := by
  cases move with
  | on event cb => exact agrees.on spares
  | off event cb => exact agrees.off spares
  | trigger event args => exact agrees.trigger event args
  | returned => exact agrees.proceed

theorem Agrees.step {inherited : Event → Bool} (agrees : Agrees s t) {move : Move Event Callback Args}
    (harmless : Harmless inherited s move) : Agrees (s.step inherited move) (t.step move) := by
  unfold Evented.step
  rw [harmless.1]
  exact agrees.move harmless.2

theorem agrees_run {inherited : Event → Bool} (agrees : Agrees s t) {moves : List (Move Event Callback Args)}
    (harmless : Permitted (Evented.step inherited) (Harmless inherited) s moves) :
    Agrees (run (Evented.step inherited) s moves) (run Registry.step t moves) := by
  induction moves generalizing s t with
  | nil => exact agrees
  | cons move moves ih => exact ih (agrees.step harmless.1) harmless.2

end

/-- In every run whose moves do no harm, `Evented` has the registrations that it should have, and has made the calls that it
should have made. -/
theorem evented_refines {Event Callback Args : Type} [DecidableEq Event] [DecidableEq Callback] (inherited : Event → Bool)
    (moves : List (Move Event Callback Args))
    (harmless : Permitted (Evented.step inherited) (Harmless inherited) {} moves) :
    (run (Evented.step inherited) {} moves).calls = (run Registry.step {} moves).calls ∧
      ∀ event, (run (Evented.step inherited) {} moves).cbMap.callbacks event =
        ((run Registry.step {} moves).listed event).map Registration.callback := by
  have start : Agrees ({} : Evented Event Callback Args) {} :=
    ⟨fun _ => rfl, .nil, rfl, List.nodup_nil, fun _ none => absurd none List.not_mem_nil⟩
  have agrees := agrees_run start harmless
  exact ⟨agrees.calls, agrees.callbacks⟩

/-! Two listeners of one event, by their numbers. -/

/-- The first listener is called, removes the second one, and returns. -/
def tidy : List (Move String Nat Unit) :=
  [.on "state" 1, .on "state" 2, .trigger "state" (), .off "state" 2, .returned]

theorem evented_refines_tidy :
    (run (Evented.step plainObject) {} tidy).calls = (run Registry.step {} tidy).calls ∧
      ∀ event, (run (Evented.step plainObject) {} tidy).cbMap.callbacks event =
        ((run Registry.step {} tidy).listed event).map Registration.callback :=
  evented_refines plainObject tidy (by decide)

/-- Something is removed that is not registered. -/
def stray : List (Move String Nat Unit) := [.on "state" 1, .off "state" 2]

/-- The first listener is called, removes itself, and returns. -/
def once : List (Move String Nat Unit) :=
  [.on "state" 1, .on "state" 2, .trigger "state" (), .off "state" 1, .returned]

/-- The event is called like a method of all objects. -/
def namesake : List (Move String Nat Unit) := [.on "toString" 1, .trigger "toString" ()]

/-- The last listener is removed in place of one that is not there, one that moves up is not called, and one is never
registered. -/
theorem listeners_lost :
    (run (Evented.step plainObject) {} stray).cbMap.callbacks "state" = [] ∧
      ((run Registry.step {} stray).listed "state").map Registration.callback = [1] ∧
        (run (Evented.step plainObject) {} once).calls = [("state", 1, ())] ∧
          (run Registry.step {} once).calls = [("state", 1, ()), ("state", 2, ())] ∧
            (run (Evented.step plainObject) {} namesake).calls = [] ∧
              (run Registry.step {} namesake).calls = [("toString", 1, ())] := by
  decide

end DfStudy.Listeners
