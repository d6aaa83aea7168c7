import SpanFlow.Event
import SpanFlow.Recording.Limits
import SpanFlow.Status

/-!
# What a span records

The record of a span grows by calls on the span, within its limits. What comes first is kept; what
comes when a limit is reached is dropped and counted, and the count stops at the greatest 32-bit
number. A write to a key that is already there is never dropped.

## Main results

* `addEvent_eq_keepEvent`, `addLink_eq_keepLink`: the room for an event or a link is checked twice,
  and one check would do.
* `exists_setAttribute_eq`, `exists_addEvent_eq`, `exists_addLink_eq`: an addition leaves the other
  parts of a record alone.
-/

namespace SpanFlow

/-- The greatest count of dropped items. -/
def maxCount : Nat := Nat.pow 2 32 - 1

/-- A count of dropped items, stopped at the greatest one. -/
def clampCount (n : Nat) : Nat := min n maxCount

/-- What a span has recorded. -/
structure SpanRecord where
  parent : SpanId
  name : String
  start : Timestamp
  finish : Timestamp
  attributes : List Attribute
  droppedAttributes : Nat
  events : List Event
  droppedEvents : Nat
  links : List Link
  droppedLinks : Nat
  status : Status

/-- What is exported about a span: its record, its identity and the name of its tracer. -/
structure SpanData extends SpanRecord where
  context : SpanContext
  tracer : String

namespace SpanRecord

/-- The record of a span that starts at what the clock shows now. Until it ends, its end is its
start. -/
def started (parent : SpanId) (name : String) (now : Timestamp) : SpanRecord :=
  ⟨parent, name, now, now, [], 0, [], 0, [], 0, .unset⟩

/-- The first attributes up to a count, with their texts cut. -/
def limitAttributes (count : Nat) (length : Option Nat) (attributes : List Attribute) :
    List Attribute :=
  (attributes.take count).map (Attribute.limited length)

/-- Writes an attribute whose text is cut already: in the place of one with its key, or at the end
if there is room. -/
def put (limit : Nat) (a : Attribute) (r : SpanRecord) : SpanRecord :=
  match r.attributes.findIdx? fun b => b.key == a.key with
  | some i => { r with attributes := r.attributes.set i a }
  | none =>
    if r.attributes.length < limit then { r with attributes := r.attributes ++ [a] }
    else { r with droppedAttributes := clampCount (r.droppedAttributes + 1) }

/-- Writes an attribute. -/
def setAttribute (l : Limits) (a : Attribute) (r : SpanRecord) : SpanRecord :=
  r.put l.attributes (a.limited l.valueLength)

/-- Keeps an event while there are fewer than `limit`, and counts it as dropped otherwise. -/
def keepEvent (limit : Nat) (event : Event) (r : SpanRecord) : SpanRecord :=
  if r.events.length < limit then { r with events := r.events ++ [event] }
  else { r with droppedEvents := clampCount (r.droppedEvents + 1) }

/-- Keeps a link while there are fewer than `limit`, and counts it as dropped otherwise. -/
def keepLink (limit : Nat) (link : Link) (r : SpanRecord) : SpanRecord :=
  if r.links.length < limit then { r with links := r.links ++ [link] }
  else { r with droppedLinks := clampCount (r.droppedLinks + 1) }

/-- Adds an event, if there is room. The attributes of one that has no room are not looked at. -/
def addEvent (l : Limits) (name : String) (time : Timestamp) (attributes : List Attribute)
    (r : SpanRecord) : SpanRecord :=
  if r.events.length < l.events then
    -- Keeping the event checks the room once more.
    r.keepEvent l.events
      ⟨name, time, limitAttributes l.eventAttributes l.valueLength attributes,
        clampCount (attributes.length - l.eventAttributes)⟩
  else { r with droppedEvents := clampCount (r.droppedEvents + 1) }

/-- Adds a link, if there is room. The attributes of one that has no room are not looked at. -/
def addLink (l : Limits) (context : SpanContext) (attributes : List Attribute)
    (r : SpanRecord) : SpanRecord :=
  if r.links.length < l.links then
    r.keepLink l.links
      ⟨context, limitAttributes l.linkAttributes l.valueLength attributes,
        clampCount (attributes.length - l.linkAttributes)⟩
  else { r with droppedLinks := clampCount (r.droppedLinks + 1) }

/-- Sets a greater status. -/
def setStatus (s : Status) (r : SpanRecord) : SpanRecord := { r with status := r.status.join s }

/-- Gives the span another name. -/
def rename (name : String) (r : SpanRecord) : SpanRecord := { r with name := name }

/-- The record as it is exported. -/
def exported (r : SpanRecord) (context : SpanContext) (tracer : String) : SpanData :=
  { r with context := context, tracer := tracer }

/-- The first of the two checks is redundant: keeping the event decides alike. -/
theorem addEvent_eq_keepEvent (l : Limits) (name : String) (time : Timestamp)
    (attributes : List Attribute) (r : SpanRecord) :
    r.addEvent l name time attributes = r.keepEvent l.events
      ⟨name, time, limitAttributes l.eventAttributes l.valueLength attributes,
        clampCount (attributes.length - l.eventAttributes)⟩ := by
  unfold addEvent
  split
  · rfl
  · rename_i hFull
    rw [keepEvent, if_neg hFull]

/-- The first of the two checks is redundant: keeping the link decides alike. -/
theorem addLink_eq_keepLink (l : Limits) (context : SpanContext) (attributes : List Attribute)
    (r : SpanRecord) :
    r.addLink l context attributes = r.keepLink l.links
      ⟨context, limitAttributes l.linkAttributes l.valueLength attributes,
        clampCount (attributes.length - l.linkAttributes)⟩ := by
  unfold addLink
  split
  · rfl
  · rename_i hFull
    rw [keepLink, if_neg hFull]

/-! ## What additions leave alone -/

/-- An attribute that is written changes nothing but the attributes and the count of those dropped.
-/
theorem exists_setAttribute_eq (l : Limits) (a : Attribute) (r : SpanRecord) :
    ∃ attributes dropped, r.setAttribute l a =
      { r with attributes := attributes, droppedAttributes := dropped } := by
  unfold setAttribute put
  split
  · exact ⟨_, _, rfl⟩
  · split <;> exact ⟨_, _, rfl⟩

/-- An event changes nothing but the events and the count of those dropped. -/
theorem exists_addEvent_eq (l : Limits) (name : String) (time : Timestamp)
    (attributes : List Attribute) (r : SpanRecord) :
    ∃ events dropped, r.addEvent l name time attributes =
      { r with events := events, droppedEvents := dropped } := by
  rw [addEvent_eq_keepEvent, keepEvent]
  split <;> exact ⟨_, _, rfl⟩

/-- A link changes nothing but the links and the count of those dropped. -/
theorem exists_addLink_eq (l : Limits) (context : SpanContext) (attributes : List Attribute)
    (r : SpanRecord) : ∃ links dropped, r.addLink l context attributes =
      { r with links := links, droppedLinks := dropped } := by
  rw [addLink_eq_keepLink, keepLink]
  split <;> exact ⟨_, _, rfl⟩

end SpanRecord

end SpanFlow
