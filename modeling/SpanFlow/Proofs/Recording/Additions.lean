import SpanFlow.Proofs.Recording.Attributes

/-!
# The events and links of a span

Events and links are added one at a time, an error as an event that tells it. A span holds the first
of each as far as its limits for them go, and counts the others. Of the attributes of an event or a
link the first are kept, here without regard to their keys, and what was left out is counted there.

Both lists are of one kind: items that are kept in some form up to a limit. Each is told from what
was given to it, so that nothing else that is called on the span makes a difference to it, and
neither of the two makes one to the other.

## Main results

* `Capped.concat`: what giving one more item does to such a list.
* `HoldsAdditions.apply`, `HoldsAdditions.applyAll`: one call, and all calls on a span.
* `additions_kept`: the events and links of a span that was started and has not ended.
-/

namespace SpanFlow

/-! ## Capped lists -/

/-- What is held of given items where only the first are kept, each in some form, and the others are
counted. -/
structure Capped {α : Type} (limit : Nat) (keep : α → α) (given held : List α)
    (dropped : Nat) : Prop where
  items : held = (given.take limit).map keep
  count : dropped = min (2 ^ 32 - 1) (given.length - limit)

namespace Capped

variable {α : Type} {limit : Nat} {keep : α → α} {given held : List α} {dropped : Nat}

theorem nil : Capped limit keep [] [] 0 where
  items := by rw [List.take_nil, List.map_nil]
  count := by rw [List.length_nil, Nat.zero_sub, Nat.min_zero]

section Concat

variable (h : Capped limit keep given held dropped)
include h

theorem length_eq : held.length = min limit given.length := by
  rw [h.items, List.length_map, List.length_take]

/-- One more item is kept if there is room, and else it is counted. -/
theorem concat (a : α) : Capped limit keep (given ++ [a])
    (if held.length < limit then held ++ [keep a] else held)
    (if held.length < limit then dropped else clampCount (dropped + 1)) := by
  have hLength := h.length_eq
  by_cases hRoom : held.length < limit
  · rw [if_pos hRoom, if_pos hRoom]
    constructor
    case items =>
      have hAll : given.take limit = given := List.take_of_length_le (by omega)
      have hMore : (given ++ [a]).take limit = given ++ [a] :=
        List.take_of_length_le (by rw [List.length_append, List.length_singleton]; omega)
      rw [hMore, List.map_append, h.items, hAll]
      rfl
    case count =>
      rw [h.count, List.length_append, List.length_singleton]
      congr 1
      omega
  · rw [if_neg hRoom, if_neg hRoom]
    have hFull : limit ≤ given.length := by omega
    constructor
    case items => rw [List.take_append_of_le_length hFull, h.items]
    case count =>
      have hMore : (given ++ [a]).length - limit = given.length - limit + 1 := by
        rw [List.length_append, List.length_singleton]
        omega
      rw [hMore, h.count, ← clampCount_eq, ← clampCount_eq, clampCount_succ]

/-- What is held, and how much is counted, is told from what was given. -/
theorem unique {held' : List α} {dropped' : Nat} (h' : Capped limit keep given held' dropped') :
    held' = held ∧ dropped' = dropped :=
  ⟨h'.items.trans h.items.symm, h'.count.trans h.count.symm⟩

end Concat

end Capped

/-! ## Events and links as they are kept -/

/-- An event of whose attributes the first are kept, with their texts cut. -/
def Event.kept (count : Nat) (length : Option Nat) (e : Event) : Event :=
  { e with
    attributes := (e.attributes.take count).map (Attribute.cut length)
    dropped := min (2 ^ 32 - 1) (e.attributes.length - count) }

/-- A link of whose attributes the first are kept, with their texts cut. -/
def Link.kept (count : Nat) (length : Option Nat) (k : Link) : Link :=
  { k with
    attributes := (k.attributes.take count).map (Attribute.cut length)
    dropped := min (2 ^ 32 - 1) (k.attributes.length - count) }

/-- The event that a call gives to a span. -/
def SpanCall.event? : SpanCall → Option Event
  | addEvent name time attributes => some ⟨name, time, attributes, 0⟩
  | recordError message time =>
    some ⟨"exception", time, [⟨"exception.message", .text message⟩], 0⟩
  | _ => none

/-- The link that a call gives to a span. -/
def SpanCall.link? : SpanCall → Option Link
  | addLink context attributes => some ⟨context, attributes, 0⟩
  | _ => none

namespace SpanRecord

theorem limitAttributes_eq_cut (count : Nat) (length : Option Nat) (attributes : List Attribute) :
    limitAttributes count length attributes =
      (attributes.take count).map (Attribute.cut length) := by
  rw [limitAttributes, funext (Attribute.limited_eq_cut length)]

theorem addEvent_eq (l : Limits) (name : String) (time : Timestamp) (attributes : List Attribute)
    (r : SpanRecord) :
    r.addEvent l name time attributes =
      { r with
        events := if r.events.length < l.events then
          r.events ++ [Event.kept l.eventAttributes l.valueLength ⟨name, time, attributes, 0⟩]
          else r.events
        droppedEvents := if r.events.length < l.events then r.droppedEvents
          else clampCount (r.droppedEvents + 1) } := by
  rw [addEvent_eq_keepEvent, keepEvent, Event.kept, limitAttributes_eq_cut, clampCount_eq]
  split <;> rfl

theorem addLink_eq (l : Limits) (context : SpanContext) (attributes : List Attribute)
    (r : SpanRecord) :
    r.addLink l context attributes =
      { r with
        links := if r.links.length < l.links then
          r.links ++ [Link.kept l.linkAttributes l.valueLength ⟨context, attributes, 0⟩]
          else r.links
        droppedLinks := if r.links.length < l.links then r.droppedLinks
          else clampCount (r.droppedLinks + 1) } := by
  rw [addLink_eq_keepLink, keepLink, Link.kept, limitAttributes_eq_cut, clampCount_eq]
  split <;> rfl

/-! ## What a record holds of the additions -/

/-- A record that holds what these events and links come to within its limits. -/
structure HoldsAdditions (l : Limits) (events : List Event) (links : List Link)
    (r : SpanRecord) : Prop where
  events : Capped l.events (Event.kept l.eventAttributes l.valueLength) events
    r.events r.droppedEvents
  links : Capped l.links (Link.kept l.linkAttributes l.valueLength) links r.links r.droppedLinks

/-- The two lists with their counts are the same in these records. -/
structure SameAdditions (r r' : SpanRecord) : Prop where
  events : r'.events = r.events
  droppedEvents : r'.droppedEvents = r.droppedEvents
  links : r'.links = r.links
  droppedLinks : r'.droppedLinks = r.droppedLinks

theorem sameAdditions_setAttribute (l : Limits) (a : Attribute) (r : SpanRecord) :
    r.SameAdditions (r.setAttribute l a) := by
  obtain ⟨_, _, hEq⟩ := exists_setAttribute_eq l a r
  rw [hEq]
  exact ⟨rfl, rfl, rfl, rfl⟩

namespace HoldsAdditions

variable {l : Limits} {events : List Event} {links : List Link} {r : SpanRecord}

theorem started (l : Limits) (parent : SpanId) (name : String) (now : Timestamp) :
    HoldsAdditions l [] [] (SpanRecord.started parent name now) :=
  ⟨.nil, .nil⟩

theorem congr {r' : SpanRecord} (h : r.HoldsAdditions l events links) (hSame : r.SameAdditions r') :
    r'.HoldsAdditions l events links where
  events := by rw [hSame.events, hSame.droppedEvents]; exact h.events
  links := by rw [hSame.links, hSame.droppedLinks]; exact h.links

section Step

variable (h : r.HoldsAdditions l events links)
include h

theorem setAttributes (attributes : List Attribute) :
    (r.apply l (.setAttributes attributes)).HoldsAdditions l events links := by
  induction attributes generalizing r with
  | nil => exact h
  | cons a rest ih => exact ih (h.congr (sameAdditions_setAttribute l a r))

theorem addEvent (name : String) (time : Timestamp) (attributes : List Attribute) :
    (r.addEvent l name time attributes).HoldsAdditions l
      (events ++ [⟨name, time, attributes, 0⟩]) links := by
  rw [addEvent_eq]
  exact ⟨h.events.concat _, h.links⟩

theorem addLink (context : SpanContext) (attributes : List Attribute) :
    (r.addLink l context attributes).HoldsAdditions l events
      (links ++ [⟨context, attributes, 0⟩]) := by
  rw [addLink_eq]
  exact ⟨h.events, h.links.concat _⟩

/-- A call gives a span at most one event or one link, and leaves the list that it gives nothing to
as it is. -/
theorem apply (c : SpanCall) :
    (r.apply l c).HoldsAdditions l (events ++ c.event?.toList) (links ++ c.link?.toList) := by
  cases c with
  | addEvent name time attributes =>
    have hGiven := h.addEvent name time attributes
    rwa [← List.append_nil links] at hGiven
  | recordError message time =>
    have hGiven := h.addEvent (errorEvent message).1 time (errorEvent message).2
    rwa [← List.append_nil links] at hGiven
  | addLink context attributes =>
    have hGiven := h.addLink context attributes
    rwa [← List.append_nil events] at hGiven
  | setAttributes attributes =>
    have hSame := h.setAttributes attributes
    rwa [← List.append_nil events, ← List.append_nil links] at hSame
  | setStatus status | rename name | finish time =>
    have hSame := h
    rw [← List.append_nil events, ← List.append_nil links] at hSame
    exact hSame.congr ⟨rfl, rfl, rfl, rfl⟩

/-- Calls add their events and links to what was added before, each list up to its own limit. -/
theorem applyAll (calls : List SpanCall) :
    (r.applyAll l calls).HoldsAdditions l (events ++ calls.filterMap SpanCall.event?)
      (links ++ calls.filterMap SpanCall.link?) := by
  induction calls generalizing r events links with
  | nil =>
    rw [List.filterMap_nil, List.filterMap_nil, List.append_nil, List.append_nil]
    exact h
  | cons c rest ih =>
    have hGiven := ih (h.apply c)
    rw [List.append_assoc, List.append_assoc] at hGiven
    rw [filterMap_cons_toList, filterMap_cons_toList]
    exact hGiven

end Step

end HoldsAdditions

end SpanRecord

namespace Telemetry

/-- The events that acts give to a span, in order. -/
def eventsGiven (id : Nat) (acts : List Act) : List Event :=
  (callsOn id acts).filterMap SpanCall.event?

/-- The links that acts give to a span, in order. -/
def linksGiven (id : Nat) (acts : List Act) : List Link :=
  (callsOn id acts).filterMap SpanCall.link?

/-- The two lists of a span that was started and has not ended, as far as they depend on acts. -/
theorem holdsAdditions_afterAll {t : Telemetry} {tracer : Tracer} {name : String} {cx : Context}
    {p : Provider} (h : StartsRecording t tracer name cx p) {acts : List Act}
    (hLasts : Outlives (t.start tracer name cx).2 acts) :
    ∃ data, ((t.start tracer name cx).1.afterAll acts).dataOf? (t.start tracer name cx).2 =
        some data ∧
      data.toSpanRecord.HoldsAdditions (limitsAtStart p)
        (eventsGiven (t.start tracer name cx).2 acts)
        (linksGiven (t.start tracer name cx).2 acts) := by
  obtain ⟨data, hData, hRecord⟩ := data_afterAll h hLasts
  refine ⟨data, hData, ?_⟩
  have hStarted := SpanRecord.HoldsAdditions.started (limitsAtStart p) (beginning p name cx).parent
    name t.now
  -- The sampler's call, which is the first, writes attributes and gives the two lists nothing.
  have hGiven := hStarted.applyAll (.setAttributes (beginning p name cx).result.attributes ::
    callsOn (t.start tracer name cx).2 acts)
  rw [hRecord]
  exact hGiven

/-- **First events, first links.** A span that was started and has not ended holds the first events
and the first links that it was given, under the limits that it was started with, and has counted
the others. What else was called on it makes no difference to either list, nor do the additions to
the other one. -/
theorem additions_kept {t : Telemetry} {tracer : Tracer} {name : String} {cx : Context}
    {p : Provider} (h : StartsRecording t tracer name cx p) {acts : List Act}
    (hLasts : Outlives (t.start tracer name cx).2 acts) :
    let id := (t.start tracer name cx).2
    let dataAfter (acts : List Act) := ((t.start tracer name cx).1.afterAll acts).dataOf? id
    ∃ data, dataAfter acts = some data ∧
      data.toSpanRecord.HoldsAdditions (limitsAtStart p) (eventsGiven id acts)
        (linksGiven id acts) ∧
      ∀ others, Outlives id others → ∃ data', dataAfter others = some data' ∧
        (eventsGiven id others = eventsGiven id acts →
          data'.events = data.events ∧ data'.droppedEvents = data.droppedEvents) ∧
        (linksGiven id others = linksGiven id acts →
          data'.links = data.links ∧ data'.droppedLinks = data.droppedLinks) := by
  intro id dataAfter
  obtain ⟨data, hData, hHolds⟩ := holdsAdditions_afterAll h hLasts
  refine ⟨data, hData, hHolds, fun others hOthers => ?_⟩
  obtain ⟨data', hData', hHolds'⟩ := holdsAdditions_afterAll h hOthers
  refine ⟨data', hData', fun hEvents => ?_, fun hLinks => ?_⟩
  · have hSame := hHolds'.events
    rw [hEvents] at hSame
    exact hHolds.events.unique hSame
  · have hSame := hHolds'.links
    rw [hLinks] at hSame
    exact hHolds.links.unique hSame

/-- With room for two events and one link, a third event and a second link are counted, and so is
the third attribute of an event; a key that is given twice stays twice. -/
theorem additions_kept_full :
    let l : Limits := ⟨1, 2, 1, 2, 0, some 3⟩
    let p : Provider := ⟨[], .alwaysOn, .counting 1 1, .inTurn [l, .standard], false, false⟩
    let t : Telemetry := ⟨[], [p], [], [], [], ⟨3⟩⟩
    let tracer : Tracer := ⟨"tracer", 0⟩
    let acts : List Act :=
      [.call 0 (.addEvent "read" ⟨5⟩
          [⟨"k", .text "abcdef"⟩, ⟨"k", .texts ["wxyz"]⟩, ⟨"j", .int 1⟩]),
        .start tracer "later" .root, .callActive ⟨.none, some 0⟩ (.recordError "broken" ⟨7⟩),
        .call 0 (.addLink .none [⟨"k", .int 2⟩]), .call 0 (.rename "renamed"),
        .callActive ⟨.none, some 0⟩ (.addLink .none []), .call 0 (.addEvent "late" ⟨8⟩ [])]
    ∃ data, ((t.start tracer "span" .root).1.afterAll acts).dataOf? 0 = some data ∧
      data.events =
        [⟨"read", ⟨5⟩, [⟨"k", .text "abc"⟩, ⟨"k", .texts ["wxy"]⟩], 1⟩,
          ⟨"exception", ⟨7⟩, [⟨"exception.message", .text "bro"⟩], 0⟩] ∧
      data.droppedEvents = 1 ∧ data.links = [⟨.none, [], 1⟩] ∧ data.droppedLinks = 1 := by
  intro l p t tracer acts
  have hStarts : StartsRecording t tracer "span" .root p := ⟨rfl, rfl, nofun⟩
  obtain ⟨data, hData, hHolds, -⟩ := additions_kept hStarts (show Outlives 0 acts by decide)
  exact ⟨data, hData, hHolds.events.items.trans rfl, hHolds.events.count.trans rfl,
    hHolds.links.items.trans rfl, hHolds.links.count.trans rfl⟩

end Telemetry

end SpanFlow
