import Mathlib.Data.List.Induction
import SpanFlow.Proofs.Session.Moves

/-!
# Flows that do not disturb each other

The current context of a slot is the business of the flows that are bound to it, one after another
or at the same time. Nothing that happens on other slots can be told there: what the moves on a slot
find, leave and give as warnings is what they would if they were the only ones.

`Scene.record` writes down for every move on a slot what it found and did. The moves of one slot can
be made anew by flows that have been bound to it from the start, and nothing else be done: `alone`.
The record of this is the part of the record of the whole run that belongs to the slot, as long as
guards are closed where they were attached.

The two runs number their guards differently. What agrees is the grips, that is for what each flow
holds a guard and what this guard puts back. `Mirrors` says that two scenes agree in this and in the
current context of a slot. A move on the slot keeps it so when it is made in both scenes, and a move
elsewhere when it is made in the first.

## Main results

* `Mirrors.move`, `Mirrors.move_elsewhere`: moves on a slot and elsewhere.
* `record_alone`: a slot sees of a run what it sees of its own moves alone.
* `current_after`: the current context is the last that was written.
* `slots_isolated`: all this for runs of a new session.
-/

namespace SpanFlow

/-- The request to which a flow is bound that has this slot, or zero. -/
def Slot.requestNumber : Slot → Nat
  | .request id => id
  | _ => 0

namespace Session

variable {β : Type}

/-! ## Records -/

/-- A move as it was made on a slot: the context that it found current, the one that it wrote, the
one that it left, and the warnings given during it. -/
structure Entry where
  flow : Nat
  move : Move
  slot : Slot
  found : Context
  written? : Option Context
  left : Context
  warnings : List Diagnostic

/-- The move of an entry, with the flow that made it. -/
def Entry.step (e : Entry) : Nat × Move := (e.flow, e.move)

/-- The moves of these entries and nothing else. The flows have been bound to the slot before. -/
def alone (slot : Slot) (entries : List Entry) : List (Nat × Move) :=
  entries.map (fun e => (e.flow, .rebind slot.requestNumber)) ++ entries.map Entry.step

namespace Scene

/-- A session in which nothing has happened. -/
def initial (byRequest : Bool) (environment : Surroundings) : Scene β :=
  ⟨.initial byRequest environment, []⟩

/-- A move on a slot, written down. -/
def entry (s : Scene β) (flow : Nat) (m : Move) (slot : Slot) : Entry where
  flow := flow
  move := m
  slot := slot
  found := s.world.slots.current slot
  written? := s.written? flow m
  left := (s.move flow m).world.slots.current slot
  warnings := s.warnings flow m

/-- The moves on slots of a run, written down. -/
def record (s : Scene β) : List (Nat × Move) → List Entry
  | [] => []
  | (flow, m) :: rest =>
    (s.slotOf? flow m).toList.map (s.entry flow m) ++ (s.move flow m).record rest

/-- Whether a move closes no guard elsewhere than where it was attached. -/
def isAtHome (s : Scene β) (flow : Nat) : Move → Bool
  | .close holder => (s.held? flow holder).all fun h => h.home = s.world.slotOf flow
  | _ => true

/-- Whether every guard of a run is closed while its flow is bound to the slot where it was
attached. -/
def closesAtHome (s : Scene β) : List (Nat × Move) → Bool
  | [] => true
  | (flow, m) :: rest => s.isAtHome flow m && (s.move flow m).closesAtHome rest

theorem after_cons (s : Scene β) (flow : Nat) (m : Move) (rest : List (Nat × Move)) :
    s.after ((flow, m) :: rest) = (s.move flow m).after rest := rfl

theorem record_append (s : Scene β) (run others : List (Nat × Move)) :
    s.record (run ++ others) = s.record run ++ (s.after run).record others := by
  induction run generalizing s with
  | nil => rfl
  | cons step rest ih =>
    obtain ⟨flow, m⟩ := step
    rw [List.cons_append, record, ih, record, List.append_assoc, after_cons]

/-! ## The last context written -/

/-- The current context of a slot is the last one that was written there. -/
theorem current_after {s : Scene β} (hs : s.Ordered) (run : List (Nat × Move)) (slot : Slot) :
    (s.after run).world.slots.current slot =
      (((s.record run).filter (·.slot = slot)).filterMap Entry.written?).getLast?.getD
        (s.world.slots.current slot) := by
  induction run using List.reverseRecOn with
  | nil => rfl
  | append_singleton run step ih =>
    obtain ⟨flow, m⟩ := step
    have hLast : s.after (run ++ [(flow, m)]) = (s.after run).move flow m := after_append ..
    rw [hLast, current_move (hs.after run), record_append, List.filter_append,
      List.filterMap_append, List.getLast?_append, ih]
    simp only [record, List.append_nil]
    cases hSlot : (s.after run).slotOf? flow m with
    | none => simp
    | some here =>
      by_cases hHere : here = slot
      · subst hHere
        cases hWritten : (s.after run).written? flow m <;> simp [entry, hWritten]
      · simp [entry, hHere]

/-! ## Grips -/

/-- What a held guard is apart from its number: who holds it for what, and what it puts back. -/
structure Grip where
  flow : Nat
  holder : Holder
  guard? : Option Guard

/-- Whether this is a guard that a flow holds for a certain thing. -/
def Grip.isOf (g : Grip) (flow : Nat) (holder : Holder) : Bool :=
  g.flow == flow && g.holder == holder

/-- The grip of a guard that is held. -/
def grip (s : Scene β) (h : Hold) : Grip := ⟨h.flow, h.holder, Assoc.get? s.world.guards h.guard⟩

/-- The grips on the guards that were attached in a slot. -/
def gripsOn (s : Scene β) (slot : Slot) : List Grip :=
  (s.holds.filter (·.home = slot)).map s.grip

theorem isOf_grip (s : Scene β) (h : Hold) (flow : Nat) (holder : Holder) :
    (s.grip h).isOf flow holder = h.isOf flow holder := rfl

/-- Guards that are still held after a move have the grips from before. -/
theorem map_grip_move {s : Scene β} (hs : s.Ordered) (flow : Nat) (m : Move) {holds : List Hold}
    (hStill : ∀ h ∈ holds, h ∈ s.holds ∧ h ∈ (s.move flow m).holds) :
    holds.map (s.move flow m).grip = holds.map s.grip := by
  refine List.map_congr_left fun h hh => ?_
  obtain ⟨hBefore, hAfter⟩ := hStill h hh
  rcases get?_guards_move hs flow m h hAfter with ⟨-, hSame⟩ | ⟨holder, cx, -, rfl, -⟩
  · rw [grip, grip, hSame]
  · exact absurd (hs.guard_lt _ hBefore) (Nat.lt_irrefl _)

section Grips

variable {s : Scene β} {slot : Slot} {flow : Nat} {holder : Holder}

/-- What is not held is not held among the guards of a slot either. -/
theorem isOf_of_mem_gripsOn (hHeld : s.held? flow holder = none) :
    ∀ g ∈ s.gripsOn slot, g.isOf flow holder = false := by
  intro g hg
  obtain ⟨h, hh, rfl⟩ := List.mem_map.1 hg
  have hNone := List.find?_eq_none.1 hHeld h (List.mem_of_mem_filter hh)
  simpa [isOf_grip] using hNone

/-- The guard of its kind that is found first among all is found first among those that were
attached where it was. -/
theorem gripsOn_split {h : Hold} (hHeld : s.held? flow holder = some h) (hHome : h.home = slot) :
    ∃ younger older, s.gripsOn slot = younger ++ s.grip h :: older ∧
      (∀ g ∈ younger, g.isOf flow holder = false) ∧
      ((s.holds.eraseP (·.isOf flow holder)).filter (·.home = slot)).map s.grip =
        younger ++ older := by
  obtain ⟨younger, older, hSplit, hYounger, hErase⟩ := holds_split hHeld
  refine ⟨(younger.filter (·.home = slot)).map s.grip, (older.filter (·.home = slot)).map s.grip,
    ?_, fun g hg => ?_, ?_⟩
  · rw [gripsOn, hSplit, List.filter_append, List.filter_cons_of_pos (by simpa using hHome),
      List.map_append, List.map_cons]
  · obtain ⟨x, hx, rfl⟩ := List.mem_map.1 hg
    exact hYounger x (List.mem_of_mem_filter hx)
  · rw [hErase, List.filter_append, List.map_append]

/-- A guard that is closed at home is found among those that were attached there. -/
theorem guard?_eq (hHome : s.isAtHome flow (.close holder) = true)
    (hSlot : s.world.slotOf flow = slot) :
    s.guard? flow holder =
      ((s.gripsOn slot).find? (·.isOf flow holder)).bind Grip.guard? := by
  rw [guard?]
  cases hHeld : s.held? flow holder with
  | none =>
    have hNone : (s.gripsOn slot).find? (·.isOf flow holder) = none :=
      List.find?_eq_none.2 fun g hg => by simp [isOf_of_mem_gripsOn hHeld g hg]
    rw [hNone]
    rfl
  | some h =>
    have hOwn : h.home = slot := by simpa [isAtHome, hHeld, hSlot] using hHome
    obtain ⟨younger, older, hSplit, hYounger, -⟩ := gripsOn_split hHeld hOwn
    have hFound : (s.gripsOn slot).find? (·.isOf flow holder) = some (s.grip h) :=
      List.find?_eq_some_iff_append.2
        ⟨isOf_of_held? hHeld, younger, older, hSplit, by simpa using hYounger⟩
    rw [hFound]
    rfl

theorem gripsOn_attach (hs : s.Ordered) (slot : Slot) (flow : Nat) (holder : Holder)
    (cx : Context) :
    (s.move flow (.attach holder cx)).gripsOn slot =
      if s.world.slotOf flow = slot
      then ⟨flow, holder, some (Guard.of (s.world.current flow) cx)⟩ :: s.gripsOn slot
      else s.gripsOn slot := by
  have hNew : (s.move flow (.attach holder cx)).grip
      ⟨flow, holder, s.world.supply, s.world.slotOf flow⟩ =
      ⟨flow, holder, some (Guard.of (s.world.current flow) cx)⟩ :=
    congrArg (Grip.mk flow holder)
      ((World.get?_guards_openGuard s.world flow cx s.world.supply).trans (if_pos rfl))
  have hOld : (s.holds.filter (·.home = slot)).map (s.move flow (.attach holder cx)).grip =
      s.gripsOn slot :=
    map_grip_move hs flow _ fun h hh =>
      ⟨List.mem_of_mem_filter hh, List.mem_cons_of_mem _ (List.mem_of_mem_filter hh)⟩
  show ((⟨flow, holder, s.world.supply, s.world.slotOf flow⟩ :: s.holds).filter
    (·.home = slot)).map _ = _
  by_cases hSlot : s.world.slotOf flow = slot
  · rw [List.filter_cons_of_pos (by simpa using hSlot), List.map_cons, hNew, hOld, if_pos hSlot]
  · rw [List.filter_cons_of_neg (by simpa using hSlot), hOld, if_neg hSlot]

/-- Closing a guard at home takes it from the guards of its slot, and none from those of others. -/
theorem gripsOn_close (hs : s.Ordered) (slot : Slot)
    (hHome : s.isAtHome flow (.close holder) = true) :
    (s.move flow (.close holder)).gripsOn slot =
      if s.world.slotOf flow = slot
      then (s.gripsOn slot).eraseP (·.isOf flow holder)
      else s.gripsOn slot := by
  cases hHeld : s.held? flow holder with
  | none =>
    have hNothing : (s.gripsOn slot).eraseP (·.isOf flow holder) = s.gripsOn slot :=
      List.eraseP_of_forall_not fun g hg => by simp [isOf_of_mem_gripsOn hHeld g hg]
    rw [move_close_none hHeld, hNothing, ite_self]
  | some h =>
    have hOwn : h.home = s.world.slotOf flow := by simpa [isAtHome, hHeld] using hHome
    have hLeft : (s.move flow (.close holder)).gripsOn slot =
        ((s.holds.eraseP (·.isOf flow holder)).filter (·.home = slot)).map s.grip := by
      have hHolds : (s.move flow (.close holder)).holds =
          s.holds.eraseP (·.isOf flow holder) := congrArg Scene.holds (move_close hHeld)
      rw [gripsOn, hHolds]
      refine map_grip_move hs flow _ fun x hx => ?_
      have hMem := List.mem_of_mem_filter hx
      exact ⟨List.mem_of_mem_eraseP hMem, hHolds ▸ hMem⟩
    rw [hLeft]
    by_cases hSlot : s.world.slotOf flow = slot
    · obtain ⟨younger, older, hSplit, hYounger, hErase⟩ :=
        gripsOn_split hHeld (hOwn.trans hSlot)
      have hTake : (s.grip h :: older).eraseP (·.isOf flow holder) = older :=
        List.eraseP_cons_of_pos (isOf_of_held? hHeld)
      rw [if_pos hSlot, hErase, hSplit, List.eraseP_append_right _ (by simpa using hYounger), hTake]
    · obtain ⟨younger, older, hSplit, -, hErase⟩ := holds_split hHeld
      rw [if_neg hSlot, hErase, gripsOn, hSplit, List.filter_append, List.filter_append,
        List.filter_cons_of_neg (by simpa [hOwn] using hSlot)]

end Grips

/-! ## Where flows are bound -/

theorem byRequest_move {s : Scene β} (hs : s.Ordered) (flow : Nat) (m : Move) :
    (s.move flow m).world.byRequest = s.world.byRequest := by
  cases m with
  | close holder =>
    cases hHeld : s.held? flow holder with
    | none => rw [move_close_none hHeld]
    | some h =>
      obtain ⟨g, hg⟩ := hs.isOpen h (mem_of_held? hHeld)
      rw [move_close hHeld, World.byRequest_closeGuard flow hg]
  | _ => rfl

/-- Only binding a flow anew changes where flows are bound. -/
theorem flows_move {s : Scene β} (hs : s.Ordered) {flow : Nat} {m : Move} {slot : Slot}
    (hSlot : s.slotOf? flow m = some slot) : (s.move flow m).world.flows = s.world.flows := by
  cases m with
  | rebind request => cases hSlot
  | close holder =>
    cases hHeld : s.held? flow holder with
    | none => rw [move_close_none hHeld]
    | some h =>
      obtain ⟨g, hg⟩ := hs.isOpen h (mem_of_held? hHeld)
      rw [move_close hHeld, World.flows_closeGuard flow hg]
  | _ => rfl

theorem requestNumber_hostSlot (w : World β) (flow : Nat) :
    (w.hostSlot flow).requestNumber = (w.flow flow).request := by
  unfold World.hostSlot
  split <;> rename_i h
  · exact h.symm
  · rfl

/-- A flow makes its moves on the same slot in two scenes if it is bound in one as in the other. -/
theorem slotOf?_eq {s a : Scene β} {flow : Nat} {m : Move} {slot : Slot}
    (hByRequest : a.world.byRequest = s.world.byRequest)
    (hBound : (a.world.flow flow).request = slot.requestNumber)
    (hSlot : s.slotOf? flow m = some slot) : a.slotOf? flow m = some slot := by
  have hHost : s.world.hostSlot flow = slot → a.world.hostSlot flow = slot := by
    rintro rfl
    rw [requestNumber_hostSlot] at hBound
    rw [World.hostSlot, hBound]
    rfl
  have hOwn : s.world.slotOf flow = slot → a.world.slotOf flow = slot := by
    unfold World.slotOf
    rw [hByRequest]
    split
    · exact hHost
    · exact id
  cases m with
  | rebind request => cases hSlot
  | hostGet => exact congrArg some (hHost (Option.some.inj hSlot))
  | hostSet cx => exact congrArg some (hHost (Option.some.inj hSlot))
  | read => exact congrArg some (hOwn (Option.some.inj hSlot))
  | attach holder cx => exact congrArg some (hOwn (Option.some.inj hSlot))
  | close holder => exact congrArg some (hOwn (Option.some.inj hSlot))

end Scene

/-! ## A scene in which one slot alone is used -/

open Scene

/-- In `a`, all guards belong to a slot, and this slot is in `a` as it is in `s`. -/
structure Mirrors (slot : Slot) (s a : Scene β) : Prop where
  byRequest_eq : a.world.byRequest = s.world.byRequest
  current_eq : a.world.slots.current slot = s.world.slots.current slot
  grips_eq : a.gripsOn slot = s.gripsOn slot
  home_eq : ∀ h ∈ a.holds, h.home = slot

namespace Mirrors

variable {slot : Slot} {s a : Scene β} {flow : Nat} {m : Move}

/-- Where all guards are at home, they are closed at home. -/
theorem isAtHome (h : Mirrors slot s a) (hSlot : a.slotOf? flow m = some slot) :
    a.isAtHome flow m = true := by
  cases m with
  | close holder =>
    have hHere : a.world.slotOf flow = slot := Option.some.inj hSlot
    cases hHeld : a.held? flow holder with
    | none => simp [Scene.isAtHome, hHeld]
    | some x => simp [Scene.isAtHome, hHeld, hHere, h.home_eq x (mem_of_held? hHeld)]
  | _ => rfl

/-- What a move on the slot finds, writes and warns of is the same in both scenes. -/
theorem told (h : Mirrors slot s a) (hs : s.Ordered) (ha : a.Ordered)
    (hHome : s.isAtHome flow m = true) (hSlot : s.slotOf? flow m = some slot)
    (hSlotA : a.slotOf? flow m = some slot) :
    a.written? flow m = s.written? flow m ∧ a.warnings flow m = s.warnings flow m := by
  have hHomeA := h.isAtHome hSlotA
  rw [warnings_eq ha, warnings_eq hs]
  cases m with
  | attach holder cx =>
    have hHere : s.world.slotOf flow = slot := Option.some.inj hSlot
    have hHereA : a.world.slotOf flow = slot := Option.some.inj hSlotA
    simp only [written?, World.current, hHere, hHereA, h.current_eq, and_self]
  | close holder =>
    have hHere : s.world.slotOf flow = slot := Option.some.inj hSlot
    have hHereA : a.world.slotOf flow = slot := Option.some.inj hSlotA
    have hGuard : a.guard? flow holder = s.guard? flow holder := by
      rw [guard?_eq hHome hHere, guard?_eq hHomeA hHereA, h.grips_eq]
    simp only [written?, World.current, hHere, hHereA, h.current_eq, hGuard, and_self]
  | _ => exact ⟨rfl, rfl⟩

/-- A move on the slot, made in both scenes. -/
theorem move (h : Mirrors slot s a) (hs : s.Ordered) (ha : a.Ordered)
    (hHome : s.isAtHome flow m = true) (hSlot : s.slotOf? flow m = some slot)
    (hSlotA : a.slotOf? flow m = some slot) :
    Mirrors slot (s.move flow m) (a.move flow m) where
  byRequest_eq := by rw [byRequest_move ha, byRequest_move hs, h.byRequest_eq]
  current_eq := by
    rw [current_move ha, current_move hs, if_pos hSlotA, if_pos hSlot,
      (h.told hs ha hHome hSlot hSlotA).1, h.current_eq]
  grips_eq := by
    cases m with
    | attach holder cx =>
      have hHere : s.world.slotOf flow = slot := Option.some.inj hSlot
      have hHereA : a.world.slotOf flow = slot := Option.some.inj hSlotA
      rw [gripsOn_attach ha, gripsOn_attach hs, if_pos hHereA, if_pos hHere, h.grips_eq,
        World.current, World.current, hHere, hHereA, h.current_eq]
    | close holder =>
      rw [gripsOn_close ha slot (h.isAtHome hSlotA), gripsOn_close hs slot hHome,
        if_pos (Option.some.inj hSlotA), if_pos (Option.some.inj hSlot), h.grips_eq]
    | _ => exact h.grips_eq
  home_eq x hx := by
    rcases get?_guards_move ha flow m x hx with ⟨hOld, -⟩ | ⟨holder, cx, rfl, rfl, -⟩
    · exact h.home_eq x hOld
    · exact Option.some.inj hSlotA

/-- A move elsewhere, made in the first scene. -/
theorem move_elsewhere (h : Mirrors slot s a) (hs : s.Ordered) (hHome : s.isAtHome flow m = true)
    (hSlot : s.slotOf? flow m ≠ some slot) : Mirrors slot (s.move flow m) a where
  byRequest_eq := by rw [byRequest_move hs, h.byRequest_eq]
  current_eq := by rw [current_move hs, if_neg hSlot, h.current_eq]
  grips_eq := by
    cases m with
    | attach holder cx =>
      have hElsewhere : s.world.slotOf flow ≠ slot := fun hHere => hSlot (congrArg some hHere)
      rw [gripsOn_attach hs, if_neg hElsewhere, h.grips_eq]
    | close holder =>
      have hElsewhere : s.world.slotOf flow ≠ slot := fun hHere => hSlot (congrArg some hHere)
      rw [gripsOn_close hs slot hHome, if_neg hElsewhere, h.grips_eq]
    | _ => exact h.grips_eq
  home_eq := h.home_eq

/-- A move on the slot is written down the same in both scenes. -/
theorem entry_eq (h : Mirrors slot s a) (hs : s.Ordered) (ha : a.Ordered)
    (hHome : s.isAtHome flow m = true) (hSlot : s.slotOf? flow m = some slot)
    (hSlotA : a.slotOf? flow m = some slot) : a.entry flow m slot = s.entry flow m slot := by
  obtain ⟨hWritten, hWarnings⟩ := h.told hs ha hHome hSlot hSlotA
  rw [entry, entry, h.current_eq, hWritten, hWarnings,
    (h.move hs ha hHome hSlot hSlotA).current_eq]

end Mirrors

/-- A slot sees of a run what it sees of its own moves alone. -/
theorem record_alone {slot : Slot} {run : List (Nat × Move)} {s a : Scene β}
    (h : Mirrors slot s a) (hs : s.Ordered) (ha : a.Ordered) (hHome : s.closesAtHome run = true)
    (hBound : ∀ e ∈ (s.record run).filter (·.slot = slot),
      (a.world.flow e.flow).request = slot.requestNumber) :
    a.record (((s.record run).filter (·.slot = slot)).map Entry.step) =
      (s.record run).filter (·.slot = slot) := by
  induction run generalizing s a with
  | nil => rfl
  | cons step rest ih =>
    obtain ⟨flow, m⟩ := step
    obtain ⟨hHere, hRest⟩ : s.isAtHome flow m = true ∧ _ := by
      simpa [closesAtHome] using hHome
    by_cases hSlot : s.slotOf? flow m = some slot
    · have hRecord : (s.record ((flow, m) :: rest)).filter (·.slot = slot) =
          s.entry flow m slot :: ((s.move flow m).record rest).filter (·.slot = slot) := by
        simp [record, hSlot, entry]
      rw [hRecord] at hBound ⊢
      have hSlotA : a.slotOf? flow m = some slot :=
        slotOf?_eq h.byRequest_eq (hBound _ List.mem_cons_self) hSlot
      have hFlows := flows_move ha hSlotA
      have hLater := ih (h.move hs ha hHere hSlot hSlotA) (hs.move flow m) (ha.move flow m) hRest
        fun e he => by
          rw [World.flow, hFlows]
          exact hBound e (List.mem_cons_of_mem _ he)
      rw [List.map_cons, Entry.step, record]
      show (a.slotOf? flow m).toList.map (a.entry flow m) ++ (a.move flow m).record _ = _
      rw [hLater, hSlotA, Option.toList_some, List.map_singleton, List.singleton_append,
        h.entry_eq hs ha hHere hSlot hSlotA]
    · have hRecord : (s.record ((flow, m) :: rest)).filter (·.slot = slot) =
          ((s.move flow m).record rest).filter (·.slot = slot) := by
        cases hOther : s.slotOf? flow m with
        | none => simp [record, hOther]
        | some other =>
          have hNe : other ≠ slot := by simpa [hOther] using hSlot
          simp [record, hOther, entry, hNe]
      rw [hRecord] at hBound ⊢
      exact ih (h.move_elsewhere hs hHere hSlot) (hs.move flow m) ha hRest hBound

/-! ## Runs of a session -/

namespace Scene

/-- Binding flows changes nothing but where they are bound. -/
theorem after_bindings (s : Scene β) (request : Nat) (flows : List Nat) :
    ∃ bound, s.after (flows.map fun flow => (flow, .rebind request)) =
        ⟨{ s.world with flows := bound }, s.holds⟩ ∧
      ∀ flow ∈ flows, ((Assoc.get? bound flow).getD .fresh).request = request := by
  induction flows using List.reverseRecOn with
  | nil => exact ⟨s.world.flows, rfl, by simp⟩
  | append_singleton flows last ih =>
    obtain ⟨bound, hAfter, hBound⟩ := ih
    let w : World β := { s.world with flows := bound }
    refine ⟨(w.modifyFlow last fun f => { f with request := request }).flows, ?_,
      fun flow hFlow => ?_⟩
    · rw [List.map_append, after_append, hAfter]
      rfl
    · show ((w.modifyFlow last _).flow flow).request = request
      rw [World.flow_modifyFlow]
      by_cases hLast : last = flow
      · rw [if_pos hLast]
      · rw [if_neg hLast]
        refine hBound flow ?_
        simpa [Ne.symm hLast] using hFlow

theorem record_bindings (s : Scene β) (request : Nat) (flows : List Nat) :
    s.record (flows.map fun flow => (flow, .rebind request)) = [] := by
  induction flows generalizing s with
  | nil => rfl
  | cons flow rest ih => exact ih _

end Scene

/-- **Slots are isolated.** In a session whose flows may make moves in any order and be bound anew
at any time, as long as guards are closed where they were attached: a move changes no other slot
than the one it is made on, and what the moves on a slot find, write, leave and warn of is what they
would if they alone were made. So what is current in a slot is the last that any flow has written
there, or the root. -/
theorem slots_isolated (byRequest : Bool) (environment : Surroundings)
    (run : List (Nat × Move))
    (hHome : (initial byRequest environment : Scene β).closesAtHome run = true) :
    let start : Scene β := initial byRequest environment
    (∀ before flow m rest, run = before ++ (flow, m) :: rest → ∀ slot,
      (start.after before).slotOf? flow m ≠ some slot →
        (start.after (before ++ [(flow, m)])).world.slots.current slot =
          (start.after before).world.slots.current slot) ∧
    (∀ slot, let own := (start.record run).filter (·.slot = slot)
      start.record (alone slot own) = own) ∧
    (∀ before rest, run = before ++ rest → ∀ slot,
      (start.after before).world.slots.current slot =
        (((start.record before).filter (·.slot = slot)).filterMap Entry.written?).getLast?.getD
          .root) := by
  intro start
  have hStart : start.Ordered := ordered_start _
  refine ⟨fun before flow m rest _ slot hSlot => ?_, fun slot => ?_, fun before rest _ slot => ?_⟩
  · rw [after_append]
    exact (current_move (hStart.after before) flow m slot).trans (if_neg hSlot)
  · intro own
    let flows := own.map Entry.flow
    have hAlone : alone slot own =
        flows.map (fun flow => (flow, .rebind slot.requestNumber)) ++ own.map Entry.step := by
      rw [alone, List.map_map]
      rfl
    obtain ⟨bound, hAfter, hBound⟩ := after_bindings start slot.requestNumber flows
    have hMirrors : Mirrors slot start ⟨{ start.world with flows := bound }, start.holds⟩ :=
      ⟨rfl, rfl, rfl, fun h hh => absurd hh List.not_mem_nil⟩
    rw [hAlone, record_append, record_bindings, List.nil_append, hAfter]
    exact record_alone hMirrors hStart (ordered_start _) hHome fun e he =>
      hBound e.flow (List.mem_map_of_mem he)
  · exact current_after hStart before slot

/-- A request is handed over while a guard is open, used by another flow, and handed back. -/
def handOver (cx other : Context) : List (Nat × Move) :=
  [(1, .rebind 5), (1, .attach (.scope "a") cx), (1, .rebind 0), (2, .rebind 5), (2, .read),
    (2, .attach .call other), (1, .hostSet other), (2, .close .call), (2, .rebind 0),
    (1, .rebind 5), (1, .close (.scope "a"))]

/-- What the flows see of the request, and that it is all there when nothing else is done. -/
theorem slots_isolated_handed_over :
    let cx := Context.root.withValue 7 1 (.text "x")
    let other := Context.root.withValue 8 1 (.text "y")
    let start : Scene Unit := initial true .plain
    let own := (start.record (handOver cx other)).filter (·.slot = .request 5)
    start.closesAtHome (handOver cx other) = true ∧
      own.map Entry.found = [.root, cx, cx, other, cx] ∧
      start.record (alone (.request 5) own) = own ∧
      (start.after (handOver cx other)).world.slots.current (.request 5) = .root :=
  ⟨rfl, rfl, (slots_isolated true .plain (handOver _ _) rfl).2.1 (.request 5), rfl⟩

end Session

end SpanFlow
