import SpanFlow.Proofs.Script.Lasting
import SpanFlow.Proofs.Session.Calling

/-!
# Sessions in which nothing is loose

What a script works with is released as soon as nothing holds it. That has two reasons. A step that
lets go of something settles when it has done so. And what is taken from one place to be put into
another, as a span that is handed to a context, is held by the other place before anything else
happens.

`Neat` is what steps keep. Besides what it says of holdings it says what the argument needs: numbers
are taken upwards, so that a new guard takes the place of no other, and no name is written down
twice, so that what is taken out under a name is what was found there. `NeatWith` says that nothing
would be loose if some things were held besides, as between taking something out and putting it
elsewhere.

## Main results

* `neat_openGuard`, `neat_closeGuard`, `neat_pin`, `neat_unpin`: the changes that scopes and what is
  kept alive make.
* `Quiet.keepsNeat`: quiet steps keep sessions neat if they are mild, as those are that run no body.
-/

namespace SpanFlow

namespace Assoc

variable {κ α : Type} [DecidableEq κ] {m : Assoc κ α}

/-- What can be said of some value can be said of one still when a value is replaced by one of which
it can be said as well. -/
theorem Unhidden.exists_insert (h : Unhidden m) {k : κ} {x v : α} (hGet : get? m k = some x)
    {P : α → Prop} (hP : P x → P v) (hSome : ∃ y ∈ m, P y.2) :
    ∃ y ∈ Assoc.insert m k v, P y.2 := by
  obtain ⟨y, hy, hOf⟩ := hSome
  by_cases hKey : y.1 = k
  · have hFound := h y hy
    rw [hKey, hGet] at hFound
    obtain rfl := Option.some.inj hFound
    exact ⟨(k, v), mem_insert.2 (.inl rfl), hP hOf⟩
  · exact ⟨y, mem_insert.2 (.inr ⟨hy, hKey⟩), hOf⟩

/-- What can be said of some value can be said of the one that is taken out or of another. -/
theorem Unhidden.exists_erase (h : Unhidden m) {k : κ} {x : α} (hGet : get? m k = some x)
    {P : α → Prop} (hSome : ∃ y ∈ m, P y.2) :
    P x ∨ ∃ y ∈ Assoc.erase m k, P y.2 := by
  obtain ⟨y, hy, hOf⟩ := hSome
  by_cases hKey : y.1 = k
  · have hFound := h y hy
    rw [hKey, hGet] at hFound
    obtain rfl := Option.some.inj hFound
    exact .inl hOf
  · exact .inr ⟨y, mem_erase.2 ⟨hy, hKey⟩, hOf⟩

end Assoc

namespace Script

open Session Telemetry

variable {α : Type}

/-! ## Neat sessions -/

/-- No piece of work hides another one of the same name. -/
structure Distinct (c : Carrying Body) : Prop where
  works : Assoc.Unhidden c.works
  futures : Assoc.Unhidden c.futures
  streams : Assoc.Unhidden c.streams
  sinks : Assoc.Unhidden c.sinks

/-- A session in which nothing would be loose, if these things were held besides. -/
structure NeatWith (besides : List Holding) (w : State) : Prop where
  numbered : Numbered w
  keyed : Keyed w
  distinct : Distinct w.carrying
  spans : Assoc.Unhidden w.spans
  calm : Calm w.telemetry (besides ++ w.holdings)

/-- A session in which nothing is loose. -/
abbrev Neat (w : State) : Prop := NeatWith [] w

/-- A change leaves neat sessions neat. -/
def KeepsNeat (w w' : State) : Prop := Neat w → Neat w'

instance : IsPreorder State KeepsNeat where
  refl _ := id
  trans _ _ _ h h' := h' ∘ h

section Neat

variable {w : State}

theorem neat_of (hNumbered : Numbered w) (hKeyed : Keyed w) (hDistinct : Distinct w.carrying)
    (hSpans : Assoc.Unhidden w.spans) (hCalm : Calm w.telemetry w.holdings) : Neat w :=
  ⟨hNumbered, hKeyed, hDistinct, hSpans, by rwa [List.nil_append]⟩

theorem neatWith_of {x : Holding} (hNumbered : Numbered w) (hKeyed : Keyed w)
    (hDistinct : Distinct w.carrying) (hSpans : Assoc.Unhidden w.spans)
    (hCalm : Calm w.telemetry (x :: w.holdings)) : NeatWith [x] w :=
  ⟨hNumbered, hKeyed, hDistinct, hSpans, by rwa [List.singleton_append]⟩

theorem NeatWith.calm_holdings (h : Neat w) : Calm w.telemetry w.holdings := by
  have hCalm := h.calm
  rwa [List.nil_append] at hCalm

theorem NeatWith.calm_cons {x : Holding} (h : NeatWith [x] w) :
    Calm w.telemetry (x :: w.holdings) := by
  have hCalm := h.calm
  rwa [List.singleton_append] at hCalm

theorem NeatWith.cons (h : Neat w) (x : Holding) : NeatWith [x] w :=
  neatWith_of h.numbered h.keyed h.distinct h.spans (h.calm_holdings.cons x)

end Neat

/-- What scopes and what is kept alive do not come into leaves the numbers below the supply. -/
theorem Still.counted {w w' : State} (h : Still w w') (hw : Neat w) (hPins : w'.pins = w.pins) :
    Numbered w' ∧ Keyed w' := by
  obtain ⟨hNumbered, hSupply⟩ := h.numbered hw.numbered
  have hSlots : w'.slots = w.slots := congrArg Scoping.slots h.scoping_eq
  have hGuards : w'.guards = w.guards := congrArg Scoping.guards h.scoping_eq
  refine ⟨hNumbered, ?_, ?_, ?_⟩
  · rw [hGuards]
    exact fun g hg => Nat.lt_of_lt_of_le (hw.keyed.guards g hg) hSupply
  · rw [hPins]
    exact fun pin hPin => Nat.lt_of_lt_of_le (hw.keyed.pins pin hPin) hSupply
  · rw [hSlots]
    exact hw.keyed.slots

/-! ### Scopes and what is kept alive -/

section Changes

variable {w : State}

theorem neat_openGuard {cx : Context} (h : NeatWith [.context cx] w) (flow : Nat) :
    Neat (w.openGuard flow cx).2 :=
  neat_of (h.numbered.congr rfl) (h.keyed.openGuard flow cx) h.distinct h.spans
    (calm_openGuard h.keyed h.calm_cons)

theorem neat_pin {x : Holding} (h : NeatWith [x] w) : Neat (w.pin x).2 :=
  neat_of (h.numbered.congr rfl) (h.keyed.pin x) h.distinct h.spans (calm_pin h.keyed h.calm_cons)

/-- What is no longer kept alive is released where nothing else holds it. -/
theorem neat_unpin (h : Neat w) (id : Nat) : Neat (w.unpin id) := by
  have hKeyed : Keyed (w.unpin id) :=
    ⟨h.keyed.guards, fun pin hPin => h.keyed.pins pin (Assoc.mem_erase.1 hPin).1, h.keyed.slots⟩
  exact neat_of (h.numbered.congr rfl) hKeyed h.distinct h.spans (World.calm_settle _)

/-- A guard that is closed makes current what it kept, so nothing is held that was not. -/
theorem neat_closeGuard (h : Neat w) (flow id : Nat) : Neat (w.closeGuard flow id) := by
  rcases hGuard : Assoc.get? w.guards id with _ | g
  · rw [World.closeGuard_of_none hGuard]
    exact h
  · have hCalm : Calm (w.closeGuard flow id).telemetry (w.closeGuard flow id).holdings := by
      unfold World.closeGuard
      rw [hGuard]
      exact World.calm_settle _
    obtain ⟨t, hClosed⟩ := World.closeGuard_eq flow hGuard
    rw [hClosed] at hCalm ⊢
    refine neat_of (h.numbered.congr rfl) ⟨fun other hOther => ?_, h.keyed.pins, ?_⟩ h.distinct
      h.spans hCalm
    · obtain ⟨hInserted, hNe⟩ := Assoc.mem_erase.1 hOther
      rcases Assoc.mem_insert.1 hInserted with rfl | ⟨hOld, -⟩
      · exact absurd rfl hNe
      · exact h.keyed.guards other hOld
    · exact Slots.unhidden_close h.keyed.slots _ _

theorem neat_modifyFlow (h : Neat w) (flow : Nat) (f : Flow → Flow) : Neat (w.modifyFlow flow f) :=
  ⟨h.numbered.congr rfl, ⟨h.keyed.guards, h.keyed.pins, h.keyed.slots⟩, h.distinct, h.spans, h.calm⟩

theorem neat_beginFlow (h : Neat w) : Neat w.beginFlow.2 where
  numbered := h.numbered.congr rfl
  keyed := ⟨fun g hg => Nat.lt_succ_of_lt (h.keyed.guards g hg),
    fun pin hPin => Nat.lt_succ_of_lt (h.keyed.pins pin hPin), h.keyed.slots⟩
  distinct := h.distinct
  spans := h.spans
  calm := h.calm

theorem neat_endFlow (h : Neat w) (flow : Nat) : Neat (w.endFlow flow) :=
  neat_of (h.numbered.congr rfl) ⟨h.keyed.guards, h.keyed.pins, h.keyed.slots.erase _⟩ h.distinct
    h.spans (World.calm_settle _)

end Changes

/-! ## Steps that run no body -/

/-- What is kept alive stays so, no name of a span is written down twice, and nothing becomes loose.
-/
structure Mild (w w' : State) : Prop where
  pins_eq : w'.pins = w.pins
  spans : Assoc.Unhidden w.spans → Assoc.Unhidden w'.spans
  calm : Calm w.telemetry w.holdings → Calm w'.telemetry w'.holdings

instance : IsPreorder State Mild where
  refl _ := ⟨rfl, id, id⟩
  trans _ _ _ h h' := ⟨h'.pins_eq.trans h.pins_eq, h'.spans ∘ h.spans, h'.calm ∘ h.calm⟩

/-- What settles in the end leaves nothing loose, whatever has been let go before. -/
theorem mild_settle {w : State} (w' : State) (hPins : w'.pins = w.pins)
    (hSpans : Assoc.Unhidden w.spans → Assoc.Unhidden w'.spans) : Mild w w'.settle :=
  ⟨hPins, hSpans, fun _ => World.calm_settle w'⟩

/-- Recording that adds no span and no provider and releases none. -/
theorem mild_after {w : State} {a : Act} (hSpans : w.telemetry.newSpan? a = none)
    (hProviders : w.telemetry.newProvider? a = none) (hSpan : ∀ id, a ≠ .releaseSpan id)
    (hProvider : ∀ i, a ≠ .releaseProvider i) :
    Mild w { w with telemetry := w.telemetry.after a } :=
  ⟨rfl, id, fun h => h.after hSpans hProviders hSpan hProvider⟩

theorem Quiet.keepsNeat {w w' : State} (h : Quiet w w') (hMild : Mild w w') :
    KeepsNeat w w' := by
  intro hw
  obtain ⟨hNumbered, hKeyed⟩ := h.tame.toStill.counted hw hMild.pins_eq
  exact neat_of hNumbered hKeyed (h.carrying_eq ▸ hw.distinct) (hMild.spans hw.spans)
    (hMild.calm hw.calm_holdings)

/-- Steps that are quiet keep sessions neat if they leave nothing loose. -/
theorem Relates.keepsNeat {act : Action α} (h : Relates Quiet act) (hMild : Relates Mild act) :
    Relates KeepsNeat act := fun w => (h w).keepsNeat (hMild w)

theorem mild_freshNumber : Relates Mild freshNumber := fun _ => ⟨rfl, id, id⟩

theorem mild_storeContext (target : String) (cx : Context) :
    Relates Mild (storeContext target cx) :=
  relates_change fun w =>
    mild_settle { w with contexts := Assoc.insert w.contexts target cx } rfl id

theorem mild_passOn {act : Telemetry → Telemetry × Option String} {a : Telemetry → Act}
    (hAct : ∀ t, (act t).1 = t.after (a t)) (hSpans : ∀ t : Telemetry, t.newSpan? (a t) = none)
    (hProviders : ∀ t : Telemetry, t.newProvider? (a t) = none)
    (hSpan : ∀ t id, a t ≠ .releaseSpan id) (hProvider : ∀ t i, a t ≠ .releaseProvider i) :
    Relates Mild (passOn act) := by
  refine (relates_change fun w => ?_).bind fun failure? => ?_
  · show Mild w { w with telemetry := (act w.telemetry).1 }
    rw [hAct]
    exact mild_after (hSpans _) (hProviders _) (hSpan _) (hProvider _)
  · cases failure? with
    | none => exact (readsOnly_pure _).relates
    | some message => exact (readsOnly_throw _).relates

/-! ### Contexts and spans -/

theorem mild_makeKey (target name : String) : Relates Mild (makeKey target name) :=
  mild_freshNumber.bind fun _ => relates_change fun _ => ⟨rfl, id, id⟩

theorem mild_copyKey (target key : String) : Relates Mild (copyKey target key) :=
  (readsOnly_named _ key).relates.bind fun _ => relates_change fun _ => ⟨rfl, id, id⟩

theorem mild_share (target value : String) : Relates Mild (share target value) :=
  mild_freshNumber.bind fun _ => relates_change fun _ => ⟨rfl, id, id⟩

theorem mild_bind (flow : Nat) (target : String) (cx? : Option String) (key value : String) :
    Relates Mild (bind flow target cx? key value) :=
  (readsOnly_contextOr flow cx?).relates.bind fun _ => (readsOnly_named _ key).relates.bind fun _ =>
    mild_freshNumber.bind fun _ => mild_storeContext target _

theorem mild_bindShared (target cx key shared : String) :
    Relates Mild (bindShared target cx key shared) :=
  (readsOnly_named _ cx).relates.bind fun _ => (readsOnly_named _ key).relates.bind fun _ =>
    (readsOnly_named _ shared).relates.bind fun _ =>
      mild_freshNumber.bind fun _ => mild_storeContext target _

theorem mild_makeRemote (target cx : String) (sc : SpanContext) :
    Relates Mild (makeRemote target cx sc) :=
  (readsOnly_named _ cx).relates.bind fun _ =>
    mild_freshNumber.bind fun _ => mild_storeContext target _

theorem mild_addSpan (target : String) (s : Span) (w : State) : Mild w (addSpan target s w) :=
  mild_settle { w with
    telemetry := (w.telemetry.addSpan s).1
    spans := Assoc.insert w.spans target (w.telemetry.addSpan s).2 } rfl fun h => h.insert _ _

theorem mild_makeJournaled (target : String) (sc : SpanContext) :
    Relates Mild (makeJournaled target sc) := by
  refine relates_change fun w => ?_
  have hAdded : Mild w { w with
      telemetry := w.telemetry.addJournal.1
      journals := Assoc.insert w.journals target w.telemetry.addJournal.2 } :=
    ⟨rfl, id, fun h => h.congr rfl rfl⟩
  exact trans_of Mild hAdded (mild_addSpan target _ _)

theorem mild_boxSpan (name : String) : Relates Mild (boxSpan name) :=
  (readsOnly_named _ name).relates.bind fun _ => relates_change fun _ => ⟨rfl, id, id⟩

theorem mild_readJournal (name : String) : Relates Mild (readJournal name) :=
  (readsOnly_named _ name).relates.bind fun _ =>
    relates_change fun _ => ⟨rfl, id, fun h => h.congr rfl rfl⟩

/-- The span is let go and held again before the step settles. -/
theorem mild_withSpan (flow : Nat) (target : String) (cx? : Option String) (span : String) :
    Relates Mild (withSpan flow target cx? span) := by
  refine (readsOnly_contextOr flow cx?).relates.bind fun cx w => ?_
  unfold takeSpan
  rw [bind_assoc]
  refine leads_named fun id _ => ?_
  let handed : State := { w with
    supply := w.supply + 1
    spans := Assoc.erase w.spans span
    contexts := Assoc.insert w.contexts target (cx.withSpan w.supply (w.telemetry.activeSpan id)) }
  exact mild_settle handed rfl fun h => h.erase span

theorem mild_callActive (active : ActiveSpan) (call : Timestamp → SpanCall) :
    Relates Mild (passOn fun t => t.callActive active (call t.now)) :=
  mild_passOn (a := fun t => .callActive active (call t.now)) (fun _ => rfl) (fun _ => rfl)
    (fun _ => rfl) (fun _ _ hSame => nomatch hSame) fun _ _ hSame => nomatch hSame

theorem mild_callOn (flow : Nat) (on : Target) (call : Timestamp → SpanCall) :
    Relates Mild (callOn flow on call) := by
  have hAfter : Relates Mild (do return .recording (← isRecording flow on) : Action Result) :=
    ((readsOnly_isRecording flow on).bind fun _ => readsOnly_pure _).relates
  have hNamed : ∀ id, Relates Mild (passOn fun t => t.call id (call t.now)) := fun id =>
    mild_passOn (a := fun t => .call id (call t.now)) (fun _ => rfl) (fun _ => rfl) (fun _ => rfl)
      (fun _ _ hSame => nomatch hSame) fun _ _ hSame => nomatch hSame
  cases on with
  | named name =>
    exact (readsOnly_named _ name).relates.bind fun _ => (hNamed _).bind fun _ => hAfter
  | carried cx =>
    exact (readsOnly_carriedBy flow _).relates.bind fun _ =>
      (mild_callActive _ call).bind fun _ => hAfter
  | active =>
    exact (readsOnly_carriedBy flow none).relates.bind fun _ =>
      (mild_callActive _ call).bind fun _ => hAfter

theorem mild_elapse (now : Timestamp) : Relates Mild (elapse now) := relates_change fun _ =>
  mild_after (a := .elapse now) rfl rfl (fun _ hSame => nomatch hSame) fun _ hSame => nomatch hSame

/-! ### Carriers, exporters and providers -/

theorem mild_setCarrier (name key value : String) : Relates Mild (setCarrier name key value) :=
  (readsOnly_named _ name).relates.bind fun _ => relates_change fun _ => ⟨rfl, id, id⟩

theorem mild_inject (flow : Nat) (propagator? : Option String) (carrier : String)
    (cx? : Option String) : Relates Mild (inject flow propagator? carrier cx?) :=
  (readsOnly_propagatorOr propagator?).relates.bind fun _ =>
    (readsOnly_named _ carrier).relates.bind fun _ =>
      (readsOnly_contextOr flow cx?).relates.bind fun _ => relates_change fun _ => ⟨rfl, id, id⟩

theorem mild_makeExporter (target : String) (kind : Exporter.Kind) :
    Relates Mild (makeExporter target kind) :=
  relates_change fun _ => ⟨rfl, id, fun h => h.congr rfl rfl⟩

theorem mild_clearExporter (name : String) : Relates Mild (clearExporter name) :=
  (readsOnly_exporterNamed name).relates.bind fun _ =>
    relates_change fun _ => ⟨rfl, id, fun h => h.congr rfl rfl⟩

theorem mild_handedSince (name : String) : Relates Mild (handedSince name) :=
  (readsOnly_exporterNamed name).relates.bind fun _ => relates_change fun _ => ⟨rfl, id, id⟩

theorem mild_addProvider (target : String) (plan : ProviderPlan) :
    Relates Mild (addProvider target plan) :=
  relates_modify fun w => mild_settle { w with
    telemetry := (w.telemetry.addPlanned plan w.environment).1
    providers := Assoc.insert w.providers target (w.telemetry.addPlanned plan w.environment).2 }
    rfl id

theorem mild_makeProvider (target : String) (parts : ProviderSteps) (described : Bool) :
    Relates Mild (makeProvider target parts described) :=
  (readsOnly_exportersNamed parts.exporters).relates.bind fun _ =>
    (readsOnly_ask _).relates.bind fun _ => (mild_addProvider target _).bind fun _ =>
      (readsOnly_pure _).relates

theorem mild_makeStandardProvider (target : String) :
    Relates Mild (makeStandardProvider target) :=
  (readsOnly_ask _).relates.bind fun _ => (mild_addProvider target _).bind fun _ =>
    (readsOnly_pure _).relates

theorem mild_copyProvider (target name : String) : Relates Mild (copyProvider target name) :=
  (readsOnly_named _ name).relates.bind fun id => relates_change fun w =>
    mild_settle { w with providers := Assoc.insert w.providers target id } rfl fun h => h

theorem mild_onProvider (name : String)
    {act : Telemetry → Nat → Telemetry × Except ExportError Unit} {a : Nat → Act}
    (hAct : ∀ t p, (act t p).1 = t.after (a p))
    (hSpans : ∀ (t : Telemetry) p, t.newSpan? (a p) = none)
    (hProviders : ∀ (t : Telemetry) p, t.newProvider? (a p) = none)
    (hSpan : ∀ p id, a p ≠ .releaseSpan id) (hProvider : ∀ p i, a p ≠ .releaseProvider i) :
    Relates Mild (onProvider name act) := by
  refine (readsOnly_named _ name).relates.bind fun id => relates_change fun w => ?_
  show Mild w { w with telemetry := (act w.telemetry id).1 }
  rw [hAct]
  exact mild_after (hSpans _ _) (hProviders _ _) (hSpan id) (hProvider id)

theorem mild_flush (name : String) : Relates Mild (onProvider name Telemetry.flush) :=
  mild_onProvider name (a := .flush) (fun _ _ => rfl) (fun _ _ => rfl) (fun _ _ => rfl)
    (fun _ _ hSame => nomatch hSame) fun _ _ hSame => nomatch hSame

theorem mild_shutdown (name : String) : Relates Mild (onProvider name Telemetry.shutdown) :=
  mild_onProvider name (a := .shutdown) (fun _ _ => rfl) (fun _ _ => rfl) (fun _ _ => rfl)
    (fun _ _ hSame => nomatch hSame) fun _ _ hSame => nomatch hSame

theorem mild_makeTracer (target provider name : String) :
    Relates Mild (makeTracer target provider name) :=
  (readsOnly_named _ provider).relates.bind fun id => relates_change fun w =>
    mild_settle { w with tracers := Assoc.insert w.tracers target ⟨name, id⟩ } rfl fun h => h

theorem mild_startSpan (flow : Nat) (target tracer name : String) (cx? : Option String) :
    Relates Mild (startSpan flow target tracer name cx?) :=
  (readsOnly_named _ tracer).relates.bind fun t =>
    (readsOnly_contextOr flow cx?).relates.bind fun cx => relates_change fun w =>
      mild_settle { w with
        telemetry := (w.telemetry.start t name cx).1
        spans := Assoc.insert w.spans target (w.telemetry.start t name cx).2 } rfl
          fun h => h.insert _ _

end Script

end SpanFlow
