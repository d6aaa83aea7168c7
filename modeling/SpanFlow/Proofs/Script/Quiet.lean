import SpanFlow.Proofs.Script.Backing
import SpanFlow.Proofs.Session.Intact
import SpanFlow.Proofs.Session.Pieces

/-!
# What actions change

`Relates R` says of an action that it leads from every session to one that is related to it by `R`,
whether it has a result or halts. If `R` is reflexive and transitive, this can be put together from
the parts of the action.

Most steps of scripts are quiet: they change neither the scopes of a session, nor its work, nor its
propagators, and take numbers from the supply only upwards. They are gone through here once.

## Main results

* `Leads.bind`, `Relates.bind`: one action after another.
* `relates_change`, `ReadsOnly.relates`: an action that changes the session by a function, or not.
* `Reads.leads`: an action that goes on with what was read.
* `Quiet`: what steps that have to do with spans, carriers and providers have in common.
-/

namespace SpanFlow.Script

open Session

variable {α γ : Type}

/-- Where an action leads from one session is related to it. -/
def Leads (R : State → State → Prop) (act : Action α) (w : State) : Prop := R w (act w).2

/-- An action leads from every session to one related to it. -/
def Relates (R : State → State → Prop) (act : Action α) : Prop := ∀ w, Leads R act w

section Rules

variable {R : State → State → Prop} [IsPreorder State R] {w : State} {act : Action α}
  {next : α → Action γ}

/-- One action after another, where the second starts in the session that the first has left. -/
theorem Leads.bind (h : Leads R act w)
    (hNext : ∀ a w', act w = (.ok a, w') → Leads R (next a) w') : Leads R (act >>= next) w := by
  unfold Leads at h ⊢
  rw [bind_apply]
  rcases hRan : act w with ⟨halt | a, w'⟩ <;> rw [hRan] at h
  · exact h
  · exact trans_of R h (hNext a w' hRan)

theorem Relates.bind (h : Relates R act) (hNext : ∀ a, Relates R (next a)) :
    Relates R (act >>= next) := fun w => (h w).bind fun a w' _ => hNext a w'

theorem Relates.map (h : Relates R act) (f : α → γ) : Relates R (f <$> act) := by
  rw [map_eq_pure_bind]
  exact h.bind fun _ w => refl_of R w

/-- An action that only reads leaves the session as it is. -/
theorem ReadsOnly.relates (h : ReadsOnly act) : Relates R act := by
  intro w
  unfold Leads
  rw [h w]
  exact refl_of R w

/-- What follows an action that changes nothing starts where that one did. -/
theorem ReadsOnly.leads (h : ReadsOnly act)
    (hNext : ∀ a, act w = (.ok a, w) → Leads R (next a) w) : Leads R (act >>= next) w := by
  refine (h.relates w).bind fun a w' hRan => ?_
  have hSame := h w
  rw [hRan] at hSame
  cases hSame
  exact hNext a hRan

/-- What follows starts where the reading did, with what was read. -/
theorem Reads.leads {Q : α → Prop} (h : Reads Q act w)
    (hNext : ∀ a, Q a → Leads R (next a) w) : Leads R (act >>= next) w := by
  obtain ⟨hSame, hResult⟩ := h
  unfold Leads
  rw [bind_apply]
  rcases hRan : act w with ⟨halt | a, w'⟩ <;> rw [hRan] at hSame hResult <;> cases hSame
  · exact refl_of R _
  · exact hNext a (hResult a rfl)

/-- What is read by name is there. -/
theorem leads_named {m : State → Assoc String α} {name : String}
    (hNext : ∀ x, Assoc.get? (m w) name = some x → Leads R (next x) w) :
    Leads R (named m name >>= next) w := by
  refine (readsOnly_named m name).leads fun x hRan => hNext x ?_
  rw [named_apply] at hRan
  split at hRan
  · rename_i other hGet
    cases hRan
    exact hGet
  · cases hRan

end Rules

section Changes

variable {R : State → State → Prop}

theorem relates_change {f : State → α × State} (h : ∀ w, R w (f w).2) : Relates R (change f) := h

theorem relates_modify {f : State → State} (h : ∀ w, R w (f w)) :
    Relates R (modify f : Action Unit) := h

theorem Relates.mono {R' : State → State → Prop} {act : Action α} (h : Relates R act)
    (hLe : ∀ w w', R w w' → R' w w') : Relates R' act := fun w => hLe w _ (h w)

end Changes

/-! ## Quiet steps -/

/-- The propagators of a session. -/
def propagation (w : State) : Propagator × Assoc String Propagator := (w.global, w.propagators)

/-- Scopes, work and propagators stay as they are. -/
structure Quiet (w w' : State) : Prop where
  supply_le : w.supply ≤ w'.supply
  scoping_eq : w'.scoping = w.scoping
  carrying_eq : w'.carrying = w.carrying
  propagation_eq : propagation w' = propagation w

instance : IsPreorder State Quiet where
  refl _ := ⟨Nat.le_refl _, rfl, rfl, rfl⟩
  trans _ _ _ h h' := ⟨Nat.le_trans h.supply_le h'.supply_le, h'.scoping_eq.trans h.scoping_eq,
    h'.carrying_eq.trans h.carrying_eq, h'.propagation_eq.trans h.propagation_eq⟩

theorem quiet_takeLog (w : State) : Quiet w w.takeLog.2 := ⟨Nat.le_refl _, rfl, rfl, rfl⟩

theorem relates_freshNumber : Relates Quiet freshNumber := fun _ => ⟨Nat.le_succ _, rfl, rfl, rfl⟩

theorem relates_storeContext (target : String) (cx : Context) :
    Relates Quiet (storeContext target cx) := fun _ => ⟨Nat.le_refl _, rfl, rfl, rfl⟩

/-! ### Contexts -/

theorem relates_makeKey (target name : String) : Relates Quiet (makeKey target name) :=
  relates_freshNumber.bind fun _ => relates_change fun _ => ⟨Nat.le_refl _, rfl, rfl, rfl⟩

theorem relates_copyKey (target key : String) : Relates Quiet (copyKey target key) :=
  (readsOnly_named _ key).relates.bind fun _ =>
    relates_change fun _ => ⟨Nat.le_refl _, rfl, rfl, rfl⟩

theorem relates_share (target value : String) : Relates Quiet (share target value) :=
  relates_freshNumber.bind fun _ => relates_change fun _ => ⟨Nat.le_refl _, rfl, rfl, rfl⟩

theorem relates_bind (flow : Nat) (target : String) (cx? : Option String) (key value : String) :
    Relates Quiet (bind flow target cx? key value) :=
  (readsOnly_contextOr flow cx?).relates.bind fun _ =>
    (readsOnly_named _ key).relates.bind fun _ =>
      relates_freshNumber.bind fun _ => relates_storeContext target _

theorem relates_bindShared (target cx key shared : String) :
    Relates Quiet (bindShared target cx key shared) :=
  (readsOnly_named _ cx).relates.bind fun _ => (readsOnly_named _ key).relates.bind fun _ =>
    (readsOnly_named _ shared).relates.bind fun _ =>
      relates_freshNumber.bind fun _ => relates_storeContext target _

/-! ### Spans -/

theorem quiet_addSpan (target : String) (s : Span) (w : State) : Quiet w (addSpan target s w) :=
  ⟨Nat.le_refl _, rfl, rfl, rfl⟩

theorem relates_makeInert (target : String) (sc : SpanContext) :
    Relates Quiet (makeInert target sc) := fun w => quiet_addSpan target _ w

theorem relates_makeJournaled (target : String) (sc : SpanContext) :
    Relates Quiet (makeJournaled target sc) := fun _ => ⟨Nat.le_refl _, rfl, rfl, rfl⟩

theorem relates_boxSpan (name : String) : Relates Quiet (boxSpan name) :=
  (readsOnly_named _ name).relates.bind fun _ =>
    relates_change fun _ => ⟨Nat.le_refl _, rfl, rfl, rfl⟩

theorem relates_readJournal (name : String) : Relates Quiet (readJournal name) :=
  (readsOnly_named _ name).relates.bind fun _ =>
    relates_change fun _ => ⟨Nat.le_refl _, rfl, rfl, rfl⟩

theorem relates_takeSpan (name : String) : Relates Quiet (takeSpan name) :=
  (readsOnly_named _ name).relates.bind fun _ =>
    relates_change fun _ => ⟨Nat.le_refl _, rfl, rfl, rfl⟩

theorem relates_withSpan (flow : Nat) (target : String) (cx? : Option String) (span : String) :
    Relates Quiet (withSpan flow target cx? span) :=
  (readsOnly_contextOr flow cx?).relates.bind fun _ => (relates_takeSpan span).bind fun _ =>
    relates_freshNumber.bind fun _ => relates_storeContext target _

theorem relates_makeRemote (target cx : String) (sc : SpanContext) :
    Relates Quiet (makeRemote target cx sc) :=
  (readsOnly_named _ cx).relates.bind fun _ =>
    relates_freshNumber.bind fun _ => relates_storeContext target _

theorem relates_passOn (act : Telemetry → Telemetry × Option String) :
    Relates Quiet (passOn act) := by
  refine (relates_change fun _ => ⟨Nat.le_refl _, rfl, rfl, rfl⟩).bind fun failure? => ?_
  cases failure? with
  | none => exact (readsOnly_pure _).relates
  | some message => exact (readsOnly_throw _).relates

theorem relates_elapse (now : Timestamp) : Relates Quiet (elapse now) :=
  relates_change fun _ => ⟨Nat.le_refl _, rfl, rfl, rfl⟩

theorem relates_callOn (flow : Nat) (on : Target) (call : Timestamp → SpanCall) :
    Relates Quiet (callOn flow on call) := by
  have hAfter : Relates Quiet (do return .recording (← isRecording flow on) : Action Result) :=
    ((readsOnly_isRecording flow on).bind fun _ => readsOnly_pure _).relates
  cases on with
  | named name =>
    exact (readsOnly_named _ name).relates.bind fun _ => (relates_passOn _).bind fun _ => hAfter
  | carried cx =>
    exact (readsOnly_carriedBy flow _).relates.bind fun _ => (relates_passOn _).bind fun _ => hAfter
  | active =>
    exact (readsOnly_carriedBy flow _).relates.bind fun _ => (relates_passOn _).bind fun _ => hAfter

/-! ### Carriers -/

theorem relates_putCarrier (name : String) (c : Carrier) : Relates Quiet (putCarrier name c) :=
  relates_change fun _ => ⟨Nat.le_refl _, rfl, rfl, rfl⟩

theorem relates_setCarrier (name key value : String) : Relates Quiet (setCarrier name key value) :=
  (readsOnly_named _ name).relates.bind fun _ => relates_putCarrier _ _

theorem readsOnly_propagatorOr (name? : Option String) : ReadsOnly (propagatorOr name?) := by
  cases name? with
  | none => exact readsOnly_ask _
  | some name => exact readsOnly_named _ name

theorem relates_inject (flow : Nat) (propagator? : Option String) (carrier : String)
    (cx? : Option String) : Relates Quiet (inject flow propagator? carrier cx?) :=
  (readsOnly_propagatorOr propagator?).relates.bind fun _ =>
    (readsOnly_named _ carrier).relates.bind fun _ =>
      (readsOnly_contextOr flow cx?).relates.bind fun _ => relates_putCarrier _ _

/-! ### Providers -/

theorem relates_makeExporter (target : String) (kind : Exporter.Kind) :
    Relates Quiet (makeExporter target kind) := fun _ => ⟨Nat.le_refl _, rfl, rfl, rfl⟩

theorem relates_clearExporter (name : String) : Relates Quiet (clearExporter name) :=
  (readsOnly_exporterNamed name).relates.bind fun _ =>
    relates_change fun _ => ⟨Nat.le_refl _, rfl, rfl, rfl⟩

theorem relates_handedSince (name : String) : Relates Quiet (handedSince name) :=
  (readsOnly_exporterNamed name).relates.bind fun _ =>
    relates_change fun _ => ⟨Nat.le_refl _, rfl, rfl, rfl⟩

theorem relates_addProvider (target : String) (plan : ProviderPlan) :
    Relates Quiet (addProvider target plan) :=
  relates_modify fun _ => ⟨Nat.le_refl _, rfl, rfl, rfl⟩

theorem readsOnly_exportersNamed (names : List String) :
    ReadsOnly (names.mapM (named World.exporters)) := by
  induction names with
  | nil => exact readsOnly_pure _
  | cons name rest ih =>
    rw [List.mapM_cons]
    exact (readsOnly_named _ name).bind fun _ => ih.bind fun _ => readsOnly_pure _

theorem relates_makeProvider (target : String) (parts : ProviderSteps) (described : Bool) :
    Relates Quiet (makeProvider target parts described) :=
  (readsOnly_exportersNamed parts.exporters).relates.bind fun _ =>
    (readsOnly_ask _).relates.bind fun _ => (relates_addProvider target _).bind fun _ =>
      (readsOnly_pure _).relates

theorem relates_makeStandardProvider (target : String) :
    Relates Quiet (makeStandardProvider target) :=
  (readsOnly_ask _).relates.bind fun _ => (relates_addProvider target _).bind fun _ =>
    (readsOnly_pure _).relates

theorem relates_copyProvider (target name : String) : Relates Quiet (copyProvider target name) :=
  (readsOnly_named _ name).relates.bind fun _ =>
    relates_change fun _ => ⟨Nat.le_refl _, rfl, rfl, rfl⟩

theorem relates_onProvider (name : String)
    (act : Telemetry → Nat → Telemetry × Except ExportError Unit) :
    Relates Quiet (onProvider name act) :=
  (readsOnly_named _ name).relates.bind fun _ =>
    relates_change fun _ => ⟨Nat.le_refl _, rfl, rfl, rfl⟩

theorem relates_makeTracer (target provider name : String) :
    Relates Quiet (makeTracer target provider name) :=
  (readsOnly_named _ provider).relates.bind fun _ =>
    relates_change fun _ => ⟨Nat.le_refl _, rfl, rfl, rfl⟩

theorem relates_startSpan (flow : Nat) (target tracer name : String) (cx? : Option String) :
    Relates Quiet (startSpan flow target tracer name cx?) :=
  (readsOnly_named _ tracer).relates.bind fun _ =>
    (readsOnly_contextOr flow cx?).relates.bind fun _ =>
      relates_change fun _ => ⟨Nat.le_refl _, rfl, rfl, rfl⟩

end SpanFlow.Script
