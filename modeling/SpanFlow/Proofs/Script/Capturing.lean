import SpanFlow.Proofs.Script.Heeding

/-!
# Capturing contexts

A step that makes work captures a context: the one that it names, or the one that is current on its
flow. An executor that is made without a name captures nothing; it looks for the current context
whenever it is handed something.

## Main results

* `perform_making`: what a step that makes work does to the work of a session.
* `perform_capture`: what a step captures is what the piece that it makes then carries.
-/

namespace SpanFlow.Script

open Session

/-! ## What is captured -/

/-- The context under a name, or the current one of a flow. -/
def contextAt? (flow : Nat) (w : State) : Option String → Option Context
  | none => some (w.current flow)
  | some name => Assoc.get? w.contexts name

/-- The piece of work that takes a context along when a step makes it, and the name of that context,
if it is not to be the current one. -/
def Step.carries? : Step → Option (Piece × Option String)
  | .wrap target cx? .. => some (.work target, cx?)
  | .executor target (some name) _ => some (.executor target, some name)
  | .future target cx? _ => some (.future target, cx?)
  | .stream target cx? _ => some (.stream target, cx?)
  | .sink target cx? .. => some (.sink target, cx?)
  | _ => none

theorem makes?_of_carries? {s : Step} {k : Piece} {cx? : Option String}
    (h : s.carries? = some (k, cx?)) : s.makes? = some k := by
  cases s with
  | executor target name? mode =>
    cases name? with
    | none => cases h
    | some name =>
      cases h
      rfl
  | wrap | future | stream | sink =>
    cases h
    rfl
  | _ => cases h

/-- The piece of work that a step makes on a flow, with the context that it captures. -/
def Step.capture? (flow : Nat) (w : State) (s : Step) : Option (Piece × Context) :=
  s.carries?.bind fun c => (contextAt? flow w c.2).map fun cx => (c.1, cx)

theorem contextOr_apply (flow : Nat) (cx? : Option String) (w : State) :
    (∃ cx, contextAt? flow w cx? = some cx ∧ contextOr flow cx? w = (.ok cx, w)) ∨
      (contextAt? flow w cx? = none ∧ ∃ halt, contextOr flow cx? w = (.error halt, w)) := by
  cases cx? with
  | none => exact .inl ⟨w.current flow, rfl, rfl⟩
  | some name =>
    rcases hGet : Assoc.get? w.contexts name with _ | cx
    · exact .inr ⟨hGet, _, by rw [contextOr, named_apply, hGet]⟩
    · exact .inl ⟨cx, hGet, by rw [contextOr, named_apply, hGet]⟩

/-- What making a piece of work does: it sets what that piece carries, and no other. -/
structure Makes (k : Piece) (cx? : Option Context) (w w' : State) : Prop where
  queue_eq : w'.queue = w.queue
  carried : ∀ other, w'.carried? other = if other = k then some cx? else w.carried? other

section Making

variable (run : Runner) (fuel flow : Nat) (w : State) {s : Step} {k : Piece}

/-- A step that makes work with a context that is named or current. -/
theorem perform_of_carries {cx? : Option String} {make : Context → State → Result × State}
    (hCarries : s.carries? = some (k, cx?))
    (hPerform : perform run fuel flow s = contextOr flow cx? >>= fun cx => change (make cx))
    (hMakes : ∀ cx, Makes k (some cx) w (make cx w).2) :
    (s.capture? flow w = none ∧ (perform run fuel flow s w).2 = w) ∨
      ∃ r w' cx?, perform run fuel flow s w = (.ok r, w') ∧
        s.capture? flow w = cx?.map (fun cx => (k, cx)) ∧ Makes k cx? w w' := by
  rw [hPerform, bind_apply, Step.capture?, hCarries, Option.bind_some]
  rcases contextOr_apply flow cx? w with ⟨cx, hAt, hRan⟩ | ⟨hNone, halt, hRan⟩
  · rw [hAt, hRan]
    exact .inr ⟨(make cx w).1, (make cx w).2, some cx, rfl, rfl, hMakes cx⟩
  · rw [hNone, hRan]
    exact .inl ⟨rfl, rfl⟩

/-- Taking the context off a piece of work, if there is such a piece. -/
theorem perform_takeOff (kind : CarriedKind) (name : String) :
    (perform run fuel flow (.takeOff kind name) w).2 = w ∨
      ∃ r w', perform run fuel flow (.takeOff kind name) w = (.ok r, w') ∧
        Makes (kind.piece name) none w w' := by
  have hNamed : ∀ {α : Type} {m : State → Assoc String α} (bare : α → State → State),
      perform run fuel flow (.takeOff kind name) = (named m name >>= fun x =>
        modify (bare x) >>= fun _ => pure .nothing) →
      (∀ x, Makes (kind.piece name) none w (bare x w)) →
      (perform run fuel flow (.takeOff kind name) w).2 = w ∨
        ∃ r w', perform run fuel flow (.takeOff kind name) w = (.ok r, w') ∧
          Makes (kind.piece name) none w w' := by
    intro α m bare hPerform hMakes
    rw [hPerform, bind_apply, named_apply]
    rcases Assoc.get? (m w) name with _ | x
    · exact .inl rfl
    · exact .inr ⟨.nothing, bare x w, rfl, hMakes x⟩
  cases kind with
  | future => exact hNamed _ rfl fun x => ⟨rfl, World.carried?_insert_future w name _⟩
  | stream => exact hNamed _ rfl fun x => ⟨rfl, World.carried?_insert_stream w name _⟩
  | sink => exact hNamed _ rfl fun x => ⟨rfl, World.carried?_insert_sink w name _⟩

/-- A step that makes work either does not find what it names, and changes nothing, or makes the
piece with the context that it captures, if it captures one. -/
theorem perform_making (h : s.makes? = some k) :
    (s.capture? flow w = none ∧ (perform run fuel flow s w).2 = w) ∨
      ∃ r w' cx?, perform run fuel flow s w = (.ok r, w') ∧
        s.capture? flow w = cx?.map (fun cx => (k, cx)) ∧ Makes k cx? w w' := by
  cases s with
  | wrap target cx? body once =>
    obtain rfl := Option.some.inj h
    exact perform_of_carries run fuel flow w rfl rfl fun cx =>
      ⟨rfl, World.carried?_insert_work w target ⟨cx, body, once⟩⟩
  | executor target cx? mode =>
    obtain rfl := Option.some.inj h
    cases cx? with
    | none =>
      exact .inr ⟨_, _, none, rfl, rfl, rfl,
        World.carried?_insert_executor w target ⟨none, mode⟩⟩
    | some name =>
      have hPerform : perform run fuel flow (.executor target (some name) mode) =
          contextOr flow (some name) >>= fun cx => change fun w =>
            let w := { w with executors := Assoc.insert w.executors target ⟨some cx, mode⟩ }.settle
            (.executor (w.label cx)
              (Text.openRecord "ContextExecutor" [("cx", cx.describe)]), w) := by
        show ((some name).mapM (named World.contexts) >>= _) = _
        rw [Option.mapM_some, bind_map_left]
        rfl
      exact perform_of_carries run fuel flow w rfl hPerform fun cx =>
        ⟨rfl, World.carried?_insert_executor w target ⟨some cx, mode⟩⟩
  | future target cx? polls =>
    obtain rfl := Option.some.inj h
    exact perform_of_carries run fuel flow w rfl rfl fun cx =>
      ⟨rfl, World.carried?_insert_future w target ⟨some cx, polls, 0⟩⟩
  | stream target cx? items =>
    obtain rfl := Option.some.inj h
    exact perform_of_carries run fuel flow w rfl rfl fun cx =>
      ⟨rfl, World.carried?_insert_stream w target ⟨some cx, items, 0⟩⟩
  | sink target cx? body failing? =>
    obtain rfl := Option.some.inj h
    exact perform_of_carries run fuel flow w rfl rfl fun cx =>
      ⟨rfl, World.carried?_insert_sink w target ⟨some cx, body, failing?, 0⟩⟩
  | takeOff kind name =>
    obtain rfl := Option.some.inj h
    rcases perform_takeOff run fuel flow w kind name with hSame | ⟨r, w', hRan, hMade⟩
    · exact .inl ⟨rfl, hSame⟩
    · exact .inr ⟨r, w', none, hRan, rfl, hMade⟩
  | _ => cases h

/-- What a step captures is what the piece that it makes then carries. -/
theorem perform_capture {cx : Context} (h : s.capture? flow w = some (k, cx)) :
    ∃ r w', perform run fuel flow s w = (.ok r, w') ∧ w'.carried? k = some (some cx) := by
  have hMakes : s.makes? = some k := by
    obtain ⟨⟨other, cx?⟩, hCarries, hAt⟩ := Option.bind_eq_some_iff.1 h
    obtain ⟨found, -, hEq⟩ := Option.map_eq_some_iff.1 hAt
    cases hEq
    exact makes?_of_carries? hCarries
  rcases perform_making run fuel flow w hMakes with ⟨hNone, -⟩ | ⟨r, w', cx?, hRan, hCapture, hMade⟩
  · rw [hNone] at h
    cases h
  · rw [hCapture] at h
    obtain ⟨other, rfl, hEq⟩ := Option.map_eq_some_iff.1 h
    cases hEq
    exact ⟨r, w', hRan, by rw [hMade.carried, if_pos rfl]⟩

end Making

/-- Making work leaves all other work what it has captured. -/
theorem Makes.retains {k : Piece} {cx? : Option Context} {w w' : State} {spared : Piece → Prop}
    (h : Makes k cx? w w') (hNot : ¬ spared k) : Retains spared w w' :=
  .of_one h.queue_eq h.carried fun hSpared => absurd hSpared hNot

end SpanFlow.Script
