import SpanFlow.Proofs.Script.Instances
import SpanFlow.Proofs.Script.Tidying

/-!
# Trees of calls

A call runs its body inside a span, and the body makes calls in its turn. `Calls` is the syntax of
such programs: calls one after the other and inside each other, with scopes of their own in which
they attach contexts, with contexts derived from those at hand, and with failures at any point,
which leave one body after the other until they are caught. A program does not end the spans that it
writes to, and it cannot keep the contexts that it is given.

`Forest` is what has become of the calls that were started, each with its span and with the calls in
its body. `Calls.Yields` says which calls a program makes, with what name and tracer, and of which
span each is a child: of the one that is carried by the context that is current where the call is
made. That is the span of the enclosing call, unless a scope in between has attached a context that
carries another one, or none. Which span is whose is told by the order of starting: the spans that
were started meanwhile are those of the forest in pre-order.

## Main results

* `inSpan_eq`: a call is made of what happens before, in and after its body.
* `makesCalls`: what a program starts, exports and answers, by induction on the program.
* `Calls.Yields.nested`: without scopes on other spans, calls are children of the enclosing ones.
* `fit_run`: calls can be made in every session that a script comes to.
* `calls_exported`: every exporter receives the spans of a program in post-order.
-/

namespace SpanFlow

/-- The calls that have been started at one place, in this order, each with its span and with the
calls that were started in its body. -/
inductive Forest where
  | none
  | call (span : SpanData) (inside rest : Forest)

namespace Forest

/-- The calls of one forest and then those of another. -/
def append : Forest → Forest → Forest
  | none, others => others
  | call d inside rest, others => call d inside (rest.append others)

/-- The spans in post-order: those of the calls in a body, then the span of the call, then those of
the calls behind it. -/
def spans : Forest → List SpanData
  | none => []
  | call d inside rest => inside.spans ++ d :: rest.spans

/-- The identities of the spans in the order of starting: that of a call, then those in its body,
then those behind it. -/
def started : Forest → List SpanContext
  | none => []
  | call d inside rest => d.context :: (inside.started ++ rest.started)

/-- Every call is a child of the enclosing one, and the outermost ones are children of `around`. -/
def Nested (around : SpanContext) : Forest → Prop
  | none => True
  | call d inside rest => d.ChildOf around ∧ inside.Nested d.context ∧ rest.Nested around

/-- All calls inside an outermost one have its trace. -/
def OneTraceEach : Forest → Prop
  | none => True
  | call d inside rest =>
    (∀ s ∈ inside.spans, s.context.traceId = d.context.traceId) ∧ rest.OneTraceEach

theorem spans_append (f others : Forest) : (f.append others).spans = f.spans ++ others.spans := by
  induction f with
  | none => rfl
  | call d inside rest _ ih => rw [append, spans, spans, ih, List.append_assoc, List.cons_append]

theorem started_append (f others : Forest) :
    (f.append others).started = f.started ++ others.started := by
  induction f with
  | none => rfl
  | call d inside rest _ ih =>
    rw [append, started, started, ih, List.cons_append, List.append_assoc]

theorem nested_append {around : SpanContext} {f others : Forest} (h : f.Nested around)
    (hOthers : others.Nested around) : (f.append others).Nested around := by
  induction f with
  | none => exact hOthers
  | call d inside rest _ ih => exact ⟨h.1, h.2.1, ih h.2.2⟩

/-- In a valid trace, calls stay in it. By induction on the calls: each is a child of the enclosing
one, which is valid and has the trace. -/
theorem Nested.traceId {around : SpanContext} {f : Forest} (h : f.Nested around)
    (hValid : around.isValid = true) : ∀ s ∈ f.spans, s.context.traceId = around.traceId := by
  induction f generalizing around with
  | none => exact fun s hs => nomatch hs
  | call d inside rest ihInside ihRest =>
    obtain ⟨hChild, hInside, hRest⟩ := h
    intro s hs
    rcases List.mem_append.1 hs with hs | hs
    · exact (ihInside hInside hChild.valid s hs).trans (hChild.traceId hValid)
    · rcases List.mem_cons.1 hs with rfl | hs
      · exact hChild.traceId hValid
      · exact ihRest hRest hValid s hs

theorem Nested.oneTraceEach {around : SpanContext} {f : Forest} (h : f.Nested around) :
    f.OneTraceEach := by
  induction f with
  | none => trivial
  | call d inside rest _ ih =>
    obtain ⟨hChild, hInside, hRest⟩ := h
    exact ⟨hInside.traceId hChild.valid, ih hRest⟩

end Forest

namespace Script

open Session

/-- A program of calls. Contexts at hand are named by their places: first those that were given or
derived last. A call on a span is made from what the clock shows. -/
inductive Calls where
  /-- Returns. -/
  | done
  /-- Fails. -/
  | fail (message : String)
  /-- Calls on the span of a context and goes on. -/
  | write (i : Nat) (c : Timestamp → SpanCall) (rest : Calls)
  /-- Lets time pass and goes on. -/
  | wait (now : Timestamp) (rest : Calls)
  /-- Derives a context by binding a text, and goes on with it at hand. -/
  | derive (i key : Nat) (text : String) (rest : Calls)
  /-- Attaches a context, runs a program under it, closes the guard and goes on. -/
  | scope (i : Nat) (body rest : Calls)
  /-- Runs a program, catches its failure and goes on. -/
  | attempt (body rest : Calls)
  /-- Runs a program inside a new span, with the context given to it at hand, and goes on. -/
  | call (tracer name : String) (body rest : Calls)

namespace Calls

/-- A program as an action of a script, with some contexts at hand. -/
def act (flow : Nat) : Calls → List Context → Action Unit
  | done, _ => pure ()
  | fail message, _ => throw (.failed message)
  | write i c rest, env => do
    passOn fun t => t.callActive (place env i).activeSpan (c t.now)
    rest.act flow env
  | wait now rest, env => do
    let _ ← elapse now
    rest.act flow env
  | derive i key text rest, env => do
    let id ← freshNumber
    rest.act flow ((place env i).withValue id key (.text text) :: env)
  | scope i body rest, env => do
    under flow (place env i) (body.act flow env)
    rest.act flow env
  | attempt body rest, env => do
    tryCatch (body.act flow env) fun _ => pure ()
    rest.act flow env
  | call tracer name body rest, env => do
    let inside : Runner := fun flow _ => do
      let given ← contextOr flow none
      body.act flow (given :: env)
      return .none
    let _ ← inSpan inside flow tracer name [] none
    rest.act flow env

/-- What a program may do: call on spans without ending them, bind keys other than that of the span,
and make calls with the tracers of one provider. -/
def Allowed (p : Nat) (tracers : Assoc String Tracer) : Calls → Prop
  | done | fail _ => True
  | write _ c rest => (∀ now, (c now).ends? = none) ∧ rest.Allowed p tracers
  | wait _ rest => rest.Allowed p tracers
  | derive _ key _ rest => key ≠ Context.spanKey ∧ rest.Allowed p tracers
  | scope _ body rest | attempt body rest => body.Allowed p tracers ∧ rest.Allowed p tracers
  | call tracer _ body rest =>
    (∃ t, Assoc.get? tracers tracer = some t ∧ t.provider = p) ∧
      body.Allowed p tracers ∧ rest.Allowed p tracers

/-- Whether a program may give a span this name. -/
def Renames : Calls → String → Prop
  | done, _ | fail _, _ => False
  | write _ c rest, n => (∃ now, (c now).rename? = some n) ∨ rest.Renames n
  | wait _ rest, n | derive _ _ _ rest, n => rest.Renames n
  | scope _ body rest, n | attempt body rest, n | call _ _ body rest, n =>
    body.Renames n ∨ rest.Renames n

/-- Whether every scope of a program attaches a context that carries the span which is current
already. The list tells of which contexts at hand this can be said. -/
def keepsSpan : Calls → List Bool → Bool
  | done, _ | fail _, _ => true
  | write _ _ rest, own | wait _ rest, own => rest.keepsSpan own
  | derive i _ _ rest, own => rest.keepsSpan (own.getD i false :: own)
  | scope i body rest, own => own.getD i false && body.keepsSpan own && rest.keepsSpan own
  | attempt body rest, own => body.keepsSpan own && rest.keepsSpan own
  | call _ _ body rest, own => body.keepsSpan [true] && rest.keepsSpan own

variable (tracers : Assoc String Tracer)

/-- The span of a call that is made where a context carries the span `around`: its child, started by
the tracer under a name. It has the name of the call or one that the body gives to a span. -/
structure IsCall (around : SpanContext) (tracer name : String) (body : Calls) (d : SpanData) :
    Prop where
  childOf : d.ChildOf around
  isOf : ∃ t, Assoc.get? tracers tracer = some t ∧
    d.IsOf t fun n => n = name ∨ body.Renames n

/-- The calls that a program starts, and how it fails, if it does: with the spans that the contexts
at hand carry, where the current context carries the span `around`. A span may refuse a call by
failing half-way. -/
inductive Yields : Calls → List SpanContext → SpanContext → Forest → Option String → Prop where
  | done {env around} : Yields done env around .none none
  | fail {env around message} : Yields (fail message) env around .none (some message)
  | write {env around i c rest f failure?} : Yields rest env around f failure? →
    Yields (write i c rest) env around f failure?
  | refused {env around i c rest message} : Yields (write i c rest) env around .none (some message)
  | wait {env around now rest f failure?} : Yields rest env around f failure? →
    Yields (wait now rest) env around f failure?
  | derive {env around i key text rest f failure?} :
    Yields rest (env.getD i .none :: env) around f failure? →
    Yields (derive i key text rest) env around f failure?
  | scope {env around i body rest f others failure?} : Yields body env (env.getD i .none) f none →
    Yields rest env around others failure? →
    Yields (scope i body rest) env around (f.append others) failure?
  | scopeFails {env around i body rest f message} :
    Yields body env (env.getD i .none) f (some message) →
    Yields (scope i body rest) env around f (some message)
  | attempt {env around body rest f others caught? failure?} : Yields body env around f caught? →
    Yields rest env around others failure? →
    Yields (attempt body rest) env around (f.append others) failure?
  | call {env around tracer name body rest d f others failure?} :
    IsCall tracers around tracer name body d →
    Yields body (d.context :: env) d.context f none → Yields rest env around others failure? →
    Yields (call tracer name body rest) env around (.call d f others) failure?
  | callFails {env around tracer name body rest d f message} :
    IsCall tracers around tracer name body d →
    Yields body (d.context :: env) d.context f (some message) →
    Yields (call tracer name body rest) env around (.call d f .none) (some message)

variable {tracers}

/-- Where scopes keep the span that is current, calls are children of the enclosing ones. -/
theorem Yields.nested {c : Calls} {env : List SpanContext} {around : SpanContext} {f : Forest}
    {failure? : Option String} (h : c.Yields tracers env around f failure?) {own : List Bool}
    (hKeeps : c.keepsSpan own = true)
    (hOwn : ∀ i, own.getD i false = true → env.getD i .none = around) : f.Nested around := by
  induction h generalizing own with
  | done | fail | refused => trivial
  | write _ ih | wait _ ih => exact ih hKeeps hOwn
  | derive _ ih =>
    refine ih hKeeps fun i hi => ?_
    cases i with
    | zero => exact hOwn _ hi
    | succ i => exact hOwn i hi
  | scope _ _ ihBody ihRest =>
    simp only [keepsSpan, Bool.and_eq_true] at hKeeps
    obtain ⟨⟨hSame, hBody⟩, hRest⟩ := hKeeps
    rw [hOwn _ hSame] at ihBody
    exact Forest.nested_append (ihBody hBody hOwn) (ihRest hRest hOwn)
  | scopeFails _ ihBody =>
    simp only [keepsSpan, Bool.and_eq_true] at hKeeps
    obtain ⟨⟨hSame, hBody⟩, -⟩ := hKeeps
    rw [hOwn _ hSame] at ihBody
    exact ihBody hBody hOwn
  | attempt _ _ ihBody ihRest =>
    simp only [keepsSpan, Bool.and_eq_true] at hKeeps
    exact Forest.nested_append (ihBody hKeeps.1 hOwn) (ihRest hKeeps.2 hOwn)
  | call hCall _ _ ihBody ihRest =>
    simp only [keepsSpan, Bool.and_eq_true] at hKeeps
    refine ⟨hCall.childOf, ihBody hKeeps.1 fun i hi => ?_, ihRest hKeeps.2 hOwn⟩
    cases i with
    | zero => rfl
    | succ i => simp at hi
  | callFails hCall _ ihBody =>
    simp only [keepsSpan, Bool.and_eq_true] at hKeeps
    refine ⟨hCall.childOf, ihBody hKeeps.1 fun i hi => ?_, trivial⟩
    cases i with
    | zero => rfl
    | succ i => simp at hi

end Calls

/-! ## A call, taken apart -/

/-- Does an action and then ends a span, unless the action has failed. -/
def thenEnd (act : Action Run) (active : ActiveSpan) : Action Run := do
  let ran ← act
  if ran.failure?.isNone then
    passOn fun t => t.callActive active (.finish t.now)
  return ran

section Call

variable {w : State} {flow : Nat} {tracer : String} {t : Tracer}

/-- A call starts its span and attaches the context that carries it, runs its body, and puts away
what it has opened and kept alive. -/
theorem inSpan_eq (h : Assoc.get? w.tracers tracer = some t) (run : Runner) (name : String)
    (body : Body) :
    inSpan run flow tracer name body none w =
      ((thenEnd (run flow body) (w.given flow t name).activeSpan (w.entered flow t name)).1,
        (thenEnd (run flow body) (w.given flow t name).activeSpan
          (w.entered flow t name)).2.leave flow w.supply) := by
  rw [inSpan, bind_apply, named_apply, h]
  rfl

theorem passOn_apply (act : Telemetry → Telemetry × Option String) (w : State) :
    passOn act w =
      match (act w.telemetry).2 with
      | some message => (.error (.failed message), { w with telemetry := (act w.telemetry).1 })
      | none => (.ok (), { w with telemetry := (act w.telemetry).1 }) := by
  show (change _ >>= _) w = _
  rw [bind_apply]
  show (match (act w.telemetry).2 with
    | some message => throw (.failed message)
    | none => pure () : Action Unit) { w with telemetry := (act w.telemetry).1 } = _
  cases (act w.telemetry).2 <;> rfl

theorem thenEnd_ok {act : Action Run} {active : ActiveSpan} {w' : State}
    (h : act w = (.ok .none, w')) :
    thenEnd act active w =
      (.ok .none,
        { w' with telemetry :=
            (w'.telemetry.callActive active (.finish w'.telemetry.now)).1 }) := by
  have hPassed := passOn_apply (fun t => t.callActive active (.finish t.now)) w'
  rw [Telemetry.snd_callActive_finish] at hPassed
  rw [thenEnd, bind_apply, h]
  show (passOn _ >>= _) w' = _
  rw [bind_apply, hPassed]
  rfl

theorem thenEnd_error {act : Action Run} {active : ActiveSpan} {w' : State} {halt : Halt}
    (h : act w = (.error halt, w')) : thenEnd act active w = (.error halt, w') := by
  rw [thenEnd, bind_apply, h]

end Call

/-! ## Programs of calls -/

/-- How an action answers that runs a program. -/
def answer : Option String → Except Halt Unit
  | none => .ok ()
  | some message => .error (.failed message)

/-- A forest covers what has happened between two sessions: the later one has come back to the
earlier one, and the spans of the forest are what was exported and what was started meanwhile. -/
structure Covers (p : Nat) (names : String → Prop) (w w' : State) (f : Forest) : Prop where
  spent : Spent p names f.spans w w'
  started : w'.telemetry.identities = w.telemetry.identities ++ f.started

namespace Covers

variable {p : Nat} {names : String → Prop} {w w' w'' : State} {f others : Forest}

theorem refl : Covers p names w w .none := ⟨.refl, (List.append_nil _).symm⟩

theorem mono {more : String → Prop} (hMore : ∀ n, names n → more n) (h : Covers p names w w' f) :
    Covers p more w w' f := ⟨h.spent.mono hMore, h.started⟩

theorem trans (h : Covers p names w w' f) (h' : Covers p names w' w'' others) :
    Covers p names w w'' (f.append others) where
  spent := by
    rw [Forest.spans_append]
    exact h.spent.trans h'.spent
  started := by rw [h'.started, h.started, Forest.started_append, List.append_assoc]

end Covers

/-- What a program does in a session: the calls that it starts and how it fails, what its action
comes to, and that these calls are all that has happened. -/
structure Exports (p flow : Nat) (env : List Context) (c : Calls) (w : State) (f : Forest)
    (failure? : Option String) (w' : State) : Prop where
  yields : c.Yields w.tracers (env.map Context.spanContext) (w.current flow).spanContext f failure?
  ran : c.act flow env w = (answer failure?, w')
  covers : Covers p c.Renames w w' f

/-- Where calls can be made, a program makes its calls. -/
def MakesCalls (p flow : Nat) (c : Calls) : Prop :=
  ∀ (env : List Context) (w : State), Fit p flow env w → c.Allowed p w.tracers →
    ∃ f failure? w', Exports p flow env c w f failure? w'

section Exports

variable {p flow : Nat} {env : List Context} {w w' : State} {body rest : Calls}

theorem spanContext_place (env : List Context) (i : Nat) :
    (env.map Context.spanContext).getD i .none = (place env i).spanContext := by
  rw [place, List.getD_eq_getElem?_getD, List.getD_eq_getElem?_getD, List.getElem?_map]
  cases env[i]? <;> rfl

theorem spanContext_congr {a b : Context} (h : a.activeSpan? = b.activeSpan?) :
    a.spanContext = b.spanContext := by
  rw [Context.spanContext, Context.activeSpan, h]
  rfl

/-- What a program makes of the rest, behind calls that have been made. -/
theorem MakesCalls.after {names : String → Prop} {before : Forest} (h : MakesCalls p flow rest)
    (hFit : Fit p flow env w) (hAllowed : rest.Allowed p w.tracers)
    (hBefore : Covers p names w w' before) (hNames : ∀ n, rest.Renames n → names n) :
    ∃ (f : Forest) (failure? : Option String) (w'' : State),
      rest.Yields w.tracers (env.map Context.spanContext) (w.current flow).spanContext f
          failure? ∧
        rest.act flow env w' = (answer failure?, w'') ∧
        Covers p names w w'' (before.append f) := by
  have hReturns := hBefore.spent.returns
  obtain ⟨f, failure?, w'', hRest⟩ := h env w' (hFit.returns hBefore.spent)
    (by rw [hReturns.tracers_eq]; exact hAllowed)
  refine ⟨f, failure?, w'', ?_, hRest.ran, hBefore.trans (hRest.covers.mono hNames)⟩
  rw [← hReturns.current_flow, ← hReturns.tracers_eq]
  exact hRest.yields

theorem makesCalls_write {i : Nat} {c : Timestamp → SpanCall} (hRest : MakesCalls p flow rest) :
    MakesCalls p flow (.write i c rest) := by
  rintro env w hFit ⟨hEnds, hAllowed⟩
  let now := w.telemetry.now
  let active := (place env i).activeSpan
  have hNames : (c now).RenamesWithin (Calls.write i c rest).Renames :=
    fun _ hName => .inl ⟨now, hName⟩
  have hWritten : Covers p (Calls.write i c rest).Renames w
      { w with telemetry := (w.telemetry.callActive active (c now)).1 } .none :=
    ⟨⟨.of_telemetry _, .callActive _ (hEnds now) hNames⟩,
      Telemetry.identities_after _ (.callActive active (c now))⟩
  have hPassed := passOn_apply (fun t => t.callActive active (c t.now)) w
  cases hFailure : (w.telemetry.callActive active (c now)).2 with
  | some message =>
    rw [hFailure] at hPassed
    refine ⟨.none, some message, _, .refused, ?_, hWritten⟩
    rw [Calls.act, bind_apply, hPassed]
    rfl
  | none =>
    rw [hFailure] at hPassed
    obtain ⟨f, failure?, w', hYields, hRan, hAll⟩ :=
      hRest.after hFit hAllowed hWritten fun _ => .inr
    refine ⟨f, failure?, w', .write hYields, ?_, hAll⟩
    rw [Calls.act, bind_apply, hPassed]
    exact hRan

theorem makesCalls_wait {now : Timestamp} (hRest : MakesCalls p flow rest) :
    MakesCalls p flow (.wait now rest) := by
  intro env w hFit hAllowed
  have hWaited : Covers p rest.Renames w
      { w with telemetry := w.telemetry.elapse now } .none :=
    ⟨⟨.of_telemetry _, .elapse now⟩, (List.append_nil _).symm⟩
  obtain ⟨f, failure?, w', hYields, hRan, hAll⟩ :=
    hRest.after hFit hAllowed hWaited fun _ => id
  exact ⟨f, failure?, w', .wait hYields, hRan, hAll⟩

theorem makesCalls_derive {i key : Nat} {text : String} (hRest : MakesCalls p flow rest) :
    MakesCalls p flow (.derive i key text rest) := by
  rintro env w hFit ⟨hKey, hAllowed⟩
  obtain ⟨hDerived, hSpan⟩ := hFit.derive i hKey text
  obtain ⟨f, failure?, w', h⟩ := hRest _ _ hDerived hAllowed
  have hNumbered : Covers p rest.Renames w w.fresh.2 .none :=
    ⟨⟨.fresh, .refl⟩, (List.append_nil _).symm⟩
  have hYields := h.yields
  rw [List.map_cons, spanContext_congr hSpan, ← spanContext_place] at hYields
  exact ⟨f, failure?, w', .derive hYields, h.ran, hNumbered.trans h.covers⟩

theorem makesCalls_scope {i : Nat} (hBody : MakesCalls p flow body)
    (hRest : MakesCalls p flow rest) : MakesCalls p flow (.scope i body rest) := by
  rintro env w hFit ⟨hAllowedBody, hAllowed⟩
  obtain ⟨hOpened, hSpan⟩ := hFit.openGuard i
  obtain ⟨f, failure?, w', h⟩ := hBody _ _ hOpened hAllowedBody
  obtain ⟨hSpent, hSame⟩ := spent_closeGuard hFit.tidy h.covers.spent
  have hClosed : Covers p (Calls.scope i body rest).Renames w
      (w'.closeGuard flow (w.openGuard flow (place env i)).1) f :=
    ⟨hSpent.mono fun _ => .inl, by rw [hSame]; exact h.covers.started⟩
  have hYields := h.yields
  rw [spanContext_congr hSpan, ← spanContext_place] at hYields
  have hRan : under flow (place env i) (body.act flow env) w =
      (answer failure?, w'.closeGuard flow (w.openGuard flow (place env i)).1) := by
    rw [under_apply, h.ran]
  cases failure? with
  | some message =>
    refine ⟨f, some message, _, .scopeFails hYields, ?_, hClosed⟩
    rw [Calls.act, bind_apply, hRan]
    rfl
  | none =>
    obtain ⟨others, failure?, w'', hYieldsRest, hRanRest, hAll⟩ :=
      hRest.after hFit hAllowed hClosed fun _ => .inr
    refine ⟨f.append others, failure?, w'', .scope hYields hYieldsRest, ?_, hAll⟩
    rw [Calls.act, bind_apply, hRan]
    exact hRanRest

theorem makesCalls_attempt (hBody : MakesCalls p flow body) (hRest : MakesCalls p flow rest) :
    MakesCalls p flow (.attempt body rest) := by
  rintro env w hFit ⟨hAllowedBody, hAllowed⟩
  obtain ⟨f, caught?, w', h⟩ := hBody env w hFit hAllowedBody
  have hTried : Covers p (Calls.attempt body rest).Renames w w' f :=
    h.covers.mono fun _ => .inl
  obtain ⟨others, failure?, w'', hYieldsRest, hRanRest, hAll⟩ :=
    hRest.after hFit hAllowed hTried fun _ => .inr
  have hCaught : tryCatch (body.act flow env) (fun _ => pure ()) w = (.ok (), w') := by
    rw [tryCatch_apply, h.ran]
    cases caught? <;> rfl
  refine ⟨f.append others, failure?, w'', .attempt h.yields hYieldsRest, ?_, hAll⟩
  rw [Calls.act, bind_apply, hCaught]
  exact hRanRest

/-- The body of a call as a runner has it. -/
def insideOf (body : Calls) (env : List Context) : Runner := fun flow _ => do
  let given ← contextOr flow none
  body.act flow (given :: env)
  return .none

/-- A call fails as its body does, and then its span has not been ended when it is let go. -/
theorem call_answer {tracer name : String} {t : Tracer} {failure? : Option String}
    (hTracer : Assoc.get? w.tracers tracer = some t)
    (hGiven : (w.entered flow t name).current flow = w.given flow t name)
    (hBody : body.act flow (w.given flow t name :: env) (w.entered flow t name) =
      (answer failure?, w')) :
    ∃ ended, Over w' (w.given flow t name).activeSpan ended ∧
      inSpan (insideOf body env) flow tracer name [] none w =
        ((answer failure?).map fun _ => .none,
          ({ w' with telemetry := ended } : State).leave flow w.supply) := by
  have hRan : insideOf body env flow [] (w.entered flow t name) =
      ((answer failure?).map fun _ => .none, w') := by
    show (body.act flow ((w.entered flow t name).current flow :: env) >>= fun _ =>
      (pure .none : Action Run)) _ = _
    rw [hGiven, bind_apply, hBody]
    cases failure? <;> rfl
  cases failure? with
  | none => exact ⟨_, .inr rfl, by rw [inSpan_eq hTracer, thenEnd_ok hRan]; rfl⟩
  | some message =>
    exact ⟨w'.telemetry, .inl rfl, by rw [inSpan_eq hTracer, thenEnd_error hRan]; rfl⟩

theorem makesCalls_call {tracer name : String} (hBody : MakesCalls p flow body)
    (hRest : MakesCalls p flow rest) : MakesCalls p flow (.call tracer name body rest) := by
  rintro env w hFit ⟨⟨t, hTracer, rfl⟩, hAllowedBody, hAllowed⟩
  obtain ⟨hEntered, hGiven⟩ := hFit.entered name
  obtain ⟨f, failure?, w', h⟩ := hBody _ _ hEntered hAllowedBody
  obtain ⟨ended, hOver, hRan⟩ := call_answer hTracer hGiven h.ran
  obtain ⟨d, hContext, hChild, hOf, hSpent, hSame⟩ := spent_leave name hFit h.covers.spent hOver
  have hCall : Calls.IsCall w.tracers (w.current flow).spanContext tracer name body d :=
    ⟨hChild, t, hTracer, hOf⟩
  have hStarted : (w.entered flow t name).telemetry.identities =
      w.telemetry.identities ++ [d.context] := by
    rw [hContext, spanContext_given]
    exact Telemetry.identities_after _ (.start t name (w.current flow))
  have hLeft : Covers t.provider (Calls.call tracer name body rest).Renames w
      (({ w' with telemetry := ended } : State).leave flow w.supply) (.call d f .none) := by
    refine ⟨hSpent.mono fun _ => .inl, ?_⟩
    rw [hSame, h.covers.started, hStarted, List.append_assoc, Forest.started, Forest.started,
      List.append_nil]
    rfl
  have hYields := h.yields
  rw [List.map_cons, hGiven, ← hContext] at hYields
  have hAct : (Calls.call tracer name body rest).act flow env w =
      (inSpan (insideOf body env) flow tracer name [] none >>= fun _ => rest.act flow env) w := rfl
  cases failure? with
  | some message =>
    refine ⟨.call d f .none, some message, _, .callFails hCall hYields, ?_, hLeft⟩
    rw [hAct, bind_apply, hRan]
    rfl
  | none =>
    obtain ⟨others, failure?, w'', hYieldsRest, hRanRest, hAll⟩ :=
      hRest.after hFit hAllowed hLeft fun _ => .inr
    refine ⟨.call d f others, failure?, w'', .call hCall hYields hYieldsRest, ?_, hAll⟩
    rw [hAct, bind_apply, hRan]
    exact hRanRest

/-- By induction on the program. -/
theorem makesCalls (p flow : Nat) (c : Calls) : MakesCalls p flow c := by
  induction c with
  | done => exact fun env w _ _ => ⟨.none, none, w, .done, rfl, .refl⟩
  | fail message => exact fun env w _ _ => ⟨.none, some message, w, .fail, rfl, .refl⟩
  | write i c rest ih => exact makesCalls_write ih
  | wait now rest ih => exact makesCalls_wait ih
  | derive i key text rest ih => exact makesCalls_derive ih
  | scope i body rest ihBody ihRest => exact makesCalls_scope ihBody ihRest
  | attempt body rest ihBody ihRest => exact makesCalls_attempt ihBody ihRest
  | call tracer name body rest ihBody ihRest => exact makesCalls_call ihBody ihRest

end Exports

/-- **Calls are exported in post-order.** Where calls can be made, a program of calls of any shape,
with failures at any point, has every exporter of the provider called once for each call that was
started: the calls in a body before the call itself, and siblings in the order in which they were
started. Each span is a child of the one that the context carries which is current where the call is
made, so that without scopes on other spans it is a child of the enclosing call and belongs to the
trace of the outermost one. It has the tracer of its call, and the name unless the body renames
spans; and the spans that were started meanwhile are those of the calls, in the order of the calls.
Afterwards the current context is the one from before. -/
theorem calls_exported {p flow : Nat} {env : List Context} {c : Calls} {w : State}
    (hFit : Fit p flow env w) (hAllowed : c.Allowed p w.tracers) :
    ∃ (f : Forest) (failure? : Option String),
      c.Yields w.tracers (env.map Context.spanContext) (w.current flow).spanContext f failure? ∧
        (c.act flow env w).1 = answer failure? ∧
        (c.act flow env w).2.telemetry.identities = w.telemetry.identities ++ f.started ∧
        (∀ e, (c.act flow env w).2.telemetry.callsOf e = w.telemetry.callsOf e ++
          f.spans.flatMap fun d =>
            List.replicate ((w.telemetry.exportersOf p).count e) (.export [d])) ∧
        (c.act flow env w).2.current flow = w.current flow ∧
        ∀ own, c.keepsSpan own = true →
          (∀ i, own.getD i false = true →
            (place env i).spanContext = (w.current flow).spanContext) →
          f.Nested (w.current flow).spanContext ∧ f.OneTraceEach := by
  obtain ⟨f, failure?, w', hYields, hRan, hSpent, hStarted⟩ :=
    makesCalls p flow c env w hFit hAllowed
  refine ⟨f, failure?, hYields, by rw [hRan], by rw [hRan]; exact hStarted, fun e => ?_, ?_,
    fun own hKeeps hOwn => ?_⟩
  · rw [hRan]
    exact hSpent.spends.callsOf hFit.tidy.sound e
  · rw [hRan]
    exact hSpent.returns.current_flow flow
  · have hNested := hYields.nested hKeeps fun i hi => (spanContext_place env i).trans (hOwn i hi)
    exact ⟨hNested, hNested.oneTraceEach⟩

/-! ## Sessions in which calls can be made -/

/-- A context that a session holds is usable if its span, where it has a valid one, is sampled. -/
theorem usable_of_held {w : State} {made : List Context}
    (hDrawn : DrawnFrom made w) (hTidy : Tidy w)
    {cx : Context} (hHeld : .context cx ∈ w.holdings)
    (hSampled : cx.spanContext.isValid = true → cx.spanContext.isSampled = true) : Usable w cx where
  wellFormed := (hDrawn.upwards.within cx (hDrawn.mem_of_held hHeld)).wellFormed
  below := (hDrawn.upwards.within cx (hDrawn.mem_of_held hHeld)).instance_lt
  span_lt id hSpan := hTidy.span_lt id (List.mem_filterMap.2 ⟨_, hHeld, hSpan⟩)
  sampled := hSampled

/-- The current context is held, or it is the root. -/
theorem current_held (w : State) (flow : Nat) :
    w.current flow = .root ∨ .context (w.current flow) ∈ w.holdings := by
  have hCurrent : w.current flow = (Assoc.get? w.slots (w.slotOf flow)).getD .root := rfl
  cases hSlot : Assoc.get? w.slots (w.slotOf flow) with
  | none => exact .inl (by rw [hCurrent, hSlot]; rfl)
  | some cx =>
    obtain ⟨x, hFind, hx⟩ := Option.map_eq_some_iff.1 hSlot
    refine .inr (World.mem_holdings.2 (.inl ⟨_, World.mem_contextsHeld.2 (.inr (.inl ?_)), rfl⟩))
    exact ⟨x, List.mem_of_find?_eq_some hFind, by rw [hCurrent, hSlot, hx]; rfl⟩

/-- **Scripts lead to sessions in which calls can be made.** Whatever a script has done, calls can
be made in its session with any contexts that it holds, if the provider records and the spans that
these contexts carry are sampled. -/
theorem fit_run (fuel flow : Nat) (body : Body) (byRequest : Bool) (environment : Surroundings)
    {p on : Nat} {env : List Context} :
    let w :=
      (runSteps (performWith fuel flow) flow body (World.initial byRequest environment)).2
    Telemetry.Live w.telemetry p → (∀ cx ∈ env, .context cx ∈ w.holdings) →
      (∀ cx ∈ w.current on :: env,
        cx.spanContext.isValid = true → cx.spanContext.isSampled = true) →
        Fit p on env w := by
  intro w hLive hHeld hSampled
  obtain ⟨made, hDrawn⟩ := drawn_run fuel flow body byRequest environment
  have hTidy : Tidy w := tidy_run fuel flow body byRequest environment
  have hMade : ∀ cx ∈ w.current on :: env, cx ∈ made :=
    List.forall_mem_cons.2 ⟨hDrawn.current_mem on, fun cx hcx => hDrawn.mem_of_held (hHeld cx hcx)⟩
  refine ⟨hTidy, hLive, fun cx hcx => ?_, fun a ha b hb hSame => ?_⟩
  · rcases List.mem_cons.1 hcx with rfl | hEnv
    · rcases current_held w on with hRoot | hIn
      · rw [hRoot]
        exact usable_root
      · exact usable_of_held hDrawn hTidy hIn (hSampled _ List.mem_cons_self)
    · exact usable_of_held hDrawn hTidy (hHeld cx hEnv) (hSampled cx hcx)
  · rw [hDrawn.upwards.eq_of_same a (hMade a ha) b (hMade b hb) hSame]

/-! ## Two programs in one session -/

/-- A plan of a provider that records every span for the first exporter. -/
def recording : ProviderPlan := ⟨[0], some .alwaysOn, none, some (.constant .standard)⟩

/-- A session that has been given a tracer of such a provider. -/
def tracing : State :=
  { World.initial false .plain with
    telemetry := Telemetry.empty.afterAll [.exporter .memory, .provider recording .plain]
    tracers := [("t", ⟨"lib", 0⟩)] }

theorem fit_tracing : Fit 0 World.firstFlow [] tracing where
  tidy :=
    { keyed := ⟨nofun, nofun, nofun⟩
      sound := Telemetry.sound_afterAll Telemetry.sound_empty _
      calm :=
        { span := nofun
          provider := fun i q hProvider _ => .inl <| by
            cases i with
            | zero => exact List.mem_singleton.2 rfl
            | succ i => cases hProvider }
      span_lt := nofun }
  live := @Telemetry.live_planned recording rfl (.inr (.inl rfl)) _ _
  usable := by
    intro cx hcx
    obtain rfl := List.mem_singleton.1 hcx
    exact usable_root
  consistent := by
    intro a ha b hb _
    rw [List.mem_singleton.1 ha, List.mem_singleton.1 hb]

/-- The spans that an exporter has been called with. -/
def exportedTo (t : Telemetry) (e : Nat) : List SpanData :=
  (t.callsOf e).flatMap fun
    | .export spans => spans
    | _ => []

/-- A call with two calls inside, of which the second fails. -/
def unwinding : Calls :=
  .attempt (.call "t" "outer"
    (.call "t" "first" .done (.call "t" "second" (.fail "stop") .done)) .done) .done

/-- The failure ends the inner call and then the outer one, as a return would. -/
theorem calls_exported_unwinding :
    Fit 0 World.firstFlow [] tracing ∧ unwinding.Allowed 0 tracing.tracers ∧
      unwinding.keepsSpan [] = true ∧
      (∃ f : Forest, (unwinding.act World.firstFlow [] tracing).2.telemetry.callsOf 0 =
          f.spans.flatMap (fun d => [.export [d]]) ∧ f.Nested .none ∧ f.OneTraceEach) ∧
      (unwinding.act World.firstFlow [] tracing).2.current World.firstFlow = .root ∧
      (exportedTo (unwinding.act World.firstFlow [] tracing).2.telemetry 0).map
          (fun d => (d.name, d.context.spanId, d.parent)) =
        [("first", .ofNat 2, .ofNat 1), ("second", .ofNat 3, .ofNat 1),
          ("outer", .ofNat 1, .invalid)] := by
  have hTracer : ∃ t, Assoc.get? tracing.tracers "t" = some t ∧ t.provider = 0 := ⟨_, rfl, rfl⟩
  have hAllowed : unwinding.Allowed 0 tracing.tracers :=
    ⟨⟨hTracer, ⟨hTracer, trivial, hTracer, trivial, trivial⟩, trivial⟩, trivial⟩
  have hNone : tracing.telemetry.callsOf 0 = [] := rfl
  have hOnce : (tracing.telemetry.exportersOf 0).count 0 = 1 := rfl
  have hRoot : tracing.current World.firstFlow = .root := rfl
  obtain ⟨f, failure?, -, -, -, hCalls, hCurrent, hNested⟩ := calls_exported fit_tracing hAllowed
  have hReceived := hCalls 0
  rw [hNone, hOnce, List.nil_append] at hReceived
  refine ⟨fit_tracing, hAllowed, rfl, ⟨f, hReceived, hNested [] rfl fun _ hi => ?_⟩,
    hCurrent.trans hRoot, ?_⟩
  · simp at hi
  · decide +kernel

/-- A call inside another one, in a scope of the root. -/
def parted : Calls :=
  .call "t" "outer" (.scope 1 (.call "t" "inner" .done .done) .done) .done

/-- The inner call is no child of the outer one and begins a trace of its own. -/
theorem inner_call_parted :
    Fit 0 World.firstFlow [] tracing ∧ parted.Allowed 0 tracing.tracers ∧
      ∃ inner outer : SpanData,
        exportedTo (parted.act World.firstFlow [] tracing).2.telemetry 0 = [inner, outer] ∧
          inner.name = "inner" ∧ outer.name = "outer" ∧ inner.parent ≠ outer.context.spanId ∧
          inner.context.traceId ≠ outer.context.traceId := by
  have hTracer : ∃ t, Assoc.get? tracing.tracers "t" = some t ∧ t.provider = 0 := ⟨_, rfl, rfl⟩
  refine ⟨fit_tracing, ⟨hTracer, ⟨⟨hTracer, trivial, trivial⟩, trivial⟩, trivial⟩, ?_⟩
  have hBoth : (exportedTo (parted.act World.firstFlow [] tracing).2.telemetry 0).map
      (fun d => (d.name, d.context.spanId, d.context.traceId, d.parent)) =
        [("inner", .ofNat 2, .ofNat 2, .invalid), ("outer", .ofNat 1, .ofNat 1, .invalid)] := by
    decide +kernel
  obtain ⟨inner, others, hSpans, hInner, hOthers⟩ := List.map_eq_cons_iff.1 hBoth
  obtain ⟨outer, hOuters, hOuter⟩ := List.map_eq_singleton_iff.1 hOthers
  simp only [Prod.mk.injEq] at hInner hOuter
  obtain ⟨hInnerName, -, hInnerTrace, hInnerParent⟩ := hInner
  obtain ⟨hOuterName, hOuterId, hOuterTrace, -⟩ := hOuter
  refine ⟨inner, outer, by rw [hSpans, hOuters], hInnerName, hOuterName, ?_, ?_⟩
  · rw [hInnerParent, hOuterId]
    decide
  · rw [hInnerTrace, hOuterTrace]
    decide

end Script

end SpanFlow
