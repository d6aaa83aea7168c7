import SpanFlow.Proofs.Script.Persisting

/-!
# Plays of carried work

A play is one running of work that carries a context: a call, a poll, handing a body to an executor,
or taking the head of the queue. Around the body of a play there are things to be done before it and
things to be done after it. `Enclosure` is this: on which flow and from which session the body is
run, and what is made of the session that it leaves.

A play is just that, whatever runs its body: so says `Encloses`, an equation. What is to be said of
plays is then said of enclosures. They are put together like the actions are, from a few parts, and
`Around` says what each part does around a body.

## Main results

* `play_enclosed`: a play runs its body once, from the start of its enclosure, and then leaves it;
  the body starts with the context of the play, and what it leaves intact is intact after the play.
* `isSome_enclosure?`: this is so whenever there is a body to run.
* `perform_of_step?`, `callTogether_succ`, `runQueue_succ`: all work that carries contexts is run in
  plays.
-/

namespace SpanFlow.Script

open Session

variable {α γ : Type}

/-! ## Enclosures -/

/-- A body, the flow and the session that it is run on, and what is done when it is over, in
whatever way. -/
structure Enclosure where
  flow : Nat
  body : Body
  start : State
  leave : Except Halt Run × State → State

/-- How the body of an enclosure runs. -/
def Enclosure.outcome (e : Enclosure) (run : Runner) : Except Halt Run × State :=
  run e.flow e.body e.start

/-- An enclosure, as it depends on the session in which it is entered. -/
abbrev Enclosing := State → Enclosure

/-- An action does nothing but enter an enclosure, run the body and leave. The answer is made from
how the body ran; if it halts, so does the action. -/
def Encloses (answer : Run → α) (act : Runner → Action α) (w : State) (e : Enclosure) : Prop :=
  ∀ run, act run w = ((e.outcome run).1.map answer, e.leave (e.outcome run))

namespace Enclosure

/-- Runs a body as things are. -/
def bare (flow : Nat) (body : Body) : Enclosing := fun w => ⟨flow, body, w, Prod.snd⟩

/-- Runs a body while a context is attached to its flow. -/
def under (flow : Nat) (cx : Context) (body : Body) : Enclosing := fun w =>
  ⟨flow, body, (w.openGuard flow cx).2,
    fun ran => ran.2.closeGuard flow (w.openGuard flow cx).1⟩

/-- Under a context, or as things are if there is none. -/
def underOptional (flow : Nat) (cx? : Option Context) (body : Body) : Enclosing :=
  match cx? with
  | some cx => under flow cx body
  | none => bare flow body

/-- While something is kept alive. -/
def keeping (h : Holding) (inner : Enclosing) : Enclosing := fun w =>
  let e := inner (w.pin h).2
  { e with leave := fun ran => (e.leave ran).unpin (w.pin h).1 }

/-- On a new flow. -/
def onNewFlow (inner : Nat → Enclosing) : Enclosing := fun w =>
  let e := inner w.beginFlow.1 w.beginFlow.2
  { e with leave := fun ran => (e.leave ran).endFlow w.beginFlow.1 }

/-- After a change of the session. -/
def after (change : State → State) (inner : Enclosing) : Enclosing := fun w => inner (change w)

/-- Followed by a change of the session, if the body has returned. -/
def counting (change : State → State) (inner : Enclosing) : Enclosing := fun w =>
  let e := inner w
  { e with leave := fun ran =>
      match ran.1 with
      | .ok r => if r.failure?.isSome then e.leave ran else change (e.leave ran)
      | .error _ => e.leave ran }

end Enclosure

section Encloses

variable {w : State} {answer : Run → α} {act : Runner → Action α} {inner : Enclosing}

theorem encloses_bare (flow : Nat) (body : Body) (w : State) :
    Encloses id (fun run => run flow body) w (Enclosure.bare flow body w) := by
  intro run
  rw [Except.map_id]
  rfl

theorem encloses_under (flow : Nat) (cx : Context) (body : Body) (w : State) :
    Encloses id (fun run => under flow cx (run flow body)) w (Enclosure.under flow cx body w) := by
  intro run
  rw [Except.map_id]
  exact under_apply flow cx (run flow body) w

theorem encloses_underOptional (flow : Nat) (cx? : Option Context) (body : Body) (w : State) :
    Encloses id (fun run => underOptional flow cx? (run flow body)) w
      (Enclosure.underOptional flow cx? body w) := by
  cases cx? with
  | none => exact encloses_bare flow body w
  | some cx => exact encloses_under flow cx body w

theorem encloses_keeping {x : Holding} (h : Encloses answer act (w.pin x).2 (inner (w.pin x).2)) :
    Encloses answer (fun run => keeping x (act run)) w (Enclosure.keeping x inner w) := by
  intro run
  show ((act run (w.pin x).2).1, (act run (w.pin x).2).2.unpin (w.pin x).1) = _
  rw [h run]
  rfl

theorem encloses_onNewFlow {acts : Runner → Nat → Action α} {inner : Nat → Enclosing}
    (h : Encloses answer (fun run => acts run w.beginFlow.1) w.beginFlow.2
      (inner w.beginFlow.1 w.beginFlow.2)) :
    Encloses answer (fun run => onNewFlow (acts run)) w (Enclosure.onNewFlow inner w) := by
  intro run
  have hInner : acts run w.beginFlow.1 w.beginFlow.2 = _ := h run
  show ((acts run w.beginFlow.1 w.beginFlow.2).1,
    (acts run w.beginFlow.1 w.beginFlow.2).2.endFlow w.beginFlow.1) = _
  rw [hInner]
  rfl

theorem encloses_underApart (cx : Context) (body : Body) (w : State) :
    Encloses id (fun run => onNewFlow fun other => under other cx (run other body)) w
      (Enclosure.onNewFlow (fun other => Enclosure.under other cx body) w) :=
  encloses_onNewFlow (encloses_under _ cx body _)

theorem encloses_modify {acts : Runner → Unit → Action α} {change : State → State}
    (h : Encloses answer (fun run => acts run ()) (change w) (inner (change w))) :
    Encloses answer (fun run => modify change >>= acts run) w (Enclosure.after change inner w) := h

theorem encloses_named {m : State → Assoc String γ} {name : String} {x : γ} {e : Enclosure}
    {acts : Runner → γ → Action α} (hGet : Assoc.get? (m w) name = some x)
    (h : Encloses answer (fun run => acts run x) w e) :
    Encloses answer (fun run => named m name >>= acts run) w e := by
  intro run
  show (named m name >>= acts run) w = _
  rw [bind_apply, named_apply, hGet]
  exact h run

theorem Encloses.map {e : Enclosure} (h : Encloses answer act w e) (f : α → γ) :
    Encloses (f ∘ answer) (fun run => f <$> act run) w e := by
  intro run
  show (f <$> act run) w = _
  rw [map_eq_pure_bind, bind_apply, h run]
  rcases (e.outcome run).1 with _ | r <;> rfl

/-- A body that has returned is counted. -/
theorem encloses_counting {acts : Runner → Action Run} {change : State → State}
    {failed counted : Run → α} (h : Encloses id acts w (inner w)) :
    Encloses (fun ran => if ran.failure?.isSome then failed ran else counted ran)
      (fun run => acts run >>= fun ran =>
        if ran.failure?.isSome then pure (failed ran)
        else modify change >>= fun _ => pure (counted ran))
      w (Enclosure.counting change inner w) := by
  intro run
  show (acts run >>= _) w = _
  rw [bind_apply, h run]
  show _ = (Except.map _ ((inner w).outcome run).1,
    (Enclosure.counting change inner w).leave ((inner w).outcome run))
  rcases (inner w).outcome run with ⟨halt | r, w'⟩
  · rfl
  · show (if r.failure?.isSome then pure (failed r)
      else modify change >>= fun _ => pure (counted r) : Action α) ((inner w).leave (.ok r, w')) =
        (.ok (if r.failure?.isSome then failed r else counted r),
          if r.failure?.isSome then (inner w).leave (.ok r, w')
          else change ((inner w).leave (.ok r, w')))
    split <;> rfl

end Encloses

/-! ## What is around a body -/

/-- What is carried stays, and a sound session stays so. -/
structure Persists (w w' : State) : Prop where
  retains : Retains (fun _ => True) w w'
  orderly : Orderly w w'

instance : IsPreorder State Persists where
  refl _ := ⟨refl_of _ _, refl_of _ _⟩
  trans _ _ _ h h' := ⟨trans_of _ h.retains h'.retains, trans_of _ h.orderly h'.orderly⟩

theorem Tame.persists {w w' : State} (h : Tame w w') : Persists w w' :=
  ⟨h.retains, h.toStill.orderly⟩

theorem Beside.persists {w w' : State} (h : Beside w w') : Persists w w' :=
  ⟨.of_carrying_eq h.carrying_eq, h.orderly⟩

/-- Work may be used up, or something be kept alive, but scopes stay as they are. -/
structure Plain (w w' : State) : Prop extends Tame w w' where
  supply_le : w.supply ≤ w'.supply

theorem Quiet.plain {w w' : State} (h : Quiet w w') : Plain w w' := ⟨h.tame, h.supply_le⟩

theorem Takes.plain {w w' : State} (h : Takes w w') : Plain w w' :=
  ⟨h.tame, Nat.le_of_eq h.supply_eq.symm⟩

theorem Plain.intact {w w' : State} {bound : Nat} (h : Plain w w') : Intact bound w w' :=
  .of_scoping_eq h.supply_le h.scoping_eq

/-- What an enclosure does around its body. Before and behind the body, work keeps what it carries.
The body runs on the flow on which the enclosure is entered, or on a new one, and starts with a
context as the current one, if there is one to be attached. If it leaves everything intact, then so
does all of the enclosure. -/
structure Around (flow : Nat) (cx? : Option Context) (body : Body) (w : State) (e : Enclosure) :
    Prop where
  body_eq : e.body = body
  before : Persists w e.start
  behind : ∀ ran, Persists ran.2 (e.leave ran)
  flow_eq : e.flow = flow ∨ w.supply ≤ e.flow
  flow_lt : flow < w.supply → e.flow < e.start.supply
  starts : ∀ cx, cx? = some cx → (e.start.current e.flow).same cx = true
  intact : flow < w.supply → ∀ ran, Intact e.start.supply e.start ran.2 →
    Intact w.supply w (e.leave ran)

section Around

variable {flow : Nat} {cx? : Option Context} {body : Body} {w : State} {inner : Enclosing}

theorem around_bare (body : Body) : Around flow none body w (Enclosure.bare flow body w) where
  body_eq := rfl
  before := refl_of Persists w
  behind ran := refl_of Persists ran.2
  flow_eq := .inl rfl
  flow_lt := id
  starts _ h := nomatch h
  intact _ _ h := h

/-- The bracket lemma, for the body of a play. -/
theorem around_under (cx : Context) (body : Body) :
    Around flow (some cx) body w (Enclosure.under flow cx body w) where
  body_eq := rfl
  before := (beside_openGuard w flow cx).persists
  behind ran := (beside_closeGuard ran.2 flow _).persists
  flow_eq := .inl rfl
  flow_lt := Nat.lt_succ_of_lt
  starts _ h := Option.some.inj h ▸ World.current_openGuard w flow cx
  intact hFlow _ h := intact_bracket hFlow h

theorem around_underOptional (cx? : Option Context) (body : Body) :
    Around flow cx? body w (Enclosure.underOptional flow cx? body w) := by
  cases cx? with
  | none => exact around_bare body
  | some cx => exact around_under cx body

/-- Plain changes may be made before an enclosure is entered and when it has been left. -/
theorem Around.between {v : State} {e : Enclosure} {leave : Except Halt Run × State → State}
    (h : Around flow cx? body v e) (hEnter : Plain w v)
    (hLeave : ∀ ran, Plain (e.leave ran) (leave ran)) :
    Around flow cx? body w { e with leave := leave } where
  body_eq := h.body_eq
  before := trans_of Persists hEnter.toTame.persists h.before
  behind ran := trans_of Persists (h.behind ran) (hLeave ran).toTame.persists
  flow_eq := h.flow_eq.imp_right fun hNew => Nat.le_trans hEnter.supply_le hNew
  flow_lt hFlow := h.flow_lt (Nat.lt_of_lt_of_le hFlow hEnter.supply_le)
  starts := h.starts
  intact hFlow ran hRan := by
    have hInner := h.intact (Nat.lt_of_lt_of_le hFlow hEnter.supply_le) ran hRan
    exact (hEnter.intact.trans (hInner.mono hEnter.supply_le)).trans (hLeave ran).intact

theorem around_keeping {x : Holding} (h : Around flow cx? body (w.pin x).2 (inner (w.pin x).2)) :
    Around flow cx? body w (Enclosure.keeping x inner w) :=
  h.between (Quiet.plain ⟨Nat.le_succ _, rfl, rfl, rfl⟩) fun _ =>
    Quiet.plain ⟨Nat.le_refl _, rfl, rfl, rfl⟩

theorem around_after {change : State → State} (hChange : Takes w (change w))
    (h : Around flow cx? body (change w) (inner (change w))) :
    Around flow cx? body w (Enclosure.after change inner w) :=
  h.between hChange.plain fun _ => (refl_of Takes _).plain

theorem around_counting {change : State → State} (hChange : ∀ w, Takes w (change w))
    (h : Around flow cx? body w (inner w)) :
    Around flow cx? body w (Enclosure.counting change inner w) := by
  refine h.between (refl_of Takes w).plain fun ran => ?_
  rcases ran with ⟨halt | r, w'⟩
  · exact (refl_of Takes _).plain
  · show Plain _ (if r.failure?.isSome then _ else _)
    split
    · exact (refl_of Takes _).plain
    · exact (hChange _).plain

theorem around_onNewFlow {inner : Nat → Enclosing}
    (h : Around w.beginFlow.1 cx? body w.beginFlow.2 (inner w.beginFlow.1 w.beginFlow.2)) :
    Around flow cx? body w (Enclosure.onNewFlow inner w) where
  body_eq := h.body_eq
  before := trans_of Persists (beside_beginFlow w).persists h.before
  behind ran := trans_of Persists (h.behind ran) (beside_endFlow _ _).persists
  flow_eq := .inr <| h.flow_eq.elim (fun hSame => Nat.le_of_eq hSame.symm) Nat.le_of_succ_le
  flow_lt _ := h.flow_lt (Nat.lt_succ_self _)
  starts := h.starts
  intact _ ran hRan := by
    have hInner := (h.intact (Nat.lt_succ_self _) ran hRan).mono (Nat.le_succ w.supply)
    exact ((intact_beginFlow w).trans hInner).trans (intact_endFlow (Nat.le_refl _))

end Around

/-! ## Plays -/

/-- Calls work apart, on a new flow. -/
def callApart (run : Runner) (name : String) : Action Run :=
  onNewFlow fun other => callWork run other name

/-- Takes the head of the queue and runs it. -/
def dequeue (run : Runner) (flow : Nat) : Action Run := do
  match (← get).queue with
  | [] => return .none
  | (cx, body) :: rest =>
    modify fun w => { w with queue := rest }
    under flow cx (run flow body)

/-- One running of work that carries a context. -/
inductive Play where
  | call (work : String)
  | callApart (work : String)
  | execute (executor : String) (body : Body)
  | poll (future : String)
  | pollNext (stream : String)
  | callSink (sink : String) (call : SinkCall)
  | dequeue

namespace Play

/-- What a play does on a flow. -/
def act (run : Runner) (flow : Nat) : Play → Action Result
  | call work => .ran <$> callWork run flow work
  | callApart work => .ran <$> Script.callApart run work
  | execute executor body => .ran <$> Script.execute run flow executor body
  | poll future => Script.poll run flow future
  | pollNext stream => Script.pollNext run flow stream
  | callSink sink c => Script.callSink run flow sink c
  | dequeue => .ran <$> Script.dequeue run flow

/-- The piece of work that is run, unless it waits in the queue. -/
def piece? : Play → Option Piece
  | call name | callApart name => some (.work name)
  | execute name _ => some (.executor name)
  | poll name => some (.future name)
  | pollNext name => some (.stream name)
  | callSink name _ => some (.sink name)
  | dequeue => none

/-- The body that a play runs, if there is one. An executor may put the body into the queue instead
of running it, and a future may be done. -/
def body? (w : State) : Play → Option Body
  | call name | callApart name => (Assoc.get? w.works name).map Work.body
  | execute name body =>
    (Assoc.get? w.executors name).bind fun x => if x.mode = .queue then none else some body
  | poll name => (Assoc.get? w.futures name).bind fun x => x.rest.head?
  | pollNext name => (Assoc.get? w.streams name).bind fun x => x.rest.head?.map StreamItem.body
  | callSink name _ => (Assoc.get? w.sinks name).map Sink.body
  | dequeue => w.queue.head?.map Prod.snd

/-- The context that a play attaches to a flow. An executor that has none takes the current one. -/
def context? (flow : Nat) (w : State) : Play → Option Context
  | call name | callApart name => (Assoc.get? w.works name).map Work.context
  | execute name _ => (Assoc.get? w.executors name).map fun x => x.context?.getD (w.current flow)
  | poll name => (Assoc.get? w.futures name).bind Future.context?
  | pollNext name => (Assoc.get? w.streams name).bind Stream.context?
  | callSink name _ => (Assoc.get? w.sinks name).bind Sink.context?
  | dequeue => w.queue.head?.map Prod.fst

/-- How many pieces of work a play takes from the queue. -/
def takes : Play → Nat
  | dequeue => 1
  | _ => 0

/-- A session of which a play has taken what it runs from the queue. -/
def taken (p : Play) (w : State) : State := { w with queue := w.queue.drop p.takes }

/-- Around work that is called. -/
def ofWork (flow : Nat) (name : String) (work : Work Body) : Enclosing :=
  if work.once then
    Enclosure.after (fun w => { w with works := Assoc.erase w.works name })
      (Enclosure.under flow work.context work.body)
  else
    Enclosure.keeping (.context work.context) (Enclosure.under flow work.context work.body)

/-- Around a body that an executor runs at once, if it does so. -/
def ofExecutor? (flow : Nat) (cx : Context) (body : Body) : RunMode → Option Enclosing
  | .inline => some (Enclosure.keeping (.context cx) (Enclosure.under flow cx body))
  | .thread => some (Enclosure.keeping (.context cx) (Enclosure.onNewFlow fun other =>
      Enclosure.under other cx body))
  | .queue => none

/-- Around a step of a future. -/
def ofFuture (flow : Nat) (name : String) (context? : Option Context) (body : Body)
    (rest : List Body) : Enclosing :=
  Enclosure.after (modifyFuture name fun x => { x with rest := rest })
    (Enclosure.counting (modifyFuture name fun x => { x with finished := x.finished + 1 })
      (Enclosure.underOptional flow context? body))

/-- Around a step of a stream. One that is pending is not counted. -/
def ofStream (flow : Nat) (name : String) (context? : Option Context) (item : StreamItem Body)
    (rest : List (StreamItem Body)) : Enclosing :=
  Enclosure.after (modifyStream name fun x => { x with rest := rest })
    (if item.pending then Enclosure.underOptional flow context? item.body
     else Enclosure.counting (modifyStream name fun x => { x with yielded := x.yielded + 1 })
      (Enclosure.underOptional flow context? item.body))

/-- Around a call on a sink. -/
def ofSink (flow : Nat) (name : String) (x : Sink Body) (c : SinkCall) : Enclosing :=
  Enclosure.after
    (fun w => { w with sinks := Assoc.insert w.sinks name { x with sum := sumAfter x.sum c } })
    (Enclosure.underOptional flow x.context? x.body)

/-- The enclosure of a play, if there is a body that it runs. -/
def enclosure? (flow : Nat) (w : State) : Play → Option Enclosure
  | call name => (Assoc.get? w.works name).map fun x => ofWork flow name x w
  | callApart name =>
    (Assoc.get? w.works name).map fun x => Enclosure.onNewFlow (fun other => ofWork other name x) w
  | execute name body =>
    (Assoc.get? w.executors name).bind fun x =>
      (ofExecutor? flow (x.context?.getD (w.current flow)) body x.mode).map fun e => e w
  | poll name =>
    (Assoc.get? w.futures name).bind fun x =>
      match x.rest with
      | [] => none
      | body :: rest => some (ofFuture flow name x.context? body rest w)
  | pollNext name =>
    (Assoc.get? w.streams name).bind fun x =>
      match x.rest with
      | [] => none
      | item :: rest => some (ofStream flow name x.context? item rest w)
  | callSink name c => (Assoc.get? w.sinks name).map fun x => ofSink flow name x c w
  | dequeue =>
    match w.queue with
    | [] => none
    | (cx, body) :: rest =>
      some (Enclosure.after (fun w => { w with queue := rest }) (Enclosure.under flow cx body) w)

end Play

section Plays

variable {flow : Nat} {w : State}

theorem encloses_ofWork {name : String} {x : Work Body} (hx : Assoc.get? w.works name = some x) :
    Encloses id (fun run => callWork run flow name) w (Play.ofWork flow name x w) := by
  refine encloses_named hx ?_
  unfold Play.ofWork
  by_cases hOnce : x.once = true
  · simp only [hOnce, if_true]
    exact encloses_modify (encloses_under flow x.context x.body _)
  · simp only [hOnce]
    exact encloses_keeping (encloses_under flow x.context x.body _)

theorem encloses_ofExecutor {name : String} {x : Executor} {body : Body} {e : Enclosing}
    (hx : Assoc.get? w.executors name = some x)
    (h : Play.ofExecutor? flow (x.context?.getD (w.current flow)) body x.mode = some e) :
    Encloses id (fun run => execute run flow name body) w (e w) := by
  refine encloses_named hx ?_
  obtain ⟨context?, mode⟩ := x
  cases mode with
  | inline =>
    obtain rfl := Option.some.inj h
    cases context? <;> exact encloses_keeping (encloses_under flow _ body _)
  | thread =>
    obtain rfl := Option.some.inj h
    have hApart : ∀ cx, Encloses id (fun run => keeping (.context cx)
          (onNewFlow fun other => under other cx (run other body))) w
        (Enclosure.keeping (.context cx)
          (Enclosure.onNewFlow fun other => Enclosure.under other cx body) w) := fun cx =>
      encloses_keeping (encloses_underApart cx body _)
    cases context? with
    | none => exact hApart (w.current flow)
    | some cx => exact hApart cx
  | queue => cases h

theorem encloses_ofFuture {name : String} {x : Future Body} {body : Body} {rest : List Body}
    (hx : Assoc.get? w.futures name = some x) (hRest : x.rest = body :: rest) :
    Encloses (fun ran => if ran.failure?.isSome then Result.polled ran none
        else .polled ran (if rest.isEmpty then some (x.finished + 1) else none))
      (fun run => poll run flow name) w (Play.ofFuture flow name x.context? body rest w) := by
  refine encloses_named hx ?_
  rw [hRest]
  exact encloses_modify (encloses_counting (encloses_underOptional flow x.context? body _))

theorem encloses_ofStream {name : String} {x : Stream Body} {item : StreamItem Body}
    {rest : List (StreamItem Body)} (hx : Assoc.get? w.streams name = some x)
    (hRest : x.rest = item :: rest) :
    Encloses (fun ran => if ran.failure?.isSome || item.pending
        then Result.yielded ran .pending (hint rest).1 (hint rest).2
        else .yielded ran (.item (x.yielded + 1)) (hint rest).1 (hint rest).2)
      (fun run => pollNext run flow name) w (Play.ofStream flow name x.context? item rest w) := by
  refine encloses_named hx ?_
  rw [hRest]
  refine encloses_modify ?_
  cases item.pending with
  | true =>
    simp only [Bool.or_true, if_true]
    exact (encloses_underOptional flow x.context? item.body _).map _
  | false =>
    simp only [Bool.or_false, Bool.false_eq_true, if_false]
    exact encloses_counting (encloses_underOptional flow x.context? item.body _)

theorem dequeue_nil (run : Runner) (flow : Nat) (h : w.queue = []) :
    dequeue run flow w = (.ok .none, w) := by
  show (match w.queue with
    | [] => pure .none
    | (cx, body) :: rest => _ : Action Run) w = _
  rw [h]
  rfl

/-- The head of the queue is taken from it and run under its context. -/
theorem dequeue_cons (run : Runner) (flow : Nat) {cx : Context} {body : Body}
    {rest : List (Context × Body)} (h : w.queue = (cx, body) :: rest) :
    dequeue run flow w = under flow cx (run flow body) { w with queue := rest } := by
  show (match w.queue with
    | [] => pure .none
    | (cx, body) :: rest => _ : Action Run) w = _
  rw [h]
  rfl

theorem encloses_dequeue {cx : Context} {body : Body} {rest : List (Context × Body)}
    (h : w.queue = (cx, body) :: rest) :
    Encloses id (fun run => dequeue run flow) w
      (Enclosure.after (fun w => { w with queue := rest }) (Enclosure.under flow cx body) w) :=
  fun run => (dequeue_cons run flow h).trans (encloses_under flow cx body _ run)

/-- Around work that is called. -/
theorem around_ofWork (name : String) (x : Work Body) (w : State) :
    Around flow (some x.context) x.body w (Play.ofWork flow name x w) := by
  unfold Play.ofWork
  split
  · exact around_after (takes_erase_work name w) (around_under _ _)
  · exact around_keeping (around_under _ _)

theorem around_ofExecutor {cx : Context} {body : Body} {mode : RunMode} {e : Enclosing}
    (h : Play.ofExecutor? flow cx body mode = some e) (w : State) :
    Around flow (some cx) body w (e w) := by
  cases mode with
  | inline =>
    obtain rfl := Option.some.inj h
    exact around_keeping (around_under cx body)
  | thread =>
    obtain rfl := Option.some.inj h
    exact around_keeping (around_onNewFlow (around_under cx body))
  | queue => cases h

theorem around_ofFuture (name : String) (cx? : Option Context) (body : Body) (rest : List Body) :
    Around flow cx? body w (Play.ofFuture flow name cx? body rest w) := by
  refine around_after (takes_modifyFuture name (f := fun x => { x with rest := rest })
    (fun _ => rfl) w) ?_
  exact around_counting
    (takes_modifyFuture name (f := fun x => { x with finished := x.finished + 1 }) fun _ => rfl)
    (around_underOptional cx? body)

theorem around_ofStream (name : String) (cx? : Option Context) (item : StreamItem Body)
    (rest : List (StreamItem Body)) :
    Around flow cx? item.body w (Play.ofStream flow name cx? item rest w) := by
  refine around_after (takes_modifyStream name (f := fun x => { x with rest := rest })
    (fun _ => rfl) w) ?_
  split
  · exact around_underOptional cx? item.body
  · exact around_counting
      (takes_modifyStream name (f := fun x => { x with yielded := x.yielded + 1 }) fun _ => rfl)
      (around_underOptional cx? item.body)

/-- What the enclosure of a play has to do with the play. -/
structure Play.IsEnclosedBy (p : Play) (flow : Nat) (w : State) (e : Enclosure) : Prop where
  encloses : ∃ answer, Encloses answer (fun run => p.act run flow) w e
  around : ∃ body, p.body? w = some body ∧ Around flow (p.context? flow w) body (p.taken w) e

/-- **Plays enclose.** Whatever runs its body, a play runs it once, from the start of its enclosure,
and then leaves the enclosure, however the body has ended. -/
theorem play_enclosed {p : Play} {e : Enclosure} (h : p.enclosure? flow w = some e) :
    p.IsEnclosedBy flow w e := by
  cases p with
  | call name =>
    obtain ⟨x, hx, rfl⟩ := Option.map_eq_some_iff.1 h
    refine ⟨⟨_, (encloses_ofWork hx).map _⟩, x.body, by rw [Play.body?, hx]; rfl, ?_⟩
    rw [Play.context?, hx]
    exact around_ofWork name x w
  | callApart name =>
    obtain ⟨x, hx, rfl⟩ := Option.map_eq_some_iff.1 h
    have hx' : Assoc.get? w.beginFlow.2.works name = some x := hx
    refine ⟨⟨_, (encloses_onNewFlow (encloses_ofWork hx')).map _⟩, x.body,
      by rw [Play.body?, hx]; rfl, ?_⟩
    rw [Play.context?, hx]
    exact around_onNewFlow (around_ofWork name x _)
  | execute name body =>
    obtain ⟨x, hx, hMode⟩ := Option.bind_eq_some_iff.1 h
    obtain ⟨inner, hInner, rfl⟩ := Option.map_eq_some_iff.1 hMode
    have hNotQueue : x.mode ≠ .queue := by
      intro hQueue
      rw [hQueue] at hInner
      cases hInner
    refine ⟨⟨_, (encloses_ofExecutor hx hInner).map _⟩, body, ?_, ?_⟩
    · rw [Play.body?, hx, Option.bind_some, if_neg hNotQueue]
    · rw [Play.context?, hx]
      exact around_ofExecutor hInner w
  | poll name =>
    obtain ⟨x, hx, hRest⟩ := Option.bind_eq_some_iff.1 h
    split at hRest
    · cases hRest
    · rename_i body rest hCons
      obtain rfl := Option.some.inj hRest
      refine ⟨⟨_, encloses_ofFuture hx hCons⟩, body, ?_, ?_⟩
      · rw [Play.body?, hx, Option.bind_some, hCons, List.head?_cons]
      · rw [Play.context?, hx]
        exact around_ofFuture name x.context? body rest
  | pollNext name =>
    obtain ⟨x, hx, hRest⟩ := Option.bind_eq_some_iff.1 h
    split at hRest
    · cases hRest
    · rename_i item rest hCons
      obtain rfl := Option.some.inj hRest
      refine ⟨⟨_, encloses_ofStream hx hCons⟩, item.body, ?_, ?_⟩
      · rw [Play.body?, hx, Option.bind_some, hCons, List.head?_cons, Option.map_some]
      · rw [Play.context?, hx]
        exact around_ofStream name x.context? item rest
  | callSink name call =>
    obtain ⟨x, hx, rfl⟩ := Option.map_eq_some_iff.1 h
    refine ⟨⟨_, encloses_named hx (encloses_modify
      ((encloses_underOptional flow x.context? x.body _).map _))⟩, x.body,
      by rw [Play.body?, hx]; rfl, ?_⟩
    rw [Play.context?, hx]
    exact around_after (takes_sum hx _) (around_underOptional _ _)
  | dequeue =>
    rcases hQueue : w.queue with _ | ⟨⟨cx, body⟩, rest⟩ <;> rw [Play.enclosure?, hQueue] at h
    · cases h
    · obtain rfl := Option.some.inj h
      refine ⟨⟨_, (encloses_dequeue hQueue).map _⟩, body, by rw [Play.body?, hQueue]; rfl, ?_⟩
      rw [Play.context?, Play.taken, hQueue]
      exact around_under cx body

/-- A play that has a body to run has an enclosure. -/
theorem isSome_enclosure? (p : Play) (flow : Nat) (w : State) :
    (p.enclosure? flow w).isSome = (p.body? w).isSome := by
  cases p with
  | call name | callApart name | callSink name call =>
    simp only [Play.enclosure?, Play.body?, Option.isSome_map]
  | execute name body =>
    simp only [Play.enclosure?, Play.body?]
    rcases Assoc.get? w.executors name with _ | ⟨context?, _ | _ | _⟩ <;> rfl
  | poll name =>
    simp only [Play.enclosure?, Play.body?]
    rcases Assoc.get? w.futures name with _ | ⟨context?, _ | _, finished⟩ <;> rfl
  | pollNext name =>
    simp only [Play.enclosure?, Play.body?]
    rcases Assoc.get? w.streams name with _ | ⟨context?, _ | _, yielded⟩ <;> rfl
  | dequeue =>
    simp only [Play.enclosure?, Play.body?]
    rcases w.queue with _ | ⟨⟨cx, body⟩, rest⟩ <;> rfl

/-- A piece of work that carries a context is run under it. -/
theorem context?_of_carried {p : Play} {k : Piece} {cx : Context} (hPiece : p.piece? = some k)
    (h : w.carried? k = some (some cx)) : p.context? flow w = some cx := by
  cases p with
  | dequeue => cases hPiece
  | call name | callApart name =>
    cases hPiece
    obtain ⟨x, hx, hEq⟩ := Option.map_eq_some_iff.1 h
    rw [Play.context?, hx, ← Option.some.inj hEq]
    rfl
  | execute name body =>
    cases hPiece
    obtain ⟨x, hx, hEq⟩ := Option.map_eq_some_iff.1 h
    rw [Play.context?, hx, Option.map_some, hEq]
    rfl
  | poll name | pollNext name | callSink name call =>
    cases hPiece
    obtain ⟨x, hx, hEq⟩ := Option.map_eq_some_iff.1 h
    rw [Play.context?, hx, Option.bind_some, hEq]

/-- What is not there has no body. -/
theorem body?_of_carried_eq_none {p : Play} {k : Piece} (hPiece : p.piece? = some k)
    (h : w.carried? k = none) : p.body? w = none := by
  cases p with
  | dequeue => cases hPiece
  | call name | callApart name | execute name body | poll name | pollNext name
  | callSink name call =>
    cases hPiece
    rw [Play.body?, Option.map_eq_none_iff.1 h]
    rfl

/-! ### Plays without a body -/

theorem state_map {act : Action α} (f : α → γ) (w : State) : ((f <$> act) w).2 = (act w).2 := by
  rw [map_eq_pure_bind, bind_apply]
  rcases act w with ⟨_ | a, w'⟩ <;> rfl

theorem state_named_of_none {m : State → Assoc String α} {name : String} {next : α → Action γ}
    (h : Assoc.get? (m w) name = none) : ((named m name >>= next) w).2 = w := by
  rw [bind_apply, named_apply, h]

theorem intact_underOptional (hFlow : flow < w.supply) (cx? : Option Context) (a : α) :
    Intact w.supply w (underOptional flow cx? (pure a) w).2 := by
  cases cx? with
  | none => exact .refl
  | some cx => exact intact_bracket hFlow .refl

/-- What is handed to an executor that works later goes into the queue, with the context that it is
to be run under. -/
theorem execute_queue {name : String} {x : Executor} (h : Assoc.get? w.executors name = some x)
    (hMode : x.mode = .queue) (run : Runner) (body : Body) :
    execute run flow name body w =
      (.ok .none, { w with queue := w.queue ++ [(x.context?.getD (w.current flow), body)] }) := by
  obtain ⟨context?, mode⟩ := x
  obtain rfl : mode = .queue := hMode
  unfold execute
  rw [bind_apply, named_apply, h]
  cases context? <;> rfl

/-- A play that has no body to run leaves everything intact. A future or a stream that is done may
still be asked, under its context. -/
theorem intact_of_no_body {p : Play} (hFlow : flow < w.supply) (h : p.body? w = none)
    (run : Runner) :
    Intact w.supply w (p.act run flow w).2 := by
  cases p with
  | call name =>
    rw [Play.act, state_map, callWork, state_named_of_none (Option.map_eq_none_iff.1 h)]
    exact .refl
  | callApart name =>
    have hNone : Assoc.get? w.beginFlow.2.works name = none := Option.map_eq_none_iff.1 h
    rw [Play.act, state_map]
    show Intact _ w ((callWork run w.beginFlow.1 name w.beginFlow.2).2.endFlow w.beginFlow.1)
    rw [callWork, state_named_of_none hNone]
    exact (intact_beginFlow w).trans (intact_endFlow (Nat.le_refl _))
  | execute name body =>
    rw [Play.act, state_map]
    rcases hx : Assoc.get? w.executors name with _ | x
    · rw [execute, state_named_of_none hx]
      exact .refl
    · have hMode : x.mode = .queue := by
        rw [Play.body?, hx, Option.bind_some] at h
        by_contra hNot
        rw [if_neg hNot] at h
        cases h
      rw [execute_queue hx hMode]
      exact (takes_enqueue _ w).plain.intact
  | poll name =>
    rcases hx : Assoc.get? w.futures name with _ | x
    · rw [Play.act, poll, state_named_of_none hx]
      exact .refl
    · rw [Play.body?, hx, Option.bind_some, List.head?_eq_none_iff] at h
      rw [Play.act, poll, bind_apply, named_apply, hx]
      dsimp only
      rw [h]
      show Intact _ w ((underOptional flow x.context? (pure x.finished) >>= fun done =>
        pure (Result.polled .none (some done)) : Action Result) w).2
      rw [← map_eq_pure_bind, state_map]
      exact intact_underOptional hFlow x.context? _
  | pollNext name =>
    rcases hx : Assoc.get? w.streams name with _ | x
    · rw [Play.act, pollNext, state_named_of_none hx]
      exact .refl
    · rw [Play.body?, hx, Option.bind_some, Option.map_eq_none_iff, List.head?_eq_none_iff] at h
      rw [Play.act, pollNext, bind_apply, named_apply, hx]
      dsimp only
      rw [h]
      show Intact _ w ((underOptional flow x.context? (pure ()) >>= fun _ =>
        pure (Result.yielded .none .done 0 0) : Action Result) w).2
      rw [← map_eq_pure_bind, state_map]
      exact intact_underOptional hFlow x.context? _
  | callSink name call =>
    rw [Play.act, callSink, state_named_of_none (Option.map_eq_none_iff.1 h)]
    exact .refl
  | dequeue =>
    rw [Play.body?, Option.map_eq_none_iff, List.head?_eq_none_iff] at h
    rw [Play.act, state_map, dequeue_nil run flow h]
    exact .refl

/-! ### Steps that are plays -/

/-- The step that is a play by itself, if there is one. -/
def Play.step? : Play → Option Step
  | call work => some (.call work)
  | execute executor body => some (.execute executor body)
  | poll future => some (.poll future)
  | pollNext stream => some (.pollNext stream)
  | callSink sink c => some (.callSink sink c)
  | callApart _ | dequeue => none

/-- A step that runs carried work is the act of its play. -/
theorem perform_of_step? {p : Play} {s : Step} (h : p.step? = some s)
    (run : Runner) (fuel flow : Nat) :
    perform run fuel flow s = p.act run flow := by
  cases p with
  | callApart | dequeue => cases h
  | call | execute =>
    cases h
    exact (map_eq_pure_bind ..).symm
  | poll | pollNext | callSink =>
    cases h
    rfl

/-- Work is called together by being called apart again and again. -/
theorem callTogether_succ (run : Runner) (name : String) (count : Nat) :
    callTogether run name (count + 1) = (do
      let first ← callApart run name
      let others ← callTogether run name count
      return first :: others) := rfl

/-- A queue is run by taking its head again and again. -/
theorem runQueue_succ (run : Runner) (flow fuel : Nat) (h : w.queue ≠ []) :
    runQueue run flow (fuel + 1) w = (do
      let first ← dequeue run flow
      let others ← runQueue run flow fuel
      return first :: others : Action (List Run)) w := by
  obtain ⟨⟨cx, body⟩, rest, hQueue⟩ := List.exists_cons_of_ne_nil h
  rw [runQueue_cons run flow fuel hQueue, bind_apply, bind_apply, dequeue_cons run flow hQueue]

end Plays

end SpanFlow.Script
