import SpanFlow.Proofs.Script.Action
import SpanFlow.Proofs.Session.Restoring

/-!
# Well-nested scopes

A program of scopes attaches contexts and closes the guards again, each scope inside or behind
another one. It may fail at any point. The failure leaves one scope after the other, so that the
guards that are open are closed from the youngest on, until it is caught or has left the program.

`Nest` is the syntax of such programs. `Nest.act` runs one as the scripts of this library do, by
`under`; `Nest.run` does the same and writes down, whenever a scope has begun and whenever a scope
inside another one has ended in either way, which context is then current.

## Main results

* `Nest.act_eq`: both ways of running a program lead to the same end.
* `Nest.restores_run`: a program of scopes restores, whether it returns or fails.
* `Nest.seesOwn_run`: every scope sees its own context.
* `nest_restores_current`: what holds of every program of scopes on every flow.
-/

namespace SpanFlow.Session

variable {β : Type}

/-- A program of scopes. -/
inductive Nest where
  /-- Returns. -/
  | done
  /-- Fails. -/
  | fail (message : String)
  /-- Attaches a context, runs a program under it, closes the guard and goes on. -/
  | scope (cx : Context) (body rest : Nest)
  /-- Runs a program, catches its failure and goes on. -/
  | attempt (body rest : Nest)

/-! ## Running with a record of what scopes see -/

/-- The context that a scope has as its own, and the one that is current when it looks. -/
structure Sighting where
  own : Context
  seen : Context

/-- How a program ran: what its scopes saw, how it failed, and the session at the end. -/
structure Ran (β : Type) where
  sightings : List Sighting
  failure? : Option String
  world : World β

namespace Ran

/-- Goes on behind a program that has not failed. -/
def andThen (first : Ran β) (next : World β → Ran β) : Ran β :=
  match first.failure? with
  | some _ => first
  | none =>
    let others := next first.world
    ⟨first.sightings ++ others.sightings, others.failure?, others.world⟩

/-- Catches a failure. -/
def caught (r : Ran β) : Ran β := { r with failure? := none }

/-- Runs a body under a context, in a scope whose own context is `own`. The guard is closed in
either case. -/
def within (flow : Nat) (own cx : Context) (body : World β → Ran β) (w : World β) : Ran β :=
  let opened := w.openGuard flow cx
  let inner := body opened.2
  let closed := inner.world.closeGuard flow opened.1
  ⟨⟨cx, opened.2.current flow⟩ :: (inner.sightings ++ [⟨own, closed.current flow⟩]),
    inner.failure?, closed⟩

end Ran

namespace Nest

/-- Runs a program on a flow, in a scope whose own context is `own`. -/
def run (flow : Nat) (own : Context) : Nest → World β → Ran β
  | done, w => ⟨[], none, w⟩
  | fail message, w => ⟨[], some message, w⟩
  | scope cx body rest, w =>
    (Ran.within flow own cx (body.run flow cx) w).andThen (rest.run flow own)
  | attempt body rest, w => (body.run flow own w).caught.andThen (rest.run flow own)

/-- A program as an action of a script. -/
def act (flow : Nat) : Nest → Script.Action Unit
  | done => pure ()
  | fail message => throw (.failed message)
  | scope cx body rest => do
    Script.under flow cx (body.act flow)
    rest.act flow
  | attempt body rest => do
    tryCatch (body.act flow) fun _ => pure ()
    rest.act flow

end Nest

/-! ## Both ways of running -/

/-- What an action comes to that runs like a program. -/
def Ran.result (r : Ran Script.Body) : Except Script.Halt Unit × Script.State :=
  match r.failure? with
  | none => (.ok (), r.world)
  | some message => (.error (.failed message), r.world)

theorem Ran.result_andThen {r : Ran Script.Body} {next : Script.State → Ran Script.Body}
    {act others : Script.Action Unit} {w : Script.State} (h : act w = r.result)
    (hOthers : ∀ w, others w = (next w).result) :
    (act >>= fun _ => others) w = (r.andThen next).result := by
  rw [Script.bind_apply, h]
  cases hFailure : r.failure? with
  | none =>
    simp only [result, andThen, hFailure]
    exact hOthers r.world
  | some message => simp [result, andThen, hFailure]

/-- Writing down what scopes see changes nothing. -/
theorem Nest.act_eq (n : Nest) (flow : Nat) (own : Context) (w : Script.State) :
    n.act flow w = (n.run flow own w).result := by
  induction n generalizing own w with
  | done => rfl
  | fail message => rfl
  | scope cx body rest ihBody ihRest =>
    have hScope : Script.under flow cx (body.act flow) w =
        (Ran.within flow own cx (body.run flow cx) w).result := by
      rw [Script.under_apply, ihBody cx]
      unfold Ran.result Ran.within
      cases (body.run flow cx (w.openGuard flow cx).2).failure? <;> rfl
    exact Ran.result_andThen hScope (ihRest own)
  | attempt body rest ihBody ihRest =>
    have hBody : tryCatch (body.act flow) (fun _ => pure ()) w =
        (body.run flow own w).caught.result := by
      rw [Script.tryCatch_apply, ihBody own]
      unfold Ran.result Ran.caught
      cases (body.run flow own w).failure? <;> rfl
    exact Ran.result_andThen hBody (ihRest own)

/-! ## What programs leave, and what their scopes see -/

/-- Every scope of a run finds its own context current when it looks. -/
def Ran.SeesOwn (r : Ran β) : Prop := ∀ s ∈ r.sightings, s.seen.same s.own = true

namespace Ran

variable {flow : Nat} {own cx : Context} {w : World β}

theorem restores_andThen {r : Ran β} {next : World β → Ran β} (h : Restores w r.world)
    (hNext : ∀ w, Restores w (next w).world) : Restores w (r.andThen next).world := by
  unfold andThen
  split
  · exact h
  · exact h.trans (hNext r.world)

theorem seesOwn_andThen {r : Ran β} {next : World β → Ran β} (h : r.SeesOwn)
    (hNext : (next r.world).SeesOwn) : (r.andThen next).SeesOwn := by
  unfold andThen
  split
  · exact h
  · intro s hs
    rcases List.mem_append.1 hs with hs | hs
    · exact h s hs
    · exact hNext s hs

/-- A scope finds its own context at its start, because it has just attached it, and the scope
around it finds its own at the end, because the scope has restored it. -/
theorem seesOwn_within {body : World β → Ran β} (hOwn : (w.current flow).same own = true)
    (hBody : Restores (w.openGuard flow cx).2 (body (w.openGuard flow cx).2).world)
    (hInner : (body (w.openGuard flow cx).2).SeesOwn) : (within flow own cx body w).SeesOwn := by
  intro s hs
  simp only [within, List.mem_cons, List.mem_append, List.not_mem_nil, or_false] at hs
  rcases hs with rfl | hs | rfl
  · exact World.current_openGuard w flow cx
  · exact hInner s hs
  · exact (restores_bracket hBody).same_current hOwn

end Ran

namespace Nest

/-- By induction on the program: the bracket lemma puts the scopes together. -/
theorem restores_run (n : Nest) (flow : Nat) (own : Context) (w : World β) :
    Restores w (n.run flow own w).world := by
  induction n generalizing own w with
  | done => exact .refl
  | fail message => exact .refl
  | scope cx body rest ihBody ihRest =>
    exact Ran.restores_andThen (restores_bracket (ihBody cx _)) (ihRest own)
  | attempt body rest ihBody ihRest =>
    exact Ran.restores_andThen (ihBody own w) (ihRest own)

/-- Every scope of a program sees its own context. -/
theorem seesOwn_run (n : Nest) (flow : Nat) {own : Context} {w : World β}
    (hOwn : (w.current flow).same own = true) : (n.run flow own w).SeesOwn := by
  induction n generalizing own w with
  | done => intro s hs; simp [run] at hs
  | fail message => intro s hs; simp [run] at hs
  | scope cx body rest ihBody ihRest =>
    have hBody := body.restores_run flow cx (w.openGuard flow cx).2
    have hScope := restores_bracket hBody
    refine Ran.seesOwn_andThen ?_ (ihRest ?_)
    · exact Ran.seesOwn_within hOwn hBody (ihBody (World.current_openGuard w flow cx))
    · exact hScope.same_current hOwn
  | attempt body rest ihBody ihRest =>
    have hBody := body.restores_run flow own w
    exact Ran.seesOwn_andThen (ihBody hOwn) (ihRest (hBody.same_current hOwn))

end Nest

/-- **Scopes restore.** Whatever a program of scopes does, and whether it returns or fails, the
context that was current before it is so again afterwards, and every scope of it has found its own
context current. No guard was closed out of turn. -/
theorem nest_restores_current (n : Nest) (flow : Nat) (w : Script.State) :
    let r := n.run flow (w.current flow) w
    n.act flow w = r.result ∧
      r.world.current flow = w.current flow ∧
      (∀ s ∈ r.sightings, s.seen.same s.own = true) ∧
      ∃ reports, r.world.telemetry.log = w.telemetry.log ++ reports ∧
        ∀ d ∈ reports, d ≠ .outOfOrderClose := by
  intro r
  have hRestores := n.restores_run flow (w.current flow) w
  exact ⟨n.act_eq flow (w.current flow) w, hRestores.current_eq flow,
    n.seesOwn_run flow (Context.same_refl _), hRestores.adds⟩

end SpanFlow.Session
