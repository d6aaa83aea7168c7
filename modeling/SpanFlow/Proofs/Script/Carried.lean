import SpanFlow.Proofs.Script.Plays

/-!
# Carrying contexts into work

Whatever happens between the making of some work and its running, the body of the work starts with
the context that was captured, and when it is over the context from before is current again, on the
flow that it ran on and on every other.

`Meanwhile` is what may happen in between: steps and parts of steps, on any flow, also inside of
other work. `Arises` is said of the sessions that there can be. Both allow more than what scripts
do: as nothing that has to do with scopes matters here, guards may be opened and closed in any
order.

## Main results

* `Meanwhile.awaits`: what is carried stays with its work, also in the queue.
* `Arises.sound`: every session is sound.
* `carries_of_context`: a play carries its context into its body.
* `carried_work`: work is run under the context that it has captured.
-/

namespace SpanFlow.Script

open Session

/-! ## What happens meanwhile -/

/-- What happens in a session while some pieces of work are there, with the number of pieces that
have been taken from the queue: steps that do not make these pieces anew, nor do the bodies that
they run; the beginning and the end of plays, so that bodies may be followed step by step; and any
change that has nothing to do with work. -/
inductive Meanwhile (pieces : List Piece) (w : State) : Nat → State → Prop where
  | start : Meanwhile pieces w 0 w
  | step {n : Nat} {w' : State} (fuel flow : Nat) (s : Step) : Meanwhile pieces w n w' →
    s.spares pieces = true →
    performHeeding (sparing pieces) fuel flow s w' = performWith fuel flow s w' →
    Meanwhile pieces w n (performWith fuel flow s w').2
  | enter {n : Nat} {w' : State} {e : Enclosure} (p : Play) (flow : Nat) : Meanwhile pieces w n w' →
    p.enclosure? flow w' = some e → Meanwhile pieces w (n + p.takes) e.start
  | leave {n : Nat} {w' v : State} {e : Enclosure} (p : Play) (flow : Nat)
    (ended : Except Halt Run) : Meanwhile pieces w n w' → p.enclosure? flow v = some e →
    Meanwhile pieces w n (e.leave (ended, w'))
  | beside {n : Nat} {w' w'' : State} : Meanwhile pieces w n w' → Beside w' w'' →
    Meanwhile pieces w n w''

/-- The sessions that there can be: what is left of a new session by any steps, also of one that has
got halfway through a step. -/
inductive Arises : State → Prop where
  | initial (byRequest : Bool) (environment : Surroundings) :
    Arises (.initial byRequest environment)
  | step {w : State} (fuel flow : Nat) (s : Step) : Arises w →
    Arises (performWith fuel flow s w).2
  | enter {w : State} {e : Enclosure} (p : Play) (flow : Nat) : Arises w →
    p.enclosure? flow w = some e → Arises e.start
  | leave {w v : State} {e : Enclosure} (p : Play) (flow : Nat) (ended : Except Halt Run) :
    Arises w → p.enclosure? flow v = some e → Arises (e.leave (ended, w))
  | beside {w w' : State} : Arises w → Beside w w' → Arises w'

section Enclosures

variable {w : State} {p : Play} {flow : Nat} {e : Enclosure}

theorem Sound.taken (hw : Sound w) (p : Play) : Sound (p.taken w) :=
  ⟨hw.numbered.congr rfl, hw.guards.mono rfl (Nat.le_refl _)⟩

theorem orderly_enter (h : p.enclosure? flow w = some e) : Orderly w e.start := by
  obtain ⟨body, -, hAround⟩ := (play_enclosed h).around
  exact fun hw => hAround.before.orderly (hw.taken p)

theorem persists_leave (h : p.enclosure? flow w = some e) (ran : Except Halt Run × State) :
    Persists ran.2 (e.leave ran) := by
  obtain ⟨body, -, hAround⟩ := (play_enclosed h).around
  exact hAround.behind ran

end Enclosures

/-- Pieces of work carry what they carried or are gone, and the queue of before has only got shorter
by the first `n` pieces in it. -/
structure Awaits (pieces : List Piece) (w : State) (n : Nat) (w' : State) : Prop where
  carried : ∀ k ∈ pieces, w'.carried? k = w.carried? k ∨ w'.carried? k = none
  queue : ∃ added, w'.queue = w.queue.drop n ++ added

namespace Awaits

variable {pieces : List Piece} {w w' w'' : State} {n : Nat}

theorem retains (h : Awaits pieces w n w') (hNext : Retains (· ∈ pieces) w' w'') :
    Awaits pieces w n w'' where
  carried k hk := by
    rcases hNext.carried k hk with hSame | hNone
    · rw [hSame]
      exact h.carried k hk
    · exact .inr hNone
  queue := by
    obtain ⟨added, hQueue⟩ := h.queue
    obtain ⟨more, hMore⟩ := hNext.queue
    exact ⟨added ++ more, by rw [← hMore, hQueue, List.append_assoc]⟩

theorem taken (h : Awaits pieces w n w') (p : Play) :
    Awaits pieces w (n + p.takes) (p.taken w') where
  carried k hk := by
    have hSame : (p.taken w').carried? k = w'.carried? k := by cases k <;> rfl
    rw [hSame]
    exact h.carried k hk
  queue := by
    obtain ⟨added, hQueue⟩ := h.queue
    refine ⟨added.drop (p.takes - (w.queue.drop n).length), ?_⟩
    rw [Play.taken, hQueue, List.drop_append, List.drop_drop]

end Awaits

namespace Meanwhile

variable {pieces : List Piece} {w w' : State} {n : Nat}

theorem orderly (h : Meanwhile pieces w n w') : Orderly w w' := by
  induction h with
  | start => exact refl_of Orderly w
  | step fuel flow s _ _ _ ih => exact ih.trans (orderly_performWith fuel flow s _)
  | enter p flow _ hEncl ih => exact ih.trans (orderly_enter hEncl)
  | leave p flow ended _ hEncl ih => exact ih.trans (persists_leave hEncl (ended, _)).orderly
  | beside _ hBeside ih => exact ih.trans hBeside.orderly

/-- Whatever happens between the making of some work and its running, it carries what it carried. -/
theorem awaits (h : Meanwhile pieces w n w') : Awaits pieces w n w' := by
  have hAll : ∀ {v v' : State}, Persists v v' → Retains (· ∈ pieces) v v' := fun h =>
    h.retains.mono fun _ _ => trivial
  induction h with
  | start => exact ⟨fun _ _ => .inl rfl, [], (List.append_nil _).symm⟩
  | step fuel flow s _ hSpares hHeeds ih =>
    exact ih.retains (hHeeds ▸ retains_performHeeding fuel flow hSpares _)
  | enter p flow _ hEncl ih =>
    obtain ⟨body, -, hAround⟩ := (play_enclosed hEncl).around
    exact (ih.taken p).retains (hAll hAround.before)
  | leave p flow ended _ hEncl ih => exact ih.retains (hAll (persists_leave hEncl (ended, _)))
  | beside _ hBeside ih => exact ih.retains (hAll hBeside.persists)

end Meanwhile

/-- However a session has arisen, it is sound. -/
theorem Arises.sound {w : State} (h : Arises w) : Sound w := by
  induction h with
  | initial byRequest environment => exact sound_initial byRequest environment
  | step fuel flow s _ ih => exact (orderly_performWith fuel flow s _ ih).1
  | enter p flow _ hEncl ih => exact (orderly_enter hEncl ih).1
  | leave p flow ended _ hEncl ih => exact ((persists_leave hEncl (ended, _)).orderly ih).1
  | beside _ hBeside ih => exact (hBeside.orderly ih).1

/-! ## Carrying a context -/

/-- A play carries a context into a body: it does nothing but run the body, once, and what is around
it; the body is run on the flow of the play or on a new one, and starts with the context as the
current one; and if the body is well nested, then whether it returns or not every flow that there
was has the current context that it had. -/
structure Carries (cx : Context) (p : Play) (on : Nat) (w : State) (body : Body) (e : Enclosure) :
    Prop where
  enclosure : p.enclosure? on w = some e
  encloses : ∃ answer, Encloses answer (fun run => p.act run on) w e
  body_eq : e.body = body
  flow_eq : e.flow = on ∨ w.supply ≤ e.flow
  starts : (e.start.current e.flow).same cx = true
  restores : ∀ fuel, WellNested fuel e.flow body e.start → ∀ other < w.supply,
    (p.act (runBody (performWith fuel)) on w).2.current other = w.current other

/-- A play carries its context into its body. -/
theorem carries_of_context {p : Play} {on : Nat} {w : State} {body : Body} {cx : Context}
    (hw : Sound w) (hOn : on < w.supply) (hBody : p.body? w = some body)
    (hContext : p.context? on w = some cx) : ∃ e, Carries cx p on w body e := by
  obtain ⟨e, hEncl⟩ : ∃ e, p.enclosure? on w = some e := by
    rw [← Option.isSome_iff_exists, isSome_enclosure?, hBody]
    rfl
  obtain ⟨⟨answer, hRun⟩, other, hOther, hAround⟩ := play_enclosed hEncl
  obtain rfl : other = body := Option.some.inj (hOther.symm.trans hBody)
  refine ⟨e, hEncl, ⟨answer, hRun⟩, hAround.body_eq, hAround.flow_eq,
    hAround.starts cx hContext, ?_⟩
  intro fuel hNested flow hFlow
  have hStart : Sound e.start := (orderly_enter hEncl hw).1
  have hInside : Intact e.start.supply e.start (e.outcome (runBody (performWith fuel))).2 := by
    rw [← hAround.body_eq] at hNested
    exact intact_of_wellNested hNested hStart.numbered (hStart.hasFlow (hAround.flow_lt hOn))
  have hAll := hAround.intact hOn _ hInside
  show ((fun run => p.act run on) (runBody (performWith fuel)) w).2.current flow = _
  rw [hRun]
  exact hAll.current_eq flow hFlow

/-- What is handed to an executor is to run under the context of the executor, or under the current
one if it has none. -/
theorem context?_execute {flow : Nat} {w : State} {name : String} {x : Executor}
    (h : Assoc.get? w.executors name = some x) (body : Body) :
    (Play.execute name body).context? flow w = some (x.context?.getD (w.current flow)) := by
  rw [Play.context?, h, Option.map_some]

/-- **Work is run under the context that it has captured.** A step that captures a context for a
piece of work makes the piece. Whatever happens then, the piece carries that context as long as it
is there, and every play of it carries it into the body that it runs, on every flow, time and again.
What is handed to an executor is run under the context of the executor, or under the one that is
current on this flow at this moment; if it has to wait in the queue, it is run under that context
when its turn has come. And where there is no body to run, no current context changes. -/
theorem carried_work {w : State} (hw : Arises w) :
    (∀ fuel flow s k cx, s.capture? flow w = some (k, cx) →
      ∃ r made, performWith (fuel + 1) flow s w = (.ok r, made) ∧
        ∀ n later, Meanwhile [k] made n later →
          (later.carried? k = some (some cx) ∨ later.carried? k = none) ∧
            ∀ p on body, p.piece? = some k → on < later.supply → p.body? later = some body →
              ∃ e, Carries cx p on later body e) ∧
    (∀ flow name x body, flow < w.supply → Assoc.get? w.executors name = some x →
      (x.mode ≠ .queue →
        ∃ e, Carries (x.context?.getD (w.current flow)) (.execute name body) flow w body e) ∧
      (x.mode = .queue → ∀ fuel, ∃ submitted,
        performWith (fuel + 1) flow (.execute name body) w = (.ok (.ran .none), submitted) ∧
          ∀ later, Meanwhile [] submitted w.queue.length later → ∀ on < later.supply,
            ∃ e, Carries (x.context?.getD (w.current flow)) .dequeue on later body e)) ∧
    ∀ (p : Play) on, on < w.supply → p.body? w = none → ∀ run, ∀ other < w.supply,
      (p.act run on w).2.current other = w.current other := by
  have hSound := hw.sound
  refine ⟨fun fuel flow s k cx hCapture => ?_, fun flow name x body hFlow hx =>
    ⟨fun hMode => ?_, fun hMode fuel => ?_⟩, fun p on hOn hNone run other hOther =>
    (intact_of_no_body hOn hNone run).current_eq other hOther⟩
  · obtain ⟨r, made, hRan, hCarried⟩ :=
      perform_capture (runBody (performWith fuel)) fuel flow w hCapture
    have hMade : Orderly w made := by
      have hStep := orderly_performWith (fuel + 1) flow s w
      rwa [performWith, hRan] at hStep
    refine ⟨r, made, hRan, fun n later hLater => ?_⟩
    have hKept := hLater.awaits.carried k (List.mem_singleton_self k)
    rw [hCarried] at hKept
    refine ⟨hKept, fun p on body hPiece hOn hBody => ?_⟩
    rcases hKept with hThere | hGone
    · exact carries_of_context (hLater.orderly (hMade hSound).1).1 hOn hBody
        (context?_of_carried hPiece hThere)
    · rw [body?_of_carried_eq_none hPiece hGone] at hBody
      cases hBody
  · refine carries_of_context hSound hFlow ?_ (context?_execute hx body)
    rw [Play.body?, hx, Option.bind_some, if_neg hMode]
  · refine ⟨{ w with queue := w.queue ++ [(x.context?.getD (w.current flow), body)] }, ?_,
      fun later hLater on hOn => ?_⟩
    · rw [performWith, perform_of_step? (p := .execute name body) rfl]
      show (Result.ran <$> execute _ flow name body) w = _
      rw [map_eq_pure_bind, bind_apply, execute_queue hx hMode]
      rfl
    · -- All that was in the queue before has been taken, so the body is at its head.
      obtain ⟨added, hQueue⟩ := hLater.awaits.queue
      rw [List.drop_left] at hQueue
      have hNow := hLater.orderly
        ⟨hSound.numbered.congr rfl, hSound.guards.mono rfl (Nat.le_refl _)⟩
      refine carries_of_context hNow.1 hOn ?_ ?_
      · rw [Play.body?, hQueue]
        rfl
      · rw [Play.context?, hQueue]
        rfl

/-- A session in which a context has been attached. -/
def attachedSession : State :=
  [.key "k" "k", .bind "a" none "k" "x", .attach "a" "g"].foldl
    (fun w s => (performWith 1 World.firstFlow s w).2) (.initial false .plain)

/-- A body that leaves a guard open and fails. -/
def failingBody : Body := [.attach "a" "h", .fail "no"]

/-- The session in which work has been wrapped and the context been closed again. -/
def closedSession : State :=
  [.wrap "job" none failingBody false, .close "g"].foldl
    (fun w s => (performWith 1 World.firstFlow s w).2) attachedSession

/-- The work is run under the context that was current when it was wrapped, and leaves the one that
is current when it is called. -/
theorem carried_work_closed :
    ∃ e, Carries (attachedSession.current 1) (.call "job") 1 closedSession failingBody e ∧
      (closedSession.current 1).same (attachedSession.current 1) = false ∧
      ((Play.call "job").act (runBody (performWith 1)) 1 closedSession).2.current 1 =
        closedSession.current 1 := by
  have hArises : Arises attachedSession :=
    (((Arises.initial false .plain).step 1 1 _).step 1 1 _).step 1 1 _
  obtain ⟨r, made, hRan, hLater⟩ := (carried_work hArises).1 0 1
    (.wrap "job" none failingBody false) (.work "job") (attachedSession.current 1) rfl
  obtain rfl : made = _ := (congrArg Prod.snd hRan).symm
  obtain ⟨-, hPlays⟩ := hLater 0 closedSession (.step 1 1 (.close "g") .start rfl rfl)
  obtain ⟨e, hCarries⟩ := hPlays (.call "job") 1 failingBody rfl (by decide) rfl
  refine ⟨e, hCarries, rfl, hCarries.restores 1 (heeds_of_mem ?_ ?_ e.start) 1 (by decide)⟩
  · intro s hs found w
    rcases List.mem_pair.1 hs with rfl | rfl <;> rfl
  · intro s hs
    rcases List.mem_pair.1 hs with rfl | rfl <;> rfl

end SpanFlow.Script
