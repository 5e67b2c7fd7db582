import LogCourier.Proofs.Context.Guard
import LogCourier.Proofs.Exporter.Timeouts

/-!
# Uploads are work in a context

An upload of a client is a piece of work of its own, done in the context of the upload: what it
has to do with the collector is in `LogsClient.work`, and the context is obeyed by
`Guarded.look`. Looking at an upload is looking at this work in its context (`guarded_look`),
whichever branch of the wait comes first, so what a context promises of any work it promises of
uploads.

`guarded_work_obeys_its_context` puts this beside what waiting for a context and asking it have in
common.
-/

namespace LogCourier

/-- How far the work of an upload got. -/
inductive Sending where
  | unsent (batch : Logs.Batch)
  | sent (giveUp : Instant)

/-! ## HTTP -/

namespace Http

/-- A request waits for its answer, for so long. -/
def Client.listen (client : Client) (giveUp : Instant) (g : Glance) :
    Option Answer → Progress Sending Unit
  | some a => .ready (a.outcome client.target)
  | none =>
    if g.hasFired (.timeout giveUp) then .ready (.error (Upload.timedOut client))
    else .pending (.sent giveUp)

/-- The work of an upload. The world gives whether the client takes batches, and the answer. -/
def Client.work (client : Client) : Work Sending (Bool × Option Answer) Unit
  | .unsent _, g, (isOpen, answer) =>
    if isOpen then client.listen (g.now.waitEnd client.timeout) g answer
    else .ready (.error .alreadyShutdown)
  | .sent giveUp, g, (_, answer) => client.listen giveUp g answer

namespace Upload

/-- An upload as work in a context: how far it got, without the context itself. -/
def guarded : Upload → Guarded Sending Unit
  | fresh _ batch => .fresh (.unsent batch)
  | sent _ giveUp => .going (.sent giveUp)
  | ended r => .ended r

/-- The context that an upload obeys, while it goes on. -/
def context? : Upload → Option Context
  | fresh context _ | sent context _ => some context
  | ended _ => none

/-- Behind the wait for the context an upload listens for its answer. The timer of its
timeout counts only where no answer has come. -/
theorem guarded_answered (client : Client) (g : Glance) (answer : Option Answer) (context : Context)
    (giveUp : Instant) :
    (answered client g answer (sent context giveUp)).guarded =
      Guarded.ofProgress (client.listen giveUp g answer) := by
  cases answer with
  | some a => rfl
  | none =>
    simp only [answered, Client.listen]
    split <;> rfl

/-- Listening keeps the context. -/
theorem context?_answered {client : Client} {g : Glance} {answer : Option Answer}
    {context c : Context} {giveUp : Instant}
    (h : (answered client g answer (sent context giveUp)).context? = some c) : context = c := by
  cases answer with
  | some a => cases h
  | none =>
    simp only [answered] at h
    split at h
    · cases h
    · exact Option.some.inj h

section Poll

variable {client : Client} {c : Context} {u : Upload} {g : Glance}

/-- **A look at an upload is a look at its work.** One case per state. The first look asks
the context before anything is sent, later ones wait for its end; in both the work comes
second. -/
theorem guarded_poll (h : ∀ c', u.context? = some c' → c' = c) (first : Glance.Branch)
    (isOpen : Bool) (answer : Option Answer) :
    (poll client isOpen g answer u).guarded =
      (u.guarded.look client.work c ⟨g, first, isOpen, answer⟩).1 := by
  cases u with
  | fresh context batch =>
    obtain rfl := h context rfl
    show _ = ((Guarded.fresh _).look _ _ _).1
    rw [Guarded.look_fresh]
    simp only [poll, approach]
    -- at the first look the context is asked
    cases g.ending? context with
    | some e => rfl
    | none =>
      cases isOpen with
      | false => rfl
      | true => exact guarded_answered client g answer context _
  | sent context giveUp =>
    obtain rfl := h context rfl
    show _ = ((Guarded.going _).look _ _ _).1
    rw [Guarded.look_going]
    simp only [poll, approach]
    -- later looks wait for it
    cases g.done? context with
    | some e => rfl
    | none => exact guarded_answered client g answer context giveUp
  | ended r => rfl

/-- An upload that goes on after a look went on before it, in the same context. So whatever
is said of the context at the start holds at every later look, until the upload is over. -/
theorem context?_poll {isOpen : Bool} {answer : Option Answer}
    (h : (poll client isOpen g answer u).context? = some c) : u.context? = some c := by
  cases u with
  | fresh context batch =>
    simp only [poll, approach] at h
    cases he : g.ending? context with
    | some e => rw [he] at h; cases h
    | none =>
      rw [he] at h
      cases isOpen with
      | false => cases h
      | true => exact congrArg some (context?_answered h)
  | sent context giveUp =>
    simp only [poll, approach] at h
    cases hdone : g.done? context with
    | some e => rw [hdone] at h; cases h
    | none =>
      rw [hdone] at h
      exact congrArg some (context?_answered h)
  | ended r => exact h

end Poll

end Upload

end Http

/-! ## gRPC -/

namespace Grpc

/-- A call waits for its end, for so long. -/
def listen (giveUp : Instant) (g : Glance) (reply : Option Reply) : Progress Sending Unit :=
  match reply <|> (if g.hasFired (.timeout giveUp) then some (.failed .timeoutExpired) else none) with
  | some r => .ready r.outcome
  | none => .pending (.sent giveUp)

/-- The work of an upload. The world gives whether the client takes batches, and the reply. -/
def Client.work (client : Client) : Work Sending (Bool × Option Reply) Unit
  | .unsent _, g, (isOpen, reply) =>
    if isOpen then
      match timeoutText? client.timeout with
      | none => .broken
      | some _ => listen (g.now.waitEnd (effectiveTimeout client.timeout)) g reply
    else .ready (.error .alreadyShutdown)
  | .sent giveUp, g, (_, reply) => listen giveUp g reply

namespace Upload

/-- An upload as work in a context. Over gRPC it can break off, when its timeout cannot be
written. -/
def guarded : Upload → Guarded Sending Unit
  | fresh _ batch => .fresh (.unsent batch)
  | sent _ giveUp => .going (.sent giveUp)
  | ended r => .ended r
  | broken => .broken

/-- The context that an upload obeys, while it goes on. -/
def context? : Upload → Option Context
  | fresh context _ | sent context _ => some context
  | ended _ | broken => none

/-- A call is listened to like a request over HTTP: the reply counts before the timer. The
timer gives a reply of its own, so there is one way to end and not two. -/
theorem guarded_answered (g : Glance) (reply : Option Reply) (context : Context) (giveUp : Instant) :
    (answered g reply (sent context giveUp)).1.guarded =
      Guarded.ofProgress (listen giveUp g reply) := by
  -- a reply of the collector or one of the timer ends the upload
  cases hreply : reply? g reply (sent context giveUp) with
  | some r =>
    have hlisten : listen giveUp g reply = .ready r.outcome := by
      simp only [reply?] at hreply
      rw [listen, hreply]
    rw [answered, hreply, hlisten]
    rfl
  | none =>
    have hlisten : listen giveUp g reply = .pending (.sent giveUp) := by
      simp only [reply?] at hreply
      rw [listen, hreply]
    rw [answered, hreply, hlisten]
    rfl

/-- Listening keeps the context here too. -/
theorem context?_answered {g : Glance} {reply : Option Reply} {context c : Context}
    {giveUp : Instant} (h : (answered g reply (sent context giveUp)).1.context? = some c) :
    context = c := by
  simp only [answered] at h
  split at h
  · cases h
  · exact Option.some.inj h

section Poll

variable {client : Client} {c : Context} {u : Upload} {g : Glance}

/-- **A look at an upload is a look at its work**, over gRPC. The first look at an open
client also writes the timeout, and breaks off where that has no text; the work breaks off
with it. -/
theorem guarded_poll (h : ∀ c', u.context? = some c' → c' = c) (first : Glance.Branch)
    (isOpen : Bool) (reply : Option Reply) :
    (poll client isOpen g reply u).guarded =
      (u.guarded.look client.work c ⟨g, first, isOpen, reply⟩).1 := by
  cases u with
  | fresh context batch =>
    obtain rfl := h context rfl
    show _ = ((Guarded.fresh _).look _ _ _).1
    rw [Guarded.look_fresh]
    simp only [poll, approach, Client.work]
    cases g.ending? context with
    | some e => rfl
    | none =>
      cases isOpen with
      | false => rfl
      | true =>
        -- the work breaks off exactly where the upload does
        cases timeoutText? client.timeout with
        | none => rfl
        | some text => exact guarded_answered g reply context _
  | sent context giveUp =>
    obtain rfl := h context rfl
    show _ = ((Guarded.going _).look _ _ _).1
    rw [Guarded.look_going]
    simp only [poll, approach]
    cases g.done? context with
    | some e => rfl
    | none => exact guarded_answered g reply context giveUp
  | ended r => rfl
  | broken => rfl

/-- An upload that goes on after a look went on before it, in the same context. -/
theorem context?_poll {isOpen : Bool} {reply : Option Reply}
    (h : (poll client isOpen g reply u).context? = some c) : u.context? = some c := by
  cases u with
  | fresh context batch =>
    simp only [poll, approach] at h
    cases he : g.ending? context with
    | some e => rw [he] at h; cases h
    | none =>
      rw [he] at h
      cases isOpen with
      | false => cases h
      | true =>
        cases htext : timeoutText? client.timeout with
        | none => rw [htext] at h; cases h
        | some text =>
          rw [htext] at h
          exact congrArg some (context?_answered h)
  | sent context giveUp =>
    simp only [poll, approach] at h
    cases hdone : g.done? context with
    | some e => rw [hdone] at h; cases h
    | none =>
      rw [hdone] at h
      exact congrArg some (context?_answered h)
  | ended r => exact h
  | broken => exact h

end Poll

end Upload

end Grpc

/-! ## Either transport -/

namespace LogsClient

/-- The work of an upload over either transport. -/
def work : (client : LogsClient) → Work Sending (Bool × Option client.Answer) Unit
  | http c => c.work
  | grpc c => c.work

/-- An upload as work in a context. -/
def guarded : (client : LogsClient) → client.Upload → Guarded Sending Unit
  | http _, u => Http.Upload.guarded u
  | grpc _, u => Grpc.Upload.guarded u

/-- The context that an upload of a client obeys. -/
def context? : (client : LogsClient) → client.Upload → Option Context
  | http _, u => Http.Upload.context? u
  | grpc _, u => Grpc.Upload.context? u

/-- A look at an upload as one at its work, if the wait for the context looks at `first` first. -/
def Look.guarded {client : LogsClient} (first : Glance.Branch) (l : client.Look) :
    Guarded.Look (Bool × Option client.Answer) :=
  ⟨l.glance, first, l.isOpen, l.answer⟩

section Uploads

variable (client : LogsClient) {c : Context} {u : client.Upload}

/-- A look at an upload is one at its work in its context, whichever branch comes first.
This is asked only of uploads that go on in that very context, if they go on at all. -/
theorem guarded_look (h : ∀ c', client.context? u = some c' → c' = c) (first : Glance.Branch)
    (l : client.Look) :
    client.guarded (client.look l.isOpen l.glance l.answer u) =
      ((client.guarded u).look client.work c (l.guarded first)).1 := by
  cases client with
  | http client => exact Http.Upload.guarded_poll h first l.isOpen l.answer
  | grpc client => exact Grpc.Upload.guarded_poll h first l.isOpen l.answer

/-- A look does not move an upload to another context. -/
theorem context?_look {l : client.Look}
    (h : client.context? (client.look l.isOpen l.glance l.answer u) = some c) :
    client.context? u = some c := by
  cases client with
  | http client => exact Http.Upload.context?_poll h
  | grpc client => exact Grpc.Upload.context?_poll h

/-- Looks at an upload, each with the branch that the wait for the context looks at first.
Induction on the looks; the context is the same at all of them. -/
theorem guarded_after (h : ∀ c', client.context? u = some c' → c' = c)
    (looks : List (Glance.Branch × client.Look)) :
    client.guarded (client.after u (looks.map Prod.snd)) =
      Guarded.after client.work c (client.guarded u) (looks.map fun l => l.2.guarded l.1) := by
  induction looks generalizing u with
  | nil => rfl
  | cons l rest ih =>
    show client.guarded (client.after (client.look l.2.isOpen l.2.glance l.2.answer u) _) =
      Guarded.after client.work c ((client.guarded u).look client.work c (l.2.guarded l.1)).1 _
    rw [← client.guarded_look h l.1 l.2]
    exact ih fun c' h' => h c' (client.context?_look h')

/-- So a fresh upload, looked at time and again, is its work done in its context from the
start. -/
theorem guarded_after_fresh (c : Context) (batch : Logs.Batch)
    (looks : List (Glance.Branch × client.Look)) :
    client.guarded (client.after (client.fresh c batch) (looks.map Prod.snd)) =
      Guarded.after client.work c (.fresh (.unsent batch)) (looks.map fun l => l.2.guarded l.1) := by
  cases client with
  | http client =>
    refine guarded_after (.http client) (u := Http.Upload.fresh c batch) ?_ looks
    exact fun _ h => (Option.some.inj h).symm
  | grpc client =>
    refine guarded_after (.grpc client) (u := Grpc.Upload.fresh c batch) ?_ looks
    exact fun _ h => (Option.some.inj h).symm

end Uploads

end LogsClient

/-! ## Waiting, asking and guarding -/

/-- **Work obeys its context.** Of any context, in any state it can come to, and however late timers
are:

1. whichever branch of the wait for its end is ready, what it gives is what the context answers at
   that moment;
2. once the context has been canceled the next look at the wait finds it over, and it gives that,
   whichever branch it looks at first;
3. any work that is done in the context obeys it, as `Guarded.Obeys` says;
4. the uploads of a client are such work. -/
theorem guarded_work_obeys_its_context (c : Context) :
    (∀ (g : Glance) (b : Glance.Branch) (e : Ending), g.branch? c b = some e → g.ending? c = some e)
      ∧ (∀ (as : List Forest.Action) (i : Nat) (g : Glance) (first : Glance.Branch),
          (Forest.grove as).contexts[i]? = some c → (Forest.chronicle as).IsCanceled i →
            g.toMoment = (Forest.grove as).moment → g.doneBy? c first = some .canceled)
      ∧ (∀ (σ ξ α : Type) (w : Work σ ξ α), Guarded.Obeys c w)
      ∧ (∀ (client : LogsClient) (batch : Logs.Batch) (looks : List (Glance.Branch × client.Look)),
          client.guarded (client.after (client.fresh c batch) (looks.map Prod.snd)) =
            Guarded.after client.work c (.fresh (.unsent batch))
              (looks.map fun l => l.2.guarded l.1)) := by
  refine ⟨fun g b e => Glance.ending?_of_branch?, ?_, fun σ ξ α w => Guarded.obeys c w,
    fun client => client.guarded_after_fresh c⟩
  intro as i g first hc hcanceled hg
  refine Glance.doneBy?_of_isCanceled ?_ first
  -- the glance is one at the state that the actions lead to, which knows who was canceled
  rw [hg]
  exact ((Forest.faithful_grove as).isCanceled_iff hc).mpr hcanceled

/-- A context that is canceled when its deadline is over. -/
def lateCancel : List Forest.Action :=
  [.background, .withDeadline 0 1500000, .advance ⟨3000000⟩, .cancel 1]

/-- The timer has gone off, so both branches are ready, and both say that the context was canceled;
work that is begun then is not polled. -/
theorem late_cancel_is_seen_on_both_branches :
    let g : Glance := .prompt (Forest.grove lateCancel).moment
    let c : Context := ⟨1, [0], some 1500000⟩
    (Forest.grove lateCancel).contexts[1]? = some c
      ∧ g.branch? c .deadline = some .canceled ∧ g.branch? c .cancellation = some .canceled
      ∧ g.ending? c = some .canceled ∧ (∀ first, g.doneBy? c first = some .canceled)
      ∧ ∀ (w : Work Nat Unit Unit) first,
          Guarded.after w c (.fresh 0) [⟨g, first, ()⟩] = .ended (.error (.context .canceled))
            ∧ Guarded.polls w c (.fresh 0) [⟨g, first, ()⟩] = [] := by
  intro g c
  obtain ⟨hbranch, hwait, hobeys, -⟩ := guarded_work_obeys_its_context c
  -- what the branch of the timer gives is what the context answers
  have hended : g.ending? c = some .canceled := hbranch g .deadline .canceled (by decide)
  refine ⟨by decide, by decide, by decide, hended, ?_, ?_⟩
  · exact fun first => hwait lateCancel 1 g first (by decide) (by decide) rfl
  · exact fun w first => (hobeys Nat Unit Unit w).not_begun 0 ⟨g, first, ()⟩ [] .canceled hended

end LogCourier
