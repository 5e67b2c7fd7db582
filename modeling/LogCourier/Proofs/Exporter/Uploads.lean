import LogCourier.Exporter.Builder
import LogCourier.Grpc.Upload
import LogCourier.Http.Upload
import LogCourier.Proofs.Context

/-!
# Uploads over either transport

Clients send batches over HTTP or gRPC, with answers and states of their own. Here the two are
brought under one roof: `LogsClient.Upload` is the state of an upload of a client, `look` is one
look at it and `request?` the request that this look sends.

Whether the client takes batches is asked once, at the first look (`look_of_hasBegun`). What that
look comes to is said by `look_fresh_of_ended` if the context of the upload has ended, by
`look_fresh_of_closed` if the client is closed, and for an open client by `look_fresh_of_canSend` and
`look_fresh_of_cannotSend`. Later looks at an upload that waits are one equation (`look_sent`), and
an upload with a result keeps it (`look_of_result`). With these at hand, no proof about looks has to
know which transport it is about.
-/

namespace LogCourier

namespace Http.Upload

def Move.request? : Move → Option Request
  | .sends r => some r
  | _ => none

/-- The result of an upload that is over. -/
def result? : Upload → Option Outcome
  | ended r => some r
  | _ => none

/-- It was looked at, so it asked the client whether it takes batches. -/
def hasBegun : Upload → Bool
  | fresh .. => false
  | _ => true

end Http.Upload

namespace Grpc.Upload

def Move.request? : Move → Option Request
  | .sends r => some r
  | _ => none

def result? : Upload → Option Outcome
  | ended r => some r
  | _ => none

/-- It was looked at, so it asked the client whether it takes batches. -/
def hasBegun : Upload → Bool
  | fresh .. => false
  | _ => true

end Grpc.Upload

namespace LogsClient

/-- An upload of a client. -/
def Upload : LogsClient → Type
  | http _ => Http.Upload
  | grpc _ => Grpc.Upload

/-- What the collector can give to an upload. -/
def Answer : LogsClient → Type
  | http _ => Http.Answer
  | grpc _ => Grpc.Reply

/-- What a client sends to the collector. -/
def Request : LogsClient → Type
  | http _ => Http.Request
  | grpc _ => Grpc.Request

/-- An upload that was asked for and not looked at yet. -/
def fresh : (client : LogsClient) → Context → Logs.Batch → client.Upload
  | http _, context, batch => Http.Upload.fresh context batch
  | grpc _, context, batch => Grpc.Upload.fresh context batch

/-- An upload that has sent its request, and waits in its context until `giveUp`. -/
def sent : (client : LogsClient) → Context → Instant → client.Upload
  | http _, context, giveUp => Http.Upload.sent context giveUp
  | grpc _, context, giveUp => Grpc.Upload.sent context giveUp

def ended : (client : LogsClient) → Outcome → client.Upload
  | http _, r => Http.Upload.ended r
  | grpc _, r => Grpc.Upload.ended r

/-- The outcome that an answer of the collector stands for. -/
def outcome : (client : LogsClient) → client.Answer → Outcome
  | http c, a => Http.Answer.outcome c.target a
  | grpc _, r => Grpc.Reply.outcome r

/-- The outcome of an upload whose time is over. -/
def timedOut : LogsClient → Outcome
  | http c => .error (Http.Upload.timedOut c)
  | grpc _ => Grpc.Reply.outcome (.failed .timeoutExpired)

/-- How long an upload waits: over gRPC as long as the text of the timeout says. -/
def patience : LogsClient → Duration
  | http c => c.timeout
  | grpc c => Grpc.effectiveTimeout c.timeout

/-- A client has a text for its timeout, or needs none. -/
def canSend : LogsClient → Bool
  | http _ => true
  | grpc c => (Grpc.timeoutText? c.timeout).isSome

/-- What becomes of an upload that waits when its answer and its timer are asked for. -/
def answered (client : LogsClient) (g : Glance) (answer : Option client.Answer) (context : Context)
    (giveUp : Instant) : client.Upload :=
  match answer with
  | some a => client.ended (client.outcome a)
  | none =>
    if g.hasFired (.timeout giveUp) then client.ended client.timedOut
    else client.sent context giveUp

/-- One look at an upload, if the collector has given `answer`. `isOpen` tells that the client was
not stopped. -/
def look : (client : LogsClient) → (isOpen : Bool) → Glance → (answer : Option client.Answer) →
    client.Upload → client.Upload
  | http c, isOpen, g, answer, u => Http.Upload.poll c isOpen g answer u
  | grpc c, isOpen, g, answer, u => Grpc.Upload.poll c isOpen g answer u

/-- The request that a look sends. -/
def request? : (client : LogsClient) → (isOpen : Bool) → Glance → client.Upload →
    Option client.Request
  | http c, isOpen, g, u => (Http.Upload.approach c isOpen g u).2.request?
  | grpc c, isOpen, g, u => (Grpc.Upload.approach c isOpen g u).2.request?

def result? : (client : LogsClient) → client.Upload → Option Outcome
  | http _, u => Http.Upload.result? u
  | grpc _, u => Grpc.Upload.result? u

def hasBegun : (client : LogsClient) → client.Upload → Bool
  | http _, u => Http.Upload.hasBegun u
  | grpc _, u => Grpc.Upload.hasBegun u

/-! ## Looks -/

section Looks

variable (client : LogsClient) {g : Glance} {answer : Option client.Answer} {u : client.Upload}

/-- An upload that has not begun is as it was asked for: it holds its context and its batch,
and nothing of the client or the clock yet. -/
theorem exists_fresh_of_not_hasBegun (h : client.hasBegun u = false) :
    ∃ context batch, u = client.fresh context batch := by
  cases client with
  | http c =>
    cases u with
    | fresh context batch => exact ⟨context, batch, rfl⟩
    | sent context giveUp => cases h
    | ended r => cases h
  | grpc c =>
    cases u with
    | fresh context batch => exact ⟨context, batch, rfl⟩
    | sent context giveUp => cases h
    | ended r => cases h
    | broken => cases h

@[simp] theorem hasBegun_sent (context : Context) (giveUp : Instant) :
    client.hasBegun (client.sent context giveUp) = true := by
  cases client <;> rfl

@[simp] theorem hasBegun_ended (r : Outcome) : client.hasBegun (client.ended r) = true := by
  cases client <;> rfl

@[simp] theorem result?_sent (context : Context) (giveUp : Instant) :
    client.result? (client.sent context giveUp) = none := by
  cases client <;> rfl

@[simp] theorem result?_ended (r : Outcome) : client.result? (client.ended r) = some r := by
  cases client <;> rfl

theorem hasBegun_of_result {r : Outcome} (h : client.result? u = some r) :
    client.hasBegun u = true := by
  cases client with
  | http c => cases u <;> first | rfl | cases h
  | grpc c => cases u <;> first | rfl | cases h

/-- An answer and the timer can each end an upload that waits; it does not go back to being
fresh. -/
theorem hasBegun_answered (g : Glance) (answer : Option client.Answer) (context : Context)
    (giveUp : Instant) : client.hasBegun (client.answered g answer context giveUp) = true := by
  unfold answered
  split
  · exact client.hasBegun_ended _
  · split
    · exact client.hasBegun_ended _
    · exact client.hasBegun_sent context giveUp

/-- **A look at an upload that waits.** The end of its context counts first, if it is in sight,
then the answer and then the timer. -/
theorem look_sent (isOpen : Bool) (context : Context) (giveUp : Instant) :
    client.look isOpen g answer (client.sent context giveUp) =
      match g.done? context with
      | some e => client.ended (.error (.context e))
      | none => client.answered g answer context giveUp := by
  cases client with
  | http c =>
    simp only [look, sent, Http.Upload.poll, Http.Upload.approach]
    cases g.done? context with
    | some e => rfl
    | none => cases answer <;> rfl
  | grpc c =>
    simp only [look, sent, Grpc.Upload.poll, Grpc.Upload.approach]
    cases g.done? context with
    | some e => rfl
    | none =>
      -- here the timer gives a reply of its own, which is taken like one of the collector
      cases answer with
      | some r => rfl
      | none =>
        simp only [Grpc.Upload.answered, Grpc.Upload.reply?, answered]
        by_cases hfired : g.hasFired (.timeout giveUp) = true
        · rw [if_pos hfired, if_pos hfired]
          rfl
        · rw [if_neg hfired, if_neg hfired]
          rfl

/-- An upload that has begun waits, or it is over and stays as it is. Later looks are known
by this and `look_sent`. -/
theorem cases_of_hasBegun (h : client.hasBegun u = true) :
    (∃ context giveUp, u = client.sent context giveUp) ∨
      ∀ (isOpen : Bool) (g : Glance) (answer : Option client.Answer),
        client.look isOpen g answer u = u := by
  cases client with
  | http c =>
    cases u with
    | fresh context batch => cases h
    | sent context giveUp => exact .inl ⟨context, giveUp, rfl⟩
    | ended r => exact .inr fun _ _ _ => rfl
  | grpc c =>
    cases u with
    | fresh context batch => cases h
    | sent context giveUp => exact .inl ⟨context, giveUp, rfl⟩
    | ended r => exact .inr fun _ _ _ => rfl
    | broken => exact .inr fun _ _ _ => rfl

/-- Once it has begun, an upload does not ask whether the client is open. So a shutdown in
the meantime makes no difference to it. -/
theorem look_of_hasBegun (h : client.hasBegun u = true) (isOpen isOpen' : Bool) :
    client.look isOpen g answer u = client.look isOpen' g answer u := by
  rcases client.cases_of_hasBegun h with ⟨context, giveUp, rfl⟩ | hover
  · rw [look_sent, look_sent]
  · rw [hover, hover]

/-- Nor does it send anything: its request went out at the first look, if it did. So an
export that has begun never leads to a second request. -/
theorem request?_of_hasBegun (h : client.hasBegun u = true) (isOpen : Bool) :
    client.request? isOpen g u = none := by
  cases client with
  | http c =>
    cases u with
    | fresh context batch => cases h
    | sent context giveUp =>
      -- a later look waits for the context and sends nothing either way
      simp only [request?, Http.Upload.approach]
      cases g.done? context <;> rfl
    | ended r => rfl
  | grpc c =>
    cases u with
    | fresh context batch => cases h
    | sent context giveUp =>
      simp only [request?, Grpc.Upload.approach]
      cases g.done? context <;> rfl
    | ended r => rfl
    | broken => rfl

/-- A result is kept, whatever a later look gets to see. -/
theorem look_of_result {r : Outcome} (h : client.result? u = some r) (isOpen : Bool) :
    client.look isOpen g answer u = u := by
  rcases client.cases_of_hasBegun (client.hasBegun_of_result h) with ⟨context, giveUp, rfl⟩ | hover
  · rw [result?_sent] at h
    cases h
  · exact hover isOpen g answer

end Looks

/-! ## The first look -/

section FirstLook

variable (client : LogsClient) {g : Glance} {context : Context}

/-- **If the context has ended** the first look makes its ending the result, and sends
nothing. Whether the client is open does not matter then. -/
theorem look_fresh_of_ended {e : Ending} (h : g.ending? context = some e) (isOpen : Bool)
    (answer : Option client.Answer) (batch : Logs.Batch) :
    client.result? (client.look isOpen g answer (client.fresh context batch)) =
        some (.error (.context e)) ∧
      client.request? isOpen g (client.fresh context batch) = none := by
  cases client with
  | http c =>
    simp only [result?, look, request?, fresh, Http.Upload.poll, Http.Upload.approach, h]
    exact ⟨rfl, rfl⟩
  | grpc c =>
    simp only [result?, look, request?, fresh, Grpc.Upload.poll, Grpc.Upload.approach, h]
    exact ⟨rfl, rfl⟩

/-- **If the client is closed** the first look turns the upload away, and sends nothing. -/
theorem look_fresh_of_closed (h : g.ending? context = none) (answer : Option client.Answer)
    (batch : Logs.Batch) :
    client.result? (client.look false g answer (client.fresh context batch)) =
        some (.error .alreadyShutdown) ∧
      client.request? false g (client.fresh context batch) = none := by
  cases client with
  | http c =>
    simp only [result?, look, request?, fresh, Http.Upload.poll, Http.Upload.approach, h]
    exact ⟨rfl, rfl⟩
  | grpc c =>
    simp only [result?, look, request?, fresh, Grpc.Upload.poll, Grpc.Upload.approach, h]
    exact ⟨rfl, rfl⟩

/-- A closed client sends nothing. What has begun sends no more, and what has not is turned
away or ended by its context. -/
theorem request?_of_closed (g : Glance) (u : client.Upload) : client.request? false g u = none := by
  cases hbegun : client.hasBegun u with
  -- its request went out at the first look
  | true => exact client.request?_of_hasBegun hbegun false
  | false =>
    obtain ⟨context, batch, rfl⟩ := client.exists_fresh_of_not_hasBegun hbegun
    cases h : g.ending? context with
    | some e => exact (client.look_fresh_of_ended h false none batch).2
    | none => exact (client.look_fresh_of_closed h none batch).2

/-- **If the client is open**, and has a text for its timeout, the first look sends the batch
and asks for the answer at once. -/
theorem look_fresh_of_canSend (h : g.ending? context = none) (hsend : client.canSend = true)
    (answer : Option client.Answer) (batch : Logs.Batch) :
    client.look true g answer (client.fresh context batch) =
      client.answered g answer context (g.now.waitEnd client.patience) := by
  -- it goes on as a later look would that does not see the context ended
  have hlater : client.look true g answer (client.sent context (g.now.waitEnd client.patience)) = _ :=
    client.look_sent true context _
  rw [Glance.done?_of_live h] at hlater
  refine Eq.trans ?_ hlater
  cases client with
  | http c =>
    simp only [look, fresh, sent, Http.Upload.poll, Http.Upload.approach, h,
      Glance.done?_of_live h, if_true]
    rfl
  | grpc c =>
    obtain ⟨text, htext⟩ := Option.isSome_iff_exists.mp hsend
    simp only [look, fresh, sent, Grpc.Upload.poll, Grpc.Upload.approach, h,
      Glance.done?_of_live h, htext, if_true]
    rfl

/-- Without such a text the first look breaks the upload off: it has begun and has no
result. -/
theorem look_fresh_of_cannotSend (h : g.ending? context = none) (hsend : client.canSend = false)
    (answer : Option client.Answer) (batch : Logs.Batch) :
    client.hasBegun (client.look true g answer (client.fresh context batch)) = true ∧
      client.result? (client.look true g answer (client.fresh context batch)) = none := by
  cases client with
  | http c => cases hsend
  | grpc c =>
    have htext : Grpc.timeoutText? c.timeout = none :=
      Option.not_isSome_iff_eq_none.mp (Bool.eq_false_iff.mp hsend)
    simp only [hasBegun, result?, look, fresh, Grpc.Upload.poll, Grpc.Upload.approach, h, htext,
      if_true]
    exact ⟨rfl, rfl⟩

/-- A look asks, so it makes an upload one that has begun. Whatever a look finds, it leaves
no fresh upload behind; there is one case for each of the things that it can find. -/
theorem hasBegun_look {answer : Option client.Answer} (isOpen : Bool) (u : client.Upload) :
    client.hasBegun (client.look isOpen g answer u) = true := by
  cases hbegun : client.hasBegun u with
  | false =>
    obtain ⟨context, batch, rfl⟩ := client.exists_fresh_of_not_hasBegun hbegun
    cases h : g.ending? context with
    | some e => exact client.hasBegun_of_result (client.look_fresh_of_ended h isOpen answer batch).1
    | none =>
      cases isOpen with
      | false => exact client.hasBegun_of_result (client.look_fresh_of_closed h answer batch).1
      | true =>
        cases hsend : client.canSend with
        | true =>
          rw [client.look_fresh_of_canSend h hsend]
          exact client.hasBegun_answered g answer context _
        | false => exact (client.look_fresh_of_cannotSend h hsend answer batch).1
  | true =>
    rcases client.cases_of_hasBegun hbegun with ⟨context, giveUp, rfl⟩ | hover
    · rw [look_sent]
      cases g.done? context with
      | some e => exact client.hasBegun_ended _
      | none => exact client.hasBegun_answered g answer context giveUp
    · rw [hover]
      exact hbegun

/-- No answer of the collector is taken for the error of a client that is closed. -/
theorem outcome_ne_alreadyShutdown (a : client.Answer) :
    client.outcome a ≠ .error .alreadyShutdown := by
  cases client with
  | http c =>
    cases a with
    | failed reason => exact nofun
    | response status body =>
      simp only [outcome, Http.Answer.outcome]
      split <;> exact nofun
  | grpc c => cases a <;> exact nofun

theorem timedOut_ne_alreadyShutdown : client.timedOut ≠ .error .alreadyShutdown := by
  cases client <;> exact nofun

/-- An open client turns no upload away, whatever the upload comes to. No answer of the
collector and no timer can be taken for it. -/
theorem look_fresh_of_open (h : g.ending? context = none) (answer : Option client.Answer)
    (batch : Logs.Batch) :
    client.result? (client.look true g answer (client.fresh context batch)) ≠
      some (.error .alreadyShutdown) := by
  cases hsend : client.canSend with
  | false =>
    rw [(client.look_fresh_of_cannotSend h hsend answer batch).2]
    exact nofun
  | true =>
    rw [client.look_fresh_of_canSend h hsend]
    unfold answered
    split
    · rw [result?_ended]
      exact fun hr => client.outcome_ne_alreadyShutdown _ (Option.some.inj hr)
    · split
      · rw [result?_ended]
        exact fun hr => client.timedOut_ne_alreadyShutdown (Option.some.inj hr)
      · rw [result?_sent]
        exact nofun

end FirstLook

end LogsClient

end LogCourier
