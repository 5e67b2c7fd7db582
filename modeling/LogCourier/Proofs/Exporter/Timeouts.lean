import LogCourier.Proofs.Checked
import LogCourier.Proofs.Context
import LogCourier.Proofs.Environment.Reading
import LogCourier.Proofs.Exporter.Uploads

/-!
# Timeouts of exports

An upload is given up when its timeout is over, so it ends however silent the collector is. Over
gRPC the timeout is also sent to the collector, in a field of eight digits and a unit; spans of a
hundred million hours and more do not fit there, and the upload breaks off when it should write
one. Nothing keeps such spans out of a configuration.

* `Settles`: an upload has its result, or waits with its context up to an instant. A first look at a
  client that can tell its timeout brings this about (`settles_look_fresh`), every later look keeps
  it (`settles_look`), and a look that finds an end turns it into the result
  (`isSome_result?_look`).
* `exports_end_iff_timeout_fits` puts this together for the clients that are built.
-/

namespace LogCourier

namespace Grpc

/-- The shortest span without a text: a hundred million hours. -/
def timeoutLimit : Duration := .ofSeconds ((maxTimeoutNumber + 1) * 3600)

/-- **A span has no text exactly if it is a hundred million hours or more.** Eight digits
are tried for every unit, and hours are the longest of them. -/
theorem timeoutText?_eq_none_iff (d : Duration) :
    timeoutText? d = none ↔ timeoutLimit.nanoseconds ≤ d.nanoseconds := by
  -- there is no text if the number is too long in every unit
  have hparts : timeoutText? d = none ↔
      ∀ p ∈ timeoutUnits, maxTimeoutNumber < d.nanoseconds / p.2 := by
    unfold timeoutText? timeoutParts?
    rw [Option.map_eq_none_iff, List.find?_eq_none, List.forall_mem_map]
    simp only [decide_eq_true_iff, Nat.not_le]
  have hlimit : timeoutLimit.nanoseconds = 100000000 * 3600000000000 := rfl
  rw [hparts, hlimit]
  constructor
  · intro h
    have hhours : 99999999 < d.nanoseconds / 3600000000000 := h ("H", 3600000000000) (by decide)
    omega
  · -- what is too long in hours is too long in every other unit
    intro h p hp
    have hunit : 0 < p.2 ∧ p.2 ≤ 3600000000000 := by
      revert p
      decide
    have hhours : d.nanoseconds / 3600000000000 ≤ d.nanoseconds / p.2 :=
      Nat.div_le_div_left hunit.2 hunit.1
    unfold maxTimeoutNumber
    omega

/-- The timeout could not be written. -/
def Upload.isBroken : Upload → Bool
  | broken => true
  | _ => false

/-- The context of an upload that waits, and how long it waits. -/
def Upload.waiting? : Upload → Option (Context × Instant)
  | sent context giveUp => some (context, giveUp)
  | _ => none

end Grpc

/-- The context of an upload that waits, and how long it waits. -/
def Http.Upload.waiting? : Http.Upload → Option (Context × Instant)
  | sent context giveUp => some (context, giveUp)
  | _ => none

namespace LogsClient

/-- A client can send its timeout, or need not. -/
def CanWait : LogsClient → Prop
  | http _ => True
  | grpc c => c.timeout.nanoseconds < Grpc.timeoutLimit.nanoseconds

/-- The upload broke off. It has no result and will have none. -/
def isBroken : (client : LogsClient) → client.Upload → Bool
  | http _, _ => false
  | grpc _, u => Grpc.Upload.isBroken u

def waiting? : (client : LogsClient) → client.Upload → Option (Context × Instant)
  | http _, u => Http.Upload.waiting? u
  | grpc _, u => Grpc.Upload.waiting? u

/-- One look at an upload: whether it finds the client open, what it sees of clock, contexts and
timers, and what the collector has given by then. -/
structure Look (client : LogsClient) where
  isOpen : Bool
  glance : Glance
  answer : Option client.Answer

/-- An upload after some looks at it. -/
def after (client : LogsClient) (u : client.Upload) (looks : List client.Look) : client.Upload :=
  looks.foldl (fun u l => client.look l.isOpen l.glance l.answer u) u

section Waiting

variable (client : LogsClient)

theorem canSend_eq_true_iff : client.canSend = true ↔ client.CanWait := by
  cases client with
  | http c => exact iff_of_true rfl trivial
  | grpc c =>
    -- a timeout below the limit is one with a text
    show (Grpc.timeoutText? c.timeout).isSome = true ↔ _ < _
    rw [← Nat.not_le, ← Grpc.timeoutText?_eq_none_iff, Option.isSome_iff_ne_none]

theorem isBroken_fresh (context : Context) (batch : Logs.Batch) :
    client.isBroken (client.fresh context batch) = false := by
  cases client <;> rfl

theorem isBroken_sent (context : Context) (giveUp : Instant) :
    client.isBroken (client.sent context giveUp) = false := by
  cases client <;> rfl

theorem isBroken_of_result {r : Outcome} {u : client.Upload} (h : client.result? u = some r) :
    client.isBroken u = false := by
  cases client with
  | http c => rfl
  | grpc c => cases u <;> first | rfl | cases h

/-- Whatever its answer and its timer bring, an upload that waits does not break off. -/
theorem isBroken_answered (g : Glance) (answer : Option client.Answer) (context : Context)
    (giveUp : Instant) : client.isBroken (client.answered g answer context giveUp) = false := by
  unfold answered
  split
  · exact client.isBroken_of_result (client.result?_ended _)
  · split
    · exact client.isBroken_of_result (client.result?_ended _)
    · exact client.isBroken_sent context giveUp

/-- Only a first look breaks an upload off, and then for good. Induction on the looks; an
upload that waits may find any end, but it does not break off. -/
theorem isBroken_after {u : client.Upload} (h : client.hasBegun u = true)
    (looks : List client.Look) : client.isBroken (client.after u looks) = client.isBroken u := by
  induction looks generalizing u with
  | nil => rfl
  | cons l rest ih =>
    -- what is left is one look at an upload that has begun
    refine (ih (client.hasBegun_look l.isOpen u)).trans ?_
    rcases client.cases_of_hasBegun h with ⟨context, giveUp, rfl⟩ | hover
    · rw [look_sent, isBroken_sent]
      cases l.glance.done? context with
      | some e => exact client.isBroken_of_result (client.result?_ended _)
      | none => exact client.isBroken_answered l.glance l.answer context giveUp
    · rw [hover]

/-- An upload has its result, or waits with `context` until `giveUp`. -/
def Settles (context : Context) (giveUp : Instant) (u : client.Upload) : Prop :=
  (client.result? u).isSome = true ∨ client.waiting? u = some (context, giveUp)

variable {context : Context} {giveUp : Instant} {u : client.Upload}

theorem waiting?_sent : client.waiting? (client.sent context giveUp) = some (context, giveUp) := by
  cases client <;> rfl

theorem eq_sent_of_waiting? (h : client.waiting? u = some (context, giveUp)) :
    u = client.sent context giveUp := by
  cases client with
  | http c => cases u <;> cases h; rfl
  | grpc c => cases u <;> cases h; rfl

/-- An upload on its way to a result has not broken off. -/
theorem isBroken_of_settles (h : client.Settles context giveUp u) : client.isBroken u = false := by
  rcases h with hresult | hwaits
  · obtain ⟨r, hr⟩ := Option.isSome_iff_exists.mp hresult
    exact client.isBroken_of_result hr
  · rw [client.eq_sent_of_waiting? hwaits]
    exact client.isBroken_sent context giveUp

/-- An answer is a result, and so is the end of the time; without either the upload waits as
before. -/
theorem settles_answered (g : Glance) (answer : Option client.Answer) :
    client.Settles context giveUp (client.answered g answer context giveUp) := by
  unfold answered
  split
  · exact .inl (Option.isSome_of_mem (client.result?_ended _))
  · split
    · exact .inl (Option.isSome_of_mem (client.result?_ended _))
    · exact .inr client.waiting?_sent

/-- **A first look sends the batch, or finds why it should not.** If the client can tell its
timeout, both leave an upload that settles: the end of the context, a closed client and an
answer are results, and else it waits from then on. -/
theorem settles_look_fresh (h : client.CanWait) (l : client.Look) (batch : Logs.Batch) :
    client.Settles context (l.glance.now.waitEnd client.patience)
      (client.look l.isOpen l.glance l.answer (client.fresh context batch)) := by
  obtain ⟨isOpen, g, answer⟩ := l
  cases hending : g.ending? context with
  | some e =>
    exact .inl (Option.isSome_of_mem (client.look_fresh_of_ended hending isOpen answer batch).1)
  | none =>
    cases isOpen with
    | false =>
      exact .inl (Option.isSome_of_mem (client.look_fresh_of_closed hending answer batch).1)
    | true =>
      rw [client.look_fresh_of_canSend hending (client.canSend_eq_true_iff.mpr h)]
      exact client.settles_answered g answer

/-- **No look takes an upload off its way.** A result is kept. While it waits, the context,
the answer and the timer can each bring a result; if none does it waits as before. -/
theorem settles_look (h : client.Settles context giveUp u) (l : client.Look) :
    client.Settles context giveUp (client.look l.isOpen l.glance l.answer u) := by
  rcases h with hresult | hwaits
  · obtain ⟨r, hr⟩ := Option.isSome_iff_exists.mp hresult
    rw [client.look_of_result hr]
    exact .inl hresult
  · rw [client.eq_sent_of_waiting? hwaits, look_sent]
    cases l.glance.done? context with
    | some e => exact .inl (Option.isSome_of_mem (client.result?_ended _))
    | none => exact client.settles_answered l.glance l.answer

theorem settles_after (h : client.Settles context giveUp u) (looks : List client.Look) :
    client.Settles context giveUp (client.after u looks) := by
  induction looks generalizing u with
  | nil => exact h
  | cons l rest ih => exact ih (client.settles_look h l)

/-- What ends an upload at a look: the collector answered, the end of its context is in sight, or
the timer for its timeout has gone off. -/
def Look.Ends {client : LogsClient} (l : client.Look) (context : Context) (giveUp : Instant) : Prop :=
  l.answer.isSome = true ∨ l.glance.SeesEnd context ∨ l.glance.hasFired (.timeout giveUp) = true

/-- **A look that finds an end leaves a result.** Three ends are asked for in turn, and the
one that is there makes up for those that are not. -/
theorem isSome_result?_look (h : client.Settles context giveUp u) {l : client.Look}
    (hends : l.Ends context giveUp) :
    (client.result? (client.look l.isOpen l.glance l.answer u)).isSome = true := by
  rcases h with hresult | hwaits
  · obtain ⟨r, hr⟩ := Option.isSome_iff_exists.mp hresult
    rw [client.look_of_result hr]
    exact hresult
  · rw [client.eq_sent_of_waiting? hwaits, look_sent]
    -- the end of the context counts first, then the answer, then the time
    cases hdone : l.glance.done? context with
    | some e => exact Option.isSome_of_mem (client.result?_ended _)
    | none =>
      unfold answered
      cases hanswer : l.answer with
      | some a => exact Option.isSome_of_mem (client.result?_ended _)
      | none =>
        have hfired : l.glance.hasFired (.timeout giveUp) = true := by
          rcases hends with h | h | h
          · rw [hanswer] at h
            cases h
          · exact absurd h (Glance.done?_eq_none_iff.mp hdone)
          · exact h
        simp only [hfired, if_true]
        exact Option.isSome_of_mem (client.result?_ended _)

/-- An open client that cannot send its timeout breaks an upload off at once, unless the
context of the upload has ended. A closed client turns it away before the timeout is
written. -/
theorem isBroken_look_fresh (h : ¬client.CanWait) (l : client.Look) (batch : Logs.Batch) :
    client.isBroken (client.look l.isOpen l.glance l.answer (client.fresh context batch)) = true ↔
      l.isOpen = true ∧ l.glance.ending? context = none := by
  obtain ⟨isOpen, g, answer⟩ := l
  cases client with
  | http c => exact absurd trivial h
  | grpc c =>
    -- a client that cannot wait is one for gRPC without a text for its timeout
    have htext : Grpc.timeoutText? c.timeout = none :=
      (Grpc.timeoutText?_eq_none_iff _).mpr (Nat.not_lt.mp h)
    simp only [isBroken, look, fresh, Grpc.Upload.poll, Grpc.Upload.approach]
    cases g.ending? context with
    | some e => exact iff_of_false Bool.false_ne_true fun h => Option.some_ne_none e h.2
    | none =>
      cases isOpen with
      | false => exact iff_of_false Bool.false_ne_true fun h => Bool.false_ne_true h.1
      | true =>
        rw [htext]
        exact iff_of_true rfl ⟨rfl, rfl⟩

/-! ## Uploads from their first look on -/

/-- From its first look on an upload of a client that can wait is on its way. How long it
waits at most is told by the clock at that look. -/
theorem settles_after_fresh (h : client.CanWait) (batch : Logs.Batch) (first : client.Look)
    (looks : List client.Look) :
    client.Settles context (first.glance.now.waitEnd client.patience)
      (client.after (client.fresh context batch) (first :: looks)) :=
  client.settles_after (client.settles_look_fresh h first batch) looks

theorem isBroken_after_eq_false (h : client.CanWait) (batch : Logs.Batch)
    (looks : List client.Look) :
    client.isBroken (client.after (client.fresh context batch) looks) = false := by
  cases looks with
  | nil => exact client.isBroken_fresh context batch
  | cons first rest => exact client.isBroken_of_settles (client.settles_after_fresh h batch first rest)

/-- The end of a wait is found by the look after it, however many looks found none in
between. -/
theorem isSome_result?_after (h : client.CanWait) (batch : Logs.Batch) (first : client.Look)
    (looks : List client.Look) {last : client.Look}
    (hends : last.Ends context (first.glance.now.waitEnd client.patience)) :
    (client.result? (client.after (client.fresh context batch)
      (first :: looks ++ [last]))).isSome = true := by
  have hlast : client.after (client.fresh context batch) (first :: looks ++ [last]) =
      client.look last.isOpen last.glance last.answer
        (client.after (client.fresh context batch) (first :: looks)) :=
    List.foldl_concat ..
  rw [hlast]
  exact client.isSome_result?_look (client.settles_after_fresh h batch first looks) hends

/-- What the first look breaks off stays broken off, and what it does not break off goes
on. -/
theorem isBroken_after_iff (h : ¬client.CanWait) (batch : Logs.Batch) (first : client.Look)
    (looks : List client.Look) :
    client.isBroken (client.after (client.fresh context batch) (first :: looks)) = true ↔
      first.isOpen = true ∧ first.glance.ending? context = none := by
  rw [← client.isBroken_look_fresh h first batch]
  refine Iff.of_eq (congrArg (· = true) ?_)
  exact client.isBroken_after (client.hasBegun_look first.isOpen _) looks

end Waiting

end LogsClient

/-! ## Clients that are built -/

section Built

variable {t : Transport} {env : Environment} {ss : List Setting} {client : LogsClient}

/-- A client keeps the timeout of its configuration, whatever that is. Building asks nothing
of it, neither over HTTP nor over gRPC. -/
theorem canWait_iff (h : (Built.via t env ss).result = .ok client) :
    client.CanWait ↔ t = .http ∨
      (Config.resolve t env ss).timeout.nanoseconds < Grpc.timeoutLimit.nanoseconds := by
  cases t with
  | http =>
    simp only [Built.via, Built.http] at h
    obtain ⟨c, -, rfl⟩ := map_eq_ok.mp h
    exact iff_of_true trivial (.inl rfl)
  | grpc =>
    simp only [Built.via, Built.grpc, Grpc.Client.make] at h
    obtain ⟨c, hmake, rfl⟩ := map_eq_ok.mp h
    -- the timeout of the client is that of the configuration, by the way it is made
    obtain ⟨link, -, rfl⟩ := map_eq_ok.mp hmake
    exact (or_iff_right nofun).symm

/-- **Exports end if their timeout can be sent, and else break off.** No export of a client
breaks off exactly if the client is one for HTTP or its timeout is below a hundred million hours.
Then every export that is looked at comes to a result: at the latest when the timer for its
timeout goes off, and before if the collector answers or the end of the context is seen. Over
gRPC a longer timeout lets no export get as far as the collector: it breaks off where it would
send the batch. -/
theorem exports_end_iff_timeout_fits (t : Transport) (env : Environment) (ss : List Setting)
    (client : LogsClient) (h : (Built.via t env ss).result = .ok client) :
    let fits := t = .http ∨
      (Config.resolve t env ss).timeout.nanoseconds < Grpc.timeoutLimit.nanoseconds
    ((∀ context batch looks, client.isBroken (client.after (client.fresh context batch) looks) = false)
        ↔ fits) ∧
      (fits → ∀ context batch (first : client.Look) looks (last : client.Look),
        last.Ends context (first.glance.now.waitEnd client.patience) →
          (client.result? (client.after (client.fresh context batch)
            (first :: looks ++ [last]))).isSome = true) ∧
      (¬fits → ∀ context batch (first : client.Look) looks,
        client.isBroken (client.after (client.fresh context batch) (first :: looks)) = true ↔
          first.isOpen = true ∧ first.glance.ending? context = none) := by
  intro fits
  have hfits : client.CanWait ↔ fits := canWait_iff h
  rw [← hfits]
  refine ⟨⟨?_, fun hcan context => client.isBroken_after_eq_false hcan⟩,
    fun hcan context batch first looks last => client.isSome_result?_after hcan batch first looks,
    fun hcannot context => client.isBroken_after_iff hcannot⟩
  intro hnone
  by_contra hcannot
  -- an open client and a context that nothing has ended
  have hbroken : client.isBroken
      (client.after (client.fresh ⟨0, [], none⟩ []) [⟨true, .quiet {}, none⟩]) = true :=
    (client.isBroken_after_iff hcannot [] ⟨true, .quiet {}, none⟩ []).mpr ⟨rfl, rfl⟩
  exact Bool.false_ne_true ((hnone ⟨0, [], none⟩ [] [⟨true, .quiet {}, none⟩]).symm.trans hbroken)

/-- The longest timeout that fits, on a channel of the caller's. -/
def patient : List Setting :=
  [.grpcChannel ⟨0⟩, .timeout ⟨Grpc.timeoutLimit.nanoseconds - 1⟩]

/-- Nothing breaks off under the longest timeout that fits. It is a nanosecond short of a
hundred million hours, and its text is in hours. -/
theorem patient_exports_end :
    ∃ client, (Built.via .grpc (.ofVariables []) patient).result = .ok client ∧
      ∀ context batch looks,
        client.isBroken (client.after (client.fresh context batch) looks) = false := by
  have hfits : (Config.resolve .grpc (.ofVariables []) patient).timeout.nanoseconds <
      Grpc.timeoutLimit.nanoseconds := by
    decide +kernel
  obtain ⟨client, h⟩ := exists_eq_ok (x := (Built.via .grpc (.ofVariables []) patient).result)
    (by decide +kernel)
  exact ⟨client, h, (exports_end_iff_timeout_fits .grpc _ _ client h).1.mpr (.inr hfits)⟩

/-- A timeout from the environment that does not fit: the largest that is accepted. -/
def unbounded : Environment :=
  .ofVariables [("OTEL_EXPORTER_OTLP_LOGS_TIMEOUT", "18446744073709551615")]

/-- The environment is read without a warning and the client is built, but an export in an open
context breaks off at the first look. -/
theorem unbounded_export_breaks_off :
    unbounded.diagnostics = [] ∧
      ∃ client, (Built.via .grpc unbounded [.grpcChannel ⟨0⟩]).result = .ok client ∧
        client.isBroken
          (client.after (client.fresh ⟨0, [], none⟩ []) [⟨true, .quiet {}, none⟩]) = true := by
  have hlong : ¬(Config.resolve .grpc unbounded [.grpcChannel ⟨0⟩]).timeout.nanoseconds <
      Grpc.timeoutLimit.nanoseconds := by
    decide +kernel
  obtain ⟨client, h⟩ := exists_eq_ok (x := (Built.via .grpc unbounded [.grpcChannel ⟨0⟩]).result)
    (by decide +kernel)
  -- no client over gRPC can tell so long a timeout
  have hcannot : ¬client.CanWait := by
    rw [canWait_iff h, or_iff_right nofun]
    exact hlong
  exact ⟨by decide +kernel, client, h,
    (client.isBroken_after_iff hcannot [] ⟨true, .quiet {}, none⟩ []).mpr ⟨rfl, rfl⟩⟩

end Built

end LogCourier
