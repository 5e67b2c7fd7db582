import LogCourier.Proofs.Context
import LogCourier.Proofs.Exporter.Timeouts
import LogCourier.Proofs.Http.Client

/-!
# What an upload over HTTP comes to

The end of the context, the answer and the timeout race for an upload. The first look settles
whether a request is sent at all. From then on each look either finds a verdict, in a fixed order
of the three, or leaves the upload waiting, so the upload comes to the first verdict that a look
finds.

The first look asks the context itself. Later looks only wait for it, and so see a deadline when its
timer goes off, as they see the end of the timeout; an answer that comes in between is in time.

* `requests_fresh`: the requests of an upload are those of its first look.
* `Verdict` is what a look at a waiting upload can find. `poll_sent` says that it is what the look
  leaves.
* `upload_comes_to_first_verdict` follows the looks. That timers may be late cannot be left out
  of it (`overdue_context_is_overtaken`).
-/

namespace LogCourier

/-! ## Requests -/

namespace LogsClient

variable (client : LogsClient)

/-- The requests that some looks send. -/
def requests (u : client.Upload) : List client.Look → List client.Request
  | [] => []
  | l :: rest =>
    (client.request? l.isOpen l.glance u).toList
      ++ requests (client.look l.isOpen l.glance l.answer u) rest

/-- An upload that has begun sends nothing more. -/
theorem requests_of_hasBegun {u : client.Upload} (h : client.hasBegun u = true)
    (looks : List client.Look) : client.requests u looks = [] := by
  induction looks generalizing u with
  | nil => rfl
  | cons l rest ih =>
    rw [requests, client.request?_of_hasBegun h]
    exact ih (client.hasBegun_look l.isOpen u)

theorem requests_cons (u : client.Upload) (first : client.Look) (rest : List client.Look) :
    client.requests u (first :: rest) = (client.request? first.isOpen first.glance u).toList := by
  rw [requests, client.requests_of_hasBegun (client.hasBegun_look first.isOpen u), List.append_nil]

/-- An upload that has its result keeps it, whatever is looked at afterwards. -/
theorem after_of_result {u : client.Upload} {r : Outcome} (h : client.result? u = some r)
    (looks : List client.Look) : client.after u looks = u := by
  induction looks with
  | nil => rfl
  | cons l rest ih =>
    show client.after (client.look l.isOpen l.glance l.answer u) rest = u
    rw [client.look_of_result h]
    exact ih

end LogsClient

/-! ## Verdicts -/

namespace Http

/-- What a look at an upload that waits until `giveUp` can find, if the HTTP client has given
`answer` by then. The end of the context counts before the answer, and the answer before the
timeout. -/
inductive Verdict (client : Client) (context : Context) (giveUp : Instant) (g : Glance)
    (answer : Option Answer) : Outcome → Prop where
  /-- The end of the context is in sight, and the context says which. -/
  | ended (e : Ending) (hsees : g.SeesEnd context) (he : g.ending? context = some e) :
      Verdict client context giveUp g answer (.error (.context e))
  | accepted (status : Nat) (body : Bytes) (hlive : ¬g.SeesEnd context)
      (ha : answer = some (.response status body)) (hstatus : 200 ≤ status ∧ status < 300) :
      Verdict client context giveUp g answer (.ok ())
  | rejected (status : Nat) (body : Bytes) (hlive : ¬g.SeesEnd context)
      (ha : answer = some (.response status body)) (hstatus : ¬(200 ≤ status ∧ status < 300)) :
      Verdict client context giveUp g answer (.error (.exportFailed (toString status)
        ("Url: " ++ client.target.render ++ ", Response: "
          ++ String.ofList (Text.Utf8.decodeLossy body))))
  | failed (reason : String) (hlive : ¬g.SeesEnd context)
      (ha : answer = some (.failed reason)) :
      Verdict client context giveUp g answer (.error (.requestFailed reason))
  /-- Nothing came in the time that the client waits. -/
  | timedOut (hlive : ¬g.SeesEnd context) (ha : answer = none)
      (hfired : g.hasFired (.timeout giveUp) = true) :
      Verdict client context giveUp g answer (.error (.requestFailed
        ("no response within " ++ toString client.timeout.milliseconds ++ "ms")))

section Waiting

variable {client : Client} {context : Context} {giveUp : Instant} {g : Glance}
  {answer : Option Answer}

/-- The statuses of success are those from 200 up to, and without, 300. -/
theorem isSuccess_iff {status : Nat} :
    Answer.isSuccess status = true ↔ 200 ≤ status ∧ status < 300 := by
  rw [Answer.isSuccess, Bool.and_eq_true, decide_eq_true_iff, decide_eq_true_iff]

/-- There is a verdict as soon as one of the three is found. The two others may be there as
well; the order among them says which verdict it is. -/
theorem exists_verdict_iff :
    (∃ r, Verdict client context giveUp g answer r) ↔
      g.SeesEnd context ∨ answer.isSome = true ∨ g.hasFired (.timeout giveUp) = true := by
  constructor
  · rintro ⟨r, h⟩
    cases h with
    | ended e hsees => exact .inl hsees
    | accepted status body _ ha => exact .inr (.inl (by rw [ha]; rfl))
    | rejected status body _ ha => exact .inr (.inl (by rw [ha]; rfl))
    | failed reason _ ha => exact .inr (.inl (by rw [ha]; rfl))
    | timedOut _ _ hfired => exact .inr (.inr hfired)
  · intro h
    -- the first of the three that is found makes the verdict
    by_cases hsees : g.SeesEnd context
    · obtain ⟨e, he⟩ := Option.isSome_iff_exists.mp hsees.isSome_ending?
      exact ⟨_, .ended e hsees he⟩
    · have h := h.resolve_left hsees
      cases answer with
      | none => exact ⟨_, .timedOut hsees rfl (h.resolve_left Bool.false_ne_true)⟩
      | some a =>
        cases a with
        | failed reason => exact ⟨_, .failed reason hsees rfl⟩
        | response status body =>
          by_cases hstatus : 200 ≤ status ∧ status < 300
          · exact ⟨_, .accepted status body hsees rfl hstatus⟩
          · exact ⟨_, .rejected status body hsees rfl hstatus⟩

/-- A look leaves the verdict that it finds. One case per verdict, each of which fixes all
that the look gets to see. -/
theorem Verdict.poll_sent {r : Outcome} (h : Verdict client context giveUp g answer r)
    (isOpen : Bool) :
    Upload.poll client isOpen g answer (.sent context giveUp) = .ended r := by
  have hwait (hlive : ¬g.SeesEnd context) : g.done? context = none :=
    Glance.done?_eq_none_iff.mpr hlive
  cases h with
  | ended e hsees he =>
    simp only [Upload.poll, Upload.approach, Glance.done?_eq_some_iff.mpr ⟨hsees, he⟩]
  | accepted status body hlive ha hstatus =>
    simp only [Upload.poll, Upload.approach, hwait hlive, Upload.answered, ha, Answer.outcome,
      if_pos (isSuccess_iff.mpr hstatus)]
  | rejected status body hlive ha hstatus =>
    simp only [Upload.poll, Upload.approach, hwait hlive, Upload.answered, ha, Answer.outcome,
      if_neg (mt isSuccess_iff.mp hstatus)]
  | failed reason hlive ha =>
    simp only [Upload.poll, Upload.approach, hwait hlive, Upload.answered, ha, Answer.outcome]
  | timedOut hlive ha hfired =>
    simp only [Upload.poll, Upload.approach, hwait hlive, Upload.answered, ha, if_pos hfired,
      Upload.timedOut]

/-- A look that finds no verdict leaves the upload waiting, with the same context and for as
long as before. -/
theorem poll_sent_of_no_verdict (h : ∀ r, ¬Verdict client context giveUp g answer r)
    (isOpen : Bool) :
    Upload.poll client isOpen g answer (.sent context giveUp) = .sent context giveUp := by
  have hnone := mt exists_verdict_iff.mpr (not_exists.mpr h)
  obtain ⟨hlive, hanswer, hfired⟩ := by simpa only [not_or] using hnone
  have hdone : g.done? context = none := Glance.done?_eq_none_iff.mpr hlive
  have hsilent : answer = none := Option.not_isSome_iff_eq_none.mp hanswer
  simp only [Upload.poll, Upload.approach, hdone, Upload.answered, hsilent, if_neg hfired]

/-- **An upload that waits comes to the first verdict found.** Induction on the looks: this
look has a verdict and it is the result, or it has none and the upload waits as before. -/
theorem result?_after_sent_iff {client : Client} {context : Context} {giveUp : Instant}
    (looks : List (LogsClient.http client).Look) (r : Outcome) :
    (LogsClient.http client).result?
        ((LogsClient.http client).after (Upload.sent context giveUp) looks) = some r ↔
      ∃ before l later, looks = before ++ l :: later ∧
        (∀ l' ∈ before, ∀ r', ¬Verdict client context giveUp l'.glance l'.answer r') ∧
        Verdict client context giveUp l.glance l.answer r := by
  induction looks with
  | nil => exact iff_of_false nofun (by rintro ⟨before, l, later, h, -⟩; cases before <;> cases h)
  | cons l rest ih =>
    show (LogsClient.http client).result? ((LogsClient.http client).after
      (Upload.poll client l.isOpen l.glance l.answer (.sent context giveUp)) rest) = some r ↔ _
    by_cases hverdict : ∃ r', Verdict client context giveUp l.glance l.answer r'
    · -- the upload is over with this look
      obtain ⟨r', hr'⟩ := hverdict
      rw [hr'.poll_sent l.isOpen,
        (LogsClient.http client).after_of_result (u := Upload.ended r') rfl rest]
      constructor
      · intro h
        obtain rfl := Option.some.inj h
        exact ⟨[], l, rest, rfl, fun _ h => absurd h List.not_mem_nil, hr'⟩
      · rintro ⟨before, l', later, hlooks, hbefore, hr⟩
        cases before with
        | nil =>
          cases hlooks
          -- two verdicts at one look leave the same, so they are the same
          have hsame := (hr'.poll_sent true).symm.trans (hr.poll_sent true)
          cases hsame
          rfl
        | cons first before =>
          cases hlooks
          exact absurd hr' (hbefore l List.mem_cons_self r')
    · -- it goes on as before, and this look is one of those without a verdict
      have hnone := not_exists.mp hverdict
      rw [poll_sent_of_no_verdict hnone, ih]
      constructor
      · rintro ⟨before, l', later, rfl, hbefore, hr⟩
        refine ⟨l :: before, l', later, rfl, ?_, hr⟩
        exact List.forall_mem_cons.mpr ⟨hnone, hbefore⟩
      · rintro ⟨before, l', later, hlooks, hbefore, hr⟩
        cases before with
        | nil =>
          cases hlooks
          exact absurd hr (hnone r)
        | cons first before =>
          cases hlooks
          exact ⟨before, l', later, rfl, (List.forall_mem_cons.mp hbefore).2, hr⟩

/-- The first look at an upload that is sent is one at an upload that waits already. So its
verdicts count from the first look on. -/
theorem poll_fresh_of_live (hlive : g.ending? context = none) (batch : Logs.Batch) :
    Upload.poll client true g answer (.fresh context batch) =
      Upload.poll client true g answer (.sent context (g.now.waitEnd client.timeout)) := by
  simp only [Upload.poll, Upload.approach, hlive, Glance.done?_of_live hlive, if_true]

/-- An upload is accepted only by a response that says so. Neither a timer nor the end of
the context can make for success. -/
theorem Verdict.exists_response (h : Verdict client context giveUp g answer (.ok ())) :
    ∃ status body, answer = some (.response status body) ∧ 200 ≤ status ∧ status < 300 := by
  cases h with
  | accepted status body _ ha hstatus => exact ⟨status, body, ha, hstatus⟩

end Waiting

/-! ## The outcome -/

section Outcome

variable (client : Client) (context : Context) (batch : Logs.Batch)
  (first : (LogsClient.http client).Look) (rest : List (LogsClient.http client).Look)

/-- **The requests of an upload**: one if its context was live and the client open at the
first look, else none. -/
theorem requests_fresh :
    (LogsClient.http client).requests ((LogsClient.http client).fresh context batch)
        (first :: rest) =
      if first.glance.ending? context = none ∧ first.isOpen = true then [client.request batch]
      else [] := by
  rw [LogsClient.requests_cons]
  -- the first look sends nothing if the context has ended or the client is closed
  cases hending : first.glance.ending? context with
  | some e =>
    rw [((LogsClient.http client).look_fresh_of_ended hending first.isOpen none batch).2,
      if_neg (fun h => Option.some_ne_none e h.1)]
    rfl
  | none =>
    cases hopen : first.isOpen with
    | false =>
      rw [((LogsClient.http client).look_fresh_of_closed hending none batch).2,
        if_neg (fun h => Bool.false_ne_true h.2)]
      rfl
    | true =>
      rw [if_pos ⟨rfl, rfl⟩]
      show (Upload.approach client true first.glance (.fresh context batch)).2.request?.toList = _
      simp only [Upload.approach, hending, if_true]
      rfl

/-- If the context had ended by the first look, its ending is the result for good. -/
theorem after_of_ended {e : Ending} (h : first.glance.ending? context = some e) :
    (LogsClient.http client).result? ((LogsClient.http client).after
      ((LogsClient.http client).fresh context batch) (first :: rest)) =
        some (.error (.context e)) := by
  have hfirst := ((LogsClient.http client).look_fresh_of_ended h first.isOpen first.answer batch).1
  show (LogsClient.http client).result? ((LogsClient.http client).after _ rest) = _
  rw [(LogsClient.http client).after_of_result hfirst, hfirst]

/-- If the client was closed by then, that is the result. -/
theorem after_of_closed (h : first.glance.ending? context = none) (hclosed : first.isOpen = false) :
    (LogsClient.http client).result? ((LogsClient.http client).after
      ((LogsClient.http client).fresh context batch) (first :: rest)) =
        some (.error .alreadyShutdown) := by
  have hfirst := ((LogsClient.http client).look_fresh_of_closed h first.answer batch).1
  rw [← hclosed] at hfirst
  show (LogsClient.http client).result? ((LogsClient.http client).after _ rest) = _
  rw [(LogsClient.http client).after_of_result hfirst, hfirst]

/-- Else the upload goes on as one that waits, with the first look among those that it is
followed by. -/
theorem after_of_live (h : first.glance.ending? context = none) (hopen : first.isOpen = true) :
    (LogsClient.http client).after ((LogsClient.http client).fresh context batch) (first :: rest) =
      (LogsClient.http client).after
        (Upload.sent context (first.glance.now.waitEnd client.timeout)) (first :: rest) := by
  show (LogsClient.http client).after
      (Upload.poll client first.isOpen first.glance first.answer (.fresh context batch)) rest =
    (LogsClient.http client).after
      (Upload.poll client first.isOpen first.glance first.answer (.sent context _)) rest
  rw [hopen]
  exact congrArg (fun u => (LogsClient.http client).after u rest) (poll_fresh_of_live h batch)

/-- **An upload comes to the first verdict.** Of an upload over HTTP that has been looked at:

1. it sends its request, once, if its context was live and the client open at the first look, and
   else none;
2. if its context had ended then, its result is that ending, and if only the client was closed,
   that;
3. else it has a result exactly if a look found a verdict, and the result is the first verdict
   found;
4. a look finds a verdict exactly if it finds one of the three: the end of the context, by its
   cancellation or its timer, an answer, or the end of the timeout, by its timer;
5. its result is success only if a look found a response with a status of success.

Of the timers it is only known that they are not early (6). A look at which none is late sees
the end of the context and of the timeout as soon as they have come (7). -/
theorem upload_comes_to_first_verdict :
    let http := LogsClient.http client
    let looks := first :: rest
    let giveUp := first.glance.now.waitEnd client.timeout
    let result := http.result? (http.after (http.fresh context batch) looks)
    (http.requests (http.fresh context batch) looks =
        if first.glance.ending? context = none ∧ first.isOpen = true then [client.request batch]
        else [])
      ∧ (∀ e, first.glance.ending? context = some e → result = some (.error (.context e)))
      ∧ (first.glance.ending? context = none → first.isOpen = false →
          result = some (.error .alreadyShutdown))
      ∧ (first.glance.ending? context = none → first.isOpen = true → ∀ r,
          result = some r ↔ ∃ before l later, looks = before ++ l :: later ∧
            (∀ l' ∈ before, ∀ r', ¬Verdict client context giveUp l'.glance l'.answer r') ∧
            Verdict client context giveUp l.glance l.answer r)
      ∧ (∀ g answer, (∃ r, Verdict client context giveUp g answer r) ↔
          g.SeesEnd context ∨ answer.isSome = true ∨ g.hasFired (.timeout giveUp) = true)
      ∧ (result = some (.ok ()) → ∃ l ∈ looks, ∃ status body,
          l.answer = some (.response status body) ∧ 200 ≤ status ∧ status < 300)
      ∧ (∀ g : Glance, (g.SeesEnd context → (g.ending? context).isSome = true) ∧
          (g.hasFired (.timeout giveUp) = true → giveUp ≤ g.now))
      ∧ (∀ g : Glance, (∀ t : Timer, t.instant ≤ g.now → g.hasFired t = true) →
          (g.SeesEnd context ↔ (g.ending? context).isSome = true) ∧
            (g.hasFired (.timeout giveUp) = true ↔ giveUp ≤ g.now)) := by
  intro http looks giveUp result
  have hended (e : Ending) (h : first.glance.ending? context = some e) :
      result = some (.error (.context e)) := after_of_ended client context batch first rest h
  have hclosed : first.glance.ending? context = none → first.isOpen = false →
      result = some (.error .alreadyShutdown) := after_of_closed client context batch first rest
  have hlive (h : first.glance.ending? context = none) (hopen : first.isOpen = true) (r : Outcome) :
      result = some r ↔ ∃ before l later, looks = before ++ l :: later ∧
        (∀ l' ∈ before, ∀ r', ¬Verdict client context giveUp l'.glance l'.answer r') ∧
        Verdict client context giveUp l.glance l.answer r := by
    rw [← result?_after_sent_iff, ← after_of_live client context batch first rest h hopen]
  have hreached (g : Glance) (h : g.hasFired (.timeout giveUp) = true) : giveUp ≤ g.now :=
    g.never_early (.timeout giveUp) h
  refine ⟨requests_fresh client context batch first rest, hended, hclosed, hlive,
    fun g answer => exists_verdict_iff, ?ok, fun g => ⟨Glance.SeesEnd.isSome_ending?, hreached g⟩,
    fun g hprompt => ⟨Glance.seesEnd_iff_of_prompt hprompt,
      hreached g, hprompt (.timeout giveUp)⟩⟩
  case ok =>
    intro hok
    cases hending : first.glance.ending? context with
    | some e => exact absurd ((hended e hending).symm.trans hok) nofun
    | none =>
      cases hopen : first.isOpen with
      | false => exact absurd ((hclosed hending hopen).symm.trans hok) nofun
      | true =>
        -- a result of success is a verdict of some look, and that look found the response
        obtain ⟨before, l, later, hlooks, -, hverdict⟩ := (hlive hending hopen (.ok ())).mp hok
        exact ⟨l, by rw [hlooks]; exact List.mem_append_right _ List.mem_cons_self,
          hverdict.exists_response⟩

/-- A client that waits a millisecond and a half. -/
def hurried : Client where
  target := ⟨some "https", some "localhost:4318", "/v1/logs", none⟩
  fields := [⟨"user-agent", Config.userAgent⟩]
  protocol := .httpBinary
  compression := .none
  timeout := ⟨1500000⟩
  carrier := .provided ⟨0⟩

/-- A context that ends after a millisecond and a half. -/
def shortLived : Context := ⟨1, [0], some 1500000⟩

/-- While the timers are late, a deadline that is over does not count: an answer that is found
then is the result, although the context has ended. Nor does a timeout that is over: without an
answer the upload goes on. -/
theorem overdue_context_is_overtaken :
    let http := LogsClient.http hurried
    let start : http.Look := ⟨true, .quiet {}, none⟩
    let late : Glance := .quiet { now := 1700000 }
    let accepted : Option Answer := some (.response 200 [])
    Client.make (Config.resolveHttp (.ofVariables []) [.httpClient ⟨0⟩, .timeout ⟨1500000⟩]) =
        .ok hurried ∧
      (start.glance.ending? shortLived = none ∧
        late.ending? shortLived = some .deadlineExceeded ∧
        http.result? (http.after (http.fresh shortLived []) [start, ⟨true, late, accepted⟩]) =
          some (.ok ())) ∧
      start.glance.now.waitEnd hurried.timeout ≤ late.now ∧
      http.result? (http.after (http.fresh ⟨0, [], none⟩ []) [start, ⟨true, late, none⟩]) = none := by
  intro http start late accepted
  exact ⟨by decide +kernel, ⟨by decide, by decide, by decide +kernel⟩, by decide, by decide +kernel⟩

end Outcome

end Http

end LogCourier
