import LogCourier.Proofs.Exporter.Session
import LogCourier.Proofs.Simulation.Settling

/-!
# Exports in simulated runs

A simulated run over one of the library's clients looks at exports and calls of shutdown when
their tasks are woken. Whatever it does, it goes through a session: what holds of all sessions
holds in every simulated run.

* `exists_look_http` and `exists_look_grpc` tie one look of a world at an export to one look of a
  session. The world notes what was sent, and keeps what the look makes of the export.
* `Mirrors` relates a world to a session. Each change that a look is made of is matched by
  actions of the session, so looks are (`exists_mirrors_settleWithin`), and so are actions
  (`exists_mirrors_step`).
* `session_of_after` reads it for whole runs, and `requests_after_of_closed` carries one result on
  sessions over to them.
-/

namespace LogCourier.Simulation

/-- The export of a client that a task goes on with. -/
def Job.upload? : (client : LogsClient) → Job → Option client.Upload
  | .http _, .httpUpload u _ => some u
  | .grpc _, .grpcUpload u _ => some u
  | _, _ => none

theorem Job.upload?_shutdown (client : LogsClient) (stop : Option ScriptedCall) :
    (Job.shutdown stop).upload? client = none := by
  cases client <;> rfl

theorem Job.upload?_watch (client : LogsClient) (context : Context) :
    (Job.watch context).upload? client = none := by
  cases client <;> rfl

/-- A reply that arrives is not looked at yet, so the export is what it was. -/
theorem Job.upload?_received (client : LogsClient) (m : Moment) (job : Job) :
    (job.received m).upload? client = job.upload? client := by
  cases job with
  | grpcUpload u delivery => cases delivery <;> cases client <;> rfl
  | _ => rfl

namespace World

/-- The part of a world that a session knows of. -/
def outline (w : World) : Subject × Exporter × Nat × Nat × List Task × List EndedTask :=
  (w.subject, w.exporter, w.requests, w.nextTask, w.tasks, w.ended)

/-- Which tasks are to be looked at is no part of the outline. -/
theorem outline_wakeAll (w : World) (ids : List Nat) : (w.wakeAll ids).outline = w.outline := by
  obtain ⟨ready, hready, -⟩ := w.exists_ready_wakeAll ids
  rw [hready]
  rfl

theorem same_of_outline {w w' : World} (h : w'.outline = w.outline) :
    w'.subject = w.subject ∧ w'.exporter = w.exporter ∧ w'.requests = w.requests ∧
      w'.nextTask = w.nextTask ∧ w'.tasks = w.tasks ∧ w'.ended = w.ended := by
  simpa only [outline, Prod.mk.injEq] using h

/-! ## One look -/

section Look

variable (w : World) (t : Task)

/-- A look at an export over HTTP is a look of a session, with the answer that the network
gives to it, if any has come. Tasks and exporter stay as they are until the result is kept;
only the count of requests goes up. -/
theorem exists_look_http (client : Http.Client) (scripts : List HttpScript) (u : Http.Upload)
    (answer : Option (Pending Http.Answer)) :
    ∃ (noted : World) (given : Option Http.Answer) (pending : Option (Pending Http.Answer)),
      w.pollHttpUpload t client scripts u answer =
        noted.keepHttp t
          ((LogsClient.http client).look w.exporter.isOpen w.glance given u) pending ∧
      noted.outline = { w with requests := w.requests +
        ((LogsClient.http client).request? w.exporter.isOpen w.glance u).toList.length }.outline := by
  simp only [pollHttpUpload, LogsClient.look, LogsClient.request?, Http.Upload.poll]
  cases u.approach client w.exporter.isOpen w.glance with
  | mk u' move =>
    -- a look that sends a request may have its answer at once; the others take what has
    -- come
    cases move with
    | «over» => exact ⟨w.tell _, none, answer, rfl, rfl⟩
    | listens => exact ⟨w.tell _, answer.bind (·.answer? w.moment), answer, rfl, rfl⟩
    | sends r => exact ⟨(w.tell _).noteHttp client r, _, some _, rfl, rfl⟩

/-- A look at an export over gRPC is a look of a session. A reply that has not arrived is
none. Tasks and exporter stay as they are until the result is kept; only the count of
requests goes up. -/
theorem exists_look_grpc (client : Grpc.Client) (scripts : List GrpcScript) (u : Grpc.Upload)
    (delivery : Delivery) :
    ∃ (noted : World) (given : Option Grpc.Reply) (next : Delivery),
      w.pollGrpcUpload t client scripts u delivery =
        noted.keepGrpc t
          ((LogsClient.grpc client).look w.exporter.isOpen w.glance given u) next ∧
      noted.outline = { w with requests := w.requests +
        ((LogsClient.grpc client).request? w.exporter.isOpen w.glance u).toList.length }.outline := by
  simp only [pollGrpcUpload, LogsClient.look, LogsClient.request?, Grpc.Upload.poll]
  cases u.approach client w.exporter.isOpen w.glance with
  | mk u' move =>
    -- a reply to a request that is sent now cannot have arrived
    cases move with
    | «over» => exact ⟨w.tell _, none, delivery, rfl, rfl⟩
    | listens => exact ⟨(w.tell _).tell _, _, delivery, rfl, rfl⟩
    | sends r =>
      exact ⟨((w.tell _).noteGrpc client (u'.answered w.glance none).1 r).tell _, none, .underway _,
        rfl, rfl⟩

end Look

/-! ## A world and a session -/

/-- A world goes with a session of its client: they have the same exporter, as many requests were
sent, and each export of a task is in the session, at the place that `place` gives for the number
of the task. There it stays when the task is over, so an outcome that was reported can be found
there. -/
structure Mirrors (network : Network) (client : LogsClient) (place : Nat → Option Nat) (w : World)
    (s : Session client) : Prop where
  subject_eq : w.subject = network.subject client
  exporter_eq : s.exporter = w.exporter
  requests_eq : s.requests.length = w.requests
  place_inj : ∀ i j n, place i = some n → place j = some n → i = j
  place_lt : ∀ i n, place i = some n → i < w.nextTask ∧ n < s.exports.length
  upload_eq : ∀ t ∈ w.tasks, (place t.id).bind (s.exports[·]?) = t.job.upload? client
  ended_eq : ∀ e ∈ w.ended, ∀ n r, place e.id = some n → e.ending = .outcome r →
    (s.exports[n]?).bind client.result? = some r

section Changes

variable {network : Network} {client : LogsClient} {place : Nat → Option Nat} {w w' : World}
  {s : Session client} {t : Task}

/-- Only a part of the world is mirrored, so what changes the rest changes nothing. -/
theorem Mirrors.congr (h : Mirrors network client place w s) (hsame : w'.outline = w.outline) :
    Mirrors network client place w' s := by
  obtain ⟨hsubject, hexporter, hrequests, hnext, htasks, hended⟩ := same_of_outline hsame
  exact {
    subject_eq := hsubject ▸ h.subject_eq
    exporter_eq := hexporter ▸ h.exporter_eq
    requests_eq := hrequests ▸ h.requests_eq
    place_inj := h.place_inj
    place_lt := fun i n hi => hnext ▸ h.place_lt i n hi
    upload_eq := fun t ht => h.upload_eq t (htasks ▸ ht)
    ended_eq := fun e he => h.ended_eq e (hended ▸ he) }

/-- A task without an export has no place in the session. -/
theorem Mirrors.place_eq_none (h : Mirrors network client place w s) (ht : t ∈ w.tasks)
    (hjob : t.job.upload? client = none) : place t.id = none := by
  cases hplace : place t.id with
  | none => rfl
  | some n =>
    have hupload := h.upload_eq t ht
    rw [hplace, hjob] at hupload
    exact absurd (h.place_lt t.id n hplace).2 (Nat.not_lt.mpr (List.getElem?_eq_none_iff.mp hupload))

theorem Mirrors.exists_place (h : Mirrors network client place w s) (ht : t ∈ w.tasks)
    {u : client.Upload} (hjob : t.job.upload? client = some u) :
    ∃ n, place t.id = some n ∧ s.exports[n]? = some u :=
  Option.bind_eq_some_iff.mp ((h.upload_eq t ht).trans hjob)

/-- The exporter moves on both sides, if exports and requests stay where they are. -/
theorem Mirrors.exporter (h : Mirrors network client place w s) (s' : Session client)
    (hs : s'.exports = s.exports) (hrequests : s'.requests = s.requests)
    (hw : w'.outline = { w with exporter := s'.exporter }.outline) :
    Mirrors network client place w' s' := by
  -- exports and requests are those of before, so their places are
  have hmoved : Mirrors network client place { w with exporter := s'.exporter } s' := {
    subject_eq := h.subject_eq
    exporter_eq := rfl
    requests_eq := by rw [hrequests]; exact h.requests_eq
    place_inj := h.place_inj
    place_lt := by rw [hs]; exact h.place_lt
    upload_eq := by rw [hs]; exact h.upload_eq
    ended_eq := by rw [hs]; exact h.ended_eq }
  exact hmoved.congr hw

/-- A task is over. If it was an export with a result, that is the one in the session. -/
theorem Mirrors.finish (h : Mirrors network client place w s) {e : TaskEnd}
    (hend : ∀ n r, place t.id = some n → e = .outcome r →
      (s.exports[n]?).bind client.result? = some r) :
    Mirrors network client place (w.finish t e) s where
  subject_eq := h.subject_eq
  exporter_eq := h.exporter_eq
  requests_eq := h.requests_eq
  place_inj := h.place_inj
  place_lt := h.place_lt
  upload_eq t' ht' := h.upload_eq t' (List.mem_filter.mp ht').1
  ended_eq e' he' := by
    -- an end that was reported before, or the new one
    rcases List.mem_append.mp he' with he' | he'
    · exact h.ended_eq e' he'
    · obtain rfl := List.mem_singleton.mp he'
      exact hend

/-- A task without an export may end with anything. -/
theorem Mirrors.finish_other (h : Mirrors network client place w s) (ht : t ∈ w.tasks)
    (hjob : t.job.upload? client = none) (e : TaskEnd) :
    Mirrors network client place (w.finish t e) s := by
  refine h.finish fun n r hplace => ?_
  rw [h.place_eq_none ht hjob] at hplace
  cases hplace

/-- An export that is replaced leaves the places of the other tasks alone, since no two tasks
have one place. -/
theorem Mirrors.upload_eq_set (h : Mirrors network client place w s) {n : Nat}
    (hplace : place t.id = some n) (next : client.Upload) {t' : Task} (ht' : t' ∈ w.tasks)
    (hne : t'.id ≠ t.id) :
    (place t'.id).bind ((s.exports.set n next)[·]?) = t'.job.upload? client := by
  rw [← h.upload_eq t' ht']
  cases hi : place t'.id with
  | none => rfl
  | some m =>
    have hother : n ≠ m := fun heq => hne (h.place_inj t'.id t.id n (heq ▸ hi) hplace)
    exact List.getElem?_set_ne hother

/-- What has been reported is still found where it was after a look at an export: if it is the
result of this one, the look leaves it there. -/
theorem Mirrors.ended_eq_set (h : Mirrors network client place w s) {n : Nat} {u : client.Upload}
    (hn : s.exports[n]? = some u) (isOpen : Bool) (g : Glance) (given : Option client.Answer)
    {e : EndedTask} (he : e ∈ w.ended) {m : Nat} {r : Outcome} (hm : place e.id = some m)
    (hr : e.ending = .outcome r) :
    ((s.exports.set n (client.look isOpen g given u))[m]?).bind client.result? = some r := by
  have hresult := h.ended_eq e he m r hm hr
  by_cases heq : n = m
  · subst heq
    rw [hn] at hresult
    rw [List.getElem?_set_self (List.getElem?_eq_some_iff.mp hn).1, client.look_of_result hresult]
    exact hresult
  · rw [List.getElem?_set_ne heq]
    exact hresult

/-- One export is replaced and requests are sent. What is left to show is that the tasks and the
reports of afterwards go with the exports of afterwards. -/
theorem Mirrors.replace (h : Mirrors network client place w s) (n : Nat) (next : client.Upload)
    (sent : List client.Request)
    (hw : w'.outline = { w with requests := w.requests + sent.length }.outline)
    (ts : List Task) (es : List EndedTask)
    (hts : ∀ t ∈ ts, (place t.id).bind ((s.exports.set n next)[·]?) = t.job.upload? client)
    (hes : ∀ e ∈ es, ∀ m r, place e.id = some m → e.ending = .outcome r →
      ((s.exports.set n next)[m]?).bind client.result? = some r) :
    Mirrors network client place { w' with tasks := ts, ended := es }
      { s with exports := s.exports.set n next, requests := s.requests ++ sent } := by
  obtain ⟨hsubject, hexporter, hrequests, hnumber, -, -⟩ := same_of_outline hw
  exact {
    subject_eq := hsubject.trans h.subject_eq
    exporter_eq := h.exporter_eq.trans hexporter.symm
    requests_eq := by
      rw [List.length_append, h.requests_eq]
      exact hrequests.symm
    place_inj := h.place_inj
    place_lt := fun i m hi => by
      rw [List.length_set]
      exact ⟨(h.place_lt i m hi).1.trans_eq hnumber.symm, (h.place_lt i m hi).2⟩
    upload_eq := hts
    ended_eq := hes }

/-- **A look at an export**, with its result kept or reported, is a look of the session.
Both ways of going on are given, since which one it is depends on what the look leaves. -/
theorem Mirrors.exists_look (h : Mirrors network client place w s) (ht : t ∈ w.tasks)
    {u : client.Upload} (hjob : t.job.upload? client = some u) (g : Glance)
    (given : Option client.Answer)
    (hw : w'.outline = { w with requests := w.requests +
      (client.request? w.exporter.isOpen g u).toList.length }.outline) :
    ∃ a, (∀ job, job.upload? client = some (client.look w.exporter.isOpen g given u) →
        Mirrors network client place (w'.setJob t.id job) (s.step a)) ∧
      ∀ e, (∀ r, e = .outcome r →
          client.result? (client.look w.exporter.isOpen g given u) = some r) →
        Mirrors network client place (w'.finish t e) (s.step a) := by
  obtain ⟨n, hplace, hn⟩ := h.exists_place ht hjob
  have hstep : s.step (.lookExport n g given) = { s with
      exports := s.exports.set n (client.look w.exporter.isOpen g given u)
      requests := s.requests ++ (client.request? w.exporter.isOpen g u).toList } := by
    simp only [Session.step, hn, h.exporter_eq]
  have hself : (s.exports.set n (client.look w.exporter.isOpen g given u))[n]? =
      some (client.look w.exporter.isOpen g given u) :=
    List.getElem?_set_self (List.getElem?_eq_some_iff.mp hn).1
  obtain ⟨-, -, -, -, htasks, hended⟩ := same_of_outline hw
  refine ⟨.lookExport n g given, fun job hkept => ?_, fun e hresult => ?_⟩
  · -- the task goes on with what the look has left, and the others are untouched
    rw [hstep]
    refine h.replace n _ _ hw _ _ (fun t' ht' => ?_) fun e he m r hm hr =>
      h.ended_eq_set hn _ g given (hended ▸ he) hm hr
    obtain ⟨old, hold, rfl⟩ := List.mem_map.mp ht'
    by_cases hid : old.id = t.id
    · rw [if_pos hid]
      show (place old.id).bind _ = _
      rw [hid, hplace]
      exact hself.trans hkept.symm
    · rw [if_neg hid]
      exact h.upload_eq_set hplace _ (htasks ▸ hold) hid
  · -- the task is gone, and its result is reported
    rw [hstep]
    have hgone := h.replace n (client.look w.exporter.isOpen g given u) _ hw
      (w'.tasks.filter (·.id != t.id)) (w'.ended ++ [⟨t.id, t.name, e⟩])
      (fun t' ht' => ?others) fun e' he' m r hm hr => ?reported
    case others =>
      obtain ⟨hmem, hid⟩ := List.mem_filter.mp ht'
      exact h.upload_eq_set hplace _ (htasks ▸ hmem) (by simpa using hid)
    case reported =>
      rcases List.mem_append.mp he' with he' | he'
      · exact h.ended_eq_set hn _ g given (hended ▸ he') hm hr
      · obtain rfl := List.mem_singleton.mp he'
        have hsame : n = m := Option.some.inj (hplace.symm.trans hm)
        rw [← hsame, hself]
        exact hresult r hr
    exact hgone.congr rfl

end Changes

/-! ## Looks and actions -/

section Steps

variable {network : Network} {client : LogsClient} {place : Nat → Option Nat} {w : World}
  {s : Session client} {t : Task}

/-- **A look at a call of shutdown** is one of the session's, with the same exporter on both
sides. -/
theorem Mirrors.pollClientShutdown (h : Mirrors network client place w s) (ht : t ∈ w.tasks)
    (hjob : t.job.upload? client = none) :
    Mirrors network client place (w.pollClientShutdown t client)
      (s.step (.lookShutdown t.id w.glance)) := by
  have hstep : (s.step (.lookShutdown t.id w.glance)).exporter =
      (w.exporter.pollShutdown w.glance t.id).1 := by
    rw [Session.exporter_step, h.exporter_eq]
    rfl
  unfold World.pollClientShutdown
  simp only
  -- telling and waking are no part of what is mirrored
  generalize hheld : (w.tell _).withExporter (w.exporter.pollShutdown w.glance t.id).1 = held
  have houtline : held.outline =
      { w with exporter := (s.step (.lookShutdown t.id w.glance)).exporter }.outline := by
    rw [hstep, ← hheld]
    exact outline_wakeAll _ _
  have hmoved := h.exporter (s.step (.lookShutdown t.id w.glance)) rfl rfl houtline
  have htasks : held.tasks = w.tasks := hheld ▸ tasks_wakeAll _ _
  unfold closeShutdown
  split
  · exact hmoved.finish_other (htasks ▸ ht) hjob _
  · exact hmoved

/-- An export over HTTP is reported when it has its result and else kept, as the session has
it. -/
theorem Mirrors.keepHttp {c : Http.Client} {s : Session (.http c)} {next : Http.Upload}
    (answer : Option (Pending Http.Answer))
    (hkeeps : ∀ job, job.upload? (.http c) = some next →
      Mirrors network (.http c) place (w.setJob t.id job) s)
    (hends : ∀ e, (∀ r, e = .outcome r → next.result? = some r) →
      Mirrors network (.http c) place (w.finish t e) s) :
    Mirrors network (.http c) place (w.keepHttp t next answer) s := by
  cases next with
  | ended r => exact hends _ fun r' hr => congrArg some (TaskEnd.outcome.inj hr)
  | fresh context batch => exact hkeeps _ rfl
  | sent context giveUp => exact hkeeps _ rfl

/-- Over gRPC an export that broke off is reported too, though it has no result. -/
theorem Mirrors.keepGrpc {c : Grpc.Client} {s : Session (.grpc c)} {next : Grpc.Upload}
    (delivery : Delivery)
    (hkeeps : ∀ job, job.upload? (.grpc c) = some next →
      Mirrors network (.grpc c) place (w.setJob t.id job) s)
    (hends : ∀ e, (∀ r, e = .outcome r → next.result? = some r) →
      Mirrors network (.grpc c) place (w.finish t e) s) :
    Mirrors network (.grpc c) place (w.keepGrpc t next delivery) s := by
  cases next with
  | ended r => exact hends _ fun r' hr => congrArg some (TaskEnd.outcome.inj hr)
  | broken => exact hends _ nofun
  | fresh context batch => exact hkeeps _ rfl
  | sent context giveUp => exact hkeeps _ rfl

/-- So a look at an export over HTTP is one action of the session. -/
theorem Mirrors.exists_pollHttpUpload {c : Http.Client} {s : Session (.http c)}
    (h : Mirrors network (.http c) place w s) (ht : t ∈ w.tasks) {u : Http.Upload}
    {answer : Option (Pending Http.Answer)} (hjob : t.job = .httpUpload u answer)
    (scripts : List HttpScript) :
    ∃ a, Mirrors network (.http c) place (w.pollHttpUpload t c scripts u answer) (s.step a) := by
  obtain ⟨noted, given, pending, hlook, hnoted⟩ := w.exists_look_http t c scripts u answer
  obtain ⟨a, hkeeps, hends⟩ := h.exists_look ht (u := u) (by rw [hjob]; rfl) w.glance given hnoted
  rw [hlook]
  exact ⟨a, .keepHttp pending hkeeps hends⟩

theorem Mirrors.exists_pollGrpcUpload {c : Grpc.Client} {s : Session (.grpc c)}
    (h : Mirrors network (.grpc c) place w s) (ht : t ∈ w.tasks) {u : Grpc.Upload}
    {delivery : Delivery} (hjob : t.job = .grpcUpload u delivery) (scripts : List GrpcScript) :
    ∃ a, Mirrors network (.grpc c) place (w.pollGrpcUpload t c scripts u delivery) (s.step a) := by
  obtain ⟨noted, given, next, hlook, hnoted⟩ := w.exists_look_grpc t c scripts u delivery
  obtain ⟨a, hkeeps, hends⟩ := h.exists_look ht (u := u) (by rw [hjob]; rfl) w.glance given hnoted
  rw [hlook]
  exact ⟨a, .keepGrpc next hkeeps hends⟩

/-- **A look at a task** is at most one action of the session. Watching a context is none,
and jobs of other clients do nothing. -/
theorem exists_mirrors_pollTask (h : Mirrors network client place w s) (ht : t ∈ w.tasks) :
    ∃ bs, Mirrors network client place (w.pollTask t) (s.run bs) := by
  unfold pollTask
  rw [h.subject_eq]
  cases client with
  | http c =>
    cases hjob : t.job with
    | shutdown stop => exact ⟨[.lookShutdown t.id w.glance], h.pollClientShutdown ht (by rw [hjob]; rfl)⟩
    | scriptedUpload context amount call => exact ⟨[], h⟩
    | httpUpload u answer =>
      -- the answers are those that the network has for this transport
      obtain ⟨a, ha⟩ := h.exists_pollHttpUpload ht hjob network.http
      exact ⟨[a], ha⟩
    | grpcUpload u delivery => exact ⟨[], h⟩
    | watch context =>
      refine ⟨[], ?_⟩
      simp only
      split
      · exact h.finish_other ht (by rw [hjob]; rfl) _
      · exact h
  | grpc c =>
    cases hjob : t.job with
    | shutdown stop => exact ⟨[.lookShutdown t.id w.glance], h.pollClientShutdown ht (by rw [hjob]; rfl)⟩
    | scriptedUpload context amount call => exact ⟨[], h⟩
    | httpUpload u answer => exact ⟨[], h⟩
    | grpcUpload u delivery =>
      obtain ⟨a, ha⟩ := h.exists_pollGrpcUpload ht hjob network.grpc
      exact ⟨[a], ha⟩
    | watch context =>
      refine ⟨[], ?_⟩
      simp only
      split
      · exact h.finish_other ht (by rw [hjob]; rfl) _
      · exact h

/-- A reply that arrives is not looked at yet, so nothing happens in the session. -/
theorem Mirrors.deliver (h : Mirrors network client place w s) :
    Mirrors network client place w.deliver s := by
  have hreceived : Mirrors network client place { w with
      tasks := w.tasks.map fun t => { t with job := t.job.received w.moment } } s := {
    subject_eq := h.subject_eq
    exporter_eq := h.exporter_eq
    requests_eq := h.requests_eq
    place_inj := h.place_inj
    place_lt := h.place_lt
    upload_eq := fun t ht => by
      obtain ⟨old, hold, rfl⟩ := List.mem_map.mp ht
      rw [Job.upload?_received]
      exact h.upload_eq old hold
    ended_eq := h.ended_eq }
  exact hreceived.congr (outline_wakeAll _ _)

/-- **Looks between two actions** are actions of the session, one after the other. Induction
on the number of looks. -/
theorem exists_mirrors_settleWithin (n : Nat) (h : Mirrors network client place w s) :
    ∃ bs, Mirrors network client place (w.settleWithin n) (s.run bs) := by
  induction n generalizing w s with
  | zero => exact ⟨[], h⟩
  | succ n ih =>
    unfold settleWithin
    split
    · rename_i id rest _
      have hrest : Mirrors network client place { w with ready := rest } s := h.congr rfl
      have hlook : ∃ bs, Mirrors network client place (lookAt { w with ready := rest } id)
          (s.run bs) := by
        unfold lookAt
        split
        · rename_i t htask
          exact exists_mirrors_pollTask hrest (List.mem_of_find?_eq_some htask)
        · exact ⟨[], hrest⟩
      -- first the actions of this look, then those of the looks behind it
      obtain ⟨bs, hbs⟩ := hlook
      obtain ⟨cs, hcs⟩ := ih hbs
      exact ⟨bs ++ cs, by rw [Session.run_append]; exact hcs⟩
    · simp only
      split
      · exact ⟨[], h.deliver⟩
      · exact ih h.deliver

/-- A new task that is no export leaves the session where it is. The places of exports stay
below the next number, so that later exports still find theirs free. -/
theorem Mirrors.startTask (h : Mirrors network client place w s) (name : String) {job : Job}
    (hjob : job.upload? client = none) : Mirrors network client place (w.startTask name job) s := by
  have hstarted : Mirrors network client place { w with
      tasks := w.tasks ++ [⟨w.nextTask, name, job⟩], nextTask := w.nextTask + 1 } s := {
    subject_eq := h.subject_eq
    exporter_eq := h.exporter_eq
    requests_eq := h.requests_eq
    place_inj := h.place_inj
    place_lt := fun i n hi =>
      ⟨Nat.lt_succ_of_lt (h.place_lt i n hi).1, (h.place_lt i n hi).2⟩
    upload_eq := fun t ht => by
      rcases List.mem_append.mp ht with ht | ht
      · exact h.upload_eq t ht
      · obtain rfl := List.mem_singleton.mp ht
        rw [hjob]
        show (place w.nextTask).bind _ = none
        -- the new number has no place, since places are given to numbers before it
        cases hplace : place w.nextTask with
        | none => rfl
        | some n => exact absurd (h.place_lt _ n hplace).1 (Nat.lt_irrefl _)
    ended_eq := h.ended_eq }
  exact hstarted.congr (outline_wakeAll _ [w.nextTask])

/-- The job of a new export is a fresh upload of the client. -/
theorem upload?_exportJob (network : Network) (client : LogsClient) (context : Context)
    (batch : Logs.Batch) :
    (exportJob context batch (network.subject client)).upload? client =
      some (client.fresh context batch) := by
  cases client <;> rfl

/-- A new export has its place behind the others. Its task has a new number, so no place is
taken twice. -/
theorem Mirrors.exists_startExport (h : Mirrors network client place w s) (hw : w.Sound)
    (name : String) (context : Context) (batch : Logs.Batch) {job : Job}
    (hjob : job.upload? client = some (client.fresh context batch)) (hended : w.ended = []) :
    ∃ place', Mirrors network client place' (w.startTask name job)
      (s.step (.export context batch)) := by
  refine ⟨fun i => if i = w.nextTask then some s.exports.length else place i, ?_⟩
  have hbefore {i n : Nat} (hi : place i = some n) : i ≠ w.nextTask ∧ n ≠ s.exports.length :=
    ⟨Nat.ne_of_lt (h.place_lt i n hi).1, Nat.ne_of_lt (h.place_lt i n hi).2⟩
  have hstarted : Mirrors network client
      (fun i => if i = w.nextTask then some s.exports.length else place i) { w with
        tasks := w.tasks ++ [⟨w.nextTask, name, job⟩], nextTask := w.nextTask + 1 }
      { s with exports := s.exports ++ [client.fresh context batch] } := {
    subject_eq := h.subject_eq
    exporter_eq := h.exporter_eq
    requests_eq := h.requests_eq
    -- the new place is the length of the list, so none of the old ones
    place_inj := fun i j n hi hj => by
      split at hi
      · split at hj
        · rename_i hi' hj'
          exact hi'.trans hj'.symm
        · exact absurd (Option.some.inj hi).symm (hbefore hj).2
      · split at hj
        · exact absurd (Option.some.inj hj).symm (hbefore hi).2
        · exact h.place_inj i j n hi hj
    place_lt := fun i n hi => by
      rw [List.length_append]
      split at hi
      · rename_i hi'
        rw [← Option.some.inj hi, hi']
        exact ⟨Nat.lt_succ_self _, Nat.lt_succ_self _⟩
      · exact ⟨Nat.lt_succ_of_lt (h.place_lt i n hi).1, Nat.lt_succ_of_lt (h.place_lt i n hi).2⟩
    upload_eq := fun t ht => by
      rcases List.mem_append.mp ht with ht | ht
      · -- the numbers of the old tasks are before the next one
        have hid : t.id ≠ w.nextTask :=
          Nat.ne_of_lt (hw.numbered.behind t.id (List.mem_map_of_mem ht))
        rw [if_neg hid, ← h.upload_eq t ht]
        cases hplace : place t.id with
        | none => rfl
        | some n => exact List.getElem?_append_left (h.place_lt t.id n hplace).2
      · obtain rfl := List.mem_singleton.mp ht
        show (if w.nextTask = w.nextTask then some s.exports.length else _).bind _ = _
        rw [if_pos rfl, hjob]
        exact List.getElem?_concat_length ..
    ended_eq := fun e he => by
      rw [hended] at he
      cases he }
  exact hstarted.congr (outline_wakeAll _ [w.nextTask])

theorem outline_context (w : World) (name : String) : (w.context name).2.outline = w.outline := by
  unfold World.context
  split <;> rfl

/-- A task that is dropped has no outcome; a call of shutdown is dropped with it. -/
theorem Mirrors.exists_abortTask (h : Mirrors network client place w s) (t : Task) :
    ∃ bs, Mirrors network client place (w.abortTask t) (s.run bs) := by
  have hgate : Mirrors network client place (w.withGate (w.gate.leave t.id)) s :=
    h.congr (outline_wakeAll _ _)
  simp only [World.abortTask]
  generalize w.withGate (w.gate.leave t.id) = left at hgate
  -- shutdown loses the call that the task was for
  have hdropped : Mirrors network client place
      (left.withShutdown (left.exporter.shutdown.drop t.id)) (s.step (.dropShutdown t.id)) := by
    refine hgate.exporter _ rfl rfl ?_
    rw [Session.exporter_step, hgate.exporter_eq]
    exact outline_wakeAll _ _
  have hend (r : Outcome) : TaskEnd.aborted ≠ .outcome r := TaskEnd.noConfusion
  cases t.job with
  | shutdown stop => exact ⟨[.dropShutdown t.id], hdropped.finish fun _ r _ he => absurd he (hend r)⟩
  | _ => exact ⟨[], hgate.finish fun _ r _ he => absurd he (hend r)⟩

/-- **An action** is matched by actions of the session. Those that are about contexts, the
clock and the gate are matched by none. -/
theorem exists_mirrors_act (h : Mirrors network client place w s) (hw : w.Sound)
    (hended : w.ended = []) (a : Action) :
    ∃ bs place', Mirrors network client place' (w.act a).1 (s.run bs) := by
  have hcontext (name : String) : Mirrors network client place (w.context name).2 s :=
    h.congr (w.outline_context name)
  have hsound (name : String) : (w.context name).2.Sound :=
    hw.drives (.of_footing (w.footing_context _)) (by rw [ids_context])
  have hsame {v : World} (hv : v.outline = w.outline) :
      ∃ bs place', Mirrors network client place' v (s.run bs) :=
    ⟨[], place, h.congr hv⟩
  cases a with
  | derive name how parent => exact hsame (w.outline_context parent)
  | cancel context => exact hsame ((outline_wakeAll _ _).trans (w.outline_context context))
  | askEnding context => exact hsame (w.outline_context context)
  | askDeadline context => exact hsame (w.outline_context context)
  | advance d => exact hsame (outline_wakeAll _ _)
  | release => exact hsame (outline_wakeAll _ _)
  | releaseAll => exact hsame (outline_wakeAll _ _)
  | shutdown task context =>
    -- the number of the task is new to shutdown, so the call is made on both sides
    have hnew : (w.context context).2.exporter.shutdown.call? (w.context context).2.nextTask = none :=
      (hsound context).grounded.call?_eq_none _ (Nat.le_refl _)
    have hmoved := (hcontext context).exporter
      (s.step (.shutdown (w.context context).2.nextTask (w.context context).1)) rfl rfl rfl
    have hstep : (s.step (.shutdown (w.context context).2.nextTask (w.context context).1)).exporter =
        { (w.context context).2.exporter with
          shutdown := (w.context context).2.exporter.shutdown.start (w.context context).2.nextTask
            (w.context context).1 } := by
      rw [Session.exporter_step, (hcontext context).exporter_eq]
      simp only [Session.actOn, Shutdown.step, hnew]
      rfl
    rw [hstep] at hmoved
    exact ⟨[.shutdown (w.context context).2.nextTask (w.context context).1], place,
      hmoved.startTask task (Job.upload?_shutdown client none)⟩
  | «export» task context batch =>
    obtain ⟨-, -, -, -, -, hover⟩ := same_of_outline (w.outline_context context)
    have hsubject := (hcontext context).subject_eq
    refine ⟨[.export (w.context context).1 batch], ?_⟩
    simp only [act, startExport, hsubject]
    exact (hcontext context).exists_startExport (hsound context) task _ batch
      (upload?_exportJob network client _ batch) (hover.trans hended)
  | watch task context =>
    exact ⟨[], place, (hcontext context).startTask task (Job.upload?_watch client _)⟩
  | abort task =>
    show ∃ bs place', Mirrors network client place' (w.abort task) (s.run bs)
    unfold abort
    split
    · obtain ⟨bs, hbs⟩ := h.exists_abortTask _
      exact ⟨bs, place, hbs⟩
    · exact ⟨[], place, h⟩

end Steps

/-! ## Runs -/

section Runs

variable {network : Network} {client : LogsClient} {place : Nat → Option Nat} {w : World}
  {s : Session client}

/-- An action and the looks behind it are matched together. -/
theorem exists_mirrors_step (h : Mirrors network client place w s) (hw : w.Sound) (a : Action) :
    ∃ bs place', Mirrors network client place' (w.step a).1 (s.run bs) := by
  have hcleared : Mirrors network client place w.cleared s :=
    ⟨h.subject_eq, h.exporter_eq, h.requests_eq, h.place_inj, h.place_lt, h.upload_eq, nofun⟩
  obtain ⟨bs, place', hact⟩ :=
    exists_mirrors_act hcleared ⟨hw.numbered, hw.grounded⟩ rfl a
  obtain ⟨cs, hsettled⟩ := exists_mirrors_settleWithin (w.cleared.act a).1.unrest hact
  refine ⟨bs ++ cs, place', ?_⟩
  rw [Session.run_append]
  exact hsettled

theorem exists_mirrors_after (h : Mirrors network client place w s) (hw : w.Sound)
    (as : List Action) : ∃ bs place', Mirrors network client place' (w.after as) (s.run bs) := by
  induction as generalizing w s place with
  | nil => exact ⟨[], place, h⟩
  | cons a rest ih =>
    obtain ⟨bs, place', hstep⟩ := exists_mirrors_step h hw a
    obtain ⟨cs, place'', hrest⟩ := ih hstep (sound_step hw a).1
    refine ⟨bs ++ cs, place'', ?_⟩
    rw [Session.run_append]
    exact hrest

/-- At the start there are neither exports nor requests on either side. -/
theorem mirrors_start (network : Network) (client : LogsClient) :
    Mirrors network client (fun _ => none) (network.start client) {} where
  subject_eq := rfl
  exporter_eq := rfl
  requests_eq := rfl
  place_inj _ _ _ := nofun
  place_lt _ _ := nofun
  upload_eq _ := nofun
  ended_eq _ := nofun

/-- **A simulated run is a session.** Whatever the network and the actions, a run of a client of the
library leaves its exporter, its requests and its exports in a state that a session leads to. -/
theorem session_of_after (network : Network) (client : LogsClient) (as : List Action) :
    ∃ bs place, Mirrors network client place ((network.start client).after as)
      (Session.run {} bs) :=
  exists_mirrors_after (mirrors_start network client) (sound_start _ _) as

theorem sound_after (hw : w.Sound) (as : List Action) : (w.after as).Sound := by
  unfold after
  induction as generalizing w with
  | nil => exact hw
  | cons a rest ih => exact ih (sound_step hw a).1

/-- **A closed client sends nothing**, in simulated runs as in sessions: once a shutdown has
closed it, no action leads to another request, to the collector or elsewhere. Both worlds
are mirrored by sessions, of which the later one goes on from the former. -/
theorem requests_after_of_closed (network : Network) (client : LogsClient) (as later : List Action)
    (hclosed : ((network.start client).after as).exporter.isOpen = false) :
    (((network.start client).after as).after later).requests =
      ((network.start client).after as).requests := by
  obtain ⟨bs, place, hmirrors⟩ := session_of_after network client as
  have hsound := sound_after (sound_start (network.subject client) network.elsewhere) as
  obtain ⟨cs, place', hlater⟩ := exists_mirrors_after hmirrors hsound later
  rw [← hlater.requests_eq, ← hmirrors.requests_eq,
    Session.requests_run_of_closed (hmirrors.exporter_eq ▸ hclosed)]

end Runs

end World

end LogCourier.Simulation
