import LogCourier.Proofs.Exporter.Agreement
import LogCourier.Proofs.Exporter.Uploads

/-!
# Sessions of an exporter

A session is what callers do with an exporter over one of the library's clients: they make calls of
shutdown and of export, look at them in any order, each look at a moment of its own, and drop them.
An export that is dropped is one that is not looked at again.

Exports only read whether the client is open and shutdowns only read their contexts, so the two
hardly meet. `exporter_run_filter` says that exports leave no trace in the exporter;
`export_run_filter` that an export which has begun does not notice the shutdowns. What they do
share is the closed client: it stays closed, nothing is sent from then on
(`requests_run_of_closed`), and the exports that are still asked for come to nothing
(`idleFrom_run`).
-/

namespace LogCourier

/-- An exporter in use: its own state, its exports in the order in which they were asked for, and
the requests that were sent. -/
structure Session (client : LogsClient) where
  exporter : Exporter := {}
  exports : List client.Upload := []
  requests : List client.Request := []

namespace Session

/-- One action of a session. Calls of shutdown go by numbers of the caller's, exports by their place
in the list. -/
inductive Action (client : LogsClient) where
  | shutdown (id : Nat) (context : Context)
  | lookShutdown (id : Nat) (g : Glance)
  | dropShutdown (id : Nat)
  | «export» (context : Context) (batch : Logs.Batch)
  /-- A look at an export, if the collector has given `answer`. -/
  | lookExport (n : Nat) (g : Glance) (answer : Option client.Answer)

variable {client : LogsClient}

/-- The actions that are about exports; the others are about shutdown. -/
def Action.isExport : Action client → Bool
  | .export .. | .lookExport .. => true
  | _ => false

/-- The state of an exporter after an action. -/
def actOn (x : Exporter) : Action client → Exporter
  | .shutdown id context => { x with shutdown := x.shutdown.step (.call id context) }
  | .lookShutdown id g => (x.pollShutdown g id).1
  | .dropShutdown id => { x with shutdown := x.shutdown.step (.drop id) }
  | .export .. | .lookExport .. => x

/-- The state after an action. -/
def step (s : Session client) : Action client → Session client
  | .export context batch => { s with exports := s.exports ++ [client.fresh context batch] }
  | .lookExport n g answer =>
    match s.exports[n]? with
    | some u =>
      { s with
        exports := s.exports.set n (client.look s.exporter.isOpen g answer u)
        requests := s.requests ++ (client.request? s.exporter.isOpen g u).toList }
    | none => s
  | a => { s with exporter := actOn s.exporter a }

/-- The state after a list of actions. -/
def run (s : Session client) (as : List (Action client)) : Session client :=
  as.foldl step s

theorem run_append (s : Session client) (as bs : List (Action client)) :
    s.run (as ++ bs) = (s.run as).run bs :=
  List.foldl_append ..

/-! ## The exporter of a session -/

section Exporter

variable (x : Exporter) (s : Session client) (a : Action client) (as : List (Action client))

theorem actOn_of_isExport {a : Action client} (h : a.isExport = true) : actOn x a = x := by
  cases a <;> first | rfl | cases h

/-- The exporter after an action follows from the exporter before it, whatever exports and
requests there are. -/
theorem exporter_step : (s.step a).exporter = actOn s.exporter a := by
  cases a with
  | lookExport n g answer =>
    simp only [step]
    split <;> rfl
  | _ => rfl

theorem exporter_run : (s.run as).exporter = as.foldl actOn s.exporter := by
  induction as generalizing s with
  | nil => rfl
  | cons a rest ih =>
    show ((s.step a).run rest).exporter = _
    rw [ih, exporter_step, List.foldl_cons]

/-- **Exports leave no trace in the exporter.** It is what it would be if none of them had
been asked for or looked at. -/
theorem exporter_run_filter :
    (s.run as).exporter = (s.run (as.filter fun a => !a.isExport)).exporter := by
  rw [exporter_run, exporter_run, List.foldl_filter]
  -- both sides act on the exporter alone now, and exports do not
  generalize s.exporter = x
  induction as generalizing x with
  | nil => rfl
  | cons a rest ih =>
    rw [List.foldl_cons, List.foldl_cons, ih]
    cases h : a.isExport with
    | true => simp [actOn_of_isExport x h]
    | false => simp

/-- An action leaves exporter and client as they are, or stops both. -/
theorem becomes_actOn : x.Becomes (actOn x a) := by
  cases a with
  | shutdown id context => exact x.becomes_step nofun
  | lookShutdown id g => exact x.becomes_pollShutdown g id
  | dropShutdown id => exact x.becomes_step nofun
  | «export» context batch => exact .inl ⟨rfl, rfl⟩
  | lookExport n g answer => exact .inl ⟨rfl, rfl⟩

/-- **In every state of a session exporter and client agree.** Induction on the actions;
what one action does to the agreement is known from `Becomes.agrees`. -/
theorem agrees_run (hs : s.exporter.Agrees) : (s.run as).exporter.Agrees := by
  induction as generalizing s with
  | nil => exact hs
  | cons a rest ih =>
    refine ih (s.step a) ?_
    rw [exporter_step]
    exact (becomes_actOn s.exporter a).agrees hs

theorem closed_step (hs : s.exporter.isOpen = false) : (s.step a).exporter.isOpen = false := by
  rw [exporter_step]
  exact (becomes_actOn s.exporter a).closed hs

theorem closed_run (hs : s.exporter.isOpen = false) : (s.run as).exporter.isOpen = false := by
  induction as generalizing s with
  | nil => exact hs
  | cons a rest ih => exact ih (s.step a) (s.closed_step a hs)

/-- What an action does to shutdown is a run of shutdown. A look at a call may take several
steps there, since it also gives the answer of the client. -/
theorem exists_run_actOn : ∃ bs, (actOn x a).shutdown = x.shutdown.run bs := by
  cases a with
  | shutdown id context => exact ⟨[.call id context], rfl⟩
  | lookShutdown id g =>
    refine ⟨Shutdown.pollActions id g (some (.ok ())), ?_⟩
    rw [← Shutdown.poll_eq_run]
    exact x.shutdown_pollShutdown g id
  | dropShutdown id => exact ⟨[.drop id], rfl⟩
  | «export» context batch => exact ⟨[], rfl⟩
  | lookExport n g answer => exact ⟨[], rfl⟩

/-- **What is known of runs of shutdown is known of sessions**: the shutdown of a session is
what some run of shutdown leaves. -/
theorem exists_shutdown_run : ∃ bs, (s.run as).exporter.shutdown = s.exporter.shutdown.run bs := by
  induction as generalizing s with
  | nil => exact ⟨[], rfl⟩
  | cons a rest ih =>
    obtain ⟨bs, hbs⟩ := exists_run_actOn s.exporter a
    obtain ⟨cs, hcs⟩ := ih (s.step a)
    refine ⟨bs ++ cs, ?_⟩
    rw [Shutdown.run_append, ← hbs, ← exporter_step]
    exact hcs

end Exporter

/-! ## Exports that have begun -/

section Begun

variable {s : Session client} {n : Nat} {u : client.Upload}

/-- What an action makes of an export that has begun. Nobody asks whether the client is open. -/
def follow (n : Nat) (u : client.Upload) : Action client → client.Upload
  | .lookExport j g answer => if j = n then client.look true g answer u else u
  | _ => u

/-- An export that has begun does not become a fresh one again, whatever action follows.
Only a look at it changes it, and a look leaves none fresh. -/
theorem hasBegun_follow (hu : client.hasBegun u = true) (a : Action client) :
    client.hasBegun (follow n u a) = true := by
  cases a with
  | lookExport j g answer =>
    rw [follow]
    split
    · exact client.hasBegun_look true u
    · exact hu
  | _ => exact hu

/-- **What one action makes of an export that has begun.** Other exports are kept apart by
their places, and shutdowns do not touch the list. -/
theorem export_step_of_begun (hn : s.exports[n]? = some u) (hu : client.hasBegun u = true)
    (a : Action client) : (s.step a).exports[n]? = some (follow n u a) := by
  have hlt : n < s.exports.length := (List.getElem?_eq_some_iff.mp hn).1
  cases a with
  | «export» context batch =>
    show (s.exports ++ [client.fresh context batch])[n]? = some u
    rw [List.getElem?_append_left hlt, hn]
  | lookExport j g answer =>
    simp only [step, follow]
    by_cases hj : j = n
    · subst hj
      rw [hn, if_pos rfl]
      show (s.exports.set j (client.look s.exporter.isOpen g answer u))[j]? = _
      -- asking whether the client is open is behind it, so an open one may be put in its
      -- place
      rw [List.getElem?_set_self hlt, client.look_of_hasBegun hu _ true]
    · rw [if_neg hj]
      split
      · show (s.exports.set j _)[n]? = some u
        rw [List.getElem?_set_ne hj, hn]
      · exact hn
  | _ => exact hn

/-- An export that has begun goes its own way: what becomes of it follows from the looks at
it. Induction on the actions, with `export_step_of_begun` for each of them. -/
theorem export_run_of_begun (hn : s.exports[n]? = some u) (hu : client.hasBegun u = true)
    (as : List (Action client)) : (s.run as).exports[n]? = some (as.foldl (follow n) u) := by
  induction as generalizing s u with
  | nil => exact hn
  | cons a rest ih => exact ih (export_step_of_begun hn hu a) (hasBegun_follow hu a)

/-- **An export that has begun does not notice shutdowns.** Leaving out all actions about
shutdown changes nothing about it. -/
theorem export_run_filter (hn : s.exports[n]? = some u) (hu : client.hasBegun u = true)
    (as : List (Action client)) :
    (s.run as).exports[n]? = (s.run (as.filter Action.isExport)).exports[n]? := by
  rw [export_run_of_begun hn hu, export_run_of_begun hn hu, List.foldl_filter]
  congr 1
  -- what is left is about `follow`, which no shutdown moves
  clear hn hu
  induction as generalizing u with
  | nil => rfl
  | cons a rest ih =>
    rw [List.foldl_cons, List.foldl_cons, ih]
    cases a <;> rfl

end Begun

/-! ## After the client was closed -/

section Closed

variable {s : Session client}

/-- A closed client sends nothing at a look, and nothing else could send. A request is sent
by looks alone, and the first look asks whether the client is open. -/
theorem requests_step_of_closed (hs : s.exporter.isOpen = false) (a : Action client) :
    (s.step a).requests = s.requests := by
  cases a with
  | lookExport n g answer =>
    simp only [step]
    split
    · rename_i u hu
      rw [hs, client.request?_of_closed g u]
      exact List.append_nil _
    · rfl
  | _ => rfl

/-- **Nothing is sent any more** once the client is closed, whatever is asked of the
exporter. -/
theorem requests_run_of_closed (hs : s.exporter.isOpen = false) (as : List (Action client)) :
    (s.run as).requests = s.requests := by
  induction as generalizing s with
  | nil => rfl
  | cons a rest ih =>
    show ((s.step a).run rest).requests = _
    rw [ih (s.closed_step a hs), requests_step_of_closed hs]

/-- The upload waits for its first look, or was turned away at it: by the closed client or by the
end of its own context. -/
def IsIdle (u : client.Upload) : Prop :=
  (∃ context batch, u = client.fresh context batch) ∨
    client.result? u = some (.error .alreadyShutdown) ∨
    ∃ e, client.result? u = some (.error (.context e))

/-- Over a closed client a look leaves an idle export idle: a fresh one is turned away, by
the end of its context or by the client, and a result is kept. -/
theorem isIdle_look_of_closed {u : client.Upload} (hu : IsIdle u) (g : Glance)
    (answer : Option client.Answer) : IsIdle (client.look false g answer u) := by
  rcases hu with ⟨context, batch, rfl⟩ | hu | ⟨e, hu⟩
  · cases h : g.ending? context with
    | some e => exact .inr (.inr ⟨e, (client.look_fresh_of_ended h false answer batch).1⟩)
    | none => exact .inr (.inl (client.look_fresh_of_closed h answer batch).1)
  · rw [client.look_of_result hu]
    exact .inr (.inl hu)
  · rw [client.look_of_result hu]
    exact .inr (.inr ⟨e, hu⟩)

/-- The exports from a place on are idle. -/
def IdleFrom (s : Session client) (k : Nat) : Prop :=
  ∀ (n : Nat) u, k ≤ n → s.exports[n]? = some u → IsIdle u

/-- Exports that are idle from a place on stay so over an action, with the one that is asked
for now if the action asks for one. -/
theorem idleFrom_step {k : Nat} (hs : s.exporter.isOpen = false) (hidle : s.IdleFrom k)
    (a : Action client) : (s.step a).IdleFrom k := by
  cases a with
  | «export» context batch =>
    intro n u hk hu
    have happend : (s.exports ++ [client.fresh context batch])[n]? = some u := hu
    -- it is one of those before, or the new one at their end
    rw [List.getElem?_append] at happend
    split at happend
    · exact hidle n u hk happend
    · rw [List.getElem?_singleton] at happend
      split at happend
      · exact .inl ⟨context, batch, (Option.some.inj happend).symm⟩
      · cases happend
  | lookExport j g answer =>
    intro n u hk hu
    simp only [step] at hu
    split at hu
    · rename_i old hold
      have hset : (s.exports.set j (client.look s.exporter.isOpen g answer old))[n]? = some u := hu
      rw [hs, List.getElem?_set] at hset
      -- the one that was looked at was idle before; the others are untouched
      split at hset
      · rename_i hj
        subst hj
        split at hset
        · rw [← Option.some.inj hset]
          exact isIdle_look_of_closed (hidle j old hk hold) g answer
        · cases hset
      · exact hidle n u hk hset
    · exact hidle n u hk hu
  | _ => exact hidle

/-- **Later exports do nothing.** Induction on the actions: the client stays closed, and
with it every export from that place on idle. -/
theorem idleFrom_run {k : Nat} (hs : s.exporter.isOpen = false) (hidle : s.IdleFrom k)
    (as : List (Action client)) : (s.run as).IdleFrom k := by
  induction as generalizing s with
  | nil => exact hidle
  | cons a rest ih => exact ih (s.closed_step a hs) (idleFrom_step hs hidle a)

/-- At first there are no exports from the end of the list on. -/
theorem idleFrom_length (s : Session client) : s.IdleFrom s.exports.length := by
  intro n u hk hu
  rw [List.getElem?_eq_none hk] at hu
  cases hu

/-- The first look at an export in a live context turns it away, if the client is closed by
then. -/
theorem result_lookExport_of_closed (hs : s.exporter.isOpen = false) {n : Nat} {context : Context}
    {batch : Logs.Batch} (hn : s.exports[n]? = some (client.fresh context batch)) {g : Glance}
    (hlive : g.ending? context = none) (answer : Option client.Answer) :
    ((s.step (.lookExport n g answer)).exports[n]?).bind client.result? =
      some (.error .alreadyShutdown) := by
  have hlt : n < s.exports.length := (List.getElem?_eq_some_iff.mp hn).1
  have hlook : (s.step (.lookExport n g answer)).exports =
      s.exports.set n (client.look s.exporter.isOpen g answer (client.fresh context batch)) := by
    simp only [step, hn]
  rw [hlook, List.getElem?_set_self hlt, hs]
  exact (client.look_fresh_of_closed hlive answer batch).1

end Closed

/-! ## Exporter and client -/

/-- **Exporter and client agree about being stopped.** In every state of a session the client is
closed exactly if there is an outcome, and the outcome is a success. So once a call of shutdown has
returned without an error,

1. the client stays closed, nothing is sent any more, an export with a live context is told at its
   first look that the exporter is shut down, and the exports asked for from then on come to nothing
   else;
2. whereas an export that has begun before is what it would be without the shutdowns.

Exports in turn leave no trace: the exporter is what it would be without them, and that alone
decides whether the next one is turned away. -/
theorem exporter_and_client_agree (client : LogsClient) (as : List (Action client)) :
    let s := run ({} : Session client) as
    (s.exporter.isOpen = false ↔ s.exporter.shutdown.outcome.isSome) ∧
    (∀ o, s.exporter.shutdown.outcome = some o → o = .ok ()) ∧
    (∀ id, s.exporter.shutdown.result? id = some (.ok ()) → ∀ later,
      (s.run later).exporter.isOpen = false ∧
      (s.run later).requests = s.requests ∧
      (∀ (n : Nat) context batch g answer,
        (s.run later).exports[n]? = some (client.fresh context batch) →
        g.ending? context = none →
          (((s.run later).step (.lookExport n g answer)).exports[n]?).bind client.result? =
            some (.error .alreadyShutdown)) ∧
      (s.run later).IdleFrom s.exports.length) ∧
    (∀ (n : Nat) u, s.exports[n]? = some u → client.hasBegun u = true → ∀ later,
      (s.run later).exports[n]? = (s.run (later.filter Action.isExport)).exports[n]?) ∧
    s.exporter = (run ({} : Session client) (as.filter fun a => !a.isExport)).exporter ∧
    (∀ context batch g answer, g.ending? context = none →
      (client.result? (client.look s.exporter.isOpen g answer (client.fresh context batch)) =
          some (.error .alreadyShutdown) ↔
        s.exporter.isOpen = false)) := by
  have hagrees : (run ({} : Session client) as).exporter.Agrees :=
    agrees_run {} as Exporter.agrees_start
  refine ⟨hagrees.isOpen_iff, hagrees.outcome_ok, ?stopped, ?begun, exporter_run_filter {} as,
    ?accepted⟩
  case stopped =>
    intro id hresult later
    -- only the outcome can have told a call that all went well, and with it the client is closed
    have houtcome : (run ({} : Session client) as).exporter.shutdown.outcome = some (.ok ()) := by
      obtain ⟨bs, hbs⟩ := exists_shutdown_run ({} : Session client) as
      rw [hbs] at hresult ⊢
      exact Shutdown.outcome_of_ok bs hresult
    have hclosed : (run ({} : Session client) as).exporter.isOpen = false := by
      rw [hagrees.isOpen_iff, houtcome]
      rfl
    have hlater := closed_run _ later hclosed
    refine ⟨hlater, requests_run_of_closed hclosed later, ?_,
      idleFrom_run hclosed (idleFrom_length _) later⟩
    intro n context batch g answer hn hlive
    exact result_lookExport_of_closed hlater hn hlive answer
  case begun => exact fun n u hn hu later => export_run_filter hn hu later
  case accepted =>
    intro context batch g answer hlive
    cases hopen : (run ({} : Session client) as).exporter.isOpen with
    | true => exact iff_of_false (client.look_fresh_of_open hlive answer batch) nofun
    | false => exact iff_of_true (client.look_fresh_of_closed hlive answer batch).1 rfl

/-- A client over HTTP on this machine. -/
def localClient : LogsClient :=
  .http
    { target := ⟨some "http", some "localhost:4318", "/v1/logs", none⟩
      fields := []
      protocol := .httpBinary
      compression := .none
      timeout := .ofSeconds 10
      carrier := .own }

def live : Context := ⟨0, [], none⟩

/-- An export is under way when a shutdown goes through. -/
def overtaken : List (Action localClient) :=
  [.export live [], .shutdown 0 live, .lookExport 0 (.quiet {}) none,
    .lookShutdown 0 (.quiet {})]

/-- Another export and another shutdown are asked for, and the answer to the first export comes. -/
def aftermath : List (Action localClient) :=
  [.export live [], .shutdown 1 live, .lookShutdown 1 (.quiet {}),
    .lookExport 0 (.quiet {}) (some (Http.Answer.response 200 []))]

/-- The export that was under way gets its answer, and the later one is turned away. The
shutdown in between has its own result, and sends nothing. -/
theorem overtaken_export_ends_well :
    (run ({} : Session localClient) overtaken).exporter.shutdown.result? 0 = some (.ok ()) ∧
      ((run ({} : Session localClient) overtaken).run aftermath).requests =
        (run ({} : Session localClient) overtaken).requests ∧
      (((run ({} : Session localClient) overtaken).run aftermath).exports[0]?).bind
        localClient.result? = some (.ok ()) ∧
      ((((run ({} : Session localClient) overtaken).run aftermath).step
        (.lookExport 1 (.quiet {}) none)).exports[1]?).bind localClient.result? =
          some (.error .alreadyShutdown) := by
  obtain ⟨-, -, hstopped, hbegun, -, -⟩ := exporter_and_client_agree localClient overtaken
  obtain ⟨-, hrequests, hlive, -⟩ := hstopped 0 rfl aftermath
  refine ⟨rfl, hrequests, ?_, hlive 1 live [] (.quiet {}) none rfl rfl⟩
  -- the export has begun, so the shutdowns can be left out
  rw [hbegun 0 _ rfl rfl aftermath]
  rfl

end Session

end LogCourier
