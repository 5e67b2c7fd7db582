import LogCourier.Config.Resolve
import LogCourier.Proofs.Environment.Reading

/-!
# The layers of a configuration

A configuration is made by writing over the initial one: the rows of the environment write first,
shared before logs, then the settings of the caller in order. What is left in a field is what its
last writer wrote.

* A `Knob` is a field together with what the caller's settings and the environment's entries write
  to it. `Knob.get_layered` is the layering law for any knob.
* The rows of the environment matter to a knob only where they are about its subjects. The
  `_rows` lemmas say which these are for each of the seven knobs.
* `settings_of_highest_layer` puts the seven together for a resolved configuration.
-/

namespace LogCourier

namespace Setting

/-! ## What the caller's settings write -/

/-- The settings with a name of their own. The others hold functions. -/
def isNamed : Setting → Bool
  | generic _ | split .. | httpOnly _ | grpcOnly _ => false
  | _ => true

def endpoint? : Setting → Option String
  | endpoint text => some text
  | _ => none

def urlPath? : Setting → Option String
  | urlPath path => some path
  | _ => none

def protocol? : Setting → Option Protocol
  | protocol p => some p
  | _ => none

def insecure? : Setting → Option Bool
  | insecure => some true
  | secure => some false
  | _ => none

def headers? : Setting → Option Headers
  | headers h => some h
  | _ => none

def compression? : Setting → Option Compression
  | compression c => some c
  | _ => none

def timeout? : Setting → Option Duration
  | timeout d => some d
  | _ => none

end Setting

namespace Config

open Environment (Entry Level Row Subject rows)

/-! ## What the entries of the environment write -/

/-- Where a transport finds the collector of an address. -/
def targetOf (t : Transport) (e : Endpoint) : String :=
  match t with
  | .http => e.host
  | .grpc => e.dialed

/-- Where a transport finds the collector of an address variable. -/
def target? (t : Transport) (env : Environment) (l : Level) : Option String :=
  (env.address? l).map (targetOf t)

/-- The path of HTTP requests that an address variable selects. -/
def path? (env : Environment) (l : Level) : Option String :=
  (env.address? l).map (Environment.httpPath l)

/-- Whether the scheme of an address variable is a plain one. -/
def plain? (env : Environment) (l : Level) : Option Bool :=
  (env.address? l).map Endpoint.insecure

/-- What an entry of the environment makes of a configuration. -/
def ofEntry (t : Transport) (c : Config) : Entry → Config
  | .address l e =>
    match t with
    | .http =>
      { c with insecure := e.insecure, endpoint := e.host, urlPath := Environment.httpPath l e }
    | .grpc => { c with insecure := e.insecure, endpoint := e.dialed }
  | .protocol p => { c with protocol := p }
  | .insecure flag => { c with insecure := flag }
  | .headers h => { c with headers := h }
  | .compression x => { c with compression := x }
  | .timeout d => { c with timeout := d }

theorem applyAll_entry (t : Transport) (c : Config) (e : Entry) :
    Setting.applyAll t e.settings c = c.ofEntry t e := by
  cases e with
  | address l e =>
    -- which of the two settings for security comes first depends on the scheme
    obtain ⟨flag, host, path⟩ := e
    cases t <;> cases flag <;> rfl
  | insecure flag => cases t <;> cases flag <;> rfl
  | protocol p => cases t <;> rfl
  | headers h => cases t <;> rfl
  | compression x => cases t <;> rfl
  | timeout d => cases t <;> rfl

/-! ## Knobs -/

/-- A field of the configuration of a transport, with what writes it. -/
structure Knob (t : Transport) (α : Type) where
  get : Config → α
  ofSetting : Setting → Option α
  ofEntry : Entry → Option α
  get_setting : ∀ s c, s.isNamed = true → get (s.apply t c) = (ofSetting s).getD (get c)
  get_entry : ∀ e c, get (c.ofEntry t e) = (ofEntry e).getD (get c)
  /-- Loaded certificates do not matter to the field. -/
  ofSetting_tls : ∀ x, ofSetting (.tls x) = none

namespace Knob

variable {t : Transport} {α : Type} (k : Knob t α)

/-- What a row of the environment writes. -/
def ofRow (env : Environment) (row : Row) : Option α :=
  (row.entry? env).bind k.ofEntry

theorem get_row (env : Environment) (row : Row) (c : Config) :
    k.get (Setting.applyAll t (row.settings env) c) = (k.ofRow env row).getD (k.get c) := by
  rw [Row.settings_eq]
  unfold ofRow
  cases row.entry? env with
  | none => rfl
  | some e => exact (congrArg k.get (applyAll_entry t c e)).trans (k.get_entry e c)

theorem get_environment (env : Environment) (c : Config) :
    k.get (Setting.applyAll t env.settings c) = (lastOf (k.ofRow env) rows).getD (k.get c) := by
  have hrows : k.get (Setting.applyAll t (rows.flatMap (·.settings env)) c) =
      (lastOf (k.ofRow env) rows).getD (k.get c) := by
    unfold Setting.applyAll
    rw [List.foldl_flatMap]
    exact get_foldl (fun row _ c => k.get_row env row c) c
  -- the setting for security behind the rows writes none of the fields
  rw [Environment.settings_eq]
  split
  · rw [List.append_nil, hrows]
  · unfold Setting.applyAll at hrows ⊢
    rw [List.foldl_append, List.foldl_cons, List.foldl_nil, k.get_setting _ _ rfl,
      k.ofSetting_tls, Option.getD_none, hrows]

/-- What the two rows of a subject write. -/
def ofSubject (env : Environment) (s : Subject) : Option α :=
  k.ofRow env ⟨.logs, s⟩ <|> k.ofRow env ⟨.shared, s⟩

theorem lastOf_rows (env : Environment) :
    lastOf (k.ofRow env) rows = lastOf (k.ofSubject env) Subject.all :=
  lastOf_pairs (fun s => Row.mk .shared s) (fun s => Row.mk .logs s) Subject.all

theorem ofRow_eq_none (env : Environment) {row : Row}
    (h : ∀ e : Entry, e.subject = row.subject → k.ofEntry e = none) : k.ofRow env row = none := by
  unfold ofRow
  cases hentry : row.entry? env with
  | none => rfl
  | some e => exact h e (Row.subject_of_entry? hentry)

/-- Only the subjects that the field is about matter. -/
theorem lastOf_subjects (env : Environment) (about : Subject → Bool)
    (h : ∀ e : Entry, about e.subject = false → k.ofEntry e = none) :
    lastOf (k.ofSubject env) (Subject.all.filter about) =
      lastOf (k.ofSubject env) Subject.all := by
  rw [← k.lastOf_rows env]
  refine (Environment.lastOf_rows_about about ?_).symm
  intro l s hs
  exact k.ofRow_eq_none env fun e he => h e (he ▸ hs)

theorem lastOf_subject (env : Environment) (s : Subject) {written : Level → Option α}
    (hother : ∀ e : Entry, e.subject ≠ s → k.ofEntry e = none)
    (hrow : ∀ l, k.ofRow env ⟨l, s⟩ = written l) :
    lastOf (k.ofSubject env) Subject.all = (written .logs <|> written .shared) := by
  have honly : Subject.all.filter (· == s) = [s] := by cases s <;> rfl
  rw [← k.lastOf_subjects env (· == s) fun e he => hother e (beq_eq_false_iff_ne.mp he), honly,
    lastOf_singleton]
  unfold ofSubject
  rw [hrow, hrow]

/-- **The layering law.** The last setting of the caller that writes a field decides it, else the
environment does, else the initial configuration. -/
theorem get_layered (env : Environment) {ss : List Setting} (h : ∀ s ∈ ss, s.isNamed = true) :
    k.get (layered t env ss) =
      (lastOf k.ofSetting ss <|> lastOf (k.ofSubject env) Subject.all).getD
        (k.get (initial t)) := by
  have hcaller : ∀ c, k.get (Setting.applyAll t ss c) = (lastOf k.ofSetting ss).getD (k.get c) :=
    get_foldl fun s hs c => k.get_setting s c (h s hs)
  have hsplit : layered t env ss =
      Setting.applyAll t ss (Setting.applyAll t env.settings (initial t)) :=
    List.foldl_append
  rw [hsplit, hcaller, k.get_environment, k.lastOf_rows]
  cases lastOf k.ofSetting ss <;> rfl

end Knob

/-! ## The knobs there are -/

section Knobs

variable (t : Transport)

def timeoutKnob : Knob t Duration where
  get := Config.timeout
  ofSetting := Setting.timeout?
  ofEntry
    | .timeout d => some d
    | _ => none
  get_setting s c h := by cases t <;> cases s <;> first | rfl | cases h
  get_entry e c := by cases t <;> cases e <;> rfl
  ofSetting_tls _ := rfl

def compressionKnob : Knob t Compression where
  get := Config.compression
  ofSetting := Setting.compression?
  ofEntry
    | .compression x => some x
    | _ => none
  get_setting s c h := by cases t <;> cases s <;> first | rfl | cases h
  get_entry e c := by cases t <;> cases e <;> rfl
  ofSetting_tls _ := rfl

def headersKnob : Knob t Headers where
  get := Config.headers
  ofSetting := Setting.headers?
  ofEntry
    | .headers h => some h
    | _ => none
  get_setting s c h := by cases t <;> cases s <;> first | rfl | cases h
  get_entry e c := by cases t <;> cases e <;> rfl
  ofSetting_tls _ := rfl

def protocolKnob : Knob t Protocol where
  get := Config.protocol
  ofSetting := Setting.protocol?
  ofEntry
    | .protocol p => some p
    | _ => none
  get_setting s c h := by cases t <;> cases s <;> first | rfl | cases h
  get_entry e c := by cases t <;> cases e <;> rfl
  ofSetting_tls _ := rfl

/-- The flag is written by its own entries and by addresses. -/
def insecureKnob : Knob t Bool where
  get := Config.insecure
  ofSetting := Setting.insecure?
  ofEntry
    | .insecure flag => some flag
    | .address _ e => some e.insecure
    | _ => none
  get_setting s c h := by cases t <;> cases s <;> first | rfl | cases h
  get_entry e c := by cases t <;> cases e <;> rfl
  ofSetting_tls _ := rfl

def endpointKnob : Knob t String where
  get := Config.endpoint
  ofSetting := Setting.endpoint?
  ofEntry
    | .address _ e => some (targetOf t e)
    | _ => none
  get_setting s c h := by cases t <;> cases s <;> first | rfl | cases h
  get_entry e c := by cases t <;> cases e <;> rfl
  ofSetting_tls _ := rfl

end Knobs

/-- Only over HTTP does an address write the path of the requests. -/
def urlPathKnob : Knob .http String where
  get := Config.urlPath
  ofSetting := Setting.urlPath?
  ofEntry
    | .address l e => some (Environment.httpPath l e)
    | _ => none
  get_setting s c h := by cases s <;> first | rfl | cases h
  get_entry e c := by cases e <;> rfl
  ofSetting_tls _ := rfl

/-! ## What the environment writes to each of them -/

section Environments

variable (t : Transport) (env : Environment)

theorem timeoutKnob_rows :
    lastOf ((timeoutKnob t).ofSubject env) Subject.all =
      (env.timeout? .logs <|> env.timeout? .shared) := by
  apply (timeoutKnob t).lastOf_subject env .timeout
  · intro e he
    cases e <;> first | rfl | contradiction
  · intro l
    simp only [Knob.ofRow, Row.entry?]
    cases env.timeout? l <;> rfl

theorem compressionKnob_rows :
    lastOf ((compressionKnob t).ofSubject env) Subject.all =
      (env.compression? .logs <|> env.compression? .shared) := by
  apply (compressionKnob t).lastOf_subject env .compression
  · intro e he
    cases e <;> first | rfl | contradiction
  · intro l
    simp only [Knob.ofRow, Row.entry?]
    cases env.compression? l <;> rfl

theorem headersKnob_rows :
    lastOf ((headersKnob t).ofSubject env) Subject.all =
      (env.headers? .logs <|> env.headers? .shared) := by
  apply (headersKnob t).lastOf_subject env .headers
  · intro e he
    cases e <;> first | rfl | contradiction
  · intro l
    simp only [Knob.ofRow, Row.entry?]
    cases env.headers? l <;> rfl

theorem protocolKnob_rows :
    lastOf ((protocolKnob t).ofSubject env) Subject.all =
      (env.protocol? .logs <|> env.protocol? .shared) := by
  apply (protocolKnob t).lastOf_subject env .protocol
  · intro e he
    cases e <;> first | rfl | contradiction
  · intro l
    simp only [Knob.ofRow, Row.entry?]
    cases env.protocol? l <;> rfl

theorem endpointKnob_rows :
    lastOf ((endpointKnob t).ofSubject env) Subject.all =
      (target? t env .logs <|> target? t env .shared) := by
  apply (endpointKnob t).lastOf_subject env .endpoint
  · intro e he
    cases e <;> first | rfl | contradiction
  · intro l
    simp only [Knob.ofRow, Row.entry?, target?]
    cases env.address? l <;> rfl

theorem urlPathKnob_rows :
    lastOf (urlPathKnob.ofSubject env) Subject.all = (path? env .logs <|> path? env .shared) := by
  apply urlPathKnob.lastOf_subject env .endpoint
  · intro e he
    cases e <;> first | rfl | contradiction
  · intro l
    simp only [Knob.ofRow, Row.entry?, path?]
    cases env.address? l <;> rfl

/-- The flag is the only field that two subjects write: an address says by its scheme
whether the channel is plain, and the variable of the flag says it outright. That variable
is read after the addresses on either level, so even a shared flag overrules the scheme of
an address for logs. -/
theorem insecureKnob_rows :
    lastOf ((insecureKnob t).ofSubject env) Subject.all =
      (env.insecure? .logs <|> env.insecure? .shared
        <|> plain? env .logs <|> plain? env .shared) := by
  have hflag : ∀ l, (insecureKnob t).ofRow env ⟨l, .insecure⟩ = env.insecure? l := by
    intro l
    simp only [Knob.ofRow, Row.entry?]
    cases env.insecure? l <;> rfl
  have haddress : ∀ l, (insecureKnob t).ofRow env ⟨l, .endpoint⟩ = plain? env l := by
    intro l
    simp only [Knob.ofRow, Row.entry?, plain?]
    cases env.address? l <;> rfl
  have hother : ∀ e : Entry, (e.subject == .insecure || e.subject == .endpoint) = false →
      (insecureKnob t).ofEntry e = none := by
    intro e he
    cases e <;> first | rfl | contradiction
  -- addresses are read before flags, so of the two subjects the flag is the later writer
  rw [← (insecureKnob t).lastOf_subjects env (fun s => s == .insecure || s == .endpoint) hother]
  show lastOf ((insecureKnob t).ofSubject env) [.endpoint, .insecure] = _
  rw [lastOf_cons, lastOf_singleton]
  unfold Knob.ofSubject
  rw [hflag, hflag, haddress, haddress]
  cases env.insecure? .logs <;> rfl

end Environments

/-! ## Resolved configurations -/

/-- Resolving changes the path of the requests, the credentials and the dial options of a layered
configuration, and nothing else. -/
theorem exists_resolve_eq (t : Transport) (env : Environment) (ss : List Setting) :
    ∃ path credentials options,
      resolve t env ss =
        { layered t env ss with
          urlPath := path
          grpcCredentials := credentials
          dialOptions := options } := by
  cases t with
  | http => exact ⟨_, _, _, rfl⟩
  | grpc =>
    show ∃ path credentials options, (layered .grpc env ss).withDialOptions = _
    -- credentials may be put on record first, and then the options that follow
    unfold withDialOptions withCredentials
    split
    · exact ⟨_, _, _, rfl⟩
    · exact ⟨_, _, _, rfl⟩

section Highest

variable {t : Transport} {env : Environment} {ss : List Setting}

theorem layered_endpoint (h : ∀ s ∈ ss, s.isNamed = true) :
    (layered t env ss).endpoint =
      (lastOf Setting.endpoint? ss <|> target? t env .logs <|> target? t env .shared).getD
        (initial t).endpoint := by
  rw [← endpointKnob_rows]
  exact (endpointKnob t).get_layered env h

theorem layered_urlPath (h : ∀ s ∈ ss, s.isNamed = true) :
    (layered .http env ss).urlPath =
      (lastOf Setting.urlPath? ss <|> path? env .logs <|> path? env .shared).getD
        defaultUrlPath := by
  have hlayered := urlPathKnob.get_layered env h
  rw [urlPathKnob_rows] at hlayered
  exact hlayered

/-- Without a setting of the caller, host and path come from one address or are the initial
ones. The two are never mixed from the addresses of two levels, although each is looked up
on its own. -/
theorem host_and_path_of_one_address (h : ∀ s ∈ ss, s.isNamed = true)
    (hendpoint : lastOf Setting.endpoint? ss = none) (hpath : lastOf Setting.urlPath? ss = none) :
    ((layered .http env ss).endpoint = (initial .http).endpoint ∧
        (layered .http env ss).urlPath = defaultUrlPath) ∨
      ∃ l e, env.address? l = some e ∧ (layered .http env ss).endpoint = e.host ∧
        (layered .http env ss).urlPath = Environment.httpPath l e := by
  rw [layered_endpoint h, layered_urlPath h, hendpoint, hpath]
  unfold target? path?
  -- both are read off the first address there is, so it is the same one
  cases hlogs : env.address? .logs with
  | some e => exact Or.inr ⟨.logs, e, hlogs, rfl, rfl⟩
  | none =>
    cases hshared : env.address? .shared with
    | some e => exact Or.inr ⟨.shared, e, hshared, rfl, rfl⟩
    | none => exact Or.inl ⟨rfl, rfl⟩

end Highest

/-- **The highest layer decides.** Each resolved setting has the value of the last setting of the
caller that writes it, else that of the variable for logs if it is accepted, else that of the
shared variable if it is accepted, else the initial one. Security has the schemes of the
addresses below its own variables. The path of the requests over HTTP is that of its highest
layer before it is cleaned, and without a setting of the caller host and path come from one
address. -/
theorem settings_of_highest_layer (t : Transport) (env : Environment) (ss : List Setting)
    (h : ∀ s ∈ ss, s.isNamed = true) :
    (resolve t env ss).timeout =
        (lastOf Setting.timeout? ss <|> env.timeout? .logs <|> env.timeout? .shared).getD
          (initial t).timeout ∧
      (resolve t env ss).compression =
        (lastOf Setting.compression? ss <|> env.compression? .logs
          <|> env.compression? .shared).getD (initial t).compression ∧
      (resolve t env ss).headers =
        (lastOf Setting.headers? ss <|> env.headers? .logs <|> env.headers? .shared).getD
          (initial t).headers ∧
      (resolve t env ss).protocol =
        (lastOf Setting.protocol? ss <|> env.protocol? .logs <|> env.protocol? .shared).getD
          (initial t).protocol ∧
      (resolve t env ss).endpoint =
        (lastOf Setting.endpoint? ss <|> target? t env .logs <|> target? t env .shared).getD
          (initial t).endpoint ∧
      (resolve t env ss).insecure =
        (lastOf Setting.insecure? ss <|> env.insecure? .logs <|> env.insecure? .shared
          <|> plain? env .logs <|> plain? env .shared).getD false ∧
      (t = .http →
        (layered t env ss).urlPath =
            (lastOf Setting.urlPath? ss <|> path? env .logs <|> path? env .shared).getD
              defaultUrlPath ∧
          (resolve t env ss).urlPath = Path.cleanedOr defaultUrlPath (layered t env ss).urlPath) ∧
      (t = .http → lastOf Setting.endpoint? ss = none → lastOf Setting.urlPath? ss = none →
        ((resolve t env ss).endpoint = (initial t).endpoint ∧
            (layered t env ss).urlPath = defaultUrlPath) ∨
          ∃ l e, env.address? l = some e ∧ (resolve t env ss).endpoint = e.host ∧
            (layered t env ss).urlPath = Environment.httpPath l e) := by
  obtain ⟨path, credentials, options, hresolve⟩ := exists_resolve_eq t env ss
  refine ⟨?_, ?_, ?_, ?_, ?_, ?_, ?_, ?_⟩
  · rw [hresolve, ← timeoutKnob_rows t]
    exact (timeoutKnob t).get_layered env h
  · rw [hresolve, ← compressionKnob_rows t]
    exact (compressionKnob t).get_layered env h
  · rw [hresolve, ← headersKnob_rows t]
    exact (headersKnob t).get_layered env h
  · rw [hresolve, ← protocolKnob_rows t]
    exact (protocolKnob t).get_layered env h
  · rw [hresolve]
    exact layered_endpoint h
  · rw [hresolve, ← insecureKnob_rows t]
    -- the initial flag is the same for both transports, but each has to be looked at to see it
    cases t with
    | http => exact (insecureKnob .http).get_layered env h
    | grpc => exact (insecureKnob .grpc).get_layered env h
  · rintro rfl
    exact ⟨layered_urlPath h, rfl⟩
  · rintro rfl
    rw [hresolve]
    exact host_and_path_of_one_address h

/-- A variable for logs that cannot be read leaves the shared one in force, and the flag of a
variable outranks the scheme of an address. -/
def mixedEnvironment : Environment where
  scope := "OTEL"
  lookup name :=
    if name = "OTEL_TIMEOUT" then some "250"
    else if name = "OTEL_LOGS_TIMEOUT" then some "soon"
    else if name = "OTEL_LOGS_ENDPOINT" then some "https://logs:4317"
    else if name = "OTEL_INSECURE" then some "TRUE"
    else none
  openFile _ := .error "no such file"

theorem mixed_layers :
    (∀ s ∈ [Setting.compression .gzip, .compression .none], s.isNamed = true) ∧
      (resolve .grpc mixedEnvironment [.compression .gzip, .compression .none]).timeout =
        .ofMilliseconds 250 ∧
      (resolve .grpc mixedEnvironment [.compression .gzip, .compression .none]).compression =
        .none ∧
      (resolve .grpc mixedEnvironment [.compression .gzip, .compression .none]).endpoint =
        "logs:4317" ∧
      (resolve .grpc mixedEnvironment [.compression .gzip, .compression .none]).insecure =
        true := by
  have hnamed : ∀ s ∈ [Setting.compression .gzip, .compression .none], s.isNamed = true := by
    decide
  -- each of the four settings comes from another layer
  obtain ⟨htimeout, hcompression, -, -, hendpoint, hinsecure, -⟩ :=
    settings_of_highest_layer .grpc mixedEnvironment _ hnamed
  refine ⟨hnamed, ?_, ?_, ?_, ?_⟩
  · rw [htimeout]
    decide +kernel
  · rw [hcompression]
    decide +kernel
  · rw [hendpoint]
    decide +kernel
  · rw [hinsecure]
    decide +kernel

end Config

end LogCourier
