import LogCourier.Environment

/-!
# What the rows of an environment add

The environment is read row by row. This module says what each row adds to the settings, in terms of
what its variable says by itself: `timeout?`, `address?` and so on are the value of a variable if it
is there and can be read.

* `Row.entry?` is what a row says. A row whose variable is missing or cannot be read says nothing,
  and rows about certificates and keys speak of other things than settings.
* `Row.contribution?` is what a row adds. The lemmas about it take the reading of a row apart once,
  for its settings and for its faults.
* `Row.settings_eq`: a row adds the settings of its entry and nothing else.
* `settings_eq`: the settings of the environment are those of its rows one after the other, with at
  most one more for security behind them.
-/

namespace LogCourier.Environment

/-! ## What the variables say -/

section Variables

variable (env : Environment) (l : Level)

def protocol? : Option Protocol :=
  (env.value? l .protocol).map Protocol.ofLabel

def headers? : Option Headers :=
  (env.value? l .headers).map fun v => env.headerOrder.apply (Headers.parse v)

def compression? : Option Compression :=
  (env.value? l .compression).map Compression.ofLabel

/-- A number of milliseconds. -/
def timeout? : Option Duration :=
  (env.value? l .timeout).bind fun v =>
    match Text.Numeral.read Text.Numeral.max64 v.toList with
    | .ok n => some (.ofMilliseconds n)
    | .error _ => none

/-- `true` or `false`, in any letter case. -/
def insecure? : Option Bool :=
  (env.value? l .insecure).bind fun v =>
    if Text.asciiLowered v = "true" then some true
    else if Text.asciiLowered v = "false" then some false
    else none

/-- An address with a host. -/
def address? : Option Endpoint :=
  (env.value? l .endpoint).bind fun v => (Endpoint.parse env.idna v).toOption

end Variables

/-! ## The entry of a row -/

/-- What a row says. -/
inductive Entry where
  | address (l : Level) (e : Endpoint)
  | protocol (p : Protocol)
  | insecure (flag : Bool)
  | headers (h : Headers)
  | compression (c : Compression)
  | timeout (d : Duration)

/-- The settings that an entry stands for. -/
def Entry.settings : Entry → List Setting
  | address l e => e.settings (httpPath l e)
  | protocol p => [.protocol p]
  | insecure flag => [if flag then .insecure else .secure]
  | headers h => [.headers h]
  | compression c => [.compression c]
  | timeout d => [.timeout d]

def Row.entry? (row : Row) (env : Environment) : Option Entry :=
  match row.subject with
  | .endpoint => (env.address? row.level).map (.address row.level)
  | .protocol => (env.protocol? row.level).map .protocol
  | .rootCertificates | .clientIdentity => none
  | .insecure => (env.insecure? row.level).map .insecure
  | .headers => (env.headers? row.level).map .headers
  | .compression => (env.compression? row.level).map .compression
  | .timeout => (env.timeout? row.level).map .timeout

def Entry.subject : Entry → Subject
  | address _ _ => .endpoint
  | protocol _ => .protocol
  | insecure _ => .insecure
  | headers _ => .headers
  | compression _ => .compression
  | timeout _ => .timeout

/-- A row speaks of its own subject. -/
theorem Row.subject_of_entry? {env : Environment} {row : Row} {e : Entry}
    (h : row.entry? env = some e) : e.subject = row.subject := by
  obtain ⟨l, subject⟩ := row
  cases subject with
  | rootCertificates => cases h
  | clientIdentity => cases h
  | _ =>
    obtain ⟨_, -, rfl⟩ := Option.map_eq_some_iff.mp h
    rfl

/-- What a row adds. -/
def Row.contribution? (row : Row) (env : Environment) : Option Contribution :=
  (row.outcome? env).bind Except.toOption

/-- The settings that a row adds. -/
def Row.settings (row : Row) (env : Environment) : List Setting :=
  match row.outcome? env with
  | some (.ok (.settings ss)) => ss
  | _ => []

/-- The subject that a variable is about. -/
def Variable.subject : Variable → Subject
  | endpoint => .endpoint
  | protocol => .protocol
  | certificate => .rootCertificates
  | clientCertificate | clientKey => .clientIdentity
  | insecure => .insecure
  | headers => .headers
  | compression => .compression
  | timeout => .timeout

/-- A variable is needed by the rows of one subject only. -/
theorem subject_of_mem_needed {s : Subject} {v : Variable} (h : v ∈ s.needed) : v.subject = s := by
  cases s with
  | clientIdentity =>
    rcases List.mem_cons.mp h with rfl | h
    · rfl
    · rw [List.mem_singleton.mp h]
      rfl
  | _ =>
    rw [List.mem_singleton.mp h]
    rfl

/-- Environments that nothing but their variables tells apart: files, tables and the
platform are the same. -/
def SameSurroundings (env env' : Environment) : Prop :=
  { env with lookup := env'.lookup } = env'

/-- Once its variables are looked up, a row goes to the surroundings only. -/
theorem Row.read_eq_of_surroundings {env env' : Environment} (h : SameSurroundings env env')
    (row : Row) : row.read env = row.read env' := by
  rw [← h]
  rfl

/-- What comes of a row depends on the variables that it needs and on how their values are
read, and on nothing else. Other variables may differ as they like. -/
theorem Row.outcome?_congr {env env' : Environment} {row : Row}
    (hread : row.read env = row.read env')
    (hneeded : ∀ v ∈ row.subject.needed, env.value? row.level v = env'.value? row.level v) :
    row.outcome? env = row.outcome? env' := by
  have hvalues : row.values? env = row.values? env' := by
    unfold Row.values?
    generalize row.subject.needed = vs at hneeded
    -- variable by variable, as the row collects their values
    induction vs with
    | nil => rfl
    | cons v rest ih =>
      rw [List.mapM_cons, List.mapM_cons, hneeded v List.mem_cons_self,
        ih fun w hw => hneeded w (List.mem_cons_of_mem _ hw)]
  rw [Row.outcome?, Row.outcome?, hvalues, hread]

section Rows

variable (env : Environment) (l : Level)

theorem Row.outcome?_one {s : Subject} {v : Variable} (hs : s.needed = [v]) :
    (Row.mk l s).outcome? env = (env.value? l v).map fun x => (Row.mk l s).read env [x] := by
  unfold Row.outcome? Row.values?
  rw [hs, List.mapM_cons, List.mapM_nil]
  cases env.value? l v <;> rfl

/-- What a row with one variable adds: whatever its value is read as, if it is there and can
be read. -/
theorem Row.contribution?_one {s : Subject} {v : Variable} (hs : s.needed = [v]) :
    (Row.mk l s).contribution? env =
      (env.value? l v).bind fun x => ((Row.mk l s).read env [x]).toOption := by
  rw [Row.contribution?, Row.outcome?_one env l hs]
  cases env.value? l v <;> rfl

/-! ### Values that may be unreadable -/

/-- An address adds its settings if it can be read. These lemmas take the reading of a row
apart once; nothing else opens `Row.read`. -/
theorem Row.contribution?_endpoint :
    (Row.mk l .endpoint).contribution? env =
      (env.address? l).map fun e => .settings (e.settings (httpPath l e)) := by
  rw [Row.contribution?_one env l rfl, address?]
  cases env.value? l .endpoint with
  | none => rfl
  | some v =>
    simp only [Option.bind_some, Row.read]
    cases Endpoint.parse env.idna v <;> rfl

/-- A timeout adds its setting if it is a numeral. -/
theorem Row.contribution?_timeout :
    (Row.mk l .timeout).contribution? env =
      (env.timeout? l).map fun d => .settings [.timeout d] := by
  rw [Row.contribution?_one env l rfl, timeout?]
  cases env.value? l .timeout with
  | none => rfl
  | some v =>
    simp only [Option.bind_some, Row.read, timeoutSetting]
    cases Text.Numeral.read Text.Numeral.max64 v.toList <;> rfl

/-- A flag adds its setting if it is one of the two words, in whatever case. Any other word
is a fault and adds nothing. -/
theorem Row.contribution?_insecure :
    (Row.mk l .insecure).contribution? env =
      (env.insecure? l).map fun flag => .settings [if flag then .insecure else .secure] := by
  rw [Row.contribution?_one env l rfl, insecure?]
  cases env.value? l .insecure with
  | none => rfl
  | some v =>
    simp only [Option.bind_some, Row.read, insecureSetting]
    -- any word but these two is a fault, and then both sides are empty
    by_cases htrue : Text.asciiLowered v = "true"
    · rw [if_pos htrue, if_pos htrue]
      rfl
    · rw [if_neg htrue, if_neg htrue]
      by_cases hfalse : Text.asciiLowered v = "false"
      · rw [if_pos hfalse, if_pos hfalse]
        rfl
      · rw [if_neg hfalse, if_neg hfalse]
        rfl

/-- The settings that a row adds are those of its contribution, where that is about
settings. -/
theorem Row.settings_of_contribution (row : Row) :
    row.settings env =
      match row.contribution? env with
      | some (.settings ss) => ss
      | _ => [] := by
  unfold Row.settings Row.contribution?
  cases row.outcome? env with
  | none => rfl
  | some outcome =>
    cases outcome with
    | error e => rfl
    | ok c => cases c <;> rfl

/-! ### Rows about certificates and keys -/

/-- Certificates and keys go into the settings for security, which come last: the rows about
them add none of their own. -/
theorem Row.read_rootCertificates {values : List String} {ss : List Setting}
    (h : (Row.mk l .rootCertificates).read env values = .ok (.settings ss)) : ss = [] := by
  unfold Row.read at h
  split at h <;> try contradiction
  · rename_i path _
    -- the file may be missing, or hold no certificate; else the roots are kept for the end
    -- and no setting comes of them
    cases hfile : env.file path with
    | error e => rw [hfile] at h; cases h
    | ok content =>
      cases hload : TlsSettings.loadRoots content with
      | error e => simp only [hfile, hload, bind, Except.bind] at h; cases h
      | ok bundle => simp only [hfile, hload, bind, Except.bind] at h; cases h
  · cases h
    rfl

theorem Row.read_clientIdentity {values : List String} {ss : List Setting}
    (h : (Row.mk l .clientIdentity).read env values = .ok (.settings ss)) : ss = [] := by
  unfold Row.read at h
  split at h <;> try contradiction
  · rename_i certificate key _
    cases hcertificate : env.file certificate with
    | error e => simp only [hcertificate, bind, Except.bind] at h; cases h
    | ok c =>
      cases hkey : env.file key with
      | error e => simp only [hcertificate, hkey, bind, Except.bind] at h; cases h
      | ok k =>
        cases hload : ClientIdentity.load c k with
        | error e => simp only [hcertificate, hkey, hload, bind, Except.bind] at h; cases h
        | ok identity => simp only [hcertificate, hkey, hload, bind, Except.bind] at h; cases h
  · cases h
    rfl

/-- A row that is never read as settings adds none. This is for certificates and keys, which
are kept for one setting at the end. -/
theorem Row.settings_of_read {row : Row}
    (h : ∀ values ss, row.read env values = .ok (.settings ss) → ss = []) :
    row.settings env = [] := by
  unfold Row.settings
  split
  · rename_i ss houtcome
    obtain ⟨values, -, hread⟩ := Option.map_eq_some_iff.mp houtcome
    exact h values ss hread
  · rfl

/-- **A row adds the settings of its entry** and nothing else. Entries are what the
variables say by themselves, so from here on settings are told from values without going
through the reader. -/
theorem Row.settings_eq (row : Row) :
    row.settings env = ((row.entry? env).map Entry.settings).getD [] := by
  obtain ⟨l, subject⟩ := row
  cases subject with
  | endpoint =>
    rw [Row.settings_of_contribution, Row.contribution?_endpoint]
    simp only [Row.entry?]
    cases env.address? l <;> rfl
  | protocol =>
    unfold Row.settings
    rw [Row.outcome?_one env l rfl]
    simp only [Row.entry?, protocol?]
    cases env.value? l .protocol <;> rfl
  -- certificates and keys are kept apart from the settings
  | rootCertificates =>
    exact Row.settings_of_read env fun _ _ h => Row.read_rootCertificates env l h
  | clientIdentity =>
    exact Row.settings_of_read env fun _ _ h => Row.read_clientIdentity env l h
  | insecure =>
    rw [Row.settings_of_contribution, Row.contribution?_insecure]
    simp only [Row.entry?]
    cases env.insecure? l <;> rfl
  | headers =>
    unfold Row.settings
    rw [Row.outcome?_one env l rfl]
    simp only [Row.entry?, headers?]
    cases env.value? l .headers <;> rfl
  | compression =>
    unfold Row.settings
    rw [Row.outcome?_one env l rfl]
    simp only [Row.entry?, compression?]
    cases env.value? l .compression <;> rfl
  | timeout =>
    rw [Row.settings_of_contribution, Row.contribution?_timeout]
    simp only [Row.entry?]
    cases env.timeout? l <;> rfl

end Rows

/-! ## All rows -/

/-- One row puts its settings behind those before it. -/
theorem Reading.settings_row (env : Environment) (r : Reading) (row : Row) :
    (Reading.row env r row).settings = r.settings ++ row.settings env := by
  unfold Reading.row Row.settings
  cases row.outcome? env with
  | none => exact (List.append_nil _).symm
  | some outcome =>
    cases outcome with
    | error e => exact (List.append_nil _).symm
    | ok c =>
      cases c with
      | settings ss => rfl
      | rootCertificates file => exact (List.append_nil _).symm
      | clientIdentity identity => exact (List.append_nil _).symm

theorem Reading.settings_foldl (env : Environment) (rs : List Row) (r : Reading) :
    (rs.foldl (Reading.row env) r).settings = r.settings ++ rs.flatMap (·.settings env) := by
  induction rs generalizing r with
  | nil => exact (List.append_nil _).symm
  | cons row rest ih =>
    rw [List.foldl_cons, ih, Reading.settings_row, List.flatMap_cons, List.append_assoc]

/-- **The settings of an environment** are those of its rows in order, with one for security
behind them if any part of it was loaded. -/
theorem settings_eq (env : Environment) :
    env.settings =
      rows.flatMap (·.settings env) ++ (if env.read.tls.isEmpty then [] else [.tls env.read.tls]) := by
  have hread : env.read.settings = rows.flatMap (·.settings env) := by
    show (rows.foldl (Reading.row env) {}).settings = _
    rw [Reading.settings_foldl]
    rfl
  unfold settings Reading.allSettings
  rw [hread]
  -- the TLS material of both rows makes one setting, the last one
  split
  · exact (List.append_nil _).symm
  · rfl

end LogCourier.Environment
