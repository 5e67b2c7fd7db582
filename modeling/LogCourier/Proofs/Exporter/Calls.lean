import LogCourier.Exporter.Builder
import LogCourier.Proofs.LastWriter

/-!
# Calls on builders

A builder is called any number of times before it builds: for environments before and after the
transport is chosen, for settings after that. Two things are left of the calls, the environment that
was given last and the settings in the order of their calls.

* `TransportBuilder.after_eq`: what calls leave of a builder.
* `Builder.calls_are_settings`: what is built is what the settings come to over that environment.
-/

namespace LogCourier

/-! ## Calls -/

namespace TransportBuilder

/-- A call for a setting. The last four are for the builder of one transport. -/
inductive SettingCall : Transport → Type where
  | endpoint {t : Transport} (text : String) : SettingCall t
  | protocol {t : Transport} (p : Protocol) : SettingCall t
  | timeout {t : Transport} (d : Duration) : SettingCall t
  | compression {t : Transport} (c : Compression) : SettingCall t
  | headers {t : Transport} (h : Headers) : SettingCall t
  /-- Any setting, with functions of the caller's own among them. -/
  | setting {t : Transport} (s : Setting) : SettingCall t
  | httpClient (client : HttpClient) : SettingCall .http
  | insecure : SettingCall .grpc
  | credentials (c : Credentials) : SettingCall .grpc
  | channel (link : Channel) : SettingCall .grpc

/-- A call on a builder whose transport is chosen. -/
inductive Call (t : Transport) where
  | set (c : SettingCall t)
  | environment (env : Environment)

variable {t : Transport}

namespace SettingCall

/-- What a call makes of the builder. -/
def apply (b : TransportBuilder) : SettingCall t → TransportBuilder
  | endpoint text => b.withEndpoint text
  | protocol p => b.withProtocol p
  | timeout d => b.withTimeout d
  | compression c => b.withCompression c
  | headers h => b.withHeaders h
  | setting s => b.withSetting s
  | httpClient client => b.withHttpClient client
  | insecure => b.withInsecure
  | credentials c => b.withCredentials c
  | channel link => b.withChannel link

/-- The setting that a call asks for. -/
def asked : SettingCall t → Setting
  | endpoint text => .endpoint text
  | protocol p => .protocol p
  | timeout d => .timeout d
  | compression c => .compression c
  | headers h => .headers h
  | setting s => s
  | httpClient client => .httpClient client
  | insecure => .insecure
  | credentials c => .grpcCredentials c
  | channel link => .grpcChannel link

/-- Each of these calls is one for the setting that it asks for, those of one transport as
well. -/
theorem apply_eq (b : TransportBuilder) (c : SettingCall t) : c.apply b = b.withSetting c.asked := by
  cases c <;> rfl

end SettingCall

namespace Call

/-- What a call makes of the builder: it asks for a setting or puts another environment in
place. -/
def apply (b : TransportBuilder) : Call t → TransportBuilder
  | set c => c.apply b
  | environment env => b.withEnvironment env

/-- The setting that a call asks for, if it does. -/
def setting? : Call t → Option Setting
  | set c => some c.asked
  | environment _ => none

/-- The environment that a call gives. -/
def environment? : Call t → Option Environment
  | set _ => none
  | environment env => some env

/-- Calls for settings give no environment, however many there are. -/
theorem filterMap_environment?_set (cs : List (SettingCall t)) :
    (cs.map set).filterMap environment? = [] := by
  rw [List.filterMap_map]
  exact List.filterMap_eq_nil_iff.mpr fun _ _ => rfl

/-- **What one call makes of a builder.** Its setting goes behind the others and its
environment takes the place of the one before. -/
theorem apply_eq (b : TransportBuilder) (c : Call t) :
    c.apply b =
      ⟨b.transport, c.environment?.getD b.environment, b.settings ++ c.setting?.toList⟩ := by
  cases c with
  | set c => exact c.apply_eq b
  | environment env =>
    show (⟨b.transport, env, b.settings⟩ : TransportBuilder) = ⟨b.transport, env, b.settings ++ []⟩
    rw [List.append_nil]

end Call

/-- The builder after some calls. -/
def after (b : TransportBuilder) (calls : List (Call t)) : TransportBuilder :=
  calls.foldl Call.apply b

/-- **What calls leave of a builder**: the environment that was given last, and their
settings behind those that were there. Induction on the calls, from any builder. -/
theorem after_eq (b : TransportBuilder) (calls : List (Call t)) :
    b.after calls =
      ⟨b.transport, (lastOf Call.environment? calls).getD b.environment,
        b.settings ++ calls.filterMap Call.setting?⟩ := by
  unfold after
  induction calls generalizing b with
  | nil =>
    rw [List.filterMap_nil, List.append_nil]
    rfl
  | cons c rest ih =>
    have hsettings : (c :: rest).filterMap Call.setting? =
        c.setting?.toList ++ rest.filterMap Call.setting? := by
      rw [List.filterMap_cons]
      cases c.setting? <;> rfl
    rw [List.foldl_cons, ih, Call.apply_eq, lastOf_cons, hsettings, List.append_assoc]
    -- an environment that comes later takes the place of this one
    cases lastOf Call.environment? rest <;> rfl

end TransportBuilder

/-! ## Building -/

namespace Builder

open TransportBuilder (Call SettingCall)

variable {t : Transport}

/-- The builder after some environments were given to it. -/
def after (b : Builder) (given : List Environment) : Builder :=
  given.foldl withEnvironment b

/-- Of the environments that a builder without a transport is given the last one stays, or
its own if it is given none. -/
theorem after_eq (b : Builder) (given : List Environment) :
    b.after given = ⟨given.getLast?.getD b.environment⟩ := by
  unfold after
  induction given generalizing b with
  | nil => rfl
  | cons env rest ih =>
    rw [List.foldl_cons, ih, List.getLast?_cons]
    cases rest.getLast? <;> rfl

/-- What comes of a builder that starts with the environment of the process: environments are
given to it, its transport is chosen, and then it is called on. -/
def builtBy (process : Environment) (given : List Environment) (calls : List (Call t)) : Built :=
  ((((Builder.mk process).after given).via t).after calls).build

/-- The environment that was given last, to the builder without a transport or to the one with
it, and that of the process if none was given. -/
def lastGiven (process : Environment) (given : List Environment) (calls : List (Call t)) :
    Environment :=
  (given ++ calls.filterMap Call.environment?).getLast?.getD process

/-- **What is built depends on the calls in two ways only.** The two stages of building hold
an environment each, and the later stage has its own only if one was given there. -/
theorem builtBy_eq (process : Environment) (given : List Environment) (calls : List (Call t)) :
    builtBy process given calls =
      Built.via t (lastGiven process given calls) (calls.filterMap Call.setting?) := by
  have hlast : (lastOf Call.environment? calls).getD (given.getLast?.getD process) =
      lastGiven process given calls := by
    -- the last of both lists is the last of the second, if it has one
    rw [lastGiven, List.getLast?_append, lastOf]
    cases (calls.filterMap Call.environment?).getLast? <;> rfl
  unfold builtBy
  rw [Builder.after_eq, TransportBuilder.after_eq, TransportBuilder.build]
  show Built.via t ((lastOf Call.environment? calls).getD (given.getLast?.getD process))
    ([] ++ calls.filterMap Call.setting?) = _
  rw [hlast, List.nil_append]

/-- **Calls on builders are settings over an environment.** Whatever the calls and their order,
the client, the error and what is told are those of the configuration that the environment given
last and the settings in the order of their calls resolve to. When an environment is given among
the calls for settings makes no difference. -/
theorem calls_are_settings (process : Environment) (given : List Environment) :
    (∀ calls : List (Call .http),
      let env := lastGiven process given calls
      let ss := calls.filterMap Call.setting?
      let config := Config.resolveHttp env ss
      builtBy process given calls =
        { result := (Http.Client.make config).map .http
          diagnostics := Config.resolveDiagnostics .http env ss ++
            Http.Client.makeDiagnostics config }) ∧
    (∀ calls : List (Call .grpc),
      let env := lastGiven process given calls
      let ss := calls.filterMap Call.setting?
      let config := Config.resolveGrpc env ss
      builtBy process given calls =
        { result := (Grpc.Client.make env.platform config).map .grpc
          diagnostics := Config.resolveDiagnostics .grpc env ss ++
            Grpc.Client.makeDiagnostics env.platform config }) ∧
    ∀ (t : Transport) (front back : List (Call t)) (between : List (SettingCall t))
      (env : Environment),
      builtBy process given (front ++ .environment env :: (between.map .set ++ back)) =
        builtBy process given (front ++ (between.map .set ++ .environment env :: back)) := by
  refine ⟨fun calls => builtBy_eq process given calls, fun calls => builtBy_eq process given calls, ?_⟩
  intro t front back between env
  -- neither the settings nor the environments, each in their order, notice the move
  have hsettings :
      (front ++ Call.environment env :: (between.map Call.set ++ back)).filterMap Call.setting? =
        (front ++ (between.map Call.set ++ Call.environment env :: back)).filterMap
          Call.setting? := by
    simp only [List.filterMap_append, List.filterMap_cons, Call.setting?]
  have henvironments :
      (front ++ Call.environment env :: (between.map Call.set ++ back)).filterMap
          Call.environment? =
        (front ++ (between.map Call.set ++ Call.environment env :: back)).filterMap
          Call.environment? := by
    simp only [List.filterMap_append, List.filterMap_cons, Call.filterMap_environment?_set,
      Call.environment?, List.nil_append]
  rw [builtBy_eq, builtBy_eq, lastGiven, lastGiven, hsettings, henvironments]

end Builder

end LogCourier
