import LogCourier.Proofs.Config.Layers

/-!
# Settings as changes of a field

A named setting changes one field of a configuration, on each transport its own, or none at all
where it concerns the other transport. `Setting.change?` says which field and how, and
`apply_eq_changed` that this is all that the setting does. What a setting makes of a field
depends on nothing but that field (`get_changed_congr`), and the fields that it does not write
are left alone (`get_changed_of_ne`).
-/

namespace LogCourier

namespace Config

/-! ## Fields -/

/-- The fields of a configuration, by name. -/
inductive Field where
  | endpoint
  | protocol
  | insecure
  | tls
  | headers
  | compression
  | timeout
  | urlPath
  | grpcCredentials
  | httpClient
  | retry
  | reconnectionPeriod
  | serviceConfig
  | dialOptions
  | grpcChannel
  deriving DecidableEq, Repr

namespace Field

/-- What can stand in a field. -/
def Value : Field → Type
  | endpoint | urlPath => String
  | protocol => Protocol
  | insecure => Bool
  | tls => Option TlsSettings
  | headers => Headers
  | compression => Compression
  | timeout | reconnectionPeriod => Duration
  | grpcCredentials => Option Credentials
  | httpClient => Option HttpClient
  | retry => RetryPolicy
  | serviceConfig => Option String
  | dialOptions => List DialOption
  | grpcChannel => Option Channel

end Field

/-- What stands in a field. -/
def get (c : Config) : (f : Field) → f.Value
  | .endpoint => c.endpoint
  | .protocol => c.protocol
  | .insecure => c.insecure
  | .tls => c.tls
  | .headers => c.headers
  | .compression => c.compression
  | .timeout => c.timeout
  | .urlPath => c.urlPath
  | .grpcCredentials => c.grpcCredentials
  | .httpClient => c.httpClient
  | .retry => c.retry
  | .reconnectionPeriod => c.reconnectionPeriod
  | .serviceConfig => c.serviceConfig
  | .dialOptions => c.dialOptions
  | .grpcChannel => c.grpcChannel

/-- The configuration with another value in a field, made from the one that stands there. -/
def modify (c : Config) : (f : Field) → (f.Value → f.Value) → Config
  | .endpoint, g => { c with endpoint := g c.endpoint }
  | .protocol, g => { c with protocol := g c.protocol }
  | .insecure, g => { c with insecure := g c.insecure }
  | .tls, g => { c with tls := g c.tls }
  | .headers, g => { c with headers := g c.headers }
  | .compression, g => { c with compression := g c.compression }
  | .timeout, g => { c with timeout := g c.timeout }
  | .urlPath, g => { c with urlPath := g c.urlPath }
  | .grpcCredentials, g => { c with grpcCredentials := g c.grpcCredentials }
  | .httpClient, g => { c with httpClient := g c.httpClient }
  | .retry, g => { c with retry := g c.retry }
  | .reconnectionPeriod, g => { c with reconnectionPeriod := g c.reconnectionPeriod }
  | .serviceConfig, g => { c with serviceConfig := g c.serviceConfig }
  | .dialOptions, g => { c with dialOptions := g c.dialOptions }
  | .grpcChannel, g => { c with grpcChannel := g c.grpcChannel }

@[simp] theorem get_modify_self (c : Config) (f : Field) (g : f.Value → f.Value) :
    (c.modify f g).get f = g (c.get f) := by
  cases f <;> rfl

theorem get_modify_of_ne (c : Config) {f f' : Field} (h : f' ≠ f) (g : f.Value → f.Value) :
    (c.modify f g).get f' = c.get f' := by
  cases f <;> cases f' <;> first | rfl | exact absurd rfl h

/-- A configuration is what stands in its fields, so two of them are equal if no field tells
them apart. -/
theorem eq_of_get {c c' : Config} (h : ∀ f, c.get f = c'.get f) : c = c' := by
  obtain ⟨_, _, _, _, _, _, _, _, _, _, _, _, _, _, _⟩ := c
  obtain ⟨_, _, _, _, _, _, _, _, _, _, _, _, _, _, _⟩ := c'
  rw [Config.mk.injEq]
  exact ⟨h .endpoint, h .protocol, h .insecure, h .tls, h .headers, h .compression, h .timeout,
    h .urlPath, h .grpcCredentials, h .httpClient, h .retry, h .reconnectionPeriod,
    h .serviceConfig, h .dialOptions, h .grpcChannel⟩

/-! ## Changes -/

/-- A field and what is made of the value in it. -/
structure Change where
  field : Field
  make : field.Value → field.Value

/-- The configuration after a change, if there is one. -/
def changed (c : Config) : Option Change → Config
  | some u => c.modify u.field u.make
  | none => c

/-- A change leaves alone all fields but its own. -/
theorem get_changed_of_ne (c : Config) {u : Option Change} {f : Field}
    (h : u.map Change.field ≠ some f) : (c.changed u).get f = c.get f := by
  cases u with
  | none => rfl
  | some u =>
    refine c.get_modify_of_ne ?_ u.make
    rintro rfl
    exact h rfl

/-- What a change makes of a field follows from that field alone. This is why the order of
changes to different fields cannot matter. -/
theorem get_changed_congr {c c' : Config} {f : Field} (h : c.get f = c'.get f) (u : Option Change) :
    (c.changed u).get f = (c'.changed u).get f := by
  by_cases hu : u.map Change.field = some f
  · obtain ⟨u, rfl, rfl⟩ := Option.map_eq_some_iff.mp hu
    show (c.modify u.field u.make).get u.field = (c'.modify u.field u.make).get u.field
    rw [get_modify_self, get_modify_self, h]
  · rw [get_changed_of_ne c hu, get_changed_of_ne c' hu, h]

end Config

namespace Setting

open Config (Change)

/-- The change that a setting is for a transport. Security is written in a field of its own on each
side, and dial options are the only ones that build on what is there. -/
def change? (t : Transport) : Setting → Option Change
  | endpoint text => some ⟨.endpoint, fun _ => text⟩
  | compression x => some ⟨.compression, fun _ => x⟩
  | urlPath path => some ⟨.urlPath, fun _ => path⟩
  | retry policy => some ⟨.retry, fun _ => policy⟩
  | tls settings =>
    match t with
    | .http => some ⟨.tls, fun _ => some settings⟩
    | .grpc => some ⟨.grpcCredentials, fun _ => some (Credentials.tls settings)⟩
  | insecure => some ⟨.insecure, fun _ => true⟩
  | secure => some ⟨.insecure, fun _ => false⟩
  | headers h => some ⟨.headers, fun _ => h⟩
  | timeout d => some ⟨.timeout, fun _ => d⟩
  | protocol p => some ⟨.protocol, fun _ => p⟩
  | httpClient client =>
    match t with
    | .http => some ⟨.httpClient, fun _ => some client⟩
    | .grpc => none
  | reconnectionPeriod d =>
    match t with
    | .http => none
    | .grpc => some ⟨.reconnectionPeriod, fun _ => d⟩
  | serviceConfig text =>
    match t with
    | .http => none
    | .grpc => some ⟨.serviceConfig, fun _ => some text⟩
  | dialOption d =>
    match t with
    | .http => none
    | .grpc => some ⟨.dialOptions, fun ds => List.append ds [d]⟩
  | grpcChannel channel =>
    match t with
    | .http => none
    | .grpc => some ⟨.grpcChannel, fun _ => some channel⟩
  | grpcCredentials x =>
    match t with
    | .http => none
    | .grpc => some ⟨.grpcCredentials, fun _ => some x⟩
  | generic _ | split .. | httpOnly _ | grpcOnly _ => none

/-- **A named setting is a change of one field, or of none.** All that is said below about
settings is said about these changes. -/
theorem apply_eq_changed {s : Setting} (h : s.isNamed = true) (t : Transport) (c : Config) :
    s.apply t c = c.changed (s.change? t) := by
  cases s <;> first | (cases t <;> rfl) | cases h

/-- There is always a value that the change of a setting does not leave as it is. So a
setting that is said to write a field can be seen to do so. -/
theorem exists_make_ne {s : Setting} {t : Transport} {u : Change} (h : s.change? t = some u) :
    ∃ v, u.make v ≠ v := by
  -- texts, headers and dial options become longer, numbers larger, choices others
  have htext : ∀ text : String, ∃ v, text ≠ v := fun text =>
    ⟨text.push 'x', fun heq => by simpa using congrArg String.length heq⟩
  have hspan : ∀ d : Duration, ∃ v, d ≠ v := fun d =>
    ⟨⟨d.nanoseconds + 1⟩, fun heq => Nat.succ_ne_self _ (congrArg Duration.nanoseconds heq).symm⟩
  cases s with
  | endpoint text => cases h; exact htext text
  | urlPath path => cases h; exact htext path
  | timeout d => cases h; exact hspan d
  | compression x => cases h; cases x; exacts [⟨Compression.gzip, nofun⟩, ⟨Compression.none, nofun⟩]
  | retry policy =>
    cases h
    exact ⟨{ policy with enabled := !policy.enabled }, fun heq =>
      (Bool.eq_not_self _).mp (congrArg RetryPolicy.enabled heq)⟩
  | insecure => cases h; exact ⟨false, nofun⟩
  | secure => cases h; exact ⟨true, nofun⟩
  | headers x => cases h; exact ⟨("", "") :: x, fun heq => List.cons_ne_self _ _ heq.symm⟩
  | protocol p => cases h; cases p; exacts [⟨.httpJson, nofun⟩, ⟨.grpc, nofun⟩, ⟨.grpc, nofun⟩]
  | tls x => cases t <;> (cases h; exact ⟨none, nofun⟩)
  | httpClient x => cases t <;> cases h; exact ⟨none, nofun⟩
  | serviceConfig x => cases t <;> cases h; exact ⟨none, nofun⟩
  | grpcChannel x => cases t <;> cases h; exact ⟨none, nofun⟩
  | grpcCredentials x => cases t <;> cases h; exact ⟨none, nofun⟩
  | reconnectionPeriod d => cases t <;> cases h; exact hspan d
  | dialOption d => cases t <;> cases h; exact ⟨[], nofun⟩
  | _ => cases h

end Setting

end LogCourier
