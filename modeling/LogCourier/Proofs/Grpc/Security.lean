import LogCourier.Config.Resolve
import LogCourier.Grpc.Channel
import LogCourier.Proofs.LastWriter
import LogCourier.Proofs.Tls
import LogCourier.Proofs.Uri

/-!
# The security of a dialed channel

The credentials of a channel are settled when its configuration is resolved, but whether it is
secured is read off the dial options again when it is dialed: from the end for the scheme, and from
the front for the settings that are in force. The caller can put dial options of any kind in front,
so the two have to be shown to agree.

* `dialing_of_foldlM`: the dial options leave the settings of the last secure credentials in force.
* `lastCredentials?_withDialOptions`: the last credentials of a resolved configuration are the ones
  it settled on.
* `dialed_as_resolved`: scheme and settings of a dialed channel are those of the credentials of the
  configuration.
-/

namespace LogCourier

namespace Grpc

open Config (effectiveCredentials derivedDialOptions layered resolveGrpc)

variable {platform : Platform}

/-! ## Going through the dial options -/

/-- The credentials of a dial option. -/
def credentials? : DialOption → Option Credentials
  | .credentials c => some c
  | _ => none

/-- The settings of secure credentials. -/
def tls? : Credentials → Option TlsSettings
  | .tls t => some t
  | .insecure => none

/-- The program looks for credentials from the end of the dial options. That is their last
writer. -/
theorem lastCredentials?_eq (os : List DialOption) :
    lastCredentials? os = lastOf credentials? os :=
  rfl

/-- The user agent that a dial option sets. -/
def userAgent? : DialOption → Option String
  | .userAgent text => some text
  | _ => none

/-- Secure credentials replace the settings in force, and a user agent the one before; nothing else
touches them. -/
theorem Dialing.eq_of_apply {target : Uri} {d d' : Dialing} {o : DialOption}
    (h : d.apply platform target o = .ok d') :
    d' = { tls := (credentials? o).bind tls? <|> d.tls, agent := userAgent? o <|> d.agent } := by
  cases o with
  | userAgent text =>
    obtain ⟨-, -, rfl⟩ := map_eq_ok.mp h
    rfl
  | credentials c =>
    cases c with
    | insecure =>
      cases h
      rfl
    | tls t =>
      -- secure credentials go in force if their channel can be secured, else dialing fails
      simp only [Dialing.apply] at h
      split at h
      · cases h
        rfl
      · cases h
  | serviceConfig text =>
    cases h
    rfl
  | compressor c =>
    cases h
    rfl
  | connectParams backoff timeout =>
    cases h
    rfl

/-- The dial options leave the settings of the last secure credentials in force, and the
last user agent. Induction on the options; insecure ones among them do not take settings
back. -/
theorem dialing_of_foldlM {target : Uri} {os : List DialOption} {d d' : Dialing}
    (h : os.foldlM (Dialing.apply platform target) d = .ok d') :
    d' =
      { tls := lastOf (fun o => (credentials? o).bind tls?) os <|> d.tls
        agent := lastOf userAgent? os <|> d.agent } := by
  induction os generalizing d with
  | nil =>
    cases h
    rfl
  | cons o rest ih =>
    -- what the rest leaves in force outranks what the first option set
    rw [List.foldlM_cons] at h
    obtain ⟨next, happly, hrest⟩ := bind_eq_ok.mp h
    rw [ih hrest, Dialing.eq_of_apply happly, lastOf_cons, lastOf_cons]
    cases lastOf (fun o => (credentials? o).bind tls?) rest <;>
      cases lastOf userAgent? rest <;> rfl

/-! ## Dialing -/

/-- What a dialed channel is made of: a target that could be read, and the dial options
applied to nothing in their order. If one of them fails there is no channel. -/
theorem dial_eq_ok {c : Config} {l : Link} (h : dial platform c = .ok l) :
    ∃ target d, Uri.parse (targetText c) = .ok target ∧
      c.dialOptions.foldlM (Dialing.apply platform target) {} = .ok d ∧
      l = .dialed target d.tls d.agent := by
  unfold dial at h
  obtain ⟨target, htarget, h⟩ := bind_eq_ok.mp h
  obtain ⟨d, hd, h⟩ := bind_eq_ok.mp h
  cases h
  exact ⟨target, d, mapError_eq_ok.mp htarget, hd, rfl⟩

/-- What a client is made of. -/
theorem make_eq_ok {c : Config} {client : Client} :
    Client.make platform c = .ok client ↔
      ∃ link, linkOf platform c = .ok link ∧
        client = ⟨link, c.headers.fields, c.compression, c.timeout, platform.agent⟩ := by
  unfold Client.make
  rw [map_eq_ok]
  simp only [eq_comm]

/-- A client without a channel of the caller's own has a dialed one, to which the library's
settings apply. -/
theorem dial_of_make {c : Config} {client : Client} (hown : c.grpcChannel = none)
    (h : Client.make platform c = .ok client) : dial platform c = .ok client.link := by
  obtain ⟨l, hl, rfl⟩ := make_eq_ok.mp h
  unfold linkOf at hl
  rw [hown] at hl
  exact mapError_eq_ok.mp hl

/-- A channel has the scheme that its last credentials ask for. The text of the target
begins with it, and reading the text keeps it. -/
theorem scheme_of_dial {c : Config} {target : Uri}
    (h : Uri.parse (targetText c) = .ok target) :
    target.scheme = some (Uri.webScheme (isPlain c)) :=
  Uri.scheme_of_parse h

/-! ## Resolved credentials -/

section Resolved

variable (c : Config)

/-- Of the dial options of a resolved configuration, those that follow from its settings
write behind those that stood there before, in a fixed order. Whatever is asked about the
last writer of something is answered by this. -/
theorem lastOf_withDialOptions {α : Type} (write? : DialOption → Option α) :
    lastOf write? c.withDialOptions.dialOptions =
      ((if c.reconnectionPeriod.isZero then none
          else write? (.connectParams {} c.reconnectionPeriod))
        <|> (if c.compression = .gzip then write? (.compressor .gzip) else none)
        <|> write? (.credentials c.effectiveCredentials)
        <|> c.serviceConfig.bind (write? ∘ .serviceConfig)
        <|> lastOf write? c.dialOptions) := by
  -- each part of the derived options holds one option at most
  have hservice : lastOf write? (c.serviceConfig.map DialOption.serviceConfig).toList =
      c.serviceConfig.bind (write? ∘ .serviceConfig) := by
    cases c.serviceConfig with
    | none => rfl
    | some text => exact lastOf_singleton _
  have hcompressor : lastOf write? (if c.compression = .gzip then [.compressor .gzip] else []) =
      if c.compression = .gzip then write? (.compressor .gzip) else none := by
    split
    · exact lastOf_singleton _
    · rfl
  have hparams : lastOf write? (if c.reconnectionPeriod.isZero then []
        else [.connectParams {} c.reconnectionPeriod]) =
      if c.reconnectionPeriod.isZero then none
        else write? (.connectParams {} c.reconnectionPeriod) := by
    split
    · rfl
    · exact lastOf_singleton _
  -- the last writer is looked for from the end
  show lastOf write? (c.dialOptions ++ derivedDialOptions c) = _
  unfold derivedDialOptions
  rw [lastOf_append, lastOf_append, lastOf_append, lastOf_append, hservice, hcompressor, hparams,
    lastOf_singleton]
  simp only [Option.orElse_eq_orElse, Option.orElse_eq_or, Option.or_assoc]

/-- Behind all dial options of the caller stand the credentials in force, and none behind them. -/
theorem lastCredentials?_withDialOptions :
    lastCredentials? c.withDialOptions.dialOptions = some c.effectiveCredentials := by
  rw [lastCredentials?_eq, lastOf_withDialOptions]
  split <;> split <;> rfl

/-- So a resolved configuration dials in plain exactly if its credentials in force are no
security. -/
theorem isPlain_withDialOptions :
    isPlain c.withDialOptions = decide (c.effectiveCredentials = .insecure) := by
  unfold isPlain
  rw [lastCredentials?_withDialOptions]

/-- The credentials in force are recorded, unless they follow from the flag. A flag that
switches security off is its own record. -/
theorem grpcCredentials_withDialOptions :
    c.withDialOptions.grpcCredentials =
      if c.grpcCredentials = none ∧ c.insecure = true then none
      else some c.effectiveCredentials := by
  unfold Config.withDialOptions Config.withCredentials effectiveCredentials
  cases hcredentials : c.grpcCredentials with
  | some x => exact hcredentials
  | none =>
    cases hflag : c.insecure with
    | true => exact hcredentials
    | false => rfl

/-- Resolving writes no field but the credentials and the dial options. Any function that
does not look at these two is the same before and after. -/
theorem get_withDialOptions {α : Type} (get : Config → α)
    (h : ∀ c credentials options,
      get { c with grpcCredentials := credentials, dialOptions := options } = get c) :
    get c.withDialOptions = get c := by
  unfold Config.withDialOptions Config.withCredentials
  split
  · exact h c (some (.tls .systemRoots)) (c.dialOptions ++ c.derivedDialOptions)
  · exact h c c.grpcCredentials (c.dialOptions ++ c.derivedDialOptions)

theorem insecure_withDialOptions : c.withDialOptions.insecure = c.insecure :=
  get_withDialOptions c Config.insecure fun _ _ _ => rfl

/-- Credentials on record after resolving are those in force. -/
theorem effectiveCredentials_of_record {x : Credentials}
    (h : c.withDialOptions.grpcCredentials = some x) : c.effectiveCredentials = x := by
  rw [grpcCredentials_withDialOptions] at h
  split at h
  · cases h
  · exact Option.some.inj h

/-- The credentials in force are those of the resolved configuration, where no credentials with the
flag set stand for no security. -/
theorem effectiveCredentials_cases :
    (∃ t, c.effectiveCredentials = .tls t ∧ c.withDialOptions.grpcCredentials = some (.tls t)) ∨
      (c.effectiveCredentials = .insecure ∧
        (c.withDialOptions.grpcCredentials = some .insecure ∨
          c.withDialOptions.grpcCredentials = none ∧ c.withDialOptions.insecure = true)) := by
  rw [grpcCredentials_withDialOptions, insecure_withDialOptions]
  -- only the flag can leave no credentials on record
  by_cases hflag : c.grpcCredentials = none ∧ c.insecure = true
  · right
    rw [if_pos hflag]
    refine ⟨?_, Or.inr ⟨rfl, hflag.2⟩⟩
    unfold effectiveCredentials
    rw [hflag.1]
    exact if_pos hflag.2
  · rw [if_neg hflag]
    cases c.effectiveCredentials with
    | tls t => exact Or.inl ⟨t, rfl, rfl⟩
    | insecure => exact Or.inr ⟨rfl, Or.inl rfl⟩

/-- Credentials that are set are in force, whatever the flag says. -/
theorem effectiveCredentials_of_set {x : Credentials} (h : c.grpcCredentials = some x) :
    c.effectiveCredentials = x := by
  unfold effectiveCredentials
  rw [h]

/-- Without any, and without the flag, the roots of the system are trusted. -/
theorem effectiveCredentials_of_unset (h : c.grpcCredentials = none) (hflag : c.insecure = false) :
    c.effectiveCredentials = .tls .systemRoots := by
  unfold effectiveCredentials
  rw [h, hflag]
  rfl

/-- Credentials that are set outrank the flag, and stay on record. -/
theorem grpcCredentials_of_set {x : Credentials} (h : c.grpcCredentials = some x) :
    c.withDialOptions.grpcCredentials = some x := by
  have hset : ¬(c.grpcCredentials = none ∧ c.insecure = true) := by
    rintro ⟨hnone, -⟩
    rw [h] at hnone
    contradiction
  rw [grpcCredentials_withDialOptions, if_neg hset, effectiveCredentials_of_set c h]

end Resolved

/-! ## The channel of a resolved configuration -/

section Channel

variable {c : Config} {target : Uri}

/-- The last credentials are the ones in force, so their settings are what the dial options
leave. -/
theorem tls_of_effective {t : TlsSettings} {d : Dialing} (h : c.effectiveCredentials = .tls t)
    (hd : c.withDialOptions.dialOptions.foldlM (Dialing.apply platform target) {} = .ok d) :
    d.tls = some t := by
  -- no credentials of the caller stand behind the ones in force
  have hlast : lastOf credentials? c.withDialOptions.dialOptions = some (.tls t) := by
    rw [← lastCredentials?_eq, lastCredentials?_withDialOptions, h]
  have hinForce : lastOf (fun o => (credentials? o).bind tls?) c.withDialOptions.dialOptions =
      some t :=
    lastOf_bind hlast rfl
  rw [dialing_of_foldlM hd, hinForce]
  rfl

/-- The target is a secure one if the credentials in force are. -/
theorem scheme_of_tls {t : TlsSettings} (h : c.effectiveCredentials = .tls t)
    (htarget : Uri.parse (targetText c.withDialOptions) = .ok target) :
    target.scheme = some "https" := by
  rw [scheme_of_dial htarget, isPlain_withDialOptions, h]
  rfl

theorem scheme_of_insecure (h : c.effectiveCredentials = .insecure)
    (htarget : Uri.parse (targetText c.withDialOptions) = .ok target) :
    target.scheme = some "http" := by
  rw [scheme_of_dial htarget, isPlain_withDialOptions, h]
  rfl

/-- **A target is secure exactly if secure credentials are on record.** The scheme is
written by the library, from the credentials in force; what the text of the address says
comes behind it. -/
theorem https_iff (htarget : Uri.parse (targetText c.withDialOptions) = .ok target) :
    target.scheme = some "https" ↔ ∃ t, c.withDialOptions.grpcCredentials = some (.tls t) := by
  constructor
  · intro hscheme
    rcases effectiveCredentials_cases c with ⟨t, -, hrecord⟩ | ⟨heff, -⟩
    · exact ⟨t, hrecord⟩
    · rw [scheme_of_insecure heff htarget] at hscheme
      exact absurd hscheme (by decide)
  · -- on record are the credentials in force, or none
    rintro ⟨t, hrecord⟩
    exact scheme_of_tls (effectiveCredentials_of_record c hrecord) htarget

/-- **It is plain exactly if insecure ones are**, or none and the flag that stands for
them. -/
theorem http_iff (htarget : Uri.parse (targetText c.withDialOptions) = .ok target) :
    target.scheme = some "http" ↔
      c.withDialOptions.grpcCredentials = some .insecure ∨
        c.withDialOptions.grpcCredentials = none ∧ c.withDialOptions.insecure = true := by
  constructor
  · intro hscheme
    rcases effectiveCredentials_cases c with ⟨t, heff, -⟩ | ⟨-, hrecord⟩
    · rw [scheme_of_tls heff htarget] at hscheme
      exact absurd hscheme (by decide)
    · exact hrecord
  · intro hrecord
    -- secure ones on record would be neither of the two
    rcases effectiveCredentials_cases c with ⟨t, -, htls⟩ | ⟨heff, -⟩
    · rw [htls] at hrecord
      rcases hrecord with h | ⟨h, -⟩
      · cases h
      · cases h
    · exact scheme_of_insecure heff htarget

end Channel

/-- **A channel is secured as its configuration resolved to be.** Its scheme is the secure one
exactly if the credentials of the configuration are, and the settings in force are then theirs,
whatever dial options the caller has put in front. Credentials that are set outrank the flag;
without either the roots of the system are trusted. -/
theorem dialed_as_resolved (platform : Platform) (env : Environment) (ss : List Setting)
    (client : Client) (hown : (resolveGrpc env ss).grpcChannel = none)
    (hmake : Client.make platform (resolveGrpc env ss) = .ok client) :
    ∃ target tls agent, client.link = .dialed target tls agent ∧
      (target.scheme = some "https" ↔
        ∃ t, (resolveGrpc env ss).grpcCredentials = some (.tls t)) ∧
      (target.scheme = some "http" ↔
        (resolveGrpc env ss).grpcCredentials = some .insecure ∨
          (resolveGrpc env ss).grpcCredentials = none ∧
            (resolveGrpc env ss).insecure = true) ∧
      (∀ t, (resolveGrpc env ss).grpcCredentials = some (.tls t) → tls = some t) ∧
      (∀ x, (layered .grpc env ss).grpcCredentials = some x →
        (resolveGrpc env ss).grpcCredentials = some x) ∧
      ((layered .grpc env ss).grpcCredentials = none → (layered .grpc env ss).insecure = false →
        target.scheme = some "https" ∧ tls = some .systemRoots) := by
  obtain ⟨target, d, htarget, hd, hlink⟩ := dial_eq_ok (dial_of_make hown hmake)
  refine ⟨target, d.tls, d.agent, hlink, https_iff htarget, http_iff htarget, ?_, ?_, ?_⟩
  · intro t ht
    exact tls_of_effective (effectiveCredentials_of_record _ ht) hd
  · intro x hx
    exact grpcCredentials_of_set _ hx
  · intro hnone hflag
    -- with nothing set the roots of the system are put on record
    have heff := effectiveCredentials_of_unset _ hnone hflag
    have hrecord : (resolveGrpc env ss).grpcCredentials = some (.tls .systemRoots) := by
      show (layered .grpc env ss).withDialOptions.grpcCredentials = _
      rw [grpcCredentials_withDialOptions, heff, hnone, hflag]
      rfl
    exact ⟨(https_iff htarget).mpr ⟨_, hrecord⟩, tls_of_effective heff hd⟩

/-- An environment without variables and files. -/
def bareEnvironment : Environment where
  scope := Environment.defaultScope
  lookup _ := none
  openFile _ := .error "no such file"

/-- Roots in front of the credentials that are set, and the flag against them. -/
def contested : List Setting :=
  [.dialOption (.credentials (.tls { roots := some .sample })), .insecure,
    .grpcCredentials (.tls .systemRoots)]

theorem contested_channel_is_secured :
    (resolveGrpc bareEnvironment contested).grpcChannel = none ∧
      ∃ client, Client.make .ordinary (resolveGrpc bareEnvironment contested) = .ok client ∧
        ∃ target agent, client.link = .dialed target (some .systemRoots) agent ∧
          target.scheme = some "https" := by
  have hown : (resolveGrpc bareEnvironment contested).grpcChannel = none := by decide +kernel
  have hrecord : (resolveGrpc bareEnvironment contested).grpcCredentials =
      some (.tls .systemRoots) := by
    decide +kernel
  have hmade : (Client.make .ordinary (resolveGrpc bareEnvironment contested)).toOption.isSome = true := by
    decide +kernel
  refine ⟨hown, ?_⟩
  cases hmake : Client.make .ordinary (resolveGrpc bareEnvironment contested) with
  | error e =>
    rw [hmake] at hmade
    contradiction
  | ok client =>
    obtain ⟨target, tls, agent, hlink, hsecure, -, htls, -⟩ :=
      dialed_as_resolved .ordinary bareEnvironment contested client hown hmake
    -- neither the roots in front nor the flag has a part in it
    rw [htls _ hrecord] at hlink
    exact ⟨client, rfl, target, agent, hlink, hsecure.mpr ⟨_, hrecord⟩⟩

end Grpc

end LogCourier
