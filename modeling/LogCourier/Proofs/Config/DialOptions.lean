import LogCourier.Proofs.Environment.Security

/-!
# The dial options of a configuration

The list of dial options grows in three steps: it starts with the user agent, each setting of the
caller that is a dial option goes behind it, and resolving puts the options behind these that
follow from the other settings. Whatever is set twice before that, the options that follow are
derived once, from what is left in the end.

* `Setting.dialOptions_applyAll`: the settings of the caller, whose order counts.
* `dialOptions_layered`: the environment adds none.
* `dial_options_follow_configuration`: the whole list, in terms of the configuration that holds it.
-/

namespace LogCourier

theorem Duration.isZero_iff {d : Duration} : d.isZero = true ↔ d = .zero := by
  obtain ⟨n⟩ := d
  rw [Duration.isZero, beq_iff_eq, Duration.zero, Duration.mk.injEq]

namespace Setting

/-! ## What the settings of the caller add -/

/-- The dial option that a setting is. -/
def dialOption? : Setting → Option DialOption
  | dialOption d => some d
  | _ => none

variable {s : Setting} {ss : List Setting} (c : Config)

/-- Over gRPC a named setting adds the dial option that it is, or none. -/
theorem dialOptions_applyGrpc (h : s.isNamed = true) :
    (s.applyGrpc c).dialOptions = c.dialOptions ++ s.dialOption?.toList := by
  cases s with
  | dialOption d => rfl
  | _ => first | exact (List.append_nil _).symm | cases h

theorem dialOptions_applyHttp (h : s.isNamed = true) :
    (s.applyHttp c).dialOptions = c.dialOptions := by
  cases s <;> first | rfl | cases h

/-- Each dial option goes behind those before it. Induction on the settings of the
caller. -/
theorem dialOptions_applyAll (h : ∀ s ∈ ss, s.isNamed = true) :
    (applyAll .grpc ss c).dialOptions = c.dialOptions ++ ss.filterMap dialOption? := by
  induction ss generalizing c with
  | nil => exact (List.append_nil _).symm
  | cons s rest ih =>
    have hrest : ∀ s ∈ rest, s.isNamed = true := fun s hs => h s (List.mem_cons_of_mem _ hs)
    -- the first setting adds its own option, and the rest add theirs behind it
    calc
      (applyAll .grpc (s :: rest) c).dialOptions
          = (s.applyGrpc c).dialOptions ++ rest.filterMap dialOption? := ih (s.applyGrpc c) hrest
      _ = c.dialOptions ++ (s.dialOption?.toList ++ rest.filterMap dialOption?) := by
        rw [dialOptions_applyGrpc c (h s List.mem_cons_self), List.append_assoc]
      _ = c.dialOptions ++ (s :: rest).filterMap dialOption? := by
        rw [List.filterMap_cons]
        cases s.dialOption? <;> rfl

end Setting

namespace Config

open Environment (Row rows)

/-! ## The environment adds none -/

section Layers

variable (t : Transport) (env : Environment)

/-- The settings that come from a row of the environment are no dial options. So the options
of a resolved configuration are those of the caller, behind the agent of the library and
before the ones that are derived. -/
theorem dialOptions_row (row : Row) (c : Config) :
    (Setting.applyAll t (row.settings env) c).dialOptions = c.dialOptions := by
  rw [Row.settings_eq]
  cases row.entry? env with
  | none => rfl
  | some e =>
    show (Setting.applyAll t e.settings c).dialOptions = c.dialOptions
    rw [applyAll_entry]
    cases t <;> cases e <;> rfl

/-- Nor are those of all rows. The condition on the configuration goes through the fold
unchanged. -/
theorem dialOptions_rows (c : Config) :
    (Setting.applyAll t (rows.flatMap (·.settings env)) c).dialOptions = c.dialOptions := by
  unfold Setting.applyAll
  rw [List.foldl_flatMap]
  exact List.foldlRecOn (motive := fun c' => c'.dialOptions = c.dialOptions) rows _ rfl
    fun c' hc' row _ => (dialOptions_row t env row c').trans hc'

/-- The settings of the caller start from the initial dial options. -/
theorem exists_layered_eq (ss : List Setting) :
    ∃ c, layered t env ss = Setting.applyAll t ss c ∧ c.dialOptions = (initial t).dialOptions := by
  refine ⟨_, Environment.layered_eq env t, ?_⟩
  -- the setting for security behind the rows adds none either
  split
  · exact dialOptions_rows t env (initial t)
  · cases t <;> exact dialOptions_rows _ env (initial _)

end Layers

theorem dialOptions_withCleanPath (c : Config) : c.withCleanPath.dialOptions = c.dialOptions :=
  rfl

section Resolved

variable (env : Environment) {ss : List Setting} (h : ∀ s ∈ ss, s.isNamed = true)
include h

/-- **Before resolving, the dial options are the user agent and those of the caller.** -/
theorem dialOptions_layered :
    (layered .grpc env ss).dialOptions = .userAgent userAgent :: ss.filterMap Setting.dialOption? := by
  obtain ⟨c, hlayered, hc⟩ := exists_layered_eq .grpc env ss
  rw [hlayered, Setting.dialOptions_applyAll c h, hc]
  rfl

/-- **Over HTTP there are none in the end**, since those of the caller are passed over and
nothing is derived. -/
theorem dialOptions_resolveHttp : (resolveHttp env ss).dialOptions = [] := by
  obtain ⟨c, hlayered, hc⟩ := exists_layered_eq .http env ss
  have hkeeps : ∀ s ∈ ss, ∀ c : Config, (s.apply .http c).dialOptions = c.dialOptions :=
    fun s hs c => Setting.dialOptions_applyHttp c (h s hs)
  rw [resolveHttp, dialOptions_withCleanPath, hlayered, Setting.get_applyAll Config.dialOptions hkeeps,
    hc]
  rfl

end Resolved

/-! ## What follows from the other settings -/

/-- The credentials in force are those on record, or none where there are none on record.
Adding the derived options puts the credentials in force on record, so they can be read off
there. -/
theorem getD_grpcCredentials_withDialOptions (c : Config) :
    c.withDialOptions.grpcCredentials.getD .insecure = c.effectiveCredentials := by
  rcases Grpc.effectiveCredentials_cases c with ⟨t, heff, hrecord⟩ | ⟨heff, hrecord | ⟨hrecord, -⟩⟩
  · rw [heff, hrecord]
    rfl
  · rw [heff, hrecord]
    rfl
  · rw [heff, hrecord]
    rfl

/-- What follows can be read off the configuration in the end as well: neither the service
configuration nor compression nor the period is changed by adding the options, and the
credentials in force are on record then. -/
theorem derivedDialOptions_eq (c : Config) :
    c.derivedDialOptions =
      (c.withDialOptions.serviceConfig.map DialOption.serviceConfig).toList
        ++ [.credentials (c.withDialOptions.grpcCredentials.getD .insecure)]
        ++ (if c.withDialOptions.compression = .gzip then [.compressor .gzip] else [])
        ++ (if c.withDialOptions.reconnectionPeriod = .zero then []
            else [.connectParams {} c.withDialOptions.reconnectionPeriod]) := by
  -- resolving leaves alone all that the options are read off
  rw [Grpc.get_withDialOptions c Config.serviceConfig fun _ _ _ => rfl,
    Grpc.get_withDialOptions c Config.compression fun _ _ _ => rfl,
    Grpc.get_withDialOptions c Config.reconnectionPeriod fun _ _ _ => rfl,
    getD_grpcCredentials_withDialOptions, derivedDialOptions]
  simp only [Duration.isZero_iff]

/-- If no credentials are on record in the end, the flag has switched security off.
Otherwise resolving would have put some on record. -/
theorem insecure_of_no_credentials {c : Config} (h : c.withDialOptions.grpcCredentials = none) :
    c.withDialOptions.insecure = true := by
  rcases Grpc.effectiveCredentials_cases c with ⟨t, -, hrecord⟩ | ⟨-, hrecord | ⟨-, hflag⟩⟩
  · cases h.symm.trans hrecord
  · cases h.symm.trans hrecord
  · exact hflag

/-- **The dial options of a configuration follow from it.** Over gRPC they are the user agent,
the dial options of the caller in their order, and then, once each and read off the configuration
itself: its service configuration if it has one, its credentials or none at all, compression if
it asks for it, and the parameters of connecting if it has a period for that. Credentials are
missing only where security is switched off. Over HTTP there are no dial options. -/
theorem dial_options_follow_configuration (env : Environment) (ss : List Setting)
    (h : ∀ s ∈ ss, s.isNamed = true) :
    let c := resolveGrpc env ss
    c.dialOptions =
        [.userAgent userAgent] ++ ss.filterMap Setting.dialOption?
          ++ (c.serviceConfig.map DialOption.serviceConfig).toList
          ++ [.credentials (c.grpcCredentials.getD .insecure)]
          ++ (if c.compression = .gzip then [.compressor .gzip] else [])
          ++ (if c.reconnectionPeriod = .zero then [] else [.connectParams {} c.reconnectionPeriod]) ∧
      (c.grpcCredentials = none → c.insecure = true) ∧
      (resolveHttp env ss).dialOptions = [] := by
  refine ⟨?_, insecure_of_no_credentials, dialOptions_resolveHttp env h⟩
  -- resolving puts what follows behind the options of the layers
  show (layered .grpc env ss).dialOptions ++ (layered .grpc env ss).derivedDialOptions = _
  rw [dialOptions_layered env h, derivedDialOptions_eq]
  simp only [List.append_assoc, List.cons_append, List.nil_append]
  rfl

/-- Settings that overwrite each other, dial options of the caller between them. -/
def entangled : List Setting :=
  [.serviceConfig "{}", .dialOption (.compressor .gzip), .reconnectionPeriod (.ofSeconds 2), .secure,
    .compression .gzip, .urlPath "/logs", .dialOption (.userAgent "mine"), .insecure,
    .serviceConfig "[]", .compression .none]

theorem entangled_options_are_listed :
    (∀ s ∈ entangled, s.isNamed = true) ∧
      (resolveGrpc Grpc.bareEnvironment entangled).dialOptions =
        [.userAgent userAgent, .compressor .gzip, .userAgent "mine", .serviceConfig "[]",
          .credentials .insecure, .connectParams {} (.ofSeconds 2)] := by
  have hnamed : ∀ s ∈ entangled, s.isNamed = true := by decide
  refine ⟨hnamed, ?_⟩
  rw [(dial_options_follow_configuration Grpc.bareEnvironment entangled hnamed).1]
  decide +kernel

end Config

end LogCourier
