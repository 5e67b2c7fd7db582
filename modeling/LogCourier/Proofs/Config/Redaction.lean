import LogCourier.Config.Resolve
import LogCourier.Proofs.Config.Layers
import LogCourier.Proofs.Tls
import Mathlib.Data.List.Forall2

/-!
# Configurations without their secrets

The values of headers, certificates and keys are secrets; the keys of headers and whether there are
certificates at all are not. `redacted` puts something in place of every secret, and two things are
alike if nothing but secrets tells them apart, and the order in which tables of headers are gone
through, which hashing decides.

* `Headers.Alike` says of tables of headers that they have the same keys, and values that a request
  can carry in both or in neither. The keys that are reported are then the same up to their order
  (`Headers.Alike.invalidKeys`).
* `Config.redacted` keeps of a configuration what is neither secret nor headers. What is told about
  the rest can be read off the redacted one: `TlsSettings.inspect_redacted` and the like.
* `Setting.Alike` relates settings. A function of the caller's is alike to another one if the two
  keep configurations alike, so a function that copies a secret to another place is not.
* `Setting.Alike.apply` is one setting, `alike_applyAll` a list of them, and
  `withCleanPath_redacted` and `withDialOptions_redacted` are the last steps of the two
  transports.
-/

namespace LogCourier

/-! ## Headers -/

/-- A value that a request can carry exactly if it can carry the given one. -/
def Header.redacted (value : String) : String :=
  if isValue value then "" else "\n"

theorem Header.isValue_redacted (value : String) : isValue (redacted value) = isValue value := by
  unfold redacted
  cases h : isValue value with
  | true => rfl
  | false => rfl

/-- So it tells apart the values that a request can carry from those that it cannot, and
nothing else. -/
theorem Header.redacted_eq_iff {value value' : String} :
    redacted value = redacted value' ↔ isValue value = isValue value' := by
  constructor
  · intro h
    rw [← isValue_redacted value, h, isValue_redacted]
  · intro h
    unfold redacted
    rw [h]

namespace Headers

/-- The keys, each with a value that says nothing but whether a request can carry the given
one. -/
def redacted (h : Headers) : Headers :=
  h.map fun (key, value) => (key, Header.redacted value)

/-- Headers without their values are the same if the keys are, and if of two values a
request can carry the one exactly if it can carry the other. This is what is asked of two
tables, up to their order. -/
theorem redacted_eq_iff {h h' : Headers} :
    h.redacted = h'.redacted ↔
      List.Forall₂ (fun p p' => p.1 = p'.1 ∧ Header.isValue p.2 = Header.isValue p'.2) h h' := by
  unfold redacted
  rw [← List.forall₂_eq_eq_eq, List.forall₂_map_left_iff, List.forall₂_map_right_iff]
  simp only [Prod.mk.injEq, Header.redacted_eq_iff]

/-- Whether a header makes a field of a request can be told without its value. -/
theorem isNone_field?_redacted (key value : String) :
    (Header.field? key (Header.redacted value)).isNone = (Header.field? key value).isNone := by
  unfold Header.field?
  rw [Header.isValue_redacted]
  cases Header.isName key && Header.isValue value <;> rfl

/-- The same keys in some order, with values that a request can carry in both or in neither. -/
def Alike (h h' : Headers) : Prop :=
  h.redacted.Perm h'.redacted

/-- A header that no request can carry is reported by its key, so redacted headers are
reported as the given ones are. -/
theorem invalidKeys_redacted (h : Headers) : h.redacted.invalidKeys = h.invalidKeys := by
  unfold redacted invalidKeys
  rw [List.filter_map, List.map_map]
  have hkept : ((fun (key, value) => (Header.field? key value).isNone) ∘
      fun ((key, value) : String × String) => (key, Header.redacted value)) =
        fun (key, value) => (Header.field? key value).isNone := by
    funext ⟨key, value⟩
    exact isNone_field?_redacted key value
  rw [hkept]
  rfl

namespace Alike

theorem refl (h : Headers) : h.Alike h :=
  List.Perm.refl _

/-- In whatever orders the two are gone through, they stay alike. -/
theorem ordered {h h' : Headers} (hh : h.Alike h') (o o' : Order) : (o.apply h).Alike (o'.apply h') :=
  ((o.perm h).map _).trans (hh.trans ((o'.perm h').map _).symm)

theorem invalidKeys {h h' : Headers} (hh : h.Alike h') : h.invalidKeys.Perm h'.invalidKeys := by
  rw [← invalidKeys_redacted h, ← invalidKeys_redacted h']
  exact (hh.filter _).map _

end Alike

end Headers

/-! ## Certificates and keys -/

namespace TlsSettings

/-- Which parts are there. -/
def redacted (t : TlsSettings) : TlsSettings where
  roots := t.roots.map fun _ => .sample
  clientIdentity := t.clientIdentity.map fun _ => .sample

/-- Settings without their files are the same if the same parts are there: what the files
hold is lost on both sides. -/
theorem redacted_eq_iff {t t' : TlsSettings} :
    t.redacted = t'.redacted ↔
      t.roots.isSome = t'.roots.isSome ∧ t.clientIdentity.isSome = t'.clientIdentity.isSome := by
  obtain ⟨roots, identity⟩ := t
  obtain ⟨roots', identity'⟩ := t'
  cases roots <;> cases identity <;> cases roots' <;> cases identity' <;> simp [redacted]

variable (t : TlsSettings)

/-- Security is shown as the parts that are there. The bytes of its files are not shown. -/
theorem inspect_redacted : t.redacted.inspect = t.inspect := by
  obtain ⟨roots, identity⟩ := t
  cases roots <;> cases identity <;> rfl

/-- Whether there is anything to secure can be told without the files. -/
theorem isEmpty_redacted : t.redacted.isEmpty = t.isEmpty := by
  obtain ⟨roots, identity⟩ := t
  cases roots <;> cases identity <;> rfl

end TlsSettings

namespace Credentials

/-- Credentials without the files of their security. -/
def redacted : Credentials → Credentials
  | insecure => insecure
  | tls settings => tls settings.redacted

/-- Credentials are shown by their kind, and security as above. -/
theorem inspect_redacted (c : Credentials) : c.redacted.inspect = c.inspect := by
  cases c with
  | insecure => rfl
  | tls settings =>
    show "Tls(" ++ settings.redacted.inspect ++ ")" = _
    rw [settings.inspect_redacted]
    rfl

/-- Taking away secrets makes nobody insecure: the kind of the credentials stays. -/
theorem redacted_eq_insecure (c : Credentials) : c.redacted = insecure ↔ c = insecure := by
  cases c with
  | insecure => exact Iff.rfl
  | tls settings => exact iff_of_false nofun nofun

end Credentials

/-- Of the dial options only credentials hold secrets. -/
def DialOption.redacted : DialOption → DialOption
  | credentials c => credentials c.redacted
  | o => o

/-! ## Configurations -/

namespace Config

/-- What is neither secret nor headers. -/
def redacted (c : Config) : Config :=
  { c with
    headers := []
    tls := c.tls.map TlsSettings.redacted
    grpcCredentials := c.grpcCredentials.map Credentials.redacted
    dialOptions := c.dialOptions.map DialOption.redacted }

/-- Nothing but secrets and the order of headers tells the two apart. -/
structure Alike (c c' : Config) : Prop where
  redacted_eq : c.redacted = c'.redacted
  headers : c.headers.Alike c'.headers

/-- What can be read off a redacted configuration is the same for configurations that are
alike. The messages about a configuration are all of this kind. -/
theorem Alike.map_eq {α : Type} {c c' : Config} (h : c.Alike c') (f : Config → α)
    (hf : ∀ c : Config, f c.redacted = f c) : f c = f c' :=
  calc f c
    _ = f c.redacted := (hf c).symm
    _ = f c'.redacted := congrArg f h.redacted_eq
    _ = f c' := hf c'

/-- Changes that keep configurations alike. -/
def AlikeChanges (f f' : Config → Config) : Prop :=
  ∀ ⦃c c'⦄, Alike c c' → Alike (f c) (f' c')

/-- A function that neither looks at secrets and headers nor writes them. -/
theorem alikeChanges_of_redacted {f : Config → Config} (hf : ∀ c, (f c).redacted = f c.redacted)
    (hheaders : ∀ c, (f c).headers = c.headers) : AlikeChanges f f := by
  intro c c' hc
  constructor
  · rw [hf, hf, hc.redacted_eq]
  · rw [hheaders, hheaders]
    exact hc.headers

section Parts

variable (c : Config)

/-- What is shown of the security of HTTP connections is shown of the redacted one. -/
theorem inspect_tls_redacted : c.redacted.tls.map (·.inspect) = c.tls.map (·.inspect) := by
  show (c.tls.map TlsSettings.redacted).map _ = _
  rw [Option.map_map]
  exact Option.map_congr fun t _ => t.inspect_redacted

theorem inspect_grpcCredentials_redacted :
    c.redacted.grpcCredentials.map (·.inspect) = c.grpcCredentials.map (·.inspect) := by
  show (c.grpcCredentials.map Credentials.redacted).map _ = _
  rw [Option.map_map]
  exact Option.map_congr fun x _ => x.inspect_redacted

/-- The last step over HTTP takes the path, which is no secret, to another path. -/
theorem withCleanPath_redacted : c.redacted.withCleanPath = c.withCleanPath.redacted :=
  rfl

/-- The message about the configuration of an HTTP exporter mentions no secrets. -/
theorem httpBuilt_redacted : c.redacted.httpBuilt = c.httpBuilt :=
  rfl

/-- The credentials in force follow from those on record and the flag. Which of them it is
does not depend on secrets. -/
theorem effectiveCredentials_redacted :
    c.redacted.effectiveCredentials = c.effectiveCredentials.redacted := by
  have hset : c.redacted.grpcCredentials = c.grpcCredentials.map Credentials.redacted := rfl
  have hflag : c.redacted.insecure = c.insecure := rfl
  unfold effectiveCredentials
  rw [hset, hflag]
  cases c.grpcCredentials with
  | some x => rfl
  | none => cases c.insecure <;> rfl

/-- **What follows from the other settings is, without secrets, what follows from them
without secrets.** Four kinds of options are derived, and of these the credentials alone
change. -/
theorem derivedDialOptions_redacted :
    c.redacted.derivedDialOptions = c.derivedDialOptions.map DialOption.redacted := by
  unfold derivedDialOptions
  rw [effectiveCredentials_redacted, List.map_append, List.map_append, List.map_append]
  -- only the credentials hold secrets
  have hservice : (c.serviceConfig.map DialOption.serviceConfig).toList.map DialOption.redacted =
      (c.serviceConfig.map DialOption.serviceConfig).toList := by
    cases c.serviceConfig <;> rfl
  have hcompressor : (if c.compression = .gzip then [DialOption.compressor .gzip] else []).map
      DialOption.redacted = if c.compression = .gzip then [.compressor .gzip] else [] := by
    split <;> rfl
  have hparams : (if c.reconnectionPeriod.isZero then []
      else [DialOption.connectParams {} c.reconnectionPeriod]).map DialOption.redacted =
        if c.reconnectionPeriod.isZero then [] else [.connectParams {} c.reconnectionPeriod] := by
    split <;> rfl
  rw [hservice, hcompressor, hparams]
  rfl

/-- Credentials are put on record where there are none and the flag asks for some. Neither
can be told from secrets. -/
theorem withCredentials_redacted : c.redacted.withCredentials = c.withCredentials.redacted := by
  unfold withCredentials
  have hunset : c.redacted.grpcCredentials.isNone = c.grpcCredentials.isNone :=
    Option.isNone_map
  rw [hunset]
  show (if c.grpcCredentials.isNone && !c.insecure then _ else _) = _
  split <;> rfl

/-- **The last step over gRPC can be taken without knowing secrets.** -/
theorem withDialOptions_redacted : c.redacted.withDialOptions = c.withDialOptions.redacted := by
  unfold withDialOptions
  rw [withCredentials_redacted, derivedDialOptions_redacted]
  have hoptions : c.redacted.dialOptions ++ c.derivedDialOptions.map DialOption.redacted =
      (c.dialOptions ++ c.derivedDialOptions).map DialOption.redacted :=
    List.map_append.symm
  rw [hoptions]
  rfl

/-- The message about a gRPC configuration tells the number of its dial options, which
redaction leaves as it is. -/
theorem grpcBuilt_redacted : c.redacted.grpcBuilt = c.grpcBuilt := by
  have hlength : c.redacted.dialOptions.length = c.dialOptions.length := List.length_map _
  unfold grpcBuilt
  rw [hlength]
  rfl

end Parts

end Config

/-! ## Settings -/

namespace Setting

/-- A named setting without its secrets and headers. -/
def redacted : Setting → Setting
  | tls settings => tls settings.redacted
  | headers _ => headers []
  | dialOption d => dialOption d.redacted
  | grpcCredentials c => grpcCredentials c.redacted
  | s => s

/-- Nothing but secrets and the order of headers tells the two apart. -/
inductive Alike : Setting → Setting → Prop
  | named {s s' : Setting} (hs : s.isNamed = true) (hs' : s'.isNamed = true)
      (h : s.redacted = s'.redacted) (hheaders : Option.Rel Headers.Alike s.headers? s'.headers?) :
      Alike s s'
  | generic {f f' : Config → Config} (h : Config.AlikeChanges f f') : Alike (generic f) (generic f')
  | split {http grpc http' grpc' : Config → Config} (hhttp : Config.AlikeChanges http http')
      (hgrpc : Config.AlikeChanges grpc grpc') : Alike (split http grpc) (split http' grpc')
  | httpOnly {f f' : Config → Config} (h : Config.AlikeChanges f f') :
      Alike (httpOnly f) (httpOnly f')
  | grpcOnly {f f' : Config → Config} (h : Config.AlikeChanges f f') :
      Alike (grpcOnly f) (grpcOnly f')

/-- **Redaction goes through a named setting**: the redacted setting makes of a redacted
configuration what comes of redacting afterwards. Dial options are the one case that builds
on what is there. -/
theorem redacted_apply {s : Setting} (hs : s.isNamed = true) (t : Transport) (c : Config) :
    (s.apply t c).redacted = s.redacted.apply t c.redacted := by
  cases s with
  | generic change => cases hs
  | split http grpc => cases hs
  | httpOnly change => cases hs
  | grpcOnly change => cases hs
  -- the one setting that builds on what is there
  | dialOption d =>
    cases t with
    | http => rfl
    | grpc =>
      have hoptions : (c.dialOptions ++ [d]).map DialOption.redacted =
          c.dialOptions.map DialOption.redacted ++ [d.redacted] :=
        List.map_append
      show ({ c with dialOptions := c.dialOptions ++ [d] } : Config).redacted =
        { c.redacted with dialOptions := c.dialOptions.map DialOption.redacted ++ [d.redacted] }
      rw [← hoptions]
      rfl
  | _ => cases t <;> rfl

/-- A named setting writes headers if it holds some, and no others. -/
theorem headers_apply {s : Setting} (hs : s.isNamed = true) (t : Transport) (c : Config) :
    (s.apply t c).headers = s.headers?.getD c.headers :=
  (Config.headersKnob t).get_setting s c hs

/-- Settings that are alike keep configurations alike. Named ones do since redaction goes
through them, with headers looked at on their own; the functions of the caller do by what is
asked of them. -/
theorem Alike.apply {s s' : Setting} (h : s.Alike s') (t : Transport) {c c' : Config}
    (hc : c.Alike c') : (s.apply t c).Alike (s'.apply t c') := by
  cases h with
  | named hs hs' hredacted hheaders =>
    constructor
    · rw [redacted_apply hs, redacted_apply hs', hredacted]
      exact congrArg _ hc.redacted_eq
    · -- either both hold headers or both leave those of the configurations
      rw [headers_apply hs, headers_apply hs']
      generalize s.headers? = held at hheaders
      generalize s'.headers? = held' at hheaders
      cases hheaders with
      | none => exact hc.headers
      | some hh => exact hh
  -- functions of the caller's keep configurations alike by assumption, where they apply
  | generic hf => cases t <;> exact hf hc
  | split hhttp hgrpc =>
    cases t with
    | http => exact hhttp hc
    | grpc => exact hgrpc hc
  | httpOnly hf =>
    cases t with
    | http => exact hf hc
    | grpc => exact hc
  | grpcOnly hf =>
    cases t with
    | http => exact hc
    | grpc => exact hf hc

theorem alike_applyAll (t : Transport) {ss ss' : List Setting} (h : List.Forall₂ Alike ss ss')
    {c c' : Config} (hc : c.Alike c') : (applyAll t ss c).Alike (applyAll t ss' c') :=
  List.rel_foldl (fun _ _ hc _ _ hs => hs.apply t hc) hc h

end Setting

end LogCourier
