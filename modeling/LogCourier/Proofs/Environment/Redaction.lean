import LogCourier.Proofs.Config.Redaction
import LogCourier.Proofs.Environment.Security

/-!
# Environments without their secrets

Two environments are alike if they differ only in the values of configured headers, in the order
in which tables of headers are gone through and in the content of files that load in both
(`Alike`). Such environments give the same warnings (`Alike.diagnostics_eq`) and settings that
are alike one by one (`Alike.settings`).

Warnings and settings come row by row. A row has the same fault in both environments
(`Alike.fault_eq`) and adds something alike in both (`Alike.contribution`); the rest follows by
folding over the rows.
-/

namespace LogCourier.Environment

/-- Two optional items that are there together. Where they are, any two of what is made from
them are related, so what they hold does not matter. -/
theorem rel_map_of_isSome_eq {α β : Type} {R : β → β → Prop} {f : α → β}
    (hf : ∀ a a', R (f a) (f a')) {x y : Option α} (h : x.isSome = y.isSome) :
    Option.Rel R (x.map f) (y.map f) := by
  cases x with
  | none =>
    cases y with
    | none => exact .none
    | some a' => cases h
  | some a =>
    obtain ⟨a', rfl⟩ := Option.isSome_iff_exists.mp h.symm
    exact .some (hf a a')

/-! ## Rows -/

/-- The subjects whose variables name files. -/
def Subject.isSecurity : Subject → Bool
  | rootCertificates | clientIdentity => true
  | _ => false

/-- Nothing but the values of headers, their order and the files of certificates and keys tells
the two apart. The files that a row names load in both or in neither, and if they do not, then
for the same reason. -/
structure Alike (env env' : Environment) : Prop where
  scope_eq : env.scope = env'.scope
  idna_eq : env.idna = env'.idna
  platform_eq : env.platform = env'.platform
  value?_eq : ∀ l v, v ≠ .headers → env.value? l v = env'.value? l v
  headers_alike : ∀ l, Option.Rel Headers.Alike ((env.value? l .headers).map Headers.parse)
    ((env'.value? l .headers).map Headers.parse)
  fault?_eq : ∀ row : Row, row.subject.isSecurity = true → row.fault? env = row.fault? env'
  isSome_eq : ∀ row : Row, row.subject.isSecurity = true →
    (row.contribution? env).isSome = (row.contribution? env').isSome

/-- Contributions that nothing but secrets tells apart. -/
inductive Contribution.Alike : Contribution → Contribution → Prop
  | settings {ss ss' : List Setting} (h : List.Forall₂ Setting.Alike ss ss') :
      Alike (settings ss) (settings ss')
  | rootCertificates (roots roots' : TrustRoots) :
      Alike (rootCertificates roots) (rootCertificates roots')
  | clientIdentity (identity identity' : ClientIdentity) :
      Alike (clientIdentity identity) (clientIdentity identity')

/-! ### Settings of the library's own hold no function that could tell secrets -/

/-- The settings that the library makes from an entry are alike themselves: none of them
holds a function that could tell secrets. -/
theorem Entry.alike_of_mem {e : Entry} {s : Setting} (h : s ∈ e.settings) : s.Alike s := by
  cases e with
  -- an address is carried out by a named setting for security and a closure for host and
  -- path
  | address l e =>
    rcases List.mem_cons.mp h with rfl | h
    · split
      · exact .named rfl rfl rfl .none
      · exact .named rfl rfl rfl .none
    · obtain rfl := List.mem_singleton.mp h
      exact .split (Config.alikeChanges_of_redacted (fun _ => rfl) fun _ => rfl)
        (Config.alikeChanges_of_redacted (fun _ => rfl) fun _ => rfl)
  | insecure flag =>
    obtain rfl := List.mem_singleton.mp h
    cases flag
    · exact .named rfl rfl rfl .none
    · exact .named rfl rfl rfl .none
  | headers h' =>
    obtain rfl := List.mem_singleton.mp h
    exact .named rfl rfl rfl (.some (.refl h'))
  | _ =>
    obtain rfl := List.mem_singleton.mp h
    exact .named rfl rfl rfl .none

/-- What a row adds is alike itself, by the same reason, since it is made from an entry.
Alike is not reflexive in general: a closure of the caller is alike another only if both
keep secrets where they are. -/
theorem Row.alike_of_contribution {env : Environment} {row : Row} {c : Contribution}
    (h : row.contribution? env = some c) : c.Alike c := by
  -- the TLS material is kept for the end; all else comes as settings already
  cases c with
  | rootCertificates roots => exact .rootCertificates roots roots
  | clientIdentity identity => exact .clientIdentity identity identity
  | settings ss =>
    have hsettings := Row.settings_eq env row
    rw [Row.settings_of_contribution, h] at hsettings
    refine .settings (List.forall₂_same.mpr fun s hs => ?_)
    obtain rfl : ss = _ := hsettings
    cases hentry : row.entry? env with
    | none =>
      rw [hentry] at hs
      cases hs
    | some e =>
      rw [hentry] at hs
      exact e.alike_of_mem hs

/-- Rows that come to the same add the same. -/
theorem Row.rel_contribution {env env' : Environment} {row : Row}
    (h : row.outcome? env = row.outcome? env') :
    Option.Rel Contribution.Alike (row.contribution? env) (row.contribution? env') := by
  have hsame : row.contribution? env = row.contribution? env' := congrArg (Option.bind · _) h
  rw [← hsame]
  cases hadded : row.contribution? env with
  | none => exact .none
  | some c => exact .some (Row.alike_of_contribution hadded)

section Headers

variable (env : Environment) (l : Level)

theorem Row.fault?_headers : (Row.mk l .headers).fault? env = none := by
  unfold Row.fault?
  rw [Row.outcome?_one env l rfl]
  cases env.value? l .headers <;> rfl

/-- A line of headers adds one setting with the table of its pairs. -/
theorem Row.contribution?_headers :
    (Row.mk l .headers).contribution? env =
      (env.headers? l).map fun h => .settings [.headers h] := by
  rw [Row.contribution?_one env l rfl, headers?]
  cases env.value? l .headers <;> rfl

end Headers

/-- Only the rows about certificates and keys look at files, only those about headers at
their order, and only those about addresses at the tables for names. All other rows read the
same from the same values. -/
theorem Row.read_congr {env env' : Environment} {row : Row} (h : row.subject.isSecurity = false)
    (hheaders : row.subject ≠ .headers) (hidna : env.idna = env'.idna) (values : List String) :
    row.read env values = row.read env' values := by
  obtain ⟨l, subject⟩ := row
  -- the readers that are left look at nothing of the environment but how names are mapped
  cases subject with
  | rootCertificates => cases h
  | clientIdentity => cases h
  | headers => exact absurd rfl hheaders
  | endpoint =>
    match values with
    | [] => rfl
    | [_] => simp only [Row.read, hidna]
    | _ :: _ :: _ => rfl
  | _ =>
    match values with
    | [] => rfl
    | [_] => rfl
    | _ :: _ :: _ => rfl

namespace Alike

variable {env env' : Environment} (h : env.Alike env')

include h

/-- A row that is neither about security nor about headers comes to the same in both
environments. -/
theorem outcome_eq {row : Row} (hsecurity : row.subject.isSecurity = false)
    (hheaders : row.subject ≠ .headers) : row.outcome? env = row.outcome? env' := by
  have hread : row.read env = row.read env' :=
    funext (Row.read_congr hsecurity hheaders h.idna_eq)
  refine Row.outcome?_congr hread fun v hv => h.value?_eq _ v ?_
  rintro rfl
  exact hheaders (subject_of_mem_needed hv).symm

/-- **A row has the same fault in both environments.** For rows about files this is what
being alike asks for; it says nothing of what a good file holds. -/
theorem fault_eq (row : Row) : row.fault? env = row.fault? env' := by
  obtain ⟨l, subject⟩ := row
  cases subject with
  | rootCertificates => exact h.fault?_eq _ rfl
  | clientIdentity => exact h.fault?_eq _ rfl
  | headers => rw [Row.fault?_headers, Row.fault?_headers]
  | _ => exact congrArg (Option.bind · _) (h.outcome_eq rfl nofun)

/-- A row gives the same warning in both environments. -/
theorem warning_eq (row : Row) : row.warning? env = row.warning? env' := by
  have hkey : row.key env = row.key env' := by
    unfold Row.key key
    rw [h.scope_eq]
  unfold Row.warning?
  rw [hkey, h.fault_eq]

/-- What a row adds is alike in both environments, subject by subject. The rows about
secrets succeed or fail together and may differ in what they load. Headers differ in their
values alone. All other rows read equal texts by equal rules. -/
theorem contribution (row : Row) :
    Option.Rel Contribution.Alike (row.contribution? env) (row.contribution? env') := by
  obtain ⟨l, subject⟩ := row
  cases subject with
  | rootCertificates =>
    have hsome := h.isSome_eq ⟨l, .rootCertificates⟩ rfl
    rw [Row.contribution?_roots, Row.contribution?_roots, Option.isSome_map, Option.isSome_map] at hsome
    rw [Row.contribution?_roots, Row.contribution?_roots]
    exact rel_map_of_isSome_eq Contribution.Alike.rootCertificates hsome
  | clientIdentity =>
    have hsome := h.isSome_eq ⟨l, .clientIdentity⟩ rfl
    rw [Row.contribution?_identity, Row.contribution?_identity, Option.isSome_map,
      Option.isSome_map] at hsome
    rw [Row.contribution?_identity, Row.contribution?_identity]
    exact rel_map_of_isSome_eq Contribution.Alike.clientIdentity hsome
  | headers =>
    have halike := h.headers_alike l
    rw [Row.contribution?_headers, Row.contribution?_headers]
    unfold headers?
    generalize env.value? l .headers = line at halike ⊢
    generalize env'.value? l .headers = line' at halike ⊢
    cases line with
    | none =>
      cases line' with
      | none => exact .none
      | some v' => cases halike
    | some v =>
      cases line' with
      | none => cases halike
      | some v' =>
        -- the two tables are alike, and stay so in whatever order each is gone through
        obtain ⟨hheaders⟩ := halike
        exact .some (.settings (.cons
          (.named rfl rfl rfl (.some (hheaders.ordered env.headerOrder env'.headerOrder))) .nil))
  | _ => exact Row.rel_contribution (h.outcome_eq rfl nofun)

end Alike

/-! ## The whole environment -/

/-- Readings that nothing but secrets and warnings tell apart. -/
structure Reading.Alike (r r' : Reading) : Prop where
  settings : List.Forall₂ Setting.Alike r.settings r'.settings
  tls_eq : r.tls.redacted = r'.tls.redacted

/-- Alike contributions keep readings alike. Of certificates and keys only that they are
there is kept. -/
theorem Reading.Alike.add {r r' : Reading} (h : r.Alike r') {c c' : Contribution} (hc : c.Alike c') :
    (r.add c).Alike (r'.add c') := by
  cases hc with
  | settings hss =>
    exact { settings := List.rel_append h.settings hss, tls_eq := h.tls_eq }
  | rootCertificates roots roots' =>
    have htls := congrArg (fun t : TlsSettings => { t with roots := some .sample }) h.tls_eq
    exact { settings := h.settings, tls_eq := htls }
  | clientIdentity identity identity' =>
    have htls := congrArg (fun t : TlsSettings => { t with clientIdentity := some .sample }) h.tls_eq
    exact { settings := h.settings, tls_eq := htls }

namespace Alike

variable {env env' : Environment} (h : env.Alike env')

include h

/-- Environments that are alike are read alike, by folding over their rows. Rows add alike
contributions, and each of them is added to alike readings. -/
theorem read : env.read.Alike env'.read := by
  have hadded : List.Forall₂ Contribution.Alike (rows.filterMap (·.contribution? env))
      (rows.filterMap (·.contribution? env')) :=
    List.rel_filterMap (R := Eq) (fun row _ hrow => hrow ▸ h.contribution row)
      (List.forall₂_same.mpr fun _ _ => rfl)
  have hfolded : Reading.Alike ((rows.filterMap (·.contribution? env)).foldl Reading.add {})
      ((rows.filterMap (·.contribution? env')).foldl Reading.add {}) :=
    List.rel_foldl (fun _ _ hr _ _ hc => hr.add hc) { settings := .nil, tls_eq := rfl } hadded
  rw [read_eq, read_eq]
  exact { settings := hfolded.settings, tls_eq := hfolded.tls_eq }

/-- **Environments that are alike give the same warnings.** -/
theorem diagnostics_eq : env.diagnostics = env'.diagnostics := by
  rw [Environment.diagnostics_eq, Environment.diagnostics_eq]
  exact List.filterMap_congr fun row _ => h.warning_eq row

/-- **Environments that are alike give settings that are alike**, the last of them for
security if there is one. It is there in both or in neither, since that is told from which
parts were loaded. -/
theorem settings : List.Forall₂ Setting.Alike env.settings env'.settings := by
  have hread := h.read
  have hempty : env.read.tls.isEmpty = env'.read.tls.isEmpty := by
    rw [← TlsSettings.isEmpty_redacted, hread.tls_eq, TlsSettings.isEmpty_redacted]
  unfold Environment.settings Reading.allSettings
  rw [← hempty]
  split
  · exact hread.settings
  · have htls : (Setting.tls env.read.tls).Alike (.tls env'.read.tls) :=
      .named rfl rfl (congrArg Setting.tls hread.tls_eq) .none
    exact List.rel_append hread.settings (.cons htls .nil)

end Alike

end LogCourier.Environment
