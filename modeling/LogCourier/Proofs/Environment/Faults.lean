import LogCourier.Proofs.Environment.Security
import Mathlib.Data.List.Nodup

/-!
# Rows that cannot be read

A row whose variables are all set but say nothing that can be read is malformed. It is passed over:
everything else is read as if its variables were not there, and it leaves one warning.

* `exists_fault_iff`: a row has a fault exactly if it is malformed.
* `key_injective`: no two rows share a variable, so taking away those of one leaves the others what
  they were (`Row.outcome?_without_of_not_mem`).
* `malformed_rows_are_inert` says what comes of it for one row and for any number of them.
-/

namespace LogCourier.Environment

/-! ## Malformed rows -/

/-- What the variables of a row say can be read. Any word is a protocol, a list of headers or a kind
of compression. -/
def Row.isReadable (row : Row) (env : Environment) : Bool :=
  match row.subject with
  | .endpoint => (env.address? row.level).isSome
  | .rootCertificates => (env.rootCertificates? row.level).isSome
  | .clientIdentity => (env.clientIdentity? row.level).isSome
  | .insecure => (env.insecure? row.level).isSome
  | .timeout => (env.timeout? row.level).isSome
  | .protocol | .headers | .compression => true

def Row.IsMalformed (row : Row) (env : Environment) : Prop :=
  (∀ v ∈ row.subject.needed, (env.value? row.level v).isSome) ∧ row.isReadable env = false

instance (row : Row) (env : Environment) : Decidable (row.IsMalformed env) :=
  inferInstanceAs (Decidable (_ ∧ _))

section Fault

variable (env : Environment) (l : Level)

/-- A row that is read either adds something or has a fault. So a fault is there if all
variables are set and nothing is added. -/
theorem Row.fault?_isSome_iff (row : Row) :
    (row.fault? env).isSome ↔
      (row.values? env).isSome ∧ row.contribution? env = none := by
  unfold Row.fault? Row.contribution? Row.outcome?
  cases row.values? env with
  | none => simp
  | some values =>
    simp only [Option.map_some, Option.bind_some]
    cases row.read env values <;> simp [Except.toOption]

/-- The values of a row are there if every variable that it needs is set. Induction on those
that it needs. -/
theorem Row.isSome_values?_iff (row : Row) :
    (row.values? env).isSome ↔ ∀ v ∈ row.subject.needed, (env.value? row.level v).isSome := by
  unfold Row.values?
  generalize row.subject.needed = vs
  induction vs with
  | nil => simp
  | cons v rest ih =>
    rw [List.mapM_cons, List.forall_mem_cons, ← ih]
    cases env.value? row.level v with
    | none => simp
    | some x => cases rest.mapM (env.value? row.level) <;> simp

/-- **A row has a fault exactly if it is malformed.** What can be read is said subject by
subject in `isReadable`, with the readers of single variables. -/
theorem exists_fault_iff (row : Row) : (row.fault? env).isSome ↔ row.IsMalformed env := by
  rw [Row.fault?_isSome_iff, Row.isSome_values?_iff]
  refine and_congr_right fun hset => ?_
  obtain ⟨l, subject⟩ := row
  unfold Row.isReadable
  cases subject with
  | endpoint => rw [Row.contribution?_endpoint]; simp
  | rootCertificates => rw [Row.contribution?_roots]; simp [rootCertificates?]
  | clientIdentity => rw [Row.contribution?_identity]; simp
  | insecure => rw [Row.contribution?_insecure]; simp
  | timeout => rw [Row.contribution?_timeout]; simp
  -- any word can be read
  | _ =>
    obtain ⟨v, hv⟩ := Option.isSome_iff_exists.mp (hset _ List.mem_cons_self)
    refine iff_of_false ?_ Bool.noConfusion
    rw [Row.contribution?, Row.outcome?_one env l rfl, hv]
    exact Option.some_ne_none _

end Fault

/-! ## No two rows share a variable -/

/-- The end of the name of a variable. -/
def suffix (x : Level × Variable) : String :=
  x.1.label ++ x.2.label

def allVariables : List (Level × Variable) :=
  Variable.all.flatMap fun v => [(.shared, v), (.logs, v)]

theorem mem_allVariables (x : Level × Variable) : x ∈ allVariables := by
  obtain ⟨l, v⟩ := x
  cases l <;> cases v <;> decide

theorem nodup_suffixes : (allVariables.map suffix).Nodup := by decide +kernel

/-- No two variables have one name: behind the prefix that they share their names differ. -/
theorem key_injective (env : Environment) {l l' : Level} {v v' : Variable}
    (h : env.key l v = env.key l' v') : l = l' ∧ v = v' := by
  have hsuffix : suffix (l, v) = suffix (l', v') := by
    simp only [key, keyIn, String.append_assoc, String.append_right_inj] at h
    exact h
  -- the names have the prefix in common; what follows it tells them apart
  have hpair := List.inj_on_of_nodup_map nodup_suffixes (mem_allVariables _) (mem_allVariables _)
    hsuffix
  exact Prod.mk.inj hpair

/-- The names of the variables of a row. -/
def Row.keys (row : Row) (env : Environment) : List String :=
  row.subject.needed.map (env.key row.level)

/-- No two rows share a variable. A variable tells its subject, and a name the level. So
what a warning is about is known from the name alone. -/
theorem Row.eq_of_mem_keys {env : Environment} {row other : Row} {name : String}
    (h : name ∈ row.keys env) (hother : name ∈ other.keys env) : row = other := by
  obtain ⟨v, hv, rfl⟩ := List.mem_map.mp h
  obtain ⟨v', hv', hkey⟩ := List.mem_map.mp hother
  obtain ⟨hlevel, rfl⟩ := key_injective env hkey
  obtain ⟨l, s⟩ := row
  obtain ⟨l', s'⟩ := other
  obtain rfl : l' = l := hlevel
  have hsubject : s = s' := (subject_of_mem_needed hv).symm.trans (subject_of_mem_needed hv')
  rw [hsubject]

/-! ## Without some variables -/

/-- The environment without the variables of some names. -/
def unset (env : Environment) (names : List String) : Environment :=
  { env with lookup := fun name => if name ∈ names then none else env.lookup name }

section Unset

variable {env : Environment} {names : List String}

/-- What is unset is not there, and the other variables are as before. -/
theorem value?_unset (l : Level) (v : Variable) :
    (env.unset names).value? l v = if env.key l v ∈ names then none else env.value? l v := by
  show (if env.key l v ∈ names then none else env.lookup (env.key l v)).bind Text.nonBlank? = _
  split <;> rfl

/-- A row without its variables comes to nothing. Every row needs a first variable, and one
that is missing is enough. -/
theorem Row.outcome?_unset_of_mem {row : Row} (h : ∀ name ∈ row.keys env, name ∈ names) :
    row.outcome? (env.unset names) = none := by
  have hvalue : ∀ v ∈ row.subject.needed, (env.unset names).value? row.level v = none := by
    intro v hv
    rw [value?_unset, if_pos (h _ (List.mem_map_of_mem hv))]
  have hvalues : row.values? (env.unset names) = none := by
    -- every row needs a first variable
    obtain ⟨v, rest, hneeded⟩ : ∃ v rest, row.subject.needed = v :: rest := by
      cases row.subject <;> exact ⟨_, _, rfl⟩
    rw [Row.values?, hneeded, List.mapM_cons, hvalue v (hneeded ▸ List.mem_cons_self)]
    rfl
  rw [Row.outcome?, hvalues]
  rfl

/-- A row that keeps its variables comes to what it came to before. -/
theorem Row.outcome?_unset_of_not_mem {row : Row} (h : ∀ name ∈ row.keys env, name ∉ names) :
    row.outcome? (env.unset names) = row.outcome? env := by
  have hsame : SameSurroundings (env.unset names) env := rfl
  refine Row.outcome?_congr (row.read_eq_of_surroundings hsame) fun v hv => ?_
  rw [value?_unset, if_neg (h _ (List.mem_map_of_mem hv))]

end Unset

/-! ## Without the variables of some rows -/

/-- The environment without the variables of some rows. -/
def without (env : Environment) (bad : List Row) : Environment :=
  env.unset (bad.flatMap (·.keys env))

section Without

variable {env : Environment} {bad : List Row}

theorem Row.outcome?_without_of_mem {row : Row} (h : row ∈ bad) :
    row.outcome? (env.without bad) = none :=
  Row.outcome?_unset_of_mem fun _ hname => List.mem_flatMap.mpr ⟨row, h, hname⟩

/-- The others come to the same as before, since they share no variable with those. -/
theorem Row.outcome?_without_of_not_mem {row : Row} (h : row ∉ bad) :
    row.outcome? (env.without bad) = row.outcome? env := by
  refine Row.outcome?_unset_of_not_mem fun name hname hmem => ?_
  obtain ⟨other, hother, hname'⟩ := List.mem_flatMap.mp hmem
  exact h (Row.eq_of_mem_keys hname hname' ▸ hother)

/-- Taking malformed rows out changes nothing that is added: they add nothing to begin
with. -/
theorem Row.contribution?_without (h : ∀ row ∈ bad, row.IsMalformed env) (row : Row) :
    row.contribution? (env.without bad) = row.contribution? env := by
  by_cases hmem : row ∈ bad
  -- a malformed row adds nothing to begin with
  · have hfault := (exists_fault_iff env row).mpr (h row hmem)
    rw [((row.fault?_isSome_iff env).mp hfault).2, Row.contribution?,
      Row.outcome?_without_of_mem hmem]
    rfl
  · rw [Row.contribution?, Row.outcome?_without_of_not_mem hmem, Row.contribution?]

theorem Row.warning?_without (row : Row) :
    row.warning? (env.without bad) = if row ∈ bad then none else row.warning? env := by
  unfold Row.warning? Row.fault?
  split
  · rename_i hmem
    rw [Row.outcome?_without_of_mem hmem]
    rfl
  · rename_i hmem
    rw [Row.outcome?_without_of_not_mem hmem]
    rfl

/-- **Malformed rows change no setting**, however many there are. -/
theorem settings_without (h : ∀ row ∈ bad, row.IsMalformed env) :
    (env.without bad).settings = env.settings :=
  settings_congr fun row _ => Row.contribution?_without h row

/-- Without some rows the warnings are those of the other rows. -/
theorem diagnostics_without :
    (env.without bad).diagnostics = (rows.filter (· ∉ bad)).filterMap (·.warning? env) := by
  rw [diagnostics_eq, List.filterMap_filter]
  refine List.filterMap_congr fun row _ => ?_
  rw [Row.warning?_without]
  by_cases hmem : row ∈ bad <;> simp [hmem]

end Without

/-! ## What malformed rows do -/

section Inert

variable (env : Environment)

theorem mem_rows (row : Row) : row ∈ rows := by
  obtain ⟨l, s⟩ := row
  cases l <;> cases s <;> decide

theorem nodup_rows : rows.Nodup := by decide

/-- A fault is an outcome that is an error. -/
theorem Row.fault?_eq_some {row : Row} {e : Error} :
    row.fault? env = some e ↔ row.outcome? env = some (.error e) := by
  unfold Row.fault?
  cases row.outcome? env with
  | none => exact iff_of_false nofun nofun
  | some outcome => cases outcome <;> simp

theorem Row.head?_keys (row : Row) : (row.keys env).head? = some (row.key env) := by
  obtain ⟨l, s⟩ := row
  cases s <;> rfl

/-- The warning of one row stands between those of the rows before and behind it. The row
stands at one place of the table only, so taking it out takes out just that warning. -/
theorem diagnostics_around (row : Row) :
    ∃ before after,
      env.diagnostics = before ++ (row.warning? env).toList ++ after ∧
        (env.without [row]).diagnostics = before ++ after := by
  obtain ⟨front, back, hsplit⟩ := List.append_of_mem (mem_rows row)
  refine ⟨front.filterMap (·.warning? env), back.filterMap (·.warning? env), ?_, ?_⟩
  · rw [diagnostics_eq, hsplit, List.filterMap_append, List.filterMap_cons]
    cases row.warning? env <;> simp
  · -- the row stands at one place only, so filtering takes out just that
    have hnodup : (front ++ row :: back).Nodup := hsplit ▸ nodup_rows
    have hout : row ∉ front ++ back := (List.nodup_middle.mp hnodup).notMem
    have hkept : ∀ rs : List Row, (∀ other ∈ rs, other ∈ front ++ back) →
        rs.filter (· ∉ [row]) = rs := by
      intro rs hrs
      refine List.filter_eq_self.mpr fun other hother => ?_
      have hne : other ≠ row := fun heq => hout (heq ▸ hrs other hother)
      simpa using hne
    rw [diagnostics_without, hsplit, List.filter_append, List.filter_cons_of_neg (by simp),
      hkept front fun _ h => List.mem_append_left _ h,
      hkept back fun _ h => List.mem_append_right _ h, List.filterMap_append]

/-- The warnings of some rows and those of the others are all warnings, in some order: where
malformed rows stand among the others is lost. -/
theorem diagnostics_perm {bad : List Row} (h : bad.Nodup) :
    env.diagnostics.Perm
      (bad.filterMap (·.warning? env) ++ (env.without bad).diagnostics) := by
  -- the malformed rows stand anywhere among the others, so the order is lost
  have hbad : (rows.filter (· ∈ bad)).Perm bad := by
    refine (List.perm_ext_iff_of_nodup (nodup_rows.filter _) h).mpr fun row => ?_
    simp [mem_rows row]
  have hrows : rows.Perm (bad ++ rows.filter (· ∉ bad)) := by
    have hsplit := List.filter_append_perm (fun row => decide (row ∈ bad)) rows
    simp only [← decide_not] at hsplit
    exact hsplit.symm.trans (hbad.append_right _)
  rw [diagnostics_without, diagnostics_eq, ← List.filterMap_append]
  exact hrows.filterMap _

/-- A warning under the name of a row is about this row, and tells its fault. No variable
belongs to two rows, on whatever levels, so whoever reads the warning knows what to
correct. -/
theorem mem_diagnostics_iff (row : Row) {reason : String} :
    .invalidVariable (row.key env) reason ∈ env.diagnostics ↔
      ∃ e, row.fault? env = some e ∧ reason = e.message := by
  rw [diagnostics_eq]
  constructor
  · intro hmem
    obtain ⟨other, -, hwarning⟩ := List.mem_filterMap.mp hmem
    obtain ⟨e, hfault, hkey⟩ := Option.map_eq_some_iff.mp hwarning
    injection hkey with hkey hreason
    -- two rows never answer to one variable, so the name tells the row
    have hname : ∀ r : Row, r.key env ∈ r.keys env := fun r => List.mem_of_head? (r.head?_keys env)
    have hrow : row = other := Row.eq_of_mem_keys (hname row) (hkey ▸ hname other)
    exact ⟨e, hrow ▸ hfault, hreason.symm⟩
  · rintro ⟨e, he, rfl⟩
    refine List.mem_filterMap.mpr ⟨row, mem_rows row, ?_⟩
    rw [Row.warning?, he]
    rfl

/-- A row leaves a warning under its name exactly if it is malformed. -/
theorem exists_warning_iff (row : Row) :
    (∃ reason, .invalidVariable (row.key env) reason ∈ env.diagnostics) ↔ row.IsMalformed env := by
  simp only [mem_diagnostics_iff, exists_comm (α := String), exists_and_left, exists_eq, and_true,
    ← exists_fault_iff, Option.isSome_iff_exists]

/-- Environments with the same settings make the same configurations, on either
transport. -/
theorem resolve_congr {env env' : Environment} (h : env.settings = env'.settings) (t : Transport)
    (ss : List Setting) : Config.resolve t env ss = Config.resolve t env' ss := by
  cases t <;> simp only [Config.resolve, Config.resolveHttp, Config.resolveGrpc, Config.layered, h]

/-- **Malformed rows are inert.** A row has a fault exactly if its variables are set and what they
say cannot be read. Such a row leaves one warning, with the name of its first variable, and the
environment reads as if its variables were not there; so it does with any number of such rows at
once, in every configuration that is made from it. -/
theorem malformed_rows_are_inert :
    (∀ row : Row, (∃ e, row.outcome? env = some (.error e)) ↔ row.IsMalformed env) ∧
    (∀ row : Row, row.IsMalformed env →
      (env.without [row]).settings = env.settings ∧
      ∃ name reason before after, (row.keys env).head? = some name ∧
        env.diagnostics = before ++ .invalidVariable name reason :: after ∧
        (env.without [row]).diagnostics = before ++ after) ∧
    (∀ bad : List Row, (∀ row ∈ bad, row.IsMalformed env) →
      (env.without bad).settings = env.settings ∧
      (∀ t ss, Config.resolve t (env.without bad) ss = Config.resolve t env ss) ∧
      (bad.Nodup → env.diagnostics.Perm
        (bad.filterMap (·.warning? env) ++ (env.without bad).diagnostics))) := by
  refine ⟨?fault, ?one, ?many⟩
  case fault =>
    intro row
    rw [← exists_fault_iff, Option.isSome_iff_exists]
    exact exists_congr fun e => (Row.fault?_eq_some env).symm
  case one =>
    intro row hrow
    obtain ⟨e, he⟩ := Option.isSome_iff_exists.mp ((exists_fault_iff env row).mpr hrow)
    obtain ⟨before, after, hall, hbare⟩ := diagnostics_around env row
    have hwarning : row.warning? env = some (.invalidVariable (row.key env) e.message) := by
      rw [Row.warning?, he]
      rfl
    rw [hwarning] at hall
    have hsame : (env.without [row]).settings = env.settings :=
      settings_without fun other hother => List.mem_singleton.mp hother ▸ hrow
    refine ⟨hsame, row.key env, e.message, before, after, row.head?_keys env, ?_, hbare⟩
    rw [hall, List.append_assoc]
    rfl
  case many =>
    intro bad hbad
    have hsame : (env.without bad).settings = env.settings := settings_without hbad
    exact ⟨hsame, fun t ss => resolve_congr hsame t ss, fun h => diagnostics_perm env h⟩

end Inert

/-- A timeout in words, a flag that is neither true nor false and roots that are not there, among
variables that are well formed. -/
def faulty : Environment where
  scope := defaultScope
  lookup name :=
    [("OTEL_EXPORTER_OTLP_TIMEOUT", "soon"), ("OTEL_EXPORTER_OTLP_LOGS_TIMEOUT", "250"),
      ("OTEL_EXPORTER_OTLP_INSECURE", "true"), ("OTEL_EXPORTER_OTLP_LOGS_INSECURE", "yes"),
      ("OTEL_EXPORTER_OTLP_LOGS_CERTIFICATE", "lost.pem")].lookup name
  openFile _ := .error "no such file"

def faultyRows : List Row :=
  [⟨.shared, .timeout⟩, ⟨.logs, .insecure⟩, ⟨.logs, .rootCertificates⟩]

/-- The three faults leave three warnings and nothing else. Taking out one of the rows takes
out its warning, with the others as they were. -/
theorem faulty_rows_are_inert :
    (∀ row ∈ faultyRows, row.IsMalformed faulty) ∧
      (faulty.without faultyRows).settings = faulty.settings ∧
      (faulty.diagnostics.Perm
        (faultyRows.filterMap (·.warning? faulty) ++ (faulty.without faultyRows).diagnostics)) ∧
      ∃ reason before after,
        faulty.diagnostics =
          before ++ .invalidVariable "OTEL_EXPORTER_OTLP_LOGS_INSECURE" reason :: after ∧
        (faulty.without [⟨.logs, .insecure⟩]).diagnostics = before ++ after := by
  obtain ⟨-, hone, hmany⟩ := malformed_rows_are_inert faulty
  have hmalformed : ∀ row ∈ faultyRows, row.IsMalformed faulty := by decide +kernel
  obtain ⟨hsame, -, hperm⟩ := hmany faultyRows hmalformed
  obtain ⟨-, name, reason, before, after, hname, hall, hbare⟩ :=
    hone ⟨.logs, .insecure⟩ (hmalformed _ (by decide))
  -- the warning is under the first variable of the row
  have hinsecure : name = "OTEL_EXPORTER_OTLP_LOGS_INSECURE" :=
    (Option.some.inj hname).symm.trans (by decide +kernel)
  exact ⟨hmalformed, hsame, hperm (by decide), reason, before, after, hinsecure ▸ hall, hbare⟩

end LogCourier.Environment
