import LogCourier.Proofs.Environment.Rows
import LogCourier.Proofs.LastWriter
import Mathlib.Data.List.Basic

/-!
# Reading an environment

Every row that is read adds something, leaves a warning, or does neither because its variables are
not all set. This module takes the three apart.

* `read_eq`: the whole reading is what the contributions of the rows make of an empty one, with the
  warnings of the rows beside it. So what is read depends on the contributions alone.
* `lastOf_rows_about`: where only the rows of some subjects matter, the ones for logs go before the
  shared ones.
-/

namespace LogCourier.Environment

/-- An environment with some variables and no files. -/
def ofVariables (values : List (String × String)) : Environment where
  scope := defaultScope
  lookup name := values.lookup name
  openFile _ := .error "no such file"

/-- The fault of a row whose variables are all set but cannot be read. -/
def Row.fault? (row : Row) (env : Environment) : Option Error :=
  (row.outcome? env).bind fun
    | .error e => some e
    | .ok _ => none

/-- The warning that the fault of a row leaves. -/
def Row.warning? (row : Row) (env : Environment) : Option Diagnostic :=
  (row.fault? env).map fun e => .invalidVariable (row.key env) e.message

/-- What a row adds was read from its variables, which were all set. -/
theorem Row.exists_read {env : Environment} {row : Row} {c : Contribution}
    (h : row.contribution? env = some c) :
    ∃ values, row.values? env = some values ∧ row.read env values = .ok c := by
  obtain ⟨outcome, houtcome, hok⟩ := Option.bind_eq_some_iff.mp h
  obtain ⟨values, hvalues, hread⟩ := Option.map_eq_some_iff.mp houtcome
  cases outcome with
  | error e => cases hok
  | ok c' => exact ⟨values, hvalues, Option.some.inj hok ▸ hread⟩

/-! ## One row, then all of them -/

namespace Reading

variable (env : Environment) (r : Reading)

/-- Reading one row adds its contribution and puts its warning behind the others. At most
one of the two is there. -/
theorem row_eq (row : Row) :
    Reading.row env r row =
      { (row.contribution? env).elim r r.add with
        diagnostics := r.diagnostics ++ (row.warning? env).toList } := by
  unfold Reading.row Row.warning? Row.fault? Row.contribution?
  -- nothing to read, a warning and nothing else, or a contribution without a warning
  cases row.outcome? env with
  | none =>
    show r = { r with diagnostics := r.diagnostics ++ [] }
    rw [List.append_nil]
  | some outcome =>
    cases outcome with
    | error e => rfl
    | ok c =>
      show r.add c = { r.add c with diagnostics := r.diagnostics ++ [] }
      rw [List.append_nil]
      cases c <;> rfl

theorem add_diagnostics (ds : List Diagnostic) (c : Contribution) :
    { r with diagnostics := ds }.add c = { r.add c with diagnostics := ds } := by
  cases c <;> rfl

/-- So any number of contributions can be added first and the warnings put beside them
afterwards. Induction on the contributions. -/
theorem foldl_add_diagnostics (ds : List Diagnostic) (cs : List Contribution) :
    cs.foldl add { r with diagnostics := ds } =
      { cs.foldl add r with diagnostics := ds } := by
  induction cs generalizing r with
  | nil => rfl
  | cons c rest ih => rw [List.foldl_cons, List.foldl_cons, add_diagnostics, ih]

/-- The same for rows in order: their contributions are added up and their warnings listed.
Induction on the rows, from any reading. -/
theorem foldl_row (rs : List Row) :
    rs.foldl (Reading.row env) r =
      { (rs.filterMap (·.contribution? env)).foldl add r with
        diagnostics := r.diagnostics ++ rs.filterMap (·.warning? env) } := by
  induction rs generalizing r with
  | nil =>
    show r = { r with diagnostics := r.diagnostics ++ [] }
    rw [List.append_nil]
  | cons row rest ih =>
    rw [List.foldl_cons, ih, row_eq, foldl_add_diagnostics]
    -- the row is in one of the two lists, or in none
    have hwarnings : (row :: rest).filterMap (·.warning? env) =
        (row.warning? env).toList ++ rest.filterMap (·.warning? env) := by
      rw [List.filterMap_cons]
      cases row.warning? env <;> rfl
    have hadded : ((row :: rest).filterMap (·.contribution? env)).foldl add r =
        (rest.filterMap (·.contribution? env)).foldl add ((row.contribution? env).elim r r.add) := by
      rw [List.filterMap_cons]
      cases row.contribution? env <;> rfl
    rw [hwarnings, hadded, List.append_assoc]

end Reading

variable (env : Environment)

/-- **What is read**: the contributions of the rows in order, and their warnings in order.
All statements about whole environments start from this equation. -/
theorem read_eq :
    env.read =
      { (rows.filterMap (·.contribution? env)).foldl Reading.add {} with
        diagnostics := rows.filterMap (·.warning? env) } :=
  Reading.foldl_row env {} rows

/-- The warnings of an environment are those of its rows. -/
theorem diagnostics_eq : env.diagnostics = rows.filterMap (·.warning? env) :=
  congrArg Reading.diagnostics (read_eq env)

/-- Environments whose rows add the same have the same settings. Their warnings may differ,
which is how malformed rows and refused addresses are compared. -/
theorem settings_congr {env env' : Environment}
    (h : ∀ row ∈ rows, row.contribution? env = row.contribution? env') :
    env.settings = env'.settings := by
  have hadded : rows.filterMap (·.contribution? env) = rows.filterMap (·.contribution? env') :=
    List.filterMap_congr h
  unfold settings
  rw [read_eq env, read_eq env', hadded]
  rfl

/-! ## The rows of a subject -/

/-- Where only the rows of some subjects write, the ones for logs go before the shared ones.
The table has the shared row of a subject in front of the one for logs, so this is the law
of last writers over pairs. -/
theorem lastOf_rows_about {α : Type} {write? : Row → Option α} (about : Subject → Bool)
    (h : ∀ l s, about s = false → write? ⟨l, s⟩ = none) :
    lastOf write? rows =
      lastOf (fun s => write? ⟨.logs, s⟩ <|> write? ⟨.shared, s⟩) (Subject.all.filter about) := by
  have hpairs : lastOf write? rows =
      lastOf (fun s => write? ⟨.logs, s⟩ <|> write? ⟨.shared, s⟩) Subject.all :=
    lastOf_pairs (fun s => Row.mk .shared s) (fun s => Row.mk .logs s) Subject.all
  -- the subjects left out write nothing on either level
  rw [hpairs]
  refine (lastOf_filter Subject.all ?_).symm
  intro s hs
  rw [h .logs s hs, h .shared s hs]
  rfl

end LogCourier.Environment
