import LogCourier.Proofs.Simulation.Unrest

/-!
# Looks come to an end

Between two actions of a simulated run tasks are looked at until nothing more can happen.
`settle` allows for as many looks as the world has `unrest`, and since a look takes from it what
it causes, no more are needed.

* A reply that arrives is paid for with two looks, of which its task gets one (`unrest_deliver_le`).
* `isSettled_settleWithin` is the loop: each of its turns lowers the unrest, so it ends with nothing
  left to be looked at, and `settleWithin_eq_settle` says that more looks change nothing.
* `isSettled_after` says it for whole runs.
-/

namespace LogCourier.Simulation.World

/-! ## Replies that arrive -/

section Arrivals

variable (w : World)

/-- A reply that arrives leaves the one look that its task is woken for. Two were set aside
for it when it was sent. -/
theorem jobUnrest_received (m : Moment) (job : Job) :
    jobUnrest (job.received m) + 2 * (job.arrival? m).toList.length = jobUnrest job := by
  cases job with
  | grpcUpload u delivery =>
    cases delivery with
    | underway p =>
      simp only [Job.received, Job.arrival?, jobUnrest]
      split <;> rfl
    | none => rfl
    | arrived r => rfl
  | _ => rfl

/-- A reply that has arrived does not arrive again. -/
theorem arrival?_received (m : Moment) (job : Job) : (job.received m).arrival? m = none := by
  cases job with
  | grpcUpload u delivery =>
    cases delivery with
    | underway p =>
      -- a reply that is due has arrived, any other is not due yet
      by_cases hdue : p.isDue m = true
      · simp only [Job.received, hdue, if_true]
        rfl
      · simp [Job.received, Job.arrival?, hdue]
    | none => rfl
    | arrived r => rfl
  | _ => rfl

/-- A job that no reply comes to stays as it is. -/
theorem received_of_no_arrival {m : Moment} {job : Job} (h : job.arrival? m = none) :
    job.received m = job := by
  cases job with
  | grpcUpload u delivery =>
    cases delivery with
    | underway p =>
      by_cases hdue : p.isDue m = true
      · simp [Job.arrival?, hdue] at h
      · simp [Job.received, hdue]
    | none => rfl
    | arrived r => rfl
  | _ => rfl

theorem ids_deliver : w.deliver.ids = w.ids := by
  show (deliver w).tasks.map _ = _
  unfold deliver
  rw [tasks_wakeAll]
  exact List.map_map

/-- **Replies that arrive are paid for**, each with two looks of which one is left.
Induction on the tasks for what they have left, and then the looks for which they are
woken. -/
theorem unrest_deliver_le : w.deliver.unrest + w.arrivals.length ≤ w.unrest := by
  have htotal : ∀ ts : List Task,
      total (fun t => jobUnrest t.job)
          (ts.map fun t => ({ t with job := t.job.received w.moment } : Task)) +
        2 * (ts.filterMap fun t => (t.job.arrival? w.moment).map (·, t.id)).length =
      total (fun t => jobUnrest t.job) ts := by
    intro ts
    induction ts with
    | nil => rfl
    | cons t rest ih =>
      have hjob := jobUnrest_received w.moment t.job
      simp only [List.map_cons, total_cons, List.filterMap_cons]
      cases harrival : t.job.arrival? w.moment with
      | none =>
        rw [harrival] at hjob
        simp only [Option.map_none, Option.toList_none, List.length_nil] at hjob ⊢
        omega
      | some p =>
        rw [harrival] at hjob
        simp only [Option.map_some, Option.toList_some, List.length_cons, List.length_nil] at hjob ⊢
        omega
  -- each task that a reply comes to is woken, once
  have hwake := (costs_wakeAll { w with
    tasks := w.tasks.map fun t => { t with job := t.job.received w.moment } }
      (w.arrivals.map Prod.snd)).unrest_le
  have hlength : w.arrivals.length =
      (w.tasks.filterMap fun t => (t.job.arrival? w.moment).map (·, t.id)).length :=
    List.length_mergeSort _
  have htasks := htotal w.tasks
  rw [List.length_map] at hwake
  unfold deliver
  unfold unrest at hwake ⊢
  simp only at hwake ⊢
  omega

/-- Nothing that has come is left behind. Delivering does not move the clock, so a reply
that is due after it was due before and has been handed over. -/
theorem arrivals_deliver : w.deliver.arrivals = [] := by
  -- the clock stands still, so what is due now was due before
  have hmoment : w.deliver.moment = w.moment := by
    obtain ⟨ready, hready, -⟩ := exists_ready_wakeAll { w with
      tasks := w.tasks.map fun t => { t with job := t.job.received w.moment } }
        (w.arrivals.map Prod.snd)
    unfold deliver
    rw [hready]
  have hnone : (w.deliver.tasks.filterMap fun t => (t.job.arrival? w.moment).map (·, t.id)) = [] := by
    refine List.filterMap_eq_nil_iff.mpr fun t ht => ?_
    unfold deliver at ht
    rw [tasks_wakeAll] at ht
    obtain ⟨old, -, rfl⟩ := List.mem_map.mp ht
    rw [arrival?_received]
    rfl
  unfold arrivals
  rw [hmoment, hnone, List.mergeSort_nil]

end Arrivals

/-! ## All looks -/

/-- Nothing is left to be looked at: no task is woken, and no reply has come that did not arrive. -/
structure IsSettled (w : World) : Prop where
  ready_eq : w.ready = []
  arrivals_eq : w.arrivals = []

section Settling

variable {w : World}

theorem ready_of_unrest (h : w.unrest = 0) : w.ready = [] :=
  List.length_eq_zero_iff.mp (by unfold unrest at h; omega)

theorem isSettled_of_unrest (h : w.unrest = 0) : w.IsSettled :=
  ⟨ready_of_unrest h, List.length_eq_zero_iff.mp (by have := w.unrest_deliver_le; omega)⟩

/-- A look keeps a world sound and adds nothing to its unrest. A number that no task has any
more is passed over. -/
theorem sound_lookAt (hw : w.Sound) (id : Nat) :
    (w.lookAt id).Sound ∧ (w.lookAt id).unrest ≤ w.unrest := by
  unfold lookAt
  split
  · rename_i t htask
    have hcosts := costs_pollTask hw (List.mem_of_find?_eq_some htask)
    exact ⟨hw.drives (drives_pollTask _ t) hcosts.ids_sublist, hcosts.unrest_le⟩
  · exact ⟨hw, Nat.le_refl _⟩

/-- The task that is looked at is one less to look at. -/
theorem unrest_ready {id : Nat} {rest : List Nat} (hready : w.ready = id :: rest) :
    ({ w with ready := rest } : World).unrest + 1 = w.unrest := by
  unfold unrest
  rw [hready, List.length_cons]
  simp only
  omega

theorem sound_deliver (hw : w.Sound) : w.deliver.Sound :=
  hw.drives (.of_footing w.footing_deliver) (by rw [ids_deliver])

/-- Where replies arrive, there is a task to look at. -/
theorem arrivals_of_ready_deliver (hready : w.ready = []) (h : w.deliver.ready ≠ []) :
    0 < w.arrivals.length := by
  refine List.length_pos_iff.mpr fun hnone => h ?_
  unfold deliver
  rw [hnone]
  exact hready

/-- **As many looks as there is unrest are enough**: behind them nothing is left to be
looked at. Induction on the number of looks: a task that is looked at is one less to look
at, and where replies arrive they bring less than they took. -/
theorem isSettled_settleWithin (n : Nat) (hw : w.Sound) (hn : w.unrest ≤ n) :
    (w.settleWithin n).IsSettled := by
  induction n generalizing w with
  | zero => exact isSettled_of_unrest (Nat.le_zero.mp hn)
  | succ n ih =>
    unfold settleWithin
    cases hready : w.ready with
    | cons id rest =>
      -- a task is looked at: it is taken off the list, and the look adds nothing
      have hrest : ({ w with ready := rest } : World).Sound := ⟨hw.numbered, hw.grounded⟩
      obtain ⟨hsound, hle⟩ := sound_lookAt hrest id
      have hless := unrest_ready hready
      exact ih hsound (by omega)
    | nil =>
      simp only
      split
      · -- nothing came and nobody was woken: the world is settled
        rename_i hnone
        exact ⟨hnone, w.arrivals_deliver⟩
      · rename_i hsome
        have harrivals := arrivals_of_ready_deliver hready hsome
        have hle := w.unrest_deliver_le
        exact ih (sound_deliver hw) (by omega)

theorem isSettled_settle (hw : w.Sound) : w.settle.IsSettled :=
  isSettled_settleWithin _ hw (Nat.le_refl _)

/-- Where no reply has come, none arrives. -/
theorem deliver_of_no_arrivals (h : w.arrivals = []) : w.deliver = w := by
  have hnone : (w.tasks.filterMap fun t => (t.job.arrival? w.moment).map (·, t.id)) = [] := by
    have hlength := congrArg List.length h
    rw [arrivals, List.length_mergeSort] at hlength
    exact List.length_eq_zero_iff.mp hlength
  -- a task that nothing has come for stays as it is
  have htasks : (w.tasks.map fun t => ({ t with job := t.job.received w.moment } : Task)) =
      w.tasks := by
    conv_rhs => rw [← List.map_id w.tasks]
    refine List.map_congr_left fun t ht => ?_
    have harrival := List.filterMap_eq_nil_iff.mp hnone t ht
    rw [Option.map_eq_none_iff] at harrival
    rw [received_of_no_arrival harrival]
    rfl
  unfold deliver
  rw [h]
  simp only [htasks]
  rfl

/-- Where nothing is left, further looks find nothing. -/
theorem settleWithin_of_isSettled (h : w.IsSettled) (n : Nat) : w.settleWithin n = w := by
  cases n with
  | zero => rfl
  | succ n =>
    unfold settleWithin
    rw [h.ready_eq, deliver_of_no_arrivals h.arrivals_eq]
    exact if_pos h.ready_eq

/-- Looks can be cut in two, wherever that is. -/
theorem settleWithin_add (w : World) (m n : Nat) :
    w.settleWithin (m + n) = (w.settleWithin m).settleWithin n := by
  induction m generalizing w with
  | zero => rw [Nat.zero_add]; rfl
  | succ m ih =>
    rw [Nat.add_right_comm]
    simp only [settleWithin]
    split
    · exact ih _
    · split
      · rename_i hnone
        -- the first looks came to an end early, and the others find nothing
        exact (settleWithin_of_isSettled ⟨hnone, w.arrivals_deliver⟩ n).symm
      · exact ih _

/-- **More looks change nothing.** So the number that `settle` allows for is no part of what
a run does. -/
theorem settleWithin_eq_settle (hw : w.Sound) {n : Nat} (hn : w.unrest ≤ n) :
    w.settleWithin n = w.settle := by
  obtain ⟨k, rfl⟩ := Nat.exists_eq_add_of_le hn
  rw [settleWithin_add]
  exact settleWithin_of_isSettled (isSettled_settle hw) k

end Settling

/-! ## Runs -/

section Actions

variable {w : World}

theorem ids_context (w : World) (name : String) : (w.context name).2.ids = w.ids := by
  unfold context
  split <;> rfl

/-- A new task stands behind the others. -/
theorem ids_startTask (w : World) (name : String) (job : Job) :
    (w.startTask name job).ids = w.ids ++ [w.nextTask] := by
  show (startTask w name job).tasks.map _ = _
  have htasks : (w.startTask name job).tasks = w.tasks ++ [⟨w.nextTask, name, job⟩] := by
    simp only [startTask, wake]
    split <;> rfl
  rw [htasks, List.map_append]
  rfl

/-- A task that is aborted is gone, and whoever it lets through was there before. -/
theorem ids_abortTask_sublist (w : World) (t : Task) : (w.abortTask t).ids.Sublist w.ids := by
  have hgate : (w.withGate (w.gate.leave t.id)).ids = w.ids := by
    unfold ids withGate
    rw [tasks_wakeAll]
  simp only [abortTask]
  refine (ids_finish_sublist _ _ _).trans ?_
  split
  · rw [← hgate]
    unfold ids withShutdown withExporter
    rw [tasks_wakeAll]
  · rw [hgate]

theorem ids_wakeAll (w : World) (ids : List Nat) : (w.wakeAll ids).ids = w.ids := by
  unfold World.ids
  rw [tasks_wakeAll]

theorem ids_derive (w : World) (name : String) (how : Derivation) (parent : String) :
    (w.derive name how parent).ids = w.ids :=
  w.ids_context parent

theorem ids_cancel (w : World) (context : String) : (w.cancel context).ids = w.ids :=
  (ids_wakeAll _ _).trans (w.ids_context context)

/-- An action keeps the tasks numbered: it leaves them alone, starts one or ends one.
Numbers are given out in order and never again, so no two tasks share one and none has the
next. -/
theorem numbered_act (h : Numbered w.ids w.nextTask) (a : Action) :
    Numbered (w.act a).1.ids (w.act a).1.nextTask := by
  -- most actions leave tasks and numbers alone
  have hsame {v : World} (hids : v.ids = w.ids) (hfooting : v.footing = w.footing) :
      Numbered v.ids v.nextTask := by
    have hnext : v.nextTask = w.nextTask := congrArg Prod.snd hfooting
    rw [hids, hnext]
    exact h
  -- three start a task, under the next number
  have hstarts {v : World} (hids : v.ids = w.ids) (hnext : v.nextTask = w.nextTask) (name : String)
      (job : Job) : Numbered (v.startTask name job).ids (v.startTask name job).nextTask := by
    have hlast : (v.startTask name job).nextTask = v.nextTask + 1 :=
      congrArg Prod.snd (v.footing_startTask name job)
    rw [ids_startTask, hlast, hids, hnext]
    exact h.push
  have hcontext (name : String) : (w.context name).2.nextTask = w.nextTask :=
    congrArg Prod.snd (w.footing_context name)
  cases a with
  | derive name how parent => exact hsame (w.ids_derive _ _ _) (w.footing_derive _ _ _)
  | cancel context => exact hsame (w.ids_cancel _) (w.footing_cancel _)
  | askEnding context => exact hsame (w.ids_context _) (w.footing_context _)
  | askDeadline context => exact hsame (w.ids_context _) (w.footing_context _)
  | advance d => exact hsame (ids_wakeAll _ _) (w.footing_advance d)
  | release => exact hsame (ids_wakeAll _ _) (footing_withGate _ _)
  | releaseAll => exact hsame (ids_wakeAll _ _) (footing_withGate _ _)
  | shutdown task context =>
    simp only [act, startShutdown]
    exact hstarts (by exact w.ids_context context) (by exact hcontext context) task _
  | «export» task context batch => exact hstarts (w.ids_context _) (hcontext _) _ _
  | watch task context => exact hstarts (w.ids_context _) (hcontext _) _ _
  | abort task =>
    show Numbered (w.abort task).ids (w.abort task).nextTask
    rw [(w.drives_abort task).nextTask_eq]
    refine h.sublist ?_
    unfold abort
    split
    · exact w.ids_abortTask_sublist _
    · exact .refl _

/-- **An action keeps a world sound.** -/
theorem sound_act (hw : w.Sound) (a : Action) : (w.act a).1.Sound :=
  ⟨numbered_act hw.numbered a, w.grounded_act hw.grounded a⟩

theorem sound_settle (hw : w.Sound) : w.settle.Sound := by
  -- the number of looks is that of the world to start from, so it is fixed first
  have hwithin : ∀ n (v : World), v.Sound → (v.settleWithin n).Sound := by
    intro n
    induction n with
    | zero => exact fun _ hv => hv
    | succ n ih =>
      intro v hv
      unfold settleWithin
      split
      · rename_i id rest _
        have hrest : ({ v with ready := rest } : World).Sound := ⟨hv.numbered, hv.grounded⟩
        exact ih _ (sound_lookAt hrest id).1
      · simp only
        split
        · exact sound_deliver hv
        · exact ih _ (sound_deliver hv)
  exact hwithin _ w hw

/-- What an action leaves behind is a world of a run in which nothing is left to be looked at. -/
theorem sound_step (hw : w.Sound) (a : Action) : (w.step a).1.Sound ∧ (w.step a).1.IsSettled := by
  have hcleared : w.cleared.Sound := ⟨hw.numbered, hw.grounded⟩
  have hact := sound_act hcleared a
  exact ⟨sound_settle hact, isSettled_settle hact⟩

/-- The world that a run starts from has neither tasks nor calls. -/
theorem sound_start (subject : Subject) (elsewhere : Elsewhere) : (start subject elsewhere).Sound :=
  ⟨⟨List.nodup_nil, nofun⟩, Grounded.start⟩

/-- **Looks come to an end.** Whatever the client, the network and the actions, between any
two actions all tasks go on as far as they can: none is left that was woken, and no reply
that has come. Induction on the actions, over worlds that are sound. -/
theorem isSettled_after (subject : Subject) (elsewhere : Elsewhere) (as : List Action) :
    ((start subject elsewhere).after as).IsSettled := by
  have hrun : ∀ w : World, w.Sound → w.IsSettled → (w.after as).IsSettled := by
    intro w hw hsettled
    unfold after
    induction as generalizing w with
    | nil => exact hsettled
    | cons a rest ih =>
      obtain ⟨hsound, hstep⟩ := sound_step hw a
      exact ih _ hsound hstep
  exact hrun _ (sound_start subject elsewhere) (isSettled_of_unrest rfl)

end Actions

end LogCourier.Simulation.World
