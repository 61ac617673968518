import P2.Watch.Published

/-!
# The monitor inside the system

`reconcile` is `MonitorPodHealth` on its own, one reconciliation after another; `System` runs it
together with the workers it starts, in any interleaving. A worker touches neither the watched
pods nor the count of watches made, and what it does is its own in the log
(`Effect.byWorker`). So while the monitor is in its loop, the watched pods of the system, its
count of watches made and the monitor's part of its log are what `reconcile` computes from the
answers of the polls of the run, in order (`run_refines_reconcile`): what holds of `reconcile`
holds of every interleaving with the workers, as that no two watched pods have the same id
(`run_watches_each_id_once`).

The simulation is step by step: a poll of the system is the reconciliation `reconcileStep`
makes of its answer, and every other step it takes in the loop is a worker's, which
`reconcileStep` skips (`Refines.step`).
-/

namespace P2.Watch

/-- The effects of `MonitorPodHealth` in a log: those no worker makes. -/
def monitorPart (es : List Effect) : List Effect :=
  es.filter fun e => e.byWorker.isNone

/-- The answer of the store, if the action is a poll. -/
def Action.answer : Action → Option (List ManifestResult × Option String)
  | .poll answer => some answer
  | _ => none

/-- What the sequential monitor does for an action of the system: reconcile against the answer
of a poll, and nothing for any other action. -/
def reconcileStep (client : Client) (node : String) (acc : List PodWatch × World) (a : Action) :
    List PodWatch × World :=
  match a.answer with
  | some answer => updateHealthMonitors client acc.1 node answer acc.2
  | none => acc

/-- A state of the system agrees with a state of the sequential monitor: the same watched pods,
the same count of watches made, and the monitor's part of the log is the sequential log. -/
structure Refines (s : System) (acc : List PodWatch × World) : Prop where
  pods : s.pods = acc.1
  fresh : s.world.fresh = acc.2.fresh
  effects : monitorPart s.world.effects = acc.2.effects

/-! ### The monitor's part of the log -/

@[simp]
theorem monitorPart_append (es es' : List Effect) :
  monitorPart (es ++ es') = monitorPart es ++ monitorPart es'
  := List.filter_append _ _

theorem monitorPart_of_monitor {es : List Effect} (h : ∀ e ∈ es, e.byWorker = none) :
  monitorPart es = es
  := List.filter_eq_self.2 fun e he => by simp [h e he]

@[simp]
theorem monitorPart_map_send (pods : List PodWatch) :
  monitorPart (pods.map (.send ·.shutdownCh)) = pods.map (.send ·.shutdownCh)
  := monitorPart_of_monitor fun e he => by
    obtain ⟨p, -, rfl⟩ := List.mem_map.1 he
    rfl

/-- The updaters and the workers a reconciliation makes are effects of the monitor. -/
@[simp]
theorem monitorPart_creations (pods : List PodWatch) : monitorPart (creations pods) = creations pods
  := monitorPart_of_monitor fun e he => by
    obtain ⟨p, -, he⟩ := List.mem_flatMap.1 he
    rcases List.mem_pair.1 he with rfl | rfl <;> rfl

/-! ### Step by step -/

theorem reconcile_filterMap_answer (client : Client) (node : String) (acc : List PodWatch × World)
    (as : List Action) :
  reconcile client node acc (as.filterMap Action.answer) = as.foldl (reconcileStep client node) acc
  := by
  induction as generalizing acc with
  | nil => rfl
  | cons a as ih =>
    rw [List.foldl_cons, ← ih]
    cases a <;> rfl

/-- A reconciliation from agreeing states ends in agreeing states. -/
theorem Refines.reconciled {s : System} {acc : List PodWatch × World} (h : Refines s acc)
    (client : Client) (reality : List ManifestResult) (node : String) :
  Refines { s with pods := (updatePods client s.pods reality node s.world).1,
                   world := (updatePods client s.pods reality node s.world).2 }
    (updatePods client acc.1 reality node acc.2)
  := by
  refine ⟨?_, ?_, ?_⟩
  · show (updatePods client s.pods reality node s.world).1 = _
    rw [updatePods_fst, updatePods_fst, h.pods, h.fresh]
  · show (updatePods client s.pods reality node s.world).2.fresh = _
    rw [updatePods_snd, updatePods_snd, h.pods, h.fresh]
  · show monitorPart (updatePods client s.pods reality node s.world).2.effects = _
    simp only [updatePods_snd, monitorPart_append, monitorPart_map_send, monitorPart_creations,
      h.effects, h.pods, h.fresh]

/-- A worker's step keeps the agreement: its effects are its own. -/
theorem Refines.workerStep {s : System} {acc : List PodWatch × World} (h : Refines s acc)
    (p : PodWatch) (st : WorkerState) {es : List Effect} (hes : ∀ e ∈ es, e.byWorker ≠ none) :
  Refines (s.workerStep p st es) acc
  := by
  have hnil : monitorPart es = [] := List.filter_eq_nil_iff.2 fun e he => by simp [hes e he]
  refine ⟨h.pods, h.fresh, ?_⟩
  rw [System.workerStep_world, World.emit_effects, monitorPart_append, hnil, List.append_nil,
    h.effects]

/-- A step of the system that leaves the monitor in its loop started in the loop, and is the
step `reconcileStep` takes for it: it keeps every agreement. -/
theorem Refines.step {client : Client} {node : String} {s s' : System} {a : Action}
    (hs : s.step client node a = some s') (hph : s'.phase = .polling) :
  s.phase = .polling
    ∧ ∀ acc, Refines s acc → Refines s' (reconcileStep client node acc a)
  := by
  cases a with
  | poll answer =>
    rw [System.step] at hs
    obtain ⟨hpoll, ⟨⟩⟩ := Option.ite_none_right_eq_some.1 hs
    exact ⟨hpoll, fun _ h => h.reconciled client answer.1 node⟩
  | sendStop =>
    rw [System.step] at hs
    split at hs
    · cases hs
      cases hph
    · cases hs
  | probe p probe =>
    rw [System.step] at hs
    obtain ⟨-, ⟨⟩⟩ := Option.ite_none_right_eq_some.1 hs
    refine ⟨hph, fun _ h => h.workerStep p _ fun e he => ?_⟩
    simp only [List.mem_map, Option.mem_toList] at he
    obtain ⟨r, -, rfl⟩ := he
    simp [Effect.byWorker]
  | _ =>
    -- the shutdown signal and the close of the manager leave the loop; a worker's tick, receive
    -- and release add only its own effects
    rw [System.step] at hs
    obtain ⟨-, ⟨⟩⟩ := Option.ite_none_right_eq_some.1 hs
    first
      | cases hph
      | exact ⟨hph, fun _ h => h.workerStep _ _ (by simp [Effect.byWorker])⟩

/-- A poll is always enabled while the monitor is in its loop. -/
theorem System.step_poll_isSome (client : Client) (node : String) {s : System}
    (hph : s.phase = .polling) (answer : List ManifestResult × Option String) :
  (s.step client node (.poll answer)).isSome
  := by
  rw [System.step, if_pos hph]
  rfl

/-! ### Whole runs -/

/-- While the monitor is in its loop, the system agrees with the sequential monitor that has
taken the same actions. -/
theorem System.run_refines (client : Client) (node : String) (as : List Action)
    (h : (System.run client node System.init as).phase = .polling) :
  Refines (System.run client node System.init as)
    (as.foldl (reconcileStep client node) ([], World.init))
  := by
  refine System.run_induction_on (fun done s => s.phase = .polling
      → Refines s (done.foldl (reconcileStep client node) ([], World.init)))
    (fun done s s' a ih hs h => ?_) (fun done s a ih hs h => ?_) ?_ as h
  · -- a step taken: the monitor was in its loop before it, and reconciles as the sequential one
    obtain ⟨hpoll, hstep⟩ := Refines.step hs h
    rw [List.foldl_concat]
    exact hstep _ (ih hpoll)
  · -- a step skipped: a poll is never skipped in the loop, and nothing else reconciles
    rw [List.foldl_concat]
    cases a with
    | poll answer =>
      have hsome := System.step_poll_isSome client node h answer
      rw [hs] at hsome
      cases hsome
    | _ => exact ih h
  · exact fun _ => ⟨rfl, rfl, rfl⟩

/-- In every run in which `MonitorPodHealth` is still in its loop, its watched pods, its count of
watches made and its part of the log are those of the sequential monitor after reconciling
against the answers of the run's polls, in order, whatever the workers did meanwhile. -/
theorem run_refines_reconcile (client : Client) (node : String) (as : List Action)
    (h : (System.run client node System.init as).phase = .polling) :
  (System.run client node System.init as).pods
      = (reconcile client node ([], World.init) (as.filterMap Action.answer)).1
    ∧ (System.run client node System.init as).world.fresh
      = (reconcile client node ([], World.init) (as.filterMap Action.answer)).2.fresh
    ∧ monitorPart (System.run client node System.init as).world.effects
      = (reconcile client node ([], World.init) (as.filterMap Action.answer)).2.effects
  := by
  have hr := System.run_refines client node as h
  rw [reconcile_filterMap_answer]
  exact ⟨hr.pods, hr.fresh, hr.effects⟩

theorem run_refines_reconcile_svc1 :
  (svc1Run svc1Probed).phase = .polling
    ∧ (svc1Run svc1Probed).pods
        = (reconcile ⟨0⟩ "node" ([], World.init) (svc1Probed.filterMap Action.answer)).1
      ∧ (svc1Run svc1Probed).world.fresh
        = (reconcile ⟨0⟩ "node" ([], World.init) (svc1Probed.filterMap Action.answer)).2.fresh
      ∧ monitorPart (svc1Run svc1Probed).world.effects
        = (reconcile ⟨0⟩ "node" ([], World.init) (svc1Probed.filterMap Action.answer)).2.effects
  := ⟨rfl, run_refines_reconcile ⟨0⟩ "node" svc1Probed rfl⟩

/-! ### What carries over -/

/-- In every run, while `MonitorPodHealth` is in its loop, no two of its watched pods have the
same manifest id, whatever the workers did meanwhile: the invariant of `reconcile`, carried to
every interleaving. A worker already sent its stop signal may still be finishing a probe for an
id the monitor watches again. -/
theorem run_watches_each_id_once (client : Client) (node : String) (as : List Action)
    (h : (System.run client node System.init as).phase = .polling) :
  (ids (System.run client node System.init as).pods).Nodup
  := by
  rw [(System.run_refines client node as h).pods, ← reconcile_filterMap_answer]
  exact reconcile_induction client node (fun acc => (ids acc.1).Nodup) ([], World.init)
    List.nodup_nil (fun _ _ reality h => nodup_ids_updatePods reality node _ h) _

theorem run_watches_each_id_once_svc1 :
  (svc1Run svc1Probed).phase = .polling
    ∧ (ids (svc1Run svc1Probed).pods).Nodup
  := ⟨rfl, run_watches_each_id_once ⟨0⟩ "node" svc1Probed rfl⟩

end P2.Watch
