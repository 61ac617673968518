import P2.Watch.Monitor
import P2.Watch.CheckHealth

/-!
# The workers and the shutdown

`MonitorPodHealth` and the `MonitorHealth` goroutines it starts run concurrently. A worker
waits in a `select` for its probe timer or its stop signal: on the timer it runs
`checkHealth`, which may publish through its updater, and waits again; on the stop signal it
closes its updater and returns. At the shutdown signal `MonitorPodHealth` sends a stop signal
to every watched pod, then closes the health manager and returns, without waiting for the
workers.

`System` is the state of all these goroutines and `System.step` what one of them can do next;
a run is any sequence of steps, so any interleaving of the goroutines. A step that is not
enabled is skipped. A reconciliation is one step, and the monitor's sends are not guarded by
the room in their buffers: they never block, since every channel is sent on at most once
(`Owned`, `run_sends_never_block`), and every worker started has, at every moment, either had
its stop signal once or is still held by the monitor (`run_stops_each_worker_once`). The
monitor may also take the shutdown signal before its first reconciliation, which the code
cannot, so the runs include every run of the code.

Shutdown orders the monitor's own steps only: the health manager is closed after a stop
signal went to every watch made, but a worker that is probing may still publish, and every
worker still closes its updater, after that (`shutdown_races_workers`). What holds in every
run is per worker: it closes its updater at most once, only after it received its stop
signal, and publishes nothing after that.
-/

namespace P2.Watch

/-- Where a `MonitorHealth` goroutine is. -/
inductive WorkerState where
  /-- in its `select` -/
  | waiting
  /-- in `checkHealth` -/
  | probing
  /-- received its stop signal, before `p.updater.Close()` -/
  | closing
  /-- returned -/
  | exited
  deriving DecidableEq, Repr

/-- Where `MonitorPodHealth` is. -/
inductive Phase where
  /-- in its loop -/
  | polling
  /-- sending the stop signals, to the pods `pending` still -/
  | stopping (pending : List PodWatch)
  /-- closed the health manager and returned -/
  | exited
  deriving DecidableEq, Repr

/-- The state of `MonitorPodHealth` and of the workers it started: its phase, its watched
pods, the world, and where the worker of each channel identity is. -/
structure System where
  phase : Phase
  pods : List PodWatch
  world : World
  worker : Nat → WorkerState

/-- No pod watched, nothing done, every worker still to start. -/
def System.init : System := ⟨.polling, [], World.init, fun _ => .waiting⟩

/-- What one goroutine does next. -/
inductive Action where
  /-- the poll timer of `MonitorPodHealth` fires and the store answers `answer` -/
  | poll (answer : List ManifestResult × Option String)
  /-- `MonitorPodHealth` receives the shutdown signal -/
  | shutdownSignal
  /-- `MonitorPodHealth` sends the next stop signal -/
  | sendStop
  /-- `MonitorPodHealth` closes the health manager and returns -/
  | closeManager
  /-- the probe timer of the worker of `p` fires -/
  | tick (p : PodWatch)
  /-- the status request of the worker of `p` returns `probe` -/
  | probe (p : PodWatch) (probe : Option Response × Option String)
  /-- the worker of `p` receives its stop signal -/
  | receive (p : PodWatch)
  /-- the worker of `p` closes its updater and returns -/
  | release (p : PodWatch)

/-- The values waiting in the buffer of `ch`. -/
def buffered (es : List Effect) (ch : Chan) : Nat := es.count (.send ch) - es.count (.recv ch)

/-- The worker of `p` moves to `st` and the effects `es` happen. -/
def System.workerStep (s : System) (p : PodWatch) (st : WorkerState) (es : List Effect) :
    System :=
  { s with world := s.world.emit es, worker := Function.update s.worker p.shutdownCh.id st }

/-- The step `a` from `s`, if it is enabled. -/
def System.step (client : Client) (node : String) (s : System) : Action → Option System
  | .poll answer =>
    if s.phase = .polling then
      some { s with pods := (updateHealthMonitors client s.pods node answer s.world).1,
                    world := (updateHealthMonitors client s.pods node answer s.world).2 }
    else none
  | .shutdownSignal => if s.phase = .polling then some { s with phase := .stopping s.pods } else none
  | .sendStop =>
    match s.phase with
    | .stopping (p :: rest) =>
      some { s with phase := .stopping rest, world := s.world.emit [.send p.shutdownCh] }
    | _ => none
  | .closeManager =>
    if s.phase = .stopping [] then
      some { s with phase := .exited, world := s.world.emit [.closeHealthManager] }
    else none
  | .tick p =>
    if p ∈ spawned s.world.effects ∧ s.worker p.shutdownCh.id = .waiting then
      some (s.workerStep p .probing [])
    else none
  | .probe p probe =>
    if p ∈ spawned s.world.effects ∧ s.worker p.shutdownCh.id = .probing then
      some (s.workerStep p .waiting ((p.checkHealth probe).toList.map (.putHealth p.updater)))
    else none
  | .receive p =>
    if p ∈ spawned s.world.effects ∧ s.worker p.shutdownCh.id = .waiting
        ∧ 0 < buffered s.world.effects p.shutdownCh then
      some (s.workerStep p .closing [.recv p.shutdownCh])
    else none
  | .release p =>
    if p ∈ spawned s.world.effects ∧ s.worker p.shutdownCh.id = .closing then
      some (s.workerStep p .exited [.closeUpdater p.updater])
    else none

/-- The state after the steps `as`, each taken when it is enabled and skipped otherwise. -/
def System.run (client : Client) (node : String) (s : System) (as : List Action) : System :=
  as.foldl (fun s a => (s.step client node a).getD s) s

/-- A property of the system that every step keeps holds after every run. -/
theorem System.run_induction {client : Client} {node : String} (P : System → Prop)
    (hstep : ∀ s s' a, P s → s.step client node a = some s' → P s') {s : System} (h : P s)
    (as : List Action) :
  P (System.run client node s as)
  := foldl_getD_induction (System.step client node) P (fun s a s' => hstep s s' a) h as

/-- A property of the actions taken so far and of the system that every action keeps, taken or
skipped, holds after every run. -/
theorem System.run_induction_on {client : Client} {node : String} (P : List Action → System → Prop)
    (hstep : ∀ done s s' a, P done s → s.step client node a = some s' → P (done ++ [a]) s')
    (hskip : ∀ done s a, P done s → s.step client node a = none → P (done ++ [a]) s)
    {s : System} (h : P [] s) (as : List Action) :
  P as (System.run client node s as)
  := foldl_getD_induction_on (System.step client node) P
    (fun done s a s' => hstep done s s' a) hskip h as

/-- The system of the examples, on the node `node` with the client `0`, after the actions `as`. -/
def svc1Run (as : List Action) : System := System.run ⟨0⟩ "node" System.init as

/-- The watch a reconciliation makes first for `svc1`, listed on port 8080. -/
def svc1Watch : PodWatch := newPodWatch ⟨0⟩ "node" 0 ⟨"svc1", 8080, true⟩

/-- A poll of the store that lists `svc1` on port 8080. -/
def svc1Poll : Action := .poll ([⟨⟨"svc1", 8080, true⟩, "reality/node/svc1"⟩], none)

/-- The health manager is closed before the workers are done with their updaters: after one
reconciliation that starts `svc1`, its worker starts a probe, the monitor takes the shutdown
signal, signals the worker and closes the health manager, and only then does the worker
publish its result, receive its stop signal and close its updater. -/
theorem shutdown_races_workers :
  (svc1Run [svc1Poll, .tick svc1Watch, .shutdownSignal, .sendStop, .closeManager,
      .probe svc1Watch (some ⟨200, .ok "ok"⟩, none), .receive svc1Watch,
      .release svc1Watch]).world.effects
    = [.newUpdater "svc1" "svc1", .spawn svc1Watch, .send ⟨0, 1⟩, .closeHealthManager,
        .putHealth ⟨0, "svc1", "svc1"⟩ ⟨"svc1", "node", "svc1", "passing", "ok"⟩,
        .recv ⟨0, 1⟩, .closeUpdater ⟨0, "svc1", "svc1"⟩]
  := by
  decide

/-! ### What every run keeps -/

/-- The identity of the worker an effect is a step of, if it is one. -/
def Effect.byWorker : Effect → Option Nat
  | .recv ch => some ch.id
  | .putHealth u _ => some u.id
  | .closeUpdater u => some u.id
  | _ => none

/-- The health manager was closed only after a stop signal had gone to every watch made. -/
def ClosedAfterSignals (es : List Effect) : Prop :=
  ∀ pre post, es = pre ++ .closeHealthManager :: post →
    ∀ p, .spawn p ∈ pre → .send p.shutdownCh ∈ pre

/-- What the log says of the worker of `p`, by where it is: it has received its stop signal
once it is closing, and once it has returned it has closed its updater once, after the
signal, and published nothing since. -/
def WorkerLog (es : List Effect) (p : PodWatch) : WorkerState → Prop
  | .waiting => .recv p.shutdownCh ∉ es ∧ .closeUpdater p.updater ∉ es
  | .probing => .recv p.shutdownCh ∉ es ∧ .closeUpdater p.updater ∉ es
  | .closing => .recv p.shutdownCh ∈ es ∧ .closeUpdater p.updater ∉ es
  | .exited => es.count (.closeUpdater p.updater) = 1 ∧
      ∀ pre post, es = pre ++ .closeUpdater p.updater :: post →
        .recv p.shutdownCh ∈ pre ∧ ∀ r, .putHealth p.updater r ∉ post

/-- The pods whose channel `MonitorPodHealth` still holds, by its phase. -/
def held (pods : List PodWatch) : Phase → List PodWatch
  | .polling => pods
  | .stopping pending => pending
  | .exited => []

/-- What the log says of `MonitorPodHealth`, by its phase. -/
def ManagerLog (es : List Effect) : Phase → Prop
  | .exited => ClosedAfterSignals es
  | _ => .closeHealthManager ∉ es

/-- The invariant of the runs: the channels are owned as in `Owned`, the log agrees with the
phase of the monitor and with where each worker is, every watch has its updater and its
channel made as one, every worker step in the log is by a worker started, and the workers
still to start wait. -/
structure Inv (s : System) : Prop where
  owned : Owned (held s.pods s.phase) s.world
  manager : ManagerLog s.world.effects s.phase
  updater : ∀ p ∈ spawned s.world.effects, p.updater.id = p.shutdownCh.id
  owners : ∀ e ∈ s.world.effects, ∀ n, e.byWorker = some n → n < s.world.fresh
  workers : ∀ p ∈ spawned s.world.effects,
    WorkerLog s.world.effects p (s.worker p.shutdownCh.id)
  unstarted : ∀ n, s.world.fresh ≤ n → s.worker n = .waiting

theorem WorkerLog.append {es xs : List Effect} {p : PodWatch} {st : WorkerState}
    (h : WorkerLog es p st) (hu : p.updater.id = p.shutdownCh.id)
    (hxs : ∀ e ∈ xs, e.byWorker ≠ some p.shutdownCh.id) :
  WorkerLog (es ++ xs) p st
  := by
  have hrecv : .recv p.shutdownCh ∉ xs := fun h => hxs _ h rfl
  have hclose : .closeUpdater p.updater ∉ xs := fun h => hxs _ h (by simp [Effect.byWorker, hu])
  have hput : ∀ r, .putHealth p.updater r ∉ xs := fun r h =>
    hxs _ h (by simp [Effect.byWorker, hu])
  cases st with
  | waiting => exact ⟨by simp [h.1, hrecv], by simp [h.2, hclose]⟩
  | probing => exact ⟨by simp [h.1, hrecv], by simp [h.2, hclose]⟩
  | closing => exact ⟨List.mem_append_left _ h.1, by simp [h.2, hclose]⟩
  | exited =>
    refine ⟨by simp [List.count_append, h.1, List.count_eq_zero.2 hclose], fun pre post heq => ?_⟩
    obtain ⟨post', rfl, rfl⟩ := append_eq_cons_of_not_mem heq hclose
    obtain ⟨hr, hp⟩ := h.2 pre post' rfl
    exact ⟨hr, fun r hr' => (List.mem_append.1 hr').elim (hp r) (hput r)⟩

/-- A worker closes its updater at most once, only after its stop signal, and publishes
nothing after that. -/
theorem WorkerLog.closeUpdater {es : List Effect} {p : PodWatch} {st : WorkerState}
    (h : WorkerLog es p st) :
  es.count (.closeUpdater p.updater) ≤ 1
    ∧ ∀ pre post, es = pre ++ .closeUpdater p.updater :: post →
      .recv p.shutdownCh ∈ pre ∧ ∀ r, .putHealth p.updater r ∉ post
  := by
  have hnone : .closeUpdater p.updater ∉ es → es.count (.closeUpdater p.updater) ≤ 1
      ∧ ∀ pre post, es = pre ++ .closeUpdater p.updater :: post →
        .recv p.shutdownCh ∈ pre ∧ ∀ r, .putHealth p.updater r ∉ post := fun hn =>
    ⟨by simp [List.count_eq_zero.2 hn], fun pre post heq => absurd (heq ▸ by simp) hn⟩
  cases st with
  | waiting => exact hnone h.2
  | probing => exact hnone h.2
  | closing => exact hnone h.2
  | exited => exact ⟨h.1.le, h.2⟩

theorem ClosedAfterSignals.append {es xs : List Effect} (h : ClosedAfterSignals es)
    (hxs : .closeHealthManager ∉ xs) :
  ClosedAfterSignals (es ++ xs)
  := by
  intro pre post heq
  obtain ⟨post', heq', -⟩ := append_eq_cons_of_not_mem heq hxs
  exact h pre post' heq'

theorem ManagerLog.append {es xs : List Effect} {ph : Phase} (h : ManagerLog es ph)
    (hxs : .closeHealthManager ∉ xs) :
  ManagerLog (es ++ xs) ph
  := by
  cases ph with
  | exited => exact ClosedAfterSignals.append h hxs
  | polling => exact fun hm => (List.mem_append.1 hm).elim h hxs
  | stopping _ => exact fun hm => (List.mem_append.1 hm).elim h hxs

/-- `Owned` reads of the world only the channels sent on, the watches made and `fresh`. -/
theorem Owned.congr {pods : List PodWatch} {w w' : World} (h : Owned pods w)
    (hs : sent w'.effects = sent w.effects) (hsp : spawned w'.effects = spawned w.effects)
    (hf : w'.fresh = w.fresh) :
  Owned pods w'
  := ⟨by rw [hs, hsp]; exact h.perm, by rw [hsp]; exact h.nodup,
    by rw [hsp, hf]; exact h.fresh, by rw [hsp]; exact h.capacity⟩

/-- Two watches made with channels of one identity are the same watch. -/
theorem Owned.eq_of_id_eq {pods : List PodWatch} {w : World} (h : Owned pods w)
    {p q : PodWatch} (hp : p ∈ spawned w.effects) (hq : q ∈ spawned w.effects)
    (hid : p.shutdownCh.id = q.shutdownCh.id) :
  p = q
  := by
  have hch : p.shutdownCh = q.shutdownCh := by
    cases hpc : p.shutdownCh
    cases hqc : q.shutdownCh
    have := h.capacity p hp
    have := h.capacity q hq
    simp_all
  exact List.inj_on_of_nodup_map h.nodup hp hq hch

theorem sent_spawned_eq_nil (xs : List Effect) (h : ∀ e ∈ xs, e.byWorker ≠ none) :
  sent xs = [] ∧ spawned xs = []
  := by
  induction xs with
  | nil => exact ⟨rfl, rfl⟩
  | cons e xs ih =>
    obtain ⟨h1, h2⟩ := ih fun e he => h e (List.mem_cons_of_mem _ he)
    have he := h e (List.mem_cons_self _ _)
    cases e <;> first | exact absurd rfl he | exact ⟨h1, h2⟩

@[simp]
theorem System.workerStep_phase (s : System) (p : PodWatch) (st : WorkerState)
    (es : List Effect) :
  (s.workerStep p st es).phase = s.phase
  := rfl

@[simp]
theorem System.workerStep_pods (s : System) (p : PodWatch) (st : WorkerState)
    (es : List Effect) :
  (s.workerStep p st es).pods = s.pods
  := rfl

@[simp]
theorem System.workerStep_world (s : System) (p : PodWatch) (st : WorkerState)
    (es : List Effect) :
  (s.workerStep p st es).world = s.world.emit es
  := rfl

@[simp]
theorem System.workerStep_worker (s : System) (p : PodWatch) (st : WorkerState)
    (es : List Effect) :
  (s.workerStep p st es).worker = Function.update s.worker p.shutdownCh.id st
  := rfl

/-! ### Each step keeps the invariant -/

theorem Inv.init : Inv System.init :=
  ⟨Owned.init, by simp [ManagerLog, System.init, World.init], by simp [System.init, World.init,
    spawned], by simp [System.init, World.init], by simp [System.init, World.init, spawned],
    fun _ _ => rfl⟩

/-- A step of the worker of `p` that logs only steps of that worker keeps the invariant when
the log of the worker agrees with where it moves to. -/
theorem Inv.workerStep {s : System} {p : PodWatch} {st : WorkerState} {es : List Effect}
    (h : Inv s) (hp : p ∈ spawned s.world.effects)
    (hes : ∀ e ∈ es, e.byWorker = some p.shutdownCh.id)
    (hlog : WorkerLog (s.world.effects ++ es) p st) :
  Inv (s.workerStep p st es)
  := by
  have hnil := sent_spawned_eq_nil es fun e he => by simp [hes e he]
  have hspawned : spawned (s.world.emit es).effects = spawned s.world.effects := by
    simp [hnil.2]
  have hfresh := h.owned.fresh p hp
  refine ⟨h.owned.congr (by simp [hnil.1]) hspawned rfl,
    h.manager.append fun hm => by simpa [Effect.byWorker] using hes _ hm, ?_, ?_, ?_, ?_⟩
  · simpa only [System.workerStep_world, hspawned] using h.updater
  · intro e he n hn
    rcases List.mem_append.1 he with he | he
    · exact h.owners e he n hn
    · rw [hes e he] at hn
      exact Option.some_injective _ hn ▸ hfresh
  · intro q hq
    rw [System.workerStep_world, hspawned] at hq
    rw [System.workerStep_world, World.emit_effects, System.workerStep_worker]
    by_cases hqp : q.shutdownCh.id = p.shutdownCh.id
    · obtain rfl := h.owned.eq_of_id_eq hq hp hqp
      rw [Function.update_same]
      exact hlog
    · rw [Function.update_noteq hqp]
      exact (h.workers q hq).append (h.updater q hq) fun e he hbe =>
        hqp (Option.some_injective _ ((hes e he).symm.trans hbe)).symm
  · intro n hn
    rw [System.workerStep_world, World.emit_fresh] at hn
    rw [System.workerStep_worker, Function.update_noteq (by omega)]
    exact h.unstarted n hn

theorem newPodWatches_ids {client : Client} {node : String} {n : Nat} {ms : List Manifest}
    {q : PodWatch} (hq : q ∈ newPodWatches client node n ms) :
  n ≤ q.shutdownCh.id ∧ q.updater.id = q.shutdownCh.id
  := by
  induction ms generalizing n with
  | nil => simp [newPodWatches] at hq
  | cons m ms ih =>
    rcases List.mem_cons.1 hq with rfl | hq
    · exact ⟨le_rfl, rfl⟩
    · exact ⟨Nat.le_of_succ_le (ih hq).1, (ih hq).2⟩

/-- A reconciliation logs only stop signals and creations, and starts workers that have not
moved yet. -/
theorem Inv.poll {s : System} (h : Inv s) (hph : s.phase = .polling) (client : Client)
    (node : String) (answer : List ManifestResult × Option String) :
  Inv { s with pods := (updateHealthMonitors client s.pods node answer s.world).1,
               world := (updateHealthMonitors client s.pods node answer s.world).2 }
  := by
  have ho : Owned s.pods s.world := by simpa [held, hph] using h.owned
  set news := newPodWatches client node s.world.fresh
    (newcomers (survivors s.pods answer.1) answer.1)
  set xs := (removed s.pods answer.1).map (.send ·.shutdownCh) ++ creations news
  have hw : (updateHealthMonitors client s.pods node answer s.world).2
      = ⟨s.world.fresh + (newcomers (survivors s.pods answer.1) answer.1).length,
        s.world.effects ++ xs⟩ := by
    rw [updateHealthMonitors, updatePods_snd, List.append_assoc]
  have hxs : ∀ e ∈ xs, e.byWorker = none ∧ e ≠ .closeHealthManager := by
    simp only [xs, creations, List.mem_append, List.mem_map, List.mem_flatMap]
    rintro e (⟨q, -, rfl⟩ | ⟨q, -, he⟩)
    · exact ⟨rfl, nofun⟩
    · rcases List.mem_pair.1 he with rfl | rfl <;> exact ⟨rfl, nofun⟩
  have hspawned : spawned (s.world.effects ++ xs) = spawned s.world.effects ++ news := by
    simp [xs]
  have hnew : ∀ q ∈ news, .recv q.shutdownCh ∉ s.world.effects ++ xs
      ∧ .closeUpdater q.updater ∉ s.world.effects ++ xs := by
    intro q hq
    obtain ⟨hge, hu⟩ := newPodWatches_ids hq
    refine ⟨fun hm => ?_, fun hm => ?_⟩ <;> rcases List.mem_append.1 hm with hm | hm
    · have := h.owners _ hm _ rfl
      omega
    · exact absurd (hxs _ hm).1 nofun
    · have := h.owners _ hm _ rfl
      rw [hu] at this
      omega
    · exact absurd (hxs _ hm).1 nofun
  refine ⟨?_, ?_, ?_, ?_, ?_, ?_⟩ <;> simp only [hph, held]
  · exact ho.updatePods client answer.1 node
  · rw [hw]
    exact ManagerLog.append (hph ▸ h.manager) fun hm => (hxs _ hm).2 rfl
  · rw [hw, hspawned]
    intro q hq
    rcases List.mem_append.1 hq with hq | hq
    · exact h.updater q hq
    · exact (newPodWatches_ids hq).2
  · rw [hw]
    intro e he n hn
    rcases List.mem_append.1 he with he | he
    · exact Nat.lt_add_right _ (h.owners e he n hn)
    · rw [(hxs e he).1] at hn
      cases hn
  · rw [hw, hspawned]
    intro q hq
    rcases List.mem_append.1 hq with hq | hq
    · exact (h.workers q hq).append (h.updater q hq) fun e he => by simp [(hxs e he).1]
    · rw [h.unstarted _ (newPodWatches_ids hq).1]
      exact hnew q hq
  · rw [hw]
    intro n hn
    dsimp only at hn
    exact h.unstarted n (by omega)

theorem Inv.shutdownSignal {s : System} (h : Inv s) (hph : s.phase = .polling) :
  Inv { s with phase := .stopping s.pods }
  := ⟨by simpa [held, hph] using h.owned, by simpa [ManagerLog, hph] using h.manager,
    h.updater, h.owners, h.workers, h.unstarted⟩

/-- A stop signal hands the channel of the signalled pod over to the signals sent. -/
theorem Inv.sendStop {s : System} {p : PodWatch} {rest : List PodWatch} (h : Inv s)
    (hph : s.phase = .stopping (p :: rest)) :
  Inv { s with phase := .stopping rest, world := s.world.emit [.send p.shutdownCh] }
  := by
  have ho : Owned (p :: rest) s.world := by simpa [held, hph] using h.owned
  have hnot : .closeHealthManager ∉ s.world.effects := by simpa [ManagerLog, hph] using h.manager
  have hsp : spawned (s.world.emit [.send p.shutdownCh]).effects = spawned s.world.effects := by
    simp [spawned]
  refine ⟨⟨?_, hsp ▸ ho.nodup, hsp ▸ ho.fresh, hsp ▸ ho.capacity⟩,
    (show ManagerLog s.world.effects (.stopping rest) from hnot).append (by simp),
    hsp ▸ h.updater, ?_, ?_, h.unstarted⟩
  · show (sent (s.world.emit [.send p.shutdownCh]).effects ++ rest.map (·.shutdownCh)).Perm _
    rw [hsp]
    simpa [sent, List.append_assoc] using ho.perm
  · intro e he n hn
    rcases List.mem_append.1 he with he | he
    · exact h.owners e he n hn
    · simp [Effect.byWorker] at he
      simp [he, Effect.byWorker] at hn
  · rw [hsp]
    exact fun q hq => (h.workers q hq).append (h.updater q hq) (by simp [Effect.byWorker])

/-- The health manager is closed when every channel has been sent on. -/
theorem Inv.closeManager {s : System} (h : Inv s) (hph : s.phase = .stopping []) :
  Inv { s with phase := .exited, world := s.world.emit [.closeHealthManager] }
  := by
  have ho : Owned [] s.world := by simpa [held, hph] using h.owned
  have hnot : .closeHealthManager ∉ s.world.effects := by simpa [ManagerLog, hph] using h.manager
  have hsp : spawned (s.world.emit [.closeHealthManager]).effects = spawned s.world.effects := by
    simp [spawned]
  refine ⟨ho.congr (by simp [sent]) hsp rfl, ?_, hsp ▸ h.updater, ?_, ?_, h.unstarted⟩
  · intro pre post heq
    rcases append_singleton_eq_cons_iff.1 heq with ⟨-, rfl, -⟩ | ⟨post', -, hL⟩
    · intro q hq
      have := ho.perm.symm.subset (List.mem_map_of_mem PodWatch.shutdownCh (mem_spawned.2 hq))
      simpa [mem_sent] using this
    · exact absurd (hL ▸ by simp) hnot
  · intro e he n hn
    rcases List.mem_append.1 he with he | he
    · exact h.owners e he n hn
    · simp [Effect.byWorker] at he
      simp [he, Effect.byWorker] at hn
  · rw [hsp]
    exact fun q hq => (h.workers q hq).append (h.updater q hq) (by simp [Effect.byWorker])

theorem Inv.step {client : Client} {node : String} {s s' : System} {a : Action} (h : Inv s)
    (hs : s.step client node a = some s') :
  Inv s'
  := by
  cases a with
  | poll answer =>
    rw [System.step] at hs
    obtain ⟨hph, ⟨⟩⟩ := Option.ite_none_right_eq_some.1 hs
    exact h.poll hph client node answer
  | shutdownSignal =>
    rw [System.step] at hs
    obtain ⟨hph, ⟨⟩⟩ := Option.ite_none_right_eq_some.1 hs
    exact h.shutdownSignal hph
  | sendStop =>
    rw [System.step] at hs
    split at hs
    · cases hs
      exact h.sendStop ‹_›
    · cases hs
  | closeManager =>
    rw [System.step] at hs
    obtain ⟨hph, ⟨⟩⟩ := Option.ite_none_right_eq_some.1 hs
    exact h.closeManager hph
  | tick p =>
    rw [System.step] at hs
    obtain ⟨⟨hp, hw⟩, ⟨⟩⟩ := Option.ite_none_right_eq_some.1 hs
    have := h.workers p hp
    rw [hw] at this
    exact h.workerStep hp (by simp) (by simpa [WorkerLog] using this)
  | probe p probe =>
    rw [System.step] at hs
    obtain ⟨⟨hp, hw⟩, ⟨⟩⟩ := Option.ite_none_right_eq_some.1 hs
    have := h.workers p hp
    rw [hw] at this
    refine h.workerStep hp ?_ ?_
    · simp [Effect.byWorker, h.updater p hp]
    · simpa [WorkerLog] using this
  | receive p =>
    rw [System.step] at hs
    obtain ⟨⟨hp, hw, -⟩, ⟨⟩⟩ := Option.ite_none_right_eq_some.1 hs
    have := h.workers p hp
    rw [hw] at this
    exact h.workerStep hp (by simp [Effect.byWorker]) (by simpa [WorkerLog] using this.2)
  | release p =>
    rw [System.step] at hs
    obtain ⟨⟨hp, hw⟩, ⟨⟩⟩ := Option.ite_none_right_eq_some.1 hs
    have := h.workers p hp
    rw [hw] at this
    refine h.workerStep hp (by simp [Effect.byWorker, h.updater p hp]) ⟨?_, ?_⟩
    · simp [List.count_eq_zero.2 this.2]
    · intro pre post heq
      rcases append_singleton_eq_cons_iff.1 heq with ⟨rfl, rfl, -⟩ | ⟨post', -, hL⟩
      · exact ⟨this.1, by simp⟩
      · exact absurd (hL ▸ by simp) this.2

theorem Inv.run {client : Client} {node : String} {s : System} (h : Inv s) (as : List Action) :
  Inv (System.run client node s as)
  := System.run_induction Inv (fun _ _ _ h hs => h.step hs) h as

/-- In every run, `MonitorPodHealth` closes the health manager only after it sent a stop
signal on the channel of every watch made; and every worker closes its updater at most once,
only after it received its stop signal, and publishes nothing through it after that. -/
theorem run_signals_before_close (client : Client) (node : String) (as : List Action) :
  ClosedAfterSignals (System.run client node System.init as).world.effects
    ∧ ∀ p, .spawn p ∈ (System.run client node System.init as).world.effects →
      (System.run client node System.init as).world.effects.count (.closeUpdater p.updater) ≤ 1
      ∧ ∀ pre post, (System.run client node System.init as).world.effects
          = pre ++ .closeUpdater p.updater :: post →
        .recv p.shutdownCh ∈ pre ∧ ∀ r, .putHealth p.updater r ∉ post
  := by
  have h : Inv (System.run client node System.init as) := Inv.init.run as
  refine ⟨?_, fun p hp => (h.workers p (mem_spawned.2 hp)).closeUpdater⟩
  have hm := h.manager
  generalize (System.run client node System.init as).phase = ph at hm
  cases ph with
  | exited => exact hm
  | polling => exact fun pre post heq => absurd (heq ▸ by simp) hm
  | stopping _ => exact fun pre post heq => absurd (heq ▸ by simp) hm

/-- Each channel made is either sent on once and no longer held, or not sent on and still held. -/
theorem Owned.sent_or_held {pods : List PodWatch} {w : World} (h : Owned pods w) {p : PodWatch}
    (hp : p ∈ spawned w.effects) :
  (w.effects.count (.send p.shutdownCh) = 1 ∧ p.shutdownCh ∉ pods.map (·.shutdownCh))
    ∨ (w.effects.count (.send p.shutdownCh) = 0 ∧ p.shutdownCh ∈ pods.map (·.shutdownCh))
  := by
  have hcount : w.effects.count (.send p.shutdownCh)
      + (pods.map (·.shutdownCh)).count p.shutdownCh = 1 := by
    rw [count_send_eq, ← List.count_append, h.perm.count_eq,
      List.count_eq_one_of_mem h.nodup (List.mem_map_of_mem _ hp)]
  rcases Nat.eq_zero_or_pos ((pods.map (·.shutdownCh)).count p.shutdownCh) with hheld | hheld
  · exact .inl ⟨by omega, List.count_eq_zero.1 hheld⟩
  · exact .inr ⟨by omega, List.count_pos_iff.1 hheld⟩

/-- In every run no channel is sent on twice: every stop signal `MonitorPodHealth` sends, in a
reconciliation or at the shutdown, is the only one on its channel, so it finds the buffer of its
channel empty, and that buffer holds one value: no send blocks, and the monitor never waits on a
worker. -/
theorem run_sends_never_block (client : Client) (node : String) (as : List Action)
    (pre post : List Effect) (ch : Chan)
    (h : (System.run client node System.init as).world.effects = pre ++ .send ch :: post) :
  (System.run client node System.init as).world.effects.count (.send ch) = 1
    ∧ buffered pre ch = 0 ∧ ch.capacity = 1
  := by
  have howned := (Inv.init.run as : Inv (System.run client node System.init as)).owned
  obtain ⟨p, hp, rfl⟩ := List.mem_map.1 (howned.perm.subset (List.mem_append_left _
    (mem_sent.2 (h ▸ List.mem_append_right _ (List.mem_cons_self _ _)))))
  have hsplit : (System.run client node System.init as).world.effects.count (.send p.shutdownCh)
      = pre.count (.send p.shutdownCh) + (post.count (.send p.shutdownCh) + 1) := by
    rw [h, List.count_append, List.count_cons_self]
  have hone : (System.run client node System.init as).world.effects.count
      (.send p.shutdownCh) = 1 := by
    rcases howned.sent_or_held hp with ⟨hone, -⟩ | ⟨hnone, -⟩ <;> omega
  exact ⟨hone, by rw [buffered]; omega, howned.capacity p hp⟩

/-- A run that starts `svc1`, takes the shutdown signal and sends the stop signal of `svc1`. -/
def svc1Stopped : List Action := [svc1Poll, .shutdownSignal, .sendStop]

theorem run_sends_never_block_svc1 :
  (svc1Run svc1Stopped).world.effects
      = [.newUpdater "svc1" "svc1", .spawn svc1Watch] ++ .send ⟨0, 1⟩ :: []
    ∧ (svc1Run svc1Stopped).world.effects.count (.send ⟨0, 1⟩) = 1
      ∧ buffered [.newUpdater "svc1" "svc1", .spawn svc1Watch] ⟨0, 1⟩ = 0
      ∧ (⟨0, 1⟩ : Chan).capacity = 1
  := ⟨by decide, run_sends_never_block ⟨0⟩ "node" svc1Stopped _ [] _ (by decide)⟩

/-- At every moment of every run, each worker started has either been sent its stop signal,
exactly once, and its channel is no longer held by the monitor, or it has been sent none and its
channel is still held, watched or waiting for its stop signal at the shutdown: no worker is left
without a stop signal to come, and none is stopped twice. -/
theorem run_stops_each_worker_once (client : Client) (node : String) (as : List Action)
    (p : PodWatch) (hp : .spawn p ∈ (System.run client node System.init as).world.effects) :
  ((System.run client node System.init as).world.effects.count (.send p.shutdownCh) = 1
      ∧ p.shutdownCh ∉ (held (System.run client node System.init as).pods
          (System.run client node System.init as).phase).map (·.shutdownCh))
    ∨ ((System.run client node System.init as).world.effects.count (.send p.shutdownCh) = 0
      ∧ p.shutdownCh ∈ (held (System.run client node System.init as).pods
          (System.run client node System.init as).phase).map (·.shutdownCh))
  := (Inv.init.run as : Inv (System.run client node System.init as)).owned.sent_or_held
    (mem_spawned.2 hp)

theorem run_stops_each_worker_once_svc1 :
  .spawn svc1Watch ∈ (svc1Run [svc1Poll]).world.effects
    ∧ (((svc1Run [svc1Poll]).world.effects.count
          (.send svc1Watch.shutdownCh) = 1
        ∧ svc1Watch.shutdownCh ∉ (held (svc1Run [svc1Poll]).pods
            (svc1Run [svc1Poll]).phase).map (·.shutdownCh))
      ∨ ((svc1Run [svc1Poll]).world.effects.count
          (.send svc1Watch.shutdownCh) = 0
        ∧ svc1Watch.shutdownCh ∈ (held (svc1Run [svc1Poll]).pods
            (svc1Run [svc1Poll]).phase).map (·.shutdownCh)))
  := ⟨by decide, run_stops_each_worker_once ⟨0⟩ "node" [svc1Poll] _ (by decide)⟩

end P2.Watch
