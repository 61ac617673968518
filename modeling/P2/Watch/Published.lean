import P2.Watch.Shutdown

/-!
# Who publishes what

A worker publishes only through the updater of its own `PodWatch`, and only what `checkHealth`
made from its own status checker. `updatePods` makes each watch from one manifest: the status
checker and the updater are for that manifest's id, the status URI is built from its port, and
only manifests with a non-zero status port get a watch.

Over every run of the monitor and its workers, in any interleaving:
* `run_starts_own_watches`: every watch started was made from a manifest that a poll of the
  store listed, whose status port is not zero: its status checker probes that manifest's id at
  `http(s)://node:port/_status`, its updater is `NewUpdater(id, id)` and its channel holds one
  value. So no worker probes port 0, whatever later snapshots say of the port;
* `run_publishes_own_service`: every `PutHealth` goes through the updater of a started worker,
  with a result whose id and service are that updater's pod and service, whose node is the
  monitor's node, and whose status is `passing` or `critical`: no worker reports for another
  service or another node.
-/

namespace P2.Watch

/-- A watch as the spec says `updatePods` makes it for `node` and `client`: its status checker
probes `node` for its manifest's id at `http://node:port/_status`, or at the `https` URI when
the manifest does not ask for HTTP; its updater is `NewUpdater(id, id)` and carries the number
of its channel, which holds one value; and the status port is not zero. -/
structure PodWatch.MadeFor (client : Client) (node : String) (p : PodWatch) : Prop where
  statusChecker : p.statusChecker = ⟨p.manifest.id, node,
    (if p.manifest.statusHTTP then "http://" else "https://") ++ node ++ ":"
      ++ toString p.manifest.statusPort ++ "/_status", client⟩
  updater : p.updater = ⟨p.shutdownCh.id, p.manifest.id, p.manifest.id⟩
  capacity : p.shutdownCh.capacity = 1
  statusPort : p.manifest.statusPort ≠ 0

/-- A manifest a new watch is made from is one that `reality` lists, with a non-zero port. -/
theorem mem_newcomers {kept : List PodWatch} {reality : List ManifestResult}
    {m : Manifest} (hm : m ∈ newcomers kept reality) :
  m.statusPort ≠ 0 ∧ ∃ man ∈ reality, man.manifest = m
  := by
  have := (firstOfEachId_sublist _).subset hm
  simp only [List.mem_filter, List.mem_map, decide_eq_true_eq] at this
  exact ⟨this.2.1, this.1⟩

theorem manifest_mem_of_mem_newPodWatches {client : Client} {node : String} {n : Nat}
    {ms : List Manifest} {q : PodWatch} (hq : q ∈ newPodWatches client node n ms) :
  q.manifest ∈ ms
  := by
  induction ms generalizing n with
  | nil => simp at hq
  | cons m ms ih =>
    rcases List.mem_cons.1 hq with rfl | hq
    · exact List.mem_cons_self _ _
    · exact List.mem_cons_of_mem _ (ih hq)

theorem madeFor_of_mem_newPodWatches {client : Client} {node : String} {n : Nat}
    {ms : List Manifest} (hms : ∀ m ∈ ms, m.statusPort ≠ 0) {q : PodWatch}
    (hq : q ∈ newPodWatches client node n ms) :
  q.MadeFor client node
  := by
  induction ms generalizing n with
  | nil => simp at hq
  | cons m ms ih =>
    rcases List.mem_cons.1 hq with rfl | hq
    · exact ⟨rfl, rfl, rfl, hms m (List.mem_cons_self _ _)⟩
    · exact ih (fun m' hm' => hms m' (List.mem_cons_of_mem _ hm')) hq

theorem HealthState.toString_eq (st : HealthState) :
  st.toString = "passing" ∨ st.toString = "critical"
  := by
  cases st
  · exact .inl rfl
  · exact .inr rfl

/-- A result `resultFromCheck` makes is for the service and the node of its status checker. -/
theorem resultFromCheck_for (sc : StatusChecker) (resp : Option Response) (err : Option String) :
  (resultFromCheck sc resp err).1.id = sc.id ∧ (resultFromCheck sc resp err).1.service = sc.id
    ∧ (resultFromCheck sc resp err).1.node = sc.node
  := by
  unfold resultFromCheck
  split <;> exact ⟨rfl, rfl, rfl⟩

/-- What `checkHealth` publishes is for its own status checker, with one of the two states. -/
theorem checkHealth_eq_some {p : PodWatch} {probe : Option Response × Option String}
    {r : WatchResult} (h : p.checkHealth probe = some r) :
  r.id = p.statusChecker.id ∧ r.service = p.statusChecker.id ∧ r.node = p.statusChecker.node
    ∧ (r.status = "passing" ∨ r.status = "critical")
  := by
  have hr : r = resToKPRes (p.statusChecker.check probe).1 := by
    unfold PodWatch.checkHealth at h
    split at h
    · rename_i heq
      cases h
      rw [heq]
    · cases h
  obtain ⟨hid, hsvc, hnode⟩ := resultFromCheck_for p.statusChecker probe.1 probe.2
  subst hr
  exact ⟨hid, hsvc, hnode, HealthState.toString_eq _⟩

/-- What a step does to the world: a reconciliation, or effects that start no watch and
publish only what a started worker's `checkHealth` made, through its updater. -/
theorem System.step_world {client : Client} {node : String} {s s' : System} {a : Action}
    (h : s.step client node a = some s') :
  (∃ answer : List ManifestResult × Option String,
      a = .poll answer ∧ s'.world = (updatePods client s.pods answer.1 node s.world).2)
    ∨ ∃ es, s'.world = s.world.emit es ∧ spawned es = []
      ∧ ∀ u r, .putHealth u r ∈ es →
        ∃ p ∈ spawned s.world.effects, p.updater = u ∧ ∃ probe, p.checkHealth probe = some r
  := by
  have hput : ∀ es : List Effect, (∀ e ∈ es, ∀ u r, e ≠ .putHealth u r) →
      ∀ u r, .putHealth u r ∈ es →
        ∃ p ∈ spawned s.world.effects, p.updater = u ∧ ∃ probe, p.checkHealth probe = some r :=
    fun es hes u r hm => absurd rfl (hes _ hm u r)
  cases a with
  | poll answer =>
    rw [System.step] at h
    obtain ⟨-, ⟨⟩⟩ := Option.ite_none_right_eq_some.1 h
    exact .inl ⟨answer, rfl, rfl⟩
  | shutdownSignal =>
    rw [System.step] at h
    obtain ⟨-, ⟨⟩⟩ := Option.ite_none_right_eq_some.1 h
    exact .inr ⟨[], by simp, rfl, by simp⟩
  | sendStop =>
    rw [System.step] at h
    split at h
    · cases h
      exact .inr ⟨_, rfl, rfl, hput _ (by simp)⟩
    · cases h
  | probe p probe =>
    rw [System.step] at h
    obtain ⟨⟨hp, -⟩, ⟨⟩⟩ := Option.ite_none_right_eq_some.1 h
    refine .inr ⟨_, rfl, ?_, ?_⟩
    · cases p.checkHealth probe <;> rfl
    · intro u r hm
      rcases hr : p.checkHealth probe with _ | r' <;> rw [hr] at hm
      · cases hm
      · simp only [Option.toList_some, List.map_cons, List.map_nil, List.mem_singleton,
          Effect.putHealth.injEq] at hm
        obtain ⟨rfl, rfl⟩ := hm
        exact ⟨p, hp, rfl, probe, hr⟩
  | _ =>
    -- closing the manager, and a worker's tick, stop signal and release: no `PutHealth`
    rw [System.step] at h
    obtain ⟨-, ⟨⟩⟩ := Option.ite_none_right_eq_some.1 h
    exact .inr ⟨_, rfl, rfl, hput _ (by simp)⟩

/-- What every run keeps: every watch started was made for `node` and `client`, and every
result published went through the updater of a started watch and is for that watch's service
and node, with one of the two states. -/
structure Attributed (client : Client) (node : String) (w : World) : Prop where
  made : ∀ p ∈ spawned w.effects, p.MadeFor client node
  published : ∀ u r, .putHealth u r ∈ w.effects → ∃ p ∈ spawned w.effects,
    p.updater = u ∧ r.id = p.manifest.id ∧ r.service = p.manifest.id ∧ r.node = node
      ∧ (r.status = "passing" ∨ r.status = "critical")

theorem Attributed.step {client : Client} {node : String} {s s' : System} {a : Action}
    (h : Attributed client node s.world) (hs : s.step client node a = some s') :
  Attributed client node s'.world
  := by
  rcases System.step_world hs with ⟨answer, -, hw⟩ | ⟨es, hw, hsp, hes⟩ <;> rw [hw]
  · rw [updatePods_snd]
    have hnew : ∀ e ∈ (removed s.pods answer.1).map (.send ·.shutdownCh)
        ++ creations (newPodWatches client node s.world.fresh
          (newcomers (survivors s.pods answer.1) answer.1)), ∀ u r, e ≠ .putHealth u r := by
      simp only [creations, List.mem_append, List.mem_map, List.mem_flatMap]
      rintro e (⟨q, -, rfl⟩ | ⟨q, -, he⟩) u r
      · exact nofun
      · rcases List.mem_pair.1 he with rfl | rfl <;> exact nofun
    constructor
    · simp only [List.append_assoc, spawned_append, spawned_map_send, spawned_creations,
        List.nil_append, List.mem_append]
      rintro p (hp | hp)
      · exact h.made p hp
      · exact madeFor_of_mem_newPodWatches (fun _ hm => (mem_newcomers hm).1) hp
    · intro u r hm
      rw [List.append_assoc, List.mem_append] at hm
      rcases hm with hm | hm
      · obtain ⟨p, hp, hrest⟩ := h.published u r hm
        exact ⟨p, by simp [hp], hrest⟩
      · exact absurd rfl (hnew _ hm u r)
  · have hspawned : spawned (s.world.emit es).effects = spawned s.world.effects := by
      simp [hsp]
    refine ⟨hspawned ▸ h.made, fun u r hm => ?_⟩
    rw [hspawned]
    rcases List.mem_append.1 hm with hm | hm
    · exact h.published u r hm
    · obtain ⟨p, hp, rfl, probe, hr⟩ := hes u r hm
      obtain ⟨hid, hsvc, hnode, hst⟩ := checkHealth_eq_some hr
      rw [(h.made p hp).statusChecker] at hid hsvc hnode
      exact ⟨p, hp, rfl, hid, hsvc, hnode, hst⟩

theorem Attributed.run {client : Client} {node : String} {s : System}
    (h : Attributed client node s.world) (as : List Action) :
  Attributed client node (System.run client node s as).world
  := System.run_induction (fun s => Attributed client node s.world) (fun _ _ _ h hs => h.step hs)
    h as

theorem Attributed.init (client : Client) (node : String) : Attributed client node World.init :=
  ⟨by simp [World.init, spawned], by simp [World.init]⟩

/-- Every watch started in a run is made from a manifest that the answer of one of the run's
polls listed: the monitor watches only what the store reported. -/
theorem run_spawned_listed (client : Client) (node : String) (as : List Action) :
  ∀ p ∈ spawned (System.run client node System.init as).world.effects,
    ∃ answer, .poll answer ∈ as ∧ ∃ man ∈ answer.1, man.manifest = p.manifest
  := by
  -- what a poll listed stays listed by the actions taken so far
  have hlater : ∀ (done : List Action) a (p : PodWatch),
      (∃ answer, .poll answer ∈ done ∧ ∃ man ∈ answer.1, man.manifest = p.manifest) →
      ∃ answer, .poll answer ∈ done ++ [a] ∧ ∃ man ∈ answer.1, man.manifest = p.manifest :=
    fun _ _ _ => Exists.imp fun _ ⟨hin, hman⟩ => ⟨List.mem_append_left _ hin, hman⟩
  refine System.run_induction_on
    (fun done s => ∀ p ∈ spawned s.world.effects,
      ∃ answer, .poll answer ∈ done ∧ ∃ man ∈ answer.1, man.manifest = p.manifest)
    (fun done s s' a ih hs p hp => ?_) (fun done _ a ih _ p hp => hlater done a p (ih p hp)) ?_ as
  · rcases System.step_world hs with ⟨answer, rfl, hw⟩ | ⟨es, hw, hsp, -⟩
    · -- a poll starts watches only for what its answer lists
      simp only [hw, updatePods_snd, World.emit_effects, List.append_assoc, spawned_append,
        spawned_map_send, spawned_creations, List.nil_append, List.mem_append] at hp
      rcases hp with hp | hp
      · exact hlater done _ p (ih p hp)
      · obtain ⟨-, man, hman, heq⟩ := mem_newcomers (manifest_mem_of_mem_newPodWatches hp)
        exact ⟨answer, List.mem_append_right _ (List.mem_singleton_self _), man, hman, heq⟩
    · -- every other step starts no watch
      rw [hw, World.emit_effects, spawned_append, hsp, List.append_nil] at hp
      exact hlater done _ p (ih p hp)
  · simp [System.init, World.init, spawned]

/-- In every run of the monitor and its workers, every watch started is made for its own
manifest: that manifest was listed by the answer of one of the run's polls, its status checker
probes `node` for the manifest's id at `http://node:port/_status`, or at the `https` URI when the
manifest does not ask for HTTP, with the manifest's port, which is not zero, its updater is the
one requested for that manifest's id, and its channel holds one value. -/
theorem run_starts_own_watches (client : Client) (node : String) (as : List Action) (p : PodWatch)
    (hp : .spawn p ∈ (System.run client node System.init as).world.effects) :
  (∃ answer, .poll answer ∈ as ∧ ∃ man ∈ answer.1, man.manifest = p.manifest)
    ∧ p.statusChecker = ⟨p.manifest.id, node,
      (if p.manifest.statusHTTP then "http://" else "https://") ++ node ++ ":"
        ++ toString p.manifest.statusPort ++ "/_status", client⟩
    ∧ p.updater = ⟨p.shutdownCh.id, p.manifest.id, p.manifest.id⟩
    ∧ p.shutdownCh.capacity = 1 ∧ p.manifest.statusPort ≠ 0
  := by
  have hmade := (@Attributed.run client node System.init (Attributed.init client node)
    as).made p (mem_spawned.2 hp)
  exact ⟨run_spawned_listed client node as p (mem_spawned.2 hp), hmade.statusChecker,
    hmade.updater, hmade.capacity, hmade.statusPort⟩

/-- A reconciliation that starts `svc1`, then a probe of its worker that is answered `200`. -/
def svc1Probed : List Action :=
  [svc1Poll, .tick svc1Watch, .probe svc1Watch (some ⟨200, .ok "ok"⟩, none)]

theorem run_starts_own_watches_svc1 :
  .spawn svc1Watch ∈ (svc1Run svc1Probed).world.effects
    ∧ (∃ answer, .poll answer ∈ svc1Probed ∧ ∃ man ∈ answer.1, man.manifest = svc1Watch.manifest)
      ∧ svc1Watch.statusChecker = ⟨svc1Watch.manifest.id, "node",
        (if svc1Watch.manifest.statusHTTP then "http://" else "https://") ++ "node" ++ ":"
          ++ toString svc1Watch.manifest.statusPort ++ "/_status", ⟨0⟩⟩
      ∧ svc1Watch.updater = ⟨svc1Watch.shutdownCh.id, svc1Watch.manifest.id, svc1Watch.manifest.id⟩
      ∧ svc1Watch.shutdownCh.capacity = 1 ∧ svc1Watch.manifest.statusPort ≠ 0
  := ⟨by decide, run_starts_own_watches ⟨0⟩ "node" svc1Probed svc1Watch (by decide)⟩

/-- In every run of the monitor and its workers, every `PutHealth` goes through the updater of a
started worker, and publishes a result whose id and service are the pod and the service that
updater was requested for, whose node is the monitor's node, and whose status is `passing` or
`critical`: no worker reports health for another service or another node. -/
theorem run_publishes_own_service (client : Client) (node : String) (as : List Action)
    (u : Updater) (r : WatchResult)
    (hr : .putHealth u r ∈ (System.run client node System.init as).world.effects) :
  (∃ p, .spawn p ∈ (System.run client node System.init as).world.effects ∧ p.updater = u)
    ∧ r.id = u.pod ∧ r.service = u.service ∧ r.node = node
    ∧ (r.status = "passing" ∨ r.status = "critical")
  := by
  have h := @Attributed.run client node System.init (Attributed.init client node) as
  obtain ⟨p, hp, rfl, hid, hsvc, hnode, hst⟩ := h.published u r hr
  have hu := (h.made p hp).updater
  refine ⟨⟨p, mem_spawned.1 hp, rfl⟩, ?_, ?_, hnode, hst⟩ <;> rw [hu] <;> assumption

theorem run_publishes_own_service_svc1 :
  .putHealth svc1Watch.updater ⟨"svc1", "node", "svc1", "passing", "ok"⟩
      ∈ (svc1Run svc1Probed).world.effects
    ∧ (∃ p, .spawn p ∈ (svc1Run svc1Probed).world.effects
        ∧ p.updater = svc1Watch.updater)
      ∧ "svc1" = svc1Watch.updater.pod ∧ "svc1" = svc1Watch.updater.service ∧ "node" = "node"
      ∧ ("passing" = "passing" ∨ "passing" = "critical")
  := ⟨by decide, run_publishes_own_service ⟨0⟩ "node" svc1Probed svc1Watch.updater
    ⟨"svc1", "node", "svc1", "passing", "ok"⟩ (by decide)⟩

end P2.Watch
