import P2.Watch.UpdatePods
import Mathlib.Data.List.Perm.Basic
import Mathlib.Data.List.Range

/-!
# The reconciler's runs

`MonitorPodHealth` reconciles once when it starts and then once per poll of the reality
store, until the shutdown signal comes; it then sends a stop signal to every pod it watches
and closes the health manager. `reconcile` is a run up to the shutdown signal, against the
answers the store gave, one per reconciliation; `monitorPodHealth` is a whole run.

A listing with no pods, which is what a failed `ListPods` may return, stops every worker
(`updateHealthMonitors_no_pods`).

Over every run from no watched pods:
* the watched ids are pairwise distinct;
* the watched ids are those the last answer lists that some answer listed with a non-zero
  status port and every answer since listed: a watch survives its pod's status port becoming
  zero, so the ids are not those the last answer lists with a non-zero port;
* every watch made owns its `shutdownCh`: the channel is held by the watched list or has
  been sent on exactly once (`Owned`). Hence no stop signal is sent on a watched pod, none
  twice on one channel, and at the end one on the channel of every watch made: in the
  reconciliation against the first answer that does not list its id, which drops it, or at the
  shutdown (`monitorPodHealth_stops_each_once`).
-/

namespace P2.Watch

/-- `updateHealthMonitors`: ask the reality store for the pods of `node`, and reconcile the
watched pods with its answer. An error of the listing is only logged, so the pods the answer
came with are used either way. -/
def updateHealthMonitors (client : Client) (watchedPods : List PodWatch) (node : String)
    (answer : List ManifestResult × Option String) (w : World) : List PodWatch × World :=
  updatePods client watchedPods answer.1 node w

/-- The watched pods and the world after reconciling, from `acc`, against each answer of
`answers` in turn. -/
def reconcile (client : Client) (node : String) (acc : List PodWatch × World)
    (answers : List (List ManifestResult × Option String)) : List PodWatch × World :=
  answers.foldl (fun acc answer => updateHealthMonitors client acc.1 node answer acc.2) acc

/-- The shutdown branch of `MonitorPodHealth`: a stop signal to every watched pod, then
`healthManager.Close()`. -/
def shutdown (pods : List PodWatch) (w : World) : World :=
  w.emit (pods.map (.send ·.shutdownCh) ++ [.closeHealthManager])

/-- A run of `MonitorPodHealth` in which the reality store gave `answers`, one per
reconciliation, before the shutdown signal came. -/
def monitorPodHealth (client : Client) (node : String)
    (answers : List (List ManifestResult × Option String)) : World :=
  shutdown (reconcile client node ([], World.init) answers).1
    (reconcile client node ([], World.init) answers).2

/-- When the reality store answers with no pods, as `ListPods` may along with an error, the
reconciliation sends a stop signal to every watched pod, in order, makes no watch, and returns no
watched pods: a listing that fails this way stops every worker. -/
theorem updateHealthMonitors_no_pods (client : Client) (watchedPods : List PodWatch)
    (node : String) (err : Option String) (w : World) :
  updateHealthMonitors client watchedPods node ([], err) w
    = ([], w.emit (watchedPods.map (.send ·.shutdownCh)))
  := by
  have hsurv : survivors watchedPods [] = [] := by simp [survivors]
  have hrem : removed watchedPods [] = watchedPods := by simp [removed]
  have hnew : newcomers [] [] = [] := by simp [newcomers, firstOfEachId]
  rw [updateHealthMonitors, Prod.ext_iff, updatePods_fst, updatePods_snd, hsurv, hrem, hnew]
  cases w
  simp [newPodWatches, World.emit]

theorem reconcile_append (client : Client) (node : String) (acc : List PodWatch × World)
    (answers : List (List ManifestResult × Option String))
    (answer : List ManifestResult × Option String) :
  reconcile client node acc (answers ++ [answer])
    = updatePods client (reconcile client node acc answers).1 answer.1 node
        (reconcile client node acc answers).2
  := by
  simp [reconcile, updateHealthMonitors]

/-- A property that holds of the start and that every step keeps holds after every run. -/
theorem reconcile_induction (client : Client) (node : String)
    (P : List PodWatch × World → Prop) (acc : List PodWatch × World) (h0 : P acc)
    (hstep : ∀ pods w reality, P (pods, w) → P (updatePods client pods reality node w))
    (answers : List (List ManifestResult × Option String)) :
  P (reconcile client node acc answers)
  := by
  induction answers using List.reverseRecOn with
  | nil => exact h0
  | append_singleton answers answer ih =>
    rw [reconcile_append]
    exact hstep _ _ _ ih

/-! ### Distinct ids -/

/-- After every run from no watched pods, no two watched pods have the same manifest id. -/
theorem nodup_ids_reconcile (client : Client) (node : String) (w : World)
    (answers : List (List ManifestResult × Option String)) :
  (ids (reconcile client node ([], w) answers).1).Nodup
  := reconcile_induction client node (fun acc => (ids acc.1).Nodup) ([], w) List.nodup_nil
    (fun _ _ reality h => nodup_ids_updatePods reality node _ h) answers

/-! ### Which ids are watched -/

/-- After a run from no watched pods, an id is watched exactly when some answer listed it
with a non-zero status port and every answer since, the last one included, listed it. -/
theorem mem_ids_reconcile (client : Client) (node : String) (w : World)
    (answers : List (List ManifestResult × Option String)) (id : String) :
  id ∈ ids (reconcile client node ([], w) answers).1
    ↔ ∃ pre answer post, answers = pre ++ answer :: post
      ∧ (∃ man ∈ answer.1, man.manifest.id = id ∧ man.manifest.statusPort ≠ 0)
      ∧ ∀ later ∈ answer :: post, ∃ man ∈ later.1, man.manifest.id = id
  := by
  induction answers using List.reverseRecOn with
  | nil => simp [reconcile]
  | append_singleton answers answer ih =>
    rw [reconcile_append, mem_ids_updatePods, ih]
    simp only [append_singleton_eq_cons_iff]
    constructor
    · rintro ⟨hlisted, ⟨pre, a, post, rfl, hport, hsince⟩ | hport⟩
      · refine ⟨pre, a, post ++ [answer], .inr ⟨post, rfl, rfl⟩, hport, ?_⟩
        intro later hlater
        rw [← List.cons_append, List.mem_append, List.mem_singleton] at hlater
        rcases hlater with h | rfl
        · exact hsince later h
        · exact hlisted
      · exact ⟨answers, answer, [], .inl ⟨rfl, rfl, rfl⟩, hport, by simpa using hlisted⟩
    · rintro ⟨pre, a, post, ⟨rfl, rfl, rfl⟩ | ⟨post', rfl, rfl⟩, hport, hsince⟩
      · exact ⟨hsince _ (List.mem_cons_self _ _), .inr hport⟩
      · refine ⟨hsince answer (by simp), .inl ⟨pre, a, post', rfl, hport, ?_⟩⟩
        exact fun later hlater =>
          hsince later ((List.sublist_append_left post' [answer]).cons₂ a |>.subset hlater)

/-- The ids watched after a run are not those the last answer lists with a non-zero status
port: `svc1`, listed on port 8080 and then on port 0, stays watched. -/
theorem reconcile_keeps_zero_port :
  "svc1" ∈ ids (reconcile ⟨0⟩ "node" ([], World.init)
      [([⟨⟨"svc1", 8080, true⟩, "reality/node/svc1"⟩], none),
        ([⟨⟨"svc1", 0, true⟩, "reality/node/svc1"⟩], none)]).1
    ∧ "svc1" ∉ (([⟨⟨"svc1", 0, true⟩, "reality/node/svc1"⟩] : List ManifestResult).filter
        (·.manifest.statusPort ≠ 0)).map (·.manifest.id)
  := by
  decide

/-! ### Stop signals -/

@[simp]
theorem sent_map_send (pods : List PodWatch) :
  sent (pods.map (.send ·.shutdownCh)) = pods.map (·.shutdownCh)
  := by
  induction pods <;> simp_all [sent]

@[simp]
theorem spawned_map_send (pods : List PodWatch) : spawned (pods.map (.send ·.shutdownCh)) = [] := by
  induction pods <;> simp_all [spawned]

@[simp]
theorem sent_creations (pods : List PodWatch) : sent (creations pods) = [] := by
  induction pods with
  | nil => rfl
  | cons p pods ih =>
    rw [creations_cons, sent_append, ih]
    rfl

@[simp]
theorem spawned_creations (pods : List PodWatch) : spawned (creations pods) = pods := by
  induction pods with
  | nil => rfl
  | cons p pods ih =>
    rw [creations_cons, spawned_append, ih]
    rfl

@[simp]
theorem sent_shutdown (pods : List PodWatch) (w : World) :
  sent (shutdown pods w).effects = sent w.effects ++ pods.map (·.shutdownCh)
  := by
  simp only [shutdown, World.emit_effects, sent_append, sent_map_send]
  rw [show sent [.closeHealthManager] = [] from rfl, List.append_nil]

@[simp]
theorem spawned_shutdown (pods : List PodWatch) (w : World) :
  spawned (shutdown pods w).effects = spawned w.effects
  := by
  simp only [shutdown, World.emit_effects, spawned_append, spawned_map_send]
  rw [show spawned [.closeHealthManager] = [] from rfl, List.nil_append, List.append_nil]

theorem map_shutdownCh_newPodWatches (client : Client) (node : String) (n : Nat)
    (ms : List Manifest) :
  (newPodWatches client node n ms).map (·.shutdownCh) = (List.range' n ms.length).map (Chan.mk · 1)
  := by
  induction ms generalizing n <;> simp_all [newPodWatches, List.range'_succ]

/-- Every watch made owns its `shutdownCh`: the channel is either held by a watched pod or
has been sent on, once. The channels of the watches made are distinct, hold one value, and
are older than `w.fresh`. -/
structure Owned (pods : List PodWatch) (w : World) : Prop where
  perm : (sent w.effects ++ pods.map (·.shutdownCh)).Perm ((spawned w.effects).map (·.shutdownCh))
  nodup : ((spawned w.effects).map (·.shutdownCh)).Nodup
  fresh : ∀ p ∈ spawned w.effects, p.shutdownCh.id < w.fresh
  capacity : ∀ p ∈ spawned w.effects, p.shutdownCh.capacity = 1

theorem Owned.init : Owned [] World.init := ⟨by simp [World.init, sent, spawned], by
  simp [World.init, spawned], by simp [World.init, spawned], by simp [World.init, spawned]⟩

/-- A step hands the channel of every removed pod over to the signals sent, and makes the
channels of the new watches fresh. -/
theorem Owned.updatePods {pods : List PodWatch} {w : World} (h : Owned pods w) (client : Client)
    (reality : List ManifestResult) (node : String) :
  Owned (updatePods client pods reality node w).1 (updatePods client pods reality node w).2
  := by
  rw [updatePods_fst, updatePods_snd]
  set ms := newcomers (survivors pods reality) reality
  set news := newPodWatches client node w.fresh ms
  have hnews : news.map (·.shutdownCh) = (List.range' w.fresh ms.length).map (Chan.mk · 1) :=
    map_shutdownCh_newPodWatches _ _ _ _
  have hmem : ∀ p ∈ news, w.fresh ≤ p.shutdownCh.id ∧ p.shutdownCh.id < w.fresh + ms.length
      ∧ p.shutdownCh.capacity = 1 := by
    intro p hp
    have hch := List.mem_map_of_mem PodWatch.shutdownCh hp
    rw [hnews] at hch
    obtain ⟨i, hi, hch⟩ := List.mem_map.1 hch
    rw [List.mem_range'_1] at hi
    simp [← hch, hi]
  constructor
  · have hpart : (survivors pods reality ++ removed pods reality).Perm pods :=
      List.filter_append_perm _ _
    simp only [sent_append, spawned_append, sent_map_send, sent_creations, spawned_map_send,
      spawned_creations, List.append_nil, List.map_append, ← List.append_assoc]
    refine List.Perm.append_right _ (List.Perm.trans ?_ h.perm)
    rw [List.append_assoc, ← List.map_append]
    exact ((List.perm_append_comm.trans hpart).map _).append_left _
  · simp only [spawned_append, spawned_map_send, spawned_creations, List.append_nil,
      List.map_append, List.nodup_append]
    refine ⟨h.nodup, hnews ▸ (List.nodup_range' _ _).map fun _ _ h => by cases h; rfl, ?_⟩
    intro ch hold hnew
    obtain ⟨p, hp, rfl⟩ := List.mem_map.1 hold
    obtain ⟨q, hq, hqp⟩ := List.mem_map.1 hnew
    have := h.fresh p hp
    have := (hmem q hq).1
    rw [hqp] at this
    omega
  · simp only [spawned_append, spawned_map_send, spawned_creations, List.append_nil,
      List.mem_append]
    rintro p (hp | hp)
    · exact Nat.lt_add_right _ (h.fresh p hp)
    · exact (hmem p hp).2.1
  · simp only [spawned_append, spawned_map_send, spawned_creations, List.append_nil,
      List.mem_append]
    rintro p (hp | hp)
    · exact h.capacity p hp
    · exact (hmem p hp).2.2

theorem owned_reconcile (client : Client) (node : String)
    (answers : List (List ManifestResult × Option String)) :
  Owned (reconcile client node ([], World.init) answers).1
    (reconcile client node ([], World.init) answers).2
  := reconcile_induction client node (fun acc => Owned acc.1 acc.2) _ Owned.init
    (fun _ _ reality h => h.updatePods client reality node) answers

/-- No stop signal has been sent to a pod still held. -/
theorem Owned.count_send_eq_zero {pods : List PodWatch} {w : World} (h : Owned pods w)
    {p : PodWatch} (hp : p ∈ pods) :
  w.effects.count (.send p.shutdownCh) = 0
  := by
  rw [count_send_eq, List.count_eq_zero]
  exact fun hs => List.disjoint_of_nodup_append (h.perm.nodup_iff.2 h.nodup) hs
    (List.mem_map_of_mem _ hp)

theorem Owned.nodup_held {pods : List PodWatch} {w : World} (h : Owned pods w) :
  (pods.map (·.shutdownCh)).Nodup
  := (h.perm.nodup_iff.2 h.nodup).of_append_right

/-- A reconciliation against an answer that does not list the id of a watched pod drops it and
sends it its first stop signal. -/
theorem updatePods_drops_watched {pods : List PodWatch} {w : World} (h : Owned pods w)
    (client : Client) (reality : List ManifestResult) (node : String) {p : PodWatch}
    (hp : p ∈ pods) (hl : ∀ man ∈ reality, man.manifest.id ≠ p.manifest.id) :
  p ∉ (updatePods client pods reality node w).1
    ∧ (updatePods client pods reality node w).2.effects.count (.send p.shutdownCh) = 1
  := by
  refine ⟨fun hm => ?_, ?_⟩
  · obtain ⟨⟨man, hman, hid⟩, -⟩ :=
      mem_ids_updatePods.1 (show p.manifest.id ∈ ids _ from List.mem_map_of_mem _ hm)
    exact hl man hman hid
  · have hrem : p ∈ removed pods reality := List.mem_filter.2 ⟨hp, by simpa using hl⟩
    rw [updatePods_snd, count_send_eq]
    simp only [sent_append, sent_map_send, sent_creations, List.append_nil, List.count_append]
    rw [← count_send_eq, h.count_send_eq_zero hp, Nat.zero_add]
    exact List.count_eq_one_of_mem (h.nodup_held.sublist ((List.filter_sublist _).map _))
      (List.mem_map_of_mem _ hrem)

/-- Every watch made in a run from no watched pods is still watched, or was watched when an
answer that does not list its id came. -/
theorem watched_or_dropped (client : Client) (node : String)
    (answers : List (List ManifestResult × Option String)) {p : PodWatch}
    (hp : p ∈ spawned (reconcile client node ([], World.init) answers).2.effects) :
  p ∈ (reconcile client node ([], World.init) answers).1
    ∨ ∃ pre answer post, answers = pre ++ answer :: post
      ∧ p ∈ (reconcile client node ([], World.init) pre).1
      ∧ ∀ man ∈ answer.1, man.manifest.id ≠ p.manifest.id
  := by
  induction answers using List.reverseRecOn with
  | nil => simp [reconcile, World.init, spawned] at hp
  | append_singleton answers a ih =>
    rw [reconcile_append, updatePods_snd] at hp
    simp only [spawned_append, spawned_map_send, spawned_creations, List.append_nil,
      List.mem_append] at hp
    rw [reconcile_append, updatePods_fst]
    rcases hp with hp | hnew
    · rcases ih hp with hw | ⟨pre, answer, post, rfl, hcycle⟩
      · by_cases hl : ∀ man ∈ a.1, man.manifest.id ≠ p.manifest.id
        · exact .inr ⟨answers, a, [], rfl, hw, hl⟩
        · -- the last answer lists it, so it survives
          exact .inl (List.mem_append_left _ (List.mem_filter.2 ⟨hw, by simpa using hl⟩))
      · exact .inr ⟨pre, answer, post ++ [a], by simp, hcycle⟩
    · exact .inl (List.mem_append_right _ hnew)

/-- At shutdown the channels still held are sent on, so the signals sent are exactly the
channels of the watches made. -/
theorem Owned.shutdown {pods : List PodWatch} {w : World} (h : Owned pods w) :
  (sent (shutdown pods w).effects).Perm ((spawned (shutdown pods w).effects).map (·.shutdownCh))
  := by
  rw [sent_shutdown, spawned_shutdown]
  exact h.perm

/-- Over every run of `MonitorPodHealth`, every watch made gets exactly one stop signal: none
while it is watched; one in the reconciliation against an answer that does not list its id,
which drops it; and one at the shutdown for each watch still watched then. No signal goes to a
channel no watch was made with, and every signal is the first on its one-place channel, so none
finds the channel full. -/
theorem monitorPodHealth_stops_each_once (client : Client) (node : String)
    (answers : List (List ManifestResult × Option String)) :
  (∀ p ∈ (reconcile client node ([], World.init) answers).1,
      (reconcile client node ([], World.init) answers).2.effects.count (.send p.shutdownCh) = 0)
  ∧ (∀ pre answer post, answers = pre ++ answer :: post →
      ∀ p ∈ (reconcile client node ([], World.init) pre).1,
        (∀ man ∈ answer.1, man.manifest.id ≠ p.manifest.id) →
        p ∉ (reconcile client node ([], World.init) (pre ++ [answer])).1
        ∧ (reconcile client node ([], World.init) pre).2.effects.count (.send p.shutdownCh) = 0
        ∧ (reconcile client node ([], World.init) (pre ++ [answer])).2.effects.count
            (.send p.shutdownCh) = 1)
  ∧ (∀ p, .spawn p ∈ (monitorPodHealth client node answers).effects →
      (monitorPodHealth client node answers).effects.count (.send p.shutdownCh) = 1
      ∧ p.shutdownCh.capacity = 1
      ∧ (p ∈ (reconcile client node ([], World.init) answers).1
        ∨ ∃ pre answer post, answers = pre ++ answer :: post
          ∧ p ∈ (reconcile client node ([], World.init) pre).1
          ∧ ∀ man ∈ answer.1, man.manifest.id ≠ p.manifest.id))
  ∧ (∀ ch, .send ch ∈ (monitorPodHealth client node answers).effects →
      ∃ p, .spawn p ∈ (monitorPodHealth client node answers).effects ∧ p.shutdownCh = ch)
  ∧ (∀ pre ch post, (monitorPodHealth client node answers).effects = pre ++ .send ch :: post →
      .send ch ∉ pre)
  := by
  have h := owned_reconcile client node answers
  have hend : (sent (monitorPodHealth client node answers).effects).Perm
      ((spawned (monitorPodHealth client node answers).effects).map (·.shutdownCh)) :=
    h.shutdown
  have hspawned : spawned (monitorPodHealth client node answers).effects
      = spawned (reconcile client node ([], World.init) answers).2.effects :=
    spawned_shutdown _ _
  have hsent : ∀ ch, .send ch ∈ (monitorPodHealth client node answers).effects →
      ∃ p, .spawn p ∈ (monitorPodHealth client node answers).effects ∧ p.shutdownCh = ch := by
    intro ch hch
    obtain ⟨p, hp, rfl⟩ := List.mem_map.1 (hend.subset (mem_sent.2 hch))
    exact ⟨p, mem_spawned.1 hp, rfl⟩
  have hone : ∀ p, .spawn p ∈ (monitorPodHealth client node answers).effects →
      (monitorPodHealth client node answers).effects.count (.send p.shutdownCh) = 1 := by
    intro p hp
    rw [count_send_eq, hend.count_eq]
    exact List.count_eq_one_of_mem (hspawned ▸ h.nodup) (List.mem_map_of_mem _ (mem_spawned.2 hp))
  refine ⟨fun p hp => h.count_send_eq_zero hp, ?_, fun p hp => ⟨hone p hp, ?_, ?_⟩, hsent, ?_⟩
  · -- the reconciliation against an answer without its id
    intro pre answer post _ p hp hl
    have ho := owned_reconcile client node pre
    obtain ⟨hdrop, hsend⟩ := updatePods_drops_watched ho client answer.1 node hp hl
    rw [reconcile_append]
    exact ⟨hdrop, ho.count_send_eq_zero hp, hsend⟩
  · exact h.capacity p (hspawned ▸ mem_spawned.2 hp)
  · exact watched_or_dropped client node answers (hspawned ▸ mem_spawned.2 hp)
  · intro pre ch post heq hpre
    obtain ⟨p, hp, rfl⟩ := hsent ch (heq ▸ List.mem_append_right _ (List.mem_cons_self _ _))
    have := hone p hp
    rw [heq, List.count_append, List.count_cons_self] at this
    have := List.count_pos_iff.2 hpre
    omega

end P2.Watch
