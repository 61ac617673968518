import P2.Watch.Basic
import Mathlib.Data.List.Nodup

/-!
# Reconciling the watched pods with the reality store

`updatePods` compares the pods being watched with the pods the reality store lists for the
node. Its first loop sends a stop signal to every watched pod whose manifest id is no longer
listed and keeps the others, in order; its second loop makes a `PodWatch`, and starts its
goroutine, for every listed manifest with a non-zero status port whose id is not watched
yet. Both loops compare manifest ids only, and the second compares against the list it is
building, so a listing that names an id twice makes at most one watch for it.

The step as the spec states it is `updatePods_spec`: the survivors in order, then one new
watch for each id that has no survivor and some entry with a non-zero status port, built
from the first such entry, together with the stop signals and the creations the step causes.
-/

namespace P2.Watch

/-! ### The code -/

/-- Whether an element of `xs` has the manifest id `id`: the inner loops of `updatePods`,
which break at the first match. -/
def hasId {α : Type} (idOf : α → String) (id : String) : List α → Bool
  | [] => false
  | x :: xs => if idOf x = id then true else hasId idOf id xs

/-- `fmt.Sprintf("http://%s:%d/_status", node, port)` when the manifest asks for HTTP, and the
`https` URI otherwise. -/
def statusURI (node : String) (man : Manifest) : String :=
  (if man.statusHTTP then "http://" else "https://") ++ node ++ ":" ++ toString man.statusPort
    ++ "/_status"

/-- The `PodWatch` the second loop of `updatePods` makes for the manifest `man`, as the
`n`-th watch made: its updater is `healthManager.NewUpdater(id, id)` and its `shutdownCh` is
`make(chan bool, 1)`. -/
def newPodWatch (client : Client) (node : String) (n : Nat) (man : Manifest) : PodWatch where
  manifest := man
  updater := ⟨n, man.id, man.id⟩
  statusChecker := ⟨man.id, node, statusURI node man, client⟩
  shutdownCh := ⟨n, 1⟩

/-- One turn of the first loop of `updatePods`: keep `pod` when `reality` lists its id, and
send on its `shutdownCh` otherwise. -/
def stopRemoved (reality : List ManifestResult) (acc : List PodWatch × World) (pod : PodWatch) :
    List PodWatch × World :=
  if hasId (·.manifest.id) pod.manifest.id reality then (acc.1 ++ [pod], acc.2)
  else (acc.1, acc.2.emit [.send pod.shutdownCh])

/-- One turn of the second loop of `updatePods`: when no pod of `acc.1` has the id of `man`
and its status port is not zero, make a watch for it, start its goroutine and append it. -/
def addMissing (client : Client) (node : String) (acc : List PodWatch × World)
    (man : ManifestResult) : List PodWatch × World :=
  if hasId (·.manifest.id) man.manifest.id acc.1 = false ∧ man.manifest.statusPort ≠ 0 then
    let newPod := newPodWatch client node acc.2.fresh man.manifest
    (acc.1 ++ [newPod],
      ⟨acc.2.fresh + 1,
        acc.2.effects ++ [.newUpdater man.manifest.id man.manifest.id, .spawn newPod]⟩)
  else acc

/-- `updatePods`: reconcile the watched pods `current` with the listing `reality` of the pods
that should run on `node`. -/
def updatePods (client : Client) (current : List PodWatch) (reality : List ManifestResult)
    (node : String) (w : World) : List PodWatch × World :=
  reality.foldl (addMissing client node) (current.foldl (stopRemoved reality) ([], w))

@[simp]
theorem hasId_eq_any {α : Type} (idOf : α → String) (id : String) (xs : List α) :
  hasId idOf id xs = xs.any fun x => idOf x = id
  := by
  induction xs with
  | nil => rfl
  | cons x xs ih => by_cases h : idOf x = id <;> simp [hasId, h, ih]

/-! ### The step as the spec states it -/

/-- The manifest ids of a list of watches. -/
def ids (pods : List PodWatch) : List String := pods.map (·.manifest.id)

/-- The pods of `current` whose manifest id some entry of `reality` has. -/
def survivors (current : List PodWatch) (reality : List ManifestResult) : List PodWatch :=
  current.filter fun pod => reality.any (·.manifest.id = pod.manifest.id)

/-- The pods of `current` whose manifest id no entry of `reality` has. -/
def removed (current : List PodWatch) (reality : List ManifestResult) : List PodWatch :=
  current.filter fun pod => !reality.any (·.manifest.id = pod.manifest.id)

/-- The entries of `ms` that no earlier entry of the same id precedes. -/
def firstOfEachId : List Manifest → List Manifest
  | [] => []
  | m :: ms => m :: firstOfEachId (ms.filter (·.id ≠ m.id))
termination_by ms => ms.length
decreasing_by exact Nat.lt_succ_of_le (List.length_filter_le _ _)

/-- The manifests new watches are made from when the pods `kept` survive: for each id that
no pod of `kept` has and some entry of `reality` lists with a non-zero status port, the
first such entry. -/
def newcomers (kept : List PodWatch) (reality : List ManifestResult) : List Manifest :=
  firstOfEachId ((reality.map (·.manifest)).filter fun m => m.statusPort ≠ 0 ∧ m.id ∉ ids kept)

/-- The watches the spec says are made from the manifests `ms`, the first as the `n`-th watch
made: each watches its own manifest, its status checker probes `node` for the manifest's id at
`http://node:port/_status`, or at the `https` URI when the manifest does not ask for HTTP, and
its updater, `NewUpdater(id, id)`, and its channel, fresh and of capacity one, carry the number
of the watch. -/
def newPodWatches (client : Client) (node : String) : Nat → List Manifest → List PodWatch
  | _, [] => []
  | n, m :: ms =>
    { manifest := m
      updater := ⟨n, m.id, m.id⟩
      statusChecker := ⟨m.id, node, (if m.statusHTTP then "http://" else "https://") ++ node ++ ":"
        ++ toString m.statusPort ++ "/_status", client⟩
      shutdownCh := ⟨n, 1⟩ } :: newPodWatches client node (n + 1) ms

/-- What making and starting the watches `pods` is observed as. -/
def creations (pods : List PodWatch) : List Effect :=
  pods.flatMap fun p => [.newUpdater p.manifest.id p.manifest.id, .spawn p]

@[simp]
theorem ids_nil : ids [] = [] := rfl

@[simp]
theorem ids_cons (p : PodWatch) (pods : List PodWatch) :
  ids (p :: pods) = p.manifest.id :: ids pods
  := rfl

@[simp]
theorem ids_append (pods pods' : List PodWatch) : ids (pods ++ pods') = ids pods ++ ids pods' :=
  List.map_append _ _ _

@[simp]
theorem newPodWatch_manifest (client : Client) (node : String) (n : Nat) (man : Manifest) :
  (newPodWatch client node n man).manifest = man
  := rfl

@[simp]
theorem newPodWatch_shutdownCh (client : Client) (node : String) (n : Nat) (man : Manifest) :
  (newPodWatch client node n man).shutdownCh = ⟨n, 1⟩
  := rfl

/-- The watch the second loop of `updatePods` makes is the one the spec says is made. -/
@[simp]
theorem newPodWatches_cons (client : Client) (node : String) (n : Nat) (m : Manifest)
    (ms : List Manifest) :
  newPodWatches client node n (m :: ms)
    = newPodWatch client node n m :: newPodWatches client node (n + 1) ms
  := rfl

@[simp]
theorem newPodWatches_nil (client : Client) (node : String) (n : Nat) :
  newPodWatches client node n [] = []
  := rfl

@[simp]
theorem newPodWatches_length (client : Client) (node : String) (n : Nat) (ms : List Manifest) :
  (newPodWatches client node n ms).length = ms.length
  := by
  induction ms generalizing n <;> simp [*]

@[simp]
theorem ids_newPodWatches (client : Client) (node : String) (n : Nat) (ms : List Manifest) :
  ids (newPodWatches client node n ms) = ms.map (·.id)
  := by
  induction ms generalizing n <;> simp [*]

@[simp]
theorem creations_nil : creations [] = [] := rfl

@[simp]
theorem creations_cons (p : PodWatch) (pods : List PodWatch) :
  creations (p :: pods) = [.newUpdater p.manifest.id p.manifest.id, .spawn p] ++ creations pods
  := rfl

@[simp]
theorem creations_append (pods pods' : List PodWatch) :
  creations (pods ++ pods') = creations pods ++ creations pods'
  := List.flatMap_append _ _ _

/-! ### The two loops -/

/-- The first loop keeps the listed pods in order, and sends a stop signal to each of the
others in order. -/
theorem foldl_stopRemoved (reality : List ManifestResult) (current acc : List PodWatch)
    (w : World) :
  current.foldl (stopRemoved reality) (acc, w)
    = (acc ++ survivors current reality,
      w.emit ((removed current reality).map (.send ·.shutdownCh)))
  := by
  induction current generalizing acc w with
  | nil => simp [survivors, removed]
  | cons pod current ih =>
    rw [List.foldl_cons, stopRemoved, hasId_eq_any]
    by_cases h : reality.any (·.manifest.id = pod.manifest.id)
    · rw [if_pos h, ih]
      simp [survivors, removed, h]
    · rw [if_neg h, ih]
      simp [survivors, removed, h, World.emit_emit]

/-- Taking an eligible entry into the list being built removes its id from the rest. -/
theorem newcomers_cons_of_eligible {kept : List PodWatch} {man : ManifestResult}
    (reality : List ManifestResult) (p : PodWatch) (hp : p.manifest.id = man.manifest.id)
    (hport : man.manifest.statusPort ≠ 0) (hnew : man.manifest.id ∉ ids kept) :
  newcomers kept (man :: reality) = man.manifest :: newcomers (kept ++ [p]) reality
  := by
  rw [newcomers, List.map_cons, List.filter_cons_of_pos (by simp [hport, hnew]), firstOfEachId,
    newcomers, List.filter_filter]
  congr 2
  apply List.filter_congr
  intro m _
  simp only [ids_append, ids_cons, ids_nil, hp, List.mem_append, List.mem_singleton]
  by_cases h : m.id = man.manifest.id <;> simp [h]

theorem newcomers_cons_of_not_eligible {kept : List PodWatch} {man : ManifestResult}
    (reality : List ManifestResult)
    (h : ¬ (man.manifest.statusPort ≠ 0 ∧ man.manifest.id ∉ ids kept)) :
  newcomers kept (man :: reality) = newcomers kept reality
  := by
  rw [newcomers, List.map_cons, List.filter_cons_of_neg (by simpa using h), newcomers]

/-- The second loop appends one new watch per newcomer, numbered from `w.fresh`, and makes
and starts each of them in order. -/
theorem foldl_addMissing (client : Client) (node : String) (reality : List ManifestResult)
    (acc : List PodWatch) (w : World) :
  reality.foldl (addMissing client node) (acc, w)
    = (acc ++ newPodWatches client node w.fresh (newcomers acc reality),
      ⟨w.fresh + (newcomers acc reality).length,
        w.effects ++ creations (newPodWatches client node w.fresh (newcomers acc reality))⟩)
  := by
  induction reality generalizing acc w with
  | nil => cases w; simp [newcomers, firstOfEachId]
  | cons man reality ih =>
    by_cases h : man.manifest.statusPort ≠ 0 ∧ man.manifest.id ∉ ids acc
    · have hnew : ∀ x ∈ acc, ¬x.manifest.id = man.manifest.id := by simpa [ids] using h.2
      have hadd : addMissing client node (acc, w) man
          = (acc ++ [newPodWatch client node w.fresh man.manifest],
            ⟨w.fresh + 1, w.effects ++ [.newUpdater man.manifest.id man.manifest.id,
              .spawn (newPodWatch client node w.fresh man.manifest)]⟩) := by
        rw [addMissing, if_pos ⟨by simpa using hnew, h.1⟩]
      rw [List.foldl_cons, hadd, ih,
        newcomers_cons_of_eligible reality (newPodWatch client node w.fresh man.manifest) rfl h.1 h.2]
      simp [creations, Nat.add_assoc, Nat.add_comm 1]
    · have hadd : addMissing client node (acc, w) man = (acc, w) := by
        simp only [addMissing, ite_eq_right_iff]
        intro h'
        simp [ids] at h h'
        exact absurd (h h'.2) (by simpa using h'.1)
      rw [List.foldl_cons, hadd, ih, newcomers_cons_of_not_eligible reality h]

/-! ### The step -/

theorem updatePods_fst (client : Client) (current : List PodWatch)
    (reality : List ManifestResult) (node : String) (w : World) :
  (updatePods client current reality node w).1
    = survivors current reality
      ++ newPodWatches client node w.fresh (newcomers (survivors current reality) reality)
  := by
  rw [updatePods, foldl_stopRemoved, foldl_addMissing]
  rfl

theorem updatePods_snd (client : Client) (current : List PodWatch)
    (reality : List ManifestResult) (node : String) (w : World) :
  (updatePods client current reality node w).2
    = ⟨w.fresh + (newcomers (survivors current reality) reality).length,
      w.effects ++ (removed current reality).map (.send ·.shutdownCh)
        ++ creations (newPodWatches client node w.fresh (newcomers (survivors current reality) reality))⟩
  := by
  rw [updatePods, foldl_stopRemoved, foldl_addMissing]
  rfl

/-- `updatePods` keeps the pods of `current` whose id `reality` lists, unchanged and in order,
and sends one stop signal to each of the other pods of `current`, in order; after the
survivors it appends one new watch per newcomer, the `k`-th built from its entry as the
`w.fresh + k`-th watch made, and requests the updater of each and starts its goroutine. -/
theorem updatePods_spec (client : Client) (current : List PodWatch)
    (reality : List ManifestResult) (node : String) (w : World) :
  updatePods client current reality node w
    = (survivors current reality
        ++ newPodWatches client node w.fresh (newcomers (survivors current reality) reality),
      ⟨w.fresh + (newcomers (survivors current reality) reality).length,
        w.effects ++ (removed current reality).map (.send ·.shutdownCh)
          ++ creations
            (newPodWatches client node w.fresh (newcomers (survivors current reality) reality))⟩)
  := Prod.ext (updatePods_fst client current reality node w)
    (updatePods_snd client current reality node w)

/-! ### Which ids are watched -/

theorem firstOfEachId_sublist (ms : List Manifest) : (firstOfEachId ms).Sublist ms := by
  induction ms using firstOfEachId.induct with
  | case1 => simp [firstOfEachId]
  | case2 m ms ih =>
    rw [firstOfEachId]
    exact (ih.trans (List.filter_sublist _)).cons₂ m

theorem mem_map_id_firstOfEachId {ms : List Manifest} {id : String} :
  id ∈ (firstOfEachId ms).map (·.id) ↔ id ∈ ms.map (·.id)
  := by
  induction ms using firstOfEachId.induct with
  | case1 => simp [firstOfEachId]
  | case2 m ms ih =>
    rw [firstOfEachId, List.map_cons, List.mem_cons, ih, List.map_cons, List.mem_cons]
    by_cases h : id = m.id
    · simp [h]
    · simp only [h, false_or, List.mem_map, List.mem_filter, decide_eq_true_eq]
      exact ⟨fun ⟨x, ⟨hx, _⟩, hid⟩ => ⟨x, hx, hid⟩,
        fun ⟨x, hx, hid⟩ => ⟨x, ⟨hx, hid ▸ h⟩, hid⟩⟩

theorem nodup_map_id_firstOfEachId (ms : List Manifest) :
  ((firstOfEachId ms).map (·.id)).Nodup
  := by
  induction ms using firstOfEachId.induct with
  | case1 => simp [firstOfEachId]
  | case2 m ms ih =>
    rw [firstOfEachId, List.map_cons, List.nodup_cons, mem_map_id_firstOfEachId]
    exact ⟨by simp, ih⟩

theorem mem_ids_survivors {current : List PodWatch} {reality : List ManifestResult}
    {id : String} :
  id ∈ ids (survivors current reality)
    ↔ id ∈ ids current ∧ ∃ man ∈ reality, man.manifest.id = id
  := by
  simp only [ids, survivors, List.mem_map, List.mem_filter, List.any_eq_true,
    decide_eq_true_eq]
  constructor
  · rintro ⟨pod, ⟨hpod, man, hman, hid⟩, rfl⟩
    exact ⟨⟨pod, hpod, rfl⟩, man, hman, hid⟩
  · rintro ⟨⟨pod, hpod, rfl⟩, man, hman, hid⟩
    exact ⟨pod, ⟨hpod, man, hman, hid⟩, rfl⟩

theorem mem_map_id_newcomers {kept : List PodWatch} {reality : List ManifestResult}
    {id : String} :
  id ∈ (newcomers kept reality).map (·.id)
    ↔ id ∉ ids kept ∧ ∃ man ∈ reality, man.manifest.id = id ∧ man.manifest.statusPort ≠ 0
  := by
  rw [newcomers, mem_map_id_firstOfEachId]
  simp only [List.mem_map, List.mem_filter, decide_eq_true_eq]
  constructor
  · rintro ⟨_, ⟨⟨man, hman, rfl⟩, hport, hnew⟩, rfl⟩
    exact ⟨hnew, man, hman, rfl, hport⟩
  · rintro ⟨hnew, man, hman, rfl, hport⟩
    exact ⟨man.manifest, ⟨⟨man, hman, rfl⟩, hport, hnew⟩, rfl⟩

/-- After a step an id is watched exactly when `reality` lists it and it was watched before
or some entry lists it with a non-zero status port. -/
theorem mem_ids_updatePods {client : Client} {current : List PodWatch}
    {reality : List ManifestResult} {node : String} {w : World} {id : String} :
  id ∈ ids (updatePods client current reality node w).1
    ↔ (∃ man ∈ reality, man.manifest.id = id)
      ∧ (id ∈ ids current ∨ ∃ man ∈ reality, man.manifest.id = id ∧ man.manifest.statusPort ≠ 0)
  := by
  have hlisted : (∃ man ∈ reality, man.manifest.id = id ∧ man.manifest.statusPort ≠ 0)
      → ∃ man ∈ reality, man.manifest.id = id := fun ⟨man, hman, hid, _⟩ => ⟨man, hman, hid⟩
  rw [updatePods_fst, ids_append, List.mem_append, ids_newPodWatches, mem_map_id_newcomers,
    mem_ids_survivors]
  constructor
  · rintro (⟨hA, hL⟩ | ⟨-, hN⟩)
    · exact ⟨hL, .inl hA⟩
    · exact ⟨hlisted hN, .inr hN⟩
  · rintro ⟨hL, hAN⟩
    by_cases hA : id ∈ ids current
    · exact .inl ⟨hA, hL⟩
    · exact .inr ⟨fun h => hA h.1, hAN.resolve_left hA⟩

/-- A step keeps the watched ids pairwise distinct. -/
theorem nodup_ids_updatePods {client : Client} {current : List PodWatch}
    (reality : List ManifestResult) (node : String) (w : World) (h : (ids current).Nodup) :
  (ids (updatePods client current reality node w).1).Nodup
  := by
  rw [updatePods_fst, ids_append, ids_newPodWatches, List.nodup_append]
  refine ⟨((List.filter_sublist _).map _).nodup h, nodup_map_id_firstOfEachId _, ?_⟩
  intro id hkept hnew
  exact (mem_map_id_newcomers.1 hnew).1 hkept

/-- Reconciling again with the same listing changes nothing: it keeps every pod in order,
sends no stop signal, and makes no watch. -/
theorem updatePods_idempotent (client : Client) (current : List PodWatch)
    (reality : List ManifestResult) (node : String) (w w' : World) :
  updatePods client (updatePods client current reality node w).1 reality node w'
    = ((updatePods client current reality node w).1, w')
  := by
  set L := (updatePods client current reality node w).1 with hL
  have hlisted : ∀ pod ∈ L, reality.any (·.manifest.id = pod.manifest.id) := by
    intro pod hpod
    obtain ⟨⟨man, hman, hid⟩, -⟩ := mem_ids_updatePods.1 (List.mem_map_of_mem _ hpod)
    simpa using ⟨man, hman, hid⟩
  have hsurv : survivors L reality = L := List.filter_eq_self.2 hlisted
  have hrem : removed L reality = [] := List.filter_eq_nil_iff.2 (by simpa using hlisted)
  have hnew : newcomers L reality = [] := by
    refine List.eq_nil_iff_forall_not_mem.2 fun m hm => ?_
    obtain ⟨hnot, man, hman, hid, hport⟩ :=
      mem_map_id_newcomers.1 (List.mem_map_of_mem (·.id) hm)
    exact hnot (mem_ids_updatePods.2 ⟨⟨man, hman, hid⟩, .inr ⟨man, hman, hid, hport⟩⟩)
  rw [Prod.ext_iff, updatePods_fst, updatePods_snd, hsurv, hrem, hnew]
  cases w'
  simp

end P2.Watch
