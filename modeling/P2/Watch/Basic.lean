import P2.Common

/-!
# The health monitor's data

The values the health monitor of the preparer passes around: the fields of a pod manifest
it reads, the answers of the reality store, the `StatusChecker` and `PodWatch` records, the
results of a status check, and the world the monitor runs in.

A Go channel, a health updater and an HTTP client are known by the identity they were made
with. `World.fresh` counts the pod watches made so far, and `World.effects` records, in
order, every step of the monitor and of its workers that another goroutine or the store can
observe: stop signals sent and received, updaters requested, published and closed,
goroutines started, and the health manager closed.
-/

namespace P2.Watch

/-- The fields of `pods.Manifest` the health monitor reads. -/
structure Manifest where
  id : String
  statusPort : Int
  statusHTTP : Bool
  deriving DecidableEq, Repr

/-- `kp.ManifestResult`: a manifest and the store path it was listed under. -/
structure ManifestResult where
  manifest : Manifest
  path : String
  deriving DecidableEq, Repr

/-- A Go channel: the identity `make` gave it, and its buffer capacity. -/
structure Chan where
  id : Nat
  capacity : Nat
  deriving DecidableEq, Repr

/-- A `kp.HealthUpdater`: the identity `NewUpdater` gave it, and the pod and the service it
was asked for. -/
structure Updater where
  id : Nat
  pod : String
  service : String
  deriving DecidableEq, Repr

/-- The `*http.Client` every status checker shares. -/
structure Client where
  id : Nat
  deriving DecidableEq, Repr

/-- `StatusChecker`: what a status check of one service needs. -/
structure StatusChecker where
  id : String
  node : String
  uri : String
  client : Client
  deriving DecidableEq, Repr

/-- `PodWatch`: the manifest of a watched pod, its updater, its status checker, and the
channel that stops its `MonitorHealth` goroutine. -/
structure PodWatch where
  manifest : Manifest
  updater : Updater
  statusChecker : StatusChecker
  shutdownCh : Chan
  deriving DecidableEq, Repr

/-- Modelled from the spec: the `health` package is not under `src/`. The two states a status
check classifies a service into, `health.Passing` and `health.Critical`. -/
inductive HealthState where
  | passing
  | critical
  deriving DecidableEq, Repr

/-- Modelled from the spec: `string(s)` for the two states of `health.HealthState`. -/
def HealthState.toString : HealthState → String
  | .passing => "passing"
  | .critical => "critical"

/-- The fields of `health.Result` a status check fills in. -/
structure Result where
  id : String
  node : String
  service : String
  status : HealthState
  output : String
  deriving DecidableEq, Repr

/-- `kp.WatchResult`: a result as the health updater writes it to the store. -/
structure WatchResult where
  service : String
  node : String
  id : String
  status : String
  output : String
  deriving DecidableEq, Repr

/-- A step of the monitor or of a worker that another goroutine or the store observes. -/
inductive Effect where
  /-- `ch <- true` -/
  | send (ch : Chan)
  /-- `<-ch`, by the worker that owns `ch` -/
  | recv (ch : Chan)
  /-- `healthManager.NewUpdater(pod, service)` -/
  | newUpdater (pod service : String)
  /-- `go pod.MonitorHealth()` -/
  | spawn (pod : PodWatch)
  /-- `u.PutHealth(r)` -/
  | putHealth (u : Updater) (r : WatchResult)
  /-- `u.Close()` -/
  | closeUpdater (u : Updater)
  /-- `healthManager.Close()` -/
  | closeHealthManager
  deriving DecidableEq, Repr

/-- The world the health monitor runs in: how many pod watches were made, and what was
observed, oldest first. -/
structure World where
  fresh : Nat
  effects : List Effect
  deriving DecidableEq, Repr

/-- The world before `MonitorPodHealth` starts. -/
def World.init : World := ⟨0, []⟩

/-- The world after the effects `es`, with nothing made. -/
def World.emit (w : World) (es : List Effect) : World := { w with effects := w.effects ++ es }

@[simp]
theorem World.emit_fresh (w : World) (es : List Effect) : (w.emit es).fresh = w.fresh := rfl

@[simp]
theorem World.emit_effects (w : World) (es : List Effect) :
  (w.emit es).effects = w.effects ++ es
  := rfl

@[simp]
theorem World.emit_nil (w : World) : w.emit [] = w := by
  simp [World.emit]

theorem World.emit_emit (w : World) (es es' : List Effect) :
  (w.emit es).emit es' = w.emit (es ++ es')
  := by
  simp [World.emit]

/-- The channels the effects `es` send a stop signal on, in order. -/
def sent (es : List Effect) : List Chan :=
  es.filterMap fun | .send ch => some ch | _ => none

/-- The pod watches whose goroutine the effects `es` start, in order. -/
def spawned (es : List Effect) : List PodWatch :=
  es.filterMap fun | .spawn p => some p | _ => none

@[simp]
theorem sent_append (es es' : List Effect) : sent (es ++ es') = sent es ++ sent es' :=
  List.filterMap_append _ _ _

@[simp]
theorem spawned_append (es es' : List Effect) : spawned (es ++ es') = spawned es ++ spawned es' :=
  List.filterMap_append _ _ _

/-- The stop signals sent on `ch` are the occurrences of `ch` among the channels sent on. -/
theorem count_send_eq (es : List Effect) (ch : Chan) :
  es.count (.send ch) = (sent es).count ch
  := by
  induction es with
  | nil => rfl
  | cons e es ih => cases e <;> simp [sent, List.count_cons, ih] at *

theorem mem_spawned {es : List Effect} {p : PodWatch} : p ∈ spawned es ↔ .spawn p ∈ es := by
  rw [spawned, List.mem_filterMap]
  refine ⟨fun ⟨e, he, hf⟩ => ?_, fun h => ⟨_, h, rfl⟩⟩
  cases e <;> cases hf
  exact he

theorem mem_sent {es : List Effect} {ch : Chan} : ch ∈ sent es ↔ .send ch ∈ es := by
  rw [sent, List.mem_filterMap]
  refine ⟨fun ⟨e, he, hf⟩ => ?_, fun h => ⟨_, h, rfl⟩⟩
  cases e <;> cases hf
  exact he

end P2.Watch
