import P2.Preparer.Listener
import P2.Common

/-!
# Installing hook pods

`HookListener.Sync` watches the hook prefix of the intent store and hands every manifest listed
there to `installHook`, sending each error on `errCh`, until `quit` fires; it then tells the
watcher to stop and returns. `installHook` checks that the auth policy authorizes the hook,
finds its event with `determineEvent`, and refuses a global hook whose ID names a hook type
(`hookTarget`). It then installs the pod at `path.Join(DestinationDir, event, ID)` unless the
current manifest of the pod there has the same SHA: it installs the pod, writes its current
manifest and links its hook scripts into `filepath.Join(ExecDir, event)`, and stops at the
first error (`installAt`).

The calls into other packages are `HookEnv`. `Disk` is what `installHook` wrote to the disk,
and the outcome of each disk call in the order they are made, so a run covers every pattern of
their failures; `hookPod.CurrentManifest()` reads back the manifest last written as the current
manifest of the pod's home.

* `run_writes_admitted_hooks`: in every run of `Sync`, the disk log is a sequence of calls of
  `installHook`, one for each of some of the results `podChan` delivered, in their order. Each
  wrote, for a manifest the policy authorizes, at the home of the event `determineEvent` gives
  for the result's path and not for a global hook whose ID names a hook type, the install of
  the pod, then its current manifest, then the links of its scripts, stopping at its first
  failure. So a current manifest is written only once its pod is installed, and the
  links only once the current manifest is written.
* `installHook_idempotent`: once `installHook` has returned nil for a result, handing it the
  same result again writes nothing, whatever the disk calls do.
* `installHook_after_failed_link`: the same holds once a delivery has failed at
  `InstallHookScripts`, since its current manifest is already written: the scripts of such a
  hook are never linked by a later delivery of it.
* `run_installs_latest`: when no disk call fails, once `Sync` has handled a batch, every hook
  pod of it that passes the checks has at its home a current manifest with the SHA of the last
  manifest of the batch for that home.
* `run_recovers_after_failures`: the same holds after any failures, once the disk calls stop
  failing: the next batch redoes an install cut short before its current manifest was written.
* `run_links_current_hooks`: when no disk call fails, in every run of `Sync` every hook pod with
  a current manifest has the scripts of that manifest linked; only a failed disk call leaves a
  pod as `installHook_after_failed_link` describes.
* `run_redelivery_writes_nothing`: when no disk call fails, a batch handed to `Sync` again
  writes nothing, unless two of its hooks share a home with different manifests.
* `run_reports_refusals`: when no disk call fails, `Sync` sends on `errCh` exactly the errors of
  the watcher and the refusals of `installHook`, in the order their events came, until `quit`
  (`reported`).
-/

namespace P2.Preparer

variable {M : Type}

/-- `kp.ManifestResult` as the hook listener reads it: a pod manifest and the path the intent
store lists it under. -/
structure ManifestResult (M : Type) where
  manifest : M
  path : String

/-- The fields of a `HookListener` besides `HookPrefix` that `installHook` reads: where hook
pods are installed, and where their scripts are linked. -/
structure HookDirs where
  destinationDir : String
  execDir : String

/-- What `installHook` calls in other packages, for pod manifests of type `M`. -/
structure HookEnv (M : Type) where
  /-- `manifest.ID()` -/
  id : M → String
  /-- `l.authPolicy.AuthorizeHook(manifest, logger)`: `none` when the policy authorizes the
  hook, or its error -/
  authorizeHook : M → Option String
  /-- whether `hooks.AsHookType(id)` returns no error -/
  isHookType : String → Bool
  /-- the digest `manifest.SHA()` returns; `installHook` ignores its error -/
  sha : M → String
  /-- `path.Join` and `filepath.Join` -/
  join : List String → String

/-- A disk call of `installHook` that succeeded. -/
inductive DiskEffect (M : Type) where
  /-- `hookPod.Install(manifest)` for the pod at `home` -/
  | install (home : String) (manifest : M)
  /-- `hookPod.WriteCurrentManifest(manifest)` for the pod at `home` -/
  | writeCurrentManifest (home : String) (manifest : M)
  /-- `hooks.InstallHookScripts(dir, hookPod, manifest, logger)` for the pod at `home` -/
  | installHookScripts (dir home : String) (manifest : M)

/-- The disk of the hook pods: what was written, oldest first, and the outcomes of the disk
calls still to come, in order: `none` for a success, or the error. -/
structure Disk (M : Type) where
  effects : List (DiskEffect M)
  outcomes : List (Option String)

/-- A computation of `installHook`: it returns a value or the error it returned, and keeps the
disk it reached either way. -/
abbrev Install (M : Type) := ExceptT String (StateM (Disk M))

/-- The outcome of the next disk call, taken off the script; once the script is used up every
call succeeds. -/
def Disk.pop (d : Disk M) : Option String × Disk M :=
  match d.outcomes with
  | [] => (none, d)
  | o :: rest => (o, { d with outcomes := rest })

/-- The manifest last written as the current manifest of the pod at `home`, if any. -/
def currentAt (home : String) (es : List (DiskEffect M)) : Option M :=
  es.foldl (fun cur e => match e with
    | .writeCurrentManifest h m => if h = home then some m else cur
    | _ => cur) none

/-- `hookPod.CurrentManifest()` of the pod at `home`: the manifest last written as its current
manifest, `none` for `pods.NoCurrentManifest`, or another error. -/
def currentManifest (home : String) : Install M (Except String (Option M)) :=
  modifyGet fun d => (outcome id d.pop.1 (currentAt home d.effects), d.pop.2)

/-- A disk call that writes `e` when it succeeds. -/
def write (e : DiskEffect M) : Install M (Except String Unit) :=
  modifyGet fun d => (outcome id d.pop.1 (), match d.pop.1 with
    | none => { d.pop.2 with effects := d.effects ++ [e] }
    | some _ => d.pop.2)

/-- The checks `installHook` makes before it touches the disk, and where it then installs: the
home of the hook pod, `path.Join(DestinationDir, event, ID)`, and the directory its scripts are
linked into, `filepath.Join(ExecDir, event)`; or the error it returns. -/
def hookTarget (l : HookListener) (dirs : HookDirs) (env : HookEnv M)
    (result : ManifestResult M) : Except String (String × String) :=
  match env.authorizeHook result.manifest with
  | some err => .error err
  | none =>
    match l.determineEvent result.path with
    | .error err => .error err
    | .ok event =>
      if event = "" ∧ env.isHookType (env.id result.manifest) then
        .error ("Global hook pod " ++ env.id result.manifest ++ " would overwrite hook type directory")
      else .ok (env.join [dirs.destinationDir, event, env.id result.manifest],
        env.join [dirs.execDir, event])

/-- The disk part of `installHook` for the pod at `home` with the manifest `manifest`: nothing
when its current manifest has the same SHA, and otherwise the install of the pod, the write of
its current manifest and the links of its scripts into `dir`, up to the first error. -/
def installAt (env : HookEnv M) (home dir : String) (manifest : M) : Install M Unit := do
  let current ← check (← currentManifest home) id
  if current.map env.sha = some (env.sha manifest) then
    pure ()
  else
    check (← write (.install home manifest)) id
    check (← write (.writeCurrentManifest home manifest)) id
    check (← write (.installHookScripts dir home manifest)) id

/-- `HookListener.installHook`. -/
def installHook (l : HookListener) (dirs : HookDirs) (env : HookEnv M)
    (result : ManifestResult M) : Install M Unit := do
  let (home, dir) ← check (hookTarget l dirs env result) id
  installAt env home dir result.manifest

/-! ### Running the disk calls -/

@[simp]
theorem Disk.pop_effects (d : Disk M) : d.pop.2.effects = d.effects := by
  unfold Disk.pop
  split <;> rfl

/-- A write followed by `k`: `k` on the disk with the effect added, or the error of the write. -/
theorem write_check_bind {α : Type} (e : DiskEffect M) (k : Unit → Install M α) (d : Disk M) :
  (write e >>= fun r => check r id >>= k).run.run d
    = match d.pop.1 with
      | none => (k ()).run.run { d.pop.2 with effects := d.effects ++ [e] }
      | some err => (.error err, d.pop.2)
  := by
  rw [write, modifyGet_bind]
  rcases d.pop.1 with _ | err <;> rfl

/-- A last write: nil with the effect added, or the error of the write. -/
theorem write_check (e : DiskEffect M) (d : Disk M) :
  (write e >>= fun r => check r id).run.run d
    = match d.pop.1 with
      | none => (.ok (), { d.pop.2 with effects := d.effects ++ [e] })
      | some err => (.error err, d.pop.2)
  := by
  rw [write, modifyGet_bind]
  rcases d.pop.1 with _ | err <;> rfl

/-- The writes of `installAt`, in order. -/
def installSteps (home dir : String) (manifest : M) : List (DiskEffect M) :=
  [.install home manifest, .writeCurrentManifest home manifest,
    .installHookScripts dir home manifest]

theorem currentAt_append (home : String) (es : List (DiskEffect M)) (e : DiskEffect M) :
  currentAt home (es ++ [e])
    = match e with
      | .writeCurrentManifest h m => if h = home then some m else currentAt home es
      | _ => currentAt home es
  := by
  rw [currentAt, List.foldl_append]
  rfl

theorem currentAt_append_installSteps (home home' dir : String) (manifest : M)
    (es : List (DiskEffect M)) :
  currentAt home' (es ++ installSteps home dir manifest)
    = if home = home' then some manifest else currentAt home' es
  := by
  simp only [installSteps, currentAt, List.foldl_append, List.foldl_cons, List.foldl_nil]

/-- `installAt` writes the first few of its writes, in order, and nothing else; when it returns
nil it wrote all of them, or none because the current manifest of the pod already had the SHA
of the manifest. -/
theorem installAt_spec (env : HookEnv M) (home dir : String) (manifest : M) (d : Disk M) :
  ∃ k, ((installAt env home dir manifest).run.run d).2.effects
      = d.effects ++ (installSteps home dir manifest).take k
    ∧ (((installAt env home dir manifest).run.run d).1 = .ok () →
      k = 3 ∨ k = 0 ∧ (currentAt home d.effects).map env.sha = some (env.sha manifest))
  := by
  rw [installAt, currentManifest, modifyGet_bind, check_bind]
  rcases d.pop.1 with _ | err <;> dsimp only [outcome]
  · split_ifs with hsame
    · exact ⟨0, by simp, fun _ => .inr ⟨rfl, hsame⟩⟩
    · rw [write_check_bind]
      rcases d.pop.2.pop.1 with _ | e1 <;> dsimp only
      · rw [write_check_bind]
        rcases (Disk.pop _).1 with _ | e2 <;> dsimp only
        · rw [write_check]
          rcases (Disk.pop _).1 with _ | e3 <;> dsimp only
          · exact ⟨3, by simp [installSteps], fun _ => .inl rfl⟩
          · exact ⟨2, by simp [installSteps], nofun⟩
        · exact ⟨1, by simp [installSteps], nofun⟩
      · exact ⟨0, by simp, nofun⟩
  · exact ⟨0, by simp, nofun⟩

/-- Once `installAt` has returned nil, the current manifest of the pod has the SHA of the
manifest. -/
theorem installAt_ok {env : HookEnv M} {home dir : String} {manifest : M} {d d' : Disk M}
    (h : (installAt env home dir manifest).run.run d = (.ok (), d')) :
  (currentAt home d'.effects).map env.sha = some (env.sha manifest)
  := by
  obtain ⟨k, hk, hok⟩ := installAt_spec env home dir manifest d
  rw [h] at hk hok
  rcases hok rfl with rfl | ⟨rfl, hsame⟩
  · rw [hk, show (installSteps home dir manifest).take 3 = installSteps home dir manifest from rfl,
      currentAt_append_installSteps, if_pos rfl, Option.map_some']
  · rwa [hk, List.take_zero, List.append_nil]

/-- `installAt` writes nothing when the current manifest of the pod has the SHA of the
manifest. -/
theorem installAt_of_current {env : HookEnv M} {home dir : String} {manifest : M} {d : Disk M}
    (h : (currentAt home d.effects).map env.sha = some (env.sha manifest)) :
  ((installAt env home dir manifest).run.run d).2.effects = d.effects
  := by
  rw [installAt, currentManifest, modifyGet_bind, check_bind]
  rcases d.pop.1 with _ | err <;> dsimp only [outcome]
  · rw [if_pos (by simpa using h)]
    simp
  · simp

theorem installHook_run (l : HookListener) (dirs : HookDirs) (env : HookEnv M)
    (result : ManifestResult M) (d : Disk M) :
  (installHook l dirs env result).run.run d
    = match hookTarget l dirs env result with
      | .ok (home, dir) => (installAt env home dir result.manifest).run.run d
      | .error err => (.error err, d)
  := by
  rw [installHook, check_bind]
  rcases hookTarget l dirs env result with _ | ⟨home, dir⟩ <;> rfl

/-- Once `installHook` has returned nil for a result, handing it the same result again writes
nothing, whatever the outcomes of the disk calls: the current manifest of its pod now has the
SHA of its manifest, or `CurrentManifest` fails. -/
theorem installHook_idempotent (l : HookListener) (dirs : HookDirs) (env : HookEnv M)
    (result : ManifestResult M) (d d' : Disk M)
    (h : (installHook l dirs env result).run.run d = (.ok (), d'))
    (outcomes : List (Option String)) :
  ((installHook l dirs env result).run.run ⟨d'.effects, outcomes⟩).2.effects = d'.effects
  := by
  revert h
  rw [installHook_run, installHook_run]
  rcases hookTarget l dirs env result with err | ⟨home, dir⟩
  · nofun
  · intro h
    have hcur := installAt_ok h
    exact installAt_of_current hcur

/-- Each run of slashes collapsed into one. -/
def collapseSlashes : List Char → List Char
  | [] => []
  | c :: cs =>
    match collapseSlashes cs with
    | '/' :: rest => if c = '/' then '/' :: rest else c :: '/' :: rest
    | rest => c :: rest

/-- `path.Join` of elements with no `.` or `..` in them and no slash at their end: the non-empty
elements joined with `/`, each run of slashes collapsed into one. -/
def pathJoin (elems : List String) : String :=
  String.mk (collapseSlashes ("/".intercalate (elems.filter (· ≠ ""))).toList)

/-- Hook pods named by their manifest, all authorized, none named like a hook type, each
manifest its own digest, and paths joined as `path.Join` joins them. -/
def plainHooks : HookEnv String := ⟨id, fun _ => none, fun _ => false, id, pathJoin⟩

/-- The hook listener of the examples, watching `/hooks`. -/
def hooksAt : HookListener := ⟨"/hooks"⟩

/-- Where the hook listener of the examples installs hook pods and links their scripts. -/
def hookDirs : HookDirs := ⟨"/data/hooks", "/usr/libexec/hooks"⟩

/-- The hook pod `usercreate`, listed for the event `before_install`. -/
def usercreate : ManifestResult String := ⟨"usercreate", "/hooks/before_install/usercreate"⟩

/-- What installing `usercreate` for `before_install` writes. -/
def usercreateSteps : List (DiskEffect String) :=
  installSteps "/data/hooks/before_install/usercreate" "/usr/libexec/hooks/before_install"
    "usercreate"

theorem installHook_idempotent_usercreate :
  (installHook hooksAt hookDirs plainHooks
      usercreate).run.run ⟨[], []⟩
      = (.ok (), ⟨usercreateSteps, []⟩)
    ∧ ((installHook hooksAt hookDirs plainHooks
        usercreate).run.run
          ⟨usercreateSteps, [some "disk full"]⟩).2.effects = usercreateSteps
  := ⟨rfl, installHook_idempotent hooksAt hookDirs plainHooks
    usercreate ⟨[], []⟩ ⟨usercreateSteps, []⟩ rfl
    [some "disk full"]⟩

/-- A delivery whose `InstallHookScripts` fails has installed the pod and written its current
manifest, and that is enough for the hook to count as up to date: on such a disk the next
delivery of the same result writes nothing, whatever the disk calls do, so its scripts are never
linked by a later delivery. -/
theorem installHook_after_failed_link (l : HookListener) (dirs : HookDirs) (env : HookEnv M)
    (result : ManifestResult M) (home dir : String)
    (ht : hookTarget l dirs env result = .ok (home, dir)) (es : List (DiskEffect M))
    (outcomes : List (Option String)) :
  ((installHook l dirs env result).run.run
      ⟨es ++ [.install home result.manifest, .writeCurrentManifest home result.manifest],
        outcomes⟩).2.effects
    = es ++ [.install home result.manifest, .writeCurrentManifest home result.manifest]
  := by
  rw [installHook_run, ht]
  apply installAt_of_current
  rw [show es ++ [.install home result.manifest, .writeCurrentManifest home result.manifest]
    = es ++ [.install home result.manifest] ++ [.writeCurrentManifest home result.manifest]
    by simp, currentAt_append]
  simp

theorem installHook_after_failed_link_usercreate :
  hookTarget hooksAt hookDirs plainHooks
      usercreate
      = .ok ("/data/hooks/before_install/usercreate", "/usr/libexec/hooks/before_install")
    ∧ ((installHook hooksAt hookDirs plainHooks
        usercreate).run.run
          ⟨[] ++ [.install "/data/hooks/before_install/usercreate" "usercreate",
            .writeCurrentManifest "/data/hooks/before_install/usercreate" "usercreate"],
            [none]⟩).2.effects
      = [] ++ [.install "/data/hooks/before_install/usercreate" "usercreate",
          .writeCurrentManifest "/data/hooks/before_install/usercreate" "usercreate"]
  := ⟨rfl, installHook_after_failed_link hooksAt hookDirs
    plainHooks usercreate _ _ rfl [] [none]⟩

/-! ### What a hook pod needs to be written -/

/-- A result `installHook` may write to the disk for, at `home` and with its scripts linked into
`dir`: the policy authorizes its manifest, `determineEvent` gives an event for the path it is
listed at, it is not a global hook whose ID names a hook type, its home is
`path.Join(DestinationDir, event, ID)` and its scripts go into `filepath.Join(ExecDir, event)`. -/
structure Admitted (l : HookListener) (dirs : HookDirs) (env : HookEnv M) (home dir : String)
    (result : ManifestResult M) : Prop where
  authorized : env.authorizeHook result.manifest = none
  listed : ∃ event, l.determineEvent result.path = .ok event
    ∧ ¬ (event = "" ∧ env.isHookType (env.id result.manifest))
    ∧ home = env.join [dirs.destinationDir, event, env.id result.manifest]
    ∧ dir = env.join [dirs.execDir, event]

theorem hookTarget_ok {l : HookListener} {dirs : HookDirs} {env : HookEnv M}
    {result : ManifestResult M} {home dir : String}
    (h : hookTarget l dirs env result = .ok (home, dir)) :
  Admitted l dirs env home dir result
  := by
  unfold hookTarget at h
  split at h
  · cases h
  · rename_i hauth
    split at h
    · cases h
    · rename_i event hevent
      split_ifs at h with hglobal
      cases h
      exact ⟨hauth, event, hevent, hglobal, rfl, rfl⟩

/-- The disk log is a sequence of calls of `installHook`, one per chunk, each for a result of
`delivered`, in the order they were delivered, and each of which wrote, for an admitted result,
the first few of its writes, in order. -/
def Written (l : HookListener) (dirs : HookDirs) (env : HookEnv M)
    (delivered : List (ManifestResult M)) (es : List (DiskEffect M)) : Prop :=
  ∃ chunks : List (ManifestResult M × List (DiskEffect M)),
    es = (chunks.map (·.2)).flatten ∧ (chunks.map (·.1)).Sublist delivered
      ∧ ∀ c ∈ chunks, ∃ home dir, Admitted l dirs env home dir c.1
        ∧ c.2 <+: installSteps home dir c.1.manifest

theorem Written.append_delivered {l : HookListener} {dirs : HookDirs} {env : HookEnv M}
    {delivered : List (ManifestResult M)} {es : List (DiskEffect M)}
    (h : Written l dirs env delivered es) (more : List (ManifestResult M)) :
  Written l dirs env (delivered ++ more) es
  := by
  obtain ⟨chunks, hes, hsub, hchunks⟩ := h
  exact ⟨chunks, hes, hsub.trans (List.sublist_append_left _ _), hchunks⟩

/-- A call for a newly delivered admitted result that wrote the first few of its writes extends
the log by one chunk. -/
theorem Written.append_chunk {l : HookListener} {dirs : HookDirs} {env : HookEnv M}
    {delivered : List (ManifestResult M)} {es : List (DiskEffect M)}
    (h : Written l dirs env delivered es) {home dir : String} {result : ManifestResult M}
    (ha : Admitted l dirs env home dir result) {steps : List (DiskEffect M)}
    (hs : steps <+: installSteps home dir result.manifest) :
  Written l dirs env (delivered ++ [result]) (es ++ steps)
  := by
  obtain ⟨chunks, rfl, hsub, hchunks⟩ := h
  refine ⟨chunks ++ [(result, steps)], ?_, ?_, ?_⟩
  · rw [List.map_append, List.flatten_append, List.map_singleton, List.flatten_singleton]
  · rw [List.map_append, List.map_singleton]
    exact hsub.append (List.Sublist.refl _)
  · intro c hc
    rcases List.mem_append.1 hc with hc | hc
    · exact hchunks c hc
    · rw [List.mem_singleton.1 hc]
      exact ⟨home, dir, ha, hs⟩

theorem Written.installHook {l : HookListener} {dirs : HookDirs} {env : HookEnv M}
    {delivered : List (ManifestResult M)} {d : Disk M} (h : Written l dirs env delivered d.effects)
    (result : ManifestResult M) :
  Written l dirs env (delivered ++ [result])
    ((P2.Preparer.installHook l dirs env result).run.run d).2.effects
  := by
  rw [installHook_run]
  rcases ht : hookTarget l dirs env result with err | ⟨home, dir⟩
  · exact h.append_delivered [result]
  · obtain ⟨k, hk, -⟩ := installAt_spec env home dir result.manifest d
    rw [hk]
    exact h.append_chunk (hookTarget_ok ht) (List.take_prefix _ _)

/-! ### The loop of `Sync` -/

/-- The state of `Sync`: whether it is still in its loop, the disk, the errors it sent on
`errCh`, oldest first, and whether it sent on `watcherQuit`. -/
structure SyncState (M : Type) where
  running : Bool
  disk : Disk M
  errCh : List String
  watcherQuit : Bool

/-- `Sync` as it enters its loop, with nothing written to the disk yet and the disk calls to come
failing as `outcomes` says. -/
def SyncState.init (outcomes : List (Option String)) : SyncState M :=
  ⟨true, ⟨[], outcomes⟩, [], false⟩

/-- What the `select` of `Sync` receives. -/
inductive SyncEvent (M : Type) where
  /-- from `quit` -/
  | quit
  /-- the error `err` from `watcherErrCh` -/
  | watchError (err : String)
  /-- the manifests `results` from `podChan` -/
  | results (results : List (ManifestResult M))

/-- The results an event hands to `Sync`: those of a batch from `podChan`, none otherwise. -/
def SyncEvent.batch : SyncEvent M → List (ManifestResult M)
  | .results batch => batch
  | _ => []

/-- One turn of the loop over a batch: `installHook` for `result`, and its error, if any, sent on
`errCh`. -/
def installAndReport (l : HookListener) (dirs : HookDirs) (env : HookEnv M)
    (acc : Disk M × List String) (result : ManifestResult M) : Disk M × List String :=
  match (installHook l dirs env result).run.run acc.1 with
  | (.ok (), d) => (d, acc.2)
  | (.error err, d) => (d, acc.2 ++ [err])

/-- A turn leaves the disk as `installHook` leaves it, whether or not it returned an error. -/
theorem installAndReport_fst (l : HookListener) (dirs : HookDirs) (env : HookEnv M)
    (acc : Disk M × List String) (result : ManifestResult M) :
  (installAndReport l dirs env acc result).1 = ((installHook l dirs env result).run.run acc.1).2
  := by
  unfold installAndReport
  rcases (installHook l dirs env result).run.run acc.1 with ⟨_ | ⟨⟩, d⟩ <;> rfl

/-- What `Sync` does with what its `select` receives, while it is in its loop. -/
def SyncState.step (l : HookListener) (dirs : HookDirs) (env : HookEnv M) (s : SyncState M) :
    SyncEvent M → Option (SyncState M)
  | .quit => if s.running then some { s with running := false, watcherQuit := true } else none
  | .watchError err => if s.running then some { s with errCh := s.errCh ++ [err] } else none
  | .results results =>
    if s.running then
      some { s with disk := (results.foldl (installAndReport l dirs env) (s.disk, s.errCh)).1,
                    errCh := (results.foldl (installAndReport l dirs env) (s.disk, s.errCh)).2 }
    else none

/-- `Sync` after receiving `evs`, those that come after it left its loop ignored. -/
def SyncState.run (l : HookListener) (dirs : HookDirs) (env : HookEnv M) (s : SyncState M)
    (evs : List (SyncEvent M)) : SyncState M :=
  evs.foldl (fun s ev => (s.step l dirs env ev).getD s) s

theorem Written.foldl_installAndReport {l : HookListener} {dirs : HookDirs} {env : HookEnv M}
    (results : List (ManifestResult M)) {delivered : List (ManifestResult M)}
    {acc : Disk M × List String} (h : Written l dirs env delivered acc.1.effects) :
  Written l dirs env (delivered ++ results)
    (results.foldl (installAndReport l dirs env) acc).1.effects
  := by
  induction results generalizing acc delivered with
  | nil => simpa using h
  | cons result results ih =>
    rw [← List.singleton_append, ← List.append_assoc]
    apply ih
    rw [installAndReport_fst]
    exact h.installHook result

/-- What a step of `Sync` does to the disk: the turns of the loop over the batch it receives,
and nothing for any other event. -/
theorem SyncState.step_disk {l : HookListener} {dirs : HookDirs} {env : HookEnv M}
    {s s' : SyncState M} {ev : SyncEvent M} (hs : s.step l dirs env ev = some s') :
  s'.disk = (ev.batch.foldl (installAndReport l dirs env) (s.disk, s.errCh)).1
  := by
  cases ev <;> simp only [SyncState.step] at hs <;>
    obtain ⟨-, ⟨⟩⟩ := Option.ite_none_right_eq_some.1 hs <;> rfl

theorem Written.step {l : HookListener} {dirs : HookDirs} {env : HookEnv M}
    {delivered : List (ManifestResult M)} {s s' : SyncState M} {ev : SyncEvent M}
    (h : Written l dirs env delivered s.disk.effects) (hs : s.step l dirs env ev = some s') :
  Written l dirs env (delivered ++ ev.batch) s'.disk.effects
  := by
  rw [SyncState.step_disk hs]
  exact Written.foldl_installAndReport ev.batch h

/-- A run of `Sync` writes only for the results its events delivered, in the order they came. -/
theorem Written.run {l : HookListener} {dirs : HookDirs} {env : HookEnv M}
    {delivered : List (ManifestResult M)} {s : SyncState M}
    (h : Written l dirs env delivered s.disk.effects) (evs : List (SyncEvent M)) :
  Written l dirs env (delivered ++ evs.flatMap SyncEvent.batch)
    (SyncState.run l dirs env s evs).disk.effects
  := by
  have hcat : ∀ (done : List (SyncEvent M)) ev, delivered ++ (done ++ [ev]).flatMap SyncEvent.batch
      = delivered ++ done.flatMap SyncEvent.batch ++ ev.batch := by
    simp
  refine foldl_getD_induction_on (SyncState.step l dirs env)
    (fun done s => Written l dirs env (delivered ++ done.flatMap SyncEvent.batch) s.disk.effects)
    (fun done _ ev _ h hs => ?_) (fun done _ ev h _ => ?_) (by simpa using h) evs
  · -- a step the loop takes writes for the results it was handed
    dsimp only
    rw [hcat]
    exact h.step hs
  · -- an event after the loop is ignored
    dsimp only
    rw [hcat]
    exact h.append_delivered ev.batch

/-- What every step of `Sync` keeps holds after every run. -/
theorem SyncState.run_induction {l : HookListener} {dirs : HookDirs} {env : HookEnv M}
    (P : SyncState M → Prop) (hstep : ∀ s s' ev, P s → s.step l dirs env ev = some s' → P s')
    {s : SyncState M} (h : P s) (evs : List (SyncEvent M)) :
  P (SyncState.run l dirs env s evs)
  := foldl_getD_induction (SyncState.step l dirs env) P (fun s ev s' => hstep s s' ev) h evs

/-- In every run of `Sync`, whatever the intent store sends and whatever the disk calls do, the
disk log is a sequence of calls of `installHook`, one for each of some of the results the store
delivered, in the order they were delivered. Each wrote, for a result whose manifest the policy
authorizes, at the home of the event `determineEvent` gives for the path the result is listed
at, and not for a global hook whose ID names a hook type, the install of the pod, then its
current manifest, then the links of its scripts, and stopped at its first failure: a current
manifest is written only right after its pod was installed, and scripts are linked only right
after that. -/
theorem run_writes_admitted_hooks (l : HookListener) (dirs : HookDirs) (env : HookEnv M)
    (outcomes : List (Option String)) (evs : List (SyncEvent M)) :
  ∃ chunks : List (ManifestResult M × List (DiskEffect M)),
    (SyncState.run l dirs env (SyncState.init outcomes) evs).disk.effects
        = (chunks.map (·.2)).flatten
      ∧ (chunks.map (·.1)).Sublist (evs.flatMap SyncEvent.batch)
      ∧ ∀ c ∈ chunks, ∃ home dir, Admitted l dirs env home dir c.1
        ∧ c.2 <+: [.install home c.1.manifest, .writeCurrentManifest home c.1.manifest,
          .installHookScripts dir home c.1.manifest]
  := by
  have h : Written l dirs env [] (SyncState.init outcomes : SyncState M).disk.effects :=
    ⟨[], rfl, List.Sublist.slnil, by simp⟩
  have hrun := h.run evs
  rw [List.nil_append] at hrun
  exact hrun

/-! ### On a disk whose calls all succeed -/

/-- The error `installHook` returns for `result` before it touches the disk, if it refuses it:
an unauthorized hook, a path `determineEvent` rejects, or a global hook named like a hook type. -/
def refusal (l : HookListener) (dirs : HookDirs) (env : HookEnv M) (result : ManifestResult M) :
    Option String :=
  match hookTarget l dirs env result with
  | .error err => some err
  | .ok _ => none

/-- What `Sync` is meant to send on `errCh` for an event when no disk call fails: the watcher's
error, or the refusals of the batch's results, in order. -/
def reported (l : HookListener) (dirs : HookDirs) (env : HookEnv M) : SyncEvent M → List String
  | .quit => []
  | .watchError err => [err]
  | .results results => results.filterMap (refusal l dirs env)

/-- Every result of `seen` that `hookTarget` admits has at its home a current manifest with the
SHA of its own manifest. -/
def UpToDate (l : HookListener) (dirs : HookDirs) (env : HookEnv M)
    (seen : List (ManifestResult M)) (es : List (DiskEffect M)) : Prop :=
  ∀ r ∈ seen, ∀ target, hookTarget l dirs env r = .ok target →
    (currentAt target.1 es).map env.sha = some (env.sha r.manifest)

/-- No two results of `results` that `hookTarget` admits at one home have manifests of different
SHAs. Two such results would be installed over each other at every delivery. -/
def OneManifestPerHome (l : HookListener) (dirs : HookDirs) (env : HookEnv M)
    (results : List (ManifestResult M)) : Prop :=
  ∀ r₁ ∈ results, ∀ r₂ ∈ results, ∀ t₁ t₂, hookTarget l dirs env r₁ = .ok t₁ →
    hookTarget l dirs env r₂ = .ok t₂ → t₁.1 = t₂.1 → env.sha r₁.manifest = env.sha r₂.manifest

/-- Whether `Sync` receives from `quit`. -/
def SyncEvent.isQuit : SyncEvent M → Bool
  | .quit => true
  | _ => false

section Succeeding

variable {l : HookListener} {dirs : HookDirs} {env : HookEnv M}

/-- On a disk whose calls all succeed, `installAt` returns nil, having written nothing when the
current manifest of the pod has the SHA of the manifest, and all its writes otherwise. -/
theorem installAt_of_outcomes_nil (home dir : String) (manifest : M) {d : Disk M}
    (h : d.outcomes = []) :
  (installAt env home dir manifest).run.run d
    = (.ok (), if (currentAt home d.effects).map env.sha = some (env.sha manifest) then d
        else { d with effects := d.effects ++ installSteps home dir manifest })
  := by
  obtain ⟨effects, outcomes⟩ := d
  obtain rfl : outcomes = [] := h
  rw [installAt, currentManifest, modifyGet_bind, check_bind]
  dsimp only [Disk.pop, outcome]
  split_ifs
  · rfl
  · rw [write_check_bind, write_check_bind, write_check]
    simp only [Disk.pop, installSteps, List.append_assoc, List.cons_append, List.nil_append]

/-- On a disk whose calls all succeed, one turn of the loop over a batch installs the result
where `hookTarget` puts it, as `installAt_of_outcomes_nil` says, or leaves the disk as it is when
`hookTarget` refuses it. -/
theorem installAndReport_of_outcomes_nil (acc : Disk M × List String) (result : ManifestResult M)
    (h : acc.1.outcomes = []) :
  (installAndReport l dirs env acc result).1
    = match hookTarget l dirs env result with
      | .ok (home, dir) =>
        if (currentAt home acc.1.effects).map env.sha = some (env.sha result.manifest) then acc.1
        else { acc.1 with effects := acc.1.effects ++ installSteps home dir result.manifest }
      | .error _ => acc.1
  := by
  rw [installAndReport_fst, installHook_run]
  rcases hookTarget l dirs env result with err | ⟨home, dir⟩
  · rfl
  · dsimp only
    rw [installAt_of_outcomes_nil home dir _ h]

theorem outcomes_installAndReport (acc : Disk M × List String) (result : ManifestResult M)
    (h : acc.1.outcomes = []) :
  (installAndReport l dirs env acc result).1.outcomes = []
  := by
  rw [installAndReport_of_outcomes_nil acc result h]
  split
  · split_ifs <;> exact h
  · exact h

/-- A turn for a result that `hookTarget` puts at `home` leaves there a current manifest with
the SHA of the result's manifest. -/
theorem currentAt_installAndReport_self {acc : Disk M × List String} {result : ManifestResult M}
    {home dir : String} (ht : hookTarget l dirs env result = .ok (home, dir))
    (h : acc.1.outcomes = []) :
  (currentAt home (installAndReport l dirs env acc result).1.effects).map env.sha
    = some (env.sha result.manifest)
  := by
  rw [installAndReport_of_outcomes_nil acc result h, ht]
  dsimp only
  split_ifs with hsame
  · exact hsame
  · rw [currentAt_append_installSteps, if_pos rfl, Option.map_some']

/-- A turn for a result that `hookTarget` puts elsewhere, or refuses, leaves the current
manifest at `home` as it was. -/
theorem currentAt_installAndReport_of_ne {acc : Disk M × List String} {result : ManifestResult M}
    {home : String} (hne : ∀ target, hookTarget l dirs env result = .ok target → target.1 ≠ home)
    (h : acc.1.outcomes = []) :
  currentAt home (installAndReport l dirs env acc result).1.effects = currentAt home acc.1.effects
  := by
  rw [installAndReport_of_outcomes_nil acc result h]
  rcases ht : hookTarget l dirs env result with err | ⟨home', dir⟩
  · rfl
  · dsimp only
    split_ifs
    · rfl
    · rw [currentAt_append_installSteps, if_neg (hne _ ht)]

theorem errCh_installAndReport (acc : Disk M × List String) (result : ManifestResult M)
    (h : acc.1.outcomes = []) :
  (installAndReport l dirs env acc result).2 = acc.2 ++ (refusal l dirs env result).toList
  := by
  unfold installAndReport refusal
  rw [installHook_run]
  rcases hookTarget l dirs env result with err | ⟨home, dir⟩
  · rfl
  · dsimp only
    rw [installAt_of_outcomes_nil home dir _ h, Option.toList_none, List.append_nil]

theorem errCh_foldl_installAndReport (results : List (ManifestResult M))
    {acc : Disk M × List String} (h : acc.1.outcomes = []) :
  (results.foldl (installAndReport l dirs env) acc).2
    = acc.2 ++ results.filterMap (refusal l dirs env)
  := by
  induction results generalizing acc with
  | nil => simp
  | cons result results ih =>
    rw [List.foldl_cons, ih (outcomes_installAndReport acc result h),
      errCh_installAndReport acc result h, List.filterMap_cons]
    cases refusal l dirs env result <;> simp

theorem outcomes_foldl_installAndReport (results : List (ManifestResult M))
    {acc : Disk M × List String} (h : acc.1.outcomes = []) :
  (results.foldl (installAndReport l dirs env) acc).1.outcomes = []
  := by
  induction results generalizing acc with
  | nil => exact h
  | cons result results ih => exact ih (outcomes_installAndReport acc result h)

theorem currentAt_foldl_installAndReport_of_ne {home : String} (results : List (ManifestResult M))
    (hne : ∀ r ∈ results, ∀ target, hookTarget l dirs env r = .ok target → target.1 ≠ home)
    {acc : Disk M × List String} (h : acc.1.outcomes = []) :
  currentAt home (results.foldl (installAndReport l dirs env) acc).1.effects
    = currentAt home acc.1.effects
  := by
  induction results generalizing acc with
  | nil => rfl
  | cons result results ih =>
    rw [List.foldl_cons, ih (fun r hr => hne r (List.mem_cons_of_mem _ hr))
      (outcomes_installAndReport acc result h)]
    exact currentAt_installAndReport_of_ne (hne result (List.mem_cons_self _ _)) h

theorem SyncState.run_concat (s : SyncState M) (evs : List (SyncEvent M)) (ev : SyncEvent M) :
  SyncState.run l dirs env s (evs ++ [ev])
    = ((SyncState.run l dirs env s evs).step l dirs env ev).getD (SyncState.run l dirs env s evs)
  := foldl_getD_concat (SyncState.step l dirs env) s evs ev

theorem outcomes_run (evs : List (SyncEvent M)) {s : SyncState M} (h : s.disk.outcomes = []) :
  (SyncState.run l dirs env s evs).disk.outcomes = []
  := by
  refine SyncState.run_induction (fun s => s.disk.outcomes = []) (fun s s' ev h hs => ?_) h evs
  dsimp only
  rw [SyncState.step_disk hs]
  exact outcomes_foldl_installAndReport ev.batch h

/-- From a state in the loop whose disk calls all succeed, a batch leaves at the home of each
result `hookTarget` admits a current manifest with the SHA of the last manifest of the batch put
at that home, whatever the disk held before. -/
theorem SyncState.step_results_currentAt {s : SyncState M} (hrun : s.running = true)
    (hd : s.disk.outcomes = []) (pre post : List (ManifestResult M)) {r : ManifestResult M}
    {home dir : String} (ht : hookTarget l dirs env r = .ok (home, dir))
    (hpost : ∀ r' ∈ post, ∀ target, hookTarget l dirs env r' = .ok target → target.1 ≠ home) :
  (currentAt home ((s.step l dirs env (.results (pre ++ r :: post))).getD s).disk.effects).map
      env.sha
    = some (env.sha r.manifest)
  := by
  have hpre : (pre.foldl (installAndReport l dirs env) (s.disk, s.errCh)).1.outcomes = [] :=
    outcomes_foldl_installAndReport pre hd
  simp only [SyncState.step, hrun, if_true, Option.getD_some, List.foldl_append, List.foldl_cons]
  rw [currentAt_foldl_installAndReport_of_ne post hpost (outcomes_installAndReport _ r hpre)]
  exact currentAt_installAndReport_self ht hpre

/-- From any start, once the disk calls have stopped failing, the next batch `Sync` handles in
its loop leaves at the home of each result `hookTarget` admits a current manifest with the SHA of
the last manifest of the batch put at that home. -/
theorem SyncState.run_results_currentAt (s : SyncState M) (evs : List (SyncEvent M))
    (hrun : (SyncState.run l dirs env s evs).running = true)
    (hd : (SyncState.run l dirs env s evs).disk.outcomes = []) (pre post : List (ManifestResult M))
    {r : ManifestResult M} {home dir : String} (ht : hookTarget l dirs env r = .ok (home, dir))
    (hpost : ∀ r' ∈ post, ∀ target, hookTarget l dirs env r' = .ok target → target.1 ≠ home) :
  (currentAt home (SyncState.run l dirs env s
      (evs ++ [.results (pre ++ r :: post)])).disk.effects).map env.sha
    = some (env.sha r.manifest)
  := by
  rw [SyncState.run_concat]
  exact SyncState.step_results_currentAt hrun hd pre post ht hpost

/-- Every pod with a current manifest has the scripts of that manifest linked. -/
def ScriptsLinked (es : List (DiskEffect M)) : Prop :=
  ∀ home m, currentAt home es = some m → ∃ dir, .installHookScripts dir home m ∈ es

theorem ScriptsLinked.append_installSteps {es : List (DiskEffect M)} (h : ScriptsLinked es)
    (home dir : String) (manifest : M) :
  ScriptsLinked (es ++ installSteps home dir manifest)
  := by
  intro home' m hcur
  rw [currentAt_append_installSteps] at hcur
  split_ifs at hcur with hhome
  · cases hcur
    exact ⟨dir, by simp [installSteps, hhome]⟩
  · obtain ⟨dir', hmem⟩ := h home' m hcur
    exact ⟨dir', List.mem_append_left _ hmem⟩

theorem ScriptsLinked.foldl_installAndReport (results : List (ManifestResult M))
    {acc : Disk M × List String} (h : ScriptsLinked acc.1.effects) (hnil : acc.1.outcomes = []) :
  ScriptsLinked (results.foldl (installAndReport l dirs env) acc).1.effects
  := by
  induction results generalizing acc with
  | nil => exact h
  | cons result results ih =>
    refine ih ?_ (outcomes_installAndReport acc result hnil)
    rw [installAndReport_of_outcomes_nil acc result hnil]
    split
    · split_ifs
      · exact h
      · exact h.append_installSteps _ _ _
    · exact h

theorem SyncState.run_of_not_running {s : SyncState M} (h : s.running = false)
    (evs : List (SyncEvent M)) :
  SyncState.run l dirs env s evs = s
  := by
  refine SyncState.run_induction (· = s) (fun _ _ ev (hs' : _ = s) hs => ?_) rfl evs
  -- no step is enabled once the loop is left
  subst hs'
  cases ev <;> simp [SyncState.step, h] at hs

theorem errCh_run (evs : List (SyncEvent M)) {s : SyncState M} (hrun : s.running = true)
    (h : s.disk.outcomes = []) :
  (SyncState.run l dirs env s evs).errCh
    = s.errCh ++ (evs.takeWhile fun ev => !ev.isQuit).flatMap (reported l dirs env)
  := by
  induction evs generalizing s with
  | nil => simp [SyncState.run]
  | cons ev evs ih =>
    rw [SyncState.run, List.foldl_cons, ← SyncState.run]
    cases ev with
    | quit =>
      simp only [SyncState.step, hrun, if_true, Option.getD_some]
      rw [SyncState.run_of_not_running rfl]
      simp [SyncEvent.isQuit]
    | watchError err =>
      simp only [SyncState.step, hrun, if_true, Option.getD_some]
      rw [ih]
      · simp [SyncEvent.isQuit, reported]
      · rfl
      · exact h
    | results results =>
      simp only [SyncState.step, hrun, if_true, Option.getD_some]
      have hd : (results.foldl (installAndReport l dirs env) (s.disk, s.errCh)).1.outcomes = [] :=
        outcomes_foldl_installAndReport results h
      have he : (results.foldl (installAndReport l dirs env) (s.disk, s.errCh)).2
          = s.errCh ++ results.filterMap (refusal l dirs env) :=
        errCh_foldl_installAndReport results h
      rw [ih, he]
      · simp [SyncEvent.isQuit, reported]
      · rfl
      · exact hd

/-- One turn, on a disk whose calls all succeed, brings its result up to date and keeps up to
date the results seen before, when no two of them share a home with different manifests. -/
theorem UpToDate.turn {all : List (ManifestResult M)}
    (hone : OneManifestPerHome l dirs env all) {seen : List (ManifestResult M)}
    (hseen : ∀ r ∈ seen, r ∈ all) {r : ManifestResult M} (hr : r ∈ all)
    {acc : Disk M × List String} (h : UpToDate l dirs env seen acc.1.effects)
    (hnil : acc.1.outcomes = []) :
  UpToDate l dirs env (seen ++ [r]) (installAndReport l dirs env acc r).1.effects
  := by
  intro r' hr' t' ht'
  have hr'all : r' ∈ all :=
    (List.mem_append.1 hr').elim (hseen r') fun h => List.mem_singleton.1 h ▸ hr
  by_cases hsame : ∃ dir, hookTarget l dirs env r = .ok (t'.1, dir)
  · -- the turn installs `r` at the home of `r'`
    obtain ⟨dir, ht⟩ := hsame
    rw [currentAt_installAndReport_self ht hnil, hone r' hr'all r hr _ _ ht' ht rfl]
  · -- the turn leaves the home of `r'` alone, and `r'` is not `r`
    rw [currentAt_installAndReport_of_ne (fun t ht hh => hsame ⟨t.2, by rw [ht, ← hh]⟩) hnil]
    rcases List.mem_append.1 hr' with hr' | hr'
    · exact h r' hr' t' ht'
    · exact absurd ⟨t'.2, List.mem_singleton.1 hr' ▸ ht'⟩ hsame

/-- Handling a batch, on a disk whose calls all succeed, brings every result of it up to date,
and keeps up to date the results seen before, when no two of them share a home with different
manifests. -/
theorem UpToDate.foldl_installAndReport {all : List (ManifestResult M)}
    (hone : OneManifestPerHome l dirs env all) (results : List (ManifestResult M))
    (hresults : ∀ r ∈ results, r ∈ all) {seen : List (ManifestResult M)}
    (hseen : ∀ r ∈ seen, r ∈ all) {acc : Disk M × List String}
    (h : UpToDate l dirs env seen acc.1.effects) (hnil : acc.1.outcomes = []) :
  UpToDate l dirs env (seen ++ results) (results.foldl (installAndReport l dirs env) acc).1.effects
  := by
  induction results generalizing seen acc with
  | nil => simpa using h
  | cons r rs ih =>
    have hr : r ∈ all := hresults r (List.mem_cons_self _ _)
    have := ih (fun r' hr' => hresults r' (List.mem_cons_of_mem _ hr'))
      (fun r' hr' => (List.mem_append.1 hr').elim (hseen r') fun h => List.mem_singleton.1 h ▸ hr)
      (h.turn hone hseen hr hnil) (outcomes_installAndReport acc r hnil)
    rwa [List.append_assoc, List.singleton_append] at this

/-- On a disk whose calls all succeed, a batch whose results are all up to date writes
nothing. -/
theorem disk_foldl_installAndReport_of_upToDate (results : List (ManifestResult M))
    {acc : Disk M × List String} (h : UpToDate l dirs env results acc.1.effects)
    (hnil : acc.1.outcomes = []) :
  (results.foldl (installAndReport l dirs env) acc).1 = acc.1
  := by
  induction results generalizing acc with
  | nil => rfl
  | cons r rs ih =>
    have hr : (installAndReport l dirs env acc r).1 = acc.1 := by
      rw [installAndReport_of_outcomes_nil acc r hnil]
      rcases ht : hookTarget l dirs env r with err | ⟨home, dir⟩
      · rfl
      · exact if_pos (h r (List.mem_cons_self _ _) _ ht)
    rw [List.foldl_cons, ih (by rw [hr]; exact fun r' hr' => h r' (List.mem_cons_of_mem _ hr'))
      (by rw [hr]; exact hnil), hr]

end Succeeding

/-- When no disk call fails, `Sync` sends on `errCh` exactly what it is meant to, and nothing
else: every error of the watcher and every refusal of `installHook` (an unauthorized hook, a
path `determineEvent` rejects, a global hook named like a hook type), in the order their events
came, until it receives from `quit`. -/
theorem run_reports_refusals (l : HookListener) (dirs : HookDirs) (env : HookEnv M)
    (evs : List (SyncEvent M)) :
  (SyncState.run l dirs env (SyncState.init []) evs).errCh
    = (evs.takeWhile fun ev => !ev.isQuit).flatMap (reported l dirs env)
  := by
  rw [errCh_run evs rfl rfl]
  rfl

/-- When no disk call fails, `Sync` handed the same batch twice in a row writes nothing the second
time, after any earlier events, as long as no two hooks of the batch share a home with different
manifests: the intent store may send its listing again and again without a hook being
reinstalled. -/
theorem run_redelivery_writes_nothing (l : HookListener) (dirs : HookDirs) (env : HookEnv M)
    (evs : List (SyncEvent M)) (results : List (ManifestResult M))
    (hrun : (SyncState.run l dirs env (SyncState.init []) evs).running = true)
    (hone : OneManifestPerHome l dirs env results) :
  (SyncState.run l dirs env (SyncState.init [])
      (evs ++ [.results results, .results results])).disk
    = (SyncState.run l dirs env (SyncState.init []) (evs ++ [.results results])).disk
  := by
  have hd : (SyncState.run l dirs env (SyncState.init []) evs).disk.outcomes = [] :=
    outcomes_run evs rfl
  rw [show evs ++ [.results results, .results results]
      = evs ++ [.results results] ++ [.results results] by simp,
    SyncState.run_concat, SyncState.run_concat]
  generalize SyncState.run l dirs env (SyncState.init []) evs = s at hrun hd
  have hnil : (results.foldl (installAndReport l dirs env) (s.disk, s.errCh)).1.outcomes = [] :=
    outcomes_foldl_installAndReport results hd
  have hup := UpToDate.foldl_installAndReport hone results (fun _ h => h) (fun _ h => by cases h)
    (show UpToDate l dirs env [] (s.disk, s.errCh).1.effects from fun _ h => by cases h) hd
  rw [List.nil_append] at hup
  simp only [SyncState.step, hrun, if_true, Option.getD_some]
  exact disk_foldl_installAndReport_of_upToDate results hup hnil

theorem run_redelivery_writes_nothing_usercreate :
  (SyncState.run hooksAt hookDirs plainHooks
      (SyncState.init []) []).running = true
    ∧ OneManifestPerHome hooksAt hookDirs plainHooks
        [usercreate]
    ∧ (SyncState.run hooksAt hookDirs plainHooks
        (SyncState.init [])
        ([] ++ [.results [usercreate],
          .results [usercreate]])).disk
      = (SyncState.run hooksAt hookDirs plainHooks
        (SyncState.init [])
        ([] ++ [.results [usercreate]])).disk
  := by
  have hone : OneManifestPerHome hooksAt hookDirs plainHooks
      [usercreate] := by
    intro r₁ h₁ r₂ h₂ _ _ _ _ _
    rw [List.mem_singleton.1 h₁, List.mem_singleton.1 h₂]
  exact ⟨rfl, hone, run_redelivery_writes_nothing hooksAt hookDirs
    plainHooks [] _ rfl hone⟩

/-- When no disk call fails, in every run of `Sync` every hook pod with a current manifest has
the scripts of that manifest linked: a pod is left with its scripts unlinked only by a failed
disk call. -/
theorem run_links_current_hooks (l : HookListener) (dirs : HookDirs) (env : HookEnv M)
    (evs : List (SyncEvent M)) (home : String) (m : M)
    (hcur : currentAt home (SyncState.run l dirs env (SyncState.init []) evs).disk.effects = some m) :
  ∃ dir, .installHookScripts dir home m
    ∈ (SyncState.run l dirs env (SyncState.init []) evs).disk.effects
  := by
  suffices h : (SyncState.run l dirs env (SyncState.init []) evs).disk.outcomes = []
      ∧ ScriptsLinked (SyncState.run l dirs env (SyncState.init []) evs).disk.effects from
    h.2 home m hcur
  refine SyncState.run_induction (fun s => s.disk.outcomes = [] ∧ ScriptsLinked s.disk.effects)
    (fun s s' ev h hs => ?_) ⟨rfl, fun _ _ h => by cases h⟩ evs
  dsimp only
  rw [SyncState.step_disk hs]
  exact ⟨outcomes_foldl_installAndReport ev.batch h.1,
    ScriptsLinked.foldl_installAndReport ev.batch h.2 h.1⟩

theorem run_links_current_hooks_usercreate :
  currentAt "/data/hooks/before_install/usercreate"
      (SyncState.run hooksAt hookDirs plainHooks
        (SyncState.init []) [.results [usercreate]]).disk.effects
      = some "usercreate"
    ∧ ∃ dir, .installHookScripts dir "/data/hooks/before_install/usercreate" "usercreate"
      ∈ (SyncState.run hooksAt hookDirs plainHooks
        (SyncState.init []) [.results [usercreate]]).disk.effects
  := ⟨rfl, run_links_current_hooks hooksAt hookDirs plainHooks
    [.results [usercreate]] _ _ rfl⟩

/-- When no disk call fails, once `Sync`, still in its loop, has handled a batch, every hook pod
of the batch that `installHook` admits has at its home a current manifest with the SHA of the
last manifest of the batch put at that home: `Sync` brings every admitted hook up to date, the
latest listing of a home winning. -/
theorem run_installs_latest (l : HookListener) (dirs : HookDirs) (env : HookEnv M)
    (evs : List (SyncEvent M)) (pre post : List (ManifestResult M)) (r : ManifestResult M)
    (home dir : String) (hrun : (SyncState.run l dirs env (SyncState.init []) evs).running = true)
    (ht : hookTarget l dirs env r = .ok (home, dir))
    (hpost : ∀ r' ∈ post, ∀ target, hookTarget l dirs env r' = .ok target → target.1 ≠ home) :
  (currentAt home (SyncState.run l dirs env (SyncState.init [])
      (evs ++ [.results (pre ++ r :: post)])).disk.effects).map env.sha
    = some (env.sha r.manifest)
  := SyncState.run_results_currentAt _ evs hrun (outcomes_run evs rfl) pre post ht hpost

/-- Hook pods whose manifests are a name and a version, the version part of their digest. -/
def versionedHooks : HookEnv (String × String) :=
  ⟨Prod.fst, fun _ => none, fun _ => false, fun m => m.1 ++ "@" ++ m.2, pathJoin⟩

/-- The hook pod `usercreate` at version `v`, listed for the event `before_install`. -/
def usercreateAt (v : String) : ManifestResult (String × String) :=
  ⟨("usercreate", v), "/hooks/before_install/usercreate"⟩

/-- The hook pod `motd`, listed for the event `after_install`. -/
def motd : ManifestResult (String × String) := ⟨("motd", "v1"), "/hooks/after_install/motd"⟩

/-- A batch that lists `usercreate` at two versions, then `motd` at another home: the later
version of `usercreate` is the one left current at its home. -/
theorem run_installs_latest_usercreate :
  (SyncState.run hooksAt hookDirs versionedHooks (SyncState.init []) []).running = true
    ∧ hookTarget hooksAt hookDirs versionedHooks (usercreateAt "v2")
      = .ok ("/data/hooks/before_install/usercreate", "/usr/libexec/hooks/before_install")
    ∧ (∀ r' ∈ [motd], ∀ target, hookTarget hooksAt hookDirs versionedHooks r' = .ok target →
        target.1 ≠ "/data/hooks/before_install/usercreate")
    ∧ (currentAt "/data/hooks/before_install/usercreate"
        (SyncState.run hooksAt hookDirs versionedHooks (SyncState.init [])
          ([] ++ [.results ([usercreateAt "v1"] ++ usercreateAt "v2" :: [motd])])).disk.effects).map
          versionedHooks.sha
      = some (versionedHooks.sha (usercreateAt "v2").manifest)
  := by
  have hmotd : ∀ r' ∈ [motd], ∀ target, hookTarget hooksAt hookDirs versionedHooks r' = .ok target →
      target.1 ≠ "/data/hooks/before_install/usercreate" := by
    intro r' hr' target ht
    rw [List.mem_singleton.1 hr', show hookTarget hooksAt hookDirs versionedHooks motd
      = .ok ("/data/hooks/after_install/motd", "/usr/libexec/hooks/after_install") from rfl] at ht
    cases ht
    decide
  exact ⟨rfl, rfl, hmotd,
    run_installs_latest _ _ _ [] [usercreateAt "v1"] [motd] _ _ _ rfl rfl hmotd⟩

/-- Whatever disk calls failed before, once they stop failing, the next batch `Sync` handles in
its loop leaves at the home of each hook pod of the batch that `installHook` admits a current
manifest with the SHA of the last manifest of the batch put there: an install cut short, before
or after its pod was installed, is done again by the next delivery. (An install cut short after
its current manifest was written is not: `installHook_after_failed_link`.) -/
theorem run_recovers_after_failures (l : HookListener) (dirs : HookDirs) (env : HookEnv M)
    (outcomes : List (Option String)) (evs : List (SyncEvent M))
    (pre post : List (ManifestResult M)) (r : ManifestResult M) (home dir : String)
    (hrun : (SyncState.run l dirs env (SyncState.init outcomes) evs).running = true)
    (hd : (SyncState.run l dirs env (SyncState.init outcomes) evs).disk.outcomes = [])
    (ht : hookTarget l dirs env r = .ok (home, dir))
    (hpost : ∀ r' ∈ post, ∀ target, hookTarget l dirs env r' = .ok target → target.1 ≠ home) :
  (currentAt home (SyncState.run l dirs env (SyncState.init outcomes)
      (evs ++ [.results (pre ++ r :: post)])).disk.effects).map env.sha
    = some (env.sha r.manifest)
  := SyncState.run_results_currentAt _ evs hrun hd pre post ht hpost

/-- The first delivery of `usercreate` installs the pod, then fails to write its current
manifest; the second installs it again, in full. -/
theorem run_recovers_after_failures_usercreate :
  (SyncState.run hooksAt hookDirs plainHooks
      (SyncState.init [none, none, some "disk full"])
      [.results [usercreate]]).running = true
    ∧ (SyncState.run hooksAt hookDirs plainHooks
        (SyncState.init [none, none, some "disk full"])
        [.results [usercreate]]).disk.outcomes = []
    ∧ hookTarget hooksAt hookDirs plainHooks
        usercreate
      = .ok ("/data/hooks/before_install/usercreate", "/usr/libexec/hooks/before_install")
    ∧ (∀ r' ∈ ([] : List (ManifestResult String)), ∀ target,
        hookTarget hooksAt hookDirs plainHooks r' = .ok target →
          target.1 ≠ "/data/hooks/before_install/usercreate")
    ∧ (currentAt "/data/hooks/before_install/usercreate"
        (SyncState.run hooksAt hookDirs plainHooks
          (SyncState.init [none, none, some "disk full"])
          ([.results [usercreate]]
            ++ [.results ([] ++ usercreate :: [])])).disk.effects).map
          plainHooks.sha
      = some (plainHooks.sha "usercreate")
  := ⟨rfl, rfl, rfl, by simp,
    run_recovers_after_failures _ _ _ _ _ [] [] _ _ _ rfl rfl rfl (by simp)⟩

end P2.Preparer
