import P2.Common
import Mathlib.Data.List.Forall2

/-!
# The receive goroutine of the label store client

`Client.WatchMatches` starts an RPC and a goroutine that reads the stream: each response goes
to `sendOnChannel`, a `Recv` that fails with `Canceled` ends the goroutine, which closes
`outCh`, and any other failure sends it into a loop that sleeps and starts the RPC again until
an attempt succeeds. A second goroutine waits for `quitCh` to be closed and then cancels the
context of the RPCs.

`Goroutine` is the state of the two goroutines and of what they share, and `Goroutine.step`
what can happen next: `quitCh` is closed, the context is cancelled, a `Recv` returns, a call
of `sendOnChannel` returns, or an attempt to restart the RPC returns. A run is any sequence of
these, with any results, so any interleaving of the closing of `quitCh` with the stream's
failures; a step that is not enabled is skipped.

* `run_closes_after_canceled_recv`: in every run, `outCh` is closed only right after a `Recv`
  that failed with `Canceled`, and after that the goroutine does nothing more.
* `run_reconnecting`: the reconnect loop does not look at the context. From inside it, as long
  as the attempts fail, and every attempt fails once the context is cancelled, the goroutine
  stays in the loop and makes one more attempt for each restart, and it never closes `outCh`.

`sendOnChannel` fills a slice of the response's length, match by match, and returns early at
the first label type `labels.AsType` rejects; the label types are given by `LabelTypes`. The loop
is the list of converted matches (`fill_eq`), so `sendOnChannel` sends the whole response or
nothing (`sendOnChannel_sends_whole_response`), and it rejects exactly the responses with a
type name `labels.AsType` does not accept (`sendOnChannel_rejected_iff`).
-/

namespace P2.Grpc

/-- The status codes of gRPC. -/
inductive Code where
  | OK
  | Canceled
  | Unknown
  | InvalidArgument
  | DeadlineExceeded
  | NotFound
  | AlreadyExists
  | PermissionDenied
  | ResourceExhausted
  | FailedPrecondition
  | Aborted
  | OutOfRange
  | Unimplemented
  | Internal
  | Unavailable
  | DataLoss
  | Unauthenticated
  deriving DecidableEq, Repr

/-- What `watchClient.Recv()` returns: a response, or an error with its status code. -/
inductive RecvResult (Resp : Type) where
  | response (resp : Resp)
  | error (c : Code)
  deriving DecidableEq, Repr

/-- `grpc.Code(err)` of what `Recv` returned: `OK` for a response. -/
def RecvResult.code {Resp : Type} : RecvResult Resp → Code
  | .response _ => .OK
  | .error c => c

/-- How a call of `sendOnChannel` returns: it throws the response out for a label type it does
not know, its list is taken off `outCh`, or its `select` takes the closed `quitCh`. -/
inductive SendOutcome where
  | rejected
  | delivered
  | quit
  deriving DecidableEq, Repr

/-- Where the receive goroutine is. -/
inductive Phase (Resp : Type) where
  /-- at the top of its loop, calling `watchClient.Recv()` -/
  | receiving
  /-- in `sendOnChannel` with the response `resp` -/
  | sending (resp : Resp)
  /-- in the loop `for watchClient == nil`, sleeping and calling `WatchMatches` again -/
  | reconnecting
  /-- returned, `outCh` closed -/
  | stopped
  deriving DecidableEq, Repr

/-- What the goroutines do that can be seen from outside. -/
inductive Effect (Resp : Type) where
  /-- `cancelFunc()` -/
  | cancel
  /-- `watchClient.Recv()` returned `result` -/
  | recv (result : RecvResult Resp)
  /-- `sendOnChannel` of the response `resp` returned as `outcome` says -/
  | sendOnChannel (resp : Resp) (outcome : SendOutcome)
  /-- an attempt to start the RPC again, and the code of its error if it failed -/
  | attempt (result : Option Code)
  /-- `close(outCh)` -/
  | closeOutCh
  deriving DecidableEq, Repr

/-- The receive goroutine, whether `quitCh` is closed, whether the context is cancelled, and what
the goroutines did so far. -/
structure Goroutine (Resp : Type) where
  phase : Phase Resp
  quitClosed : Bool
  cancelled : Bool
  effects : List (Effect Resp)
  deriving DecidableEq, Repr

variable {Resp : Type}

/-- The goroutine as `WatchMatches` starts it, after the first RPC succeeded. -/
def Goroutine.init : Goroutine Resp := ⟨.receiving, false, false, []⟩

/-- What can happen next. -/
inductive Action (Resp : Type) where
  /-- `quitCh` is closed -/
  | closeQuit
  /-- the goroutine waiting on `quitCh` calls `cancelFunc()` -/
  | cancel
  /-- `watchClient.Recv()` returns `result` -/
  | recv (result : RecvResult Resp)
  /-- `sendOnChannel` returns as `outcome` says -/
  | send (outcome : SendOutcome)
  /-- after its sleep, the reconnect loop's call of `WatchMatches` returns, with the code of its
  error if it failed -/
  | restart (result : Option Code)
  deriving DecidableEq, Repr

/-- One turn of the receive loop after `Recv` returned `result`. -/
def Goroutine.receive (g : Goroutine Resp) (result : RecvResult Resp) : Goroutine Resp :=
  if result.code = .Canceled then
    { g with phase := .stopped, effects := g.effects ++ [.recv result, .closeOutCh] }
  else
    match result with
    | .error _ => { g with phase := .reconnecting, effects := g.effects ++ [.recv result] }
    | .response resp => { g with phase := .sending resp, effects := g.effects ++ [.recv result] }

/-- What `a` does to the goroutines, if it can happen now. -/
def Goroutine.step (g : Goroutine Resp) : Action Resp → Option (Goroutine Resp)
  | .closeQuit => if g.quitClosed then none else some { g with quitClosed := true }
  | .cancel =>
    if g.quitClosed ∧ ¬ g.cancelled then
      some { g with cancelled := true, effects := g.effects ++ [.cancel] }
    else none
  | .recv result =>
    match g.phase with
    | .receiving => some (g.receive result)
    | _ => none
  | .send outcome =>
    match g.phase with
    | .sending resp =>
      if outcome = .quit ∧ ¬ g.quitClosed then none
      else some { g with phase := .receiving, effects := g.effects ++ [.sendOnChannel resp outcome] }
    | _ => none
  | .restart result =>
    match g.phase with
    | .reconnecting =>
      some { g with phase := if result = none then .receiving else .reconnecting,
                    effects := g.effects ++ [.attempt result] }
    | _ => none

/-- The goroutines after the actions `as`, those that cannot happen when they come skipped. -/
def Goroutine.run (g : Goroutine Resp) (as : List (Action Resp)) : Goroutine Resp :=
  as.foldl (fun g a => (g.step a).getD g) g

theorem Goroutine.run_cons (g : Goroutine Resp) (a : Action Resp) (as : List (Action Resp)) :
  g.run (a :: as) = ((g.step a).getD g).run as
  := rfl

theorem Goroutine.run_concat (g : Goroutine Resp) (as : List (Action Resp)) (a : Action Resp) :
  g.run (as ++ [a]) = ((g.run as).step a).getD (g.run as)
  := foldl_getD_concat Goroutine.step g as a

/-- A property of the goroutines that every step keeps holds after every run. -/
theorem Goroutine.run_induction (P : Goroutine Resp → Prop)
    (hstep : ∀ g g' a, P g → g.step a = some g' → P g') {g : Goroutine Resp} (h : P g)
    (as : List (Action Resp)) :
  P (g.run as)
  := foldl_getD_induction Goroutine.step P (fun g a g' => hstep g g' a) h as

/-- Cancelling the context does not stop the reconnect loop: after a `Recv` fails with
`Unavailable`, `quitCh` is closed and the context cancelled, the attempt to restart the RPC
fails with `Canceled`, and the goroutine sleeps and attempts again, still in the loop and with
`outCh` open. -/
theorem run_restarts_after_canceled_attempt :
  (Goroutine.init : Goroutine Unit).run
      [.recv (.error .Unavailable), .closeQuit, .cancel, .restart (some .Canceled),
        .restart (some .Canceled)]
    = ⟨.reconnecting, true, true,
        [.recv (.error .Unavailable), .cancel, .attempt (some .Canceled),
          .attempt (some .Canceled)]⟩
  := by
  decide

/-! ### The reconnect loop -/

/-- Whether an effect is an attempt to start the RPC. -/
def Effect.isAttempt : Effect Resp → Bool
  | .attempt _ => true
  | _ => false

/-- Whether an action is the return of an attempt to start the RPC. -/
def Action.isRestart : Action Resp → Bool
  | .restart _ => true
  | _ => false

/-- Inside the reconnect loop, anything but a successful restart leaves the goroutine in the
loop; it adds an attempt exactly when it is a restart, and never closes `outCh`. -/
theorem step_reconnecting {g : Goroutine Resp} (hg : g.phase = .reconnecting) {a : Action Resp}
    (ha : a ≠ .restart none) :
  ((g.step a).getD g).phase = .reconnecting
    ∧ ∃ new, ((g.step a).getD g).effects = g.effects ++ new ∧ .closeOutCh ∉ new
      ∧ new.countP Effect.isAttempt = [a].countP Action.isRestart
  := by
  cases a with
  | closeQuit =>
    simp only [Goroutine.step]
    split_ifs <;> exact ⟨hg, [], by simp [Action.isRestart]⟩
  | cancel =>
    simp only [Goroutine.step]
    split_ifs
    · exact ⟨hg, [.cancel], by simp [Effect.isAttempt, Action.isRestart]⟩
    · exact ⟨hg, [], by simp [Action.isRestart]⟩
  | recv result => simp only [Goroutine.step, hg]; exact ⟨hg, [], by simp [Action.isRestart]⟩
  | send outcome => simp only [Goroutine.step, hg]; exact ⟨hg, [], by simp [Action.isRestart]⟩
  | restart result =>
    rcases result with _ | c
    · exact absurd rfl ha
    · simp only [Goroutine.step, hg]
      exact ⟨rfl, [.attempt (some c)], by simp [Effect.isAttempt, Action.isRestart]⟩

/-- From inside the reconnect loop, as long as every restart fails, the goroutine stays in the
loop whatever else happens: it attempts the RPC once more for each restart and never closes
`outCh`. Once the context is cancelled every attempt fails, so the loop never ends. -/
theorem run_reconnecting {g : Goroutine Resp} (hg : g.phase = .reconnecting)
    {as : List (Action Resp)} (has : ∀ result, .restart result ∈ as → result ≠ none) :
  (g.run as).phase = .reconnecting
    ∧ ∃ new, (g.run as).effects = g.effects ++ new ∧ .closeOutCh ∉ new
      ∧ new.countP Effect.isAttempt = as.countP Action.isRestart
  := by
  induction as generalizing g with
  | nil => exact ⟨hg, [], by simp [Goroutine.run]⟩
  | cons a as ih =>
    have ha : a ≠ .restart none := fun h => has none (h ▸ List.mem_cons_self _ _) rfl
    obtain ⟨hph, new₁, heff₁, hclose₁, hcount₁⟩ := step_reconnecting hg ha
    obtain ⟨hph', new₂, heff₂, hclose₂, hcount₂⟩ :=
      ih hph fun r hr => has r (List.mem_cons_of_mem _ hr)
    refine ⟨hph', new₁ ++ new₂, ?_, ?_, ?_⟩
    · rw [Goroutine.run_cons, heff₂, heff₁, List.append_assoc]
    · simp [hclose₁, hclose₂]
    · rw [List.countP_append, hcount₁, hcount₂, ← List.countP_append, List.singleton_append]

theorem run_reconnecting_canceled :
  ((⟨.reconnecting, true, true, []⟩ : Goroutine Unit).phase = .reconnecting
    ∧ ∀ result, .restart result
        ∈ ([.cancel, .restart (some .Canceled), .restart (some .Canceled)] : List (Action Unit)) →
      result ≠ none)
    ∧ ((⟨.reconnecting, true, true, []⟩ : Goroutine Unit).run
          [.cancel, .restart (some .Canceled), .restart (some .Canceled)]).phase = .reconnecting
    ∧ ∃ new, ((⟨.reconnecting, true, true, []⟩ : Goroutine Unit).run
          [.cancel, .restart (some .Canceled), .restart (some .Canceled)]).effects = [] ++ new
      ∧ .closeOutCh ∉ new
      ∧ new.countP Effect.isAttempt
        = ([.cancel, .restart (some .Canceled), .restart (some .Canceled)] : List (Action Unit)).countP
          Action.isRestart
  := by
  have has : ∀ result, .restart result
      ∈ ([.cancel, .restart (some .Canceled), .restart (some .Canceled)] : List (Action Unit)) →
      result ≠ none := by
    intro result hr
    simp only [List.mem_cons, List.mem_singleton, List.not_mem_nil, or_false, reduceCtorEq,
      false_or, Action.restart.injEq, or_self] at hr
    simp [hr]
  exact ⟨⟨rfl, has⟩, @run_reconnecting Unit ⟨.reconnecting, true, true, []⟩ rfl _ has⟩

/-! ### Closing `outCh` -/

/-- What every run keeps: the goroutine has stopped exactly when it closed `outCh`, and it
closed `outCh` right after a `Recv` that failed with `Canceled`, with nothing after that but
the cancel of the context. -/
structure Inv (g : Goroutine Resp) : Prop where
  stopped : g.phase = .stopped ↔ .closeOutCh ∈ g.effects
  closed : ∀ pre post, g.effects = pre ++ .closeOutCh :: post →
    (∃ pre', pre = pre' ++ [.recv (.error .Canceled)]) ∧ ∀ e ∈ post, e = .cancel

theorem Inv.init : Inv (Goroutine.init : Goroutine Resp) :=
  ⟨by simp [Goroutine.init], fun pre post h => by simp [Goroutine.init] at h⟩

/-- A step between two goroutines that have not stopped keeps the invariant when it closes
nothing. -/
theorem Inv.running {g g' : Goroutine Resp} (h : Inv g) (hph : g.phase ≠ .stopped)
    (hph' : g'.phase ≠ .stopped) (es : List (Effect Resp)) (heff : g'.effects = g.effects ++ es)
    (hes : .closeOutCh ∉ es) :
  Inv g'
  :=
  have hc : .closeOutCh ∉ g'.effects := by simp [heff, ← h.stopped, hph, hes]
  ⟨iff_of_false hph' hc, fun pre post heq => absurd (heq ▸ by simp) hc⟩

theorem Inv.receive {g : Goroutine Resp} (h : Inv g) (hph : g.phase = .receiving)
    (result : RecvResult Resp) :
  Inv (g.receive result)
  := by
  have hc : .closeOutCh ∉ g.effects := fun hc => by simp [← h.stopped, hph] at hc
  unfold Goroutine.receive
  split_ifs with hcode
  · refine ⟨by simp, fun pre post heq => ?_⟩
    rw [show g.effects ++ [.recv result, .closeOutCh] = g.effects ++ [.recv result] ++ [.closeOutCh]
      by simp, append_singleton_eq_cons_iff] at heq
    rcases heq with ⟨rfl, rfl, -⟩ | ⟨post', -, heq⟩
    · refine ⟨⟨g.effects, ?_⟩, by simp⟩
      cases result with
      | response resp => simp [RecvResult.code] at hcode
      | error c => simp only [RecvResult.code] at hcode; rw [hcode]
    · have hmem : (.closeOutCh : Effect Resp) ∈ g.effects ++ [.recv result] := by simp [heq]
      simp [hc] at hmem
  · cases result <;> exact h.running (by simp [hph]) (by simp) _ rfl (by simp)

/-- Every step keeps the invariant. -/
theorem Inv.step {g g' : Goroutine Resp} {a : Action Resp} (h : Inv g)
    (hs : g.step a = some g') :
  Inv g'
  := by
  cases a with
  | closeQuit =>
    simp only [Goroutine.step] at hs
    split_ifs at hs
    cases hs
    exact ⟨h.stopped, h.closed⟩
  | cancel =>
    simp only [Goroutine.step] at hs
    split_ifs at hs
    cases hs
    refine ⟨by simpa using h.stopped, fun pre post heq => ?_⟩
    obtain ⟨post', heq', rfl⟩ := append_eq_cons_of_not_mem heq (by simp)
    obtain ⟨hpre, hpost⟩ := h.closed pre post' heq'
    exact ⟨hpre, fun e he => (List.mem_append.1 he).elim (hpost e) (by simp)⟩
  | recv result =>
    simp only [Goroutine.step] at hs
    split at hs
    · cases hs
      exact h.receive ‹_› result
    · cases hs
  | send outcome =>
    simp only [Goroutine.step] at hs
    split at hs
    · split_ifs at hs
      cases hs
      exact h.running (by simp [*]) (by simp) _ rfl (by simp)
    · cases hs
  | restart result =>
    simp only [Goroutine.step] at hs
    split at hs
    · cases hs
      exact h.running (by simp [*]) (by split <;> simp) _ rfl (by simp)
    · cases hs

theorem Inv.run {g : Goroutine Resp} (h : Inv g) (as : List (Action Resp)) : Inv (g.run as) :=
  Goroutine.run_induction Inv (fun _ _ _ h hs => h.step hs) h as

/-- In every run the goroutine closes `outCh` only right after a `Recv` that failed with
`Canceled`, and then does nothing more: no `Recv`, no `sendOnChannel`, no attempt to restart
the RPC, and no second close. -/
theorem run_closes_after_canceled_recv (as : List (Action Resp)) :
  ∀ pre post, (Goroutine.init.run as).effects = pre ++ .closeOutCh :: post →
    (∃ pre', pre = pre' ++ [.recv (.error .Canceled)]) ∧ ∀ e ∈ post, e = .cancel
  := (Inv.init.run as).closed

theorem run_closes_after_canceled_recv_quit :
  (Goroutine.init.run [.closeQuit, .cancel, .recv (.error .Canceled)] : Goroutine Unit).effects
      = [.cancel, .recv (.error .Canceled)] ++ .closeOutCh :: []
    ∧ (∃ pre', [.cancel, .recv (.error .Canceled)] = pre' ++ [(.recv (.error .Canceled) : Effect Unit)])
      ∧ ∀ e ∈ ([] : List (Effect Unit)), e = .cancel
  := ⟨by decide, run_closes_after_canceled_recv [.closeQuit, .cancel, .recv (.error .Canceled)] _ _
    (by decide)⟩

/-! ### sendOnChannel -/

/-- A match of a `WatchMatchesResponse`, a `label_protos.Labeled`: its label type, a value of
the proto enum `ProtoLabelType`, its labels and its id. -/
structure ProtoLabeled (ProtoLabelType : Type) where
  labelType : ProtoLabelType
  labels : List (String × String)
  id : String
  deriving DecidableEq, Repr

/-- `label_protos.WatchMatchesResponse`: the matches of one update. -/
structure WatchMatchesResponse (ProtoLabelType : Type) where
  labeled : List (ProtoLabeled ProtoLabelType)
  deriving DecidableEq, Repr

/-- `labels.Labeled`: a label type of the `labels` package, labels and an id. -/
structure Labeled (LabelsType : Type) where
  labelType : LabelsType
  labels : List (String × String)
  id : String
  deriving DecidableEq, Repr

/-- What `sendOnChannel` calls outside this package: `String()` of a proto label type, and
`labels.AsType`, which decodes a type name or returns an error. -/
structure LabelTypes (ProtoLabelType LabelsType : Type) where
  typeName : ProtoLabelType → String
  asType : String → Except String LabelsType

section SendOnChannel

variable {P T : Type}

/-- The zero value of `labels.Labeled`, which `make` puts in every place of a new slice; the
zero value of `labels.Type` is `default`. -/
def Labeled.zero [Inhabited T] : Labeled T := ⟨default, [], ""⟩

/-- The loop of `sendOnChannel` from the match at index `i` on: it sets `ret[i]` to the match
with its decoded label type, or returns early, with `none`, at the first type name
`labels.AsType` rejects. -/
def fill (types : LabelTypes P T) : Nat → List (ProtoLabeled P) → List (Labeled T) →
    Option (List (Labeled T))
  | _, [], ret => some ret
  | i, m :: ms, ret =>
    match types.asType (types.typeName m.labelType) with
    | .error _ => none
    | .ok labelType => fill types (i + 1) ms (ret.set i ⟨labelType, m.labels, m.id⟩)

/-- `Client.sendOnChannel`, when its `select` takes the send on `outCh` if `sent` and the closed
`quitCh` otherwise: how it returns, and the list it sends on `outCh`, if any. -/
def sendOnChannel [Inhabited T] (types : LabelTypes P T) (serverResp : WatchMatchesResponse P) (sent : Bool) :
    SendOutcome × Option (List (Labeled T)) :=
  match fill types 0 serverResp.labeled (List.replicate serverResp.labeled.length .zero) with
  | none => (.rejected, none)
  | some ret => if sent then (.delivered, some ret) else (.quit, none)

/-- A match as a `labels.Labeled`, when `labels.AsType` accepts its type name. -/
def convert (types : LabelTypes P T) (m : ProtoLabeled P) : Option (Labeled T) :=
  match types.asType (types.typeName m.labelType) with
  | .error _ => none
  | .ok labelType => some ⟨labelType, m.labels, m.id⟩

theorem convert_eq_some {types : LabelTypes P T} {m : ProtoLabeled P} {x : Labeled T} :
  convert types m = some x
    ↔ ∃ t, types.asType (types.typeName m.labelType) = .ok t ∧ x = ⟨t, m.labels, m.id⟩
  := by
  unfold convert
  cases types.asType (types.typeName m.labelType) <;> simp [eq_comm]

theorem mapM_eq_some_iff {α β : Type} {f : α → Option β} {ms : List α} {xs : List β} :
  ms.mapM f = some xs ↔ List.Forall₂ (fun m x => f m = some x) ms xs
  := by
  induction ms generalizing xs with
  | nil =>
    rw [List.mapM_nil, List.forall₂_nil_left_iff]
    exact ⟨fun h => (Option.some.inj h).symm, fun h => h ▸ rfl⟩
  | cons m ms ih =>
    rw [List.mapM_cons, List.forall₂_cons_left_iff]
    simp only [← ih]
    rcases f m with _ | b <;> rcases ms.mapM f with _ | bs <;> simp [eq_comm]

theorem take_succ_set {α : Type} {l : List α} {i : Nat} (a : α) (h : i < l.length) :
  (l.set i a).take (i + 1) = l.take i ++ [a]
  := by
  rw [List.take_succ, List.getElem?_set_self h, List.set_take,
    List.set_eq_of_length_le (List.length_take_le _ _)]
  rfl

/-- The loop, started with the first `i` places filled and one place left for each match still
to come, keeps those `i` places and fills the rest with the matches converted, unless one cannot
be. -/
theorem fill_eq (types : LabelTypes P T) (i : Nat) (ms : List (ProtoLabeled P))
    (ret : List (Labeled T)) (h : ret.length = i + ms.length) :
  fill types i ms ret = (ms.mapM (convert types)).map (ret.take i ++ ·)
  := by
  induction ms generalizing i ret with
  | nil =>
    rw [fill, List.mapM_nil, List.take_of_length_le (by simp at h; omega)]
    exact congrArg some (List.append_nil ret).symm
  | cons m ms ih =>
    rw [fill, List.mapM_cons]
    cases ht : types.asType (types.typeName m.labelType) with
    | error e => simp [convert, ht]
    | ok t =>
      dsimp only
      rw [ih (i + 1) (ret.set i ⟨t, m.labels, m.id⟩) (by simp at h ⊢; omega),
        take_succ_set _ (show i < ret.length by simp at h; omega)]
      rcases ms.mapM (convert types) with _ | xs <;> simp [convert, ht]

/-- `sendOnChannel` converts every match, in order: when one cannot be converted it sends
nothing and returns rejecting the response, and otherwise its `select` decides whether the list
of converted matches is sent. -/
theorem sendOnChannel_eq [Inhabited T] (types : LabelTypes P T) (serverResp : WatchMatchesResponse P)
    (sent : Bool) :
  sendOnChannel types serverResp sent
    = match serverResp.labeled.mapM (convert types) with
      | none => (.rejected, none)
      | some xs => if sent then (.delivered, some xs) else (.quit, none)
  := by
  rw [sendOnChannel, fill_eq _ _ _ _ (by simp)]
  rcases serverResp.labeled.mapM (convert types) with _ | xs <;> rfl

/-- `sendOnChannel` sends at most one list, and only a whole response: the list it sends has
one element for each match, the `i`-th made of the label type `labels.AsType` decodes from the
`i`-th match's type name and of that match's labels and id. So it sends a list only if
`labels.AsType` accepts the type name of every match, and no match is dropped, moved or left at
the zero value. -/
theorem sendOnChannel_sends_whole_response [Inhabited T] (types : LabelTypes P T)
    (serverResp : WatchMatchesResponse P) (sent : Bool) (ret : List (Labeled T))
    (h : (sendOnChannel types serverResp sent).2 = some ret) :
  (∀ m ∈ serverResp.labeled, ∃ t, types.asType (types.typeName m.labelType) = .ok t)
    ∧ ret.length = serverResp.labeled.length
    ∧ ∀ (i : Nat) (hi : i < serverResp.labeled.length) (hr : i < ret.length),
      ∃ t, types.asType (types.typeName serverResp.labeled[i].labelType) = .ok t
        ∧ ret[i] = ⟨t, serverResp.labeled[i].labels, serverResp.labeled[i].id⟩
  := by
  have hmap : serverResp.labeled.mapM (convert types) = some ret := by
    rw [sendOnChannel_eq] at h
    revert h
    rcases serverResp.labeled.mapM (convert types) with _ | xs <;> cases sent <;> simp
  obtain ⟨hlen, hget⟩ := List.forall₂_iff_get.1 (mapM_eq_some_iff.1 hmap)
  refine ⟨fun m hm => ?_, hlen.symm, fun i hi hr => convert_eq_some.1 (hget i hi hr)⟩
  obtain ⟨⟨i, hi⟩, rfl⟩ := List.get_of_mem hm
  obtain ⟨t, ht, -⟩ := convert_eq_some.1 (hget i hi (hlen ▸ hi))
  exact ⟨t, ht⟩

/-- The label types `pod` and `node`, each named by itself. -/
def podAndNode : LabelTypes String String :=
  ⟨id, fun s => if s = "pod" ∨ s = "node" then .ok s else .error ("Unrecognized label type " ++ s)⟩

/-- A response with a `pod` match and a `node` match. -/
def webAndNode : WatchMatchesResponse String :=
  ⟨[⟨"pod", [("app", "web")], "web1"⟩, ⟨"node", [], "node1"⟩]⟩

theorem sendOnChannel_sends_whole_response_webAndNode :
  (sendOnChannel podAndNode webAndNode true).2
      = some [⟨"pod", [("app", "web")], "web1"⟩, ⟨"node", [], "node1"⟩]
    ∧ ((∀ m ∈ webAndNode.labeled, ∃ t, podAndNode.asType (podAndNode.typeName m.labelType) = .ok t)
      ∧ [(⟨"pod", [("app", "web")], "web1"⟩ : Labeled String), ⟨"node", [], "node1"⟩].length
        = webAndNode.labeled.length
      ∧ ∀ (i : Nat) (_ : i < webAndNode.labeled.length)
        (hr : i < [(⟨"pod", [("app", "web")], "web1"⟩ : Labeled String),
          ⟨"node", [], "node1"⟩].length),
        ∃ t, podAndNode.asType (podAndNode.typeName webAndNode.labeled[i].labelType) = .ok t
          ∧ [(⟨"pod", [("app", "web")], "web1"⟩ : Labeled String), ⟨"node", [], "node1"⟩][i]
            = ⟨t, webAndNode.labeled[i].labels, webAndNode.labeled[i].id⟩)
  := ⟨by decide, sendOnChannel_sends_whole_response podAndNode webAndNode true _ (by decide)⟩

end SendOnChannel

end P2.Grpc
