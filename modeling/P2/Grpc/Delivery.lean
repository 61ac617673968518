import P2.Grpc.LabelStoreClient

/-!
# What reaches `outCh`

The receive goroutine hands each response `Recv` returns to `sendOnChannel`, and calls `Recv`
again only once `sendOnChannel` has returned. `received` and `handled` read the two sequences
off the log: in every run of the goroutine model the responses handed on are the responses
received, in order and each once, but for the one being sent (`run_hands_on_each_response`).

`WatchMatches` is a call of `Client.WatchMatches` whose label types are given: its goroutines,
and the lists its receive goroutine has sent on `outCh`. There `sendOnChannel` returns only as
it can for its response, and its `select` takes the send on `outCh` exactly when it returns
`delivered`. Every step of a call is a step of the goroutine model
(`WatchMatches.step_goroutine`), so every run of a call is a run of the model
(`WatchMatches.run_goroutine`) and what the model's runs keep holds of it. In every run the
lists sent on `outCh` are the whole conversions of some of the responses received, in the order
they were received and none twice (`WatchMatches.run_outCh`). While `quitCh` is open no update
is lost: the lists sent are the conversions of every response handed on whose matches all
convert (`WatchMatches.run_outCh_while_open`).
-/

namespace P2.Grpc

variable {Resp : Type}

/-! ### What one step does -/

/-- Every step the goroutines can take, with its guard and the goroutines it leads to. -/
theorem Goroutine.step_eq_some {g g' : Goroutine Resp} {a : Action Resp}
    (h : g.step a = some g') :
  (a = .closeQuit ∧ ¬ g.quitClosed ∧ g' = { g with quitClosed := true })
    ∨ (a = .cancel ∧ g.quitClosed ∧ ¬ g.cancelled
        ∧ g' = { g with cancelled := true, effects := g.effects ++ [.cancel] })
    ∨ (∃ result, a = .recv result ∧ g.phase = .receiving ∧ g' = g.receive result)
    ∨ (∃ resp outcome, a = .send outcome ∧ g.phase = .sending resp
        ∧ ¬ (outcome = .quit ∧ ¬ g.quitClosed)
        ∧ g' = { g with phase := .receiving,
                        effects := g.effects ++ [.sendOnChannel resp outcome] })
    ∨ (∃ result, a = .restart result ∧ g.phase = .reconnecting
        ∧ g' = { g with phase := if result = none then .receiving else .reconnecting,
                        effects := g.effects ++ [.attempt result] })
  := by
  cases a with
  | closeQuit =>
    simp only [Goroutine.step] at h
    split_ifs at h with hq
    exact .inl ⟨rfl, by simpa using hq, (Option.some.inj h).symm⟩
  | cancel =>
    simp only [Goroutine.step] at h
    split_ifs at h with hq
    exact .inr (.inl ⟨rfl, hq.1, hq.2, (Option.some.inj h).symm⟩)
  | recv result =>
    simp only [Goroutine.step] at h
    split at h
    · exact .inr (.inr (.inl ⟨result, rfl, ‹_›, (Option.some.inj h).symm⟩))
    · cases h
  | send outcome =>
    simp only [Goroutine.step] at h
    split at h
    · split_ifs at h with hq
      exact .inr (.inr (.inr (.inl ⟨_, outcome, rfl, ‹_›, hq, (Option.some.inj h).symm⟩)))
    · cases h
  | restart result =>
    simp only [Goroutine.step] at h
    split at h
    · exact .inr (.inr (.inr (.inr ⟨result, rfl, ‹_›, (Option.some.inj h).symm⟩)))
    · cases h

theorem Goroutine.receive_quitClosed (g : Goroutine Resp) (result : RecvResult Resp) :
  (g.receive result).quitClosed = g.quitClosed
  := by
  unfold Goroutine.receive
  split_ifs
  · rfl
  · cases result <;> rfl

/-- `quitCh` is never opened again: a step ending with it open started with it open. -/
theorem Goroutine.quitClosed_of_step {g g' : Goroutine Resp} {a : Action Resp}
    (hs : g.step a = some g') (h : g'.quitClosed = false) :
  g.quitClosed = false
  := by
  rcases Goroutine.step_eq_some hs with ⟨-, -, rfl⟩ | ⟨-, -, -, rfl⟩ | ⟨result, -, -, rfl⟩
    | ⟨resp, outcome, -, -, -, rfl⟩ | ⟨result, -, -, rfl⟩
  · cases h
  · exact h
  · rwa [Goroutine.receive_quitClosed] at h
  · exact h
  · exact h

/-! ### Every response is handed on once -/

/-- The responses `Recv` returned, oldest first. -/
def received (es : List (Effect Resp)) : List Resp :=
  es.filterMap fun | .recv (.response r) => some r | _ => none

/-- The responses `sendOnChannel` returned from, oldest first. -/
def handled (es : List (Effect Resp)) : List Resp :=
  es.filterMap fun | .sendOnChannel r _ => some r | _ => none

/-- The response the goroutine is in `sendOnChannel` with, if any. -/
def Phase.pending : Phase Resp → List Resp
  | .sending r => [r]
  | _ => []

@[simp]
theorem received_append (es es' : List (Effect Resp)) :
  received (es ++ es') = received es ++ received es'
  := List.filterMap_append _ _ _

@[simp]
theorem handled_append (es es' : List (Effect Resp)) :
  handled (es ++ es') = handled es ++ handled es'
  := List.filterMap_append _ _ _

/-- A step keeps the responses received equal to those handed on and the one being sent. -/
theorem received_step {g g' : Goroutine Resp} {a : Action Resp} (hs : g.step a = some g')
    (h : received g.effects = handled g.effects ++ g.phase.pending) :
  received g'.effects = handled g'.effects ++ g'.phase.pending
  := by
  rcases Goroutine.step_eq_some hs with ⟨-, -, rfl⟩ | ⟨-, -, -, rfl⟩ | ⟨result, -, hph, rfl⟩
    | ⟨resp, outcome, -, hph, -, rfl⟩ | ⟨result, -, hph, rfl⟩
  · exact h
  · simpa [received, handled] using h
  · simp only [hph, Phase.pending, List.append_nil] at h
    unfold Goroutine.receive
    split_ifs with hcode
    · cases result with
      | response r => simp [RecvResult.code] at hcode
      | error c => simpa [received, handled, Phase.pending] using h
    · cases result <;> simpa [received, handled, Phase.pending] using h
  · rw [hph] at h
    simpa [received, handled, Phase.pending] using h
  · rw [hph] at h
    split <;> simpa [received, handled, Phase.pending] using h

theorem received_run (g : Goroutine Resp)
    (h : received g.effects = handled g.effects ++ g.phase.pending) (as : List (Action Resp)) :
  received (g.run as).effects = handled (g.run as).effects ++ (g.run as).phase.pending
  := @Goroutine.run_induction _ (fun g => received g.effects = handled g.effects ++ g.phase.pending)
    (fun _ _ _ h hs => received_step hs h) g h as

/-- In every run the responses the receive goroutine hands to `sendOnChannel` are the responses
`Recv` returned, in order and each exactly once, but for the last one while its
`sendOnChannel` has not returned: no response is skipped, repeated or reordered, and no `Recv`
is made while a response is being sent. -/
theorem run_hands_on_each_response (as : List (Action Resp)) :
  received (Goroutine.init.run as).effects
    = handled (Goroutine.init.run as).effects ++ (Goroutine.init.run as).phase.pending
  := received_run Goroutine.init rfl as

/-! ### A call of `WatchMatches` -/

section Call

variable {P T : Type}

/-- A call of `Client.WatchMatches`: its goroutines, and the lists its receive goroutine has
sent on `outCh`, oldest first. -/
structure WatchMatches (P T : Type) where
  goroutine : Goroutine (WatchMatchesResponse P)
  outCh : List (List (Labeled T))

/-- The call once its first RPC succeeded: nothing sent on `outCh` yet. -/
def WatchMatches.init : WatchMatches P T := ⟨Goroutine.init, []⟩

/-- What `a` does to the call, if it can happen now, when the label types are `types`: what it
does to the goroutines, except that `sendOnChannel` returns only as it can for its response,
its `select` taking the send on `outCh` exactly when it returns `delivered`, and what it sends
is added to `outCh`. -/
def WatchMatches.step [Inhabited T] (types : LabelTypes P T) (w : WatchMatches P T) :
    Action (WatchMatchesResponse P) → Option (WatchMatches P T)
  | .send outcome =>
    match w.goroutine.phase with
    | .sending resp =>
      if (sendOnChannel types resp (outcome = .delivered)).1 = outcome then
        (w.goroutine.step (.send outcome)).map fun g =>
          ⟨g, w.outCh ++ (sendOnChannel types resp (outcome = .delivered)).2.toList⟩
      else none
    | _ => none
  | a => (w.goroutine.step a).map fun g => ⟨g, w.outCh⟩

/-- The call after the actions `as`, those that cannot happen when they come skipped. -/
def WatchMatches.run [Inhabited T] (types : LabelTypes P T) (w : WatchMatches P T)
    (as : List (Action (WatchMatchesResponse P))) : WatchMatches P T :=
  as.foldl (fun w a => (w.step types a).getD w) w

/-- Every step of a call is a step of its goroutines. -/
theorem WatchMatches.step_goroutine [Inhabited T] {types : LabelTypes P T}
    {w w' : WatchMatches P T} {a : Action (WatchMatchesResponse P)}
    (h : w.step types a = some w') :
  w.goroutine.step a = some w'.goroutine
  := by
  cases a with
  | send outcome =>
    simp only [WatchMatches.step] at h
    split at h
    · split_ifs at h
      obtain ⟨g, hg, rfl⟩ := Option.map_eq_some'.1 h
      exact hg
    · cases h
  | _ =>
    obtain ⟨g, hg, rfl⟩ := Option.map_eq_some'.1 h
    exact hg

/-- A property of calls that every step keeps holds after every run. -/
theorem WatchMatches.run_induction [Inhabited T] {types : LabelTypes P T}
    (Q : WatchMatches P T → Prop) (hstep : ∀ w w' a, Q w → w.step types a = some w' → Q w')
    {w : WatchMatches P T} (h : Q w) (as : List (Action (WatchMatchesResponse P))) :
  Q (w.run types as)
  := foldl_getD_induction (WatchMatches.step types) Q (fun w a w' => hstep w w' a) h as

/-- The goroutines of a call after any run are the goroutines of the model after a run. -/
theorem WatchMatches.run_goroutine [Inhabited T] (types : LabelTypes P T) (w : WatchMatches P T)
    (as : List (Action (WatchMatchesResponse P))) :
  ∃ as', (w.run types as).goroutine = w.goroutine.run as'
  := WatchMatches.run_induction (fun w' => ∃ as', w'.goroutine = w.goroutine.run as')
    (fun _ _ a ⟨as', h⟩ hs => ⟨as' ++ [a], by
      rw [Goroutine.run_concat, ← h, WatchMatches.step_goroutine hs, Option.getD_some]⟩)
    ⟨[], rfl⟩ as

/-! ### What reaches `outCh` -/

/-- The responses whose list `sendOnChannel` sent on `outCh`, oldest first. -/
def delivered (es : List (Effect Resp)) : List Resp :=
  es.filterMap fun | .sendOnChannel r .delivered => some r | _ => none

@[simp]
theorem delivered_append (es es' : List (Effect Resp)) :
  delivered (es ++ es') = delivered es ++ delivered es'
  := List.filterMap_append _ _ _

theorem delivered_sublist_handled (es : List (Effect Resp)) :
  (delivered es).Sublist (handled es)
  := by
  induction es with
  | nil => exact List.Sublist.slnil
  | cons e es ih =>
    rcases e with _ | _ | ⟨r, _ | _ | _⟩ | _ | _
    all_goals first
      | exact ih
      | exact ih.cons₂ r
      | exact ih.cons r

/-- A step other than a return of `sendOnChannel` hands nothing on and delivers nothing. -/
theorem handled_delivered_step {g g' : Goroutine Resp} {a : Action Resp}
    (hs : g.step a = some g') (ha : ∀ outcome, a ≠ .send outcome) :
  handled g'.effects = handled g.effects ∧ delivered g'.effects = delivered g.effects
  := by
  rcases Goroutine.step_eq_some hs with ⟨-, -, rfl⟩ | ⟨-, -, -, rfl⟩ | ⟨result, -, -, rfl⟩
    | ⟨resp, outcome, rfl, -⟩ | ⟨result, -, -, rfl⟩
  · exact ⟨rfl, rfl⟩
  · simp [handled, delivered]
  · unfold Goroutine.receive
    split_ifs
    · simp [handled, delivered]
    · cases result <;> simp [handled, delivered]
  · exact absurd rfl (ha outcome)
  · simp [handled, delivered]

/-- A return of `sendOnChannel` in a call: the goroutine was sending a response, which it hands on
with an outcome `quitCh` allows and `sendOnChannel` computes for the response, and what that call
sends is added to `outCh`. -/
theorem WatchMatches.step_send_eq_some [Inhabited T] {types : LabelTypes P T}
    {w w' : WatchMatches P T} {outcome : SendOutcome}
    (hs : w.step types (.send outcome) = some w') :
  ∃ resp, w.goroutine.phase = .sending resp
    ∧ ¬ (outcome = .quit ∧ ¬ w.goroutine.quitClosed)
    ∧ (sendOnChannel types resp (outcome = .delivered)).1 = outcome
    ∧ w'.goroutine = { w.goroutine with
        phase := .receiving, effects := w.goroutine.effects ++ [.sendOnChannel resp outcome] }
    ∧ w'.outCh = w.outCh ++ (sendOnChannel types resp (outcome = .delivered)).2.toList
  := by
  simp only [WatchMatches.step] at hs
  split at hs
  · rename_i resp hph
    split_ifs at hs with hout
    obtain ⟨g, hg, hw⟩ := Option.map_eq_some'.1 hs
    subst hw
    simp only [Goroutine.step, hph] at hg
    split_ifs at hg with hq
    cases hg
    exact ⟨resp, hph, hq, hout, rfl, rfl⟩
  · cases hs

/-- A step adds to `outCh` the list of converted matches of the response it delivers, if it
delivers one. -/
theorem WatchMatches.outCh_step [Inhabited T] {types : LabelTypes P T}
    {w w' : WatchMatches P T} {a : Action (WatchMatchesResponse P)}
    (hs : w.step types a = some w')
    (h : w.outCh.map some = (delivered w.goroutine.effects).map (·.labeled.mapM (convert types))) :
  w'.outCh.map some = (delivered w'.goroutine.effects).map (·.labeled.mapM (convert types))
  := by
  cases a with
  | send outcome =>
    obtain ⟨resp, -, -, hout, hg, hsent⟩ := WatchMatches.step_send_eq_some hs
    rw [hsent, hg, delivered_append, List.map_append, List.map_append, h]
    congr 1
    rw [sendOnChannel_eq] at hout ⊢
    cases hm : resp.labeled.mapM (convert types) <;> rw [hm] at hout <;> cases outcome
      <;> simp_all [delivered]
  | _ =>
    obtain ⟨g, hg, rfl⟩ := Option.map_eq_some'.1 hs
    rw [(handled_delivered_step hg fun _ => nofun).2]
    exact h

/-- In every run of a call, the lists sent on `outCh` are, in order, the whole lists of converted
matches of some of the responses `Recv` returned, taken in the order they were received and none
twice: `sendOnChannel` sends a list only when `labels.AsType` accepts the type of every match of
its response, and every response is handed to it once. -/
theorem WatchMatches.run_outCh [Inhabited T] (types : LabelTypes P T)
    (as : List (Action (WatchMatchesResponse P))) :
  ∃ rs : List (WatchMatchesResponse P),
    rs.Sublist (received (WatchMatches.init.run types as).goroutine.effects)
    ∧ (WatchMatches.init.run types as).outCh.map some
      = rs.map (·.labeled.mapM (convert types))
  := by
  have hout := @WatchMatches.run_induction _ _ _ types
    (fun w => w.outCh.map some
      = (delivered w.goroutine.effects).map (·.labeled.mapM (convert types)))
    (fun _ _ _ h hs => WatchMatches.outCh_step hs h) WatchMatches.init rfl as
  obtain ⟨as', hg⟩ := WatchMatches.run_goroutine types WatchMatches.init as
  refine ⟨_, (delivered_sublist_handled _).trans ?_, hout⟩
  rw [hg, show (WatchMatches.init : WatchMatches P T).goroutine = Goroutine.init from rfl,
    received_run Goroutine.init rfl as']
  exact List.sublist_append_left _ _

/-! ### No update is lost while `quitCh` is open -/

/-- While `quitCh` is open a step keeps `outCh` the whole conversions of the responses handed
on whose matches all convert, in order. -/
theorem WatchMatches.outCh_step_open [Inhabited T] {types : LabelTypes P T}
    {w w' : WatchMatches P T} {a : Action (WatchMatchesResponse P)}
    (hs : w.step types a = some w')
    (h : w.goroutine.quitClosed = false →
      w.outCh = (handled w.goroutine.effects).filterMap (·.labeled.mapM (convert types)))
    (hopen : w'.goroutine.quitClosed = false) :
  w'.outCh = (handled w'.goroutine.effects).filterMap (·.labeled.mapM (convert types))
  := by
  cases a with
  | send outcome =>
    obtain ⟨resp, -, hq, hout, hg, hsent⟩ := WatchMatches.step_send_eq_some hs
    rw [hg] at hopen ⊢
    rw [hsent, h hopen, handled_append, List.filterMap_append]
    congr 1
    rw [sendOnChannel_eq] at hout ⊢
    cases hm : resp.labeled.mapM (convert types) <;> rw [hm] at hout <;> cases outcome
      <;> simp_all [handled]
  | _ =>
    obtain ⟨g, hg, rfl⟩ := Option.map_eq_some'.1 hs
    rw [(handled_delivered_step hg fun _ => nofun).1]
    exact h (Goroutine.quitClosed_of_step hg hopen)

/-- No update is lost while `quitCh` is open: in every run of a call in which `quitCh` has not
been closed, the lists sent on `outCh` are exactly the whole conversions of the responses handed
to `sendOnChannel` whose matches all have a label type `labels.AsType` accepts, in the order they
were handed on. Every other response handed on is rejected, and none is dropped. -/
theorem WatchMatches.run_outCh_while_open [Inhabited T] (types : LabelTypes P T)
    (as : List (Action (WatchMatchesResponse P)))
    (hopen : (WatchMatches.init.run types as).goroutine.quitClosed = false) :
  (WatchMatches.init.run types as).outCh
    = (handled (WatchMatches.init.run types as).goroutine.effects).filterMap
        (·.labeled.mapM (convert types))
  := @WatchMatches.run_induction _ _ _ types
    (fun w => w.goroutine.quitClosed = false →
      w.outCh = (handled w.goroutine.effects).filterMap (·.labeled.mapM (convert types)))
    (fun _ _ _ h hs => WatchMatches.outCh_step_open hs h) WatchMatches.init (fun _ => rfl) as hopen

theorem WatchMatches.run_outCh_while_open_webAndNode :
  (WatchMatches.init.run podAndNode
      [.recv (.response webAndNode), .send .delivered]).goroutine.quitClosed = false
    ∧ (WatchMatches.init.run podAndNode [.recv (.response webAndNode), .send .delivered]).outCh
      = (handled (WatchMatches.init.run podAndNode
          [.recv (.response webAndNode), .send .delivered]).goroutine.effects).filterMap
        (·.labeled.mapM (convert podAndNode))
  := ⟨rfl, WatchMatches.run_outCh_while_open podAndNode
    [.recv (.response webAndNode), .send .delivered] rfl⟩

end Call

end P2.Grpc
