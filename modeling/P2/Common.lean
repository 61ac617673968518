import Mathlib.Data.List.Basic

/-!
# What the models share

* Logs. What the goroutines do is recorded as a list of effects, oldest first. Two lemmas say
  where an occurrence of an effect lies in a log that grew.
* Runs. Each system of goroutines is a guarded step function `step : S → A → Option S`, and a
  run takes the steps of a list in turn, skipping those that are not enabled.
  `foldl_getD_induction_on` is the one induction over runs: what holds at the start and what
  every step keeps holds after every run, also of a property of the actions taken so far;
  `foldl_getD_induction` is its case for a property of the state alone.
* Scripted outcomes. The calls into the file system and onto the disk can fail at any call: a
  computation is `ExceptT String (StateM σ)` over a state that holds the outcome of each call
  still to come. `outcome` is what a call returns for its scripted outcome, and `check` is Go's
  `if err != nil { return msg(err) }`.
-/

namespace P2

/-! ### Logs -/

theorem append_singleton_eq_cons_iff {α : Type} {xs pre post : List α} {x y : α} :
  xs ++ [x] = pre ++ y :: post
    ↔ (post = [] ∧ pre = xs ∧ y = x) ∨ ∃ post', post = post' ++ [x] ∧ xs = pre ++ y :: post'
  := by
  rcases post.eq_nil_or_concat with rfl | ⟨post', z, rfl⟩
  · constructor
    · intro h
      obtain ⟨hxs, hx⟩ := List.append_inj' h rfl
      exact .inl ⟨rfl, hxs.symm, (List.cons_eq_cons.1 hx).1.symm⟩
    · rintro (⟨-, rfl, rfl⟩ | ⟨post', h, -⟩)
      · rfl
      · simp at h
  · rw [List.concat_eq_append, ← List.cons_append, ← List.append_assoc]
    constructor
    · intro h
      obtain ⟨hxs, hx⟩ := List.append_inj' h rfl
      exact .inr ⟨post', by simp_all, hxs⟩
    · rintro (⟨h, -⟩ | ⟨post'', h, rfl⟩)
      · simp at h
      · obtain ⟨rfl, hzx⟩ := List.append_inj' h rfl
        rw [hzx]

/-- An occurrence of `x` in `l ++ xs`, when `x` is not in `xs`, is an occurrence in `l`. -/
theorem append_eq_cons_of_not_mem {α : Type} {l xs pre post : List α} {x : α}
    (h : l ++ xs = pre ++ x :: post) (hx : x ∉ xs) :
  ∃ post', l = pre ++ x :: post' ∧ post = post' ++ xs
  := by
  rcases List.append_eq_append_iff.1 h with ⟨a', rfl, rfl⟩ | ⟨c', rfl, hc⟩
  · simp at hx
  · rcases c' with _ | ⟨y, c'⟩
    · rw [List.nil_append] at hc
      exact absurd (hc ▸ List.mem_cons_self x post) hx
    · obtain ⟨rfl, rfl⟩ := List.cons_eq_cons.1 hc
      exact ⟨c', rfl, rfl⟩

/-! ### Runs -/

section Runs

variable {S A : Type} (step : S → A → Option S)

/-- A run that ends with `a` is the run before it followed by `a`, if `a` is enabled. -/
theorem foldl_getD_concat (s : S) (as : List A) (a : A) :
  (as ++ [a]).foldl (fun s a => (step s a).getD s) s
    = (step (as.foldl (fun s a => (step s a).getD s) s) a).getD
      (as.foldl (fun s a => (step s a).getD s) s)
  := by
  rw [List.foldl_append]
  rfl

/-- A property of the actions taken so far and of the state reached, that holds at the start and
that every action keeps, whether it is enabled or skipped, holds after every run. -/
theorem foldl_getD_induction_on (P : List A → S → Prop)
    (hstep : ∀ done s a s', P done s → step s a = some s' → P (done ++ [a]) s')
    (hskip : ∀ done s a, P done s → step s a = none → P (done ++ [a]) s)
    {s : S} (h : P [] s) (as : List A) :
  P as (as.foldl (fun s a => (step s a).getD s) s)
  := by
  induction as using List.reverseRecOn with
  | nil => exact h
  | append_singleton as a ih =>
    rw [foldl_getD_concat]
    cases hs : step (as.foldl (fun s a => (step s a).getD s) s) a with
    | none => exact hskip as _ a ih hs
    | some s' => exact hstep as _ a s' ih hs

/-- A property that holds at the start and that every enabled step keeps holds after every
run, the steps that are not enabled skipped. -/
theorem foldl_getD_induction (P : S → Prop) (hstep : ∀ s a s', P s → step s a = some s' → P s')
    {s : S} (h : P s) (as : List A) :
  P (as.foldl (fun s a => (step s a).getD s) s)
  := foldl_getD_induction_on step (fun _ => P) (fun _ s a s' h hs => hstep s a s' h hs)
    (fun _ _ _ h _ => h) h as

end Runs

/-! ### Scripted outcomes -/

/-- What a call whose scripted outcome is `o` returns when it would return `v` on success: `v`,
or the error `msg` reads off a failed outcome. -/
def outcome {ε α : Type} (msg : ε → String) (o : Option ε) (v : α) : Except String α :=
  match o with
  | none => .ok v
  | some e => .error (msg e)

/-- `if err != nil { return msg(err) }` after a call that returned `r`. -/
def check {σ α : Type} (r : Except String α) (msg : String → String) :
    ExceptT String (StateM σ) α :=
  match r with
  | .ok a => pure a
  | .error err => throw (msg err)

section Scripted

variable {σ α β : Type}

theorem modifyGet_bind (g : σ → α × σ) (f : α → ExceptT String (StateM σ) β) (s : σ) :
  (modifyGet g >>= f).run.run s = (f (g s).1).run.run (g s).2
  := rfl

theorem check_bind (r : Except String α) (msg : String → String)
    (f : α → ExceptT String (StateM σ) β) (s : σ) :
  (check r msg >>= f).run.run s
    = match r with
      | .ok a => (f a).run.run s
      | .error err => (.error (msg err), s)
  := by
  cases r <;> rfl

theorem check_ok_bind (a : α) (msg : String → String) (f : α → ExceptT String (StateM σ) β) :
  (check (.ok a) msg >>= f) = f a
  := rfl

theorem check_bind_ok {r : Except String α} {msg : String → String}
    {f : α → ExceptT String (StateM σ) β} {s s' : σ} {b : β}
    (h : (check r msg >>= f).run.run s = (.ok b, s')) :
  ∃ a, r = .ok a ∧ (f a).run.run s = (.ok b, s')
  := by
  cases r with
  | error err => cases h
  | ok a => exact ⟨a, rfl, h⟩

theorem check_run_ok {r : Except String α} {msg : String → String} {s s' : σ} {a : α}
    (h : (check r msg : ExceptT String (StateM σ) α).run.run s = (.ok a, s')) :
  r = .ok a ∧ s' = s
  := by
  cases r with
  | error err => cases h
  | ok a' => cases h; exact ⟨rfl, rfl⟩

theorem outcome_ok {ε : Type} {msg : ε → String} {o : Option ε} {v w : α}
    (h : outcome msg o v = .ok w) :
  w = v
  := by
  rcases o with _ | e
  · cases h; rfl
  · cases h

end Scripted

end P2
