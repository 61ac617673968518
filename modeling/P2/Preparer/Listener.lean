import Mathlib.Data.List.Infix

/-!
# Which event a hook pod is for

`HookListener.determineEvent` reads the event of a hook pod off the path under which the
intent store lists it. The path is split at the listener's `HookPrefix` with `strings.Split`,
the pieces after the first are joined back together, and the event is the capture group of
`eventPrefix`, `/?([a-zA-Z\_]+)\/.+`, searched anywhere in that tail. No match means a global
hook, whose event is empty.

Strings are lists of characters here. `Strings.split` is the scan of the Go library's
`genSplit`; `Regexp.findStringSubmatch` is a backtracking matcher for a pattern that is a
sequence of quantified character classes, tried at each start from the left, which is the
leftmost-first match of Go's `regexp`.

* `determineEvent_global`: a pod listed directly under a non-empty prefix, with an ID free of
  `/`, is a global hook, whatever the prefix.
* `determineEvent_event`: a pod listed under `{prefix}/{event}/{podID}` gets its event when the
  prefix does not occur again after its leading occurrence.
* Splitting at every occurrence of the prefix cuts the prefix out of an event name that
  contains it: under the prefix `install`, `install/after_install/usercreate` gets the event
  `after_`.
-/

namespace P2.Preparer

/-! ### strings.Split -/

namespace Strings

/-- The scan of `genSplit(s, sep, 0, -1)` for a non-empty separator: `cur` is the piece read so
far, reversed, and `skip` the number of characters of the separator just found still to pass
over. The leftmost occurrence of the separator ends the current piece. -/
def splitScan (sep : List Char) : Nat → List Char → List Char → List (List Char)
  | _, cur, [] => [cur.reverse]
  | skip + 1, cur, _ :: s => splitScan sep skip cur s
  | 0, cur, c :: s =>
    if sep.isPrefixOf (c :: s) then cur.reverse :: splitScan sep (sep.length - 1) [] s
    else splitScan sep 0 (c :: cur) s

/-- `strings.Split(s, sep)`: an empty separator splits after each character. -/
def split (s sep : List Char) : List (List Char) :=
  if sep = [] then s.map fun c => [c] else splitScan sep 0 [] s

theorem splitScan_skip (sep cur xs s : List Char) :
  splitScan sep xs.length cur (xs ++ s) = splitScan sep 0 cur s
  := by
  induction xs with
  | nil => rfl
  | cons x xs ih => exact ih

/-- A string that starts with the separator splits into an empty piece and the pieces of the
rest. -/
theorem split_append_of_ne_nil {sep : List Char} (r : List Char) (h : sep ≠ []) :
  split (sep ++ r) sep = [] :: splitScan sep 0 [] r
  := by
  obtain ⟨c, sep', rfl⟩ := List.exists_cons_of_ne_nil h
  have hpre : (c :: sep').isPrefixOf (c :: (sep' ++ r)) = true :=
    List.isPrefixOf_iff_prefix.2 (List.prefix_append _ _)
  rw [split, if_neg h, List.cons_append, splitScan, if_pos hpre, List.length_cons,
    Nat.add_sub_cancel, splitScan_skip]
  rfl

/-- With no occurrence of the separator left, the scan ends with one piece. -/
theorem splitScan_of_not_infix {sep s : List Char} (cur : List Char)
    (h : ¬ List.IsInfix sep s) :
  splitScan sep 0 cur s = [cur.reverse ++ s]
  := by
  induction s generalizing cur with
  | nil => simp [splitScan]
  | cons c s ih =>
    rw [List.infix_cons_iff, not_or] at h
    rw [splitScan, if_neg (mt List.isPrefixOf_iff_prefix.1 h.1), ih _ h.2]
    simp

/-- The pieces of a scan, joined back together, are a sublist of what was scanned. -/
theorem flatten_splitScan_sublist (sep : List Char) (skip : Nat) (cur s : List Char) :
  (splitScan sep skip cur s).flatten.Sublist (cur.reverse ++ s)
  := by
  induction s generalizing skip cur with
  | nil => simp [splitScan]
  | cons c s ih =>
    cases skip with
    | succ skip =>
      exact (ih skip cur).trans ((List.sublist_cons_self c s).append_left _)
    | zero =>
      rw [splitScan]
      split_ifs
      · simpa using ((ih _ []).trans (by simp)).append_left cur.reverse
      · simpa using ih 0 (c :: cur)

/-- A scan gives at least one piece. -/
theorem splitScan_ne_nil (sep : List Char) (skip : Nat) (cur s : List Char) :
  splitScan sep skip cur s ≠ []
  := by
  induction s generalizing skip cur with
  | nil => simp [splitScan]
  | cons c s ih =>
    cases skip with
    | succ skip => exact ih skip cur
    | zero =>
      rw [splitScan]
      split_ifs
      · exact List.cons_ne_nil _ _
      · exact ih 0 (c :: cur)

/-- `strings.Split` gives no piece only for the empty string split at the empty separator. -/
theorem split_eq_nil_iff {s sep : List Char} : split s sep = [] ↔ s = [] ∧ sep = [] := by
  unfold split
  split_ifs with hsep
  · simp [hsep]
  · simp [hsep, splitScan_ne_nil]

end Strings

/-! ### regexp -/

namespace Regexp

/-- How many characters a pattern piece takes: one, an optional one, or one or more. -/
inductive Quant
  | one
  | opt
  | plus
  deriving DecidableEq, Repr

/-- The numbers of characters a piece may take, in the order a backtracking matcher tries
them, when the characters it accepts run for `n` characters from where it starts: a greedy `?`
tries its character first, and a greedy `+` the longest run first. -/
def Quant.lengths : Quant → Nat → List Nat
  | .one, n => if 0 < n then [1] else []
  | .opt, n => if 0 < n then [1, 0] else [0]
  | .plus, n => (List.range n).reverse.map (· + 1)

/-- One piece of a pattern: the characters it accepts, its quantifier, and whether what it
takes belongs to the capture group. -/
structure Piece where
  accepts : Char → Bool
  quant : Quant
  capture : Bool

/-- Match the pieces at the start of `s`, trying the choices of each piece in order and giving
up a choice only when the rest of the pattern fails after it: the text of the capture group of
the first match found. The pattern is unanchored at its end. -/
def matchHere : List Piece → List Char → Option (List Char)
  | [], _ => some []
  | p :: ps, s =>
    (p.quant.lengths (s.takeWhile p.accepts).length).findSome? fun k =>
      (matchHere ps (s.drop k)).map fun group => if p.capture then s.take k ++ group else group

/-- `FindStringSubmatch`'s capture group: the match that starts leftmost, and among those the
one the backtracking order finds first; `none` when no position starts a match. -/
def findStringSubmatch (re : List Piece) : List Char → Option (List Char)
  | [] => matchHere re []
  | c :: s => (matchHere re (c :: s)).orElse fun _ => findStringSubmatch re s

/-- The class `[a-zA-Z\_]`. -/
def isEventChar (c : Char) : Bool := c.isUpper || c.isLower || c == '_'

theorem mem_lengths_one {k n : Nat} (h : k ∈ Quant.lengths .one n) : k = 1 ∧ 0 < n := by
  simp only [Quant.lengths] at h
  split_ifs at h with hn
  · exact ⟨List.mem_singleton.1 h, hn⟩
  · cases h

theorem mem_lengths_plus {k n : Nat} (h : k ∈ Quant.lengths .plus n) : 0 < k ∧ k ≤ n := by
  simp only [Quant.lengths, List.mem_map, List.mem_reverse, List.mem_range] at h
  omega

theorem lengths_plus_succ (n : Nat) :
  Quant.lengths .plus (n + 1) = (n + 1) :: Quant.lengths .plus n
  := by
  simp [Quant.lengths, List.range_succ]

/-- What a successful match of a piece followed by more pieces is made of. -/
theorem matchHere_cons_eq_some {p : Piece} {ps : List Piece} {s group : List Char}
    (h : matchHere (p :: ps) s = some group) :
  ∃ k ∈ p.quant.lengths (s.takeWhile p.accepts).length, ∃ rest,
    matchHere ps (s.drop k) = some rest ∧ group = if p.capture then s.take k ++ rest else rest
  := by
  rw [matchHere] at h
  obtain ⟨k, hk, hm⟩ := List.exists_of_findSome?_eq_some h
  obtain ⟨rest, hrest, rfl⟩ := Option.map_eq_some'.1 hm
  exact ⟨k, hk, rest, hrest, rfl⟩

/-- A piece whose first choice is to take `taken`, with `ks` left to try after it, takes it when
the rest of the pattern matches what follows. -/
theorem matchHere_cons_append {p : Piece} {ps : List Piece} (taken s : List Char) (ks : List Nat)
    {rest : List Char}
    (hk : p.quant.lengths ((taken ++ s).takeWhile p.accepts).length = taken.length :: ks)
    (h : matchHere ps s = some rest) :
  matchHere (p :: ps) (taken ++ s) = some (if p.capture then taken ++ rest else rest)
  := by
  rw [matchHere, hk, List.findSome?_cons, List.drop_left, h, List.take_left]
  rfl

theorem le_of_mem_lengths {q : Quant} {k n : Nat} (h : k ∈ q.lengths n) : k ≤ n := by
  cases q with
  | one => exact (mem_lengths_one h).1 ▸ (mem_lengths_one h).2
  | opt =>
    simp only [Quant.lengths] at h
    split_ifs at h <;> simp at h <;> omega
  | plus => exact (mem_lengths_plus h).2

/-- What a match captures is made of characters that a capturing piece accepts. -/
theorem matchHere_captures {ps : List Piece} {s group : List Char}
    (h : matchHere ps s = some group) :
  ∀ c ∈ group, ∃ p ∈ ps, p.capture ∧ p.accepts c
  := by
  induction ps generalizing s group with
  | nil =>
    cases h
    simp
  | cons p ps ih =>
    obtain ⟨k, hk, rest, hrest, rfl⟩ := matchHere_cons_eq_some h
    intro c hc
    have hrest' : c ∈ rest → ∃ p' ∈ p :: ps, p'.capture ∧ p'.accepts c := fun hc =>
      let ⟨p', hp', hcap⟩ := ih hrest c hc
      ⟨p', List.mem_cons_of_mem _ hp', hcap⟩
    split_ifs at hc with hcap
    · rcases List.mem_append.1 hc with hc | hc
      · rw [← List.takeWhile_append_dropWhile p.accepts s,
          List.take_append_of_le_length (le_of_mem_lengths hk)] at hc
        exact ⟨p, List.mem_cons_self _ _, hcap, List.mem_takeWhile_imp (List.mem_of_mem_take hc)⟩
      · exact hrest' hc
    · exact hrest' hc

/-- What `findStringSubmatch` captures is what a match at some position captures. -/
theorem findStringSubmatch_eq_some {re : List Piece} {t group : List Char}
    (h : findStringSubmatch re t = some group) :
  ∃ s, matchHere re s = some group
  := by
  induction t with
  | nil => exact ⟨[], h⟩
  | cons c t ih =>
    rw [findStringSubmatch] at h
    cases hm : matchHere re (c :: t) with
    | none =>
      rw [hm] at h
      exact ih h
    | some g =>
      rw [hm] at h
      exact ⟨c :: t, hm.trans h⟩

end Regexp

open Regexp

/-- `eventPrefix`: `/?([a-zA-Z\_]+)\/.+`. -/
def eventPrefix : List Piece :=
  [⟨(· == '/'), .opt, false⟩, ⟨isEventChar, .plus, true⟩, ⟨(· == '/'), .one, false⟩,
    ⟨(· != '\n'), .plus, false⟩]

/-- The field of a `HookListener` that `determineEvent` reads. -/
structure HookListener where
  hookPrefix : String

/-- `HookListener.determineEvent`: the event of the hook pod listed at `pathInIntent`, the empty
event for a global hook. -/
def HookListener.determineEvent (l : HookListener) (pathInIntent : String) :
    Except String String :=
  let split := Strings.split pathInIntent.data l.hookPrefix.data
  if split.length = 0 then
    .error ("The intent path " ++ pathInIntent ++ " didn\x27t start with " ++ l.hookPrefix
      ++ " as expected")
  else
    match findStringSubmatch eventPrefix (split.drop 1).flatten with
    | none => .ok ""
    | some event => .ok ⟨event⟩

/-- Under the prefix `install`, the hook pod `usercreate` listed for the event `after_install`
is put in the event `after_`: the split also cuts at the `install` inside the event name. -/
theorem determineEvent_splits_event :
  (HookListener.mk "install").determineEvent "install/after_install/usercreate" = .ok "after_"
  := rfl

/-! ### Global hooks -/

/-- A match of `eventPrefix` has a `/` after its first character. -/
theorem matchHere_eventPrefix_slash {s group : List Char}
    (h : matchHere eventPrefix s = some group) :
  '/' ∈ s.tail
  := by
  obtain ⟨k₁, -, g₁, h₁, -⟩ := matchHere_cons_eq_some h
  obtain ⟨k₂, hk₂, g₂, h₂, -⟩ := matchHere_cons_eq_some h₁
  obtain ⟨k₃, hk₃, -⟩ := matchHere_cons_eq_some h₂
  obtain ⟨c, hc⟩ := List.exists_mem_of_length_pos (mem_lengths_one hk₃).2
  have hc' : c = '/' := by simpa using List.mem_takeWhile_imp hc
  have hpos : 0 < k₂ := (mem_lengths_plus hk₂).1
  have hmem : '/' ∈ (s.drop 1).drop (k₁ + k₂ - 1) := by
    rw [List.drop_drop, show 1 + (k₁ + k₂ - 1) = k₁ + k₂ by omega, ← List.drop_drop]
    exact hc' ▸ (List.takeWhile_sublist _).subset hc
  rw [← List.drop_one]
  exact List.mem_of_mem_drop hmem

/-- Text with no `/` after its first character has no match of `eventPrefix`. -/
theorem findStringSubmatch_eventPrefix_eq_none {t : List Char} (h : '/' ∉ t.tail) :
  findStringSubmatch eventPrefix t = none
  := by
  have here : ∀ s : List Char, '/' ∉ s.tail → matchHere eventPrefix s = none := by
    intro s hs
    cases hm : matchHere eventPrefix s with
    | none => rfl
    | some g => exact absurd (matchHere_eventPrefix_slash hm) hs
  induction t with
  | nil => exact here [] h
  | cons c t ih =>
    rw [findStringSubmatch, here _ h]
    exact ih fun hm => h (List.mem_of_mem_tail hm)

/-- A pod listed directly under a non-empty prefix, with an ID free of `/`, is a global hook:
whatever is cut out of the rest of its path, no `/` is left after the first character. -/
theorem determineEvent_global (l : HookListener) (I : String) (hP : l.hookPrefix ≠ "")
    (hI : '/' ∉ I.data) :
  l.determineEvent (l.hookPrefix ++ "/" ++ I) = .ok ""
  := by
  have hP' : l.hookPrefix.data ≠ [] := fun h => hP (String.ext_iff.2 h)
  have hpath : (l.hookPrefix ++ "/" ++ I).data = l.hookPrefix.data ++ '/' :: I.data := by
    simp [String.data_append]
  have htail : '/' ∉ (Strings.splitScan l.hookPrefix.data 0 [] ('/' :: I.data)).flatten.tail := by
    have hsub := Strings.flatten_splitScan_sublist l.hookPrefix.data 0 [] ('/' :: I.data)
    exact fun hm => hI (hsub.tail.subset hm)
  rw [HookListener.determineEvent, hpath, Strings.split_append_of_ne_nil _ hP']
  simp only [List.length_cons, List.drop_succ_cons, List.drop_zero]
  rw [findStringSubmatch_eventPrefix_eq_none htail]
  rfl

theorem determineEvent_global_usercreate :
  ((HookListener.mk "/hooks").hookPrefix ≠ "" ∧ '/' ∉ "usercreate".data)
    ∧ (HookListener.mk "/hooks").determineEvent
        ((HookListener.mk "/hooks").hookPrefix ++ "/" ++ "usercreate") = .ok ""
  := ⟨⟨by decide, by decide⟩, determineEvent_global ⟨"/hooks"⟩ "usercreate" (by decide) (by decide)⟩

/-! ### Events -/

/-- `eventPrefix` matches `/{event}/{podID}` with the event as its capture group. -/
theorem matchHere_eventPrefix_event {E I : List Char} (hE : E ≠ [])
    (hEc : ∀ c ∈ E, isEventChar c) (hI : I ≠ []) (hIn : '\n' ∉ I) :
  matchHere eventPrefix ('/' :: (E ++ '/' :: I)) = some E
  := by
  obtain ⟨e, E', rfl⟩ := List.exists_cons_of_ne_nil hE
  obtain ⟨i, I', rfl⟩ := List.exists_cons_of_ne_nil hI
  have hslash : isEventChar '/' = false := by decide
  have he : (e == '/') = false :=
    beq_eq_false_iff_ne.2 fun h => by simpa [h, hslash] using hEc e (List.mem_cons_self _ _)
  have hrun : (e :: E' ++ '/' :: i :: I').takeWhile isEventChar = e :: E' := by
    rw [List.takeWhile_append_of_pos hEc, List.takeWhile_cons_of_neg (by simp [hslash]),
      List.append_nil]
  have hline : (i :: I').takeWhile (· != '\n') = i :: I' :=
    List.takeWhile_eq_self_iff.2 fun c hc => by
      simp only [bne_iff_ne, ne_eq]
      rintro rfl
      exact hIn hc
  -- `.+` takes the whole pod ID
  have h₄ : matchHere (eventPrefix.drop 3) (i :: I' ++ []) = some [] :=
    matchHere_cons_append _ [] _ (by dsimp only; rw [List.append_nil, hline, List.length_cons,
      lengths_plus_succ]) (by rfl)
  -- `\/` takes the slash after the event
  have h₃ : matchHere (eventPrefix.drop 2) ('/' :: i :: I') = some [] :=
    matchHere_cons_append ['/'] _ [] (by simp [Quant.lengths]) (List.append_nil (i :: I') ▸ h₄)
  -- `([a-zA-Z\_]+)` takes the whole event
  have h₂ : matchHere (eventPrefix.drop 1) (e :: E' ++ '/' :: i :: I') = some (e :: E') :=
    (matchHere_cons_append (e :: E') _ _ (by dsimp only; rw [hrun, List.length_cons,
      lengths_plus_succ]) h₃).trans (by simp)
  -- `/?` takes the leading slash
  exact matchHere_cons_append ['/'] _ [0] (by simp [Quant.lengths, he]) h₂

/-- A pod listed under `{prefix}/{event}/{podID}` gets its event when the prefix does not occur
again in `/{event}/{podID}`: the split then leaves that text whole, and `eventPrefix` matches it
from its first character. -/
theorem determineEvent_event (l : HookListener) (E I : String) (hE : E.data ≠ [])
    (hEc : ∀ c ∈ E.data, isEventChar c) (hI : I.data ≠ []) (hIn : '\n' ∉ I.data)
    (hP : ¬ List.IsInfix l.hookPrefix.data ('/' :: (E.data ++ '/' :: I.data))) :
  l.determineEvent (l.hookPrefix ++ "/" ++ E ++ "/" ++ I) = .ok E
  := by
  have hP' : l.hookPrefix.data ≠ [] := fun h => hP (h ▸ List.nil_infix)
  have hpath : (l.hookPrefix ++ "/" ++ E ++ "/" ++ I).data
      = l.hookPrefix.data ++ '/' :: (E.data ++ '/' :: I.data) := by
    simp [String.data_append]
  rw [HookListener.determineEvent, hpath, Strings.split_append_of_ne_nil _ hP',
    Strings.splitScan_of_not_infix _ hP]
  simp only [List.length_cons, List.drop_succ_cons, List.drop_zero, List.flatten_cons,
    List.flatten_nil, List.reverse_nil, List.nil_append, List.append_nil]
  rw [findStringSubmatch, matchHere_eventPrefix_event hE hEc hI hIn]
  rfl

theorem determineEvent_event_before_install :
  ("before_install".data ≠ [] ∧ (∀ c ∈ "before_install".data, isEventChar c)
      ∧ "usercreate".data ≠ [] ∧ '\n' ∉ "usercreate".data
      ∧ ¬ List.IsInfix "/hooks".data ('/' :: ("before_install".data ++ '/' :: "usercreate".data)))
    ∧ (HookListener.mk "/hooks").determineEvent
        ((HookListener.mk "/hooks").hookPrefix ++ "/" ++ "before_install" ++ "/" ++ "usercreate")
      = .ok "before_install"
  := ⟨⟨by decide, by decide, by decide, by decide, by decide⟩,
    determineEvent_event ⟨"/hooks"⟩ "before_install" "usercreate" (by decide) (by decide)
      (by decide) (by decide) (by decide)⟩

/-! ### Edge cases -/

/-- `determineEvent` fails only when the path and the prefix are both empty: `strings.Split`
returns no piece only then, so the check that the path starts with the prefix never rejects a
path that does not. -/
theorem determineEvent_error_iff (l : HookListener) (pathInIntent : String) :
  (∃ err, l.determineEvent pathInIntent = .error err) ↔ pathInIntent = "" ∧ l.hookPrefix = ""
  := by
  have hempty : ∀ s : String, s.data = [] ↔ s = "" := fun s => ⟨String.ext, fun h => h ▸ rfl⟩
  rw [← hempty, ← hempty, ← Strings.split_eq_nil_iff, ← List.length_eq_zero,
    HookListener.determineEvent]
  split_ifs with hlen
  · exact iff_of_true ⟨_, rfl⟩ hlen
  · refine iff_of_false ?_ hlen
    rintro ⟨err, h⟩
    split at h <;> cases h

/-- A path in which the non-empty prefix does not occur is taken for a global hook, with the empty
event, rather than rejected. -/
theorem determineEvent_of_not_infix (l : HookListener) (pathInIntent : String)
    (hP : l.hookPrefix.data ≠ []) (h : ¬ List.IsInfix l.hookPrefix.data pathInIntent.data) :
  l.determineEvent pathInIntent = .ok ""
  := by
  rw [HookListener.determineEvent, Strings.split, if_neg hP, Strings.splitScan_of_not_infix _ h]
  rfl

theorem determineEvent_of_not_infix_pods :
  ("/hooks".data ≠ [] ∧ ¬ List.IsInfix "/hooks".data "/pods/before_install/usercreate".data)
    ∧ (HookListener.mk "/hooks").determineEvent "/pods/before_install/usercreate" = .ok ""
  := ⟨⟨by decide, by decide⟩,
    determineEvent_of_not_infix ⟨"/hooks"⟩ _ (by decide) (by decide)⟩

/-- Every event `determineEvent` returns is made of ASCII letters and underscores: it has no `/`
and no `.`, so it is one path element that names no other directory. -/
theorem determineEvent_event_chars (l : HookListener) (pathInIntent event : String)
    (h : l.determineEvent pathInIntent = .ok event) :
  ∀ c ∈ event.data, isEventChar c
  := by
  rw [HookListener.determineEvent] at h
  split_ifs at h
  split at h
  · cases h
    simp
  · rename_i group hfind
    cases h
    obtain ⟨s, hs⟩ := findStringSubmatch_eq_some hfind
    intro c hc
    obtain ⟨p, hp, hcap, hacc⟩ := matchHere_captures hs c hc
    simp only [eventPrefix, List.mem_cons, List.mem_singleton, List.not_mem_nil, or_false] at hp
    rcases hp with rfl | rfl | rfl | rfl <;> first | exact hacc | cases hcap

theorem determineEvent_event_chars_before_install :
  (HookListener.mk "/hooks").determineEvent "/hooks/before_install/usercreate" = .ok "before_install"
    ∧ ∀ c ∈ "before_install".data, isEventChar c
  := ⟨rfl, determineEvent_event_chars ⟨"/hooks"⟩ "/hooks/before_install/usercreate" _ rfl⟩

end P2.Preparer
