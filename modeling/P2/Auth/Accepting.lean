import P2.Auth.ArtifactVerifier

/-!
# What the verifiers accept

`verifyHoistArtifact_sound` says what an artifact the composite verifier accepts has; this module
proves the converse. When no file system call fails, the manifest verifier accepts a local copy
whose downloaded manifest is signed and names its SHA-256, the build verifier accepts one whose
downloaded detached signature signs it, and the composite verifier accepts one that either of
them accepts from the start of the copy (`verifyHoistArtifact_complete`): whatever the manifest
verifier read of the copy before it failed, the seek lets the build verifier read all of it.

`verifyHoistArtifact_sound_from_offset` says what an accepted copy has when it is handed over at
any offset: the manifest route checks the copy from that offset only, the signature route all of
it. `verifyHoistArtifact_leaves_copy_at_end`: an accepted copy is left read to its end, or,
when it was handed over past its end, where it was.
-/

namespace P2.Auth

variable {KeyRing : Type}

/-- Every file system call still to come succeeds. -/
def OS.Reliable (os : OS) : Prop := ∀ o ∈ os.outcomes, o = none

theorem OS.Reliable.pop_fst {os : OS} (h : os.Reliable) : os.pop.1 = none := by
  unfold OS.pop
  split
  · rfl
  · rename_i o rest hout
    exact h o (hout ▸ List.mem_cons_self _ _)

theorem OS.Reliable.pop_snd {os : OS} (h : os.Reliable) : os.pop.2.Reliable := by
  unfold OS.pop
  split
  · exact h
  · rename_i o rest hout
    exact fun o' ho' => h o' (hout ▸ List.mem_cons_of_mem _ ho')

/-! ### The calls succeed -/

section Reliable

variable {β : Type} {os : OS} (h : os.Reliable)
include h

theorem tempDir_bind_reliable (f : Except String String → Verify β) :
  (tempDir >>= f).run.run os = (f (.ok os.dir)).run.run os.pop.2
  := by
  rw [tempDir, modifyGet_bind, h.pop_fst]
  rfl

theorem readFile_bind_reliable (stored : List UInt8) (f : Except String (List UInt8) → Verify β) :
  (readFile stored >>= f).run.run os = (f (.ok stored)).run.run os.pop.2
  := by
  rw [readFile, modifyGet_bind, h.pop_fst]
  rfl

theorem readAll_bind_reliable (localCopy : List UInt8) (f : Except String (List UInt8) → Verify β) :
  (readAll localCopy >>= f).run.run os
    = (f (.ok (localCopy.drop os.offset))).run.run
      { os.pop.2 with offset := max os.offset localCopy.length }
  := by
  rw [readAll, modifyGet_bind, h.pop_fst]
  rfl

theorem seekStart_bind_reliable (f : Except String Unit → Verify β) :
  (seekStart >>= f).run.run os = (f (.ok ())).run.run { os.pop.2 with offset := 0 }
  := by
  rw [seekStart, modifyGet_bind, h.pop_fst]
  rfl

end Reliable

/-- The manifest verifier leaves every later file system call succeeding when every one succeeds
from where it starts, whether it accepts or not. -/
theorem BuildManifestVerifier.verifyHoistArtifact_reliable (env : Env KeyRing)
    (keyring : KeyRing) (localCopy : List UInt8) (loc : String) {os : OS} (h : os.Reliable) :
  ((BuildManifestVerifier.verifyHoistArtifact env keyring localCopy loc).run.run os).2.Reliable
  := by
  have h₁ := h.pop_snd
  have h₂ := h₁.pop_snd
  have h₃ := h₂.pop_snd
  have h₄ : ({ os.pop.2.pop.2.pop.2.pop.2 with
      offset := max os.pop.2.pop.2.pop.2.offset localCopy.length } : OS).Reliable :=
    h₃.pop_snd
  simp only [BuildManifestVerifier.verifyHoistArtifact, checkMatchingDigest, check_bind]
  split
  · split
    · simp only [tempDir_bind_reliable h, check_bind, readFile_bind_reliable h₁,
        readFile_bind_reliable h₂, readAll_bind_reliable h₃]
      repeat' split
      all_goals first | exact h | exact h₁ | exact h₂ | exact h₃ | exact h₄
    · exact h
  · exact h

theorem verifySigned_of_signedBy {env : Env KeyRing} {keyring : KeyRing}
    {signed signature : List UInt8} (h : SignedBy env keyring signed signature) :
  verifySigned env keyring signed signature = .ok ()
  := by
  obtain ⟨sig, ⟨hd, rfl⟩ | hd, hc⟩ := h <;> simp [verifySigned, hd, hc, bind, Except.bind, pure,
    Except.pure]

/-- With every file system call succeeding, the manifest verifier accepts a location with an
http, https or file scheme whose manifest is signed and names the digest of the local copy read
from its offset. -/
theorem BuildManifestVerifier.verifyHoistArtifact_accepts {env : Env KeyRing}
    {keyring : KeyRing} {localCopy : List UInt8} {loc scheme : String} {os : OS}
    (hos : os.Reliable) (hparse : env.parse loc = .ok scheme)
    (hscheme : scheme = "http" ∨ scheme = "https" ∨ scheme = "file")
    {manifest signature : List UInt8} (hman : env.copyLocal (loc ++ ".manifest") = .ok manifest)
    (hsig : env.copyLocal (loc ++ ".manifest" ++ ".sig") = .ok signature)
    (hsigned : SignedBy env keyring manifest signature)
    (hsha : env.artifactSha manifest = .ok (hexEncode (env.sha256 (localCopy.drop os.offset)))) :
  ∃ os', (BuildManifestVerifier.verifyHoistArtifact env keyring localCopy loc).run.run os
    = (.ok (), os')
  := by
  have h₁ := hos.pop_snd
  have h₂ := h₁.pop_snd
  have h₃ := h₂.pop_snd
  simp only [BuildManifestVerifier.verifyHoistArtifact, hparse, check_ok_bind, if_pos hscheme,
    tempDir_bind_reliable hos, hman, hsig, readFile_bind_reliable h₁, readFile_bind_reliable h₂,
    verifySigned_of_signedBy hsigned, checkMatchingDigest, readAll_bind_reliable h₃,
    OS.pop_offset, hsha, ne_eq, not_true_eq_false, if_false]
  exact ⟨_, rfl⟩

/-- With every file system call succeeding, the build verifier accepts a location with an http,
https or file scheme whose detached signature signs the local copy read from its offset. -/
theorem BuildVerifier.verifyHoistArtifact_accepts {env : Env KeyRing} {keyring : KeyRing}
    {localCopy : List UInt8} {loc scheme : String} {os : OS} (hos : os.Reliable)
    (hparse : env.parse loc = .ok scheme)
    (hscheme : scheme = "http" ∨ scheme = "https" ∨ scheme = "file") {signature : List UInt8}
    (hsig : env.copyLocal (loc ++ ".sig") = .ok signature)
    (hsigned : SignedBy env keyring (localCopy.drop os.offset) signature) :
  ∃ os', (BuildVerifier.verifyHoistArtifact env keyring localCopy loc).run.run os
    = (.ok (), os')
  := by
  have h₁ := hos.pop_snd
  have h₂ := h₁.pop_snd
  simp only [BuildVerifier.verifyHoistArtifact, hparse, check_ok_bind, if_pos hscheme,
    tempDir_bind_reliable hos, hsig, readFile_bind_reliable h₁, readAll_bind_reliable h₂,
    OS.pop_offset, verifySigned_of_signedBy hsigned]
  exact ⟨_, rfl⟩

/-- When no file system call fails, the composite verifier accepts a local copy handed over at
offset 0 whenever the location has an http, https or file scheme and either the manifest
downloaded for it is signed and names the SHA-256 of the whole copy, or the signature downloaded
for it signs the whole copy. With `verifyHoistArtifact_sound`, these are exactly the copies it
accepts when the file system does not fail. -/
theorem verifyHoistArtifact_complete (env : Env KeyRing) (keyring : KeyRing)
    (localCopy : List UInt8) (loc dir : String) (outcomes : List (Option (String × Nat)))
    (hos : ∀ o ∈ outcomes, o = none)
    (hscheme : ∃ scheme, env.parse loc = .ok scheme
      ∧ (scheme = "http" ∨ scheme = "https" ∨ scheme = "file"))
    (h : (∃ manifest signature, env.copyLocal (loc ++ ".manifest") = .ok manifest
        ∧ env.copyLocal (loc ++ ".manifest" ++ ".sig") = .ok signature
        ∧ SignedBy env keyring manifest signature
        ∧ env.artifactSha manifest = .ok (hexEncode (env.sha256 localCopy)))
      ∨ ∃ signature, env.copyLocal (loc ++ ".sig") = .ok signature
        ∧ SignedBy env keyring localCopy signature) :
  ∃ os', (CompositeVerifier.verifyHoistArtifact env keyring localCopy loc).run.run
    ⟨0, dir, outcomes⟩ = (.ok (), os')
  := by
  have hrel : (⟨0, dir, outcomes⟩ : OS).Reliable := hos
  obtain ⟨scheme, hparse, hs⟩ := hscheme
  rw [CompositeVerifier.verifyHoistArtifact, tryCatch_run]
  rcases hm : (BuildManifestVerifier.verifyHoistArtifact env keyring localCopy loc).run.run
    ⟨0, dir, outcomes⟩ with ⟨_ | _, os₁⟩
  · -- the manifest verifier failed, so the build verifier runs from the start of the copy
    have h₁ : os₁.Reliable := by
      have := BuildManifestVerifier.verifyHoistArtifact_reliable env keyring localCopy loc hrel
      rwa [hm] at this
    dsimp only
    rw [seekStart_bind_reliable h₁, check_ok_bind]
    rcases h with ⟨manifest, signature, hman, hsig, hsigned, hsha⟩ | ⟨signature, hsig, hsigned⟩
    · obtain ⟨os', hok⟩ := BuildManifestVerifier.verifyHoistArtifact_accepts hrel hparse hs hman
        hsig hsigned hsha
      rw [hm] at hok
      cases hok
    · exact BuildVerifier.verifyHoistArtifact_accepts h₁.pop_snd hparse hs hsig hsigned
  · exact ⟨os₁, rfl⟩

/-- Libraries under which every location is https, every download is the bytes `[1, 2]`, every
signature is binary and accepted, and every manifest names a digest no artifact has. -/
def signatureOnlyEnv : Env Unit :=
  ⟨fun _ => .ok "https", fun _ => .ok [1, 2], fun _ => none, fun _ _ _ => none, id,
    fun _ => .ok "00"⟩

theorem verifyHoistArtifact_complete_signatureOnly :
  (∀ o ∈ ([none, none, none, none, none, none] : List (Option (String × Nat))), o = none)
    ∧ (∃ scheme, signatureOnlyEnv.parse "https://a/b" = .ok scheme
      ∧ (scheme = "http" ∨ scheme = "https" ∨ scheme = "file"))
    ∧ ((∃ manifest signature,
          signatureOnlyEnv.copyLocal ("https://a/b" ++ ".manifest") = .ok manifest
          ∧ signatureOnlyEnv.copyLocal ("https://a/b" ++ ".manifest" ++ ".sig") = .ok signature
          ∧ SignedBy signatureOnlyEnv () manifest signature
          ∧ signatureOnlyEnv.artifactSha manifest
            = .ok (hexEncode (signatureOnlyEnv.sha256 [1, 2])))
        ∨ ∃ signature, signatureOnlyEnv.copyLocal ("https://a/b" ++ ".sig") = .ok signature
          ∧ SignedBy signatureOnlyEnv () [1, 2] signature)
    ∧ ∃ os', (CompositeVerifier.verifyHoistArtifact signatureOnlyEnv () [1, 2] "https://a/b").run.run
      ⟨0, "/tmp", [none, none, none, none, none, none]⟩ = (.ok (), os')
  := by
  have hos : ∀ o ∈ ([none, none, none, none, none, none] : List (Option (String × Nat))),
      o = none := by
    simp
  have hscheme : ∃ scheme, signatureOnlyEnv.parse "https://a/b" = .ok scheme
      ∧ (scheme = "http" ∨ scheme = "https" ∨ scheme = "file") :=
    ⟨"https", rfl, .inr (.inl rfl)⟩
  have hsig : ∃ signature, signatureOnlyEnv.copyLocal ("https://a/b" ++ ".sig") = .ok signature
      ∧ SignedBy signatureOnlyEnv () [1, 2] signature :=
    ⟨[1, 2], rfl, [1, 2], .inl ⟨rfl, rfl⟩, rfl⟩
  exact ⟨hos, hscheme, .inr hsig, verifyHoistArtifact_complete signatureOnlyEnv () [1, 2]
    "https://a/b" "/tmp" _ hos hscheme (.inr hsig)⟩

/-! ### A copy handed over past its start -/

/-- Whatever offset the local copy is handed over at, the composite verifier returns nil only if
the manifest downloaded for the location is signed and names the SHA-256 of the copy from that
offset, or the signature downloaded for the location signs the whole copy: the manifest verifier
reads the copy from where it is, the build verifier from its start, after the seek. -/
theorem verifyHoistArtifact_sound_from_offset (env : Env KeyRing) (keyring : KeyRing)
    (localCopy : List UInt8) (loc : String) (os os' : OS)
    (h : (CompositeVerifier.verifyHoistArtifact env keyring localCopy loc).run.run os
      = (.ok (), os')) :
  (∃ manifest signature, env.copyLocal (loc ++ ".manifest") = .ok manifest
      ∧ env.copyLocal (loc ++ ".manifest" ++ ".sig") = .ok signature
      ∧ SignedBy env keyring manifest signature
      ∧ env.artifactSha manifest = .ok (hexEncode (env.sha256 (localCopy.drop os.offset))))
    ∨ ∃ signature, env.copyLocal (loc ++ ".sig") = .ok signature
      ∧ SignedBy env keyring localCopy signature
  := by
  rw [CompositeVerifier.verifyHoistArtifact, tryCatch_run] at h
  rcases hm : (BuildManifestVerifier.verifyHoistArtifact env keyring localCopy loc).run.run os
    with ⟨_ | _, os₁⟩ <;> rw [hm] at h <;> dsimp only at h
  · -- the fallback reads the copy from the start the seek moved it to
    rw [seekStart, modifyGet_bind] at h
    obtain ⟨_, hseek, h⟩ := check_bind_ok h
    rcases hp : os₁.pop.1 with _ | ⟨err, _⟩ <;> rw [hp] at hseek h
    · exact .inr (BuildVerifier.verifyHoistArtifact_ok h)
    · cases hseek
  · cases h
    exact .inl (BuildManifestVerifier.verifyHoistArtifact_ok hm)

/-- Libraries under which every location is https, every download is the bytes `[1, 2]`, every
signature is binary and accepted, and every manifest names the digest of `[2]` under the
identity hash. -/
def suffixEnv : Env Unit :=
  ⟨fun _ => .ok "https", fun _ => .ok [1, 2], fun _ => none, fun _ _ _ => none, id,
    fun _ => .ok (hexEncode [2])⟩

/-- The copy `[1, 2]` handed over at offset 1 is accepted by a manifest that names the digest
of `[2]` alone: no check covers its first byte. -/
theorem verifyHoistArtifact_sound_from_offset_suffix :
  (CompositeVerifier.verifyHoistArtifact suffixEnv () [1, 2] "https://a/b").run.run
      ⟨1, "/tmp", []⟩ = (.ok (), ⟨2, "/tmp", []⟩)
    ∧ ((∃ manifest signature, suffixEnv.copyLocal ("https://a/b" ++ ".manifest") = .ok manifest
        ∧ suffixEnv.copyLocal ("https://a/b" ++ ".manifest" ++ ".sig") = .ok signature
        ∧ SignedBy suffixEnv () manifest signature
        ∧ suffixEnv.artifactSha manifest
          = .ok (hexEncode (suffixEnv.sha256 (([1, 2] : List UInt8).drop (OS.offset ⟨1, "/tmp", []⟩)))))
      ∨ ∃ signature, suffixEnv.copyLocal ("https://a/b" ++ ".sig") = .ok signature
        ∧ SignedBy suffixEnv () [1, 2] signature)
  := ⟨rfl, verifyHoistArtifact_sound_from_offset suffixEnv () [1, 2] "https://a/b"
    ⟨1, "/tmp", []⟩ ⟨2, "/tmp", []⟩ rfl⟩

/-! ### Where an accepted copy is left -/

/-- A successful `ReadAll` of the copy, then computations that keep the offset: the offset ends
at the end of the copy, or where it was when that is past the end. -/
theorem readAll_check_offset {β : Type} {localCopy : List UInt8} {msg : String → String}
    {f : List UInt8 → Verify β} {os os' : OS} {b : β}
    (h : (readAll localCopy >>= fun r => check r msg >>= f).run.run os = (.ok b, os'))
    (hf : ∀ bytes os₁ os₂ b, (f bytes).run.run os₁ = (.ok b, os₂) → os₂.offset = os₁.offset) :
  os'.offset = max os.offset localCopy.length
  := by
  rw [readAll, modifyGet_bind] at h
  obtain ⟨bytes, hbytes, h⟩ := check_bind_ok h
  rw [hf _ _ _ _ h]
  rcases hp : os.pop.1 with _ | ⟨err, stop⟩
  · simp only [hp]
  · simp [hp, outcome] at hbytes

/-- When the digest check passes, it has read the copy to its end. -/
theorem checkMatchingDigest_offset {env : Env KeyRing} {localCopy manifestBytes : List UInt8}
    {os os' : OS}
    (h : (checkMatchingDigest env localCopy manifestBytes).run.run os = (.ok (), os')) :
  os'.offset = max os.offset localCopy.length
  := by
  refine readAll_check_offset h fun bytes os₁ os₂ b h₁ => ?_
  obtain ⟨digest, -, h₁⟩ := check_bind_ok h₁
  split_ifs at h₁
  · cases h₁
  · cases h₁
    rfl

/-- When either verifier accepts, it has read the copy to its end. -/
theorem BuildManifestVerifier.verifyHoistArtifact_offset {env : Env KeyRing} {keyring : KeyRing}
    {localCopy : List UInt8} {loc : String} {os os' : OS}
    (h : (BuildManifestVerifier.verifyHoistArtifact env keyring localCopy loc).run.run os
      = (.ok (), os')) :
  os'.offset = max os.offset localCopy.length
  := by
  rw [BuildManifestVerifier.verifyHoistArtifact] at h
  obtain ⟨scheme, -, h⟩ := check_bind_ok h
  split_ifs at h
  · rw [tempDir, modifyGet_bind] at h
    obtain ⟨_, -, h⟩ := check_bind_ok h
    obtain ⟨_, -, h⟩ := check_bind_ok h
    obtain ⟨_, -, h⟩ := check_bind_ok h
    rw [readFile, modifyGet_bind] at h
    obtain ⟨_, -, h⟩ := check_bind_ok h
    rw [readFile, modifyGet_bind] at h
    obtain ⟨_, -, h⟩ := check_bind_ok h
    obtain ⟨_, -, h⟩ := check_bind_ok h
    simpa only [OS.pop_offset] using checkMatchingDigest_offset h
  · cases h

theorem BuildVerifier.verifyHoistArtifact_offset {env : Env KeyRing} {keyring : KeyRing}
    {localCopy : List UInt8} {loc : String} {os os' : OS}
    (h : (BuildVerifier.verifyHoistArtifact env keyring localCopy loc).run.run os = (.ok (), os')) :
  os'.offset = max os.offset localCopy.length
  := by
  rw [BuildVerifier.verifyHoistArtifact] at h
  obtain ⟨scheme, -, h⟩ := check_bind_ok h
  split_ifs at h
  · rw [tempDir, modifyGet_bind] at h
    obtain ⟨_, -, h⟩ := check_bind_ok h
    obtain ⟨_, -, h⟩ := check_bind_ok h
    rw [readFile, modifyGet_bind] at h
    obtain ⟨_, -, h⟩ := check_bind_ok h
    simpa only [OS.pop_offset] using
      readAll_check_offset h fun _ _ _ _ h₁ => ((check_run_ok h₁).2).symm ▸ rfl
  · cases h

/-- Whatever the libraries, the fetcher and the file system do, when the composite verifier
returns nil it has read the local copy to its end; only a copy handed over past its end and
accepted by the manifest route stays where it was, since `ReadAll` reads nothing there. The
verifiers do not seek back after reading, so a caller that reads the artifact from the same file
afterwards must seek first. -/
theorem verifyHoistArtifact_leaves_copy_at_end (env : Env KeyRing) (keyring : KeyRing)
    (localCopy : List UInt8) (loc : String) (os os' : OS)
    (h : (CompositeVerifier.verifyHoistArtifact env keyring localCopy loc).run.run os
      = (.ok (), os')) :
  os'.offset = localCopy.length ∨ (localCopy.length < os.offset ∧ os'.offset = os.offset)
  := by
  rw [CompositeVerifier.verifyHoistArtifact, tryCatch_run] at h
  rcases hm : (BuildManifestVerifier.verifyHoistArtifact env keyring localCopy loc).run.run os
    with ⟨_ | _, os₁⟩ <;> rw [hm] at h <;> dsimp only at h
  · -- the fallback reads the copy from the start the seek moved it to
    rw [seekStart, modifyGet_bind] at h
    obtain ⟨_, hseek, h⟩ := check_bind_ok h
    rcases hp : os₁.pop.1 with _ | ⟨err, _⟩ <;> rw [hp] at hseek h
    · exact .inl (by simpa using BuildVerifier.verifyHoistArtifact_offset h)
    · cases hseek
  · cases h
    rw [BuildManifestVerifier.verifyHoistArtifact_offset hm]
    omega

/-- The copy `[1, 2]` handed over at offset 1 is left at its end. -/
theorem verifyHoistArtifact_leaves_copy_at_end_suffix :
  (CompositeVerifier.verifyHoistArtifact suffixEnv () [1, 2] "https://a/b").run.run
      ⟨1, "/tmp", []⟩ = (.ok (), ⟨2, "/tmp", []⟩)
    ∧ ((⟨2, "/tmp", []⟩ : OS).offset = ([1, 2] : List UInt8).length
      ∨ (([1, 2] : List UInt8).length < (⟨1, "/tmp", []⟩ : OS).offset
        ∧ (⟨2, "/tmp", []⟩ : OS).offset = (⟨1, "/tmp", []⟩ : OS).offset))
  := ⟨rfl, verifyHoistArtifact_leaves_copy_at_end suffixEnv () [1, 2] "https://a/b"
    ⟨1, "/tmp", []⟩ ⟨2, "/tmp", []⟩ rfl⟩

end P2.Auth
