import P2.Common

/-!
# Verifying a hoist artifact

`CompositeVerifier.VerifyHoistArtifact` accepts an artifact when its build manifest is signed
and names the SHA-256 of the artifact (`BuildManifestVerifier`) or, failing that, when the
artifact itself has a detached signature (`BuildVerifier`). Before it falls back it seeks the
local copy back to its start, since the manifest check may have read some or all of it.

All the verifiers call is outside this package. `Env` is what the libraries return: the
scheme of a location, the bytes the fetcher downloads, armor decoding, the signature check,
SHA-256 and the `artifact_sha` field of a YAML manifest. The calls that touch the file system
can fail at any call: `OS` holds the offset of the local copy, the name of the temporary
directory, and the outcome of each such call in the order they are made, so a run of a
verifier covers every pattern of their failures.

`verifyHoistArtifact_sound`: whatever the environment and the outcomes, the composite
verifier returns nil only if the manifest downloaded for the location is signed and names the
SHA-256 of the whole local copy, or the signature downloaded for the location signs the whole
local copy.
-/

namespace P2.Auth

/-- What the libraries and the fetcher the verifiers call return. -/
structure Env (KeyRing : Type) where
  /-- the scheme of `url.Parse(location)`, or its error -/
  parse : String → Except String String
  /-- the bytes `fetcher.CopyLocal(src, dst)` downloads from `src` and stores at `dst`, or its
  error -/
  copyLocal : String → Except String (List UInt8)
  /-- `armor.Decode(bytes)`: `none` when the bytes are not armored, and otherwise what reading
  the body of the armored block gives -/
  armorDecode : List UInt8 → Option (Except String (List UInt8))
  /-- `checkDetachedSignature(keyring, signed, signature)`: `none` when it accepts, or its
  error -/
  checkDetachedSignature : KeyRing → List UInt8 → List UInt8 → Option String
  /-- `sha256.Sum256` -/
  sha256 : List UInt8 → List UInt8
  /-- the `artifact_sha` field `yaml.Unmarshal` finds in a manifest, or its error -/
  artifactSha : List UInt8 → Except String String

/-- The state the verifiers run in: the offset of the local copy, the name `ioutil.TempDir`
gives, and the outcomes of the file system calls still to come, in order: `none` for a
success, or the error and, for a read of the local copy, the offset the failed read left. -/
structure OS where
  offset : Nat
  dir : String
  outcomes : List (Option (String × Nat))

/-- A verifier's computation: it returns a value or the error it returned, and keeps the state
it reached either way. -/
abbrev Verify := ExceptT String (StateM OS)

/-- The outcome of the next file system call, taken off the script; once the script is used
up every call succeeds. -/
def OS.pop (os : OS) : Option (String × Nat) × OS :=
  match os.outcomes with
  | [] => (none, os)
  | o :: rest => (o, { os with outcomes := rest })

/-- `ioutil.TempDir("", "artifact_verification")`. -/
def tempDir : Verify (Except String String) :=
  modifyGet fun os => (outcome Prod.fst os.pop.1 os.dir, os.pop.2)

/-- `ioutil.ReadFile` of a file the fetcher stored `stored` at. -/
def readFile (stored : List UInt8) : Verify (Except String (List UInt8)) :=
  modifyGet fun os => (outcome Prod.fst os.pop.1 stored, os.pop.2)

/-- `ioutil.ReadAll(localCopy)` of the local copy `localCopy`: the rest of it from the offset.
The offset moves to the end, or stays where it is when it is already past the end, where there
is nothing to read; a failed read leaves the offset where the script says. -/
def readAll (localCopy : List UInt8) : Verify (Except String (List UInt8)) :=
  modifyGet fun os =>
    (outcome Prod.fst os.pop.1 (localCopy.drop os.offset),
      { os.pop.2 with offset := match os.pop.1 with
                                | none => max os.offset localCopy.length
                                | some (_, stop) => stop })

/-- `localCopy.Seek(0, os.SEEK_SET)`. -/
def seekStart : Verify (Except String Unit) :=
  modifyGet fun os =>
    (outcome Prod.fst os.pop.1 (), match os.pop.1 with
                          | none => { os.pop.2 with offset := 0 }
                          | some _ => os.pop.2)

/-- The lower-case hexadecimal digit of `n < 16`. -/
def hexDigit (n : Nat) : Char := if n < 10 then Char.ofNat (48 + n) else Char.ofNat (87 + n)

/-- `hex.EncodeToString`. -/
def hexEncode (bytes : List UInt8) : String :=
  String.mk (bytes.flatMap fun b => [hexDigit (b.toNat / 16), hexDigit (b.toNat % 16)])

variable {KeyRing : Type}

/-- `verifySigned`: accept an armored or a binary detached signature of `signedBytes`. -/
def verifySigned (env : Env KeyRing) (keyring : KeyRing) (signedBytes signatureBytes : List UInt8) :
    Except String Unit := do
  let signatureBytes ← (env.armorDecode signatureBytes).getD (pure signatureBytes)
  match env.checkDetachedSignature keyring signedBytes signatureBytes with
  | some err => throw ("Could not verify data against the signature: " ++ err)
  | none => pure ()

/-- `BuildManifestVerifier.checkMatchingDigest`: the local copy, read from its offset, has the
digest the manifest names. -/
def checkMatchingDigest (env : Env KeyRing) (localCopy manifestBytes : List UInt8) :
    Verify Unit := do
  let realTarBytes ← check (← readAll localCopy)
    ("Could not read given local copy of the artifact: " ++ ·)
  let realDigest := hexEncode (env.sha256 realTarBytes)
  let artifactDigest ← check (env.artifactSha manifestBytes)
    ("Could not unmarshal manifest bytes: " ++ ·)
  if realDigest ≠ artifactDigest then
    throw ("Artifact hex digest did not match the given manifest: expected " ++ realDigest
      ++ ", was actually " ++ artifactDigest)

/-- `BuildManifestVerifier.VerifyHoistArtifact`. -/
def BuildManifestVerifier.verifyHoistArtifact (env : Env KeyRing) (keyring : KeyRing)
    (localCopy : List UInt8) (artifactLocation : String) : Verify Unit := do
  let scheme ← check (env.parse artifactLocation) id
  if scheme = "http" ∨ scheme = "https" ∨ scheme = "file" then
    let _ ← check (← tempDir) ("Could not create temporary directory for manifest file: " ++ ·)
    let manifestSrc := artifactLocation ++ ".manifest"
    let manifestStored ← check (env.copyLocal manifestSrc) fun err =>
      "Could not download artifact manifest for " ++ artifactLocation ++ ": " ++ err
    let signatureSrc := manifestSrc ++ ".sig"
    let signatureStored ← check (env.copyLocal signatureSrc) fun err =>
      "Could not download manifest signature for " ++ artifactLocation ++ ": " ++ err
    let manifestBytes ← check (← readFile manifestStored) id
    let signatureBytes ← check (← readFile signatureStored) id
    check (verifySigned env keyring manifestBytes signatureBytes) id
    checkMatchingDigest env localCopy manifestBytes
  else
    throw (artifactLocation
      ++ " does not have a recognized scheme, cannot verify manifest or signature")

/-- `BuildVerifier.VerifyHoistArtifact`. -/
def BuildVerifier.verifyHoistArtifact (env : Env KeyRing) (keyring : KeyRing)
    (localCopy : List UInt8) (artifactLocation : String) : Verify Unit := do
  let scheme ← check (env.parse artifactLocation) id
  if scheme = "http" ∨ scheme = "https" ∨ scheme = "file" then
    let dir ← check (← tempDir) ("Could not create temporary directory for manifest file: " ++ ·)
    let sigURI := artifactLocation ++ ".sig"
    let sigPath := dir ++ "/sig"
    let sigStored ← check (env.copyLocal sigURI) fun err =>
      "Could not fetch artifact signature from " ++ sigURI ++ ": " ++ err
    let sigData ← check (← readFile sigStored) fun err =>
      "Could not read downloaded signature at " ++ sigPath ++ ": " ++ err
    let signedBytes ← check (← readAll localCopy)
      ("Could not read the artifact into memory: " ++ ·)
    check (verifySigned env keyring signedBytes sigData) id
  else
    throw (artifactLocation ++ " does not have a recognized scheme, cannot verify signature")

/-- `CompositeVerifier.VerifyHoistArtifact`: the manifest verifier, and when it fails, a seek
back to the start and the build verifier. -/
def CompositeVerifier.verifyHoistArtifact (env : Env KeyRing) (keyring : KeyRing)
    (localCopy : List UInt8) (artifactLocation : String) : Verify Unit :=
  tryCatch (BuildManifestVerifier.verifyHoistArtifact env keyring localCopy artifactLocation)
    fun _ => do
      check (← seekStart) id
      BuildVerifier.verifyHoistArtifact env keyring localCopy artifactLocation

/-! ### Successful runs -/

/-- The signature bytes `signature`, armored or binary, are a detached signature of `signed`
that `checkDetachedSignature` accepts under `keyring`. -/
def SignedBy (env : Env KeyRing) (keyring : KeyRing) (signed signature : List UInt8) : Prop :=
  ∃ sig, (env.armorDecode signature = none ∧ sig = signature
      ∨ env.armorDecode signature = some (.ok sig))
    ∧ env.checkDetachedSignature keyring signed sig = none

theorem OS.pop_offset (os : OS) : os.pop.2.offset = os.offset := by
  unfold OS.pop
  split <;> rfl

theorem verifySigned_ok {env : Env KeyRing} {keyring : KeyRing} {signed signature : List UInt8}
    (h : verifySigned env keyring signed signature = .ok ()) :
  SignedBy env keyring signed signature
  := by
  unfold verifySigned at h
  rcases hd : env.armorDecode signature with _ | _ | sig <;> rw [hd] at h
  · refine ⟨signature, .inl ⟨hd, rfl⟩, ?_⟩
    rcases hc : env.checkDetachedSignature keyring signed signature with _ | err
    · rfl
    · simp [hc, bind, Except.bind, pure, Except.pure, throw, throwThe, MonadExceptOf.throw] at h
  · cases h
  · refine ⟨sig, .inr hd, ?_⟩
    rcases hc : env.checkDetachedSignature keyring signed sig with _ | err
    · rfl
    · simp [hc, bind, Except.bind, throw, throwThe, MonadExceptOf.throw] at h

/-- The digest check passes only when the manifest names the digest of the local copy read from
the offset the check starts at. -/
theorem checkMatchingDigest_ok {env : Env KeyRing} {localCopy manifestBytes : List UInt8}
    {os os' : OS} (h : (checkMatchingDigest env localCopy manifestBytes).run.run os = (.ok (), os')) :
  env.artifactSha manifestBytes = .ok (hexEncode (env.sha256 (localCopy.drop os.offset)))
  := by
  rw [checkMatchingDigest, readAll, modifyGet_bind] at h
  obtain ⟨bytes, hbytes, h⟩ := check_bind_ok h
  obtain ⟨digest, hdigest, h⟩ := check_bind_ok h
  split_ifs at h with hne
  · cases h
  · rw [hdigest, ← not_not.1 hne, outcome_ok hbytes]

/-- The manifest verifier succeeds only when the manifest downloaded for the location is
signed and names the digest of the local copy read from the offset it starts at. -/
theorem BuildManifestVerifier.verifyHoistArtifact_ok {env : Env KeyRing} {keyring : KeyRing}
    {localCopy : List UInt8} {loc : String} {os os' : OS}
    (h : (BuildManifestVerifier.verifyHoistArtifact env keyring localCopy loc).run.run os
      = (.ok (), os')) :
  ∃ manifest signature, env.copyLocal (loc ++ ".manifest") = .ok manifest
    ∧ env.copyLocal (loc ++ ".manifest" ++ ".sig") = .ok signature
    ∧ SignedBy env keyring manifest signature
    ∧ env.artifactSha manifest = .ok (hexEncode (env.sha256 (localCopy.drop os.offset)))
  := by
  rw [BuildManifestVerifier.verifyHoistArtifact] at h
  obtain ⟨scheme, -, h⟩ := check_bind_ok h
  split_ifs at h with hscheme
  · rw [tempDir, modifyGet_bind] at h
    obtain ⟨_, -, h⟩ := check_bind_ok h
    obtain ⟨manifest, hman, h⟩ := check_bind_ok h
    obtain ⟨signature, hsig, h⟩ := check_bind_ok h
    rw [readFile, modifyGet_bind] at h
    obtain ⟨mb, hmb, h⟩ := check_bind_ok h
    rw [readFile, modifyGet_bind] at h
    obtain ⟨sb, hsb, h⟩ := check_bind_ok h
    obtain ⟨_, hsigned, h⟩ := check_bind_ok h
    rw [outcome_ok hmb, outcome_ok hsb] at hsigned
    rw [outcome_ok hmb] at h
    refine ⟨manifest, signature, hman, hsig, verifySigned_ok hsigned, ?_⟩
    simpa only [OS.pop_offset] using checkMatchingDigest_ok h
  · cases h

/-- The build verifier succeeds only when the signature downloaded for the location signs the
local copy read from the offset it starts at. -/
theorem BuildVerifier.verifyHoistArtifact_ok {env : Env KeyRing} {keyring : KeyRing}
    {localCopy : List UInt8} {loc : String} {os os' : OS}
    (h : (BuildVerifier.verifyHoistArtifact env keyring localCopy loc).run.run os = (.ok (), os')) :
  ∃ signature, env.copyLocal (loc ++ ".sig") = .ok signature
    ∧ SignedBy env keyring (localCopy.drop os.offset) signature
  := by
  rw [BuildVerifier.verifyHoistArtifact] at h
  obtain ⟨scheme, -, h⟩ := check_bind_ok h
  split_ifs at h with hscheme
  · rw [tempDir, modifyGet_bind] at h
    obtain ⟨dir, -, h⟩ := check_bind_ok h
    obtain ⟨signature, hsig, h⟩ := check_bind_ok h
    rw [readFile, modifyGet_bind] at h
    obtain ⟨sd, hsd, h⟩ := check_bind_ok h
    rw [readAll, modifyGet_bind] at h
    obtain ⟨bytes, hbytes, h⟩ := check_bind_ok h
    rw [outcome_ok hsd, outcome_ok hbytes, OS.pop_offset, OS.pop_offset] at h
    exact ⟨signature, hsig, verifySigned_ok (check_run_ok h).1⟩
  · cases h

theorem tryCatch_run {α : Type} (x : Verify α) (handle : String → Verify α) (os : OS) :
  (tryCatch x handle).run.run os
    = match x.run.run os with
      | (.ok a, os₁) => (.ok a, os₁)
      | (.error e, os₁) => (handle e).run.run os₁
  := by
  simp only [tryCatch, tryCatchThe, MonadExceptOf.tryCatch, ExceptT.tryCatch, ExceptT.run_mk,
    StateT.run_bind]
  rw [show StateT.run x os = x.run.run os from rfl]
  rcases x.run.run os with ⟨_ | a, os₁⟩ <;> rfl

/-- Whatever the libraries, the fetcher and the file system do, the composite verifier accepts
a local copy handed over at offset 0 only if the manifest downloaded for the location is
signed and names the SHA-256 of the whole local copy, or the signature downloaded for the
location signs the whole local copy: the seek before the fallback makes the build verifier
read the whole copy whatever the manifest verifier read of it. -/
theorem verifyHoistArtifact_sound (env : Env KeyRing) (keyring : KeyRing)
    (localCopy : List UInt8) (loc dir : String) (outcomes : List (Option (String × Nat)))
    (os' : OS)
    (h : (CompositeVerifier.verifyHoistArtifact env keyring localCopy loc).run.run
      ⟨0, dir, outcomes⟩ = (.ok (), os')) :
  (∃ manifest signature, env.copyLocal (loc ++ ".manifest") = .ok manifest
      ∧ env.copyLocal (loc ++ ".manifest" ++ ".sig") = .ok signature
      ∧ SignedBy env keyring manifest signature
      ∧ env.artifactSha manifest = .ok (hexEncode (env.sha256 localCopy)))
    ∨ ∃ signature, env.copyLocal (loc ++ ".sig") = .ok signature
      ∧ SignedBy env keyring localCopy signature
  := by
  rw [CompositeVerifier.verifyHoistArtifact, tryCatch_run] at h
  rcases hm : (BuildManifestVerifier.verifyHoistArtifact env keyring localCopy loc).run.run
    ⟨0, dir, outcomes⟩ with ⟨_ | _, os₁⟩ <;> rw [hm] at h <;> dsimp only at h
  · rw [seekStart, modifyGet_bind] at h
    obtain ⟨_, hseek, h⟩ := check_bind_ok h
    rcases hp : os₁.pop.1 with _ | ⟨err, _⟩ <;> rw [hp] at hseek h
    · exact .inr (BuildVerifier.verifyHoistArtifact_ok h)
    · cases hseek
  · cases h
    exact .inl (BuildManifestVerifier.verifyHoistArtifact_ok hm)

/-- Libraries under which every location is https, every download is the bytes of a manifest
naming the digest of the artifact `[1, 2]` under the identity hash, and every signature is
binary and accepted. -/
def trustingEnv : Env Unit :=
  ⟨fun _ => .ok "https", fun _ => .ok [1, 2], fun _ => none, fun _ _ _ => none, id,
    fun _ => .ok (hexEncode [1, 2])⟩

theorem verifyHoistArtifact_sound_trusting :
  (CompositeVerifier.verifyHoistArtifact trustingEnv () [1, 2] "https://a/b").run.run
      ⟨0, "/tmp", []⟩ = (.ok (), ⟨2, "/tmp", []⟩)
    ∧ ((∃ manifest signature, trustingEnv.copyLocal ("https://a/b" ++ ".manifest") = .ok manifest
        ∧ trustingEnv.copyLocal ("https://a/b" ++ ".manifest" ++ ".sig") = .ok signature
        ∧ SignedBy trustingEnv () manifest signature
        ∧ trustingEnv.artifactSha manifest = .ok (hexEncode (trustingEnv.sha256 [1, 2])))
      ∨ ∃ signature, trustingEnv.copyLocal ("https://a/b" ++ ".sig") = .ok signature
        ∧ SignedBy trustingEnv () [1, 2] signature)
  := ⟨rfl, verifyHoistArtifact_sound trustingEnv () [1, 2] "https://a/b" "/tmp" [] ⟨2, "/tmp", []⟩ rfl⟩

end P2.Auth
