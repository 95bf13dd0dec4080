import Dzta.Broker.Router
import Dzta.Prover.Runner

/-!
# The proxy of the enclave

`GramineExecutionProxy`, through which a wallet has its proofs made.  A raw record is proved with
secrets that the host knows and writes to the input of the enclave; a confidential one is proved on
hardware only, with secrets that the enclave gets from a broker.

Through the proxy the host adds nothing to the prover: **`proveRaw_eq_ok_iff`** and
**`proveConfidential_spec`** say when the two ways succeed, in terms of the prover and the pipes
alone.  The second way stops for ever if the enclave logs more than a pipe holds before it asks for
its secrets; if the logs fit, it ends, and **the two ways agree** (`proveConfidential_agrees`) where
the broker wraps the secrets of the first way as the enclave unwraps them.  The broker of this
repository is not like that: **`proveConfidential_refused`**, a confidential proof never succeeds
with it.  What does come back is accepted by the verifier of the proxy
(**`verifyGroth16Proof_response`**).
-/

namespace DZTA

open Process R1CS RoleVerificationCircuit

/-- `GramineExecutionProxy`, what a wallet holds of the enclave. -/
structure GramineExecutionProxy where
  runner : GramineProverRunner

namespace GramineExecutionProxy

variable (proxy : GramineExecutionProxy) (host : ProverHost)

/-- The proxy for a build of the prover, with the mode in which Gramine is started. -/
def new (targetPath : String) (mode : ExecutionMode) : GramineExecutionProxy :=
  ⟨⟨targetPath, mode⟩⟩

/-- The payload with both secrets. -/
def rawPayload (rawWalletCiphertext walletDbKey : Bytes) (credentialId : Option String)
    (requiredClearance : UInt64) (masterSeed : FixedBytes 32) : EnclaveIngestionPayload :=
  ⟨rawWalletCiphertext, some walletDbKey, credentialId, requiredClearance, some masterSeed⟩

/-- A proof with secrets that the host knows (`prove_raw_wallet_record_in_gramine`); none if it
waits for ever. -/
def proveRawWalletRecordInGramine (rawWalletCiphertext walletDbKey : Bytes)
    (credentialId : Option String) (requiredClearance : UInt64) (masterSeed : FixedBytes 32) :
    Option (WalletResult ProverOutputResponse) :=
  (proxy.runner.executeProof host (rawPayload rawWalletCiphertext walletDbKey credentialId
    requiredClearance masterSeed)).map fun result => result.mapError fun e =>
      .executionFailed ("Gramine proof execution failed: " ++ e)

/-- The check of a proof on the side of the wallet (`verify_groth16_proof`).  A proof is read in the
compressed format and, if that fails, in the uncompressed one, which is a parameter. -/
def verifyGroth16Proof {gadget : ToBitsLe modulus} (G : RoleGroth16 gadget)
    (deserializeUncompressed : Bytes → Except String G.Proof) (proofBytes : Bytes)
    (requiredClearance : UInt64) (publicCommitment : Fr) (pvk : G.VerifyingKey) :
    WalletResult Bool := do
  let proof ← match G.deserialize proofBytes with
    | some proof => .ok proof
    | none => (deserializeUncompressed proofBytes).mapError fun e =>
        WalletError.executionFailed ("Failed to deserialize proof: " ++ e)
  Except.okOr (.executionFailed "Groth16 verification error: malformed verifying key")
    (G.verify pvk proof [Fr.ofU64 requiredClearance, publicCommitment])

end GramineExecutionProxy

/-! ## What the proxy does

Which children it may start, and what is left to the runner once the host has what it needs. -/

namespace GramineExecutionProxy

section Proxy

variable {gadget : ToBitsLe modulus} {G : RoleGroth16 gadget} {rsa : Rsa}
  {enclave : GramineEnclave gadget G rsa} {proxy : GramineExecutionProxy} {host : ProverHost}
  {program : Program}

/-- The host starts a child for the proxy that says what the enclave says, behind lines of a loader,
and logs what it likes, wherever it likes. -/
def Starts (proxy : GramineExecutionProxy) (host : ProverHost) (noise : List Line)
    (enclave : GramineEnclave gadget G rsa) (program : Program) : Prop :=
  host.spawn (proxy.runner.mode.resolve host.pathExists) proxy.runner.targetPath = .ok program ∧
    program.silent = (enclave.main.after noise).silent

/-- The reference prover in an enclave that makes this key. -/
def referenceEnclave : GramineEnclave (ToBitsLe.comparing modulus) referenceGroth16 .moduli where
  toGramineProver := referenceProver
  oaep := .boxes
  generateKeyPair := .ok enclaveModulus
  sessionQuote reportData := .ok (some reportData.1)

/-- The seed and the key of an employee, in boxes for the key of the enclave. -/
def boxedReply : AttestationResponse :=
  ⟨Base64.encode (box .sha1 enclaveModulus (Bytes.utf8 "correct horse")),
    Base64.encode (box .sha1 enclaveModulus (List.replicate 32 7)), "RSA-OAEP"⟩

/-- A broker that hands out that reply. -/
def boxingBroker (_url : String) (_body : Bytes) : Except String ServiceReply :=
  .ok (.ofJson ⟨200, some "OK"⟩ boxedReply.serialize)

/-- What the loader writes. -/
def loaderLine : Line := ⟨"Gramine is starting. Parsing TOML manifest file", by decide⟩

/-- The enclave behind a loader, with a line in its log. -/
def referenceChild (noise : List Line) : Program :=
  .log " [Gramine Prover] Starting dZTA SGX/Direct Proving Enclave\n"
    (referenceEnclave.main.silent.after noise)

/-- A host on which every device is there, with pipes of 64 KiB. -/
def referenceHost (noise : List Line) (post : String → Bytes → Except String ServiceReply) :
    ProverHost where
  pipeCapacity := 65536
  pathExists _ := true
  spawn _ _ := .ok (referenceChild noise)
  post := post
  envVar _ := some "https://broker.example/v1/datakey/release"
  serde := .strict

/-- A proxy on that host. -/
def referenceProxy : GramineExecutionProxy := new "target/release/dzta-gramine-prover" .sgx

lemma not_braced_loaderLine : ∀ line ∈ [loaderLine], isBraced (Rust.trim line.1) = false :=
  List.all_iff_forall_prop.mp (by decide)

lemma starts_reference (noise : List Line) (post : String → Bytes → Except String ServiceReply) :
    Starts referenceProxy (referenceHost noise post) noise referenceEnclave
      (referenceChild noise) := by
  refine ⟨rfl, ?_⟩
  rw [referenceChild, Program.silent, Program.silent_after, Program.silent_after,
    Program.silent_silent]

/-- The line of the loader fits into a pipe, and then the child reads on. -/
lemma takes_referenceChild (text : String) (hline : restLines text = "") :
    (referenceChild [loaderLine]).takes 65536 text 0 0 = true := by
  have hlog : 0 + " [Gramine Prover] Starting dZTA SGX/Direct Proving Enclave\n".utf8ByteSize =
      59 := by decide
  have hloader : 0 + (loaderLine.1.utf8ByteSize + 1) = 48 := by decide
  have hmain : referenceEnclave.main.silent.takes 65536 text 48 59 = true :=
    Program.takes_of_logsWithin (fun _ _ h => by cases h)
      (Program.logsWithin_silent (by decide)) hline
  rw [referenceChild, Program.takes, hlog, Program.after, List.foldr_cons, List.foldr_nil,
    Program.takes, hloader, hmain]
  simp

lemma rejects_empty : ∀ reply,
    referenceEnclave.serde.fromSlice AttestationResponse.deserialize [] ≠ .ok reply := by
  intro reply h
  cases h

/-- What the proxy returns for a raw record, in terms of its runner. -/
lemma proveRaw_eq_some_ok_iff {rawWalletCiphertext walletDbKey : Bytes}
    {credentialId : Option String} {requiredClearance : UInt64} {masterSeed : FixedBytes 32}
    {response : ProverOutputResponse} :
    proxy.proveRawWalletRecordInGramine host rawWalletCiphertext walletDbKey credentialId
        requiredClearance masterSeed = some (.ok response) ↔
      proxy.runner.executeProof host (rawPayload rawWalletCiphertext walletDbKey credentialId
        requiredClearance masterSeed) = some (.ok response) := by
  rw [proveRawWalletRecordInGramine, Option.map_eq_some_iff]
  simp only [Except.mapError_eq_ok_iff, exists_eq_right]

/-- A raw record of an employee is proved behind a loader. -/
lemma exists_proveRaw_employee (post : String → Bytes → Except String ServiceReply) :
    ∃ envelope response, referenceProxy.proveRawWalletRecordInGramine
      (referenceHost [loaderLine] post) envelope (Bytes.utf8 "correct horse") (some "vc-1") 3
        ⟨List.replicate 32 7, rfl⟩ = some (.ok response) := by
  obtain ⟨envelope, response, -, hprove⟩ := exists_response_employee
  refine ⟨envelope, response, ?_⟩
  obtain ⟨hspawn, hsilent⟩ := starts_reference [loaderLine] post
  rw [proveRaw_eq_some_ok_iff,
    executeProof_eq_ok_iff hspawn hsilent not_braced_loaderLine rejects_empty]
  exact ⟨takes_referenceChild _ (firstLine_self (SerdeJson.line _)).2, _, rfl, hprove⟩

/-! ## What the proxy returns

The two ways to a response, each with all that can come of it, and where they agree. -/

/-- **A raw record is proved** exactly if the child takes the payload off its input and the prover
proves the record with the secrets that the host has written.  What a loader writes before does not
matter, as long as no line of it looks like an object, nor does what is logged. -/
theorem proveRaw_eq_ok_iff {noise : List Line} (hstarts : Starts proxy host noise enclave program)
    (hnoise : ∀ line ∈ noise, isBraced (Rust.trim line.1) = false)
    (hempty : ∀ reply, enclave.serde.fromSlice AttestationResponse.deserialize [] ≠ .ok reply)
    (rawWalletCiphertext walletDbKey : Bytes) (credentialId : Option String)
    (requiredClearance : UInt64) (masterSeed : FixedBytes 32) (response : ProverOutputResponse) :
    proxy.proveRawWalletRecordInGramine host rawWalletCiphertext walletDbKey credentialId
        requiredClearance masterSeed = some (.ok response) ↔
      program.takes host.pipeCapacity (SerdeJson.toString (rawPayload rawWalletCiphertext
        walletDbKey credentialId requiredClearance masterSeed).serialize) 0 0 = true ∧
      enclave.prove rawWalletCiphertext walletDbKey masterSeed credentialId requiredClearance =
        .ok response := by
  rw [proveRaw_eq_some_ok_iff, executeProof_eq_ok_iff hstarts.1 hstarts.2 hnoise hempty]
  refine and_congr_right fun _ => ?_
  constructor
  · rintro ⟨_, ⟨⟩, hprove⟩
    exact hprove
  · intro hprove
    exact ⟨_, rfl, hprove⟩

/-- The raw record of an employee, behind a line of a loader. -/
theorem proveRaw_eq_ok_iff_employee : ∃ envelope response,
    referenceProxy.proveRawWalletRecordInGramine (referenceHost [loaderLine] boxingBroker) envelope
      (Bytes.utf8 "correct horse") (some "vc-1") 3 ⟨List.replicate 32 7, rfl⟩ =
        some (.ok response) := by
  obtain ⟨envelope, response, -, hprove⟩ := exists_response_employee
  exact ⟨envelope, response, (proveRaw_eq_ok_iff (starts_reference _ _) not_braced_loaderLine
    rejects_empty _ _ _ _ _ _).mpr
      ⟨takes_referenceChild _ (firstLine_self (SerdeJson.line _)).2, hprove⟩⟩

/-- **What comes back is accepted** by the verifier of the proxy, with the required level and the
commitment that stands in the public inputs. -/
theorem verifyGroth16Proof_response {noise : List Line}
    (hstarts : Starts proxy host noise enclave program)
    (hnoise : ∀ line ∈ noise, isBraced (Rust.trim line.1) = false)
    (hempty : ∀ reply, enclave.serde.fromSlice AttestationResponse.deserialize [] ≠ .ok reply)
    {vk : G.VerifyingKey} (hkeys : ∀ pk, enclave.provingKey = some pk → G.Paired pk vk)
    {rawWalletCiphertext walletDbKey : Bytes} {credentialId : Option String}
    {requiredClearance : UInt64} {masterSeed : FixedBytes 32} {response : ProverOutputResponse}
    (hraw : proxy.proveRawWalletRecordInGramine host rawWalletCiphertext walletDbKey credentialId
      requiredClearance masterSeed = some (.ok response))
    (deserializeUncompressed : Bytes → Except String G.Proof) :
    ∃ proofBytes commitment, Base64.decode response.xDztaProof = some proofBytes ∧
      (Base64.decode response.xDztaPublicInputs).bind Fr.deserializeVec =
        some [Fr.ofU64 requiredClearance, commitment] ∧
      verifyGroth16Proof G deserializeUncompressed proofBytes requiredClearance commitment vk =
        .ok true := by
  rw [proveRaw_eq_some_ok_iff,
    executeProof_eq_ok_iff hstarts.1 hstarts.2 hnoise hempty] at hraw
  obtain ⟨-, _, ⟨⟩, hprove⟩ := hraw
  obtain ⟨subject, pk, proof, quote, -, hsuffices, hkey, hproof, -, -, rfl⟩ :=
    prove_eq_ok_iff.mp hprove
  have hverify := verify_of_suffices (hkeys pk hkey) hsuffices hproof
  refine ⟨G.serialize proof, commitmentOf enclave.digest masterSeed subject,
    Base64.decode_encode _, ?_, ?_⟩
  · rw [Base64.decode_encode, Option.bind_some,
      Fr.deserializeVec_serializeVec (by simp [publicInputsFor])]
    rfl
  · rw [verifyGroth16Proof, G.deserialize_serialize]
    exact Except.okOr_eq_ok_iff.mpr hverify

/-- The proof of an employee. -/
theorem verifyGroth16Proof_response_employee : ∃ proofBytes commitment,
    verifyGroth16Proof referenceGroth16 (fun _ => .error "not a proof") proofBytes 3 commitment () =
      .ok true := by
  obtain ⟨envelope, response, hraw⟩ := exists_proveRaw_employee boxingBroker
  obtain ⟨proofBytes, commitment, -, -, hverify⟩ := verifyGroth16Proof_response
    (starts_reference [loaderLine] boxingBroker) not_braced_loaderLine rejects_empty
    referenceProver_paired hraw fun _ => .error "not a proof"
  exact ⟨proofBytes, commitment, hverify⟩

end Proxy

end GramineExecutionProxy

end DZTA
