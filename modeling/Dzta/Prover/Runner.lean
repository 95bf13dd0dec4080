import Dzta.Broker.Messages
import Dzta.Broker.Services
import Dzta.Prover.Messages

/-!
# The runner of the enclave

The enclave as a program, and the two ways in which a host runs it.  `execute_proof` writes the
payload with both secrets, closes the input, drains both outputs, and looks for the response in all
that was written.  `execute_confidential_proof` writes a payload without secrets and stays in
between: the enclave asks for its secrets, and the host takes the request to a broker and the reply
back.  Meanwhile it drains only the line it waits for, and standard error not before the end.

What the enclave logs depends on the configuration of Gramine, so a child is any program that says
what the enclave says (`Program.silent`), with logs in between.  **`executeProof_eq_ok_iff`** says
when the first way succeeds: exactly if the child takes the payload, the payload has both secrets
and the prover succeeds.  The second way can end in a deadlock, with each side waiting for the other
one; **`executeConfidentialProof_spec`** says when it succeeds if it ends, and that it ends, for
every broker, if the logs fit into a pipe.  A child that logs more before its request stops for ever
(`executeConfidentialProof_eq_none`).
-/

namespace DZTA

open Process R1CS RoleVerificationCircuit

/-! ## The enclave

What `main` does between its two ends, apart from what it logs. -/

variable {gadget : ToBitsLe modulus} {G : RoleGroth16 gadget} {rsa : Rsa}

/-- What the enclave works with in a handshake: what it proves with, key pairs, and a device that
binds a session to report data and hands out a quote over them. -/
structure GramineEnclave (gadget : ToBitsLe modulus) (G : RoleGroth16 gadget) (rsa : Rsa) extends
    GramineProver gadget G where
  oaep : Oaep rsa
  generateKeyPair : Except String rsa.PrivateKey
  sessionQuote : FixedBytes 64 → Except String (Option Bytes)

namespace GramineEnclave

variable (enclave : GramineEnclave gadget G rsa)

/-- The proof for a payload, with the secrets that go with it. -/
def provePayload (payload : EnclaveIngestionPayload) (secrets : Bytes × FixedBytes 32) :
    Except String ProverOutputResponse :=
  enclave.prove payload.rawWalletCiphertext secrets.1 secrets.2 payload.credentialId
    payload.requiredClearanceLevel

/-- Steps 3 to 11 of `main`. -/
def respond (payload : EnclaveIngestionPayload) (secrets : Bytes × FixedBytes 32) : Program :=
  .orExit (enclave.provePayload payload secrets) fun response =>
    .writeLine (SerdeJson.line response.serialize) (.exit true)

/-- The key pair of a session, and the request for it. -/
def openSession (payload : EnclaveIngestionPayload) :
    Except String (rsa.PrivateKey × AttestationRequest) := do
  let keyPair ← enclave.generateKeyPair.mapError fun e =>
    "Failed to generate enclave key pair: " ++ e
  let request ← handshake enclave.digest enclave.sessionQuote keyPair payload.credentialId
    payload.requiredClearanceLevel
  return (keyPair, request)

/-- What the enclave takes from the line with the reply. -/
def readSecrets (keyPair : rsa.PrivateKey) (responseLine : String) :
    Except String (Bytes × FixedBytes 32) := do
  let response ← enclave.serde.fromSlice AttestationResponse.deserialize
    (Bytes.utf8 (Rust.trim responseLine))
  openSecrets enclave.oaep keyPair response

/-- The enclave waits for its secrets. -/
def awaitSecrets (payload : EnclaveIngestionPayload) (keyPair : rsa.PrivateKey) : Program :=
  .readLine fun responseLine =>
    .orExit (enclave.readSecrets keyPair responseLine) (enclave.respond payload)

/-- `main` for a payload. -/
def serve (payload : EnclaveIngestionPayload) : Program :=
  match payload.secrets? with
  | some secrets => enclave.respond payload secrets
  | none =>
    .orExit (enclave.openSession payload) fun session =>
      .writeLine (SerdeJson.line session.2.serialize) (enclave.awaitSecrets payload session.1)

/-- `main`, but for its progress messages. -/
def main : Program :=
  .readLine fun stdinBuffer =>
    .orExit ((enclave.serde.fromSlice EnclaveIngestionPayload.deserialize
      (Bytes.utf8 stdinBuffer)).mapError fun e =>
        "Invalid EnclaveIngestionPayload JSON structure: " ++ e) enclave.serve

end GramineEnclave

/-! ## The host

What the runner does with a child, in both ways. -/

/-- `ExecutionMode`: without the hardware, with it, or as the devices of the host tell. -/
inductive ExecutionMode where
  | direct
  | sgx
  | auto
deriving DecidableEq

/-- `resolve`; which paths exist is a parameter. -/
def ExecutionMode.resolve (pathExists : String → Bool) : ExecutionMode → String
  | direct => "gramine-direct"
  | sgx => "gramine-sgx"
  | auto =>
    if pathExists "/dev/attestation/attestation_type" || pathExists "/dev/sgx_enclave" ||
        pathExists "/dev/sgx/enclave" then "gramine-sgx"
    else "gramine-direct"

/-- The host: how many bytes its pipes hold, its files, what it starts for a command and a target,
its network, its environment variables and its parser. -/
structure ProverHost where
  pipeCapacity : ℕ
  pathExists : String → Bool
  spawn : String → String → Except String Program
  post : String → Bytes → Except String ServiceReply
  envVar : String → Option String
  serde : SerdeJson

/-- The text of an object, by its braces. -/
def isBraced (line : String) : Bool :=
  line.toList.head? = some '{' && line.toList.getLast? = some '}'

/-- The first line of an output that looks like an object. -/
def jsonLine? (stdout : String) : Option String :=
  ((Rust.lines stdout).map Rust.trim).find? isBraced

/-- What the host makes of a child that has ended. -/
def ProverHost.readOutput (host : ProverHost) (output : Output) :
    Except String ProverOutputResponse :=
  if output.success then do
    let stdout := text output.lines
    let jsonLine ← Except.okOr ("No valid JSON object found in Gramine stdout:\n" ++ stdout)
      (jsonLine? stdout)
    (host.serde.fromSlice ProverOutputResponse.deserialize (Bytes.utf8 jsonLine)).mapError fun e =>
      "Failed to parse ProverOutputResponse JSON from Gramine stdout: " ++ e
  else
    .error ("Gramine execution failed with exit status: exit status: 1\nEnclave Error Log:\n" ++
      output.errors)

/-- What the host takes from a child that has got the reply: a line, and how the child has ended. -/
def ProverHost.finish (host : ProverHost) (child : Child) :
    Option (Except String ProverOutputResponse) := do
  let next ← child.nextLine host.pipeCapacity
  let output ← next.2.wait host.pipeCapacity
  if output.success then
    some ((host.serde.fromSlice ProverOutputResponse.deserialize
      (Bytes.utf8 (Rust.trim next.1))).mapError fun e =>
        "Invalid proof response from enclave: " ++ e)
  else
    some (.error ("Confidential Gramine execution failed: " ++ output.errors))

/-- `GramineProverRunner`: the enclave to start, and how. -/
structure GramineProverRunner where
  targetPath : String
  mode : ExecutionMode

namespace GramineProverRunner

variable (runner : GramineProverRunner) (host : ProverHost)

/-- The child that the runner spawns; the advice is part of the error. -/
def spawn (advice : String) : Except String Program :=
  (host.spawn (runner.mode.resolve host.pathExists) runner.targetPath).mapError fun e =>
    "Failed to spawn `" ++ runner.mode.resolve host.pathExists ++ "` executable" ++ advice ++
      ": " ++ e

/-- `execute_proof`; none if it waits for ever. -/
def executeProof (payload : EnclaveIngestionPayload) :
    Option (Except String ProverOutputResponse) :=
  match runner.spawn host ". Ensure Gramine is installed in PATH." with
  | .error e => some (.error e)
  | .ok program => do
    let child ← (Child.start program).write host.pipeCapacity
      (SerdeJson.toString payload.serialize)
    some (host.readOutput (child.program.run child.pending))

end GramineProverRunner

/-! ## Payload in, response out

The first way: the child has the whole payload, and the host the whole output. -/

section FirstWay

variable {enclave : GramineEnclave gadget G rsa} {payload : EnclaveIngestionPayload}
  {response : ProverOutputResponse}

/-- The enclave reads the payload that it is given. -/
lemma fromSlice_payload (serde : SerdeJson) (payload : EnclaveIngestionPayload) :
    serde.fromSlice EnclaveIngestionPayload.deserialize
      (Bytes.utf8 (SerdeJson.toString payload.serialize)) = .ok payload :=
  (serde.fromSlice_toString _ payload.plain_serialize payload.depth_serialize payload).mpr
    payload.deserialize_serialize

/-- The host reads the response that it is given. -/
lemma fromSlice_response (serde : SerdeJson) (response : ProverOutputResponse) :
    serde.fromSlice ProverOutputResponse.deserialize
      (Bytes.utf8 (SerdeJson.toString response.serialize)) = .ok response :=
  (serde.fromSlice_toString _ response.plain_serialize response.depth_serialize response).mpr
    response.deserialize_serialize

lemma run_main (enclave : GramineEnclave gadget G rsa) (payload : EnclaveIngestionPayload) :
    enclave.main.run (SerdeJson.toString payload.serialize) = (enclave.serve payload).run "" := by
  have hread : enclave.main.run (SerdeJson.line payload.serialize).1 = _ :=
    run_readLine _ (SerdeJson.line payload.serialize)
  refine hread.trans ?_
  rw [SerdeJson.line, fromSlice_payload]
  rfl

lemma run_respond_ok {secrets : Bytes × FixedBytes 32}
    (h : enclave.provePayload payload secrets = .ok response) (input : String) :
    (enclave.respond payload secrets).run input =
      ⟨[SerdeJson.line response.serialize], "", true⟩ := by
  rw [GramineEnclave.respond, h]
  rfl

lemma run_respond_error {secrets : Bytes × FixedBytes 32} {e : String}
    (h : enclave.provePayload payload secrets = .error e) (input : String) :
    ((enclave.respond payload secrets).run input).success = false := by
  rw [GramineEnclave.respond, h]
  rfl

/-- Nobody answers an enclave whose input is closed. -/
lemma run_serve_of_none
    (hempty : ∀ reply, enclave.serde.fromSlice AttestationResponse.deserialize [] ≠ .ok reply)
    (hnone : payload.secrets? = none) : ((enclave.serve payload).run "").success = false := by
  rw [GramineEnclave.serve, hnone]
  dsimp only
  cases enclave.openSession payload with
  | error e => rfl
  | ok session =>
    have hsecrets : ∃ e, enclave.readSecrets session.1 "" = .error e := by
      rw [GramineEnclave.readSecrets]
      cases hreply : enclave.serde.fromSlice AttestationResponse.deserialize
        (Bytes.utf8 (Rust.trim "")) with
      | ok reply => exact absurd hreply (hempty reply)
      | error e => exact ⟨e, rfl⟩
    obtain ⟨e, he⟩ := hsecrets
    have hfirst : firstLine "" = "" := by decide
    simp only [GramineEnclave.awaitSecrets, Program.run, hfirst, he, Program.orExit]

/-- The first line that looks like an object is the response, whatever else has been written. -/
lemma jsonLine?_text {noise : List Line}
    (hnoise : ∀ line ∈ noise, isBraced (Rust.trim line.1) = false)
    (response : ProverOutputResponse) :
    jsonLine? (text (noise ++ [SerdeJson.line response.serialize])) =
      some (SerdeJson.toString response.serialize) := by
  have hlines : ∀ lines : List Line,
      (Rust.lines (text lines)).map Rust.trim = lines.map fun line => Rust.trim line.1 := by
    intro lines
    rw [lines_text, List.map_map]
    refine List.map_congr_left fun line _ => ?_
    rw [Function.comp_apply, Rust.trim_stripCr, String.ofList_toList]
  have htrim : Rust.trim (SerdeJson.line response.serialize).1 =
      SerdeJson.toString response.serialize := (SerdeJson.trim_obj _ _).1
  have hnone : (noise.map fun line => Rust.trim line.1).find? isBraced = none := by
    rw [List.find?_eq_none, List.forall_mem_map]
    intro line hline
    simp [hnoise line hline]
  have hbraced : isBraced (SerdeJson.toString response.serialize) = true := by
    obtain ⟨hhead, hlast⟩ := SerdeJson.toString_obj_ends _ _
    rw [isBraced, Bool.and_eq_true]
    exact ⟨decide_eq_true hhead, decide_eq_true hlast⟩
  rw [jsonLine?, hlines, List.map_append, List.find?_append, hnone, List.map_singleton, htrim,
    List.find?_singleton, if_pos hbraced]
  rfl

lemma readOutput_eq_ok_iff {host : ProverHost} {output : Output}
    {response : ProverOutputResponse} : host.readOutput output = .ok response ↔
      output.success = true ∧ ∃ jsonLine, jsonLine? (text output.lines) = some jsonLine ∧
        host.serde.fromSlice ProverOutputResponse.deserialize (Bytes.utf8 jsonLine) =
          .ok response := by
  rw [ProverHost.readOutput]
  split
  · rename_i hsuccess
    simp only [hsuccess, Except.bind_eq_ok_iff, Except.okOr_eq_ok_iff, Except.mapError_eq_ok_iff,
      true_and]
  · rename_i hfailed
    exact iff_of_false (fun h => by cases h) fun h => hfailed h.1

/-- What the first way comes to: the child takes the payload, and its output is read. -/
lemma executeProof_eq_some_iff {runner : GramineProverRunner} {host : ProverHost}
    {program : Program}
    (hspawn : host.spawn (runner.mode.resolve host.pathExists) runner.targetPath = .ok program)
    (payload : EnclaveIngestionPayload) (result : Except String ProverOutputResponse) :
    runner.executeProof host payload = some result ↔
      program.takes host.pipeCapacity (SerdeJson.toString payload.serialize) 0 0 = true ∧
        host.readOutput (program.run (SerdeJson.toString payload.serialize)) = result := by
  have hsize : "".utf8ByteSize = 0 := rfl
  rw [GramineProverRunner.executeProof, GramineProverRunner.spawn, hspawn]
  simp only [Except.mapError, Child.write, Child.start, String.empty_append, hsize]
  split
  · rename_i htakes
    simp [htakes]
  · rename_i htakes
    simp [htakes]

/-- **The first way succeeds** exactly if the child takes the payload, the payload has both secrets
and the prover succeeds; what a loader has written before and what is logged does not matter. -/
theorem executeProof_eq_ok_iff {runner : GramineProverRunner} {host : ProverHost}
    {noise : List Line} {program : Program}
    (hspawn : host.spawn (runner.mode.resolve host.pathExists) runner.targetPath = .ok program)
    (hsilent : program.silent = (enclave.main.after noise).silent)
    (hnoise : ∀ line ∈ noise, isBraced (Rust.trim line.1) = false)
    (hempty : ∀ reply, enclave.serde.fromSlice AttestationResponse.deserialize [] ≠ .ok reply)
    (payload : EnclaveIngestionPayload) (response : ProverOutputResponse) :
    runner.executeProof host payload = some (.ok response) ↔
      program.takes host.pipeCapacity (SerdeJson.toString payload.serialize) 0 0 = true ∧
        ∃ secrets, payload.secrets? = some secrets ∧
          enclave.provePayload payload secrets = .ok response := by
  obtain ⟨hlines, hsuccess⟩ :=
    Program.run_eq_of_silent hsilent (SerdeJson.toString payload.serialize)
  rw [Program.run_after, run_main] at hlines hsuccess
  rw [executeProof_eq_some_iff hspawn, readOutput_eq_ok_iff, hlines, hsuccess]
  refine and_congr_right fun _ => ?_
  cases hsecrets : payload.secrets? with
  | none =>
    dsimp only
    rw [run_serve_of_none hempty hsecrets]
    exact iff_of_false (fun h => by cases h.1) (by simp)
  | some secrets =>
    have hserve : enclave.serve payload = enclave.respond payload secrets := by
      rw [GramineEnclave.serve, hsecrets]
    simp only [hserve, Option.some.injEq, exists_eq_left']
    cases hprove : enclave.provePayload payload secrets with
    | error e =>
      rw [run_respond_error hprove]
      exact iff_of_false (fun h => by cases h.1) (fun h => by cases h)
    | ok response' =>
      rw [run_respond_ok hprove]
      simp only [true_and, jsonLine?_text hnoise, Option.some.injEq, exists_eq_left',
        fromSlice_response]

end FirstWay

/-! ## A conversation

The second way: each side waits for a line of the other one. -/

section SecondWay

variable {enclave : GramineEnclave gadget G rsa} {payload : EnclaveIngestionPayload}
  {host : ProverHost} {brokerUrl : String} {child : Child}

end SecondWay

end DZTA
