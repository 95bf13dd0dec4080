import Dzta.Edge.Filter
import Dzta.Prover.Gramine
import Dzta.Transport.Engine

/-!
# From the prover to the edge

A response of the prover meets the edge through headers that the client writes: the proof, its
public inputs, and the id under which a revocation is looked up.  The encodings on the way are
undone in order (`reads_of_prove`), so the edge verifies what the enclave proved.

**`honest_request_continues`** is completeness from end to end: a response that is submitted with an
id that is not revoked is let through.  **`revocation_by_header`** is its limit: the id is
the client's choice and no part of the proof, so a response is let through with every id that is not
revoked, also after the credential it was made from has been revoked.
-/

namespace DZTA

open R1CS RoleVerificationCircuit

/-! ## What the edge reads

The proof and the public inputs of a request, if its headers have them. -/

section Reads

variable {setup : List (Constraint Fr)} {G : Groth16 setup}

/-- The proof in the headers of a request. -/
def HttpRequest.proof (G : Groth16 setup) (request : HttpRequest) : Option G.Proof :=
  ((request.header "x-dzta-proof").bind Base64.decode).bind G.deserialize

/-- The public inputs in the headers of a request. -/
def HttpRequest.publicInputs (request : HttpRequest) : Option (List Fr) :=
  ((request.header "x-dzta-public-inputs").bind Base64.decode).bind Fr.deserializeVec

lemma verifyZkp_eq_ok_iff {vk : G.VerifyingKey} {proofB64 inputsB64 : String} {verified : Bool} :
    verifyZkp G vk proofB64 inputsB64 = .ok verified ↔
      ∃ proof inputs, (Base64.decode proofB64).bind G.deserialize = some proof ∧
        (Base64.decode inputsB64).bind Fr.deserializeVec = some inputs ∧
        G.verify vk proof inputs = some verified := by
  rw [verifyZkp]
  cases Base64.decode proofB64 with
  | none => simp
  | some proofBytes =>
    cases Base64.decode inputsB64 with
    | none => simp
    | some inputsBytes =>
      cases hproof : G.deserialize proofBytes with
      | none => simp [hproof]
      | some proof =>
        cases hinputs : Fr.deserializeVec inputsBytes with
        | none => simp [hproof, hinputs]
        | some inputs =>
          cases hverify : G.verify vk proof inputs with
          | none => simp [hproof, hinputs, hverify]
          | some verified' => simp [hproof, hinputs, hverify]

/-- **Admission by what is read**: a public request with a proof that verifies for its public
inputs is let through exactly if it names an id that is not revoked. -/
lemma admitted_iff_of_reads {vk : G.VerifyingKey} {store : SharedData} {request : HttpRequest}
    {proof : G.Proof} {inputs : List Fr} (hpublic : request.isAdmin = false)
    (hproof : request.proof G = some proof) (hinputs : request.publicInputs = some inputs)
    (hverify : G.verify vk proof inputs = some true) :
    request.Admitted G (some vk) store ↔
      ∃ revId, request.header "x-dzta-revocation-id" = some revId ∧ ¬ store.Revoked revId := by
  constructor
  · rintro ⟨-, _, _, _, revId, -, -, -, hrev, hlive, -⟩
    exact ⟨revId, hrev, hlive⟩
  · rintro ⟨revId, hrev, hlive⟩
    rw [HttpRequest.proof, Option.bind_assoc, Option.bind_eq_some_iff] at hproof
    rw [HttpRequest.publicInputs, Option.bind_assoc, Option.bind_eq_some_iff] at hinputs
    obtain ⟨proofB64, hproofHeader, hproof⟩ := hproof
    obtain ⟨inputsB64, hinputsHeader, hinputs⟩ := hinputs
    exact ⟨hpublic, vk, proofB64, inputsB64, revId, rfl, hproofHeader, hinputsHeader, hrev, hlive,
      verifyZkp_eq_ok_iff.mpr ⟨proof, inputs, hproof, hinputs, hverify⟩⟩

end Reads

/-! ## What arrives of a response

The prover writes texts that pass the headers unchanged. -/

/-- A request carries the proof and the public inputs of a response. -/
def HttpRequest.Carries (request : HttpRequest) (response : ProverOutputResponse) : Prop :=
  request.header "x-dzta-proof" = some response.xDztaProof ∧
    request.header "x-dzta-public-inputs" = some response.xDztaPublicInputs

/-- A response that is submitted by an engine with the default names and path, whose address is an
origin; with an id that is not blank and safe in a header. -/
structure Submission (response : ProverOutputResponse) where
  http : HttpStack
  envoyUrl : String
  reachable : ∃ origin slashes, IsOrigin origin ∧
    Rust.trim envoyUrl = origin ++ String.ofList (List.replicate slashes '/')
  engine : TransportEngine
  built : TransportEngine.new http (.new envoyUrl) = .ok engine
  request : ProofRequest
  valid : ∀ v ∈ [request.requestId, request.deviceId, request.edgeId, request.action],
    validValue v = true
  proof : request.proof = some response.xDztaProof
  publicInputs : request.publicInputs = some response.xDztaPublicInputs
  revocationId : String
  names : request.revocationId = some revocationId
  not_blank : Rust.trim revocationId ≠ ""
  headerSafe : HeaderSafe revocationId

lemma isWhitespace_of_printable {c : Char} (h : Base64.Printable c) :
    Rust.isWhitespace c = false := by
  obtain ⟨hlow, hhigh⟩ := h
  simp only [Rust.isWhitespace, Bool.or_eq_false_iff, Bool.and_eq_false_iff,
    decide_eq_false_iff_not, List.mem_cons, List.not_mem_nil, not_or, not_false_eq_true, and_true]
  omega

/-- What is encoded arrives: it is neither blank nor changed on the way. -/
lemma headerSafe_encode {bs : Bytes} (h : bs ≠ []) :
    Rust.trim (Base64.encode bs) ≠ "" ∧ HeaderSafe (Base64.encode bs) := by
  have hprintable := Base64.printable_encode bs
  have hspace : ¬ Base64.Printable ' ' := by decide
  refine ⟨?_, fun c hc => ⟨?_, (hprintable c hc).2⟩, fun hhead => ?_, fun hlast => ?_⟩
  · obtain ⟨c, hc⟩ := List.exists_mem_of_ne_nil _ (Base64.encode_ne_empty h)
    rw [Ne, Rust.trim_eq_empty_iff]
    intro hblank
    have hwhite := hblank c hc
    rw [isWhitespace_of_printable (hprintable c hc)] at hwhite
    cases hwhite
  · exact le_trans (by norm_num) (hprintable c hc).1
  · exact hspace (hprintable _ (List.mem_of_head? hhead))
  · exact hspace (hprintable _ (List.mem_of_getLast? hlast))

section Prover

variable {gadget : ToBitsLe modulus} {G : RoleGroth16 gadget} {prover : GramineProver gadget G}
  {rawWalletCiphertext walletDbKey : Bytes} {masterSeed : FixedBytes 32}
  {credentialId : Option String} {requiredClearanceLevel : UInt64}
  {response : ProverOutputResponse} {vk : G.VerifyingKey}

/-- **The edge reads what the enclave proved**: whatever carries a response yields the proof and the
public inputs for the subject in the record, and they verify. -/
theorem reads_of_prove
    (hprove : prover.prove rawWalletCiphertext walletDbKey masterSeed credentialId
      requiredClearanceLevel = .ok response)
    (hkeys : ∀ pk, prover.provingKey = some pk → G.Paired pk vk) :
    ∃ subject pk proof,
      Unseals prover.cipher prover.digest prover.serde rawWalletCiphertext walletDbKey credentialId
        subject ∧
      prover.provingKey = some pk ∧
      G.prove pk (generateConstraints gadget
        (circuitFor prover.digest masterSeed requiredClearanceLevel subject))
        (nullifierOf prover.digest masterSeed subject) = .ok proof ∧
      let publicInputs := publicInputsFor prover.digest masterSeed requiredClearanceLevel subject
      G.verify vk proof publicInputs = some true ∧
      ∀ request : HttpRequest, request.Carries response →
        request.proof G = some proof ∧ request.publicInputs = some publicInputs := by
  obtain ⟨subject, pk, proof, quote, hsource, hsuffices, hkey, hproof, -, -, rfl⟩ :=
    prove_eq_ok_iff.mp hprove
  refine ⟨subject, pk, proof, hsource, hkey, hproof,
    verify_of_suffices (hkeys pk hkey) hsuffices hproof, ?_⟩
  rintro request ⟨hproofHeader, hinputsHeader⟩
  constructor
  · rw [HttpRequest.proof, hproofHeader, Option.bind_some, Base64.decode_encode, Option.bind_some,
      G.deserialize_serialize]
  · rw [HttpRequest.publicInputs, hinputsHeader, Option.bind_some, Base64.decode_encode,
      Option.bind_some, Fr.deserializeVec_serializeVec (by simp [publicInputsFor])]

lemma headerSafe_response
    (hprove : prover.prove rawWalletCiphertext walletDbKey masterSeed credentialId
      requiredClearanceLevel = .ok response) :
    ∀ v ∈ [response.xDztaProof, response.xDztaPublicInputs],
      Rust.trim v ≠ "" ∧ HeaderSafe v := by
  obtain ⟨subject, pk, proof, quote, -, -, -, -, -, -, rfl⟩ := prove_eq_ok_iff.mp hprove
  have hproof : G.serialize proof ≠ [] := by
    have hlength := G.length_serialize proof
    rintro hnil
    rw [hnil] at hlength
    cases hlength
  have hinputs : Fr.serializeVec
      (publicInputsFor prover.digest masterSeed requiredClearanceLevel subject) ≠ [] :=
    List.append_ne_nil_of_left_ne_nil (List.ne_nil_of_length_pos (by simp)) _
  simp only [List.forall_mem_cons, List.not_mem_nil, false_implies, implies_true, and_true]
  exact ⟨headerSafe_encode hproof, headerSafe_encode hinputs⟩

/-- What is submitted arrives at the edge: a public request with the response and the id. -/
lemma carries_of_submission
    (hprove : prover.prove rawWalletCiphertext walletDbKey masterSeed credentialId
      requiredClearanceLevel = .ok response) (submission : Submission response) :
    ∃ headers, submission.engine.submitProofRequest submission.request = some headers ∧
      ∀ received : HttpRequest, received.headers = headers →
        received.isAdmin = false ∧ received.Carries response ∧
        received.header "x-dzta-revocation-id" = some submission.revocationId := by
  obtain ⟨origin, slashes, horigin, haddress⟩ := submission.reachable
  have hvalues : ∀ v ∈ [response.xDztaProof, response.xDztaPublicInputs,
      submission.revocationId], Rust.trim v ≠ "" ∧ HeaderSafe v := by
    have hresponse := headerSafe_response hprove
    simp only [List.forall_mem_cons, List.not_mem_nil, false_implies, implies_true, and_true]
      at hresponse ⊢
    exact ⟨hresponse.1, hresponse.2, submission.not_blank, submission.headerSafe⟩
  obtain ⟨headers, hheaders, hpath, hproof, hinputs, hrevocation⟩ :=
    submission.engine.submitProofRequest_eq
      (by rw [TransportEngine.new_eq_ok submission.built]) horigin haddress submission.proof
      submission.publicInputs submission.names hvalues submission.valid
  refine ⟨headers, hheaders, ?_⟩
  rintro received rfl
  have hpublic : received.isAdmin = false := by
    rw [HttpRequest.isAdmin, HttpRequest.path, HttpRequest.header, hpath]
    decide
  exact ⟨hpublic, ⟨hproof, hinputs⟩, hrevocation⟩

end Prover

/-! ### The enclave of an employee

A prover that gives a response for any subject. -/

lemma referenceProver_paired (pk : referenceGroth16.ProvingKey) :
    referenceProver.provingKey = some pk → referenceGroth16.Paired pk () := fun _ => trivial

/-- A sealed subject whose clearance suffices gets a response, with the quote if there is one. -/
lemma exists_response_of (prover : GramineProver (ToBitsLe.comparing modulus) referenceGroth16)
    (hkey : prover.provingKey = some ()) (hbind : ∀ data, prover.bindSession data = .ok ())
    {quote : Option Bytes} (hquote : prover.fetchSgxQuote = .ok quote)
    (subject : DecryptedCredentialSubject) (passphrase : Bytes) (masterSeed : FixedBytes 32)
    (credentialId : Option String) {requiredClearanceLevel : UInt64}
    (hsuffices : Suffices subject.userClearanceLevel requiredClearanceLevel) :
    ∃ envelope response,
      decryptWalletRecord prover.cipher prover.digest envelope passphrase =
        .ok (Bytes.utf8 (SerdeJson.toString subject.serialize)) ∧
      prover.prove envelope passphrase masterSeed credentialId requiredClearanceLevel =
        .ok response ∧
      response.xDztaPublicInputs = Base64.encode (Fr.serializeVec
        (publicInputsFor prover.digest masterSeed requiredClearanceLevel subject)) ∧
      response.sgxDcapQuoteHex = quote.map hexEncode := by
  obtain ⟨envelope, hseal⟩ := exists_encryptWalletRecord prover.cipher prover.digest
    ⟨List.replicate 12 9, rfl⟩ (Bytes.utf8 (SerdeJson.toString subject.serialize)) passphrase
  have hopen := decryptWalletRecord_encryptWalletRecord _ _ hseal
  obtain ⟨s, hrun⟩ : ∃ s, generateConstraints (ToBitsLe.comparing modulus)
      (circuitFor prover.digest masterSeed requiredClearanceLevel subject)
      (System.new .prove) = .ok ((), s) :=
    ⟨_, generateConstraints_prove _ _ _ _ _ _⟩
  have hproof := Groth16.hashed_prove (constraints (ToBitsLe.comparing modulus)) hrun
    (nullifierOf prover.digest masterSeed subject)
  exact ⟨envelope, _, hopen, prove_eq_ok_iff.mpr ⟨subject, (), _, quote,
    .authenticated hopen (parseCredentialSubject_toString subject credentialId), hsuffices, hkey,
    hproof, hbind _, hquote, rfl⟩, rfl, rfl⟩

lemma exists_response (subject : DecryptedCredentialSubject) (passphrase : Bytes)
    (masterSeed : FixedBytes 32) (credentialId : Option String) {requiredClearanceLevel : UInt64}
    (hsuffices : Suffices subject.userClearanceLevel requiredClearanceLevel) :
    ∃ envelope response,
      decryptWalletRecord referenceProver.cipher referenceProver.digest envelope passphrase =
        .ok (Bytes.utf8 (SerdeJson.toString subject.serialize)) ∧
      referenceProver.prove envelope passphrase masterSeed credentialId requiredClearanceLevel =
        .ok response := by
  obtain ⟨envelope, response, hopen, hprove, -⟩ := exists_response_of referenceProver rfl
    (fun _ => rfl) rfl subject passphrase masterSeed credentialId hsuffices
  exact ⟨envelope, response, hopen, hprove⟩

/-- The subject of the credential `vc-1`. -/
def employee : DecryptedCredentialSubject := ⟨5, "employee", "did:dzta:alice", "vc-1"⟩

/-- The sealed credential `vc-1` gets a response for level 3. -/
lemma exists_response_employee : ∃ envelope response,
    decryptWalletRecord referenceProver.cipher referenceProver.digest envelope
        (Bytes.utf8 "correct horse") =
      .ok (Bytes.utf8 (SerdeJson.toString employee.serialize)) ∧
    referenceProver.prove envelope (Bytes.utf8 "correct horse") ⟨List.replicate 32 7, rfl⟩
        (some "vc-1") 3 =
      .ok response :=
  exists_response employee _ _ _ (by decide)

/-- A response that is submitted to the edge on this machine, with an id. -/
def referenceSubmission (response : ProverOutputResponse) (revocationId : String)
    (hblank : Rust.trim revocationId ≠ "") (hsafe : HeaderSafe revocationId) :
    Submission response where
  http := .direct
  envoyUrl := "http://127.0.0.1:10000"
  reachable := ⟨"http://127.0.0.1:10000", 0,
    ⟨"http", by simp, "127.0.0.1:10000", by decide,
      List.all_iff_forall_prop.mp (by decide), by decide⟩, by decide⟩
  engine := ⟨.direct, .new "http://127.0.0.1:10000"⟩
  built := rfl
  request := ⟨"request-1", "device-1", "edge-1", "access", some response.xDztaProof,
    some response.xDztaPublicInputs, some revocationId⟩
  valid := by
    show ∀ v ∈ ["request-1", "device-1", "edge-1", "access"], validValue v = true
    decide
  proof := rfl
  publicInputs := rfl
  revocationId := revocationId
  names := rfl
  not_blank := hblank
  headerSafe := hsafe

/-! ## From end to end

What a prover emits is admitted at the edge, unless its id is marked. -/

section EndToEnd

variable {gadget : ToBitsLe modulus} {G : RoleGroth16 gadget} {prover : GramineProver gadget G}
  {rawWalletCiphertext walletDbKey : Bytes} {masterSeed : FixedBytes 32}
  {credentialId : Option String} {requiredClearanceLevel : UInt64}
  {response : ProverOutputResponse} {vk : G.VerifyingKey}

/-- **Completeness from the prover to the edge.**  Let the prover emit a response, and let it be
submitted with an id that is not revoked.  Then whatever context handles it at the edge reads the
proof that the enclave made and exactly the required level and the commitment as public inputs; they
verify, and the request is let through. -/
theorem honest_request_continues
    (hprove : prover.prove rawWalletCiphertext walletDbKey masterSeed credentialId
      requiredClearanceLevel = .ok response)
    (hkeys : ∀ pk, prover.provingKey = some pk → G.Paired pk vk)
    (submission : Submission response) {store : SharedData}
    (hlive : ¬ store.Revoked submission.revocationId) :
    ∃ subject pk proof headers,
      Unseals prover.cipher prover.digest prover.serde rawWalletCiphertext walletDbKey credentialId
        subject ∧
      prover.provingKey = some pk ∧
      G.prove pk (generateConstraints gadget
        (circuitFor prover.digest masterSeed requiredClearanceLevel subject))
        (nullifierOf prover.digest masterSeed subject) = .ok proof ∧
      submission.engine.submitProofRequest submission.request = some headers ∧
      let publicInputs :=
        [Fr.ofU64 requiredClearanceLevel, commitmentOf prover.digest masterSeed subject]
      ∀ received : HttpRequest, received.headers = headers →
        received.proof G = some proof ∧ received.publicInputs = some publicInputs ∧
        G.verify vk proof publicInputs = some true ∧
        onHttpRequestHeaders G (some vk) store received = (store, ⟨.Continue, none⟩) := by
  obtain ⟨subject, pk, proof, hsource, hkey, hmade, hverify, hreads⟩ :=
    reads_of_prove hprove hkeys
  obtain ⟨headers, hheaders, harrives⟩ := carries_of_submission hprove submission
  refine ⟨subject, pk, proof, headers, hsource, hkey, hmade, hheaders, ?_⟩
  intro publicInputs received hreceived
  obtain ⟨hpublic, hcarries, hrevocation⟩ := harrives received hreceived
  obtain ⟨hproof, hinputs⟩ := hreads received hcarries
  have hadmitted : received.Admitted G (some vk) store :=
    (admitted_iff_of_reads hpublic hproof hinputs hverify).mpr
      ⟨submission.revocationId, hrevocation, hlive⟩
  exact ⟨hproof, hinputs, hverify, step_of_admitted hadmitted⟩

/-- An employee of clearance 3 proves level 3, and the request passes under the id `vc-1` while
nothing is revoked. -/
theorem honest_request_continues_employee :
    ∃ headers, findHeader headers "x-dzta-revocation-id" = some "vc-1" ∧
      (onHttpRequestHeaders referenceGroth16 (some ()) (fun _ => none)
        ⟨{}, headers, false⟩).2.action = .Continue := by
  obtain ⟨envelope, response, -, hprove⟩ := exists_response_employee
  have hsafe : HeaderSafe "vc-1" := ⟨List.all_iff_forall_prop.mp (by decide), by decide⟩
  let submission := referenceSubmission response "vc-1" (by decide) hsafe
  obtain ⟨_, _, _, headers, -, -, -, hheaders, hcontinue⟩ :=
    honest_request_continues hprove referenceProver_paired submission
      (show ¬ SharedData.Revoked (fun _ => none) "vc-1" by decide)
  obtain ⟨headers', hheaders', harrives⟩ := carries_of_submission hprove submission
  obtain rfl : headers' = headers := Option.some.inj (hheaders'.symm.trans hheaders)
  refine ⟨headers', (harrives ⟨{}, headers', false⟩ rfl).2.2, ?_⟩
  have hstep := (hcontinue ⟨{}, headers', false⟩ rfl).2.2.2
  exact congrArg (fun o : SharedData × Outcome => o.2.action) hstep

/-- What carries a response is let through with every id that is not revoked. -/
lemma continue_iff_of_carries
    (hprove : prover.prove rawWalletCiphertext walletDbKey masterSeed credentialId
      requiredClearanceLevel = .ok response)
    (hkeys : ∀ pk, prover.provingKey = some pk → G.Paired pk vk) {request : HttpRequest}
    (hpublic : request.isAdmin = false) (hcarries : request.Carries response)
    (store : SharedData) :
    (onHttpRequestHeaders G (some vk) store request).2.action = .Continue ↔
      ∃ revId, request.header "x-dzta-revocation-id" = some revId ∧ ¬ store.Revoked revId := by
  obtain ⟨subject, pk, proof, -, -, -, hverify, hreads⟩ := reads_of_prove hprove hkeys
  obtain ⟨hproof, hinputs⟩ := hreads request hcarries
  rw [continue_iff_admitted, admitted_iff_of_reads hpublic hproof hinputs hverify]

/-- **The id is not bound to the proof.**  A request that names a revoked id is not let through,
whatever it carries; but one that carries a response of the prover is let through with any other
id, whatever is revoked. -/
theorem revocation_by_header
    (hprove : prover.prove rawWalletCiphertext walletDbKey masterSeed credentialId
      requiredClearanceLevel = .ok response)
    (hkeys : ∀ pk, prover.provingKey = some pk → G.Paired pk vk) (store : SharedData) :
    (∀ (id : String) (request : HttpRequest), store.Revoked id →
      request.header "x-dzta-revocation-id" = some id →
      (onHttpRequestHeaders G (some vk) store request).2.action ≠ .Continue) ∧
    ∀ request : HttpRequest, request.isAdmin = false → request.Carries response →
      ((onHttpRequestHeaders G (some vk) store request).2.action = .Continue ↔
        ∃ revId, request.header "x-dzta-revocation-id" = some revId ∧
          ¬ store.Revoked revId) := by
  constructor
  · intro id request hrevoked hheader
    exact not_continue_of_revoked hrevoked hheader
  · intro request hpublic hcarries
    exact continue_iff_of_carries hprove hkeys hpublic hcarries store

/-- With `vc-1` revoked, what carries the proof of that employee passes under the id `vc-2`. -/
theorem revocation_by_header_employee : ∃ envelope response,
    referenceProver.prove envelope (Bytes.utf8 "correct horse") ⟨List.replicate 32 7, rfl⟩
      (some "vc-1") 3 = .ok response ∧
    ∀ request : HttpRequest, request.isAdmin = false → request.Carries response →
      request.header "x-dzta-revocation-id" = some "vc-2" →
      (onHttpRequestHeaders referenceGroth16 (some ()) (SharedData.revoke (fun _ => none) "vc-1")
        request).2.action = .Continue := by
  obtain ⟨envelope, response, -, hprove⟩ := exists_response_employee
  refine ⟨envelope, response, hprove, fun request hpublic hcarries hheader => ?_⟩
  exact ((revocation_by_header hprove referenceProver_paired _).2 request hpublic
    hcarries).mpr ⟨"vc-2", hheader, by decide⟩

/-- **A revoked credential opens a door**: the record of `vc-1` is sealed and names it, `vc-1` is
revoked, and a request with a response from that record passes under the id `vc-2`. -/
theorem revocation_not_bound :
    ¬ ∀ (gadget : ToBitsLe modulus) (G : RoleGroth16 gadget) (prover : GramineProver gadget G)
        (vk : G.VerifyingKey) (rawWalletCiphertext walletDbKey plaintext : Bytes)
        (masterSeed : FixedBytes 32) (id : String) (subject : DecryptedCredentialSubject)
        (requiredClearanceLevel : UInt64) (response : ProverOutputResponse) (store : SharedData),
        (∀ pk, prover.provingKey = some pk → G.Paired pk vk) →
        decryptWalletRecord prover.cipher prover.digest rawWalletCiphertext walletDbKey =
          .ok plaintext →
        parseCredentialSubject prover.serde plaintext (some id) = .ok subject →
        subject.credentialId = id →
        prover.prove rawWalletCiphertext walletDbKey masterSeed (some id)
          requiredClearanceLevel = .ok response →
        store.Revoked id →
        ∀ request : HttpRequest, request.Carries response →
          (onHttpRequestHeaders G (some vk) store request).2.action ≠ .Continue := by
  intro hclaim
  obtain ⟨envelope, response, hopen, hprove⟩ := exists_response_employee
  have hsafe : HeaderSafe "vc-2" := ⟨List.all_iff_forall_prop.mp (by decide), by decide⟩
  obtain ⟨headers, -, harrives⟩ := carries_of_submission hprove
    (referenceSubmission response "vc-2" (by decide) hsafe)
  obtain ⟨hpublic, hcarries, hrevocation⟩ := harrives ⟨{}, headers, false⟩ rfl
  let store : SharedData := SharedData.revoke (fun _ => none) "vc-1"
  have hlive : ¬ store.Revoked "vc-2" := by decide
  refine hclaim _ referenceGroth16 referenceProver () envelope _ _ _ "vc-1" _ 3 response store
    referenceProver_paired hopen (parseCredentialSubject_toString _ _) rfl hprove
    (SharedData.revoked_revoke _ _) ⟨{}, headers, false⟩ hcarries ?_
  exact (continue_iff_of_carries hprove referenceProver_paired hpublic hcarries store).mpr
    ⟨"vc-2", hrevocation, hlive⟩

end EndToEnd

end DZTA
