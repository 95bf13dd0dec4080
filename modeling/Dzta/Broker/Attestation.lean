import Dzta.Broker.Messages
import Dzta.Broker.Services
import Dzta.Edge.Admission

/-!
# The verification of quotes

The broker accepts a quote for a public key and a level if the quote verifies under the strict
policy, its measurements are the configured ones, and the first half of its report data is the hash
of the session that the request names.  `verifySgxQuote_eq_ok_iff` says this once, with the calls
that a verification makes; everything else about quotes follows from it.

An enclave binds a session by the same hash, so **`session_quote_accepted_iff`**: a quote for a
session is accepted for that session and for no other.  But an enclave also binds the public inputs
of a proof, under the same tag.  **`proof_quote_rejected_iff`** says when the two uses cannot meet:
exactly if the bytes of the public inputs, short of the last eight, are not the text of a key.
-/

namespace DZTA

open GramineAttestationDriver R1CS RoleVerificationCircuit

/-! ## The verification

A quote is accepted for a key and a level if the verifier vouches for it and its report fits. -/

/-- `VerifiedEnclave`: a key with the quote that has been verified for it. -/
structure VerifiedEnclave where
  quote : Bytes
  reportData : Bytes
  enclavePublicKey : String
  mrenclave : String
  mrsigner : String
deriving DecidableEq

/-- What the verification of quotes is configured with. -/
structure QuoteConfig where
  pccsUrl : String
  expectedMrenclave : Bytes
  expectedMrsigner : Bytes

/-- The measurements of a report are the configured ones. -/
def QuoteConfig.Expects (config : QuoteConfig) (report : EnclaveReport) : Prop :=
  report.mrEnclave.1 = config.expectedMrenclave ∧ report.mrSigner.1 = config.expectedMrsigner

/-- The report data of a report is for a session. -/
def BoundTo (digest : Bytes → FixedBytes 32) (report : EnclaveReport) (enclavePublicKey : String)
    (requiredClearanceLevel : UInt64) : Prop :=
  report.reportData.1.take 32 =
    (digest (sessionTag ++ sessionBinding (Bytes.utf8 enclavePublicKey) requiredClearanceLevel)).1

/-- The enclave that a quote with a report has verified. -/
def verifiedEnclave (quote : Bytes) (report : EnclaveReport) (enclavePublicKey : String) :
    VerifiedEnclave :=
  ⟨quote, report.reportData.1, enclavePublicKey, hexEncode report.mrEnclave.1,
    hexEncode report.mrSigner.1⟩

section Verify

variable {crates : Crates} (services : Services crates) (config : QuoteConfig)

/-- The checks of `verify_sgx_quote` on a report. -/
def checkReport (digest : Bytes → FixedBytes 32) (quote : Bytes) (report : EnclaveReport)
    (enclavePublicKey : String) (requiredClearanceLevel : UInt64) :
    Except ApiError VerifiedEnclave :=
  if report.mrEnclave.1 ≠ config.expectedMrenclave ∨
      report.mrSigner.1 ≠ config.expectedMrsigner then
    .error ⟨.badRequest, "Unexpected enclave measurement or signer"⟩
  else
    let binding := sessionBinding (Bytes.utf8 enclavePublicKey) requiredClearanceLevel
    let expectedReportData := digest (sessionTag ++ binding)
    if report.reportData.1.take 32 ≠ expectedReportData.1 then
      .error ⟨.badRequest, "Quote report data does not match requested session"⟩
    else .ok (verifiedEnclave quote report enclavePublicKey)

/-- `verify_sgx_quote`: the verifier vouches for the quote, and its report is compared with the
configured measurements and with what the request names. -/
def verifySgxQuote (quoteB64 enclavePublicKey : String) (requiredClearanceLevel : UInt64) :
    BrokerM ApiError VerifiedEnclave := do
  let quote ← .ofExcept ((crates.base64Decode quoteB64).mapError fun e =>
    ⟨.badRequest, "Invalid base64 quote: " ++ e⟩)
  .ofExcept ((crates.qvl.withDefaultHttp config.pccsUrl).mapError fun e =>
    ⟨.internalServerError, "PCCS client error: " ++ e⟩)
  let collateral ← .mapError (fun e => ⟨.internalServerError, "Failed to fetch collateral: " ++ e⟩)
    (fetchCollateral services config.pccsUrl quote)
  let now ← .mapError (fun e => ⟨.internalServerError, e⟩) (systemTime services)
  let claims ← .ofExcept ((crates.qvl.verifyWithPolicy quote collateral now
    (crates.qvl.strict now)).mapError fun e =>
      ⟨.badRequest, "Quote verification failed: " ++ e⟩)
  let report ← .ofExcept (Except.okOr ⟨.badRequest, "Quote is not an SGX quote"⟩ claims.asSgx)
  .ofExcept (checkReport config crates.digest quote report enclavePublicKey requiredClearanceLevel)

/-- A quote verifies under the strict policy, with the collateral and at the time that the services
answer after some calls, and says a report. -/
def Vouches (quote : Bytes) (report : EnclaveReport) (calls : List BrokerCall) : Prop :=
  crates.qvl.withDefaultHttp config.pccsUrl = .ok () ∧ ∃ collateral now claims,
    services.reply calls (.fetchCollateral config.pccsUrl quote) = .ok collateral ∧
    services.reply (calls ++ [.fetchCollateral config.pccsUrl quote]) .now = .ok now ∧
    crates.qvl.verifyWithPolicy quote collateral now (crates.qvl.strict now) = .ok claims ∧
    claims.asSgx = some report

variable {services config} {quoteB64 enclavePublicKey : String} {requiredClearanceLevel : UInt64}
  {calls calls' : List BrokerCall} {enclave : VerifiedEnclave}

lemma checkReport_eq_ok_iff {digest : Bytes → FixedBytes 32} {quote : Bytes}
    {report : EnclaveReport} :
    checkReport config digest quote report enclavePublicKey requiredClearanceLevel = .ok enclave ↔
      config.Expects report ∧ BoundTo digest report enclavePublicKey requiredClearanceLevel ∧
        enclave = verifiedEnclave quote report enclavePublicKey := by
  rw [checkReport]
  split
  · rename_i hunexpected
    refine iff_of_false (fun h => by cases h) ?_
    rintro ⟨⟨henclave, hsigner⟩, -⟩
    rcases hunexpected with hne | hne
    · exact hne henclave
    · exact hne hsigner
  · rename_i hexpected
    rw [not_or, not_not, not_not] at hexpected
    dsimp only
    split
    · rename_i hunbound
      refine iff_of_false (fun h => by cases h) ?_
      rintro ⟨-, hbound, -⟩
      exact hunbound hbound
    · rename_i hbound
      rw [Except.ok.injEq, eq_comm]
      exact ⟨fun h => ⟨hexpected, not_not.mp hbound, h⟩, fun h => h.2.2⟩

/-- **A quote is accepted** exactly if it verifies, with the measurements that are configured and
for the session that is requested; and on the way the broker fetches collateral and asks for the
time. -/
theorem verifySgxQuote_eq_ok_iff :
    verifySgxQuote services config quoteB64 enclavePublicKey requiredClearanceLevel calls =
        (.ok enclave, calls') ↔
      ∃ quote report, Base64.decode quoteB64 = some quote ∧
        Vouches services config quote report calls ∧ config.Expects report ∧
        BoundTo crates.digest report enclavePublicKey requiredClearanceLevel ∧
        enclave = verifiedEnclave quote report enclavePublicKey ∧
        calls' = calls ++ [.fetchCollateral config.pccsUrl quote] ++ [.now] := by
  simp only [verifySgxQuote, EffectM.ofExcept_bind_eq_ok_iff, EffectM.mapError_bind_eq_ok_iff,
    Except.mapError_eq_ok_iff, Crates.base64Decode_eq_ok_iff, Except.okOr_eq_ok_iff,
    fetchCollateral_eq_ok_iff, systemTime_eq_ok_iff, EffectM.ofExcept_eq_ok_iff,
    checkReport_eq_ok_iff, Vouches]
  constructor
  · rintro ⟨quote, hquote, _, hclient, collateral, _, ⟨hcollateral, rfl⟩, now, _, ⟨hnow, rfl⟩,
      claims, hclaims, report, hreport, ⟨hexpects, hbound, henclave⟩, rfl⟩
    exact ⟨quote, report, hquote, ⟨hclient, collateral, now, claims, hcollateral, hnow, hclaims,
      hreport⟩, hexpects, hbound, henclave, rfl⟩
  · rintro ⟨quote, report, hquote, ⟨hclient, collateral, now, claims, hcollateral, hnow, hclaims,
      hreport⟩, hexpects, hbound, henclave, rfl⟩
    exact ⟨quote, hquote, (), hclient, collateral, _, ⟨hcollateral, rfl⟩, now, _, ⟨hnow, rfl⟩,
      claims, hclaims, report, hreport, ⟨hexpects, hbound, henclave⟩, rfl⟩

/-- The verification posts nothing, and does not depend on how the broker encrypts, nor on what is
answered to what it posts. -/
lemma lockstep_verifySgxQuote {services' : Services crates} (oaep : Oaep crates.rsa)
    (hagree : AgreeOn BrokerCall.IsQuiet services services') :
    EffectM.Lockstep BrokerCall.IsQuiet Eq
      (verifySgxQuote services config quoteB64 enclavePublicKey requiredClearanceLevel)
      (verifySgxQuote (services'.withOaep oaep) config quoteB64 enclavePublicKey
        requiredClearanceLevel) := by
  refine .bind_of_eq (.same _) fun quote => ?_
  refine .bind_of_eq (.same _) fun _ => ?_
  refine .bind_of_eq ((lockstep_fetchCollateral oaep hagree _ _).mapError _) fun collateral => ?_
  refine .bind_of_eq ((lockstep_systemTime oaep hagree).mapError _) fun now => ?_
  refine .bind_of_eq (.same _) fun claims => ?_
  exact .bind_of_eq (.same _) fun report => .same _

/-- A quote is accepted for a public key and a level. -/
def Accepted (services : Services crates) (config : QuoteConfig) (quote : Bytes)
    (enclavePublicKey : String) (requiredClearanceLevel : UInt64) (calls : List BrokerCall) :
    Prop :=
  ∃ enclave calls', verifySgxQuote services config (Base64.encode quote) enclavePublicKey
    requiredClearanceLevel calls = (.ok enclave, calls')

/-- A quote that verifies says one report. -/
lemma Vouches.unique {quote : Bytes} {report report' : EnclaveReport}
    (h : Vouches services config quote report calls)
    (h' : Vouches services config quote report' calls) : report = report' := by
  obtain ⟨-, collateral, now, claims, hcollateral, hnow, hclaims, hreport⟩ := h
  obtain ⟨-, collateral', now', claims', hcollateral', hnow', hclaims', hreport'⟩ := h'
  obtain rfl := Except.ok.inj (hcollateral.symm.trans hcollateral')
  obtain rfl := Except.ok.inj (hnow.symm.trans hnow')
  obtain rfl := Except.ok.inj (hclaims.symm.trans hclaims')
  exact Option.some.inj (hreport.symm.trans hreport')

lemma accepted_iff_of_vouches {quote : Bytes} {report : EnclaveReport}
    (hvouches : Vouches services config quote report calls) :
    Accepted services config quote enclavePublicKey requiredClearanceLevel calls ↔
      config.Expects report ∧
        BoundTo crates.digest report enclavePublicKey requiredClearanceLevel := by
  simp only [Accepted, verifySgxQuote_eq_ok_iff, Base64.decode_encode]
  constructor
  · rintro ⟨_, _, quote', report', hquote, hvouches', hexpects, hbound, -⟩
    obtain rfl := Option.some.inj hquote
    obtain rfl := hvouches.unique hvouches'
    exact ⟨hexpects, hbound⟩
  · rintro ⟨hexpects, hbound⟩
    exact ⟨_, _, quote, report, rfl, hvouches, hexpects, hbound, rfl, rfl⟩

/-- What an enclave has bound is bound to a session exactly if the hashes agree. -/
lemma boundTo_iff_of_bindSession {digest : Bytes → FixedBytes 32} {report : EnclaveReport}
    {data : Bytes} (h : report.reportData = bindSession digest data) :
    BoundTo digest report enclavePublicKey requiredClearanceLevel ↔
      digest (sessionTag ++ data) = digest (sessionTag ++
        sessionBinding (Bytes.utf8 enclavePublicKey) requiredClearanceLevel) := by
  rw [BoundTo, h, take_bindSession, ← Subtype.ext_iff]

end Verify

/-! ### A broker that trusts every quote

The report stands in the quote, and every quote is vouched for. -/

/-- A quote with a report, in the layout of version 3. -/
def quoteOf (report : EnclaveReport) : Bytes :=
  List.replicate 112 0 ++ report.mrEnclave.1 ++ List.replicate 32 0 ++ report.mrSigner.1 ++
    List.replicate 160 0 ++ report.reportData.1

/-- The report at its place in a quote. -/
def readReport (quote : Bytes) : Except String Report :=
  if h : 432 ≤ quote.length then
    .ok (.sgxEnclave ⟨⟨slice 112 144 quote, length_slice (by omega)⟩,
      ⟨slice 176 208 quote, length_slice (by omega)⟩,
      ⟨slice 368 432 quote, length_slice (by omega)⟩⟩)
  else .error "quote is too short"

lemma readReport_quoteOf (report : EnclaveReport) :
    readReport (quoteOf report) = .ok (.sgxEnclave report) := by
  obtain ⟨⟨mrEnclave, henclave⟩, ⟨mrSigner, hsigner⟩, ⟨reportData, hdata⟩⟩ := report
  have hlength : 432 ≤ (quoteOf ⟨⟨mrEnclave, henclave⟩, ⟨mrSigner, hsigner⟩,
      ⟨reportData, hdata⟩⟩).length := by
    simp only [quoteOf, List.length_append, List.length_replicate, henclave, hsigner, hdata]
    norm_num
  rw [readReport, dif_pos hlength]
  have hslice₁ : slice 112 144 (quoteOf ⟨⟨mrEnclave, henclave⟩, ⟨mrSigner, hsigner⟩,
      ⟨reportData, hdata⟩⟩) = mrEnclave := by
    simp only [quoteOf, List.append_assoc]
    rw [← List.append_assoc]
    exact slice_middle List.length_replicate (by rw [henclave])
  have hslice₂ : slice 176 208 (quoteOf ⟨⟨mrEnclave, henclave⟩, ⟨mrSigner, hsigner⟩,
      ⟨reportData, hdata⟩⟩) = mrSigner := by
    simp only [quoteOf]
    rw [List.append_assoc _ _ reportData]
    refine slice_middle ?_ (by rw [hsigner])
    simp only [List.length_append, List.length_replicate, henclave]
  have hslice₃ : slice 368 432 (quoteOf ⟨⟨mrEnclave, henclave⟩, ⟨mrSigner, hsigner⟩,
      ⟨reportData, hdata⟩⟩) = reportData := by
    rw [quoteOf, ← List.append_nil (_ ++ reportData)]
    refine slice_middle ?_ (by rw [hdata])
    simp only [List.length_append, List.length_replicate, henclave, hsigner]
  simp only [hslice₁, hslice₂, hslice₃]

/-- A verifier that takes every quote for genuine. -/
def QuoteVerifier.trusting : QuoteVerifier where
  Collateral := Unit
  Policy := UInt64
  withDefaultHttp _ := .ok ()
  strict now := now
  verifyWithPolicy quote _ _ _ := readReport quote

/-- The libraries of a broker that trusts every quote. -/
def referenceCrates : Crates where
  serde := .strict
  digest := sha256
  rsa := .moduli
  oaep := .boxes
  qvl := .trusting
  base64Error _ := "Invalid input"
  decodeError _ := "error decoding response body"

/-- Random bytes, which depend on how many calls there were. -/
def freshBytes (calls : List BrokerCall) : FixedBytes 32 :=
  sha256 (Bytes.utf8 (toString calls.length))

/-- Services that are up: they hand out collateral and the time, and answer posts in some way. -/
def referenceServices (answer : List BrokerCall → ServiceRequest → Except String ServiceReply) :
    Services referenceCrates where
  reply calls
    | .fetchCollateral _ _ => .ok ()
    | .now => .ok 1700000000
    | .send request => answer calls request
    | .random => (freshBytes calls).1

/-- A reply with a document. -/
def jsonReply (v : Json) : ServiceReply :=
  ⟨⟨200, some "OK"⟩, .ok (Bytes.utf8 (SerdeJson.toString v)), .ok (SerdeJson.toString v)⟩

lemma json_jsonReply (crates : Crates) {α : Type} {deserialize : Json → Option α} {v : Json}
    (hplain : v.Plain) (hdepth : v.depth ≤ 127) {a : α} (h : deserialize v = some a) :
    crates.json deserialize (jsonReply v) = .ok a :=
  Except.mapError_eq_ok_iff.mpr
    ((crates.serde.fromSlice_toString deserialize hplain hdepth a).mpr h)

/-- An enclave of the expected build, with report data. -/
def referenceReport (reportData : FixedBytes 64) : EnclaveReport :=
  ⟨⟨List.replicate 32 1, rfl⟩, ⟨List.replicate 32 2, rfl⟩, reportData⟩

/-- The configuration for that build. -/
def referenceConfig : QuoteConfig :=
  ⟨"https://pccs.example", List.replicate 32 1, List.replicate 32 2⟩

lemma referenceConfig_expects (reportData : FixedBytes 64) :
    referenceConfig.Expects (referenceReport reportData) := ⟨rfl, rfl⟩

lemma verifyWithPolicy_reference (quote : Bytes) (now policy : UInt64) :
    referenceCrates.qvl.verifyWithPolicy quote () now policy = readReport quote := rfl

lemma vouches_reference (answer : List BrokerCall → ServiceRequest → Except String ServiceReply)
    (config : QuoteConfig) (report : EnclaveReport) (calls : List BrokerCall) :
    Vouches (referenceServices answer) config (quoteOf report) report calls :=
  ⟨rfl, (), 1700000000, .sgxEnclave report, rfl, rfl,
    (verifyWithPolicy_reference _ _ _).trans (readReport_quoteOf report), rfl⟩

/-! ## Quotes for sessions

A quote for a session is accepted for what the session is for. -/

section Sessions

variable {crates : Crates} {services : Services crates} {config : QuoteConfig}
  {calls : List BrokerCall} {quote : Bytes} {report : EnclaveReport}

/-- **A session quote is good for its own session** and for no other: let a quote verify with the
configured measurements, and let its report data be what an enclave has bound to a public key and a
level.  It is accepted for a request exactly if the request names this key and this level, unless
the two sessions collide under the hash. -/
theorem session_quote_accepted_iff {key : Bytes} {level : UInt64} {enclavePublicKey : String}
    {requiredClearanceLevel : UInt64}
    (hvouches : Vouches services config quote report calls) (hexpects : config.Expects report)
    (hbound : report.reportData = bindSession crates.digest (sessionBinding key level))
    (hfree : ¬ Collision crates.digest (sessionTag ++ sessionBinding key level)
      (sessionTag ++ sessionBinding (Bytes.utf8 enclavePublicKey) requiredClearanceLevel)) :
    Accepted services config quote enclavePublicKey requiredClearanceLevel calls ↔
      Bytes.utf8 enclavePublicKey = key ∧ requiredClearanceLevel = level := by
  rw [accepted_iff_of_vouches hvouches, boundTo_iff_of_bindSession hbound,
    hash_eq_iff_of_not_collision hfree, List.append_cancel_left_eq, sessionBinding_inj,
    and_iff_right hexpects, eq_comm, eq_comm (a := level)]

/-- A quote for the key `key` and level 3 is accepted for them. -/
theorem session_quote_accepted_reference :
    Accepted (referenceServices fun _ _ => .error "unreachable") referenceConfig
      (quoteOf (referenceReport (bindSession sha256 (sessionBinding (Bytes.utf8 "key") 3))))
      "key" 3 [] :=
  (session_quote_accepted_iff (vouches_reference _ _ _ _) (referenceConfig_expects _) rfl
    (fun h => h.1 rfl)).mpr ⟨rfl, rfl⟩

end Sessions

/-! ## Quotes for proofs

A quote for a proof has the tag of a session, so it may be taken for one. -/

/-- **What is bound for a proof is bound for a session** exactly if all of it but the last eight
bytes is text. -/
lemma exists_sessionBinding_iff {data : Bytes} (h : data.length = 72) :
    (∃ (enclavePublicKey : String) (level : UInt64),
      data = sessionBinding (Bytes.utf8 enclavePublicKey) level) ↔
      ∃ text, Bytes.utf8 text = data.take 64 := by
  constructor
  · rintro ⟨enclavePublicKey, level, rfl⟩
    have hlength : (Bytes.utf8 enclavePublicKey).length = 64 := by
      simpa [sessionBinding] using h
    exact ⟨enclavePublicKey, by rw [sessionBinding, List.take_left' hlength]⟩
  · rintro ⟨text, htext⟩
    have hlast : (data.drop 64).length = 8 := by simp [h]
    obtain ⟨n, hn, hlevel⟩ := Bytes.exists_beBytes_eq (data.drop 64)
    rw [hlast] at hn hlevel
    have hlt : n < 2 ^ 64 := hn
    refine ⟨text, UInt64.ofNat n, ?_⟩
    rw [sessionBinding, htext, UInt64.toNat_ofNat_of_lt' hlt, hlevel, List.take_append_drop]

lemma length_serializeVec_pair (x y : Fr) : (Fr.serializeVec [x, y]).length = 72 := by
  simp [Fr.serializeVec]

section Proofs

variable {gadget : ToBitsLe modulus} {G : RoleGroth16 gadget} {prover : GramineProver gadget G}
  {rawWalletCiphertext walletDbKey : Bytes} {masterSeed : FixedBytes 32}
  {credentialId : Option String} {requiredClearanceLevel : UInt64}
  {response : ProverOutputResponse}

/-- A quote for a proof is accepted for a session without a collision exactly if the measurements
are expected and the public inputs read as one. -/
lemma accepted_by_collision_iff {crates : Crates} {services : Services crates}
    {config : QuoteConfig} {calls : List BrokerCall} {quote : Bytes} {report : EnclaveReport}
    {data : Bytes} (hvouches : Vouches services config quote report calls)
    (hbound : report.reportData = bindSession crates.digest data) (hlength : data.length = 72) :
    (∀ enclavePublicKey level, Accepted services config quote enclavePublicKey level calls →
      Collision crates.digest (sessionTag ++ data)
        (sessionTag ++ sessionBinding (Bytes.utf8 enclavePublicKey) level)) ↔
      (config.Expects report → ¬ ∃ text, Bytes.utf8 text = data.take 64) := by
  simp only [accepted_iff_of_vouches hvouches, boundTo_iff_of_bindSession hbound,
    ← exists_sessionBinding_iff hlength]
  constructor
  · rintro h hexpects ⟨enclavePublicKey, level, rfl⟩
    exact (h enclavePublicKey level ⟨hexpects, rfl⟩).1 rfl
  · rintro h enclavePublicKey level ⟨hexpects, hhash⟩
    refine ⟨fun heq => h hexpects ⟨enclavePublicKey, level, ?_⟩, hhash⟩
    exact List.append_cancel_left heq

/-- **When a proof quote is no session quote.**  Let the prover publish a quote for the public
inputs of a proof, and let it verify.  It is rejected for every public key and every level, but for
collisions of the hash, exactly if its measurements are not the configured ones or the public
inputs are no text: their number, the required level and the first 24 bytes of the commitment. -/
theorem proof_quote_rejected_iff
    (hprove : prover.prove rawWalletCiphertext walletDbKey masterSeed credentialId
      requiredClearanceLevel = .ok response) :
    ∃ commitment : Fr,
      let publicInputsBytes := Fr.serializeVec [Fr.ofU64 requiredClearanceLevel, commitment]
      response.xDztaPublicInputs = Base64.encode publicInputsBytes ∧
      ∀ (crates : Crates) (services : Services crates) (config : QuoteConfig)
        (calls : List BrokerCall) (quote : Bytes) (report : EnclaveReport),
        response.sgxDcapQuoteHex = some (hexEncode quote) →
        Vouches services config quote report calls →
        report.reportData = bindSession crates.digest publicInputsBytes →
        ((∀ enclavePublicKey level,
          Accepted services config quote enclavePublicKey level calls →
            Collision crates.digest (sessionTag ++ publicInputsBytes)
              (sessionTag ++ sessionBinding (Bytes.utf8 enclavePublicKey) level)) ↔
          (config.Expects report →
            ¬ ∃ text, Bytes.utf8 text = publicInputsBytes.take 64)) := by
  obtain ⟨subject, pk, proof, quote, -, -, -, -, -, -, rfl⟩ := prove_eq_ok_iff.mp hprove
  refine ⟨commitmentOf prover.digest masterSeed subject, rfl, ?_⟩
  intro crates services config calls quote' report _ hvouches hbound
  exact accepted_by_collision_iff hvouches hbound (length_serializeVec_pair _ _)

end Proofs

/-! ### The quote of an empty commitment

A visitor has clearance 0, so the commitment is 0, and the bytes are a text. -/

/-- The enclave with a quote for its last report data. -/
def quotingProver (quote : Bytes) : GramineProver (ToBitsLe.comparing modulus) referenceGroth16 :=
  { referenceProver with fetchSgxQuote := .ok (some quote) }

/-- A subject without clearance. -/
def visitor : DecryptedCredentialSubject := ⟨0, "visitor", "did:dzta:bob", "vc-0"⟩

/-- The commitment is a product, and the clearance is a factor of it. -/
lemma commitmentOf_visitor (digest : Bytes → FixedBytes 32) (masterSeed : FixedBytes 32) :
    commitmentOf digest masterSeed visitor = 0 := by
  rw [commitmentOf, ofLeBytesModOrder_computeCommitment]
  simp [visitor, Fr.ofU64]

/-- The key whose text the number of the public inputs starts. -/
def nulKey : String := String.ofList (Char.ofNat 2 :: List.replicate 63 (Char.ofNat 0))

lemma sessionBinding_nulKey :
    Fr.serializeVec [Fr.ofU64 0, 0] = sessionBinding (Bytes.utf8 nulKey) 0 := by
  have hzero : Fr.toBytesLe 0 = List.replicate 32 0 := by
    rw [Fr.toBytesLe, ZMod.val_zero]
    rfl
  have hlevel : Fr.ofU64 0 = 0 := by simp [Fr.ofU64]
  rw [Fr.serializeVec, hlevel]
  simp only [List.flatMap_cons, List.flatMap_nil, hzero]
  rfl

/-- The report of an enclave that has bound the level and the commitment of a visitor. -/
def visitorReport : EnclaveReport :=
  referenceReport (bindSession sha256 (Fr.serializeVec [Fr.ofU64 0, 0]))

/-- A visitor gets a response for level 0, with a quote for it. -/
lemma exists_response_visitor : ∃ envelope response,
    (quotingProver (quoteOf visitorReport)).prove envelope (Bytes.utf8 "correct horse")
        ⟨List.replicate 32 7, rfl⟩ (some "vc-0") 0 = .ok response ∧
      response.xDztaPublicInputs = Base64.encode (Fr.serializeVec [Fr.ofU64 0, 0]) ∧
      response.sgxDcapQuoteHex = some (hexEncode (quoteOf visitorReport)) := by
  obtain ⟨envelope, response, -, hprove, hinputs, hquote⟩ :=
    exists_response_of (quotingProver (quoteOf visitorReport)) rfl (fun _ => rfl) rfl
      visitor (Bytes.utf8 "correct horse") ⟨List.replicate 32 7, rfl⟩ (some "vc-0")
      (show Suffices visitor.userClearanceLevel 0 by decide)
  rw [publicInputsFor, commitmentOf_visitor] at hinputs
  exact ⟨envelope, response, hprove, hinputs, hquote⟩

/-- The quote of a visitor with clearance 0 for level 0: the bound bytes are a two and zeros, so it
is refused for every key and level only by a broker that expects another build. -/
theorem proof_quote_rejected_iff_visitor : ∃ envelope response,
    (quotingProver (quoteOf visitorReport)).prove envelope (Bytes.utf8 "correct horse")
        ⟨List.replicate 32 7, rfl⟩ (some "vc-0") 0 = .ok response ∧
      ∃ commitment : Fr, Fr.serializeVec [Fr.ofU64 0, commitment] =
          Fr.serializeVec [Fr.ofU64 0, 0] ∧
        ∀ calls, (∀ enclavePublicKey level,
          Accepted (referenceServices fun _ _ => .error "unreachable") referenceConfig
            (quoteOf visitorReport) enclavePublicKey level calls →
            Collision sha256 (sessionTag ++ Fr.serializeVec [Fr.ofU64 0, commitment])
              (sessionTag ++ sessionBinding (Bytes.utf8 enclavePublicKey) level)) ↔
          (referenceConfig.Expects visitorReport →
            ¬ ∃ text, Bytes.utf8 text =
              (Fr.serializeVec [Fr.ofU64 0, commitment]).take 64) := by
  obtain ⟨envelope, response, hprove, hinputs, hquote⟩ := exists_response_visitor
  obtain ⟨commitment, hcommitment, hiff⟩ := proof_quote_rejected_iff hprove
  have hdata : Fr.serializeVec [Fr.ofU64 0, commitment] = Fr.serializeVec [Fr.ofU64 0, 0] := by
    have hdecode := congrArg Base64.decode (hcommitment.symm.trans hinputs)
    rw [Base64.decode_encode, Base64.decode_encode] at hdecode
    exact Option.some.inj hdecode
  refine ⟨envelope, response, hprove, commitment, hdata, fun calls => ?_⟩
  exact hiff referenceCrates _ referenceConfig calls _ visitorReport hquote
    (vouches_reference _ _ _ _) (by rw [hdata]; rfl)

/-- **A proof opens a session**: the quote for the proof of a visitor is accepted for a key that no
enclave has ever had, at level 0. -/
theorem proof_quote_accepted :
    ¬ ∀ (gadget : ToBitsLe modulus) (G : RoleGroth16 gadget) (prover : GramineProver gadget G)
        (rawWalletCiphertext walletDbKey : Bytes) (masterSeed : FixedBytes 32)
        (credentialId : Option String) (requiredClearanceLevel : UInt64)
        (response : ProverOutputResponse) (commitment : Fr) (crates : Crates)
        (services : Services crates) (config : QuoteConfig) (calls : List BrokerCall)
        (quote : Bytes) (report : EnclaveReport),
        prover.prove rawWalletCiphertext walletDbKey masterSeed credentialId
          requiredClearanceLevel = .ok response →
        response.xDztaPublicInputs =
          Base64.encode (Fr.serializeVec [Fr.ofU64 requiredClearanceLevel, commitment]) →
        response.sgxDcapQuoteHex = some (hexEncode quote) →
        Vouches services config quote report calls →
        report.reportData = bindSession crates.digest
          (Fr.serializeVec [Fr.ofU64 requiredClearanceLevel, commitment]) →
        ∀ enclavePublicKey level,
          Accepted services config quote enclavePublicKey level calls →
            Collision crates.digest
              (sessionTag ++ Fr.serializeVec [Fr.ofU64 requiredClearanceLevel, commitment])
              (sessionTag ++ sessionBinding (Bytes.utf8 enclavePublicKey) level) := by
  intro hclaim
  obtain ⟨envelope, response, hprove, hinputs, hquote⟩ := exists_response_visitor
  have hvouches := vouches_reference (fun _ _ => .error "unreachable") referenceConfig
    visitorReport []
  have hbound : visitorReport.reportData =
      bindSession referenceCrates.digest (Fr.serializeVec [Fr.ofU64 0, 0]) := rfl
  have haccepted : Accepted (referenceServices fun _ _ => .error "unreachable") referenceConfig
      (quoteOf visitorReport) nulKey 0 [] :=
    (accepted_iff_of_vouches hvouches).mpr ⟨referenceConfig_expects _,
      (boundTo_iff_of_bindSession hbound).mpr (by rw [sessionBinding_nulKey])⟩
  obtain ⟨hne, -⟩ := hclaim _ _ _ _ _ _ _ _ _ 0 _ _ _ _ _ _ hprove hinputs hquote hvouches hbound
    nulKey 0 haccepted
  exact hne (by rw [sessionBinding_nulKey])

end DZTA
