import Dzta.Library.Http
import Dzta.Library.Rust

/-!
# The transport engine

The client that submits a proof to the edge.  It sends the proof, the public inputs and the
revocation id as headers under configurable names, each only if it is not blank, to a URL made of
the configured address and path.

**`submitProofRequest_eq`** says what arrives at the edge for a configuration that keeps the default
names and path: a request on the default path, with each of the three values unchanged.
-/

namespace DZTA

/-! ## Configuration

The address and the names of the headers, with their checks. -/

/-- `TransportConfig`: where Envoy is, and the names of the headers. -/
structure TransportConfig where
  envoyUrl : String
  proofHeader : String := "x-dzta-proof"
  publicInputsHeader : String := "x-dzta-public-inputs"
  revocationHeader : String := "x-dzta-revocation-id"
  requestPath : String := "/api/v1/resource"
deriving DecidableEq

/-- `TransportConfig::new`: an address and the defaults. -/
def TransportConfig.new (envoyUrl : String) : TransportConfig := { envoyUrl }

/-- `validated`: the text of the error of configuration, if there is one. -/
def TransportConfig.validated (config : TransportConfig) : Except String Unit := do
  let nonBlank (value message : String) : Except String Unit :=
    if Rust.trim value = "" then .error message else .ok ()
  nonBlank config.envoyUrl "envoy_url must not be empty"
  nonBlank config.proofHeader "proof_header must not be empty"
  nonBlank config.publicInputsHeader "public_inputs_header must not be empty"
  nonBlank config.revocationHeader "revocation_header must not be empty"

/-- `TransportEngine`: a client with its configuration. -/
structure TransportEngine where
  http : HttpStack
  config : TransportConfig

/-- `ProofRequest`, as far as it decides headers; the rest of it is the body. -/
structure ProofRequest where
  requestId : String
  deviceId : String
  edgeId : String
  action : String
  proof : Option String
  publicInputs : Option String
  revocationId : Option String

namespace TransportEngine

/-- `TransportEngine::new`, with the client that it builds. -/
def new (http : HttpStack) (config : TransportConfig) : Except String TransportEngine := do
  config.validated
  return ⟨http, config⟩

lemma new_eq_ok {http : HttpStack} {config : TransportConfig} {engine : TransportEngine}
    (h : new http config = .ok engine) : engine = ⟨http, config⟩ := by
  obtain ⟨-, -, h⟩ := Except.bind_eq_ok_iff.mp h
  exact (Except.ok.inj h).symm

variable (engine : TransportEngine)

/-! ## The request

A proof as headers, and where it is sent. -/

/-- A value that is there and not blank, as a header. -/
def proofHeader (name : String) (value : Option String) : List (String × String) :=
  match value.filter fun v => Rust.trim v ≠ "" with
  | some v => [(name, v)]
  | none => []

/-- `proof_headers`: a header for each part of a proof that is not blank. -/
def proofHeaders (proof publicInputs revocationId : Option String) : List (String × String) :=
  proofHeader engine.config.proofHeader proof ++
    proofHeader engine.config.publicInputsHeader publicInputs ++
    proofHeader engine.config.revocationHeader revocationId

/-- `target_url`: the address of Envoy and the path, with one slash between them. -/
def targetUrl (path : Option String) : String :=
  let envUrl := Rust.trim engine.config.envoyUrl
  let path := path.getD engine.config.requestPath
  let ends := envUrl.toList.getLast? = some '/'
  let starts := path.toList.head? = some '/'
  if ends ∧ starts then String.ofList (envUrl.toList.rdropWhile (· = '/')) ++ path
  else if ¬ ends ∧ ¬ starts then envUrl ++ "/" ++ path
  else envUrl ++ path

/-- The request that `submit_proof_request` builds, or none if a part of it is not accepted. -/
def proofRequest (request : ProofRequest) : Option OutgoingRequest :=
  let url := engine.targetUrl none
  withHeaders
    ([("Content-Type", "application/json"), ("X-DZTA-Request-Id", request.requestId),
      ("X-DZTA-Device-Id", request.deviceId), ("X-DZTA-Edge-Id", request.edgeId),
      ("X-DZTA-Action", request.action)] ++
      engine.proofHeaders request.proof request.publicInputs request.revocationId)
    (if engine.http.acceptsUrl url then some ⟨"POST", url, []⟩ else none)

/-- `submit_proof_request`, up to the headers with which the request arrives; none if it is not
sent. -/
def submitProofRequest (request : ProofRequest) : Option (List (String × String)) :=
  (engine.proofRequest request).map engine.http.receive

variable {engine}

/-! ## What arrives

The headers and the path at the edge. -/

/-- A value that is not blank is sent. -/
lemma proofHeader_of_not_blank (name : String) {value : String} (h : Rust.trim value ≠ "") :
    proofHeader name (some value) = [(name, value)] := by
  rw [proofHeader, Option.filter_some, if_pos (decide_eq_true h)]

/-- Trimming at the end takes off what was repeated there. -/
lemma rdropWhile_append_replicate {l : List Char} {c a : Char} (h : c ≠ a) (k : ℕ) :
    (l ++ [c] ++ List.replicate k a).rdropWhile (fun x => decide (x = a)) = l ++ [c] := by
  induction k with
  | zero =>
    rw [List.replicate_zero, List.append_nil]
    exact List.rdropWhile_concat_neg _ _ _ (by simp [h])
  | succ k ih =>
    rw [List.replicate_succ', ← List.append_assoc, List.rdropWhile_concat_pos _ _ _ (by simp), ih]

/-- An address that is an origin, with any slashes at its end, gives a URL on that origin. -/
lemma targetUrl_of_origin {origin : String} {slashes : ℕ} (horigin : IsOrigin origin)
    (haddress : Rust.trim engine.config.envoyUrl =
      origin ++ String.ofList (List.replicate slashes '/'))
    (hpath : engine.config.requestPath.toList.head? = some '/') :
    engine.targetUrl none = origin ++ engine.config.requestPath := by
  obtain ⟨init, c, hlist, hc⟩ := horigin.exists_last
  simp only [targetUrl, Option.getD_none, haddress, hpath, String.toList_append,
    String.toList_ofList]
  cases slashes with
  | zero =>
    rw [List.replicate_zero, List.append_nil, hlist, List.getLast?_append, if_neg, if_neg]
    · simp
    · simp
    · simp [hc]
  | succ k =>
    rw [if_pos]
    · rw [hlist, rdropWhile_append_replicate hc, ← hlist, String.ofList_toList]
    · simp [List.replicate_succ']

lemma proofRequest_eq {request : ProofRequest} {url proof publicInputs revocationId : String}
    (hurl : engine.targetUrl none = url) (haccepts : engine.http.acceptsUrl url = true)
    (hnames : engine.config = TransportConfig.new engine.config.envoyUrl)
    (hproof : request.proof = some proof) (hinputs : request.publicInputs = some publicInputs)
    (hrevocation : request.revocationId = some revocationId)
    (hblank : ∀ v ∈ [proof, publicInputs, revocationId], Rust.trim v ≠ "")
    (hvalid : ∀ v ∈ [request.requestId, request.deviceId, request.edgeId, request.action, proof,
      publicInputs, revocationId], validValue v = true) :
    engine.proofRequest request = some ⟨"POST", url,
      [("Content-Type", "application/json"), ("X-DZTA-Request-Id", request.requestId),
      ("X-DZTA-Device-Id", request.deviceId), ("X-DZTA-Edge-Id", request.edgeId),
      ("X-DZTA-Action", request.action), ("x-dzta-proof", proof),
      ("x-dzta-public-inputs", publicInputs), ("x-dzta-revocation-id", revocationId)]⟩ := by
  simp only [List.forall_mem_cons, List.not_mem_nil, false_implies, implies_true, and_true]
    at hblank hvalid
  obtain ⟨hproof', hinputs', hrevocation'⟩ := hblank
  have hheaders : engine.proofHeaders request.proof request.publicInputs request.revocationId =
      [("x-dzta-proof", proof), ("x-dzta-public-inputs", publicInputs),
        ("x-dzta-revocation-id", revocationId)] := by
    rw [proofHeaders, hnames, hproof, hinputs, hrevocation, proofHeader_of_not_blank _ hproof',
      proofHeader_of_not_blank _ hinputs', proofHeader_of_not_blank _ hrevocation']
    rfl
  rw [proofRequest, hurl, haccepts, if_pos rfl, hheaders, withHeaders_of_valid]
  · rfl
  · have hnames : ∀ name ∈ ["Content-Type", "X-DZTA-Request-Id", "X-DZTA-Device-Id",
        "X-DZTA-Edge-Id", "X-DZTA-Action", "x-dzta-proof", "x-dzta-public-inputs",
        "x-dzta-revocation-id"], validName name = true := by
      decide +kernel
    have hjson : validValue "application/json" = true := by decide +kernel
    simp only [List.forall_mem_cons, List.not_mem_nil, false_implies, implies_true, and_true,
      List.cons_append, List.nil_append] at hnames ⊢
    simp only [hnames, hvalid, hjson, and_self]

/-- The headers that name the request do not hide those that follow. -/
lemma findHeader_proofHeaders (requestId deviceId edgeId action : String)
    (rest : List (String × String)) {name : String}
    (hname : name ∈ ["x-dzta-proof", "x-dzta-public-inputs", "x-dzta-revocation-id"]) :
    findHeader ([("Content-Type", "application/json"), ("X-DZTA-Request-Id", requestId),
      ("X-DZTA-Device-Id", deviceId), ("X-DZTA-Edge-Id", edgeId), ("X-DZTA-Action", action)] ++
      rest) name = findHeader rest name := by
  have hother : ∀ name ∈ ["x-dzta-proof", "x-dzta-public-inputs", "x-dzta-revocation-id"],
      ∀ other ∈ ["Content-Type", "X-DZTA-Request-Id", "X-DZTA-Device-Id", "X-DZTA-Edge-Id",
        "X-DZTA-Action"], sameHeader other name = false := by
    decide +kernel
  specialize hother name hname
  simp only [List.forall_mem_cons, List.not_mem_nil, false_implies, implies_true, and_true]
    at hother
  obtain ⟨h₁, h₂, h₃, h₄, h₅⟩ := hother
  simp only [List.cons_append, List.nil_append, findHeader_cons, h₁, h₂, h₃, h₄, h₅,
    Bool.false_eq_true, if_false]

lemma findHeader_values (proof publicInputs revocationId : String) :
    let headers := [("x-dzta-proof", proof), ("x-dzta-public-inputs", publicInputs),
      ("x-dzta-revocation-id", revocationId)]
    findHeader headers "x-dzta-proof" = some proof ∧
      findHeader headers "x-dzta-public-inputs" = some publicInputs ∧
      findHeader headers "x-dzta-revocation-id" = some revocationId := by
  have hsame : ∀ names ∈ [("x-dzta-proof", "x-dzta-proof"),
      ("x-dzta-public-inputs", "x-dzta-public-inputs"),
      ("x-dzta-revocation-id", "x-dzta-revocation-id")],
      sameHeader names.1 names.2 = true := by
    decide +kernel
  have hother : ∀ names ∈ [("x-dzta-proof", "x-dzta-public-inputs"),
      ("x-dzta-proof", "x-dzta-revocation-id"),
      ("x-dzta-public-inputs", "x-dzta-revocation-id")],
      sameHeader names.1 names.2 = false := by
    decide +kernel
  simp only [List.forall_mem_cons, List.not_mem_nil, false_implies, implies_true, and_true]
    at hsame hother
  obtain ⟨hproof, hinputs, hrevocation⟩ := hsame
  obtain ⟨h₁, h₂, h₃⟩ := hother
  refine ⟨?_, ?_, ?_⟩
  · rw [findHeader_cons, if_pos hproof]
  · rw [findHeader_cons, if_neg (ne_true_of_eq_false h₁), findHeader_cons, if_pos hinputs]
  · rw [findHeader_cons, if_neg (ne_true_of_eq_false h₂), findHeader_cons,
      if_neg (ne_true_of_eq_false h₃), findHeader_cons, if_pos hrevocation]

/-- **What arrives at the edge** from a configuration that keeps the default names and path, and
whose address is an origin: the default path, and the three values as they were given. -/
theorem submitProofRequest_eq {request : ProofRequest} {envoyUrl origin : String} {slashes : ℕ}
    {proof publicInputs revocationId : String} (hconfig : engine.config = .new envoyUrl)
    (horigin : IsOrigin origin)
    (haddress : Rust.trim envoyUrl = origin ++ String.ofList (List.replicate slashes '/'))
    (hproof : request.proof = some proof) (hinputs : request.publicInputs = some publicInputs)
    (hrevocation : request.revocationId = some revocationId)
    (hvalues : ∀ v ∈ [proof, publicInputs, revocationId], Rust.trim v ≠ "" ∧ HeaderSafe v)
    (hvalid : ∀ v ∈ [request.requestId, request.deviceId, request.edgeId, request.action],
      validValue v = true) :
    ∃ headers, engine.submitProofRequest request = some headers ∧
      findHeader headers ":path" = some "/api/v1/resource" ∧
      findHeader headers "x-dzta-proof" = some proof ∧
      findHeader headers "x-dzta-public-inputs" = some publicInputs ∧
      findHeader headers "x-dzta-revocation-id" = some revocationId := by
  have hclean : CleanPath "/api/v1/resource" := ⟨by decide, List.all_iff_forall_prop.mp (by decide)⟩
  have hurl : engine.targetUrl none = origin ++ engine.config.requestPath :=
    targetUrl_of_origin horigin (by rw [hconfig]; exact haddress) (by rw [hconfig]; exact hclean.1)
  have haccepts := engine.http.accepts _ _ horigin hclean
  rw [hconfig] at hurl
  have hsafe : ∀ v ∈ [proof, publicInputs, revocationId], HeaderSafe v :=
    fun v hv => (hvalues v hv).2
  have hrequest := proofRequest_eq hurl haccepts (by rw [hconfig]; rfl) hproof hinputs hrevocation
    (fun v hv => (hvalues v hv).1) fun v hv => by
      rw [show [request.requestId, request.deviceId, request.edgeId, request.action, proof,
        publicInputs, revocationId] = [request.requestId, request.deviceId, request.edgeId,
        request.action] ++ [proof, publicInputs, revocationId] from rfl, List.mem_append] at hv
      exact hv.elim (hvalid v) fun hv => (hsafe v hv).valid
  obtain ⟨hproof', hinputs', hrevocation'⟩ := findHeader_values proof publicInputs revocationId
  have hfind := fun {name} => @findHeader_proofHeaders request.requestId request.deviceId
    request.edgeId request.action [("x-dzta-proof", proof),
      ("x-dzta-public-inputs", publicInputs), ("x-dzta-revocation-id", revocationId)] name
  refine ⟨_, by rw [submitProofRequest, hrequest, Option.map_some], ?_, ?_, ?_, ?_⟩
  · exact engine.http.path _ _ _ horigin hclean rfl
  · exact engine.http.header _ _ _ (by decide) (hsafe proof (by simp))
      ((hfind (by simp)).trans hproof')
  · exact engine.http.header _ _ _ (by decide) (hsafe publicInputs (by simp))
      ((hfind (by simp)).trans hinputs')
  · exact engine.http.header _ _ _ (by decide) (hsafe revocationId (by simp))
      ((hfind (by simp)).trans hrevocation')

end TransportEngine

end DZTA
