import Dzta.Fabric.Tls
import Dzta.Issuer.Mock
import Dzta.Library.Polling

/-!
# How the client invokes and queries

What stands behind the two operations of the gateway.  An invocation has a proposal endorsed by a
peer, signs what comes back, hands it to the orderer through a second connection, and then asks for
the status of the transaction until there is one, or until half a minute has passed.  A query is
evaluated by the peer and leaves no transaction.

What the SDK and the network do is a parameter (`FabricSdk`), over a state of the world.  It has a
clock that goes on while a status is asked for and while the client sleeps; nothing else is said of
it here.

**`waitForTransactionCommit_eq`** says what waiting for a commit comes to, and in how many requests.
**`getEndorsementsWithRetry_eq`** says the same of the endorsement with retries, which no operation
of the client uses.  **`one_peer_iff`** is about the two connections of an invocation: whether they
lead to the same peer.
-/

namespace DZTA

/-! ## The SDK

What is used of the SDK, each call as a parameter. -/

/-- `Envelope`: a payload with a signature over it. -/
structure Envelope where
  payload : Bytes
  signature : Bytes
deriving DecidableEq

/-- `SubmitRequest`: what is handed to an orderer. -/
structure SubmitRequest where
  transactionId : String
  channelId : String
  preparedTransaction : Option Envelope
deriving DecidableEq

/-- `CommitStatusResponse`: a validation code, which is negative while there is none. -/
structure CommitStatus where
  result : Int32
  blockNumber : UInt64

/-- `EndorseResponse`: the envelope of an endorsed proposal, not yet signed. -/
structure EndorseResponse where
  preparedTransaction : Option Envelope

/-- What an invocation needs of the SDK and of the transport.  Errors carry their text. -/
structure FabricSdk (σ : Type) where
  IdentityBuilder : Type
  Identity : Type
  fromPem : Bytes → Except String IdentityBuilder
  withMsp : IdentityBuilder → String → Except String IdentityBuilder
  withPrivateKey : IdentityBuilder → String → Except String IdentityBuilder
  buildIdentity : IdentityBuilder → Except String Identity
  signMessage : Identity → Bytes → Bytes
  ClientBuilder : Type
  Client : Type
  newClient : ClientBuilder
  withIdentity : ClientBuilder → Identity → Except String ClientBuilder
  withTls : ClientBuilder → Bytes → Except String ClientBuilder
  withScheme : ClientBuilder → String → Except String ClientBuilder
  withAuthority : ClientBuilder → String → Except String ClientBuilder
  buildClient : ClientBuilder → Except String Client
  connect : Client → EffectM String σ Unit
  CallBuilder : Type
  PreparedTx : Type
  callBuilder : Client → CallBuilder
  withChannelName : CallBuilder → String → Except String CallBuilder
  withChaincodeId : CallBuilder → String → Except String CallBuilder
  withFunctionName : CallBuilder → String → Except String CallBuilder
  withSystemChaincode : CallBuilder → CallBuilder
  withFunctionArgs : CallBuilder → List String → Except String CallBuilder
  buildPrepared : CallBuilder → EffectM String σ PreparedTx
  txId : PreparedTx → Option String
  endorse : PreparedTx → Client → EffectM String σ Envelope
  evaluate : PreparedTx → Client → EffectM String σ Bytes
  submit : TlsEndpoint → SubmitRequest → EffectM String σ Unit
  commitStatus : Client → (txId channelId : String) → EffectM String σ CommitStatus
  /-- Time in nanoseconds. -/
  clock : Polling.Clock σ
  commitStatus_le : ∀ client txId channelId s,
    clock.now s ≤ clock.now (commitStatus client txId channelId s).2
  /-- An error in the format for debugging. -/
  debug : WalletError → String

/-- `FabricClient`: a profile, the channel and the chaincode, and whether replies are made up. -/
structure FabricClient where
  config : ConnectionConfig
  channelName : String
  chaincodeName : String
  orgMspid : String
  peerUrl : String
  isMock : Bool

namespace FabricClient

/-! ## Connections

From a name in the profile to a client that is connected. -/

/-- `get_peer_url` of the profile. -/
def getPeerUrl (config : ConnectionConfig) (peerName : String) : WalletResult String :=
  Except.okOr (.configError ("Peer '" ++ peerName ++ "' not found"))
    ((config.peers.get? peerName).map fun p => p.url)

/-- `FabricClient::new`, with the profile that was read. -/
def new (host : TlsHost) (config : ConnectionConfig)
    (channelName chaincodeName orgName peerName : String) : WalletResult FabricClient := do
  let orgMspid ← config.getOrgMspid orgName
  let rawPeerUrl := (host.env "FABRIC_PEER_ENDPOINT").getD
    ((getPeerUrl config peerName).toOption.getD "")
  return ⟨config, channelName, chaincodeName, orgMspid, sanitizeUrl rawPeerUrl, false⟩

section Invoke

variable {σ : Type} (client : FabricClient) (host : TlsHost) (sdk : FabricSdk σ)

/-- `build_sdk_identity`: the identity of a user, with certificate and key taken from files. -/
def buildSdkIdentity (userContext : UserContext) : WalletResult sdk.Identity := do
  let loadedCert ← loadCert host userContext.certPem
  let loadedKey ← loadKey host userContext.keyPem
  let builder ← (sdk.fromPem loadedCert).mapError fun e =>
    .configError ("Identity PEM parsing failed: " ++ e)
  let builder ← (sdk.withMsp builder client.orgMspid).mapError fun e =>
    .configError ("Invalid MSP initialization: " ++ e)
  let builder ← (sdk.withPrivateKey builder loadedKey).mapError fun e =>
    .configError ("Private key binding failed: " ++ e)
  (sdk.buildIdentity builder).mapError fun e =>
    .configError ("Failed to compile SDK identity structures: " ++ e)

/-- `read_peer_tls_cert_bytes`: the certificate that a peer is trusted by. -/
def readPeerTlsCertBytes (peerName : String) : WalletResult Bytes := do
  let peer ← Except.okOr (.configError ("Peer '" ++ peerName ++ "' not found for TLS loading"))
    (client.config.peers.get? peerName)
  match peer.tlsCaCerts with
  | some wrapper =>
    (host.read wrapper.path).mapError fun e =>
      .configError ("Failed to read TLS CA file " ++ wrapper.path ++ ": " ++ e)
  | none => .ok []

/-- The authority that the SDK client connects to. -/
def peerAuthority : String := cleanUrl client.peerUrl

/-- `connect_gateway_client`: a client of the SDK, connected to a peer. -/
def connectGatewayClient (identity : sdk.Identity) (peerName : String) : FabricM σ sdk.Client := do
  let tlsCertBytes ← .ofResult (client.readPeerTlsCertBytes host peerName)
  let builder ← .ofResult ((sdk.withIdentity sdk.newClient identity).mapError fun e =>
    .configError ("Client identity assignment failed: " ++ e))
  let builder ← .ofResult ((sdk.withTls builder tlsCertBytes).mapError fun e =>
    .configError ("Client TLS configuration failed: " ++ e))
  let builder ← .ofResult ((sdk.withScheme builder "https").mapError fun e =>
    .configError ("Client scheme declaration failed: " ++ e))
  let builder ← .ofResult ((sdk.withAuthority builder client.peerAuthority).mapError fun e =>
    .configError ("Client endpoint assignment failed: " ++ e))
  let sdkClient ← .ofResult ((sdk.buildClient builder).mapError fun e =>
    .networkError ("Failed to build SDK client layout: " ++ e))
  .mapError (fun e => .networkError ("Gateway gRPC channel handshake failed: " ++ e))
    (sdk.connect sdkClient)
  return sdkClient

/-! ## Waiting for a commit

A loop that polls the status of a transaction. -/

/-- The time between two requests for a status, in nanoseconds. -/
def pollInterval : ℕ := 500000000

/-- A timeout in nanoseconds. -/
def timeoutNanos (timeoutSecs : UInt64) : ℕ := timeoutSecs.toNat * 1000000000

lemma timeoutNanos_eq (timeoutSecs : UInt64) :
    timeoutNanos timeoutSecs = 2 * timeoutSecs.toNat * pollInterval := by
  rw [timeoutNanos, pollInterval]
  omega

/-- The error of a transaction that was found invalid. -/
def rejected (txId : String) (code : Int32) : WalletError :=
  .chaincodeFailed ("Transaction " ++ txId ++ " rejected by peer validation code: " ++
    toString code)

/-- What a status says of a transaction; none if it leaves the question open. -/
def commitVerdict (txId : String) : Except String CommitStatus → Option (WalletResult Unit)
  | .ok status =>
    if status.result = 0 then some (.ok ())
    else if 0 < status.result then some (.error (rejected txId status.result))
    else none
  | .error _ => none

/-- The error of a transaction whose commit was not seen in time. -/
def notCommitted (txId : String) (timeoutSecs : UInt64) : WalletError :=
  .chaincodeFailed ("Transaction " ++ txId ++ " not committed within " ++ toString timeoutSecs ++
    " seconds")

/-- The loop of `wait_for_transaction_commit`, from a time on. -/
def commitLoop (sdkClient : sdk.Client) (txId : String) (timeoutSecs : UInt64) (start : ℕ) :
    Polling.Loop σ (WalletResult Unit) where
  stop _ s :=
    if timeoutNanos timeoutSecs < sdk.clock.now s - start then
      some (.error (notCommitted txId timeoutSecs))
    else none
  poll _ s :=
    let reply := sdk.commitStatus sdkClient txId client.channelName s
    (commitVerdict txId reply.1, reply.2)
  pause _ s := sdk.clock.sleep pollInterval s

variable {client sdk} {sdkClient : sdk.Client} {txId : String} {timeoutSecs : UInt64}

/-- A round after the timeout. -/
lemma round_of_late {start : ℕ} {s : σ} (h : timeoutNanos timeoutSecs < sdk.clock.now s - start)
    (k : ℕ) : (client.commitLoop sdk sdkClient txId timeoutSecs start).round k s =
      (some (.error (notCommitted txId timeoutSecs)), s) :=
  Polling.Loop.round_of_stop (if_pos h)

/-- A round in time. -/
lemma round_of_early {start : ℕ} {s : σ} (h : ¬ timeoutNanos timeoutSecs < sdk.clock.now s - start)
    (k : ℕ) : (client.commitLoop sdk sdkClient txId timeoutSecs start).round k s =
      (commitVerdict txId (sdk.commitStatus sdkClient txId client.channelName s).1,
        (sdk.commitStatus sdkClient txId client.channelName s).2) :=
  Polling.Loop.round_of_not_stop (if_neg h)

lemma now_le_round (client : FabricClient) (sdk : FabricSdk σ) (sdkClient : sdk.Client)
    (txId : String) (timeoutSecs : UInt64) (start k : ℕ) (s : σ) : sdk.clock.now s ≤
      sdk.clock.now ((client.commitLoop sdk sdkClient txId timeoutSecs start).round k s).2 := by
  by_cases h : timeoutNanos timeoutSecs < sdk.clock.now s - start
  · rw [round_of_late h]
  · rw [round_of_early h]
    exact sdk.commitStatus_le sdkClient txId client.channelName s

/-- **The loop ends**, after two rounds for each second and one more. -/
lemma isSome_commitLoop (s : σ) :
    ((client.commitLoop sdk sdkClient txId timeoutSecs (sdk.clock.now s)).run
      (2 * timeoutSecs.toNat + 1 + 1) 0 s).isSome := by
  have hstop : ∀ t, timeoutNanos timeoutSecs < sdk.clock.now t - sdk.clock.now s →
      ((client.commitLoop sdk sdkClient txId timeoutSecs (sdk.clock.now s)).stop
        (2 * timeoutSecs.toNat + 1) t).isSome = true := by
    intro t hlate
    simp only [commitLoop, if_pos hlate, Option.isSome_some]
  refine Polling.Loop.isSome_run_of_deadline (now_le_round client sdk sdkClient txId timeoutSecs _)
    (fun _ s => sdk.clock.sleep_le pollInterval s) s hstop ?_
  rw [timeoutNanos_eq]
  exact Nat.mul_lt_mul_of_pos_right (Nat.lt_succ_self _) (by decide)

variable (client sdk)

/-- `wait_for_transaction_commit`: the status is polled until it is known or the time is up. -/
def waitForTransactionCommit (sdkClient : sdk.Client) (txId : String) (timeoutSecs : UInt64) :
    FabricM σ Unit := fun s =>
  if client.isMock then (.ok (), s)
  else
    ((client.commitLoop sdk sdkClient txId timeoutSecs (sdk.clock.now s)).run
      (2 * timeoutSecs.toNat + 1 + 1) 0 s).get (isSome_commitLoop s)

/-! ## Endorsements with retries

A loop that asks again after a pause. -/

/-- The pause after the `k`-th failed attempt, in milliseconds. -/
def backoffMs (k : ℕ) : UInt64 := 100 * UInt64.ofNat (2 ^ k)

/-- What the `k`-th attempt comes to; none if there is another one. -/
def endorsementVerdict (maxRetries : UInt32) (k : ℕ) :
    Except String EndorseResponse → Option (WalletResult EndorseResponse)
  | .ok response => some (.ok response)
  | .error message =>
    if maxRetries.toNat ≤ k + 1 then
      some (.error (.chaincodeFailed ("Max endorsement retries exhausted. Gateway Error: " ++
        message)))
    else none

/-- The loop of `get_endorsements_with_retry`. -/
def endorsementLoop (endorse : EffectM String σ EndorseResponse) (maxRetries : UInt32) :
    Polling.Loop σ (WalletResult EndorseResponse) where
  stop k _ :=
    if maxRetries.toNat ≤ k then
      some (.error (.chaincodeFailed "Unexpected system exit within client retry block"))
    else none
  poll k s := (endorsementVerdict maxRetries k (endorse s).1, (endorse s).2)
  pause k s := sdk.clock.sleep ((backoffMs k).toNat * 1000000) s

lemma isSome_endorsementLoop (endorse : EffectM String σ EndorseResponse) (maxRetries : UInt32)
    (s : σ) :
    ((endorsementLoop sdk endorse maxRetries).run (maxRetries.toNat + 1) 0 s).isSome := by
  refine Polling.Loop.isSome_run (Nat.lt_succ_self _) ?_
  rw [Polling.Loop.round_of_stop (if_pos le_rfl)]
  rfl

/-- `get_endorsements_with_retry`: attempts with a pause between them that doubles. -/
def getEndorsementsWithRetry (endorse : EffectM String σ EndorseResponse) (maxRetries : UInt32) :
    FabricM σ EndorseResponse := fun s =>
  if client.isMock then (.ok ⟨none⟩, s)
  else
    ((endorsementLoop sdk endorse maxRetries).run (maxRetries.toNat + 1) 0 s).get
      (isSome_endorsementLoop sdk endorse maxRetries s)

/-! ## Invocations and queries

What both have in common, and where they part. -/

/-- The proposal for a call, under an id that is made up for it. -/
def prepare (sdkClient : sdk.Client) (lastError : String) (function : String)
    (args : List String) : FabricM σ sdk.PreparedTx := do
  let builder ← .ofResult
    ((sdk.withChannelName (sdk.callBuilder sdkClient) client.channelName).mapError fun e =>
      .configError ("Invalid channel assignment: " ++ e))
  let builder ← .ofResult ((sdk.withChaincodeId builder client.chaincodeName).mapError fun e =>
    .configError ("Invalid chaincode execution identifier: " ++ e))
  let builder ← .ofResult ((sdk.withFunctionName builder function).mapError fun e =>
    .configError ("Invalid function endpoint layout: " ++ e))
  let builder ← .ofResult
    ((sdk.withFunctionArgs (sdk.withSystemChaincode builder) args).mapError fun e =>
      .configError ("Failed to inject transaction string payloads: " ++ e))
  .mapError (fun e => .chaincodeFailed (lastError ++ e)) (sdk.buildPrepared builder)

/-- The identity of the user, and a client that is connected with it. -/
def connectAsUser : FabricM σ (UserContext × sdk.Identity × sdk.Client) := do
  let userContext ← .ofResult (client.config.getUserContext.mapError fun _ =>
    .configError "Failed to load active user cryptographic contexts")
  let identity ← .ofResult (client.buildSdkIdentity host sdk userContext)
  let sdkClient ← client.connectGatewayClient host sdk identity "org1-peer1"
  return (userContext, identity, sdkClient)

/-- An invocation up to the proposal. -/
def propose (function : String) (args : List String) :
    FabricM σ (UserContext × sdk.Identity × sdk.Client × sdk.PreparedTx) := do
  let (userContext, identity, sdkClient) ← client.connectAsUser host sdk
  let preparedTx ← client.prepare sdk sdkClient
    "Failed to construct prepared execution payload: " function args
  return (userContext, identity, sdkClient, preparedTx)

/-- The endorsement of a proposal and the signature of the client. -/
def endorseAndSign (identity : sdk.Identity) (sdkClient : sdk.Client)
    (preparedTx : sdk.PreparedTx) : FabricM σ Envelope := do
  let unsignedEnvelope ← .mapError (fun e =>
    .chaincodeFailed ("Ledger transaction signature execution rejected: " ++ e))
    (sdk.endorse preparedTx sdkClient)
  return { unsignedEnvelope with
    signature := sdk.signMessage identity unsignedEnvelope.payload }

/-- The transaction of an endorsed proposal is handed in, and its commit awaited. -/
def submitAndWait (endpoint : TlsEndpoint) (sdkClient : sdk.Client) (txId : String)
    (envelope : Envelope) : FabricM σ String := do
  .mapError (fun e => .chaincodeFailed ("Gateway transaction submission failed: " ++ e))
    (sdk.submit endpoint ⟨txId, client.channelName, some envelope⟩)
  client.waitForTransactionCommit sdk sdkClient txId 30
  return txId

/-- `invoke_chaincode` of a client that is not in mock mode. -/
def invokeLive (function : String) (args : List String) : FabricM σ String := do
  let (userContext, identity, sdkClient, preparedTx) ← client.propose host sdk function args
  let txId := (sdk.txId preparedTx).getD ""
  let envelope ← endorseAndSign sdk identity sdkClient preparedTx
  let endpoint ← .ofResult
    ((buildTlsGatewayClient host client.config client.isMock userContext).mapError fun e =>
      .networkError ("Failed to build TLS Gateway client: " ++ sdk.debug e))
  client.submitAndWait sdk endpoint sdkClient txId envelope

/-- `query_chaincode` of a client that is not in mock mode. -/
def queryLive (function : String) (args : List String) : FabricM σ Bytes := do
  let (_, _, sdkClient) ← client.connectAsUser host sdk
  let preparedTx ← client.prepare sdk sdkClient
    "Failed to compile evaluate transaction details: " function args
  .mapError (fun e =>
    .chaincodeFailed ("Gateway query payload transaction execution failure: " ++ e))
    (sdk.evaluate preparedTx sdkClient)

/-- **The gateway that a client is**: `invoke_chaincode` and `query_chaincode`; `unixSeconds` is
what the clock of the system shows. -/
def gateway (unixSeconds : Int64) : Gateway σ :=
  if client.isMock then .mock unixSeconds
  else ⟨client.invokeLive host sdk, client.queryLive host sdk⟩

end Invoke

/-! ## What waiting comes to

The loop ends, at the first poll that decides or is too late. -/

section Wait

variable {σ : Type} {client : FabricClient} {sdk : FabricSdk σ}

/-- A request that leaves the question open is followed by a pause. -/
lemma before_commitLoop_succ {sdkClient : sdk.Client} {txId : String} {timeoutSecs : UInt64}
    {start : ℕ} {s : σ} {n : ℕ} :
    let loop := client.commitLoop sdk sdkClient txId timeoutSecs start
    ¬ timeoutNanos timeoutSecs < sdk.clock.now (loop.before s n) - start →
    loop.before s (n + 1) = sdk.clock.sleep pollInterval
      (sdk.commitStatus sdkClient txId client.channelName (loop.before s n)).2 := by
  intro loop hearly
  rw [Polling.Loop.before, round_of_early hearly]
  rfl

/-- Outside of mock mode, waiting is a run of the loop. -/
lemma run_commitLoop_eq (hlive : client.isMock = false) {sdkClient : sdk.Client} {txId : String}
    {timeoutSecs : UInt64} {s : σ} :
    (client.commitLoop sdk sdkClient txId timeoutSecs (sdk.clock.now s)).run
      (2 * timeoutSecs.toNat + 1 + 1) 0 s =
        some (client.waitForTransactionCommit sdk sdkClient txId timeoutSecs s) := by
  simp only [waitForTransactionCommit, hlive, Bool.false_eq_true, if_false, Option.some_get]

/-- **What waiting for a commit comes to.**  Outside of mock mode, statuses are requested half a
second apart, at most two for each second of the timeout and one more.  The first one that has a
validation code decides: the transaction is valid or it is rejected with this code.  If none has one
in time, that is an error. -/
theorem waitForTransactionCommit_eq (client : FabricClient) (sdk : FabricSdk σ)
    (sdkClient : sdk.Client) (txId : String) (timeoutSecs : UInt64) (s : σ) :
    let loop := client.commitLoop sdk sdkClient txId timeoutSecs (sdk.clock.now s)
    let late := fun n =>
      timeoutNanos timeoutSecs < sdk.clock.now (loop.before s n) - sdk.clock.now s
    let status := fun n => sdk.commitStatus sdkClient txId client.channelName (loop.before s n)
    let run := client.waitForTransactionCommit sdk sdkClient txId timeoutSecs s
    (client.isMock = true ∧ run = (.ok (), s)) ∨
    (client.isMock = false ∧ ∃ n,
      (∀ j < n, ¬ late j ∧ commitVerdict txId (status j).1 = none ∧
        loop.before s (j + 1) = sdk.clock.sleep pollInterval (status j).2) ∧
      ((n ≤ 2 * timeoutSecs.toNat + 1 ∧ late n ∧
          run = (.error (notCommitted txId timeoutSecs), loop.before s n)) ∨
        (n ≤ 2 * timeoutSecs.toNat ∧ ¬ late n ∧
          ∃ result, commitVerdict txId (status n).1 = some result ∧
            run = (result, (status n).2)))) := by
  intro loop late status run
  cases hmock : client.isMock with
  | true => exact .inl ⟨rfl, by simp only [run, waitForTransactionCommit, hmock, if_true]⟩
  | false =>
  refine .inr ⟨rfl, ?_⟩
  have hrun : loop.run (2 * timeoutSecs.toNat + 1 + 1) 0 s = some run := run_commitLoop_eq hmock
  obtain ⟨⟨result, s'⟩, hwait⟩ : ∃ r, run = r := ⟨_, rfl⟩
  rw [hwait] at hrun
  obtain ⟨n, hn, hopen, hend⟩ := Polling.Loop.run_eq_some_iff.mp hrun
  have hlate : ∀ j, late j →
      loop.round j (loop.before s j) = (some (.error (notCommitted txId timeoutSecs)),
        loop.before s j) :=
    fun j h => round_of_late h j
  have hearly : ∀ j, ¬ late j →
      loop.round j (loop.before s j) = (commitVerdict txId (status j).1, (status j).2) :=
    fun j h => round_of_early h j
  refine ⟨n, fun j hj => ?_, ?_⟩
  · have hround : (loop.round j (loop.before s j)).1 = none := hopen j hj
    by_cases h : late j
    · rw [hlate j h] at hround
      cases hround
    · rw [hearly j h] at hround
      exact ⟨h, hround, before_commitLoop_succ h⟩
  · replace hend : loop.round n (loop.before s n) = (some result, s') := hend
    by_cases h : late n
    · rw [hlate n h] at hend
      obtain ⟨hresult, rfl⟩ := Prod.mk.inj hend
      obtain rfl := Option.some.inj hresult
      exact .inl ⟨by omega, h, hwait⟩
    · rw [hearly n h] at hend
      obtain ⟨hresult, rfl⟩ := Prod.mk.inj hend
      refine .inr ⟨?_, h, result, hresult, hwait⟩
      -- by then the timeout has not passed, and every round before it took half a second
      have hnow := Polling.Loop.now_before
        (now_le_round client sdk sdkClient txId timeoutSecs (sdk.clock.now s))
        (fun _ s => sdk.clock.sleep_le pollInterval s) s n
      have hwindow : n * pollInterval ≤ 2 * timeoutSecs.toNat * pollInterval := by
        rw [← timeoutNanos_eq]
        exact (Nat.le_sub_of_add_le' hnow).trans (Nat.not_lt.mp h)
      exact Nat.le_of_mul_le_mul_right hwindow (by decide)

end Wait

/-! ## What retrying comes to

The loop ends, with the first success or with the last error. -/

section Retry

variable {σ : Type} {client : FabricClient} {sdk : FabricSdk σ}

/-- The pauses double as long as they fit into 64 bits. -/
lemma toNat_backoffMs {k : ℕ} (hk : k ≤ 57) : (backoffMs k).toNat = 100 * 2 ^ k := by
  have hpow : (2 : ℕ) ^ k ≤ 2 ^ 57 := Nat.pow_le_pow_right (by norm_num) hk
  have hhundred : UInt64.toNat 100 = 100 := rfl
  rw [backoffMs, UInt64.toNat_mul, UInt64.toNat_ofNat', hhundred]
  norm_num at hpow ⊢
  omega

/-- The pauses of the first attempts together. -/
lemma sum_backoffMs {n : ℕ} (hn : n ≤ 58) :
    ((List.range n).map fun k => (backoffMs k).toNat).sum = 100 * (2 ^ n - 1) := by
  induction n with
  | zero => rfl
  | succ n ih =>
    have hpos : 0 < 2 ^ n := Nat.two_pow_pos n
    rw [List.range_succ, List.map_append, List.sum_append, ih (by omega), List.map_singleton,
      List.sum_singleton, toNat_backoffMs (by omega), pow_succ]
    omega

/-- A verdict on a failed attempt is the last one. -/
lemma endorsementVerdict_eq_some {maxRetries : UInt32} {k : ℕ}
    {reply : Except String EndorseResponse} {result : WalletResult EndorseResponse}
    (h : endorsementVerdict maxRetries k reply = some result) :
    (∃ response, reply = .ok response ∧ result = .ok response) ∨
      (maxRetries.toNat ≤ k + 1 ∧ ∃ message, reply = .error message ∧
        result = .error (.chaincodeFailed
          ("Max endorsement retries exhausted. Gateway Error: " ++ message))) := by
  cases reply with
  | ok response => exact .inl ⟨response, rfl, (Option.some.inj h).symm⟩
  | error message =>
    rw [endorsementVerdict] at h
    split at h
    · rename_i hlast
      exact .inr ⟨hlast, message, rfl, (Option.some.inj h).symm⟩
    · cases h

lemma endorsementVerdict_eq_none {maxRetries : UInt32} {k : ℕ}
    {reply : Except String EndorseResponse} (h : endorsementVerdict maxRetries k reply = none) :
    k + 1 < maxRetries.toNat ∧ ∃ message, reply = .error message := by
  cases reply with
  | ok response => cases h
  | error message =>
    rw [endorsementVerdict] at h
    split at h
    · cases h
    · rename_i hlast
      exact ⟨Nat.not_le.mp hlast, message, rfl⟩

/-- **What an endorsement with retries comes to.**  Without retries nothing is asked.  Otherwise the
first attempt that succeeds decides, and if none of them does, the message of the last one is the
error.  The pauses between the attempts double, and none follows the last one; up to the 58th they
add up to a geometric sum. -/
theorem getEndorsementsWithRetry_eq (client : FabricClient) (sdk : FabricSdk σ)
    (endorse : EffectM String σ EndorseResponse) (maxRetries : UInt32) (s : σ) :
    let loop := endorsementLoop sdk endorse maxRetries
    let attempt := fun n => endorse (loop.before s n)
    let run := client.getEndorsementsWithRetry sdk endorse maxRetries s
    (client.isMock = true ∧ run = (.ok ⟨none⟩, s)) ∨
    (client.isMock = false ∧ maxRetries.toNat = 0 ∧ run =
      (.error (.chaincodeFailed "Unexpected system exit within client retry block"), s)) ∨
    (client.isMock = false ∧ ∃ n < maxRetries.toNat,
      (∀ j < n, (∃ message, (attempt j).1 = .error message) ∧
        loop.before s (j + 1) =
          sdk.clock.sleep ((backoffMs j).toNat * 1000000) (attempt j).2) ∧
      (n ≤ 58 → ((List.range n).map fun k => (backoffMs k).toNat).sum = 100 * (2 ^ n - 1)) ∧
      ((∃ response, (attempt n).1 = .ok response ∧ run = (.ok response, (attempt n).2)) ∨
        (n + 1 = maxRetries.toNat ∧ ∃ message, (attempt n).1 = .error message ∧
          run = (.error (.chaincodeFailed
            ("Max endorsement retries exhausted. Gateway Error: " ++ message)),
            (attempt n).2)))) := by
  intro loop attempt run
  cases hmock : client.isMock with
  | true => exact .inl ⟨rfl, by simp only [run, getEndorsementsWithRetry, hmock, if_true]⟩
  | false =>
  refine .inr ?_
  obtain ⟨⟨result, s'⟩, hrun⟩ := Option.isSome_iff_exists.mp
    (isSome_endorsementLoop sdk endorse maxRetries s)
  have hresult : run = (result, s') := by
    simp only [run, getEndorsementsWithRetry, hmock, Bool.false_eq_true, if_false]
    exact Option.get_of_eq_some _ hrun
  obtain ⟨n, -, hopen, hend⟩ := Polling.Loop.run_eq_some_iff.mp hrun
  replace hend : loop.round n (loop.before s n) = (some result, s') := hend
  have hpoll : ∀ j < maxRetries.toNat, loop.round j (loop.before s j) =
      (endorsementVerdict maxRetries j (attempt j).1, (attempt j).2) :=
    fun j hj => Polling.Loop.round_of_not_stop (if_neg (Nat.not_le.mpr hj))
  -- no round after the last attempt is reached
  have hbound : ∀ j < n, j + 1 < maxRetries.toNat ∧
      (∃ message, (attempt j).1 = .error message) ∧
      loop.before s (j + 1) =
        sdk.clock.sleep ((backoffMs j).toNat * 1000000) (attempt j).2 := by
    intro j hj
    have hround : (loop.round j (loop.before s j)).1 = none := hopen j hj
    by_cases hlast : maxRetries.toNat ≤ j
    · rw [Polling.Loop.round_of_stop (if_pos hlast)] at hround
      cases hround
    · rw [hpoll j (Nat.not_le.mp hlast)] at hround
      obtain ⟨hmore, hmessage⟩ := endorsementVerdict_eq_none hround
      refine ⟨hmore, hmessage, ?_⟩
      rw [Polling.Loop.before, hpoll j (Nat.not_le.mp hlast)]
      rfl
  by_cases hn : n < maxRetries.toNat
  · rw [hpoll n hn] at hend
    obtain ⟨hverdict, rfl⟩ := Prod.mk.inj hend
    refine .inr ⟨rfl, n, hn, fun j hj => (hbound j hj).2, sum_backoffMs, ?_⟩
    rcases endorsementVerdict_eq_some hverdict with
      ⟨response, hreply, rfl⟩ | ⟨hlast, message, hreply, rfl⟩
    · exact .inl ⟨response, hreply, hresult⟩
    · exact .inr ⟨by omega, message, hreply, hresult⟩
  · left
    have hzero : n = 0 := by
      cases n with
      | zero => rfl
      | succ m => exact absurd (hbound m (Nat.lt_succ_self m)).1 hn
    subst hzero
    rw [Polling.Loop.round_of_stop (if_pos (Nat.not_lt.mp hn))] at hend
    obtain ⟨hstop, rfl⟩ := Prod.mk.inj hend
    refine ⟨rfl, by omega, ?_⟩
    rw [hresult, ← Option.some.inj hstop]
    rfl

end Retry

/-! ## The two connections of an invocation

Endorsement and submission dial on their own, and not always the same peer. -/

section Connections

lemma dialled_inj {url url' : PeerUrl} :
    url.dialledHost ++ ":" ++ url.port = url'.dialledHost ++ ":" ++ url'.port ↔
      url.dialledHost = url'.dialledHost ∧ url.port = url'.port := by
  have hkeep : ∀ u : PeerUrl, (u.dialledHost ++ ":" ++ u.port).toList.takeWhile (· ≠ ':') =
      u.dialledHost.toList := by
    intro u
    have hcolon : ∀ c ∈ u.dialledHost.toList, decide (c ≠ ':') = true := by
      intro c hc
      refine decide_eq_true ?_
      rintro rfl
      rw [PeerUrl.dialledHost] at hc
      cases hscheme : u.scheme with
      | none =>
        rw [hscheme, String.toList_ofList] at hc
        exact u.colon_not_mem_host ((PeerUrl.unquoted_suffix _).subset hc)
      | some scheme =>
        rw [hscheme] at hc
        exact u.colon_not_mem_host hc
    rw [String.append_assoc, String.toList_append, List.takeWhile_append_of_pos hcolon]
    simp [String.toList_append]
  constructor
  · intro h
    have hhost : url.dialledHost = url'.dialledHost :=
      String.toList_inj.mp (by rw [← hkeep url, h, hkeep url'])
    refine ⟨hhost, String.toList_inj.mp ?_⟩
    have hlist := congrArg String.toList h
    rw [hhost] at hlist
    simpa only [String.toList_append, List.append_cancel_left_eq] using hlist
  · rintro ⟨hhost, hport⟩
    rw [hhost, hport]

lemma cleanUrl_sanitizeUrl_text (url : PeerUrl) :
    cleanUrl (sanitizeUrl url.text) = url.dialledHost ++ ":" ++ url.port := by
  have hurl := url.endpointUrl_text
  rw [endpointUrl, ← String.toList_inj, String.toList_append, String.toList_append,
    List.append_cancel_left_eq, String.toList_inj] at hurl
  exact hurl

/-- **Whether an invocation deals with one peer.**  It has its transaction endorsed at the address
that the client was built with and submits it to the peer `org1-peer1`.  The environment overrides
both; without it the two are one address if and only if the profile gives both peers the same host
and port, with whatever schemes. -/
theorem one_peer_iff {host : TlsHost} {config : ConnectionConfig}
    {channelName chaincodeName orgName peerName : String} {client : FabricClient}
    {userContext : UserContext} {peer submitting : PeerConfig} {endpoint : TlsEndpoint}
    (url url' : PeerUrl)
    (hnew : new host config channelName chaincodeName orgName peerName = .ok client)
    (hpeer : config.getPeerConfig peerName = .ok peer) (hurl : peer.url = url.text)
    (hsubmitting : config.getPeerConfig "org1-peer1" = .ok submitting)
    (hurl' : submitting.url = url'.text)
    (h : tlsEndpoint host client.config client.isMock userContext = .ok endpoint) :
    endpoint.url = "https://" ++ client.peerAuthority ↔
      (host.env "FABRIC_PEER_ENDPOINT").isSome = true ∨
        (url.dialledHost = url'.dialledHost ∧ url.port = url'.port) := by
  obtain ⟨mspid, -, hnew⟩ := Except.bind_eq_ok_iff.mp hnew
  obtain rfl := Except.ok.inj hnew
  obtain ⟨submitting', hsubmitting', -, hendpoint⟩ := tlsEndpoint_eq_ok h
  obtain rfl := Except.ok.inj (hsubmitting'.symm.trans hsubmitting)
  have hget : (getPeerUrl config peerName).toOption.getD "" = url.text := by
    rw [ConnectionConfig.getPeerConfig] at hpeer
    rw [getPeerUrl, Except.okOr_eq_ok_iff.mp hpeer, ← hurl]
    rfl
  rw [hendpoint, endpointUrl, peerAuthority, ← String.toList_inj, String.toList_append,
    String.toList_append, List.append_cancel_left_eq, String.toList_inj, hurl', hget]
  cases host.env "FABRIC_PEER_ENDPOINT" with
  | some raw => simp
  | none =>
    simp only [Option.getD_none, Option.isSome_none, Bool.false_eq_true, false_or]
    rw [cleanUrl_sanitizeUrl_text, cleanUrl_sanitizeUrl_text, dialled_inj, eq_comm,
      eq_comm (a := url'.port)]

/-! ### A profile with two peers

The peers differ in their ports alone. -/

/-- The URL of another peer on the same machine. -/
def otherPortUrl : PeerUrl :=
  { plainUrl with
    port := "7051"
    port_ne_empty := by decide
    port_digits := List.all_iff_forall_prop.mp (by decide) }

/-- Two peers on one machine. -/
def twoPeers : ConnectionConfig :=
  { tlsProfile plainUrl with
    peers := ⟨[("org1-peer0", tlsPeer otherPortUrl), ("org1-peer1", tlsPeer plainUrl)],
      by decide⟩ }

/-- A client that was built for one of two peers submits to the other one, whose port differs. -/
theorem one_peer_iff_twoPeers :
    ∃ client endpoint,
      new (tlsHost none) twoPeers "dzta" "dztac" "Org1" "org1-peer0" = .ok client ∧
      tlsEndpoint (tlsHost none) client.config client.isMock adminContext = .ok endpoint ∧
      endpoint.url ≠ "https://" ++ client.peerAuthority := by
  obtain ⟨client, hnew⟩ : ∃ client,
      new (tlsHost none) twoPeers "dzta" "dztac" "Org1" "org1-peer0" = .ok client := ⟨_, rfl⟩
  obtain ⟨endpoint, hendpoint⟩ : ∃ endpoint,
      tlsEndpoint (tlsHost none) client.config client.isMock adminContext = .ok endpoint := by
    obtain rfl := Except.ok.inj hnew
    exact ⟨_, rfl⟩
  have hpeer : twoPeers.getPeerConfig "org1-peer0" = .ok (tlsPeer otherPortUrl) := rfl
  have hsubmitting : twoPeers.getPeerConfig "org1-peer1" = .ok (tlsPeer plainUrl) := rfl
  refine ⟨client, endpoint, hnew, hendpoint, fun hsame => ?_⟩
  rcases (one_peer_iff otherPortUrl plainUrl hnew hpeer rfl hsubmitting rfl hendpoint).mp hsame
    with henv | ⟨-, hport⟩
  · cases henv
  · exact absurd hport (by decide)

end Connections

end FabricClient

end DZTA
