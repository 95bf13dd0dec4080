import Dzta.Fabric.Network

/-!
# What an invocation comes to

The client on a network on which others write (`Network`).  **`invokeLive_spec`** goes through
`invoke_chaincode` step by step: nothing is handed in, or one transaction is, and then the result
tells what was known of it.

**`invokeLive_at_most_once`**: an invocation leads to one commit, to none ever, or to at most one,
and the result tells which.  **`acknowledged_sublist`** follows a client through a session: whatever
it was told is committed is in the history once, in the order in which the calls were made.
**`serves_of_honest`** closes the gap to the gateways of which the other modules speak: where nobody
else writes, the client is one that serves the channel.
-/

namespace DZTA

open GoJson

/-! ## What an invocation comes to

Up to the hand-in an invocation leaves the network to others; from there on it only waits. -/

namespace FabricClient

open Network

variable {σ : Type} (client : FabricClient) (host : TlsHost) {sdk : FabricSdk σ}
  {view : ChannelView sdk} {R : Network → Network → Prop}

/-- The id of a proposal is one that the SDK has made up. -/
lemma own_of_propose {own : String → Prop} (hmints : sdk.Mints own) {function : String}
    {args : List String} {s s' : σ} {r : UserContext × sdk.Identity × sdk.Client × sdk.PreparedTx}
    (h : client.propose host sdk function args s = (.ok r, s')) :
    own ((sdk.txId r.2.2.2).getD "") := by
  rw [propose] at h
  obtain ⟨⟨userContext, identity, sdkClient⟩, t₁, -, h⟩ := EffectM.bind_eq_ok_iff.mp h
  obtain ⟨preparedTx, t₂, hprepare, h⟩ := EffectM.bind_eq_ok_iff.mp h
  cases h
  rw [prepare] at hprepare
  obtain ⟨_, _, -, h⟩ := EffectM.bind_eq_ok_iff.mp hprepare
  obtain ⟨_, _, -, h⟩ := EffectM.bind_eq_ok_iff.mp h
  obtain ⟨_, _, -, h⟩ := EffectM.bind_eq_ok_iff.mp h
  obtain ⟨_, _, -, h⟩ := EffectM.bind_eq_ok_iff.mp h
  exact hmints _ _ _ _ (EffectM.mapError_eq_ok_iff.mp h)

section Steps

variable (honest : view.Honest R)

include honest

lemma connectGatewayClient_moves (identity : sdk.Identity) (peerName : String) :
    (client.connectGatewayClient host sdk identity peerName).Moves (view.After R) := by
  rw [connectGatewayClient]
  refine .bind (.ofExcept _) fun tlsCertBytes => .bind (.ofExcept _) fun b => ?_
  refine .bind (.ofExcept _) fun b => .bind (.ofExcept _) fun b => .bind (.ofExcept _) fun b => ?_
  refine .bind (.ofExcept _) fun sdkClient => ?_
  exact .bind ((honest.connect_moves sdkClient).mapError _) fun _ => .pure _

lemma connectAsUser_moves : (client.connectAsUser host sdk).Moves (view.After R) := by
  rw [connectAsUser]
  refine .bind (.ofExcept _) fun userContext => .bind (.ofExcept _) fun identity => ?_
  exact .bind (connectGatewayClient_moves client host honest identity _) fun _ => .pure _

lemma prepare_moves (sdkClient : sdk.Client) (lastError function : String) (args : List String) :
    (client.prepare sdk sdkClient lastError function args).Moves (view.After R) := by
  rw [prepare]
  refine .bind (.ofExcept _) fun b => .bind (.ofExcept _) fun b => .bind (.ofExcept _) fun b => ?_
  exact .bind (.ofExcept _) fun b => (honest.buildPrepared_moves b).mapError _

/-- A proposal is one for the call. -/
lemma proposal_of_prepare {sdkClient : sdk.Client} {lastError function : String}
    {args : List String} {s s' : σ} {preparedTx : sdk.PreparedTx}
    (h : client.prepare sdk sdkClient lastError function args s = (.ok preparedTx, s')) :
    view.proposal preparedTx = (function, args) := by
  rw [prepare] at h
  obtain ⟨b₁, t₁, -, h⟩ := EffectM.bind_eq_ok_iff.mp h
  obtain ⟨b₂, t₂, -, h⟩ := EffectM.bind_eq_ok_iff.mp h
  obtain ⟨b₃, t₃, hname, h⟩ := EffectM.bind_eq_ok_iff.mp h
  obtain ⟨b₄, t₄, hargs, h⟩ := EffectM.bind_eq_ok_iff.mp h
  have hname := Except.mapError_eq_ok_iff.mp (FabricM.ofResult_eq_ok hname).1
  have hargs := Except.mapError_eq_ok_iff.mp (FabricM.ofResult_eq_ok hargs).1
  rw [honest.buildPrepared (EffectM.mapError_eq_ok_iff.mp h), honest.withFunctionArgs hargs,
    honest.withSystemChaincode, honest.withFunctionName hname]

lemma propose_moves (function : String) (args : List String) :
    (client.propose host sdk function args).Moves (view.After R) := by
  rw [propose]
  refine .bind (connectAsUser_moves client host honest) fun r => ?_
  exact .bind (prepare_moves client honest r.2.2 _ function args) fun _ => .pure _

lemma proposal_of_propose {function : String} {args : List String} {s s' : σ}
    {r : UserContext × sdk.Identity × sdk.Client × sdk.PreparedTx}
    (h : client.propose host sdk function args s = (.ok r, s')) :
    view.proposal r.2.2.2 = (function, args) := by
  rw [propose] at h
  obtain ⟨⟨userContext, identity, sdkClient⟩, t₁, -, h⟩ := EffectM.bind_eq_ok_iff.mp h
  obtain ⟨preparedTx, t₂, hprepare, h⟩ := EffectM.bind_eq_ok_iff.mp h
  cases h
  exact proposal_of_prepare client honest hprepare

lemma endorseAndSign_moves (identity : sdk.Identity) (sdkClient : sdk.Client)
    (preparedTx : sdk.PreparedTx) :
    (endorseAndSign sdk identity sdkClient preparedTx).Moves (view.After R) := by
  rw [endorseAndSign]
  exact .bind ((honest.endorse_moves preparedTx sdkClient).mapError _) fun _ => .pure _

/-- What is endorsed is the proposal; signing leaves the payload as it is. -/
lemma transaction_of_endorseAndSign {identity : sdk.Identity} {sdkClient : sdk.Client}
    {preparedTx : sdk.PreparedTx} {s s' : σ} {envelope : Envelope}
    (h : endorseAndSign sdk identity sdkClient preparedTx s = (.ok envelope, s')) :
    ∃ tx, view.transaction envelope.payload = some tx ∧
      Operation.ofProposal (view.proposal preparedTx).1 (view.proposal preparedTx).2 =
        some tx.operation := by
  rw [endorseAndSign] at h
  obtain ⟨unsignedEnvelope, t, hendorse, h⟩ := EffectM.bind_eq_ok_iff.mp h
  have htx := honest.endorse (EffectM.mapError_eq_ok_iff.mp hendorse)
  cases h
  exact htx

end Steps

/-- What the result of an invocation says of the id, if its transaction was handed in. -/
inductive Reported (id : String) (status : TxStatus) : WalletResult String → Prop
  | committed (tx : Transaction) (h : status = .valid tx) : Reported id status (.ok id)
  | rejected (code : Int32) (h : status = .invalid code) :
      Reported id status (.error (rejected id code))
  | open (e : WalletError) (h : (∃ message, e =
      .chaincodeFailed ("Gateway transaction submission failed: " ++ message)) ∨
        e = notCommitted id 30) : Reported id status (.error e)

/-- What can come of an invocation, and what it does on the network. -/
inductive Invocation (own : String → Prop) (R : Network → Network → Prop) (function : String)
    (args : List String) (n : Network) : WalletResult String × Network → Prop
  | notHandedIn (e : WalletError) {n' : Network} (h : Evolves R n n') :
      Invocation own R function args n (.error e, n')
  | handedIn {id : String} {tx : Transaction} {n₁ n' : Network} {result : WalletResult String}
      (hown : own id) (hoperation : Operation.ofProposal function args = some tx.operation)
      (h₁ : Evolves R n n₁) (hnew : n₁.status id = .unknown)
      (h₂ : Evolves R (n₁.handIn id tx hnew) n') (hresult : Reported id (n'.status id) result) :
      Invocation own R function args n (result, n')

section Invocation

/-- **Waiting tells the truth**: a transaction is valid, or invalid with the code that is reported,
or it took too long. -/
lemma waitForTransactionCommit_spec (honest : view.Honest R) (hlive : client.isMock = false)
    (sdkClient : sdk.Client) (txId : String) (timeoutSecs : UInt64) (s : σ)
    {result : WalletResult Unit} {s' : σ}
    (h : client.waitForTransactionCommit sdk sdkClient txId timeoutSecs s = (result, s')) :
    view.After R s s' ∧
      ((result = .ok () ∧ ∃ tx, (view.network s').status txId = .valid tx) ∨
        (∃ code, result = .error (rejected txId code) ∧
          (view.network s').status txId = .invalid code) ∨
        result = .error (notCommitted txId timeoutSecs)) := by
  set loop := client.commitLoop sdk sdkClient txId timeoutSecs (sdk.clock.now s) with hloop
  have hround : ∀ k t, view.After R s t → view.After R s (loop.round k t).2 := by
    intro k t ht
    rw [Polling.Loop.round]
    cases loop.stop k t with
    | some r => exact ht
    | none => exact trans_of (view.After R) ht (honest.commitStatus_moves _ _ _ t)
  have hrun : loop.run (2 * timeoutSecs.toNat + 1 + 1) 0 s = some (result, s') := by
    rw [hloop, run_commitLoop_eq hlive, h]
  obtain ⟨n, -, -, hend⟩ := Polling.Loop.run_eq_some_iff.mp hrun
  have hbefore : view.After R s (loop.before s n) :=
    Polling.Loop.before_of_invariant hround
      (fun _ t ht => trans_of (view.After R) ht (honest.sleep_after pollInterval t))
      (refl_of (view.After R) s) n
  refine ⟨by simpa only [hend] using hround n _ hbefore, ?_⟩
  by_cases hlate : timeoutNanos timeoutSecs < sdk.clock.now (loop.before s n) - sdk.clock.now s
  · rw [hloop, round_of_late hlate] at hend
    exact .inr (.inr (Option.some.inj (congrArg Prod.fst hend)).symm)
  · rw [hloop, round_of_early hlate] at hend
    obtain ⟨hverdict, rfl⟩ := Prod.mk.inj hend
    rcases hreply : sdk.commitStatus sdkClient txId client.channelName (loop.before s n) with
      ⟨e | status, t⟩
    · rw [hreply] at hverdict
      cases hverdict
    · obtain ⟨hvalid, hinvalid⟩ := honest.commitStatus hreply
      rw [hreply, commitVerdict] at hverdict
      split_ifs at hverdict with hzero hpos
      · exact .inl ⟨(Option.some.inj hverdict).symm, hvalid hzero⟩
      · exact .inr (.inl ⟨_, (Option.some.inj hverdict).symm, hinvalid hpos⟩)

/-- What comes of handing in a transaction and waiting for it. -/
lemma submitAndWait_spec (honest : view.Honest R) (hlive : client.isMock = false)
    {own : String → Prop} {function : String} {args : List String} (endpoint : TlsEndpoint)
    (sdkClient : sdk.Client) {txId : String} (hown : own txId) {envelope : Envelope}
    {tx : Transaction}
    (htx : view.transaction envelope.payload = some tx)
    (hoperation : Operation.ofProposal function args = some tx.operation) {n : Network} (s : σ)
    (hs : Evolves R n (view.network s)) :
    Invocation own R function args n
      ((client.submitAndWait sdk endpoint sdkClient txId envelope s).1,
        view.network (client.submitAndWait sdk endpoint sdkClient txId envelope s).2) := by
  rw [submitAndWait]
  have hsubmit : Handover R txId tx (view.network s)
      ((sdk.submit endpoint ⟨txId, client.channelName, some envelope⟩ s).1,
        view.network (sdk.submit endpoint ⟨txId, client.channelName, some envelope⟩ s).2) :=
    honest.submit endpoint s (show (SubmitRequest.mk txId client.channelName
      (some envelope)).preparedTransaction = some envelope from rfl) htx
  generalize hreply : sdk.submit endpoint ⟨txId, client.channelName, some envelope⟩ s = reply
    at hsubmit
  obtain ⟨r, t⟩ := reply
  cases r with
  | error e =>
    rw [EffectM.bind_of_eq_error (t := t) (by rw [EffectM.mapError, hreply]; rfl)]
    cases hsubmit with
    | refused _ h => exact .notHandedIn _ (hs.trans h)
    | handedIn _ h₁ hnew h₂ =>
      exact .handedIn hown hoperation (hs.trans h₁) hnew h₂ (.open _ (.inl ⟨e, rfl⟩))
  | ok u =>
    rw [EffectM.bind_of_eq_ok (t := t) (by rw [EffectM.mapError, hreply]; rfl)]
    cases hsubmit with
    | handedIn _ h₁ hnew h₂ =>
      rcases hwait : client.waitForTransactionCommit sdk sdkClient txId 30 t with ⟨result, s'⟩
      obtain ⟨hafter, hresult⟩ :=
        waitForTransactionCommit_spec client honest hlive sdkClient txId 30 t hwait
      rcases hresult with ⟨rfl, tx', hvalid⟩ | ⟨code, rfl, hinvalid⟩ | rfl
      · rw [EffectM.bind_of_eq_ok hwait]
        exact .handedIn hown hoperation (hs.trans h₁) hnew (h₂.trans hafter) (.committed tx' hvalid)
      · rw [EffectM.bind_of_eq_error hwait]
        exact .handedIn hown hoperation (hs.trans h₁) hnew (h₂.trans hafter)
          (.rejected code hinvalid)
      · rw [EffectM.bind_of_eq_error hwait]
        exact .handedIn hown hoperation (hs.trans h₁) hnew (h₂.trans hafter) (.open _ (.inr rfl))

/-- **What an invocation comes to.** -/
theorem invokeLive_spec (honest : view.Honest R) (hlive : client.isMock = false)
    {own : String → Prop} (hmints : sdk.Mints own) (function : String) (args : List String)
    (s : σ) :
    Invocation own R function args (view.network s)
      ((client.invokeLive host sdk function args s).1,
        view.network (client.invokeLive host sdk function args s).2) := by
  rw [invokeLive]
  rcases hpropose : client.propose host sdk function args s with ⟨e | r, t⟩ <;>
    have hafter := propose_moves client host honest function args s <;>
    rw [hpropose] at hafter
  · rw [EffectM.bind_of_eq_error hpropose]
    exact .notHandedIn e hafter
  rw [EffectM.bind_of_eq_ok hpropose]
  have hproposal := proposal_of_propose client host honest hpropose
  have hown := own_of_propose client host hmints hpropose
  obtain ⟨userContext, identity, sdkClient, preparedTx⟩ := r
  dsimp only
  rcases hendorse : endorseAndSign sdk identity sdkClient preparedTx t with ⟨e | envelope, u⟩ <;>
    have hmoves := endorseAndSign_moves honest identity sdkClient preparedTx t <;>
    rw [hendorse] at hmoves
  · rw [EffectM.bind_of_eq_error hendorse]
    exact .notHandedIn e (hafter.trans hmoves)
  rw [EffectM.bind_of_eq_ok hendorse]
  obtain ⟨tx, htx, hoperation⟩ := transaction_of_endorseAndSign honest hendorse
  rw [hproposal] at hoperation
  cases hendpoint : buildTlsGatewayClient host client.config client.isMock userContext with
  | error e => exact .notHandedIn _ (hafter.trans hmoves)
  | ok endpoint =>
    exact submitAndWait_spec client honest hlive endpoint sdkClient hown htx hoperation u
      (hafter.trans hmoves)

end Invocation

/-! ## At most once

What the result tells of the one transaction, for all times. -/

section Once

/-- **What a result says stays so**: the status of an id that was handed in leads on from there. -/
lemma Reported.stays {id : String} {n : Network} {tx : Transaction} {result : WalletResult String}
    (hreported : Reported id (n.status id) result)
    (hpending : ∀ later, Evolves Steps n later → (TxStatus.pending tx).Leads (later.status id)) :
    (result = .ok id ∧ ∀ later, Evolves Steps n later → later.occurrences id = [tx]) ∨
      (∃ code, result = .error (FabricClient.rejected id code) ∧
        ∀ later, Evolves Steps n later → later.occurrences id = []) ∨
      (((∃ message, result = .error
          (.chaincodeFailed ("Gateway transaction submission failed: " ++ message))) ∨
          result = .error (notCommitted id 30)) ∧
        ∀ later, Evolves Steps n later →
          later.occurrences id = [] ∨ later.occurrences id = [tx]) := by
  cases hreported with
  | committed tx' hvalid =>
    -- the transaction that is valid is the one that was handed in
    have htx := hpending n .refl
    rw [hvalid] at htx
    obtain rfl := htx.eq_of_valid
    refine .inl ⟨rfl, fun later hlater => occurrences_of_valid ?_⟩
    have hleads := Evolves.leads hlater id
    rwa [hvalid] at hleads
  | rejected code hinvalid =>
    refine .inr (.inl ⟨code, rfl, fun later hlater => ?_⟩)
    have hleads := Evolves.leads hlater id
    rw [hinvalid] at hleads
    exact occurrences_of_invalid hleads
  | «open» e h =>
    refine .inr (.inr ⟨?_, fun later hlater => occurrences_of_leads (hpending later hlater)⟩)
    rcases h with ⟨message, rfl⟩ | rfl
    · exact .inl ⟨message, rfl⟩
    · exact .inr rfl

/-- **At most once, and what the client knows of it.**  While others write, under ids that are not
those of the client, an invocation hands in nothing or one transaction.  If it hands in nothing, it
fails, and the ids of the client that were new are still new, now and later.  If it hands in one,
that is a transaction of the call under an id that was new, which is on the network from then on,
and the other ids of the client that were new are still new.  Then, if it succeeds, this transaction
is committed once, whatever happens later; if it is rejected, never; and it may still be committed
later, once, only if the error is that of handing it in or of waiting for it. -/
theorem invokeLive_at_most_once {own : String → Prop} (hmints : sdk.Mints own)
    (honest : view.Honest (Others own)) (hlive : client.isMock = false) (function : String)
    (args : List String) (s : σ) :
    let run := client.invokeLive host sdk function args s
    ∃ handed : Option (String × Transaction),
      (∀ id, own id → (view.network s).status id = .unknown → (∀ tx, handed ≠ some (id, tx)) →
        ∀ later, Evolves (Others own) (view.network run.2) later →
          later.status id = .unknown ∧ later.occurrences id = []) ∧
      match handed with
      | none => ∃ e, run.1 = .error e
      | some (id, tx) => own id ∧ (view.network s).status id = .unknown ∧
          (TxStatus.pending tx).Leads ((view.network run.2).status id) ∧
          Operation.ofProposal function args = some tx.operation ∧
          ((run.1 = .ok id ∧
              ∀ later, Evolves Steps (view.network run.2) later → later.occurrences id = [tx]) ∨
            (∃ code, run.1 = .error (rejected id code) ∧
              ∀ later, Evolves Steps (view.network run.2) later → later.occurrences id = []) ∨
            (((∃ message, run.1 = .error
                (.chaincodeFailed ("Gateway transaction submission failed: " ++ message))) ∨
                run.1 = .error (notCommitted id 30)) ∧
              ∀ later, Evolves Steps (view.network run.2) later →
                later.occurrences id = [] ∨ later.occurrences id = [tx])) := by
  intro run
  have hspec : Invocation own (Others own) function args (view.network s)
      (run.1, view.network run.2) := invokeLive_spec client host honest hlive hmints function args s
  generalize hresult : run.1 = result at hspec ⊢
  generalize view.network run.2 = n' at hspec ⊢
  cases hspec with
  | notHandedIn e h =>
    refine ⟨none, fun id hown hunknown _ later hlater => ?_, e, rfl⟩
    have hstill := Evolves.unknown hown (h.trans hlater) hunknown
    exact ⟨hstill, occurrences_of_unknown hstill⟩
  | @handedIn id tx n₁ _ _ hown hoperation h₁ hnew h₂ hreported =>
    have hunknown : (view.network s).status id = .unknown := by
      have hleads := Evolves.leads (Evolves.steps h₁) id
      rw [hnew] at hleads
      exact hleads.eq_unknown
    have hpending : ∀ later, Evolves Steps n' later →
        (TxStatus.pending tx).Leads (later.status id) := by
      intro later hlater
      have hleads := Evolves.leads ((Evolves.steps h₂).trans hlater) id
      rwa [handIn_status, Function.update_self] at hleads
    refine ⟨some (id, tx), fun id' hown' hunknown' hother later hlater => ?_, hown, hunknown,
      hpending n' .refl, hoperation, hreported.stays hpending⟩
    -- handing in `id` leaves the other ids alone
    have hne : id' ≠ id := by
      rintro rfl
      exact hother tx rfl
    have hnew' := Evolves.unknown hown' h₁ hunknown'
    rw [← Function.update_of_ne hne (.pending tx) n₁.status, ← handIn_status n₁ id tx hnew]
      at hnew'
    have hstill := Evolves.unknown hown' (h₂.trans hlater) hnew'
    exact ⟨hstill, occurrences_of_unknown hstill⟩

/-- A revocation that is handed in, and nothing else. -/
theorem invokeLive_at_most_once_settled :
    let run := settledClient.invokeLive (tlsHost none) settledSdk "RevokeCredential" ["vc-1"]
      (settledWorld [activeRecord])
    (∃ tx, tx.operation = .revokeCredential (.ofString "vc-1") ∧
      ∀ later, Evolves Steps run.2.network later → later.occurrences (countedId 1) = [tx]) ∧
    ∀ k, 1 < k → ∀ later, Evolves (Others fun id => ∃ k, id = countedId k) run.2.network later →
      later.occurrences (countedId k) = [] := by
  obtain ⟨s', hrun⟩ := invokeLive_settled
  obtain ⟨handed, hothers, hhanded⟩ := invokeLive_at_most_once settledClient (tlsHost none)
    mints_settledSdk (SettledWorld.honest_settledView.mono fun _ _ => Others.settles) rfl
    "RevokeCredential" ["vc-1"] (settledWorld [activeRecord])
  rw [hrun] at hothers hhanded ⊢
  cases handed with
  | none =>
    obtain ⟨e, he⟩ := hhanded
    cases he
  | some e =>
    obtain ⟨id, tx⟩ := e
    obtain ⟨-, -, -, hop, hresult⟩ := hhanded
    rcases hresult with ⟨hid, hlater⟩ | ⟨code, he, -⟩ | ⟨⟨message, he⟩ | he, -⟩
    · obtain rfl := Except.ok.inj hid
      refine ⟨⟨tx, (Option.some.inj hop).symm, hlater⟩, fun k hk later hk' => ?_⟩
      refine (hothers (countedId k) ⟨k, rfl⟩ ?_ (fun tx' h => ?_) later hk').2
      · have hne : ¬ countedId 0 = countedId k := fun h => by
          have hsame := countedId_injective h
          omega
        simp [settledView, settledWorld, ofHistory, counted, hne]
      · have hsame := countedId_injective (Prod.mk.inj (Option.some.inj h)).1
        omega
    · cases he
    · cases he
    · cases he

end Once

end FabricClient

/-! ## Sessions

Calls one after the other, and what the history has of them. -/

/-- What the client does with the channel. -/
inductive ChannelCall where
  | invoke (function : String) (args : List String)
  | query (function : String) (args : List String)

/-- What it is told. -/
inductive ChannelReply where
  | invoked (result : WalletResult String)
  | queried (result : WalletResult Bytes)

/-- A call at a gateway. -/
def Gateway.step {σ : Type} (fabric : Gateway σ) (s : σ) : ChannelCall → σ × ChannelReply
  | .invoke function args =>
    let reply := fabric.invokeChaincode function args s
    (reply.2, .invoked reply.1)
  | .query function args =>
    let reply := fabric.queryChaincode function args s
    (reply.2, .queried reply.1)

/-- An invocation that succeeded: the id that was returned, and the call. -/
def acknowledged? : ChannelCall × ChannelReply → Option (String × String × List String)
  | (.invoke function args, .invoked (.ok id)) => some (id, function, args)
  | _ => none

/-- An entry of the history is what was acknowledged. -/
def Acknowledges (ack : String × String × List String) (entry : String × Transaction) : Prop :=
  ack.1 = entry.1 ∧ Operation.ofProposal ack.2.1 ack.2.2 = some entry.2.operation

namespace FabricClient

open Network

variable {σ : Type} (client : FabricClient) (host : TlsHost) {sdk : FabricSdk σ}
  {view : ChannelView sdk} {R : Network → Network → Prop}

section Session

lemma queryLive_moves (honest : view.Honest R) (function : String) (args : List String) :
    (client.queryLive host sdk function args).Moves (view.After R) := by
  rw [queryLive]
  refine .bind (connectAsUser_moves client host honest) fun r => ?_
  refine .bind (prepare_moves client honest r.2.2 _ function args) fun preparedTx => ?_
  exact (honest.evaluate_moves preparedTx r.2.2).mapError _

lemma gateway_of_live (hlive : client.isMock = false) (unixSeconds : Int64) :
    client.gateway host sdk unixSeconds =
      ⟨client.invokeLive host sdk, client.queryLive host sdk⟩ := by
  simp only [gateway, hlive, Bool.false_eq_true, if_false]

/-- One call adds what it acknowledges to the history, and maybe what others write. -/
lemma step_history (honest : view.Honest Steps) (hlive : client.isMock = false)
    (unixSeconds : Int64) (s : σ) (call : ChannelCall) :
    let next := (client.gateway host sdk unixSeconds).step s call
    ∃ log new, (view.network next.1).history = (view.network s).history ++ new ∧
      log.Sublist new ∧ List.Forall₂ Acknowledges (acknowledged? (call, next.2)).toList log := by
  rw [gateway_of_live client host hlive]
  cases call with
  | query function args =>
    obtain ⟨new, hnew⟩ := Evolves.history (queryLive_moves client host honest function args s)
    exact ⟨[], new, hnew.symm, List.nil_sublist _, .nil⟩
  | invoke function args =>
    have hspec := invokeLive_spec client host honest hlive (mints_true sdk) function args s
    dsimp only [Gateway.step]
    generalize (client.invokeLive host sdk function args s).1 = result at hspec ⊢
    generalize view.network (client.invokeLive host sdk function args s).2 = n' at hspec ⊢
    cases hspec with
    | notHandedIn e h =>
      obtain ⟨new, hnew⟩ := Evolves.history h
      exact ⟨[], new, hnew.symm, List.nil_sublist _, .nil⟩
    | @handedIn id tx n₁ _ _ hown hoperation h₁ hnew h₂ hreported =>
      have hadded := Evolves.history h₂
      obtain ⟨new, hhistory⟩ := (Evolves.history h₁).trans hadded
      cases hreported with
      | committed tx' hvalid =>
        have htx := Evolves.leads h₂ id
        rw [handIn_status, Function.update_self, hvalid] at htx
        obtain rfl := htx.eq_of_valid
        have hunknown := Evolves.leads h₁ id
        rw [hnew] at hunknown
        have hmem := mem_history_of_valid hvalid
        rw [← hhistory] at hmem
        have hmem' := (List.mem_append.mp hmem).resolve_left
          (not_mem_history_of_unknown hunknown.eq_unknown tx')
        exact ⟨[(id, tx')], new, hhistory.symm, List.singleton_sublist.mpr hmem',
          .cons ⟨rfl, hoperation⟩ .nil⟩
      | rejected code hinvalid => exact ⟨[], new, hhistory.symm, List.nil_sublist _, .nil⟩
      | «open» e h => exact ⟨[], new, hhistory.symm, List.nil_sublist _, .nil⟩

/-- **What was acknowledged stays, once and in order.**  In a session of invocations and queries,
while others write, and at any later time: behind the history from before the session there are the
transactions of the invocations that succeeded, each under the id that was returned and with the
operation of its call, in the order of the calls; no id is in the history twice. -/
theorem acknowledged_sublist (honest : view.Honest Steps) (hlive : client.isMock = false)
    (unixSeconds : Int64) (calls : List ChannelCall) (s : σ) :
    let step := (client.gateway host sdk unixSeconds).step
    ∃ log, List.Forall₂ Acknowledges ((Machine.trace step s calls).filterMap acknowledged?) log ∧
      ∀ later, Evolves Steps (view.network (Machine.run step s calls)) later →
        (later.history.map Prod.fst).Nodup ∧
        ∃ new, later.history = (view.network s).history ++ new ∧ log.Sublist new := by
  intro step
  induction calls generalizing s with
  | nil =>
    refine ⟨[], .nil, fun later hlater => ⟨later.nodup_ids, ?_⟩⟩
    obtain ⟨new, hnew⟩ := Evolves.history hlater
    exact ⟨new, hnew.symm, List.nil_sublist new⟩
  | cons call calls ih =>
    obtain ⟨log, new, hhistory, hsub, hlog⟩ :=
      step_history client host honest hlive unixSeconds s call
    obtain ⟨logs, hlogs, hlater⟩ := ih (step s call).1
    refine ⟨log ++ logs, ?_, fun later h => ⟨later.nodup_ids, ?_⟩⟩
    · have hsplit : (Machine.trace step s (call :: calls)).filterMap acknowledged? =
          (acknowledged? (call, (step s call).2)).toList ++
            (Machine.trace step (step s call).1 calls).filterMap acknowledged? := by
        rw [Machine.trace_cons, List.filterMap_cons]
        cases acknowledged? (call, (step s call).2) <;> rfl
      rw [hsplit]
      exact List.rel_append hlog hlogs
    · obtain ⟨-, more, hmore, hsub'⟩ := hlater later h
      refine ⟨new ++ more, ?_, hsub.append hsub'⟩
      rw [hmore, hhistory, List.append_assoc]

/-- One revocation is acknowledged, next to a query and after the record of the credential, and it
stays in the history. -/
theorem acknowledged_sublist_settled :
    ∃ log, List.Forall₂ Acknowledges [(countedId 1, "RevokeCredential", ["vc-1"])] log ∧
      ∀ later, Evolves Steps (settledView.network
          (Machine.run (settledClient.gateway (tlsHost none) settledSdk 0).step
            (settledWorld [activeRecord]) [.invoke "RevokeCredential" ["vc-1"],
              .query "IsCredentialRevoked" ["vc-1"]])) later →
        (later.history.map Prod.fst).Nodup ∧
        ∃ new, later.history = [(countedId 0, activeRecord)] ++ new ∧ log.Sublist new := by
  have hacks : (Machine.trace (settledClient.gateway (tlsHost none) settledSdk 0).step
      (settledWorld [activeRecord]) [.invoke "RevokeCredential" ["vc-1"],
        .query "IsCredentialRevoked" ["vc-1"]]).filterMap acknowledged? =
      [(countedId 1, "RevokeCredential", ["vc-1"])] := by
    obtain ⟨s', hrun⟩ := invokeLive_settled
    rw [gateway_of_live settledClient (tlsHost none) rfl, Machine.trace_cons, Machine.trace_cons,
      Machine.trace_nil]
    simp only [Gateway.step, hrun]
    rfl
  obtain ⟨log, hlog, hlater⟩ :=
    acknowledged_sublist settledClient (tlsHost none)
      (SettledWorld.honest_settledView.mono fun _ _ => Steps.settles) rfl 0
      [.invoke "RevokeCredential" ["vc-1"], .query "IsCredentialRevoked" ["vc-1"]]
      (settledWorld [activeRecord])
  rw [hacks] at hlog
  have hstart : (settledView.network (settledWorld [activeRecord])).history =
      [(countedId 0, activeRecord)] := rfl
  rw [hstart] at hlater
  exact ⟨log, hlog, hlater⟩

end Session

end FabricClient

/-! ## Without other writers

If nobody else writes, the history after a call is the one before it with the transaction of the
call. -/

/-- A gateway seen from the history alone: each call is made in a world with that history, and what
is committed when it returns is what it has done. -/
def Gateway.onHistory {σ : Type} (fabric : Gateway σ) (transactions : σ → List Transaction)
    (world : List Transaction → σ) : Gateway (List Transaction) where
  invokeChaincode function args txs :=
    ((fabric.invokeChaincode function args (world txs)).1,
      transactions (fabric.invokeChaincode function args (world txs)).2)
  queryChaincode function args txs :=
    ((fabric.queryChaincode function args (world txs)).1,
      transactions (fabric.queryChaincode function args (world txs)).2)

namespace FabricClient

open Network

variable {σ : Type} (client : FabricClient) (host : TlsHost) {sdk : FabricSdk σ}
  {view : ChannelView sdk}

section Serves

lemma invokeOutcome_of_quiet (honest : view.Honest Settles) (hlive : client.isMock = false)
    (function : String) (args : List String) {s : σ} (hquiet : (view.network s).Quiet) :
    InvokeOutcome function args (view.network s).transactions
      ((client.invokeLive host sdk function args s).1,
        (view.network (client.invokeLive host sdk function args s).2).transactions) := by
  have hspec := invokeLive_spec client host honest hlive (mints_true sdk) function args s
  generalize (client.invokeLive host sdk function args s).1 = result at hspec ⊢
  generalize view.network (client.invokeLive host sdk function args s).2 = n' at hspec ⊢
  cases hspec with
  | notHandedIn e h =>
    rw [hquiet.eq_of_evolves h]
    exact .noEffect e
  | @handedIn id tx n₁ _ _ hown hoperation h₁ hnew h₂ hreported =>
    obtain rfl := hquiet.eq_of_evolves h₁
    rcases hquiet.evolves_handIn h₂ with hsame | ⟨hadded, hok⟩
    · -- a success would have left the transaction in the history
      cases hreported with
      | committed tx' hvalid =>
        have hmem := mem_history_of_valid hvalid
        rw [hsame] at hmem
        exact absurd hmem (not_mem_history_of_unknown hnew tx')
      | rejected code hinvalid =>
        rw [transactions, transactions, hsame]
        exact .noEffect _
      | «open» e h =>
        rw [transactions, transactions, hsame]
        exact .noEffect _
    · have hgrown : n'.transactions = (view.network s).transactions ++ [tx] := by
        rw [transactions, hadded, List.map_append]
        rfl
      rw [hgrown]
      exact .committed tx result hoperation hok

/-- A query reads the ledger. -/
lemma queryLive_of_quiet (honest : view.Honest Settles) {function : String} {args : List String}
    {s s' : σ} {payload : Bytes} {query : Query} (hquiet : (view.network s).Quiet)
    (hquery : Query.ofProposal function args = some query)
    (h : client.queryLive host sdk function args s = (.ok payload, s')) :
    ∃ v, query.evaluate (ledger (view.network s).transactions).state = .ok v ∧
      payload = Bytes.utf8 (marshal v) := by
  rw [queryLive] at h
  obtain ⟨⟨userContext, identity, sdkClient⟩, t, hconnect, h⟩ := EffectM.bind_eq_ok_iff.mp h
  obtain ⟨preparedTx, u, hprepare, h⟩ := EffectM.bind_eq_ok_iff.mp h
  have hevaluate := EffectM.mapError_eq_ok_iff.mp h
  have hproposal := proposal_of_prepare client honest hprepare
  have ht := connectAsUser_moves client host honest s
  rw [hconnect] at ht
  have hu := prepare_moves client honest sdkClient
    "Failed to compile evaluate transaction details: " function args t
  rw [hprepare] at hu
  obtain ⟨n, v, hn, -, heval, hpayload⟩ :=
    honest.evaluate hevaluate (by rw [hproposal]; exact hquery)
  rw [hquiet.eq_of_evolves ((ht.trans hu).trans hn)] at heval
  exact ⟨v, heval, hpayload⟩

/-- **The client serves the channel** where nobody else writes and nothing is pending when a call
begins: as far as the history goes, it is one of the gateways that the other modules are about. -/
theorem serves_of_honest (honest : view.Honest Settles) (hlive : client.isMock = false)
    (unixSeconds : Int64) {world : List Transaction → σ}
    (hhistory : ∀ txs, (view.network (world txs)).transactions = txs)
    (hquiet : ∀ txs, (view.network (world txs)).Quiet) :
    ((client.gateway host sdk unixSeconds).onHistory (fun s => (view.network s).transactions)
      world).Serves := by
  rw [gateway_of_live client host hlive]
  refine ⟨fun function args txs => ?_, fun function args txs => ?_, ?_⟩
  · have houtcome := invokeOutcome_of_quiet client host honest hlive function args (hquiet txs)
    rwa [hhistory] at houtcome
  · have hmoves := queryLive_moves client host honest function args (world txs)
    have hsame := (hquiet txs).eq_of_evolves hmoves
    exact (congrArg transactions hsame).trans (hhistory txs)
  · intro function args query payload txs hquery hreply
    have hreply' := queryLive_of_quiet client host honest (hquiet txs) hquery (Prod.ext hreply rfl)
    rwa [hhistory] at hreply'

/-- A client of a network that settles by itself serves the channel. -/
theorem serves_of_honest_settled :
    ((settledClient.gateway (tlsHost none) settledSdk 0).onHistory
      (fun s => s.network.transactions) settledWorld).Serves :=
  serves_of_honest settledClient (tlsHost none) SettledWorld.honest_settledView rfl 0
    map_snd_counted fun txs => quiet_ofHistory (counted txs) (nodup_counted txs)

end Serves

end FabricClient

end DZTA
