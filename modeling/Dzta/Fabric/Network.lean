import Dzta.Fabric.Races
import Dzta.Fabric.Submission
import Mathlib.Logic.Relation

/-!
# The network behind the client

A network that does not stand still.  A transaction is handed in under an id, is pending for a time
that nobody knows, and is then committed or found invalid; in the meantime others hand in theirs.
The state of the network is what it knows of each id, with the history of what was committed
(`Network`); its steps are `Network.Steps`.  What an id stands for is never taken back
(**`Network.Evolves.leads`**), and the history only grows (**`Network.Evolves.history`**).  Others
hand in under ids of their own, and leave those of a client alone (**`Network.Evolves.unknown`**).

Of the SDK it is assumed that it leads to such a network (`ChannelView.Honest`): what a peer
endorses is the proposal, what is handed in is what was endorsed, and the status of a commit is true
when it is reported.  Every call may fail, with or without an effect, and may take any time.  An SDK
of this kind, in front of a network that settles everything at once, is `settledSdk`.
-/

namespace DZTA

open GoJson

/-! ## The network

A transaction is handed in, and later it is committed or found to be invalid; which of them, and
when, is up to the network. -/

/-- What the network knows of a transaction id. -/
inductive TxStatus where
  | unknown
  | pending (tx : Transaction)
  | valid (tx : Transaction)
  | invalid (code : Int32)

namespace TxStatus

/-- What is in the history under an id. -/
def ordered : TxStatus → List Transaction
  | valid tx => [tx]
  | _ => []

/-- What a status can turn into. -/
def Leads : TxStatus → TxStatus → Prop
  | unknown, _ => True
  | pending tx, s => s = pending tx ∨ s = valid tx ∨ ∃ code, s = invalid code
  | valid tx, s => s = valid tx
  | invalid code, s => s = invalid code

lemma Leads.refl (s : TxStatus) : s.Leads s := by
  cases s with
  | unknown => trivial
  | pending tx => exact .inl rfl
  | valid tx => rfl
  | invalid code => rfl

lemma Leads.trans {s t u : TxStatus} (hst : s.Leads t) (htu : t.Leads u) : s.Leads u := by
  cases s with
  | unknown => trivial
  | pending tx =>
    rcases hst with rfl | rfl | ⟨code, rfl⟩
    · exact htu
    · exact .inr (.inl htu)
    · exact .inr (.inr ⟨code, htu⟩)
  | valid tx =>
    obtain rfl : t = valid tx := hst
    exact htu
  | invalid code =>
    obtain rfl : t = invalid code := hst
    exact htu

lemma Leads.eq_unknown {s : TxStatus} (h : s.Leads unknown) : s = unknown := by
  cases s with
  | unknown => rfl
  | pending tx => rcases h with h | h | ⟨code, h⟩ <;> cases h
  | valid tx => cases h
  | invalid code => cases h

lemma Leads.eq_of_valid {tx tx' : Transaction} (h : (pending tx).Leads (valid tx')) : tx' = tx := by
  rcases h with h | h | ⟨code, h⟩
  · cases h
  · exact valid.inj h
  · cases h

end TxStatus

/-- The state of the network.  What is in the history under an id is what its status says. -/
structure Network where
  status : String → TxStatus
  history : List (String × Transaction)
  consistent : ∀ id, (history.filter fun e => e.1 = id).map Prod.snd = (status id).ordered

namespace Network

/-- The transactions that were committed. -/
def transactions (n : Network) : List Transaction := n.history.map Prod.snd

/-- The transactions that were committed under an id. -/
def occurrences (n : Network) (id : String) : List Transaction :=
  (n.history.filter fun e => e.1 = id).map Prod.snd

/-- Nothing is pending. -/
def Quiet (n : Network) : Prop := ∀ id tx, n.status id ≠ .pending tx

lemma ordered_update {status : String → TxStatus} {id : String} {s : TxStatus}
    (h : s.ordered = (status id).ordered) (id' : String) :
    (Function.update status id s id').ordered = (status id').ordered := by
  by_cases hid : id' = id
  · subst hid
    rw [Function.update_self, h]
  · rw [Function.update_of_ne hid]

/-- A transaction is handed in under an id that is new. -/
def handIn (n : Network) (id : String) (tx : Transaction) (hnew : n.status id = .unknown) :
    Network where
  status := Function.update n.status id (.pending tx)
  history := n.history
  consistent id' := by
    rw [ordered_update (by rw [hnew]; rfl), n.consistent]

lemma handIn_status (n : Network) (id : String) (tx : Transaction) (hnew : n.status id = .unknown) :
    (n.handIn id tx hnew).status = Function.update n.status id (.pending tx) := rfl

lemma handIn_pending (n : Network) (id : String) (tx : Transaction)
    (hnew : n.status id = .unknown) : (n.handIn id tx hnew).status id = .pending tx :=
  Function.update_self ..

/-- A transaction that is pending is committed. -/
def commit (n : Network) (id : String) (tx : Transaction) (hpending : n.status id = .pending tx) :
    Network where
  status := Function.update n.status id (.valid tx)
  history := n.history ++ [(id, tx)]
  consistent id' := by
    rw [List.filter_append, List.map_append, n.consistent]
    by_cases hid : id' = id
    · subst hid
      rw [Function.update_self, hpending]
      simp [TxStatus.ordered]
    · rw [Function.update_of_ne hid]
      simp [Ne.symm hid]

/-- A transaction that is pending is found invalid. -/
def invalidate (n : Network) (id : String) (tx : Transaction) (code : Int32)
    (hpending : n.status id = .pending tx) : Network where
  status := Function.update n.status id (.invalid code)
  history := n.history
  consistent id' := by
    rw [ordered_update (by rw [hpending]; rfl), n.consistent]

/-- What happens to transactions that are pending.  One is committed only if the chaincode accepts
it in the state of the ledger. -/
inductive Settles : Network → Network → Prop
  | commit (n : Network) (id : String) (tx : Transaction) (hpending : n.status id = .pending tx)
      (hok : ((ledger n.transactions).submit tx).2.isOk = true) :
      Settles n (n.commit id tx hpending)
  | invalidate (n : Network) (id : String) (tx : Transaction) (code : Int32)
      (hpending : n.status id = .pending tx) : Settles n (n.invalidate id tx code hpending)

/-- What happens on the network. -/
inductive Steps : Network → Network → Prop
  | handIn (n : Network) (id : String) (tx : Transaction) (hnew : n.status id = .unknown) :
      Steps n (n.handIn id tx hnew)
  | settles {n n' : Network} (h : Settles n n') : Steps n n'

/-- What others do, to whom some ids do not belong. -/
inductive Others (own : String → Prop) : Network → Network → Prop
  | handIn (n : Network) (id : String) (tx : Transaction) (hnew : n.status id = .unknown)
      (hother : ¬ own id) : Others own n (n.handIn id tx hnew)
  | settles {n n' : Network} (h : Settles n n') : Others own n n'

/-- Any number of steps. -/
abbrev Evolves (R : Network → Network → Prop) : Network → Network → Prop :=
  Relation.ReflTransGen R

variable {R : Network → Network → Prop} {n n' : Network} {id : String} {tx : Transaction}

lemma leads_update {status : String → TxStatus} {s : TxStatus} (h : (status id).Leads s)
    (id' : String) : (status id').Leads (Function.update status id s id') := by
  by_cases hid : id' = id
  · subst hid
    rwa [Function.update_self]
  · rw [Function.update_of_ne hid]
    exact .refl _

lemma Settles.leads (h : Settles n n') (id : String) : (n.status id).Leads (n'.status id) := by
  cases h with
  | commit id' tx hpending hok => exact leads_update (by rw [hpending]; exact .inr (.inl rfl)) id
  | invalidate id' tx code hpending =>
    exact leads_update (by rw [hpending]; exact .inr (.inr ⟨code, rfl⟩)) id

lemma Steps.leads (h : Steps n n') (id : String) : (n.status id).Leads (n'.status id) := by
  cases h with
  | handIn id' tx hnew => exact leads_update (by rw [hnew]; trivial) id
  | settles h => exact h.leads id

lemma Steps.history (h : Steps n n') : n.history <+: n'.history := by
  cases h with
  | handIn id tx hnew => exact List.prefix_rfl
  | settles h =>
    cases h with
    | commit id tx hpending hok => exact List.prefix_append _ _
    | invalidate id tx code hpending => exact List.prefix_rfl

/-- **The status of an id is never taken back.** -/
theorem Evolves.leads (h : Evolves Steps n n') (id : String) :
    (n.status id).Leads (n'.status id) := by
  induction h with
  | refl => exact .refl _
  | tail _ hstep ih => exact ih.trans (hstep.leads id)

/-- **The history only grows.** -/
theorem Evolves.history (h : Evolves Steps n n') : n.history <+: n'.history := by
  induction h with
  | refl => exact List.prefix_rfl
  | tail _ hstep ih => exact ih.trans hstep.history

lemma Others.steps {own : String → Prop} (h : Others own n n') : Steps n n' := by
  cases h with
  | handIn id tx hnew hother => exact .handIn n id tx hnew
  | settles h => exact .settles h

lemma Evolves.steps {own : String → Prop} (h : Evolves (Others own) n n') : Evolves Steps n n' :=
  Relation.ReflTransGen.mono (fun _ _ => Others.steps) _ _ h

/-- **Others leave an id alone** that does not belong to them and that nobody has used. -/
theorem Evolves.unknown {own : String → Prop} (hown : own id)
    (h : Evolves (Others own) n n') (hunknown : n.status id = .unknown) :
    n'.status id = .unknown := by
  induction h with
  | refl => exact hunknown
  | tail _ hstep ih =>
    cases hstep with
    | handIn id' tx hnew hother =>
      have hne : id ≠ id' := by
        rintro rfl
        exact hother hown
      rw [handIn_status, Function.update_of_ne hne, ih]
    | settles h =>
      cases h with
      | commit id' tx hpending hok =>
        have hne : id ≠ id' := by
          rintro rfl
          cases hpending.symm.trans ih
        exact (Function.update_of_ne hne _ _).trans ih
      | invalidate id' tx code hpending =>
        have hne : id ≠ id' := by
          rintro rfl
          cases hpending.symm.trans ih
        exact (Function.update_of_ne hne _ _).trans ih

lemma occurrences_of_unknown (h : n.status id = .unknown) : n.occurrences id = [] := by
  rw [occurrences, n.consistent, h]
  rfl

lemma occurrences_of_valid (h : n.status id = .valid tx) : n.occurrences id = [tx] := by
  rw [occurrences, n.consistent, h]
  rfl

lemma occurrences_of_invalid {code : Int32} (h : n.status id = .invalid code) :
    n.occurrences id = [] := by
  rw [occurrences, n.consistent, h]
  rfl

lemma occurrences_of_leads (h : (TxStatus.pending tx).Leads (n.status id)) :
    n.occurrences id = [] ∨ n.occurrences id = [tx] := by
  rcases h with h | h | ⟨code, h⟩
  · left
    rw [occurrences, n.consistent, h]
    rfl
  · exact .inr (occurrences_of_valid h)
  · exact .inl (occurrences_of_invalid h)

lemma mem_history_of_valid (h : n.status id = .valid tx) : (id, tx) ∈ n.history := by
  have hmem : tx ∈ n.occurrences id := by
    rw [occurrences_of_valid h]
    exact List.mem_singleton_self tx
  obtain ⟨⟨id', tx'⟩, he, rfl⟩ := List.mem_map.mp hmem
  obtain ⟨hmem', hid⟩ := List.mem_filter.mp he
  obtain rfl : id' = id := of_decide_eq_true hid
  exact hmem'

lemma not_mem_history_of_unknown (h : n.status id = .unknown) : ∀ tx, (id, tx) ∉ n.history := by
  intro tx hmem
  have hocc : tx ∈ n.occurrences id :=
    List.mem_map.mpr ⟨(id, tx), List.mem_filter.mpr ⟨hmem, decide_eq_true rfl⟩, rfl⟩
  rw [occurrences, n.consistent, h] at hocc
  cases hocc

/-- No id is in the history twice. -/
lemma nodup_ids (n : Network) : (n.history.map Prod.fst).Nodup := by
  rw [List.nodup_iff_count_le_one]
  intro id
  have hcount : (n.history.map Prod.fst).count id = (n.occurrences id).length := by
    rw [occurrences, List.length_map, List.count, List.countP_map, List.countP_eq_length_filter]
    exact congrArg List.length (List.filter_congr fun e _ => rfl)
  rw [hcount, occurrences, n.consistent]
  cases n.status id <;> simp [TxStatus.ordered]

/-- A network on which nothing is pending stands still if nobody hands anything in. -/
lemma Quiet.eq_of_evolves (hquiet : n.Quiet) (h : Evolves Settles n n') : n' = n := by
  induction h with
  | refl => rfl
  | tail _ hstep ih =>
    subst ih
    cases hstep with
    | commit id tx hpending hok => exact absurd hpending (hquiet id tx)
    | invalidate id tx code hpending => exact absurd hpending (hquiet id tx)

/-- One transaction that is handed in to a network on which nothing is pending: it is committed, or
the history is as before. -/
lemma Quiet.evolves_handIn (hquiet : n.Quiet) {hnew : n.status id = .unknown}
    (h : Evolves Settles (n.handIn id tx hnew) n') :
    n'.history = n.history ∨
      (n'.history = n.history ++ [(id, tx)] ∧
        ((ledger n.transactions).submit tx).2.isOk = true) := by
  have hpending : ∀ id' tx', (n.handIn id tx hnew).status id' = .pending tx' →
      id' = id ∧ tx' = tx := by
    intro id' tx' hpending
    by_cases hid : id' = id
    · subst hid
      rw [handIn_status, Function.update_self] at hpending
      exact ⟨rfl, (TxStatus.pending.inj hpending).symm⟩
    · rw [handIn_status, Function.update_of_ne hid] at hpending
      exact absurd hpending (hquiet id' tx')
  -- the first step settles what was handed in, and after it nothing is pending
  have hsettled : ∀ {m : Network} {s : TxStatus} (_ : ∀ tx', s ≠ .pending tx')
      (_ : m.status = Function.update (n.handIn id tx hnew).status id s), m.Quiet := by
    intro m s hs hstatus id' tx' h'
    rw [hstatus] at h'
    by_cases hid : id' = id
    · subst hid
      rw [Function.update_self] at h'
      exact hs tx' h'
    · rw [Function.update_of_ne hid] at h'
      exact hid (hpending id' tx' h').1
  rcases Relation.ReflTransGen.cases_head h with rfl | ⟨m, hstep, hrest⟩
  · exact .inl rfl
  · cases hstep with
    | commit id' tx' hp hok =>
      obtain ⟨rfl, rfl⟩ := hpending id' tx' hp
      rw [(hsettled (s := .valid tx') (by simp) rfl).eq_of_evolves hrest]
      exact .inr ⟨rfl, hok⟩
    | invalidate id' tx' code hp =>
      obtain ⟨rfl, rfl⟩ := hpending id' tx' hp
      rw [(hsettled (s := .invalid code) (by simp) rfl).eq_of_evolves hrest]
      exact .inl rfl

end Network

/-! ## An SDK that leads to the network

What the calls of an SDK mean on the network, while others use it too. -/

/-- What the parts of an SDK stand for: the network in a state of the world, the call of which a
builder or a proposal is made, and the transaction in an endorsed payload. -/
structure ChannelView {σ : Type} (sdk : FabricSdk σ) where
  network : σ → Network
  call : sdk.CallBuilder → String × List String
  proposal : sdk.PreparedTx → String × List String
  transaction : Bytes → Option Transaction

namespace Network

/-- What comes of handing in a transaction: an error, and nothing was handed in, or whatever reply
after it was. -/
inductive Handover (R : Network → Network → Prop) (id : String) (tx : Transaction) (n : Network) :
    Except String Unit × Network → Prop
  | refused (e : String) {n' : Network} (h : Evolves R n n') : Handover R id tx n (.error e, n')
  | handedIn (reply : Except String Unit) {n₁ n' : Network} (h₁ : Evolves R n n₁)
      (hnew : n₁.status id = .unknown) (h₂ : Evolves R (n₁.handIn id tx hnew) n') :
      Handover R id tx n (reply, n')

end Network

/-- The ids that the SDK makes up for its proposals are among some ids. -/
def FabricSdk.Mints {σ : Type} (sdk : FabricSdk σ) (own : String → Prop) : Prop :=
  ∀ builder s preparedTx s', sdk.buildPrepared builder s = (.ok preparedTx, s') →
    own ((sdk.txId preparedTx).getD "")

lemma mints_true {σ : Type} (sdk : FabricSdk σ) : sdk.Mints fun _ => True :=
  fun _ _ _ _ _ => trivial

namespace ChannelView

open Network

variable {σ : Type} {sdk : FabricSdk σ} (view : ChannelView sdk)

/-- One state of the world comes after another one, as far as the network is concerned. -/
def After (R : Network → Network → Prop) (s s' : σ) : Prop :=
  Evolves R (view.network s) (view.network s')

instance (R : Network → Network → Prop) : Std.Refl (view.After R) :=
  ⟨fun _ => Relation.ReflTransGen.refl⟩

instance (R : Network → Network → Prop) : IsTrans σ (view.After R) :=
  ⟨fun _ _ _ => Relation.ReflTransGen.trans⟩

/-- The SDK leads to a network on which others do what `R` says.  An id is made up for one proposal,
so nobody else hands in a transaction under it. -/
structure Honest (R : Network → Network → Prop) : Prop where
  withFunctionName : ∀ {builder function builder'},
    sdk.withFunctionName builder function = .ok builder' → (view.call builder').1 = function
  withSystemChaincode : ∀ builder,
    view.call (sdk.withSystemChaincode builder) = view.call builder
  withFunctionArgs : ∀ {builder args builder'}, sdk.withFunctionArgs builder args = .ok builder' →
    view.call builder' = ((view.call builder).1, args)
  buildPrepared : ∀ {builder s preparedTx s'},
    sdk.buildPrepared builder s = (.ok preparedTx, s') →
    view.proposal preparedTx = view.call builder
  endorse : ∀ {preparedTx client s envelope s'},
    sdk.endorse preparedTx client s = (.ok envelope, s') →
    ∃ tx, view.transaction envelope.payload = some tx ∧
      Operation.ofProposal (view.proposal preparedTx).1 (view.proposal preparedTx).2 =
        some tx.operation
  evaluate : ∀ {preparedTx client s payload s' query},
    sdk.evaluate preparedTx client s = (.ok payload, s') →
    Query.ofProposal (view.proposal preparedTx).1 (view.proposal preparedTx).2 = some query →
    ∃ n v, Evolves R (view.network s) n ∧ Evolves R n (view.network s') ∧
      query.evaluate (ledger n.transactions).state = .ok v ∧ payload = Bytes.utf8 (marshal v)
  submit : ∀ endpoint {request envelope tx} s, request.preparedTransaction = some envelope →
    view.transaction envelope.payload = some tx →
    Handover R request.transactionId tx (view.network s)
      ((sdk.submit endpoint request s).1, view.network (sdk.submit endpoint request s).2)
  commitStatus : ∀ {client txId channelId s status s'},
    sdk.commitStatus client txId channelId s = (.ok status, s') →
    (status.result = 0 → ∃ tx, (view.network s').status txId = .valid tx) ∧
    (0 < status.result → (view.network s').status txId = .invalid status.result)
  connect_moves : ∀ client, (sdk.connect client).Moves (view.After R)
  buildPrepared_moves : ∀ builder, (sdk.buildPrepared builder).Moves (view.After R)
  endorse_moves : ∀ preparedTx client, (sdk.endorse preparedTx client).Moves (view.After R)
  evaluate_moves : ∀ preparedTx client, (sdk.evaluate preparedTx client).Moves (view.After R)
  commitStatus_moves : ∀ client txId channelId,
    (sdk.commitStatus client txId channelId).Moves (view.After R)
  sleep_after : ∀ d s, view.After R s (sdk.clock.sleep d s)

variable {view} {R S : Network → Network → Prop}

/-- What holds where others do less holds where they do more. -/
lemma Honest.mono (h : view.Honest R) (hRS : ∀ n n', R n n' → S n n') : view.Honest S := by
  have hmono : ∀ {n n'}, Evolves R n n' → Evolves S n n' :=
    fun h => Relation.ReflTransGen.mono hRS _ _ h
  refine { h with
    evaluate := ?_, submit := ?_
    connect_moves := fun c s => hmono (h.connect_moves c s)
    buildPrepared_moves := fun b s => hmono (h.buildPrepared_moves b s)
    endorse_moves := fun p c s => hmono (h.endorse_moves p c s)
    evaluate_moves := fun p c s => hmono (h.evaluate_moves p c s)
    commitStatus_moves := fun c txId channelId s => hmono (h.commitStatus_moves c txId channelId s)
    sleep_after := fun d s => hmono (h.sleep_after d s) }
  · intro preparedTx client s payload s' query hevaluate hquery
    obtain ⟨n, v, hn, hn', hv⟩ := h.evaluate hevaluate hquery
    exact ⟨n, v, hmono hn, hmono hn', hv⟩
  · intro endpoint request envelope tx s henvelope htx
    have hhandover := h.submit endpoint s henvelope htx
    generalize ((sdk.submit endpoint request s).1,
      view.network (sdk.submit endpoint request s).2) = r at hhandover ⊢
    cases hhandover with
    | refused e h => exact .refused e (hmono h)
    | handedIn reply h₁ hnew h₂ => exact .handedIn reply (hmono h₁) hnew (hmono h₂)

end ChannelView

/-! ## A network that settles at once

An SDK for which all of this holds. -/

namespace Network

lemma filter_ids_eq_nil {history : List (String × Transaction)} {id : String}
    (h : id ∉ history.map Prod.fst) : (history.filter fun e => e.1 = id) = [] := by
  refine List.filter_eq_nil_iff.mpr fun e he hid => h ?_
  rw [← of_decide_eq_true hid]
  exact List.mem_map_of_mem he

/-- A network with a history on which nothing is pending. -/
def ofHistory (history : List (String × Transaction)) (hnodup : (history.map Prod.fst).Nodup) :
    Network where
  status id := ((history.find? fun e => e.1 = id).map fun e => TxStatus.valid e.2).getD .unknown
  history := history
  consistent id := by
    induction history with
    | nil => rfl
    | cons e history ih =>
      rw [List.map_cons, List.nodup_cons] at hnodup
      by_cases hid : e.1 = id
      · subst hid
        simp [filter_ids_eq_nil hnodup.1, TxStatus.ordered]
      · simpa [hid] using ih hnodup.2

lemma quiet_ofHistory (history : List (String × Transaction))
    (hnodup : (history.map Prod.fst).Nodup) : (ofHistory history hnodup).Quiet := by
  intro id tx h
  rw [ofHistory] at h
  dsimp only at h
  cases hfind : history.find? fun e => decide (e.1 = id) with
  | none =>
    rw [hfind] at h
    cases h
  | some e =>
    rw [hfind] at h
    cases h

/-- The `k`-th id. -/
def countedId (k : ℕ) : String := String.ofList (List.replicate k 'x')

lemma countedId_injective : Function.Injective countedId := by
  intro j k h
  have hlength := congrArg (fun s => s.toList.length) h
  simpa only [countedId, String.toList_ofList, List.length_replicate] using hlength

/-- Transactions with ids. -/
def counted (txs : List Transaction) : List (String × Transaction) :=
  txs.zipIdx.map fun e => (countedId e.2, e.1)

lemma nodup_counted (txs : List Transaction) : ((counted txs).map Prod.fst).Nodup := by
  have hids : (counted txs).map Prod.fst = (txs.zipIdx.map Prod.snd).map countedId := by
    rw [counted, List.map_map, List.map_map]
    rfl
  rw [hids, List.zipIdx_map_snd]
  exact List.Nodup.map countedId_injective List.nodup_range'

lemma map_snd_counted (txs : List Transaction) : (counted txs).map Prod.snd = txs := by
  rw [counted, List.map_map]
  exact List.zipIdx_map_fst 0 txs

end Network

/-- A network and the time in nanoseconds. -/
structure SettledWorld where
  network : Network
  nanos : ℕ

/-- The world with a history. -/
def settledWorld (txs : List Transaction) : SettledWorld :=
  ⟨.ofHistory (Network.counted txs) (Network.nodup_counted txs), 0⟩

/-- The revocation that a payload stands for. -/
def revocationOf (payload : Bytes) : Option Transaction :=
  (Bytes.utf8Decode? payload).map fun credentialId =>
    .faultless (.revokeCredential (.ofString credentialId)) 1700000001

/-- What is handed in is settled at once. -/
def SettledWorld.settle (s : SettledWorld) (id : String) (tx : Transaction) :
    Except String Unit × SettledWorld :=
  match h : s.network.status id with
  | .unknown =>
    if ((ledger s.network.transactions).submit tx).2.isOk then
      (.ok (), { s with
        network := (s.network.handIn id tx h).commit id tx (s.network.handIn_pending id tx h) })
    else
      (.ok (), { s with
        network := (s.network.handIn id tx h).invalidate id tx 11
          (s.network.handIn_pending id tx h) })
  | _ => (.error "duplicate transaction id", s)

/-- An SDK in front of peers that endorse revocations. -/
def settledSdk : FabricSdk SettledWorld where
  IdentityBuilder := Unit
  Identity := Unit
  fromPem _ := .ok ()
  withMsp _ _ := .ok ()
  withPrivateKey _ _ := .ok ()
  buildIdentity _ := .ok ()
  signMessage _ payload := payload
  ClientBuilder := Unit
  Client := Unit
  newClient := ()
  withIdentity _ _ := .ok ()
  withTls _ _ := .ok ()
  withScheme _ _ := .ok ()
  withAuthority _ _ := .ok ()
  buildClient _ := .ok ()
  connect _ := .ofExcept (.ok ())
  CallBuilder := String × List String
  PreparedTx := (String × List String) × String
  callBuilder _ := ("", [])
  withChannelName builder _ := .ok builder
  withChaincodeId builder _ := .ok builder
  withFunctionName builder function := .ok (function, builder.2)
  withSystemChaincode builder := builder
  withFunctionArgs builder args := .ok (builder.1, args)
  buildPrepared builder s := (.ok (builder, Network.countedId s.network.history.length), s)
  txId preparedTx := some preparedTx.2
  endorse preparedTx _ s :=
    match preparedTx.1 with
    | ("RevokeCredential", [credentialId]) => (.ok ⟨Bytes.utf8 credentialId, []⟩, s)
    | _ => (.error "endorsement refused", s)
  evaluate preparedTx _ s :=
    match Query.ofProposal preparedTx.1.1 preparedTx.1.2 with
    | some query => (((query.evaluate (ledger s.network.transactions).state).mapError fun _ =>
        "evaluation failed").map fun v => Bytes.utf8 (marshal v), s)
    | none => (.error "evaluation failed", s)
  submit _ request s :=
    match request.preparedTransaction.bind fun envelope => revocationOf envelope.payload with
    | some tx => s.settle request.transactionId tx
    | none => (.error "no transaction", s)
  commitStatus _ txId _ s :=
    match s.network.status txId with
    | .valid _ => (.ok ⟨0, 1⟩, s)
    | .invalid code => (if 0 < code then .ok ⟨code, 1⟩ else .error "no status", s)
    | _ => (.error "no status", s)
  clock := ⟨fun s => s.nanos, fun d s => { s with nanos := s.nanos + d }, fun _ _ => le_rfl⟩
  commitStatus_le _ txId _ s := by
    dsimp only
    split <;> exact le_rfl
  debug _ := ""

def settledView : ChannelView settledSdk where
  network s := s.network
  call builder := builder
  proposal preparedTx := preparedTx.1
  transaction := revocationOf

namespace SettledWorld

open Network

lemma handover_settle (s : SettledWorld) (id : String) (tx : Transaction) :
    Handover Settles id tx s.network ((s.settle id tx).1, (s.settle id tx).2.network) := by
  rw [settle]
  split
  · rename_i hnew
    split_ifs with hok
    · exact .handedIn _ .refl hnew (.single (.commit _ id tx (handIn_pending ..) hok))
    · exact .handedIn _ .refl hnew (.single (.invalidate _ id tx 11 (handIn_pending ..)))
  · exact .refused _ .refl

lemma honest_settledView : settledView.Honest Settles where
  withFunctionName h := congrArg Prod.fst (Except.ok.inj h).symm
  withSystemChaincode _ := rfl
  withFunctionArgs h := (Except.ok.inj h).symm
  buildPrepared h := congrArg Prod.fst (Except.ok.inj (congrArg Prod.fst h)).symm
  endorse {preparedTx client s envelope s'} h := by
    obtain ⟨call, id⟩ := preparedTx
    simp only [settledSdk] at h
    split at h
    · rename_i credentialId
      obtain rfl := Except.ok.inj (congrArg Prod.fst h)
      refine ⟨.faultless (.revokeCredential (.ofString credentialId)) 1700000001, ?_, rfl⟩
      simp only [settledView, revocationOf, Bytes.utf8Decode?_utf8, Option.map_some]
    · cases h
  evaluate {preparedTx client s payload s' query} h hquery := by
    have hquery' : Query.ofProposal preparedTx.1.1 preparedTx.1.2 = some query := hquery
    simp only [settledSdk, hquery'] at h
    cases heval : query.evaluate (ledger s.network.transactions).state with
    | error e =>
      rw [heval] at h
      cases h
    | ok v =>
      rw [heval] at h
      cases h
      exact ⟨s.network, v, .refl, .refl, heval, rfl⟩
  submit endpoint {request envelope tx} s henvelope htx := by
    have hrevocation : (request.preparedTransaction.bind fun envelope =>
        revocationOf envelope.payload) = some tx := by
      rw [henvelope]
      exact htx
    simp only [settledSdk, hrevocation]
    exact handover_settle s request.transactionId tx
  commitStatus {client txId channelId s status s'} h := by
    simp only [settledSdk] at h
    split at h
    · rename_i tx hvalid
      cases h
      exact ⟨fun _ => ⟨tx, hvalid⟩, fun hpos => absurd hpos (by decide)⟩
    · rename_i code hinvalid
      split_ifs at h with hpos
      · cases h
        refine ⟨fun hzero => ?_, fun _ => hinvalid⟩
        rw [show code = 0 from hzero] at hpos
        exact absurd hpos (by decide)
      · cases h
    · cases h
  connect_moves _ _ := .refl
  buildPrepared_moves _ _ := .refl
  endorse_moves preparedTx client s := by
    rw [ChannelView.After]
    simp only [settledSdk]
    split <;> exact .refl
  evaluate_moves preparedTx client s := by
    rw [ChannelView.After]
    simp only [settledSdk]
    split <;> exact .refl
  commitStatus_moves client txId channelId s := by
    rw [ChannelView.After]
    simp only [settledSdk]
    split <;> exact .refl
  sleep_after _ _ := .refl

lemma settle_of_isOk {s : SettledWorld} {id : String} {tx : Transaction}
    (hnew : s.network.status id = .unknown)
    (hok : ((ledger s.network.transactions).submit tx).2.isOk = true) :
    ∃ s' tx', s.settle id tx = (.ok (), s') ∧ s'.network.status id = .valid tx' := by
  rw [settle]
  split
  · rw [if_pos hok]
    exact ⟨_, tx, rfl, Function.update_self ..⟩
  · rename_i hne
    exact absurd hnew hne

end SettledWorld

/-- The ids of that SDK are counted. -/
lemma mints_settledSdk : settledSdk.Mints fun id => ∃ k, id = Network.countedId k := by
  intro builder s preparedTx s' h
  obtain rfl := Except.ok.inj (congrArg Prod.fst h)
  exact ⟨s.network.history.length, rfl⟩

/-- A client of that network. -/
def settledClient : FabricClient :=
  ⟨tlsProfile plainUrl, "dzta", "dztac", "Org1MSP", plainUrl.text, false⟩

/-- A credential is revoked by it. -/
lemma invokeLive_settled :
    ∃ s', settledClient.invokeLive (tlsHost none) settledSdk "RevokeCredential" ["vc-1"]
      (settledWorld [activeRecord]) = (.ok (Network.countedId 1), s') := by
  set s := settledWorld [activeRecord] with hs
  have hok : ((ledger s.network.transactions).submit activeRevocation).2.isOk = true := by
    have hrecord : committed [activeRecord] = [] ++ activeRecord :: [] :=
      committed_concat_record [] _ _ _ _ _ _
    have hm := credential_of_recorded hrecord rfl (by simp)
    have hcommitted : committed ([activeRecord] ++ [activeRevocation]) =
        committed [activeRecord] ++ [activeRevocation] := committed_concat_revoke 1700000001 hm
    rw [committed_append, List.append_cancel_left_eq, Machine.accepted_cons] at hcommitted
    by_contra hfail
    rw [hs, settledWorld, Network.transactions] at hfail
    rw [if_neg] at hcommitted
    · cases hcommitted
    · exact hfail
  obtain ⟨identity, sdkClient, preparedTx, hpropose, htxId, hendorse⟩ :
      ∃ identity sdkClient preparedTx,
        settledClient.propose (tlsHost none) settledSdk "RevokeCredential" ["vc-1"] s =
          (.ok (adminContext, identity, sdkClient, preparedTx), s) ∧
        settledSdk.txId preparedTx = some (Network.countedId 1) ∧
        FabricClient.endorseAndSign settledSdk identity sdkClient preparedTx s =
          (.ok ⟨Bytes.utf8 "vc-1", Bytes.utf8 "vc-1"⟩, s) :=
    ⟨(), (), _, rfl, rfl, rfl⟩
  obtain ⟨endpoint, hendpoint⟩ : ∃ endpoint, buildTlsGatewayClient (tlsHost none)
      settledClient.config settledClient.isMock adminContext = .ok endpoint := ⟨_, rfl⟩
  have hnew : s.network.status (Network.countedId 1) = .unknown := rfl
  obtain ⟨s', tx', hsettle, hvalid⟩ := SettledWorld.settle_of_isOk hnew hok
  have hsubmit : settledSdk.submit endpoint ⟨Network.countedId 1, settledClient.channelName,
      some ⟨Bytes.utf8 "vc-1", Bytes.utf8 "vc-1"⟩⟩ s = (.ok (), s') := by
    have hrevocation : revocationOf (Bytes.utf8 "vc-1") = some activeRevocation := by
      rw [revocationOf, Bytes.utf8Decode?_utf8]
      rfl
    simp only [settledSdk, Option.bind_some, hrevocation]
    exact hsettle
  have hwait : settledClient.waitForTransactionCommit settledSdk sdkClient (Network.countedId 1) 30
      s' = (.ok (), s') := by
    have hstatus : settledSdk.commitStatus sdkClient (Network.countedId 1)
        settledClient.channelName s' = (.ok ⟨0, 1⟩, s') := by
      simp only [settledSdk, hvalid]
    refine Option.some.inj ((FabricClient.run_commitLoop_eq rfl).symm.trans
      (Polling.Loop.run_eq_some_iff.mpr ⟨0, Nat.succ_pos _, fun j hj => absurd hj (by omega), ?_⟩))
    rw [Polling.Loop.before, FabricClient.round_of_early (by omega), hstatus]
    rfl
  refine ⟨s', ?_⟩
  rw [FabricClient.invokeLive, EffectM.bind_of_eq_ok hpropose]
  dsimp only
  rw [EffectM.bind_of_eq_ok hendorse, hendpoint, htxId]
  refine EffectM.bind_eq_ok_iff.mpr ⟨endpoint, s, rfl, ?_⟩
  rw [Option.getD_some, FabricClient.submitAndWait]
  refine EffectM.bind_eq_ok_iff.mpr ⟨(), s', EffectM.mapError_eq_ok_iff.mpr hsubmit, ?_⟩
  exact EffectM.bind_eq_ok_iff.mpr ⟨(), s', hwait, rfl⟩

end DZTA
