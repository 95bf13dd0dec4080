import Dzta.Chaincode.History
import Dzta.Library.Replay
import Dzta.Library.SerdeJson

/-!
# The revocation daemon

The daemon listens to the events of the chaincode and keeps the ids of revoked credentials in a
cache.  It connects again whenever a stream ends, with success or not, and every stream starts from
block 0, so a session is a prefix of the blocks.  An event that is not the expected JSON is taken
for the id itself.

For what the chaincode emits **this fallback is never taken** (`handle_revocation`), and the cache
**mirrors the ledger** (`cache_mirrors_ledger`): after any sessions it holds the credentials whose
revocation was committed in the longest prefix that one of them has seen.
-/

namespace DZTA

open GoJson

/-! ## Events

What the peer delivers, and what the daemon reads of it. -/

/-- `ChaincodeEvent`: an event of the chaincode, as the peer delivers it. -/
structure ChaincodeEvent where
  eventName : String
  payload : Bytes

/-- `ChaincodeEventsResponse`: the events of one block. -/
structure ChaincodeEventsResponse where
  events : List ChaincodeEvent

/-- `RevocationEventPayload`: what the daemon reads of the payload of a revocation. -/
structure RevocationEventPayload where
  credentialId : String
  revokedAt : Int64
  reason : String
deriving DecidableEq

/-- The derived `Deserialize`. -/
def RevocationEventPayload.deserialize : Json → Option RevocationEventPayload
  | .obj ms => do
    some ⟨← (← Json.requiredField "credential_id" ms).asString?,
      ← (← Json.requiredField "revoked_at" ms).asI64?,
      ← (← Json.requiredField "reason" ms).asString?⟩
  | .arr [credentialId, revokedAt, reason] => do
    some ⟨← credentialId.asString?, ← revokedAt.asI64?, ← reason.asString?⟩
  | _ => none

/-! ## The listener

An event is taken for a revocation or left alone, and a revocation is kept and handed over. -/

/-- What the listener takes an event for. -/
inductive Handling where
  | ignored
  | payload (revocation : RevocationEventPayload)
  | plainString (credentialId : String)
  | undecodable
deriving DecidableEq

/-- The credential that is taken to be revoked. -/
def Handling.credentialId? : Handling → Option String
  | payload revocation => some revocation.credentialId
  | plainString credentialId => some credentialId
  | _ => none

/-- `FabricRevocationListener`: the cache, and the ids that were handed to the proxy. -/
structure FabricRevocationListener where
  revocationCache : Finset String
  synced : List String

namespace FabricRevocationListener

variable (serde : SerdeJson)

/-- How one event is handled. -/
def handle (event : ChaincodeEvent) : Handling :=
  if event.eventName = "RevokeCredential" ∨ event.eventName = "CredentialRevoked" then
    match serde.fromSlice RevocationEventPayload.deserialize event.payload with
    | .ok payload => .payload payload
    | .error _ =>
      match Bytes.utf8Decode? event.payload with
      | some credentialId => .plainString credentialId
      | none => .undecodable
  else .ignored

/-- One event of a response: the id goes into the cache and on to the proxy. -/
def processEvent (listener : FabricRevocationListener) (event : ChaincodeEvent) :
    FabricRevocationListener :=
  match (handle serde event).credentialId? with
  | some credentialId =>
    { revocationCache := insert credentialId listener.revocationCache
      synced := listener.synced ++ [credentialId] }
  | none => listener

/-- `process_chaincode_events_response`: the events of a message are handled in order. -/
def processChaincodeEventsResponse (listener : FabricRevocationListener)
    (response : ChaincodeEventsResponse) : FabricRevocationListener :=
  response.events.foldl (processEvent serde) listener

/-- `stream_chaincode_events`: the messages up to the end of the stream. -/
def streamChaincodeEvents (listener : FabricRevocationListener)
    (messages : List ChaincodeEventsResponse) : FabricRevocationListener :=
  messages.foldl (processChaincodeEventsResponse serde) listener

/-- `run`: one stream after the other. -/
def run (listener : FabricRevocationListener) (sessions : List (List ChaincodeEventsResponse)) :
    FabricRevocationListener :=
  sessions.foldl (streamChaincodeEvents serde) listener

end FabricRevocationListener

/-! ## The stream

The messages of a session are the blocks of the chain from its start on. -/

/-- An event as Fabric delivers it. -/
def Event.deliver (event : Event) : ChaincodeEvent := ⟨event.name, Bytes.utf8 event.payload⟩

/-- The messages for the blocks of a chain, from a state of the ledger on: each has the events that
the transactions of the block have added. -/
def deliverBlocks (l : Ledger) : List (List Transaction) → List ChaincodeEventsResponse
  | [] => []
  | block :: blocks =>
    let l' := Machine.run Ledger.submit l block
    ⟨(l'.events.drop l.events.length).map Event.deliver⟩ :: deliverBlocks l' blocks

lemma events_prefix_run (l : Ledger) (txs : List Transaction) :
    l.events <+: (Machine.run Ledger.submit l txs).events := by
  refine Machine.invariant_run Ledger.submit (I := fun l' => l.events <+: l'.events) ?_
    (List.prefix_refl _) txs
  intro l' tx hl'
  cases hok : (l'.submit tx).2.isOk with
  | false =>
    rw [Ledger.submit_of_error hok]
    exact hl'
  | true =>
    obtain ⟨text, event, -, hsubmit⟩ := Ledger.submit_eq_ok hok
    rw [hsubmit]
    exact hl'.trans (List.prefix_append _ _)

/-- The messages of a prefix of the chain are a prefix of the messages. -/
lemma take_deliverBlocks (l : Ledger) (blocks : List (List Transaction)) (n : ℕ) :
    (deliverBlocks l blocks).take n = deliverBlocks l (blocks.take n) := by
  induction blocks generalizing l n with
  | nil => simp [deliverBlocks]
  | cons block blocks ih =>
    cases n with
    | zero => rfl
    | succ n =>
      rw [deliverBlocks, List.take_succ_cons, ih, List.take_succ_cons, deliverBlocks]

/-- **All messages together are the events of the ledger.** -/
lemma flatten_deliverBlocks (l : Ledger) (blocks : List (List Transaction)) :
    ((deliverBlocks l blocks).map ChaincodeEventsResponse.events).flatten =
      ((Machine.run Ledger.submit l blocks.flatten).events.drop l.events.length).map
        Event.deliver := by
  induction blocks generalizing l with
  | nil => simp [deliverBlocks]
  | cons block blocks ih =>
    obtain ⟨new, hnew⟩ := events_prefix_run l block
    obtain ⟨rest, hrest⟩ :=
      events_prefix_run (Machine.run Ledger.submit l block) blocks.flatten
    rw [deliverBlocks, List.map_cons, List.flatten_cons, ih, List.flatten_cons,
      Machine.run_append, ← List.map_append, ← hrest, ← hnew]
    simp

/-! ## Handling what the chaincode emits

An event of the chaincode is read as the revocation that it tells of. -/

/-- **The event of a revocation is understood.** -/
theorem handle_revocation (serde : SerdeJson) (id : String) (seconds : Int64) :
    FabricRevocationListener.handle serde (Event.deliver
        ⟨"RevokeCredential", marshal (revocationPayload (.ofString id) seconds)⟩) =
      .payload ⟨id, seconds, "Revoked via Administrative Lifecycle Request"⟩ := by
  have hint : encodeInt64 seconds = Json.ofI64 seconds := rfl
  have hpayload : revocationPayload (.ofString id) seconds =
      .obj [("credential_id", .str id),
        ("reason", .str "Revoked via Administrative Lifecycle Request"),
        ("revoked_at", Json.ofI64 seconds)] := by
    rw [revocationPayload, encodeString, encodeString, GoString.ofString, GoString.ofString,
      Bytes.utf8Lossy_utf8, Bytes.utf8Lossy_utf8, hint]
  have hread : serde.fromSlice RevocationEventPayload.deserialize
      (Bytes.utf8 (marshal (revocationPayload (.ofString id) seconds))) =
        .ok ⟨id, seconds, "Revoked via Administrative Lifecycle Request"⟩ := by
    rw [hpayload]
    refine (serde.fromSlice_text _ _ _ _ (Json.read_print _ _ _) (by simp) (by simp)).mpr ?_
    simp [RevocationEventPayload.deserialize, Json.requiredField]
  rw [FabricRevocationListener.handle, Event.deliver, if_pos (.inl rfl), hread]

lemma mem_events_ledger {txs : List Transaction}
    (hvalid : ∀ t ∈ txs, t.operation.ValidArguments) {event : Event}
    (h : event ∈ (ledger txs).events) :
    ∃ t ∈ committed txs, ∃ id, t.operation = .revokeCredential (.ofString id) ∧
      event = ⟨"RevokeCredential", marshal (revocationPayload (.ofString id) t.seconds)⟩ := by
  rw [events_ledger] at h
  obtain ⟨t, ht, hevent⟩ := List.mem_filterMap.mp h
  obtain ⟨credentialId, hrevoked, rfl⟩ := Option.map_eq_some_iff.mp hevent
  have hop := Operation.revoked?_eq_some.mp hrevoked
  have hargs := hvalid t (Machine.mem_of_mem_accepted _ ht)
  rw [hop] at hargs
  obtain ⟨id, rfl⟩ := hargs
  exact ⟨t, ht, id, hop, rfl⟩

/-- **What the listener reads in the events of a ledger**: the credentials it revokes. -/
lemma exists_event_iff {txs : List Transaction} (hvalid : ∀ t ∈ txs, t.operation.ValidArguments)
    (serde : SerdeJson) (id : String) :
    (∃ event ∈ (ledger txs).events.map Event.deliver,
        (FabricRevocationListener.handle serde event).credentialId? = some id) ↔
      ∃ t ∈ committed txs, t.operation = .revokeCredential (.ofString id) := by
  constructor
  · rintro ⟨_, hmem, hid⟩
    obtain ⟨event, hevent, rfl⟩ := List.mem_map.mp hmem
    obtain ⟨t, ht, id', hop, rfl⟩ := mem_events_ledger hvalid hevent
    rw [handle_revocation] at hid
    rw [← Option.some.inj hid]
    exact ⟨t, ht, hop⟩
  · rintro ⟨t, ht, hop⟩
    refine ⟨_, List.mem_map_of_mem ?_, congrArg Handling.credentialId?
      (handle_revocation serde id t.seconds)⟩
    rw [events_ledger]
    refine List.mem_filterMap.mpr ⟨t, ht, ?_⟩
    rw [Transaction.event?, hop]
    rfl

/-! ## Sessions

What is in the cache after any sessions, each of them cut off anywhere. -/

namespace FabricRevocationListener

variable (serde : SerdeJson)

lemma revocationCache_processEvents (listener : FabricRevocationListener)
    (events : List ChaincodeEvent) :
    (events.foldl (processEvent serde) listener).revocationCache =
      events.foldl (Replay.remember fun event => (handle serde event).credentialId?)
        listener.revocationCache := by
  induction events generalizing listener with
  | nil => rfl
  | cons event events ih =>
    rw [List.foldl_cons, List.foldl_cons, ih, processEvent, Replay.remember]
    cases (handle serde event).credentialId? <;> rfl

lemma revocationCache_stream (listener : FabricRevocationListener)
    (messages : List ChaincodeEventsResponse) :
    (streamChaincodeEvents serde listener messages).revocationCache =
      (messages.map ChaincodeEventsResponse.events).foldl (fun cache events =>
        events.foldl (Replay.remember fun event => (handle serde event).credentialId?) cache)
        listener.revocationCache := by
  induction messages generalizing listener with
  | nil => rfl
  | cons message messages ih =>
    rw [streamChaincodeEvents, List.foldl_cons, List.map_cons, List.foldl_cons,
      ← revocationCache_processEvents]
    exact ih _

/-- **The cache replays the messages.** -/
theorem revocationCache_run (listener : FabricRevocationListener)
    (messages : List ChaincodeEventsResponse) (cuts : List ℕ) :
    (run serde listener (cuts.map fun n => messages.take n)).revocationCache =
      Replay.replays (fun event => (handle serde event).credentialId?)
        (messages.map ChaincodeEventsResponse.events) listener.revocationCache cuts := by
  induction cuts generalizing listener with
  | nil => rfl
  | cons n cuts ih =>
    rw [run, List.map_cons, List.foldl_cons, Replay.replays, List.foldl_cons, ← List.map_take,
      ← revocationCache_stream]
    exact ih _

end FabricRevocationListener

/-- **The cache mirrors the ledger**: after sessions that are cut after any numbers of blocks, it
holds the credentials whose revocation is committed in the longest of the prefixes, and no event of
the chain is handled as a plain string. -/
theorem cache_mirrors_ledger {blocks : List (List Transaction)}
    (hvalid : ∀ block ∈ blocks, ∀ t ∈ block, t.operation.ValidArguments) (serde : SerdeJson)
    (cuts : List ℕ) :
    let messages := deliverBlocks .genesis blocks
    (∀ id, id ∈ (FabricRevocationListener.run serde ⟨∅, []⟩
        (cuts.map fun n => messages.take n)).revocationCache ↔
      ∃ t ∈ committed (blocks.take (cuts.foldl max 0)).flatten,
        t.operation = .revokeCredential (.ofString id)) ∧
    ∀ message ∈ messages, ∀ event ∈ message.events, ∃ revocation,
      FabricRevocationListener.handle serde event = .payload revocation := by
  intro messages
  have hflatten : ∀ bs : List (List Transaction),
      ((deliverBlocks .genesis bs).map ChaincodeEventsResponse.events).flatten =
        (ledger bs.flatten).events.map Event.deliver := flatten_deliverBlocks .genesis
  constructor
  · intro id
    have hprefix : ∀ t ∈ (blocks.take (cuts.foldl max 0)).flatten, t.operation.ValidArguments := by
      intro t ht
      obtain ⟨block, hblock, ht⟩ := List.mem_flatten.mp ht
      exact hvalid block (List.mem_of_mem_take hblock) t ht
    rw [FabricRevocationListener.revocationCache_run, Replay.mem_replays, ← List.map_take,
      take_deliverBlocks, hflatten, exists_event_iff hprefix]
    simp
  · intro message hmessage event hevent
    have hmem : event ∈ (messages.map ChaincodeEventsResponse.events).flatten :=
      List.mem_flatten.mpr ⟨message.events, List.mem_map_of_mem hmessage, hevent⟩
    rw [hflatten] at hmem
    obtain ⟨e, he, rfl⟩ := List.mem_map.mp hmem
    have hall : ∀ t ∈ blocks.flatten, t.operation.ValidArguments := by
      intro t ht
      obtain ⟨block, hblock, ht⟩ := List.mem_flatten.mp ht
      exact hvalid block hblock t ht
    obtain ⟨t, -, id, -, rfl⟩ := mem_events_ledger hall he
    exact ⟨_, handle_revocation serde id t.seconds⟩

/-! ### A revocation in the second block

A session that ends before the block, and one that has it. -/

/-- A credential is recorded in one block and revoked in the next. -/
def recordRevokeBlocks (id : String) : List (List Transaction) :=
  (recordRevoke (.ofString id)).map fun t => [t]

lemma valid_recordRevokeBlocks (id : String) :
    ∀ block ∈ recordRevokeBlocks id, ∀ t ∈ block, t.operation.ValidArguments := by
  intro block hblock t ht
  obtain ⟨t', ht', rfl⟩ := List.mem_map.mp hblock
  rw [List.mem_singleton.mp ht]
  exact valid_recordRevoke (GoString.valid_utf8 id) t' ht'

lemma committed_recordRevokeBlocks (id : String) :
    committed ((recordRevokeBlocks id).take 2).flatten = recordRevoke (.ofString id) :=
  committed_recordRevoke (.ofString id)

lemma exists_revoke_iff (id id' : String) :
    (∃ t ∈ recordRevoke (.ofString id), t.operation = .revokeCredential (.ofString id')) ↔
      id = id' := by
  have hinj : GoString.ofString id = GoString.ofString id' ↔ id = id' :=
    Bytes.utf8_injective.eq_iff
  simp [recordRevoke, staffRecord, Transaction.faultless, hinj]

/-- Any string can be recorded and revoked, and the daemon finds it in the event. -/
lemma exists_event_recordRevoke (serde : SerdeJson) (id : String) :
    ∃ event ∈ (ledger (recordRevoke (.ofString id))).events.map Event.deliver,
      (FabricRevocationListener.handle serde event).credentialId? = some id := by
  have hid : (GoString.ofString id).Valid := GoString.valid_utf8 id
  rw [exists_event_iff (valid_recordRevoke hid), committed_recordRevoke]
  exact (exists_revoke_iff id id).mpr rfl

/-- A stream that breaks off in the first block, catches up, and breaks off again. -/
theorem cache_mirrors_ledger_recordRevoke :
    "vc-1" ∈ (FabricRevocationListener.run .strict ⟨∅, []⟩ ([1, 2, 1].map fun n =>
      (deliverBlocks .genesis (recordRevokeBlocks "vc-1")).take n)).revocationCache ∧
    "vc-2" ∉ (FabricRevocationListener.run .strict ⟨∅, []⟩ ([1, 2, 1].map fun n =>
      (deliverBlocks .genesis (recordRevokeBlocks "vc-1")).take n)).revocationCache := by
  have hmirror := (cache_mirrors_ledger (valid_recordRevokeBlocks "vc-1") .strict [1, 2, 1]).1
  rw [show [1, 2, 1].foldl max 0 = 2 from rfl, committed_recordRevokeBlocks] at hmirror
  rw [hmirror, hmirror, exists_revoke_iff, exists_revoke_iff]
  decide

end DZTA
