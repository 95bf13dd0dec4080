import Dzta.Daemon.Sync

/-!
# From the ledger to the edge

The chain, the daemon and the edge as one system.  Blocks are ordered and requests reach the edge at
any time; in between the daemon connects, waits for the next message, handles the events of a
message one by one, and makes up to five attempts to hand the id of a revocation to the edge, each
of which may be lost on the way there or on the way back.  A stream starts from block 0, and it ends
where the daemon waits for a message.

**`store_sound`**: a mark at the edge stems from a committed revocation, or from somebody else who
had the token.  **`revocation_delivered`**: when the daemon waits, each revocation in the blocks
that it has received has a report; and a report of success means that no request for the credential
passes any more, if its id crosses unchanged.  **`exists_catch_up`**: wherever the system is, the
daemon can still bring the edge up to date, once the peer ends the stream.
**`exists_actions_of_sync`** ties the steps of the system to `sync_to_envoy_memory`.
-/

namespace DZTA

open R1CS

/-! ## The system

The daemon, the ledger and the edge, with everything that can happen between them as a step. -/

/-- Where the daemon is: at the top of the loop of `run`, at `message().await` after a number of
blocks, among the events of a message, or in `sync_to_envoy_memory`. -/
inductive Phase where
  | connecting
  | waiting (position : ℕ)
  | handling (position : ℕ) (events : List ChaincodeEvent)
  | syncing (position : ℕ) (events : List ChaincodeEvent) (credentialId : String)
      (retries delay : ℕ)

namespace Phase

/-- How many blocks the stream has delivered. -/
def position : Phase → ℕ
  | connecting => 0
  | waiting position => position
  | handling position _ => position
  | syncing position _ _ _ _ => position

/-- The events that are still to be handled. -/
def remaining : Phase → List ChaincodeEvent
  | handling _ events => events
  | syncing _ events _ _ _ => events
  | _ => []

/-- The id that is being handed to the edge. -/
def current? : Phase → Option String
  | syncing _ _ credentialId _ _ => some credentialId
  | _ => none

end Phase

/-- The chain, the daemon with what it has reported of each attempt to inject an id, and the store
of the edge.  The time before the next connection is in seconds. -/
structure RevocationSystem where
  blocks : List (List Transaction)
  listener : FabricRevocationListener
  phase : Phase
  retryBackoff : ℕ
  reports : List (String × Bool)
  store : SharedData

/-- What becomes of a request of the daemon: it is lost, its answer is lost, or it is answered. -/
inductive AttemptFate where
  | lost
  | unanswered (setSharedDataFails : Bool)
  | answered (setSharedDataFails : Bool)

/-- What can happen. -/
inductive SystemAction where
  | order (block : List Transaction) (hvalid : ∀ t ∈ block, t.operation.ValidArguments)
  | connect (opened : Bool)
  | deliver
  | streamEnds (gracefully : Bool)
  | handle
  | attempt (fate : AttemptFate)
  | request (request : HttpRequest)

/-- What the daemon does, as far as the network goes along.  The end of a stream is none of it: the
peer ends it, and the daemon waits without a timeout. -/
def SystemAction.OfDaemon : SystemAction → Prop
  | order _ _ => False
  | streamEnds _ => False
  | request _ => False
  | _ => True

/-- What is fixed in a deployment. -/
structure Deployment {setup : List (Constraint Fr)} (G : Groth16 setup) where
  pvk : Option G.VerifyingKey
  serde : SerdeJson
  stack : UrlStack
  config : PluginConfig
  wasmAdminToken : Option String

namespace RevocationSystem

/-- Nothing has happened yet. -/
def start : RevocationSystem := ⟨[], ⟨∅, []⟩, .connecting, 1, [], fun _ => none⟩

/-- The messages of a stream. -/
def messages (sys : RevocationSystem) : List ChaincodeEventsResponse :=
  deliverBlocks .genesis sys.blocks

/-- A connection failed, or a stream ended with an error. -/
def backOff (sys : RevocationSystem) : RevocationSystem :=
  { sys with phase := .connecting, retryBackoff := min (sys.retryBackoff * 2) 30 }

section Step

variable {setup : List (Constraint Fr)} {G : Groth16 setup} (deployment : Deployment G)

/-- What an attempt does to the store of the edge, and the status that the daemon sees. -/
def send (store : SharedData) (credentialId : String) (fate : AttemptFate) :
    SharedData × Option ℕ :=
  match syncRequest deployment.wasmAdminToken credentialId, fate with
  | some request, .unanswered fails =>
    let (store', _) := onHttpRequestHeaders G deployment.pvk store
      (arrival deployment.stack deployment.config fails request)
    (store', none)
  | some request, .answered fails =>
    let (store', outcome) := onHttpRequestHeaders G deployment.pvk store
      (arrival deployment.stack deployment.config fails request)
    (store', outcome.response.map fun response => response.status)
  | _, _ => (store, none)

/-- The next event of a message. -/
def handleEvent (sys : RevocationSystem) (position : ℕ) (event : ChaincodeEvent)
    (events : List ChaincodeEvent) : RevocationSystem :=
  { sys with
    listener := sys.listener.processEvent deployment.serde event
    phase :=
      match (FabricRevocationListener.handle deployment.serde event).credentialId? with
      | some credentialId => .syncing position events credentialId 5 500
      | none => .handling position events }

/-- One attempt of `sync_to_envoy_memory`, and the pause after it. -/
def attempt (sys : RevocationSystem) (position : ℕ) (events : List ChaincodeEvent)
    (credentialId : String) (retries delay : ℕ) (fate : AttemptFate) : RevocationSystem :=
  let sent := send deployment sys.store credentialId fate
  if sent.2.any isSuccess then
    { sys with
      store := sent.1
      phase := .handling position events
      reports := sys.reports ++ [(credentialId, true)] }
  else if retries = 0 then
    { sys with
      store := sent.1
      phase := .handling position events
      reports := sys.reports ++ [(credentialId, false)] }
  else
    { sys with
      store := sent.1
      phase := .syncing position events credentialId retries (min (delay * 2) 5000) }

/-- One step; where an action is not possible, nothing happens.  The outcome is that of a request
of somebody else. -/
def step (sys : RevocationSystem) (action : SystemAction) : RevocationSystem × Option Outcome :=
  match action, sys.phase with
  | .order block _, _ => ({ sys with blocks := sys.blocks ++ [block] }, none)
  | .request request, _ =>
    let (store', outcome) := onHttpRequestHeaders G deployment.pvk sys.store request
    ({ sys with store := store' }, some outcome)
  | .connect true, .connecting => ({ sys with phase := .waiting 0 }, none)
  | .connect false, .connecting => (sys.backOff, none)
  | .deliver, .waiting position =>
    match sys.messages[position]? with
    | some message => ({ sys with phase := .handling (position + 1) message.events }, none)
    | none => (sys, none)
  | .streamEnds true, .waiting _ => ({ sys with phase := .connecting, retryBackoff := 1 }, none)
  | .streamEnds false, .waiting _ => (sys.backOff, none)
  | .handle, .handling position [] => ({ sys with phase := .waiting position }, none)
  | .handle, .handling position (event :: events) =>
    (sys.handleEvent deployment position event events, none)
  | .attempt fate, .syncing position events credentialId (retries + 1) delay =>
    (sys.attempt deployment position events credentialId retries delay fate, none)
  | _, _ => (sys, none)

end Step

end RevocationSystem

/-! ## The events of a prefix of the chain

What the first blocks deliver, and which revocations that tells of. -/

/-- The revocation of a credential is committed. -/
def CommittedRevocation (txs : List Transaction) (id : String) : Prop :=
  ∃ t ∈ committed txs, t.operation = .revokeCredential (.ofString id)

/-- The events of the first blocks. -/
def deliveredEvents (blocks : List (List Transaction)) (n : ℕ) : List ChaincodeEvent :=
  ((deliverBlocks .genesis (blocks.take n)).map ChaincodeEventsResponse.events).flatten

lemma CommittedRevocation.append {txs : List Transaction} {id : String}
    (h : CommittedRevocation txs id) (more : List Transaction) :
    CommittedRevocation (txs ++ more) id := by
  obtain ⟨t, ht, hop⟩ := h
  refine ⟨t, ?_, hop⟩
  rw [committed, Machine.accepted_append]
  exact List.mem_append_left _ ht

lemma CommittedRevocation.of_take {blocks : List (List Transaction)} {id : String} {n : ℕ}
    (h : CommittedRevocation (blocks.take n).flatten id) :
    CommittedRevocation blocks.flatten id := by
  rw [← List.take_append_drop n blocks, List.flatten_append]
  exact h.append _

lemma length_deliverBlocks (l : Ledger) (blocks : List (List Transaction)) :
    (deliverBlocks l blocks).length = blocks.length := by
  induction blocks generalizing l with
  | nil => rfl
  | cons block blocks ih => rw [deliverBlocks, List.length_cons, ih, List.length_cons]

@[simp] lemma deliveredEvents_zero (blocks : List (List Transaction)) :
    deliveredEvents blocks 0 = [] := rfl

/-- What a message adds. -/
lemma deliveredEvents_succ {blocks : List (List Transaction)} {n : ℕ}
    {message : ChaincodeEventsResponse}
    (h : (deliverBlocks .genesis blocks)[n]? = some message) :
    deliveredEvents blocks (n + 1) = deliveredEvents blocks n ++ message.events := by
  rw [deliveredEvents, deliveredEvents, ← take_deliverBlocks, ← take_deliverBlocks,
    List.take_add_one, h]
  simp

/-- Later blocks do not matter. -/
lemma deliveredEvents_concat {blocks : List (List Transaction)} {n : ℕ} (h : n ≤ blocks.length)
    (block : List Transaction) :
    deliveredEvents (blocks ++ [block]) n = deliveredEvents blocks n := by
  rw [deliveredEvents, deliveredEvents, List.take_append_of_le_length h]

lemma exists_deliveredEvents_iff {blocks : List (List Transaction)}
    (hvalid : ∀ block ∈ blocks, ∀ t ∈ block, t.operation.ValidArguments) (serde : SerdeJson)
    (n : ℕ) (id : String) :
    (∃ event ∈ deliveredEvents blocks n,
        (FabricRevocationListener.handle serde event).credentialId? = some id) ↔
      CommittedRevocation (blocks.take n).flatten id := by
  have hprefix : ∀ t ∈ (blocks.take n).flatten, t.operation.ValidArguments := by
    intro t ht
    obtain ⟨block, hblock, ht⟩ := List.mem_flatten.mp ht
    exact hvalid block (List.mem_of_mem_take hblock) t ht
  have hflatten : deliveredEvents blocks n =
      (ledger (blocks.take n).flatten).events.map Event.deliver :=
    flatten_deliverBlocks .genesis (blocks.take n)
  rw [hflatten, exists_event_iff hprefix]
  rfl

namespace RevocationSystem

/-! ## What holds in every state

The invariant says what the daemon has seen and handed over; each kind of step keeps it. -/

/-- The invariant of the system: the events behind the daemon have had their ids put into the cache
and reported, up to the one that is being handed over; whatever is in the cache was revoked; and
what was reported as injected is marked. -/
structure Inv (serde : SerdeJson) (sys : RevocationSystem) : Prop where
  valid : ∀ block ∈ sys.blocks, ∀ t ∈ block, t.operation.ValidArguments
  position_le : sys.phase.position ≤ sys.blocks.length
  handled : ∃ events, deliveredEvents sys.blocks sys.phase.position =
      events ++ sys.phase.remaining ∧
    ∀ event ∈ events, ∀ id, (FabricRevocationListener.handle serde event).credentialId? = some id →
      (∃ injected, (id, injected) ∈ sys.reports) ∨ sys.phase.current? = some id
  cached : ∀ id, (∃ injected, (id, injected) ∈ sys.reports) ∨ sys.phase.current? = some id →
    id ∈ sys.listener.revocationCache
  committed : ∀ id ∈ sys.listener.revocationCache, CommittedRevocation sys.blocks.flatten id
  injected : ∀ id, (id, true) ∈ sys.reports →
    receivedId id ≠ "" ∧ sys.store.Revoked (receivedId id)
  retrying : ∀ position events credentialId retries delay,
    sys.phase = .syncing position events credentialId retries delay → 0 < retries

section Inv

variable {setup : List (Constraint Fr)} {G : Groth16 setup} {deployment : Deployment G}
  {sys : RevocationSystem}

lemma inv_start (serde : SerdeJson) : start.Inv serde where
  valid block hblock := absurd hblock List.not_mem_nil
  position_le := le_rfl
  handled := ⟨[], rfl, fun event hevent => absurd hevent List.not_mem_nil⟩
  cached id h := by
    rcases h with ⟨injected, h⟩ | h
    · exact absurd h List.not_mem_nil
    · cases h
  committed id hid := absurd hid (Finset.notMem_empty id)
  injected id h := absurd h List.not_mem_nil
  retrying _ _ _ _ _ h := by cases h

/-- The stream is over, or has not begun. -/
lemma Inv.reset {serde : SerdeJson} (h : sys.Inv serde) {phase : Phase} (retryBackoff : ℕ)
    (hposition : phase.position = 0) (hremaining : phase.remaining = [])
    (hsettled : sys.phase.current? = none) (hcurrent : phase.current? = none) :
    { sys with phase, retryBackoff }.Inv serde where
  valid := h.valid
  position_le := by
    rw [hposition]
    exact Nat.zero_le _
  handled := by
    refine ⟨[], ?_, fun event hevent => absurd hevent List.not_mem_nil⟩
    rw [hposition, hremaining]
    rfl
  cached id hid := by
    rw [hcurrent] at hid
    rw [← hsettled] at hid
    exact h.cached id hid
  committed := h.committed
  injected := h.injected
  retrying position events credentialId retries delay hphase := by
    rw [show phase = _ from hphase] at hcurrent
    cases hcurrent

lemma Inv.deliver {serde : SerdeJson} (h : sys.Inv serde) {position : ℕ}
    {message : ChaincodeEventsResponse} (hphase : sys.phase = .waiting position)
    (hmessage : sys.messages[position]? = some message) :
    { sys with phase := .handling (position + 1) message.events }.Inv serde where
  valid := h.valid
  position_le := by
    have hlt := (List.getElem?_eq_some_iff.mp hmessage).1
    rw [messages, length_deliverBlocks] at hlt
    exact hlt
  handled := by
    obtain ⟨events, hevents, hreported⟩ := h.handled
    rw [hphase] at hevents hreported
    refine ⟨events, ?_, hreported⟩
    have hposition : deliveredEvents sys.blocks position = events :=
      hevents.trans (List.append_nil events)
    exact (deliveredEvents_succ hmessage).trans (congrArg (· ++ message.events) hposition)
  cached id hid := h.cached id (by rwa [hphase])
  committed := h.committed
  injected := h.injected
  retrying _ _ _ _ _ h := by cases h

/-- A message is done. -/
lemma Inv.done {serde : SerdeJson} (h : sys.Inv serde) {position : ℕ}
    (hphase : sys.phase = .handling position []) :
    { sys with phase := .waiting position }.Inv serde where
  valid := h.valid
  position_le := by
    have hle := h.position_le
    rwa [hphase] at hle
  handled := by
    have hhandled := h.handled
    rwa [hphase] at hhandled
  cached id hid := h.cached id (by rwa [hphase])
  committed := h.committed
  injected := h.injected
  retrying _ _ _ _ _ h := by cases h

lemma Inv.handleEvent (h : sys.Inv deployment.serde) {position : ℕ} {event : ChaincodeEvent}
    {events : List ChaincodeEvent} (hphase : sys.phase = .handling position (event :: events)) :
    (sys.handleEvent deployment position event events).Inv deployment.serde := by
  have hle := h.position_le
  obtain ⟨before, hbefore, hreported⟩ := h.handled
  rw [hphase] at hle hbefore hreported
  simp only [Phase.position, Phase.remaining, Phase.current?] at hle hbefore hreported
  have hcached : ∀ id, (∃ injected, (id, injected) ∈ sys.reports) →
      id ∈ sys.listener.revocationCache := fun id hid => h.cached id (.inl hid)
  have hsplit : deliveredEvents sys.blocks position = before ++ [event] ++ events := by
    rw [hbefore, List.append_assoc]
    rfl
  cases hid : (FabricRevocationListener.handle deployment.serde event).credentialId? with
  | none =>
    have hsys : sys.handleEvent deployment position event events =
        { sys with phase := .handling position events } := by
      simp only [RevocationSystem.handleEvent, FabricRevocationListener.processEvent, hid]
    rw [hsys]
    refine ⟨h.valid, hle, ⟨before ++ [event], hsplit, ?_⟩, ?_, h.committed, h.injected,
      fun _ _ _ _ _ h => by cases h⟩
    · intro e he id he'
      rcases List.mem_append.mp he with he | he
      · exact hreported e he id he'
      · rw [List.mem_singleton.mp he, hid] at he'
        cases he'
    · rintro id (hid | hid)
      · exact hcached id hid
      · cases hid
  | some credentialId =>
    have hsys : sys.handleEvent deployment position event events =
        { sys with
          listener := ⟨insert credentialId sys.listener.revocationCache,
            sys.listener.synced ++ [credentialId]⟩
          phase := .syncing position events credentialId 5 500 } := by
      simp only [RevocationSystem.handleEvent, FabricRevocationListener.processEvent, hid]
    have hcommitted : CommittedRevocation sys.blocks.flatten credentialId := by
      refine CommittedRevocation.of_take (n := position)
        ((exists_deliveredEvents_iff h.valid deployment.serde position credentialId).mp
          ⟨event, ?_, hid⟩)
      rw [hbefore]
      exact List.mem_append_right _ List.mem_cons_self
    rw [hsys]
    refine ⟨h.valid, hle, ⟨before ++ [event], hsplit, ?_⟩, ?_, ?_, h.injected, ?_⟩
    · intro e he id he'
      rcases List.mem_append.mp he with he | he
      · refine .inl ((hreported e he id he').resolve_right ?_)
        rintro ⟨⟩
      · rw [List.mem_singleton.mp he, hid] at he'
        exact .inr he'
    · rintro id (hid | hid)
      · exact Finset.mem_insert_of_mem (hcached id hid)
      · rw [← Option.some.inj hid]
        exact Finset.mem_insert_self _ _
    · intro id hid
      rcases Finset.mem_insert.mp hid with rfl | hid
      · exact hcommitted
      · exact h.committed id hid
    · rintro _ _ _ _ _ ⟨⟩
      norm_num

variable (deployment) in
/-- What an attempt does to the store: nothing, or it marks what is left of the id; and it does so
when it is answered with success. -/
lemma send_cases (store : SharedData) (credentialId : String) (fate : AttemptFate) :
    let sent := send deployment store credentialId fate
    (sent.1 = store ∨ sent.1 = store.revoke (receivedId credentialId)) ∧
    (sent.2.any isSuccess = true →
      receivedId credentialId ≠ "" ∧ sent.1 = store.revoke (receivedId credentialId)) := by
  intro sent
  cases hrequest : syncRequest deployment.wasmAdminToken credentialId with
  | none =>
    have hsent : sent = (store, none) := by
      simp only [sent, send, hrequest]
    rw [hsent]
    exact ⟨.inl rfl, fun h => by cases h⟩
  | some request =>
    have hstore : ∀ fails, (onHttpRequestHeaders G deployment.pvk store
        (arrival deployment.stack deployment.config fails request)).1 = store ∨
        (onHttpRequestHeaders G deployment.pvk store
          (arrival deployment.stack deployment.config fails request)).1 =
            store.revoke (receivedId credentialId) := by
      intro fails
      rcases store_of_step (G := G) store
        (arrival deployment.stack deployment.config fails request) with
        h | ⟨id, ⟨-, -, -, h, -⟩, h'⟩
      · exact .inl h
      · rw [path_arrival _ _ _ hrequest, targetId_sync] at h
        rw [Option.some.inj h]
        exact .inr h'
    cases fate with
    | lost =>
      have hsent : sent = (store, none) := by
        simp only [sent, send, hrequest]
      rw [hsent]
      exact ⟨.inl rfl, fun h => by cases h⟩
    | unanswered fails =>
      simp only [sent, send, hrequest]
      exact ⟨hstore fails, fun h => by cases h⟩
    | answered fails =>
      simp only [sent, send, hrequest]
      refine ⟨hstore fails, fun hsuccess => ?_⟩
      obtain ⟨status, hstatus, hok⟩ := (Option.any_eq_true _ _).mp hsuccess
      obtain ⟨response, hresponse, rfl⟩ := Option.map_eq_some_iff.mp hstatus
      exact store_of_answered hrequest hok hresponse

lemma revoked_send {store : SharedData} {key : String} (h : store.Revoked key)
    (credentialId : String) (fate : AttemptFate) :
    (send deployment store credentialId fate).1.Revoked key := by
  rcases (send_cases deployment store credentialId fate).1 with hsame | hmarked
  · rw [hsame]
    exact h
  · rw [hmarked]
    exact h.revoke _

variable (deployment) in
/-- An attempt ends in one of three ways. -/
lemma attempt_cases (sys : RevocationSystem) (position : ℕ) (events : List ChaincodeEvent)
    (credentialId : String) (retries delay : ℕ) (fate : AttemptFate) :
    let sent := send deployment sys.store credentialId fate
    let next := sys.attempt deployment position events credentialId retries delay fate
    (∃ injected, (injected = true → sent.2.any isSuccess = true) ∧
      next = { sys with
        store := sent.1
        phase := .handling position events
        reports := sys.reports ++ [(credentialId, injected)] }) ∨
    (0 < retries ∧ next = { sys with
      store := sent.1
      phase := .syncing position events credentialId retries (min (delay * 2) 5000) }) := by
  intro sent next
  simp only [next, attempt]
  split_ifs with hsuccess hlast
  · exact .inl ⟨true, fun _ => hsuccess, rfl⟩
  · exact .inl ⟨false, fun h => absurd h Bool.false_ne_true, rfl⟩
  · exact .inr ⟨Nat.pos_of_ne_zero hlast, rfl⟩

lemma Inv.attempt (h : sys.Inv deployment.serde) {position : ℕ} {events : List ChaincodeEvent}
    {credentialId : String} {retries retries' delay : ℕ}
    (hphase : sys.phase = .syncing position events credentialId retries' delay)
    (fate : AttemptFate) :
    (sys.attempt deployment position events credentialId retries delay fate).Inv
      deployment.serde := by
  have hle := h.position_le
  obtain ⟨before, hbefore, hreported⟩ := h.handled
  have hcached := h.cached
  rw [hphase] at hle hbefore hreported hcached
  obtain ⟨-, hsent⟩ := send_cases deployment sys.store credentialId fate
  have hinjected : ∀ id, (id, true) ∈ sys.reports → receivedId id ≠ "" ∧
      (send deployment sys.store credentialId fate).1.Revoked (receivedId id) := by
    intro id hid
    obtain ⟨hne, hrevoked⟩ := h.injected id hid
    exact ⟨hne, revoked_send hrevoked credentialId fate⟩
  rcases attempt_cases deployment sys position events credentialId retries delay
    fate with ⟨injected, hsuccess, hnext⟩ | ⟨hmore, hnext⟩
  · rw [hnext]
    refine ⟨h.valid, hle, ⟨before, hbefore, ?_⟩, ?_, h.committed, ?_,
      fun _ _ _ _ _ h => by cases h⟩
    · intro event hevent id hid
      rcases hreported event hevent id hid with ⟨injected', hid'⟩ | hid'
      · exact .inl ⟨injected', List.mem_append_left _ hid'⟩
      · rw [← Option.some.inj hid']
        exact .inl ⟨injected, List.mem_append_right _ (List.mem_singleton_self _)⟩
    · rintro id (⟨injected', hid⟩ | hid)
      · rcases List.mem_append.mp hid with hid | hid
        · exact hcached id (.inl ⟨injected', hid⟩)
        · rw [(Prod.mk.inj (List.mem_singleton.mp hid)).1]
          exact hcached credentialId (.inr rfl)
      · cases hid
    · intro id hid
      rcases List.mem_append.mp hid with hid | hid
      · exact hinjected id hid
      · obtain ⟨rfl, rfl⟩ := Prod.mk.inj (List.mem_singleton.mp hid)
        obtain ⟨hne, hmarked⟩ := hsent (hsuccess rfl)
        exact ⟨hne, by rw [hmarked]; exact SharedData.revoked_revoke _ _⟩
  · rw [hnext]
    refine ⟨h.valid, hle, ⟨before, hbefore, hreported⟩, hcached, h.committed, hinjected, ?_⟩
    rintro _ _ _ _ _ ⟨⟩
    exact hmore

/-- **Every step keeps the invariant.** -/
theorem Inv.step (h : sys.Inv deployment.serde) (action : SystemAction) :
    (sys.step deployment action).1.Inv deployment.serde := by
  unfold RevocationSystem.step
  split
  · rename_i block hvalid
    have hle := h.position_le
    refine ⟨?_, ?_, ?_, h.cached, ?_, h.injected, h.retrying⟩
    · intro b hb
      rcases List.mem_append.mp hb with hb | hb
      · exact h.valid b hb
      · rw [List.mem_singleton.mp hb]
        exact hvalid
    · rw [List.length_append]
      exact Nat.le_add_right_of_le hle
    · obtain ⟨events, hevents, hreported⟩ := h.handled
      exact ⟨events, (deliveredEvents_concat hle block).trans hevents, hreported⟩
    · intro id hid
      rw [List.flatten_append]
      exact (h.committed id hid).append _
  · rename_i request
    refine ⟨h.valid, h.position_le, h.handled, h.cached, h.committed, fun id hid => ?_,
      h.retrying⟩
    obtain ⟨hne, hrevoked⟩ := h.injected id hid
    exact ⟨hne, revoked_run hrevoked [request]⟩
  · rename_i hphase
    exact h.reset sys.retryBackoff rfl rfl (by rw [hphase]; rfl) rfl
  · rename_i hphase
    exact h.reset _ rfl rfl (by rw [hphase]; rfl) rfl
  · rename_i position hphase
    split
    · rename_i message hmessage
      exact h.deliver hphase hmessage
    · exact h
  · rename_i position hphase
    exact h.reset 1 rfl rfl (by rw [hphase]; rfl) rfl
  · rename_i position hphase
    exact h.reset _ rfl rfl (by rw [hphase]; rfl) rfl
  · rename_i position hphase
    exact h.done hphase
  · rename_i position event events hphase
    exact h.handleEvent hphase
  · rename_i fate position events credentialId retries delay hphase
    exact h.attempt hphase fate
  · exact h

/-- **The invariant holds in every state** that is reached. -/
theorem inv_run (deployment : Deployment G) (actions : List SystemAction) :
    (Machine.run (step deployment) start actions).Inv deployment.serde :=
  Machine.invariant_run (step deployment) (fun _ action h => h.step action)
    (inv_start deployment.serde) actions

end Inv

/-! ## Marks

A mark of the edge has a reason, and it stays. -/

section Marks

variable {setup : List (Constraint Fr)} {G : Groth16 setup} {deployment : Deployment G}
  {sys : RevocationSystem}

variable (deployment) in
/-- A step changes the store by an attempt of the daemon or by a request of somebody else. -/
lemma store_step (sys : RevocationSystem) (action : SystemAction) :
    (sys.step deployment action).1.store = sys.store ∨
    (∃ id, sys.phase.current? = some id ∧
      (sys.step deployment action).1.store = sys.store.revoke (receivedId id)) ∨
    ∃ request id, action = .request request ∧ request.Authorized id ∧
      (sys.step deployment action).1.store = sys.store.revoke id := by
  unfold RevocationSystem.step
  split
  case h_2 request =>
    have hstore : (onHttpRequestHeaders G deployment.pvk sys.store request).1 = sys.store ∨
        ∃ id, request.Authorized id ∧ (onHttpRequestHeaders G deployment.pvk sys.store request).1 =
          sys.store.revoke id := store_of_step sys.store request
    rcases hstore with h | ⟨id, hid, h⟩
    · exact .inl h
    · exact .inr (.inr ⟨request, id, rfl, hid, h⟩)
  case h_10 fate position events credentialId retries delay hphase =>
    obtain ⟨hstore, -⟩ := send_cases deployment sys.store credentialId fate
    have hnext : (sys.attempt deployment position events credentialId retries delay fate).store =
        (send deployment sys.store credentialId fate).1 := by
      rcases attempt_cases deployment sys position events credentialId retries
        delay fate with ⟨_, -, hnext⟩ | ⟨-, hnext⟩ <;> rw [hnext]
    rw [hnext]
    rcases hstore with h | h
    · exact .inl h
    · exact .inr (.inl ⟨credentialId, by rw [hphase]; rfl, h⟩)
  case h_5 => split <;> exact .inl rfl
  all_goals exact .inl rfl

variable (deployment) in
/-- Blocks are never taken back. -/
lemma blocks_step (sys : RevocationSystem) (action : SystemAction) :
    sys.blocks <+: (sys.step deployment action).1.blocks ∧
      ((∀ block hvalid, action ≠ .order block hvalid) →
        (sys.step deployment action).1.blocks = sys.blocks) := by
  unfold RevocationSystem.step
  split
  case h_1 block hvalid => exact ⟨List.prefix_append _ _, fun h => absurd rfl (h block hvalid)⟩
  case h_10 fate position events credentialId retries delay hphase =>
    rcases attempt_cases deployment sys position events credentialId retries
      delay fate with ⟨_, -, hnext⟩ | ⟨-, hnext⟩ <;> rw [hnext] <;>
      exact ⟨List.prefix_rfl, fun _ => rfl⟩
  case h_5 => split <;> exact ⟨List.prefix_rfl, fun _ => rfl⟩
  all_goals exact ⟨List.prefix_rfl, fun _ => rfl⟩

lemma revoked_step {key : String} (h : sys.store.Revoked key) (action : SystemAction) :
    (sys.step deployment action).1.store.Revoked key := by
  rcases store_step deployment sys action with hstore | ⟨id, -, hstore⟩ |
    ⟨request, id, -, -, hstore⟩
  · rw [hstore]
    exact h
  · rw [hstore]
    exact h.revoke _
  · rw [hstore]
    exact h.revoke _

/-- **Marks stay.** -/
lemma revoked_of_run {key : String} (h : sys.store.Revoked key) (actions : List SystemAction) :
    (Machine.run (step deployment) sys actions).store.Revoked key :=
  Machine.invariant_run (I := fun sys => sys.store.Revoked key) (step deployment)
    (fun _ action h => revoked_step h action) h actions

/-- Every mark has a reason: a committed revocation, or one that is allowed. -/
def Justified (allowed : String → Prop) (sys : RevocationSystem) : Prop :=
  ∀ key, sys.store.Revoked key →
    (∃ id, key = receivedId id ∧ CommittedRevocation sys.blocks.flatten id) ∨ allowed key

lemma Justified.step {allowed : String → Prop} (h : sys.Justified allowed)
    (hinv : sys.Inv deployment.serde) {action : SystemAction}
    (hallowed : ∀ request id, action = .request request → request.Authorized id → allowed id) :
    (sys.step deployment action).1.Justified allowed := by
  obtain ⟨hextends, -⟩ := blocks_step deployment sys action
  obtain ⟨more, hblocks⟩ := hextends
  have hkeep : ∀ id, CommittedRevocation sys.blocks.flatten id →
      CommittedRevocation (sys.step deployment action).1.blocks.flatten id := by
    intro id hid
    rw [← hblocks, List.flatten_append]
    exact hid.append _
  have hold : ∀ key, sys.store.Revoked key →
      (∃ id, key = receivedId id ∧
        CommittedRevocation (sys.step deployment action).1.blocks.flatten id) ∨ allowed key := by
    intro key hkey
    rcases h key hkey with ⟨id, hid, hcommitted⟩ | hkey
    · exact .inl ⟨id, hid, hkeep id hcommitted⟩
    · exact .inr hkey
  have hnew : ∀ {key marked : String}, (sys.store.revoke marked).Revoked key →
      key = marked ∨ sys.store.Revoked key := by
    intro key marked hkey
    by_cases hne : key = marked
    · exact .inl hne
    · exact .inr ((SharedData.revoked_revoke_iff_of_ne hne).mp hkey)
  intro key hkey
  rcases store_step deployment sys action with hstore | ⟨id, hid, hstore⟩ |
    ⟨request, id, haction, hid, hstore⟩ <;> rw [hstore] at hkey
  · exact hold key hkey
  · rcases hnew hkey with rfl | hkey
    · exact .inl ⟨id, rfl, hkeep id (hinv.committed id (hinv.cached id (.inr hid)))⟩
    · exact hold key hkey
  · rcases hnew hkey with rfl | hkey
    · exact .inr (hallowed request key haction hid)
    · exact hold key hkey

/-- **No mark without a reason.**  In every state that is reached, whatever was lost and whoever
sent what to the edge in between: an id that is marked is what is left of the id of a committed
revocation, or there was a request of somebody else with the token that named it. -/
theorem store_sound (deployment : Deployment G) (actions : List SystemAction) :
    let sys := Machine.run (step deployment) start actions
    ∀ key, sys.store.Revoked key →
      (∃ id, key = receivedId id ∧ CommittedRevocation sys.blocks.flatten id) ∨
      ∃ request, SystemAction.request request ∈ actions ∧ request.Authorized key := by
  intro sys
  have hrun : ∀ (more : List SystemAction) (sys : RevocationSystem), sys.Inv deployment.serde →
      (∀ action ∈ more, action ∈ actions) →
      sys.Justified (fun key => ∃ request, SystemAction.request request ∈ actions ∧
        request.Authorized key) →
      (Machine.run (step deployment) sys more).Justified fun key =>
        ∃ request, SystemAction.request request ∈ actions ∧ request.Authorized key := by
    intro more
    induction more with
    | nil => exact fun sys _ _ h => h
    | cons action more ih =>
      intro sys hinv hmore h
      refine ih _ (hinv.step action) (fun a ha => hmore a (List.mem_cons_of_mem _ ha))
        (h.step hinv ?_)
      rintro request id rfl hid
      exact ⟨request, hmore _ List.mem_cons_self, hid⟩
  exact hrun actions start (inv_start _) (fun _ h => h) fun key hkey => by cases hkey

/-- **What the daemon has seen has come to the edge.**  In every state that is reached: where the
daemon waits for a message, each revocation that is committed in the blocks that it has received has
a report, of success or failure; there are reports of committed revocations only; and once a
revocation is reported as injected, and its id crosses unchanged, no request that names it passes in
any later state. -/
theorem revocation_delivered (deployment : Deployment G) (actions : List SystemAction) :
    let sys := Machine.run (step deployment) start actions
    (∀ position, sys.phase = .waiting position → ∀ id,
      CommittedRevocation (sys.blocks.take position).flatten id →
      id ∈ sys.listener.revocationCache ∧ ∃ injected, (id, injected) ∈ sys.reports) ∧
    (∀ id injected, (id, injected) ∈ sys.reports → CommittedRevocation sys.blocks.flatten id) ∧
    ∀ id, (id, true) ∈ sys.reports → (∀ c ∈ id.toList, survives c = true) →
      ∀ (more : List SystemAction) (request : HttpRequest),
        request.header "x-dzta-revocation-id" = some id →
        (onHttpRequestHeaders G deployment.pvk (Machine.run (step deployment) sys more).store
          request).2.action ≠ .Continue := by
  intro sys
  have hinv : sys.Inv deployment.serde := inv_run deployment actions
  refine ⟨fun position hphase id hid => ?_, fun id injected hid => ?_, ?_⟩
  · obtain ⟨event, hevent, hcredential⟩ :=
      (exists_deliveredEvents_iff hinv.valid deployment.serde position id).mpr hid
    obtain ⟨events, hevents, hreported⟩ := hinv.handled
    rw [hphase] at hevents hreported
    rw [show deliveredEvents sys.blocks position = events from
      hevents.trans (List.append_nil events)] at hevent
    have hreport := (hreported event hevent id hcredential).resolve_right (by rintro ⟨⟩)
    exact ⟨hinv.cached id (.inl hreport), hreport⟩
  · exact hinv.committed id (hinv.cached id (.inl ⟨injected, hid⟩))
  · intro id hid hsurvives more request hheader
    obtain ⟨-, hrevoked⟩ := hinv.injected id hid
    rw [receivedId_eq_self_iff.mpr hsurvives] at hrevoked
    exact not_continue_of_revoked (revoked_of_run hrevoked more) hheader

end Marks

/-! ## The loop of the daemon

The attempts of one call are steps of the system, with the requests of others between them. -/

section Loop

variable {setup : List (Constraint Fr)} {G : Groth16 setup} (deployment : Deployment G)
  (fates : ℕ → AttemptFate) (others : ℕ → List HttpRequest)

/-- A request of the `k`-th attempt, with the store of the edge. -/
def sendAttempt (request : OutgoingRequest) : SharedData × ℕ → (SharedData × ℕ) × Option ℕ
  | (store, k) =>
    match fates k with
    | .lost => ((store, k), none)
    | .unanswered fails =>
      let (store', _) := onHttpRequestHeaders G deployment.pvk store
        (arrival deployment.stack deployment.config fails request)
      ((store', k), none)
    | .answered fails =>
      let (store', outcome) := onHttpRequestHeaders G deployment.pvk store
        (arrival deployment.stack deployment.config fails request)
      ((store', k), outcome.response.map fun response => response.status)

/-- The pause after the `k`-th attempt, in which others send requests to the edge. -/
def pauseAttempt (_ : ℕ) : SharedData × ℕ → SharedData × ℕ
  | (store, k) => (Machine.run (onHttpRequestHeaders G deployment.pvk) store (others k), k + 1)

lemma run_requests (sys : RevocationSystem) (requests : List HttpRequest) :
    Machine.run (step deployment) sys (requests.map .request) =
      { sys with
        store := Machine.run (onHttpRequestHeaders G deployment.pvk) sys.store requests } := by
  induction requests generalizing sys with
  | nil => rfl
  | cons request requests ih =>
    rw [List.map_cons, Machine.run_cons, ih]
    rfl

/-- Rounds of the loop as steps of the system. -/
lemma exists_actions_of_attempts {attempt : SharedData × ℕ → (SharedData × ℕ) × Option ℕ}
    {credentialId : String}
    (hattempt : ∀ store k, attempt (store, k) =
      (((send deployment store credentialId (fates k)).1, k),
        (send deployment store credentialId (fates k)).2))
    (position : ℕ) (events : List ChaincodeEvent) (retries delay : ℕ) (sys : RevocationSystem)
    (k : ℕ) :
    let world := syncAttempts attempt (pauseAttempt deployment others) (retries + 1) delay
      (sys.store, k)
    ∃ actions, Machine.run (step deployment)
        { sys with phase := .syncing position events credentialId (retries + 1) delay } actions =
      { sys with
        store := world.1.1
        phase := .handling position events
        reports := sys.reports ++ [(credentialId, world.2)] } := by
  induction retries generalizing delay sys k with
  | zero =>
    rw [syncAttempts, hattempt]
    dsimp only
    by_cases hsuccess : (send deployment sys.store credentialId (fates k)).2.any isSuccess = true
    · refine ⟨[.attempt (fates k)], ?_⟩
      rw [if_pos hsuccess, Machine.run_cons, Machine.run_nil]
      simp only [step, RevocationSystem.attempt, if_pos hsuccess]
    · refine ⟨.attempt (fates k) :: (others k).map .request, ?_⟩
      rw [if_neg hsuccess, Machine.run_cons, run_requests, syncAttempts]
      simp only [step, RevocationSystem.attempt, if_neg hsuccess, if_true, pauseAttempt]
  | succ retries ih =>
    rw [syncAttempts, hattempt]
    dsimp only
    by_cases hsuccess : (send deployment sys.store credentialId (fates k)).2.any isSuccess = true
    · refine ⟨[.attempt (fates k)], ?_⟩
      rw [if_pos hsuccess, Machine.run_cons, Machine.run_nil]
      simp only [step, RevocationSystem.attempt, if_pos hsuccess]
    · obtain ⟨actions, hactions⟩ := ih (min (delay * 2) 5000)
        { sys with
          store := Machine.run (onHttpRequestHeaders G deployment.pvk)
            (send deployment sys.store credentialId (fates k)).1 (others k) } (k + 1)
      refine ⟨.attempt (fates k) :: ((others k).map .request ++ actions), ?_⟩
      rw [if_neg hsuccess, Machine.run_cons, Machine.run_append, run_requests]
      simp only [step, RevocationSystem.attempt, if_neg hsuccess, Nat.succ_ne_zero, if_false,
        pauseAttempt]
      exact hactions

/-- **The steps of the system are those of the code.**  Whatever becomes of the requests and whoever
sends what to the edge in the pauses, a run of `sync_to_envoy_memory` is a run of the system, from
where it begins to where it has reported what it returns. -/
theorem exists_actions_of_sync (position : ℕ) (events : List ChaincodeEvent) (credentialId : String)
    (sys : RevocationSystem) :
    let world := syncToEnvoyMemory (sendAttempt deployment fates) (pauseAttempt deployment others)
      deployment.wasmAdminToken credentialId (sys.store, 0)
    ∃ actions, Machine.run (step deployment)
        { sys with phase := .syncing position events credentialId 5 500 } actions =
      { sys with
        store := world.1.1
        phase := .handling position events
        reports := sys.reports ++ [(credentialId, world.2)] } := by
  refine exists_actions_of_attempts deployment fates others (fun store k => ?_) position events 4
    500 sys 0
  cases hrequest : syncRequest deployment.wasmAdminToken credentialId with
  | none => simp only [send, hrequest]
  | some request =>
    cases hfate : fates k <;> simp only [send, hrequest, sendAttempt, hfate]

end Loop

/-! ## Catching up

The daemon hands over what is left of a message, and reads the whole chain again after the end of a
stream. -/

section CatchUp

variable {setup : List (Constraint Fr)} {G : Groth16 setup} {deployment : Deployment G}
  {sys sys' : RevocationSystem}

/-- The edge answers with success wherever something is left of the id. -/
def Works (deployment : Deployment G) : Prop :=
  ∀ store id, receivedId id ≠ "" →
    (send deployment store id (.answered false)).2.any isSuccess = true

variable (deployment) in
/-- The daemon takes the system from one state to another one. -/
def Reaches (sys sys' : RevocationSystem) : Prop :=
  ∃ actions, (∀ action ∈ actions, action.OfDaemon) ∧
    Machine.run (step deployment) sys actions = sys'

lemma Reaches.refl (sys : RevocationSystem) : Reaches deployment sys sys :=
  ⟨[], fun _ h => absurd h List.not_mem_nil, rfl⟩

lemma Reaches.trans {sys'' : RevocationSystem} (h : Reaches deployment sys sys')
    (h' : Reaches deployment sys' sys'') : Reaches deployment sys sys'' := by
  obtain ⟨actions, hactions, rfl⟩ := h
  obtain ⟨more, hmore, rfl⟩ := h'
  refine ⟨actions ++ more, fun action haction => ?_, Machine.run_append ..⟩
  rcases List.mem_append.mp haction with haction | haction
  · exact hactions action haction
  · exact hmore action haction

lemma Reaches.single (action : SystemAction) (haction : action.OfDaemon)
    (h : (sys.step deployment action).1 = sys') : Reaches deployment sys sys' :=
  ⟨[action], fun a ha => by rwa [List.mem_singleton.mp ha], h⟩

lemma Reaches.blocks (h : Reaches deployment sys sys') : sys'.blocks = sys.blocks := by
  obtain ⟨actions, hactions, rfl⟩ := h
  induction actions generalizing sys with
  | nil => rfl
  | cons action actions ih =>
    rw [Machine.run_cons, ih fun a ha => hactions a (List.mem_cons_of_mem _ ha)]
    refine (blocks_step deployment sys action).2 ?_
    rintro block hvalid rfl
    exact hactions _ List.mem_cons_self

lemma Reaches.revoked (h : Reaches deployment sys sys') {key : String}
    (hkey : sys.store.Revoked key) : sys'.store.Revoked key := by
  obtain ⟨actions, -, rfl⟩ := h
  exact revoked_of_run hkey actions

lemma reaches_attempt {position : ℕ} {events : List ChaincodeEvent} {credentialId : String}
    {retries delay : ℕ} (fate : AttemptFate)
    (hphase : sys.phase = .syncing position events credentialId (retries + 1) delay) :
    Reaches deployment sys
      (sys.attempt deployment position events credentialId retries delay fate) :=
  .single (.attempt fate) trivial (by simp only [step, hphase])

/-- Handing over an id comes to an end, with success if something is left of the id. -/
lemma exists_handling (hworks : Works deployment) {position : ℕ} {events : List ChaincodeEvent}
    {credentialId : String} {retries delay : ℕ}
    (hphase : sys.phase = .syncing position events credentialId (retries + 1) delay) :
    ∃ sys', Reaches deployment sys sys' ∧ sys'.phase = .handling position events ∧
      (receivedId credentialId ≠ "" → sys'.store.Revoked (receivedId credentialId)) := by
  by_cases hne : receivedId credentialId = ""
  · induction retries generalizing sys delay with
    | zero =>
      refine ⟨_, reaches_attempt .lost hphase, ?_, fun h => absurd hne h⟩
      rcases attempt_cases deployment sys position events credentialId 0 delay
        .lost with ⟨_, -, hnext⟩ | ⟨hpos, -⟩
      · rw [hnext]
      · exact absurd hpos (lt_irrefl 0)
    | succ retries ih =>
      rcases attempt_cases deployment sys position events credentialId
        (retries + 1) delay .lost with ⟨_, -, hnext⟩ | ⟨-, hnext⟩
      · exact ⟨_, reaches_attempt .lost hphase, by rw [hnext], fun h => absurd hne h⟩
      · obtain ⟨sys', hreach, h⟩ := ih (congrArg RevocationSystem.phase hnext)
        exact ⟨sys', (reaches_attempt .lost hphase).trans hreach, h⟩
  · have hsuccess := hworks sys.store credentialId hne
    obtain ⟨-, hmarked⟩ := (send_cases deployment sys.store credentialId
      (.answered false)).2 hsuccess
    refine ⟨_, reaches_attempt (.answered false) hphase, ?_, fun _ => ?_⟩ <;>
      simp only [attempt, hsuccess, if_true, hmarked]
    exact SharedData.revoked_revoke _ _

/-- The rest of a message is handled, and what it revokes is marked. -/
lemma exists_waiting (hworks : Works deployment) {position : ℕ} {events : List ChaincodeEvent}
    (hphase : sys.phase = .handling position events) :
    ∃ sys', Reaches deployment sys sys' ∧ sys'.phase = .waiting position ∧
      ∀ event ∈ events, ∀ id,
        (FabricRevocationListener.handle deployment.serde event).credentialId? = some id →
        receivedId id ≠ "" → sys'.store.Revoked (receivedId id) := by
  induction events generalizing sys with
  | nil =>
    refine ⟨{ sys with phase := .waiting position }, .single .handle trivial ?_, rfl, ?_⟩
    · simp only [step, hphase]
    · exact fun event hevent => absurd hevent List.not_mem_nil
  | cons event events ih =>
    have hhandle : Reaches deployment sys (sys.handleEvent deployment position event events) :=
      .single .handle trivial (by simp only [step, hphase])
    -- the id of the event is handed over first, if there is one
    obtain ⟨next, hnext, hnextPhase, hmarked⟩ : ∃ next, Reaches deployment sys next ∧
        next.phase = .handling position events ∧ ∀ id,
          (FabricRevocationListener.handle deployment.serde event).credentialId? = some id →
          receivedId id ≠ "" → next.store.Revoked (receivedId id) := by
      cases hid : (FabricRevocationListener.handle deployment.serde event).credentialId? with
      | none =>
        refine ⟨_, hhandle, ?_, fun id h => by cases h⟩
        simp only [handleEvent, hid]
      | some credentialId =>
        have hsyncing : (sys.handleEvent deployment position event events).phase =
            .syncing position events credentialId (4 + 1) 500 := by
          simp only [handleEvent, hid]
        obtain ⟨next, hreach, hnextPhase, hmarked⟩ := exists_handling hworks hsyncing
        refine ⟨next, hhandle.trans hreach, hnextPhase, ?_⟩
        rintro id ⟨⟩
        exact hmarked
    obtain ⟨sys', hreach, hwaiting, hrest⟩ := ih hnextPhase
    refine ⟨sys', hnext.trans hreach, hwaiting, fun e he id hid hne => ?_⟩
    rcases List.mem_cons.mp he with rfl | he
    · exact hreach.revoked (hmarked id hid hne)
    · exact hrest e he id hid hne

/-- From everywhere the daemon comes to wait for a message, or to connect. -/
lemma exists_idle (hworks : Works deployment) (hinv : sys.Inv deployment.serde) :
    ∃ sys', Reaches deployment sys sys' ∧
      (sys'.phase = .connecting ∨ ∃ position, sys'.phase = .waiting position) := by
  cases hphase : sys.phase with
  | connecting => exact ⟨sys, .refl sys, .inl hphase⟩
  | waiting position => exact ⟨sys, .refl sys, .inr ⟨position, hphase⟩⟩
  | handling position events =>
    obtain ⟨next, hnext, hnextPhase, -⟩ := exists_waiting hworks hphase
    exact ⟨next, hnext, .inr ⟨position, hnextPhase⟩⟩
  | syncing position events credentialId retries delay =>
    obtain ⟨retries, rfl⟩ :=
      Nat.exists_eq_add_one.mpr (hinv.retrying _ _ _ _ _ hphase)
    obtain ⟨next, hnext, hnextPhase, -⟩ := exists_handling hworks hphase
    obtain ⟨sys', hreach, hphase', -⟩ := exists_waiting hworks hnextPhase
    exact ⟨sys', hnext.trans hreach, .inr ⟨position, hphase'⟩⟩

/-- When the peer has ended its stream, the daemon can connect again. -/
lemma exists_connected (hidle : sys.phase = .connecting ∨ ∃ position, sys.phase = .waiting position)
    (gracefully : Bool) : ∃ sys', Reaches deployment
      (sys.step deployment (.streamEnds gracefully)).1 sys' ∧ sys'.phase = .waiting 0 := by
  have hconnecting : (sys.step deployment (.streamEnds gracefully)).1.phase = .connecting := by
    rcases hidle with h | ⟨position, h⟩
    · cases gracefully <;> simp only [step, h]
    · cases gracefully <;> simp only [step, h, backOff]
  generalize (sys.step deployment (.streamEnds gracefully)).1 = ended at hconnecting ⊢
  exact ⟨{ ended with phase := .waiting 0 },
    .single (.connect true) trivial (by simp only [step, hconnecting]), rfl⟩

/-- The first messages of a stream are handled. -/
lemma exists_position (hworks : Works deployment) (hphase : sys.phase = .waiting 0) {n : ℕ}
    (hn : n ≤ sys.blocks.length) :
    ∃ sys', Reaches deployment sys sys' ∧ sys'.phase = .waiting n ∧
      ∀ event ∈ deliveredEvents sys.blocks n, ∀ id,
        (FabricRevocationListener.handle deployment.serde event).credentialId? = some id →
        receivedId id ≠ "" → sys'.store.Revoked (receivedId id) := by
  induction n with
  | zero => exact ⟨sys, .refl sys, hphase, fun event hevent => absurd hevent List.not_mem_nil⟩
  | succ n ih =>
    obtain ⟨next, hnext, hnextPhase, hmarked⟩ := ih (Nat.le_of_succ_le hn)
    obtain ⟨message, hmessage⟩ : ∃ message, next.messages[n]? = some message := by
      refine ⟨_, List.getElem?_eq_getElem ?_⟩
      rw [messages, length_deliverBlocks, hnext.blocks]
      exact hn
    have hdeliver : Reaches deployment next
        { next with phase := .handling (n + 1) message.events } :=
      .single .deliver trivial (by simp only [step, hnextPhase, hmessage])
    obtain ⟨sys', hreach, hwaiting, hhandled⟩ := exists_waiting hworks
      (show RevocationSystem.phase { next with phase := .handling (n + 1) message.events } =
        .handling (n + 1) message.events from rfl)
    refine ⟨sys', hnext.trans (hdeliver.trans hreach), hwaiting, fun event hevent id hid hne => ?_⟩
    rw [messages, hnext.blocks] at hmessage
    rw [deliveredEvents_succ hmessage] at hevent
    rcases List.mem_append.mp hevent with hevent | hevent
    · exact (hdeliver.trans hreach).revoked (hmarked event hevent id hid hne)
    · exact hhandled event hevent id hid hne

/-- **The edge can always be brought up to date.**  Where the edge answers, the daemon has a way
from every state that is reached to one in which it waits for a message or for a connection; and
when the peer has ended the stream there, one to a state in which every committed revocation is
marked as far as something is left of its id, whatever was lost before. -/
theorem exists_catch_up (deployment : Deployment G) (hworks : Works deployment)
    (actions : List SystemAction) :
    let sys := Machine.run (step deployment) start actions
    ∃ before, (∀ action ∈ before, action.OfDaemon) ∧
      let idle := Machine.run (step deployment) sys before
      (idle.phase = .connecting ∨ ∃ position, idle.phase = .waiting position) ∧
      ∀ gracefully, ∃ after, (∀ action ∈ after, action.OfDaemon) ∧
        let sys' := Machine.run (step deployment) idle (.streamEnds gracefully :: after)
        sys'.blocks = sys.blocks ∧ ∀ id, CommittedRevocation sys.blocks.flatten id →
          receivedId id ≠ "" → sys'.store.Revoked (receivedId id) := by
  intro sys
  have hinv : sys.Inv deployment.serde := inv_run deployment actions
  obtain ⟨idle, hreachIdle, hidle⟩ := exists_idle hworks hinv
  have hblocksIdle := hreachIdle.blocks
  obtain ⟨before, hbefore, hrunIdle⟩ := hreachIdle
  refine ⟨before, hbefore, by rwa [hrunIdle], fun gracefully => ?_⟩
  obtain ⟨connected, hconnected, hphase⟩ : ∃ connected, Reaches deployment
      (idle.step deployment (.streamEnds gracefully)).1 connected ∧ connected.phase = .waiting 0 :=
    exists_connected hidle gracefully
  have hended := (blocks_step deployment idle (.streamEnds gracefully)).2 fun _ _ h => by cases h
  have hblocks : connected.blocks = sys.blocks :=
    (hconnected.blocks.trans hended).trans hblocksIdle
  obtain ⟨sys', hreach, -, hmarked⟩ := exists_position hworks hphase le_rfl
  obtain ⟨after, hafter, hrun⟩ := hconnected.trans hreach
  refine ⟨after, hafter, ?_⟩
  dsimp only
  rw [hrunIdle, Machine.run_cons, hrun]
  refine ⟨hreach.blocks.trans hblocks, fun id hid hne => ?_⟩
  rw [hblocks] at hmarked
  obtain ⟨event, hevent, hcredential⟩ :=
    (exists_deliveredEvents_iff hinv.valid deployment.serde sys.blocks.length id).mpr
      (by rwa [List.take_length])
  exact hmarked event hevent id hcredential hne

/-- The daemon and the listener of one machine, with the default token. -/
def localDeployment (pvk : Option G.VerifyingKey) (serde : SerdeJson) : Deployment G :=
  ⟨pvk, serde, UrlStack.direct, adminConfig, none⟩

lemma works_localDeployment (pvk : Option G.VerifyingKey) (serde : SerdeJson) :
    Works (localDeployment (G := G) pvk serde) := by
  intro store id hne
  have hanswered := answered_direct G pvk hne (syncRequest_default id) store
  have hsend : send (localDeployment pvk serde) store id (.answered false) =
      (store.revoke (receivedId id), some 200) := by
    simp only [send, localDeployment, syncRequest_default, hanswered]
    rfl
  rw [hsend]
  rfl

lemma blocks_run_order (blocks : List (List Transaction))
    (hvalid : ∀ block ∈ blocks, ∀ t ∈ block, t.operation.ValidArguments)
    (sys : RevocationSystem) :
    (Machine.run (step deployment) sys (blocks.pmap SystemAction.order hvalid)).blocks =
      sys.blocks ++ blocks := by
  induction blocks generalizing sys with
  | nil => exact (List.append_nil sys.blocks).symm
  | cons block blocks ih =>
    rw [List.pmap_cons, Machine.run_cons, ih]
    exact List.append_assoc sys.blocks [block] blocks

/-- A credential is recorded and revoked, and the daemon connects. -/
def recordRevokeActions : List SystemAction :=
  (recordRevokeBlocks "vc-1").pmap SystemAction.order (valid_recordRevokeBlocks "vc-1") ++
    [.connect true]

def referenceDeployment : Deployment referenceGroth16 := localDeployment (some ()) .strict

/-- A credential whose revocation the daemon has not been told of yet. -/
theorem exists_catch_up_local :
    ∃ before, (∀ action ∈ before, action.OfDaemon) ∧
      ∃ after, (∀ action ∈ after, action.OfDaemon) ∧
        (Machine.run (step referenceDeployment)
          (Machine.run (step referenceDeployment) start recordRevokeActions)
          (before ++ .streamEnds false :: after)).store.Revoked "vc-1" := by
  have hworks : Works referenceDeployment := works_localDeployment referenceDeployment.pvk .strict
  have hself : receivedId "vc-1" = "vc-1" :=
    receivedId_eq_self_iff.mpr (List.all_iff_forall_prop.mp (by decide))
  have hblocks : (Machine.run (step referenceDeployment) start recordRevokeActions).blocks =
      recordRevokeBlocks "vc-1" := by
    rw [recordRevokeActions, Machine.run_append, Machine.run_cons, Machine.run_nil,
      (blocks_step _ _ (.connect true)).2 (fun _ _ h => by cases h), blocks_run_order]
    rfl
  have hcommitted : CommittedRevocation (recordRevokeBlocks "vc-1").flatten "vc-1" := by
    refine CommittedRevocation.of_take (n := 2) ?_
    rw [CommittedRevocation, committed_recordRevokeBlocks]
    exact (exists_revoke_iff "vc-1" "vc-1").mpr rfl
  obtain ⟨before, hbefore, -, hcatchUp⟩ :=
    exists_catch_up referenceDeployment hworks recordRevokeActions
  obtain ⟨after, hafter, -, hmarked⟩ := hcatchUp false
  have hrevoked := hmarked "vc-1" (by rw [hblocks]; exact hcommitted)
    (by rw [hself]; decide)
  rw [hself] at hrevoked
  exact ⟨before, hbefore, after, hafter, by rwa [Machine.run_append]⟩

end CatchUp

end RevocationSystem

end DZTA
