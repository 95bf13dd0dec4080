import Dzta.Daemon.Revocation
import Dzta.Edge.Filter
import Dzta.Library.Url
import Dzta.Prover.Gramine

/-!
# From the daemon to the edge

The daemon puts the id of a revoked credential into the query of a URL as it is, and the edge filter
reads it up to the next separator and does not decode it.  What arrives in between is the query as a
client sends it.  So the edge marks **what is left of the id** (`receivedId`): cut off at the first
separator, and with escapes for the characters that may not stand in a query
(`store_of_answered`).

**`revokesExactly_iff`** says for which ids this is the id itself, so that a request that is
answered with success revokes the credential and no other.  The edge answers with success also for
the others, and the daemon reports it (`marked_of_synced`).
-/

namespace DZTA

open R1CS

/-! ## The request

The id stands in the query of the request as it is, and the edge takes it apart at the
separators. -/

/-- The request of `sync_to_envoy_memory`. -/
def syncRequest (wasmAdminToken : Option String) (credentialId : String) :
    Option OutgoingRequest :=
  withHeader "X-Wasm-Admin-Token" (wasmAdminToken.getD "dzta-secure-edge-admin-token-2026")
    (some ⟨"POST", "http://127.0.0.1:9099/_wasm_admin/revoke?id=" ++ credentialId, []⟩)

/-- The characters that end an id in a query. -/
def separators : List Char := ['=', '&', '?', '#']

/-- What the edge reads where the daemon has written an id. -/
def receivedId (credentialId : String) : String :=
  String.ofList (Url.encode ((Url.strip credentialId.toList).takeWhile fun c => c ∉ separators))

/-- The address of the administrative listener. -/
def adminOrigin : String := "http://127.0.0.1:9099"

lemma isOrigin_adminOrigin : IsOrigin adminOrigin :=
  ⟨"http", by simp, "127.0.0.1:9099", by decide, List.all_iff_forall_prop.mp (by decide),
    by decide⟩

lemma cleanPath_adminPath : CleanPath adminPath :=
  ⟨by decide, List.all_iff_forall_prop.mp (by decide)⟩

lemma url_of_syncRequest {token : Option String} {id : String} {request : OutgoingRequest}
    (h : syncRequest token id = some request) :
    request.url = adminOrigin ++ (adminPath ++ "?" ++ ("id=" ++ id)) := by
  have hurl : "http://127.0.0.1:9099/_wasm_admin/revoke?id=" ++ id =
      adminOrigin ++ (adminPath ++ "?" ++ ("id=" ++ id)) := by
    rw [← String.append_assoc, ← String.append_assoc, ← String.append_assoc]
    rfl
  rw [syncRequest, withHeader, Option.bind_some] at h
  split at h
  · rw [← Option.some.inj h]
    exact hurl
  · cases h

/-- Reading up to a separator, the edge finds what is left of the id. -/
lemma targetId_sync (id : String) :
    targetId (adminPath ++ "?" ++ Url.sentQuery ("id=" ++ id)) = some (receivedId id) := by
  have hname : ∀ c ∈ "id=".toList, Url.isQueryChar c = true :=
    List.all_iff_forall_prop.mp (by decide)
  have hescape : ∀ c ∈ Url.escapeChars, decide (c ∉ ['=', '&', '?']) = true :=
    List.all_iff_forall_prop.mp (by decide)
  have hsep : ∀ c ∈ ['=', '&', '?'], Url.isQueryChar c = true :=
    List.all_iff_forall_prop.mp (by decide)
  rw [Url.sentQuery_append hname, targetId_query (by decide), Url.sentQuery, String.toList_ofList,
    Url.takeWhile_encode hescape fun c hc => hsep c (not_not.mp (of_decide_eq_false hc)),
    List.takeWhile_takeWhile, receivedId]
  simp [separators, Bool.and_assoc]

/-! ## What the edge marks

A request that gets through marks what the edge has made of the id. -/

/-- `StatusCode::is_success`: the codes from 200 to 299. -/
def isSuccess (status : ℕ) : Bool := 200 ≤ status && status < 300

/-- A request as it arrives at the filter. -/
def arrival (stack : UrlStack) (config : PluginConfig) (setSharedDataFails : Bool)
    (request : OutgoingRequest) : HttpRequest :=
  ⟨config, stack.receive request, setSharedDataFails⟩

lemma path_arrival (stack : UrlStack) (config : PluginConfig) (fails : Bool) {token : Option String}
    {id : String} {request : OutgoingRequest} (h : syncRequest token id = some request) :
    (arrival stack config fails request).path =
      adminPath ++ "?" ++ Url.sentQuery ("id=" ++ id) := by
  rw [HttpRequest.path, HttpRequest.header, arrival,
    stack.query request _ _ _ isOrigin_adminOrigin cleanPath_adminPath (url_of_syncRequest h),
    Option.getD_some]

section Edge

variable {setup : List (Constraint Fr)} {G : Groth16 setup} {pvk : Option G.VerifyingKey}

/-- **A request that is answered with success marks what is left of the id.** -/
theorem store_of_answered {stack : UrlStack} {config : PluginConfig} {fails : Bool}
    {token : Option String} {id : String} {request : OutgoingRequest}
    (h : syncRequest token id = some request) {store : SharedData} {response : HttpResponse}
    (hsuccess : isSuccess response.status = true)
    (hanswered : (onHttpRequestHeaders G pvk store
      (arrival stack config fails request)).2.response = some response) :
    receivedId id ≠ "" ∧
      (onHttpRequestHeaders G pvk store (arrival stack config fails request)).1 =
        store.revoke (receivedId id) := by
  rcases step_cases store (arrival stack config fails request) with
    ⟨marked, ⟨-, -, -, htarget, hne⟩, hstep⟩ | ⟨-, hstep⟩ | ⟨_, _, hstatus, -, hstep⟩
  · rw [path_arrival stack config fails h, targetId_sync] at htarget
    obtain rfl := Option.some.inj htarget
    exact ⟨hne, by rw [hstep]⟩
  · rw [hstep] at hanswered
    cases hanswered
  · rw [hstep] at hanswered
    cases hanswered
    simp only [isSuccess, Bool.and_eq_true, decide_eq_true_eq] at hsuccess
    exact absurd (hstatus.trans_lt hsuccess.2) (by norm_num)

/-- The configuration of a listener that takes the requests of the daemon. -/
def adminConfig : PluginConfig := ⟨"admin_enabled", "dzta-secure-edge-admin-token-2026"⟩

lemma syncRequest_default (id : String) : syncRequest none id =
    some ⟨"POST", "http://127.0.0.1:9099/_wasm_admin/revoke?id=" ++ id,
      [("X-Wasm-Admin-Token", "dzta-secure-edge-admin-token-2026")]⟩ := by
  rw [syncRequest, withHeader, Option.bind_some, if_pos (by decide)]
  rfl

variable (G pvk) in
/-- An id of which something is left is answered with success. -/
lemma answered_direct {id : String} (hne : receivedId id ≠ "") {request : OutgoingRequest}
    (h : syncRequest none id = some request) (store : SharedData) :
    onHttpRequestHeaders G pvk store (arrival UrlStack.direct adminConfig false request) =
      (store.revoke (receivedId id), respond 200 "OK: Credential Revocation Recorded\n") := by
  have hpath := path_arrival UrlStack.direct adminConfig false h
  have hadmin : (arrival UrlStack.direct adminConfig false request).isAdmin = true := by
    rw [HttpRequest.isAdmin, hpath, String.append_assoc, String.toList_append,
      List.isPrefixOf_iff_prefix]
    exact List.prefix_append _ _
  have htoken : (arrival UrlStack.direct adminConfig false request).header "X-Wasm-Admin-Token" =
      some adminConfig.adminToken := by
    have hname : ¬ sameHeader ":path" "X-Wasm-Admin-Token" = true := by decide
    rw [syncRequest_default] at h
    rw [← Option.some.inj h, HttpRequest.header, arrival, UrlStack.direct, findHeader_cons,
      if_neg hname, findHeader_cons, if_pos (by decide), adminConfig]
  have hconfig : (arrival UrlStack.direct adminConfig false request).config = adminConfig := rfl
  rw [onHttpRequestHeaders, if_pos hadmin, handleAdmin, hconfig, if_neg (by decide)]
  dsimp only
  rw [htoken, Option.getD_some, if_neg (by decide), hpath, targetId_sync, Option.filter_some,
    if_pos (decide_eq_true hne)]
  rfl

end Edge

/-! ## Attempts

An attempt that fails is repeated after a pause. -/

section Attempts

variable {σ : Type}

/-- The loop of `sync_to_envoy_memory`, with what an attempt and a pause do to the world.  An
attempt has the status of an answer, if there is one; pauses are in milliseconds and get longer. -/
def syncAttempts (attempt : σ → σ × Option ℕ) (sleep : ℕ → σ → σ) :
    (retries delay : ℕ) → σ → σ × Bool
  | 0, _, world => (world, false)
  | retries + 1, delay, world =>
    if (attempt world).2.any isSuccess then ((attempt world).1, true)
    else syncAttempts attempt sleep retries (min (delay * 2) 5000) (sleep delay (attempt world).1)

/-- `sync_to_envoy_memory`: the world that it leaves behind, and whether it reports that the
revocation was injected.  A token that is no header value spoils every attempt. -/
def syncToEnvoyMemory (send : OutgoingRequest → σ → σ × Option ℕ) (sleep : ℕ → σ → σ)
    (wasmAdminToken : Option String) (credentialId : String) (world : σ) : σ × Bool :=
  let attempt := fun world =>
    match syncRequest wasmAdminToken credentialId with
    | some request => send request world
    | none => (world, none)
  syncAttempts attempt sleep 5 500 world

/-- A loop that reports success ends with an attempt that was answered with success. -/
lemma exists_attempt {attempt : σ → σ × Option ℕ} {sleep : ℕ → σ → σ} {retries delay : ℕ}
    {world world' : σ} (h : syncAttempts attempt sleep retries delay world = (world', true)) :
    ∃ before status, attempt before = (world', some status) ∧ isSuccess status = true := by
  induction retries generalizing delay world with
  | zero =>
    rw [syncAttempts] at h
    cases h
  | succ retries ih =>
    rw [syncAttempts] at h
    split at h
    · rename_i hsuccess
      obtain ⟨status, hstatus, hok⟩ := (Option.any_eq_true _ _).mp hsuccess
      refine ⟨world, status, ?_, hok⟩
      rw [← (Prod.mk.inj h).1, ← hstatus]
    · exact ih h

end Attempts

/-- **What the daemon reports**: if it says that the revocation of an id was injected, the edge has
marked what is left of the id, whatever went on at the edge during the pauses. -/
theorem marked_of_synced {setup : List (Constraint Fr)} {G : Groth16 setup}
    {pvk : Option G.VerifyingKey} {stack : UrlStack} {config : PluginConfig} {σ : Type}
    {store : σ → SharedData} {send : OutgoingRequest → σ → σ × Option ℕ} {sleep : ℕ → σ → σ}
    (hsend : ∀ request world status, (send request world).2 = some status →
      ∃ fails response, response.status = status ∧
        onHttpRequestHeaders G pvk (store world) (arrival stack config fails request) =
          (store (send request world).1, ⟨.Pause, some response⟩))
    {token : Option String} {id : String} {world world' : σ}
    (h : syncToEnvoyMemory send sleep token id world = (world', true)) :
    receivedId id ≠ "" ∧ (store world').Revoked (receivedId id) := by
  obtain ⟨before, status, hattempt, hok⟩ := exists_attempt h
  cases hrequest : syncRequest token id with
  | none =>
    rw [hrequest] at hattempt
    cases hattempt
  | some request =>
    rw [hrequest] at hattempt
    dsimp only at hattempt
    obtain ⟨fails, response, rfl, hstep⟩ := hsend request before status (by rw [hattempt])
    obtain ⟨hne, hstore⟩ := store_of_answered hrequest hok (by rw [hstep])
    rw [hstep, hattempt] at hstore
    refine ⟨hne, ?_⟩
    rw [show store world' = _ from hstore]
    exact SharedData.revoked_revoke _ _

/-! ## Which ids arrive

An id arrives unchanged exactly if it has none of the characters that are dropped or cut at. -/

/-- A character that stands for itself in a query and does not end an id. -/
def survives (c : Char) : Bool := Url.isQueryChar c && decide (c ∉ separators)

/-- The ids that arrive as they are, and those of which nothing is left: a URL keeps nothing of
them, or something that starts with a separator. -/
def CrossesUnchanged (credentialId : String) : Prop :=
  (∀ c ∈ credentialId.toList, survives c = true) ∨
    ∀ c, (Url.strip credentialId.toList).head? = some c → c ∈ separators

lemma receivedId_eq_empty_iff {id : String} :
    receivedId id = "" ↔ ∀ c, (Url.strip id.toList).head? = some c → c ∈ separators := by
  rw [receivedId, ← String.ofList_nil, String.ofList_inj, Url.encode_eq_nil_iff]
  cases Url.strip id.toList with
  | nil => simp
  | cons c cs => simp [List.takeWhile_cons]

/-- Whatever the edge reads has surviving characters only. -/
lemma survives_of_mem_receivedId {id : String} {c : Char} (h : c ∈ (receivedId id).toList) :
    survives c = true := by
  rw [receivedId, String.toList_ofList] at h
  have hsep : ∀ d ∈ separators, d ∉ Url.escapeChars := List.all_iff_forall_prop.mp (by decide)
  have hquery := Url.isQueryChar_of_mem_encode h
  obtain ⟨d, hd, hc⟩ := List.mem_flatMap.mp h
  have hkeep := List.mem_takeWhile_imp hd
  rw [survives, hquery, Bool.true_and]
  refine decide_eq_true fun hmem => ?_
  cases hd' : Url.isQueryChar d with
  | true =>
    rw [Url.encodeChar_of_isQueryChar hd', List.mem_singleton] at hc
    rw [hc] at hmem
    exact absurd hmem (of_decide_eq_true hkeep)
  | false => exact hsep c hmem (Url.mem_escapeChars_of_mem_encodeChar hd' hc)

/-- **An id arrives as it is** exactly if all its characters survive. -/
theorem receivedId_eq_self_iff {id : String} :
    receivedId id = id ↔ ∀ c ∈ id.toList, survives c = true := by
  constructor
  · intro h c hc
    rw [← h] at hc
    exact survives_of_mem_receivedId hc
  · intro h
    have hquery : ∀ c ∈ id.toList, Url.isQueryChar c = true := fun c hc =>
      ((Bool.and_eq_true _ _).mp (h c hc)).1
    have hsep : ∀ c ∈ id.toList, decide (c ∉ separators) = true := fun c hc =>
      ((Bool.and_eq_true _ _).mp (h c hc)).2
    rw [receivedId, Url.strip_eq_self hquery, List.takeWhile_eq_self_iff.mpr hsep,
      Url.encode_eq_self hquery, String.ofList_toList]

/-! ## The claim of the answer

The answer is a success for every id of which something is left, also where the mark is for another
one. -/

section Exactly

variable {setup : List (Constraint Fr)} (G : Groth16 setup) (pvk : Option G.VerifyingKey)

/-- Wherever a request of the daemon for an id is answered with success, it has marked that
credential and nothing else: from then on no request that names it passes, and a request that names
another one is treated as before. -/
def RevokesExactly (credentialId : String) : Prop :=
  ∀ (stack : UrlStack) (config : PluginConfig) (fails : Bool) (token : Option String)
    (request : OutgoingRequest) (store : SharedData) (body : String),
    syncRequest token credentialId = some request →
    let step := onHttpRequestHeaders G pvk
    let marked := (step store (arrival stack config fails request)).1
    (step store (arrival stack config fails request)).2.response = some ⟨200, body⟩ →
      marked = store.revoke credentialId ∧
      (∀ requests later, later.header "x-dzta-revocation-id" = some credentialId →
        (step (Machine.run step marked requests) later).2.action ≠ .Continue) ∧
      ∀ later id', later.isAdmin = false → later.header "x-dzta-revocation-id" = some id' →
        id' ≠ credentialId → (step marked later).2 = (step store later).2

variable {G pvk}

/-- Marking a credential changes nothing for requests that name another one. -/
lemma outcome_revoke_of_ne {store : SharedData} {id id' : String} (hne : id' ≠ id)
    {later : HttpRequest} (hpublic : later.isAdmin = false)
    (hheader : later.header "x-dzta-revocation-id" = some id') :
    (onHttpRequestHeaders G pvk (store.revoke id) later).2 =
      (onHttpRequestHeaders G pvk store later).2 := by
  have hpublic' : ¬ later.isAdmin = true := by
    rw [hpublic]
    exact Bool.false_ne_true
  rw [onHttpRequestHeaders, onHttpRequestHeaders, if_neg hpublic', if_neg hpublic']
  refine handlePublic_congr fun named hnamed => ?_
  rw [hheader] at hnamed
  rw [← Option.some.inj hnamed]
  exact SharedData.revoked_revoke_iff_of_ne hne

/-- Where the answer is about the id itself and something is left of it, that is the id. -/
lemma RevokesExactly.receivedId_eq_self {id : String} (h : RevokesExactly G pvk id)
    (hne : receivedId id ≠ "") : receivedId id = id := by
  -- the token is the default one, and the store is empty before
  have hstep := answered_direct G pvk hne (syncRequest_default id) fun _ => none
  obtain ⟨hmarked, -⟩ := h UrlStack.direct adminConfig false none _ (fun _ => none) _
    (syncRequest_default id) (by rw [hstep]; rfl)
  rw [hstep] at hmarked
  have hrevoked := SharedData.revoked_revoke (fun _ => none) (receivedId id)
  rw [show SharedData.revoke (fun _ => none) (receivedId id) = _ from hmarked] at hrevoked
  by_contra hself
  rw [SharedData.revoked_revoke_iff_of_ne hself] at hrevoked
  cases hrevoked

/-- **Which ids cross from the daemon to the edge**: a request that is answered with success revokes
exactly the credential it was made for if and only if the id crosses unchanged. -/
theorem revokesExactly_iff (id : String) : RevokesExactly G pvk id ↔ CrossesUnchanged id := by
  constructor
  · intro h
    by_cases hne : receivedId id = ""
    · exact .inr (receivedId_eq_empty_iff.mp hne)
    · exact .inl (receivedId_eq_self_iff.mp (h.receivedId_eq_self hne))
  · intro h stack config fails token request store body hrequest step marked hanswered
    obtain ⟨hne, hmarked⟩ := store_of_answered hrequest rfl hanswered
    have hself : receivedId id = id := by
      rcases h with hsurvive | hnothing
      · exact receivedId_eq_self_iff.mpr hsurvive
      · exact absurd (receivedId_eq_empty_iff.mpr hnothing) hne
    rw [hself] at hmarked
    refine ⟨hmarked, fun requests later hheader => ?_, fun later id' hpublic hheader hne' => ?_⟩
    · have hrevoked : marked.Revoked id := by
        rw [show marked = _ from hmarked]
        exact store.revoked_revoke id
      exact not_continue_of_revoked (revoked_run hrevoked requests) hheader
    · rw [show marked = _ from hmarked]
      exact outcome_revoke_of_ne hne' hpublic hheader

end Exactly

/-- A credential that the chaincode records and revokes, and that the daemon takes from the event:
the edge answers with success and marks another one. -/
theorem not_revokesExactly_ampersand :
    (∃ event ∈ (ledger (recordRevoke (.ofString "vc-1&x"))).events.map Event.deliver,
      (FabricRevocationListener.handle .strict event).credentialId? = some "vc-1&x") ∧
    (∃ request, syncRequest none "vc-1&x" = some request ∧
      onHttpRequestHeaders referenceGroth16 (some ()) (fun _ => none)
          (arrival UrlStack.direct adminConfig false request) =
        (SharedData.revoke (fun _ => none) "vc-1",
          respond 200 "OK: Credential Revocation Recorded\n") ∧
      ¬ (SharedData.revoke (fun _ => none) "vc-1").Revoked "vc-1&x") ∧
    ¬ RevokesExactly referenceGroth16 (some ()) "vc-1&x" := by
  have hreceived : receivedId "vc-1&x" = "vc-1" := by decide
  have hne : receivedId "vc-1&x" ≠ "" := by
    rw [hreceived]
    decide
  have hstep := answered_direct referenceGroth16 (some ()) hne (syncRequest_default "vc-1&x")
    fun _ => none
  rw [hreceived] at hstep
  refine ⟨exists_event_recordRevoke .strict _, ⟨_, syncRequest_default _, hstep, by decide⟩,
    fun h => ?_⟩
  have hself := h.receivedId_eq_self hne
  rw [hreceived] at hself
  exact absurd hself (by decide)

end DZTA
