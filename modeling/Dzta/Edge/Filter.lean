import Dzta.Library.Base64
import Dzta.Library.Groth16
import Dzta.Library.Http
import Dzta.Library.Machine
import Dzta.Library.Rust
import Dzta.Library.SerdeJson
import Dzta.Zkp.ScalarField

/-!
# The edge filter

The filter that runs in the edge proxy on the headers of every request.  Requests on one path are
administrative: they mark a credential as revoked in a store that all contexts of the proxy share.
All others must carry a proof, its public inputs and the id of a credential that the store does not
mark.

**`edge_filter_runs`** is about whole runs, over contexts with any configuration: what a request may
change in the store, exactly when one is let through, and that a revocation that was answered with
success holds for the rest of the run.  What a single step can do is said once, for administrative
requests (`admin_cases`) and for all others (`public_cases`).  A proxy whose configuration does not
parse keeps its default, under which nothing is ever revoked (`run_of_onConfigure_error`).
-/

namespace DZTA

open R1CS

/-! ## Requests, answers and the store

What the host hands to the filter and takes from it, with the shared data that marks are kept in. -/

/-- `PluginConfig`: how the filter is set up; every member may be missing. -/
structure PluginConfig where
  mode : String := ""
  adminToken : String := ""
deriving DecidableEq

/-- The derived `Deserialize`, where both fields have a default. -/
def PluginConfig.deserialize : Json → Option PluginConfig
  | .obj ms => do
    some ⟨← Json.defaultField "mode" "" Json.asString? ms,
      ← Json.defaultField "admin_token" "" Json.asString? ms⟩
  | .arr [] => some {}
  | .arr [mode] => do some ⟨← mode.asString?, ""⟩
  | .arr [mode, adminToken] => do some ⟨← mode.asString?, ← adminToken.asString?⟩
  | _ => none

/-- `on_configure`: the configuration of the contexts made from now on. -/
def onConfigure (serde : SerdeJson) (config : PluginConfig) (pluginConfiguration : Option Bytes) :
    PluginConfig :=
  match pluginConfiguration with
  | none => config
  | some configBytes =>
    match serde.fromSlice PluginConfig.deserialize configBytes with
    | .ok parsed => parsed
    | .error _ => config

/-- A request as the filter meets it: the configuration of the context that handles it, its headers
with the pseudo-headers, and whether the proxy will fail to write to the store. -/
structure HttpRequest where
  config : PluginConfig
  headers : List (String × String)
  setSharedDataFails : Bool

/-- `get_http_request_header`: the value of a header, if there is one. -/
def HttpRequest.header (request : HttpRequest) (name : String) : Option String :=
  findHeader request.headers name

/-- `Action`: whether Envoy goes on with a request. -/
inductive Action where
  | Continue
  | Pause
deriving DecidableEq

/-- A local reply. -/
structure HttpResponse where
  status : ℕ
  body : String
deriving DecidableEq

/-- What the filter does with a request: let it pass, or answer it and pause. -/
structure Outcome where
  action : Action
  response : Option HttpResponse
deriving DecidableEq

/-- `send_http_response`, and `Action::Pause`. -/
def respond (status : ℕ) (body : String) : Outcome := ⟨.Pause, some ⟨status, body⟩⟩

/-- The store that all contexts share. -/
abbrev SharedData := String → Option Bytes

/-- The value that marks a revocation. -/
def revokedMark : Bytes := Bytes.utf8 "true"

/-- The key of a credential in the store. -/
def revokedKey (id : String) : String := "revoked." ++ id

/-- The store with a credential marked. -/
def SharedData.revoke (store : SharedData) (id : String) : SharedData :=
  Function.update store (revokedKey id) (some revokedMark)

/-- A credential is marked. -/
def SharedData.Revoked (store : SharedData) (id : String) : Prop :=
  store (revokedKey id) = some revokedMark

instance (store : SharedData) (id : String) : Decidable (store.Revoked id) :=
  inferInstanceAs (Decidable (_ = _))

lemma revokedKey_injective : Function.Injective revokedKey := by
  intro id id' h
  rw [revokedKey, revokedKey, ← String.toList_inj, String.toList_append, String.toList_append,
    List.append_cancel_left_eq, String.toList_inj] at h
  exact h

/-- A mark once set stays, whatever else is marked. -/
lemma SharedData.Revoked.revoke {store : SharedData} {id : String} (h : store.Revoked id)
    (id' : String) : (store.revoke id').Revoked id := by
  rw [SharedData.Revoked, SharedData.revoke]
  by_cases hid : id = id'
  · rw [hid, Function.update_self]
  · rw [Function.update_of_ne (fun hkey => hid (revokedKey_injective hkey))]
    exact h

lemma SharedData.revoked_revoke (store : SharedData) (id : String) : (store.revoke id).Revoked id :=
  Function.update_self _ _ _

lemma SharedData.revoked_revoke_iff_of_ne {store : SharedData} {id id' : String} (h : id' ≠ id) :
    (store.revoke id).Revoked id' ↔ store.Revoked id' := by
  rw [SharedData.Revoked, SharedData.revoke,
    Function.update_of_ne fun hkey => h (revokedKey_injective hkey), SharedData.Revoked]

/-! ## The handler

The admin route writes marks, and the public one reads them. -/

/-- The path that administrative requests start with. -/
def adminPath : String := "/_wasm_admin/revoke"

/-- The path of a request; empty if there is none. -/
def HttpRequest.path (request : HttpRequest) : String := (request.header ":path").getD ""

/-- The path of a request is administrative. -/
def HttpRequest.isAdmin (request : HttpRequest) : Bool :=
  adminPath.toList.isPrefixOf request.path.toList

/-- The value of the first parameter `id` in the query of a path that has one. -/
def targetId (path : String) : Option String :=
  ((Rust.split '?' path)[1]?).bind fun query =>
    (Rust.split '&' query).findSome? fun pair =>
      match Rust.split '=' pair with
      | "id" :: value :: _ => some value
      | _ => none

/-- The id in a query that starts with it is read up to the next separator. -/
lemma targetId_query {path : String} (hpath : '?' ∉ path.toList) (value : String) :
    targetId (path ++ "?" ++ ("id=" ++ value)) =
      some (String.ofList (value.toList.takeWhile fun c => c ∉ ['=', '&', '?'])) := by
  obtain ⟨_, hmark⟩ := Rust.exists_split_append (c := '?') (s := "id=") (by decide) value
  obtain ⟨_, hamp⟩ := Rust.exists_split_append (c := '&') (s := "id=") (by decide)
    (String.ofList (value.toList.takeWhile (· ≠ '?')))
  obtain ⟨_, hequals⟩ := Rust.exists_split '=' (String.ofList
    ((value.toList.takeWhile (· ≠ '?')).takeWhile (· ≠ '&')))
  have hquery : (Rust.split '?' (path ++ "?" ++ ("id=" ++ value)))[1]? =
      some ("id=" ++ String.ofList (value.toList.takeWhile (· ≠ '?'))) := by
    rw [show "?" = String.singleton '?' from rfl, Rust.split_append hpath, hmark]
    rfl
  rw [String.toList_ofList] at hamp hequals
  rw [targetId, hquery, Option.bind_some, hamp, List.findSome?_cons,
    show "id=" = "id" ++ String.singleton '=' from rfl, Rust.split_append (by decide), hequals]
  simp [List.takeWhile_takeWhile]

/-- What goes wrong in `verify_zkp`; the texts of the errors go to the log. -/
inductive VerifyError where
  | proofBase64
  | inputsBase64
  | proofBytes
  | inputsBytes
  | algorithm
deriving DecidableEq

section Handler

variable {setup : List (Constraint Fr)} (G : Groth16 setup)

/-- `verify_zkp`: the proof and the public inputs of the headers are decoded and checked. -/
def verifyZkp (pvk : G.VerifyingKey) (proofB64 inputsB64 : String) : Except VerifyError Bool :=
  match Base64.decode proofB64 with
  | none => .error .proofBase64
  | some proofBytes =>
    match Base64.decode inputsB64 with
    | none => .error .inputsBase64
    | some inputsBytes =>
      match G.deserialize proofBytes with
      | none => .error .proofBytes
      | some proof =>
        match Fr.deserializeVec inputsBytes with
        | none => .error .inputsBytes
        | some publicInputs =>
          match G.verify pvk proof publicInputs with
          | none => .error .algorithm
          | some verified => .ok verified

variable (pvk : Option G.VerifyingKey)

/-- The branch for administrative requests. -/
def handleAdmin (store : SharedData) (request : HttpRequest) : SharedData × Outcome :=
  if request.config.mode ≠ "admin_enabled" then
    (store, respond 403 "Forbidden: Admin endpoint disabled\n")
  else
    let providedToken := (request.header "X-Wasm-Admin-Token").getD ""
    if providedToken = "" ∨ providedToken ≠ request.config.adminToken then
      (store, respond 401 "Unauthorized: Invalid Admin Token\n")
    else
      match (targetId request.path).filter fun id => id ≠ "" with
      | none => (store, respond 400 "Bad Request: Missing 'id' parameter\n")
      | some id =>
        if request.setSharedDataFails then
          (store, respond 500 "Internal Error: Storage Failure\n")
        else (store.revoke id, respond 200 "OK: Credential Revocation Recorded\n")

/-- The branch for all other requests. -/
def handlePublic (store : SharedData) (request : HttpRequest) : Outcome :=
  match pvk with
  | none => respond 500 "Internal Error: Missing VK\n"
  | some pvk =>
    match request.header "x-dzta-proof", request.header "x-dzta-public-inputs",
      request.header "x-dzta-revocation-id" with
    | some proof, some inputs, some revId =>
      if store.Revoked revId then respond 403 "Access Revoked\n"
      else
        match verifyZkp G pvk proof inputs with
        | .ok true => ⟨.Continue, none⟩
        | .ok false => respond 403 "Forbidden: Invalid ZK Proof\n"
        | .error _ => respond 400 "Bad Request: Malformed ZKP Data\n"
    | _, _, _ => respond 401 "Unauthorized: Missing dZTA Headers\n"

/-- `on_http_request_headers`: requests of the admin interface are handled apart from all others. -/
def onHttpRequestHeaders (store : SharedData) (request : HttpRequest) : SharedData × Outcome :=
  if request.isAdmin then handleAdmin store request
  else (store, handlePublic G pvk store request)

/-! ## What one request does

The cases of a request, and what decides between them. -/

/-- A request that may mark a credential: an administrative one in a context that is enabled for
it, with the token of that context. -/
def HttpRequest.Authorized (request : HttpRequest) (id : String) : Prop :=
  request.isAdmin = true ∧ request.config.mode = "admin_enabled" ∧
    (∃ token, request.header "X-Wasm-Admin-Token" = some token ∧ token ≠ "" ∧
      token = request.config.adminToken) ∧
    targetId request.path = some id ∧ id ≠ ""

/-- A request that is let through in a store. -/
def HttpRequest.Admitted (store : SharedData) (request : HttpRequest) : Prop :=
  request.isAdmin = false ∧
    ∃ key proof inputs revId, pvk = some key ∧ request.header "x-dzta-proof" = some proof ∧
      request.header "x-dzta-public-inputs" = some inputs ∧
      request.header "x-dzta-revocation-id" = some revId ∧ ¬ store.Revoked revId ∧
      verifyZkp G key proof inputs = .ok true

/-- In a context without a configuration that parses, no request is authorized. -/
lemma not_authorized_of_onConfigure {serde : SerdeJson} {configBytes : Bytes} {e : String}
    (h : serde.fromSlice PluginConfig.deserialize configBytes = .error e) {request : HttpRequest}
    (hconfig : request.config = onConfigure serde {} (some configBytes)) (id : String) :
    ¬ request.Authorized id := by
  rintro ⟨-, hmode, -⟩
  have hdefault : request.config.mode = "" := by
    rw [hconfig, onConfigure, h]
  rw [hdefault] at hmode
  exact absurd hmode (by decide)

variable {G pvk}

/-- An authorized request is administrative, so it is not let through. -/
lemma HttpRequest.Authorized.not_admitted {store : SharedData} {request : HttpRequest} {id : String}
    (h : request.Authorized id) : ¬ request.Admitted G pvk store := by
  rintro ⟨hpublic, -⟩
  rw [h.1] at hpublic
  cases hpublic

/-- **Administrative requests**: either the store stays and the answer is an error, or the request
is authorized, the credential is marked and the answer says so. -/
theorem admin_cases (store : SharedData) {request : HttpRequest} (hadmin : request.isAdmin = true) :
    (∃ status body, 400 ≤ status ∧ handleAdmin store request = (store, respond status body)) ∨
    ∃ id, request.Authorized id ∧ handleAdmin store request =
      (store.revoke id, respond 200 "OK: Credential Revocation Recorded\n") := by
  rw [handleAdmin]
  split
  · exact .inl ⟨403, _, by norm_num, rfl⟩
  · rename_i hmode
    dsimp only
    split
    · exact .inl ⟨401, _, by norm_num, rfl⟩
    · rename_i htoken
      rw [not_or, not_not] at htoken
      cases hid : (targetId request.path).filter fun id => id ≠ "" with
      | none => exact .inl ⟨400, _, by norm_num, rfl⟩
      | some id =>
        dsimp only
        split
        · exact .inl ⟨500, _, by norm_num, rfl⟩
        · obtain ⟨htarget, hne⟩ := Option.filter_eq_some_iff.mp hid
          refine .inr ⟨id, ⟨hadmin, not_not.mp hmode, ?_, htarget, of_decide_eq_true hne⟩, rfl⟩
          cases hheader : request.header "X-Wasm-Admin-Token" with
          | none =>
            rw [hheader] at htoken
            exact absurd rfl htoken.1
          | some token =>
            rw [hheader] at htoken
            exact ⟨token, rfl, htoken⟩

/-- **All other requests**: let through exactly if they are admitted, and else answered with an
error. -/
theorem public_cases (store : SharedData) {request : HttpRequest}
    (hpublic : request.isAdmin = false) :
    (request.Admitted G pvk store ∧ handlePublic G pvk store request = ⟨.Continue, none⟩) ∨
    ∃ status body, 400 ≤ status ∧ ¬ request.Admitted G pvk store ∧
      handlePublic G pvk store request = respond status body := by
  cases pvk with
  | none =>
    refine .inr ⟨500, _, by norm_num, ?_, rfl⟩
    rintro ⟨-, key, _, _, _, hpvk, -⟩
    cases hpvk
  | some key =>
    simp only [handlePublic]
    split
    · rename_i proof inputs revId hproof hinputs hrev
      -- the headers of an admitted request are the three that were found
      have hiff : request.Admitted G (some key) store ↔
          ¬ store.Revoked revId ∧ verifyZkp G key proof inputs = .ok true := by
        constructor
        · rintro ⟨-, _, _, _, _, hkey', hproof', hinputs', hrev', hadmitted⟩
          rw [hproof] at hproof'
          rw [hinputs] at hinputs'
          rw [hrev] at hrev'
          cases hkey'
          cases hproof'
          cases hinputs'
          cases hrev'
          exact hadmitted
        · intro h
          exact ⟨hpublic, key, proof, inputs, revId, rfl, hproof, hinputs, hrev, h⟩
      rw [hiff]
      split
      · rename_i hrevoked
        exact .inr ⟨403, _, by norm_num, fun h => h.1 hrevoked, rfl⟩
      · rename_i hrevoked
        rcases hverify : verifyZkp G key proof inputs with e | _ | _
        · refine .inr ⟨400, _, by norm_num, ?_, rfl⟩
          rintro ⟨-, hok⟩
          cases hok
        · refine .inr ⟨403, _, by norm_num, ?_, rfl⟩
          rintro ⟨-, hok⟩
          cases hok
        · exact .inl ⟨⟨hrevoked, rfl⟩, rfl⟩
    · rename_i hmissing
      refine .inr ⟨401, _, by norm_num, ?_, rfl⟩
      rintro ⟨-, _, proof, inputs, revId, -, hproof, hinputs, hrev, -⟩
      exact hmissing proof inputs revId hproof hinputs hrev

/-- All other requests read nothing from the store but the mark of the credential that they name. -/
lemma handlePublic_congr {store store' : SharedData} {request : HttpRequest}
    (h : ∀ id, request.header "x-dzta-revocation-id" = some id →
      (store.Revoked id ↔ store'.Revoked id)) :
    handlePublic G pvk store request = handlePublic G pvk store' request := by
  cases pvk with
  | none => rfl
  | some key =>
    simp only [handlePublic]
    split
    · rename_i proof inputs revId hproof hinputs hrev
      simp only [h revId hrev]
    · rfl

/-- **Everything one request can do.** -/
theorem step_cases (store : SharedData) (request : HttpRequest) :
    (∃ id, request.Authorized id ∧ onHttpRequestHeaders G pvk store request =
      (store.revoke id, respond 200 "OK: Credential Revocation Recorded\n")) ∨
    (request.Admitted G pvk store ∧
      onHttpRequestHeaders G pvk store request = (store, ⟨.Continue, none⟩)) ∨
    ∃ status body, 400 ≤ status ∧ ¬ request.Admitted G pvk store ∧
      onHttpRequestHeaders G pvk store request = (store, respond status body) := by
  rw [onHttpRequestHeaders]
  cases hadmin : request.isAdmin with
  | true =>
    rw [if_pos rfl]
    rcases admin_cases store hadmin with ⟨status, body, hstatus, hstep⟩ | hauthorized
    · refine .inr (.inr ⟨status, body, hstatus, ?_, hstep⟩)
      rintro ⟨hpublic, -⟩
      rw [hadmin] at hpublic
      cases hpublic
    · exact .inl hauthorized
  | false =>
    rw [if_neg Bool.false_ne_true]
    rcases public_cases store hadmin with ⟨hadmitted, hstep⟩ | ⟨status, body, hstatus, hnot, hstep⟩
    · rw [hstep]
      exact .inr (.inl ⟨hadmitted, rfl⟩)
    · rw [hstep]
      exact .inr (.inr ⟨status, body, hstatus, hnot, rfl⟩)

/-- A request leaves the store or marks the credential that it is authorized for. -/
lemma store_of_step (store : SharedData) (request : HttpRequest) :
    (onHttpRequestHeaders G pvk store request).1 = store ∨
    ∃ id, request.Authorized id ∧
      (onHttpRequestHeaders G pvk store request).1 = store.revoke id := by
  rcases step_cases store request with ⟨id, hid, hstep⟩ | ⟨-, hstep⟩ | ⟨_, _, -, -, hstep⟩
  · exact .inr ⟨id, hid, by rw [hstep]⟩
  · exact .inl (by rw [hstep])
  · exact .inl (by rw [hstep])

/-- A request passes exactly if it is admitted. -/
lemma continue_iff_admitted (store : SharedData) (request : HttpRequest) :
    (onHttpRequestHeaders G pvk store request).2.action = .Continue ↔
      request.Admitted G pvk store := by
  rcases step_cases store request with ⟨id, hid, hstep⟩ | ⟨hadmitted, hstep⟩ |
    ⟨_, _, -, hnot, hstep⟩
  · rw [hstep]
    exact ⟨fun h => (by cases h), fun h => absurd h hid.not_admitted⟩
  · rw [hstep]
    exact ⟨fun _ => hadmitted, fun _ => rfl⟩
  · rw [hstep]
    exact ⟨fun h => (by cases h), fun h => absurd h hnot⟩

lemma step_of_admitted {store : SharedData} {request : HttpRequest}
    (h : request.Admitted G pvk store) :
    onHttpRequestHeaders G pvk store request = (store, ⟨.Continue, none⟩) := by
  rcases step_cases store request with ⟨id, hid, -⟩ | ⟨-, hstep⟩ | ⟨_, _, -, hnot, -⟩
  · exact absurd h hid.not_admitted
  · exact hstep
  · exact absurd h hnot

lemma revoked_of_answered {store : SharedData} {request : HttpRequest} {body : String}
    (h : (onHttpRequestHeaders G pvk store request).2.response = some ⟨200, body⟩) :
    ∃ id, request.Authorized id ∧ (onHttpRequestHeaders G pvk store request).1.Revoked id := by
  rcases step_cases store request with ⟨id, hid, hstep⟩ | ⟨-, hstep⟩ |
    ⟨status, _, hstatus, -, hstep⟩
  · refine ⟨id, hid, ?_⟩
    rw [hstep]
    exact store.revoked_revoke id
  · rw [hstep] at h
    cases h
  · rw [hstep] at h
    cases h
    exact absurd hstatus (by norm_num)

lemma not_continue_of_revoked {store : SharedData} {request : HttpRequest} {id : String}
    (hrevoked : store.Revoked id) (hheader : request.header "x-dzta-revocation-id" = some id) :
    (onHttpRequestHeaders G pvk store request).2.action ≠ .Continue := by
  rw [Ne, continue_iff_admitted]
  rintro ⟨-, _, _, _, revId, -, -, -, hrev, hnot, -⟩
  rw [hheader] at hrev
  cases hrev
  exact hnot hrevoked

/-! ## Runs

Requests one after the other: a mark that was made stays. -/

/-- **A mark holds for the rest of the run.** -/
theorem revoked_run {store : SharedData} {id : String} (h : store.Revoked id)
    (requests : List HttpRequest) :
    (Machine.run (onHttpRequestHeaders G pvk) store requests).Revoked id := by
  refine Machine.invariant_run (I := fun s => s.Revoked id) (onHttpRequestHeaders G pvk)
    (fun s request hs => ?_) h requests
  rcases store_of_step s request with hstep | ⟨id', -, hstep⟩
  · rw [hstep]
    exact hs
  · rw [hstep]
    exact hs.revoke id'

/-- **The edge filter over whole runs**, for every initial store and every sequence of requests in
contexts with any configuration.  Every request leaves the store as it is, or it is authorized and
marks its credential; it passes exactly if it is admitted in the store it meets.  After an
administrative request that was answered with success, no request for the credential passes. -/
theorem edge_filter_runs (store : SharedData) (requests : List HttpRequest) :
    let step := onHttpRequestHeaders G pvk
    (∀ pre request post, requests = pre ++ request :: post →
      let before := Machine.run step store pre
      ((step before request).1 = before ∨
        ∃ id, request.Authorized id ∧ (step before request).1 = before.revoke id) ∧
      ((step before request).2.action = .Continue ↔ request.Admitted G pvk before)) ∧
    ∀ pre admin mid request post body, requests = pre ++ admin :: (mid ++ request :: post) →
      (step (Machine.run step store pre) admin).2.response = some ⟨200, body⟩ →
      ∃ id, admin.Authorized id ∧ (request.header "x-dzta-revocation-id" = some id →
        (step (Machine.run step store (pre ++ admin :: mid)) request).2.action ≠ .Continue) := by
  intro step
  constructor
  · intro pre request post _
    exact ⟨store_of_step _ request, continue_iff_admitted _ request⟩
  · intro pre admin mid request post body _ hanswered
    obtain ⟨id, hid, hrevoked⟩ := revoked_of_answered hanswered
    refine ⟨id, hid, fun hheader => ?_⟩
    rw [Machine.run_append, Machine.run_cons]
    exact not_continue_of_revoked (revoked_run hrevoked mid) hheader

/-- **A proxy that starts without a configuration that parses** revokes nothing, whatever it is
asked. -/
theorem run_of_onConfigure_error {serde : SerdeJson} {configBytes : Bytes} {e : String}
    (h : serde.fromSlice PluginConfig.deserialize configBytes = .error e) (store : SharedData)
    {requests : List HttpRequest}
    (hconfig : ∀ request ∈ requests, request.config = onConfigure serde {} (some configBytes)) :
    Machine.run (onHttpRequestHeaders G pvk) store requests = store := by
  induction requests with
  | nil => rfl
  | cons request requests ih =>
    obtain ⟨hfirst, hrest⟩ := List.forall_mem_cons.mp hconfig
    have hstep : (onHttpRequestHeaders G pvk store request).1 = store := by
      rcases store_of_step store request with hstep | ⟨id, hid, -⟩
      · exact hstep
      · exact absurd hid (not_authorized_of_onConfigure h hfirst id)
    rw [Machine.run_cons, hstep]
    exact ih hrest

end Handler

end DZTA
