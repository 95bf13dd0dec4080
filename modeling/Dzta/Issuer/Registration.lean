import Dzta.Fabric.Did
import Dzta.Issuer.Signer

/-!
# Registered keys

An issuer registers the key that its signer publishes, issues credentials that the signer signs, and
leaves the two halves to be put together by a verifier, who resolves the DID of the issuer.  The
ledger and Vault are two states here, that others change as well: they hand in transactions, and
they rotate the key.

**`resolveDid_verifies`** puts the halves together: after any run in which the key was not rotated,
with a registration that succeeded and no foreign document under the DID, the resolved document
carries a key that decodes, and **every credential of the run verifies under it**, wherever in the
run it was issued.
-/

namespace DZTA

open Json

/-! ## Calls with two states

The ledger is the first state and that of the signer the second. -/

/-- A gateway next to a state that it does not touch. -/
def Gateway.onFst {σ τ : Type} (fabric : Gateway σ) : Gateway (σ × τ) where
  invokeChaincode function args := .onFst (fabric.invokeChaincode function args)
  queryChaincode function args := .onFst (fabric.queryChaincode function args)

lemma FabricClient.getSchema_onFst {σ τ : Type} (fabric : Gateway σ) (serde : SerdeJson)
    (schemaId : String) :
    getSchema (fabric.onFst : Gateway (σ × τ)) serde schemaId =
      .onFst (getSchema fabric serde schemaId) := by
  rw [getSchema, getSchema, queryAs, queryAs, EffectM.onFst_bind]
  rfl

namespace Issuer

variable {σ τ : Type} (issuer : Issuer σ) (backend : CredentialSignerBackend τ)

/-- The issuer next to the state of its signer. -/
def onFst : Issuer (σ × τ) :=
  ⟨issuer.fabric.onFst, issuer.sign, issuer.canonicalize, issuer.chrono, issuer.serde⟩

/-- `register_signing_did`: the signer is asked for its key, and the issuer vouches for itself. -/
def registerSigningDid (issuerDid : String) : EffectM WalletError (σ × τ) String := do
  let publicKey ← .onSnd backend.publicKeyMultibase
  .onFst (FabricClient.registerDid issuer.fabric issuerDid issuerDid publicKey)

/-- `create_credential` with a signer that has a state. -/
def createCredentialWith (call : Issuance) (schemaId issuerDid subjectDid : String)
    (attributes : CredentialAttributes) (expiresAtUnix : Int64) :
    EffectM WalletError (σ × τ) IssuedCredential :=
  createCredentialBy issuer.onFst call (fun payload => .onSnd (backend.sign payload)) schemaId
    issuerDid subjectDid attributes expiresAtUnix

/-- The issuer, with what its signer returns in a state. -/
def withSigner (vault : τ) : Issuer σ := { issuer with sign := fun p => (backend.sign p vault).1 }

end Issuer

/-! ### The state of the signer

A step of the issuer leaves the state of the signer alone. -/

section Steps

variable {σ τ α β : Type} {P : Except WalletError α × σ × τ → Except WalletError α × σ → Prop}

/-- A first step on the ledger, next to itself. -/
lemma bind_onFst {x : FabricM σ β} {f : β → EffectM WalletError (σ × τ) α} {g : β → FabricM σ α}
    {s : σ} {t : τ} (herror : ∀ e s', P (.error e, s', t) (.error e, s'))
    (hok : ∀ b s', P (f b (s', t)) (g b s')) :
    P ((EffectM.onFst x >>= f) (s, t)) ((x >>= g) s) := by
  rcases hx : x s with ⟨e | b, s'⟩
  · rw [EffectM.bind_of_eq_error (EffectM.onFst_eq_iff.mpr ⟨hx, rfl⟩), EffectM.bind_of_eq_error hx]
    exact herror e s'
  · rw [EffectM.bind_of_eq_ok (EffectM.onFst_eq_iff.mpr ⟨hx, rfl⟩), EffectM.bind_of_eq_ok hx]
    exact hok b s'

/-- A first step without effects, next to itself. -/
lemma bind_ofExcept {result : WalletResult β} {f : β → EffectM WalletError (σ × τ) α}
    {g : β → FabricM σ α} {s : σ} {t : τ} (herror : ∀ e, P (.error e, s, t) (.error e, s))
    (hok : ∀ b, result = .ok b → P (f b (s, t)) (g b s)) :
    P ((EffectM.ofExcept result >>= f) (s, t)) ((FabricM.ofResult result >>= g) s) := by
  cases result with
  | error e => exact herror e
  | ok b => exact hok b rfl

end Steps

section Follows

variable {σ τ : Type} (issuer : Issuer σ) (backend : CredentialSignerBackend τ) (call : Issuance)
  (schemaId issuerDid subjectDid : String) (attributes : CredentialAttributes)
  (expiresAtUnix : Int64) (ledger : σ) (vault : τ)

/-- The bytes that a creation has signed. -/
def Issuer.SigningInput (signingInput : Bytes) : Prop :=
  ∃ expiresAt, issuer.chrono.fromTimestamp expiresAtUnix 0 = some expiresAt ∧
    issuer.canonicalize (signingDocument
      (issuer.unsigned call issuerDid subjectDid attributes expiresAt)
      (issuer.options call issuerDid)) = .ok signingInput

/-- What a creation with a signer that has a state makes of both states: the ledger is what it is
without the state, and the signer has not been asked, or once. -/
def Follows (r : WalletResult IssuedCredential × σ × τ)
    (r' : WalletResult IssuedCredential × σ) : Prop :=
  (r.1, r.2.1) = r' ∧ ((∃ e, r.1 = .error e) ∧ r.2.2 = vault ∨ ∃ signingInput,
    issuer.SigningInput call issuerDid subjectDid attributes expiresAtUnix signingInput ∧
      r.2.2 = (backend.sign signingInput vault).2)

/-- **A creation asks the signer once**: it does what it does with a signer that has no state and
returns what this one returns in its state. -/
theorem createCredentialWith_follows :
    Follows issuer backend call issuerDid subjectDid attributes expiresAtUnix vault
      (issuer.createCredentialWith backend call schemaId issuerDid subjectDid attributes
        expiresAtUnix (ledger, vault))
      (createCredential (issuer.withSigner backend vault) call schemaId issuerDid subjectDid
        attributes expiresAtUnix ledger) := by
  have herror : ∀ (e : WalletError) (s : σ), Follows issuer backend call issuerDid subjectDid
      attributes expiresAtUnix vault (.error e, s, vault) (.error e, s) :=
    fun e s => ⟨rfl, .inl ⟨⟨e, rfl⟩, rfl⟩⟩
  rw [Issuer.createCredentialWith, createCredential, createCredentialBy, createCredentialBy,
    Issuer.onFst, FabricClient.getSchema_onFst]
  split
  · exact herror _ ledger
  split
  · exact herror _ ledger
  refine bind_onFst herror fun schema s => ?_
  refine bind_ofExcept (herror · s) fun _ _ => ?_
  refine bind_ofExcept (herror · s) fun expiresAt hdate => ?_
  refine bind_ofExcept (herror · s) fun signingInput hcanonical => ?_
  have hinput : issuer.SigningInput call issuerDid subjectDid attributes expiresAtUnix
      signingInput :=
    ⟨expiresAt, Except.okOr_eq_ok_iff.mp hdate, Except.mapError_eq_ok_iff.mp hcanonical⟩
  -- the signature is the one step that changes the state of the signer
  rcases hsign : backend.sign signingInput vault with ⟨result, vault'⟩
  have hpure : (issuer.withSigner backend vault).sign signingInput = result :=
    congrArg Prod.fst hsign
  have honce : ∀ (result : WalletResult IssuedCredential) (s : σ), Follows issuer backend call
      issuerDid subjectDid attributes expiresAtUnix vault (result, s, vault') (result, s) :=
    fun result s => ⟨rfl, .inr ⟨signingInput, hinput, by rw [hsign]⟩⟩
  cases result with
  | error e =>
    rw [EffectM.bind_of_eq_error (EffectM.onSnd_eq_iff.mpr ⟨hsign, rfl⟩), hpure]
    exact honce _ s
  | ok signature =>
    rw [EffectM.bind_of_eq_ok (EffectM.onSnd_eq_iff.mpr ⟨hsign, rfl⟩),
      EffectM.bind_of_eq_ok (FabricM.ofResult_of_ok hpure s)]
    exact bind_onFst (fun _ _ => honce _ _) fun _ _ => honce _ _

end Follows

/-! ## Runs

Issuers that share a signer register and create, and others write to the same ledger. -/

/-- What happens around an issuer: it registers its key, it issues a credential, or others hand in
transactions.  (They also rotate the key, but that is seen at the next request to Vault.) -/
inductive DeskAction where
  | registerSigningDid (issuer : Issuer (List Transaction)) (issuerDid : String)
  | createCredential (creation : Creation)
  | others (txs : List Transaction)

namespace DeskAction

variable {τ : Type} (backend : CredentialSignerBackend τ)

/-- The gateway of an action serves the channel. -/
def Serves : DeskAction → Prop
  | registerSigningDid issuer _ => issuer.fabric.Serves
  | createCredential creation => creation.issuer.fabric.Serves
  | others _ => True

/-- An action, with the signer that has a state. -/
def act : DeskAction → EffectM WalletError (List Transaction × τ) (Option IssuedCredential)
  | registerSigningDid issuer issuerDid => do
    let _ ← issuer.registerSigningDid backend issuerDid
    return none
  | createCredential creation => do
    let issued ← creation.issuer.createCredentialWith backend creation.call creation.schemaId
      creation.issuerDid creation.subjectDid creation.attributes creation.expiresAtUnix
    return some issued
  | others txs => fun s => (.ok none, s.1 ++ txs, s.2)

/-- The two states after an action, and what it returns. -/
def perform (s : List Transaction × τ) (action : DeskAction) :
    (List Transaction × τ) × WalletResult (Option IssuedCredential) :=
  ((action.act backend s).2, (action.act backend s).1)

end DeskAction

/-- What comes of a registration. -/
lemma appends_registerDid {fabric : Gateway (List Transaction)} (hserves : fabric.Serves)
    (did issuerDid publicKey : String) (txs : List Transaction) :
    Appends txs (.registerDid (.ofString did) (.ofString issuerDid) (.ofString publicKey))
      fabric.Reports (fun _ => True)
      (FabricClient.registerDid fabric did issuerDid publicKey txs) := by
  rw [FabricClient.registerDid]
  split
  · exact .noEffect _
  · exact .of_invoke hserves rfl

/-- A verifier accepts a credential under a public key: its proof value verifies for the document
that is reconstructed from it. -/
def Accepts (ed25519 : Ed25519) (base64Error : String → String) (issuer : Issuer (List Transaction))
    (publicKey : FixedBytes 32) (issued : IssuedCredential) : Prop :=
  ∃ signed proofValue, issuer.canonicalize (reconstruct issued.credentialData) = .ok signed ∧
    (issued.credentialData.index "proof").index "proofValue" = .str proofValue ∧
    LocalCredentialSigner.verify ed25519 base64Error publicKey signed proofValue = .ok ()

section Runs

variable {τ : Type} {stack : VaultStack τ} {signer : VaultCredentialSigner} {ed25519 : Ed25519}
  {versions : τ → List (FixedBytes 32)}
  (hserves : (TransitKey.ed25519 ed25519).Serves stack signer versions)

/-- What a run may add to the ledger: a document for a key of the signer, the metadata of a
credential, or a transaction of others. -/
def OfDesk (ed25519 : Ed25519) (current : List (FixedBytes 32)) (actions : List DeskAction)
    (t : Transaction) : Prop :=
  (∃ did, ∃ seed ∈ current, t.operation = .registerDid (.ofString did) (.ofString did)
    (.ofString (LocalCredentialSigner.publicKeyMultibaseValue ed25519 ⟨seed⟩))) ∨
  t.operation.target.1 = .credential ∨ ∃ txs, .others txs ∈ actions ∧ t ∈ txs

/-- What an action does: the versions of the key it uses, the transactions it adds, and what it
returns. -/
structure DeskStep (ed25519 : Ed25519) (versions : τ → List (FixedBytes 32))
    (s : List Transaction × τ) (action : DeskAction)
    (r : (List Transaction × τ) × WalletResult (Option IssuedCredential)) : Prop where
  grows : versions s.2 <+: versions r.1.2
  log : ∃ log, committed r.1.1 = committed s.1 ++ log ∧
    (∀ t ∈ log, OfDesk ed25519 (versions r.1.2).getLast?.toList [action] t) ∧
    ∀ issuer did, action = .registerSigningDid issuer did → r.2 = .ok none →
      ∃ t ∈ log, t.operation.target = (.did, .ofString did)
  issued : ∀ creation issued base64Error, action = .createCredential creation →
    r.2 = .ok (some issued) → ∃ seed ∈ (versions r.1.2).getLast?,
      Accepts ed25519 base64Error creation.issuer (ed25519.publicKey seed) issued

include hserves

/-- **A credential that is issued is accepted** under the key that was the latest when it was
signed. -/
lemma exists_accepts {creation : Creation} {s s' : List Transaction × τ} {issued : IssuedCredential}
    (h : creation.issuer.createCredentialWith (signer.backend stack) creation.call creation.schemaId
      creation.issuerDid creation.subjectDid creation.attributes creation.expiresAtUnix s =
        (.ok issued, s')) (base64Error : String → String) :
    ∃ seed ∈ (versions s'.2).getLast?,
      Accepts ed25519 base64Error creation.issuer (ed25519.publicKey seed) issued := by
  obtain ⟨ledger, vault⟩ := s
  obtain ⟨hsame, hstate⟩ := createCredentialWith_follows creation.issuer (signer.backend stack)
    creation.call creation.schemaId creation.issuerDid creation.subjectDid creation.attributes
    creation.expiresAtUnix ledger vault
  rw [h] at hsame hstate
  obtain ⟨schema, expiresAt, signed, proofValue, _, _, -, -, -, hdate, hcanonical, hsign, -, rfl⟩ :=
    createCredential_eq_ok hsame.symm
  rcases hstate with ⟨⟨e, he⟩, -⟩ | ⟨signingInput, ⟨expiresAt', hdate', hcanonical'⟩, hvault⟩
  · cases he
  obtain rfl : expiresAt = expiresAt' := Option.some.inj (hdate.symm.trans hdate')
  obtain rfl : signed = signingInput := Except.ok.inj (hcanonical.symm.trans hcanonical')
  have hask : ((SignerCall.sign signed).ask (signer.backend stack) vault).1 = .ok proofValue :=
    hsign
  obtain ⟨seed, hseed, hreturns⟩ := exists_returns_of_ask hserves hask
  refine ⟨seed, hvault ▸ hseed, signed, proofValue, ?_, ?_, ?_⟩
  · exact (congrArg creation.issuer.canonicalize (reconstruct_signedCredential ..)).trans hcanonical
  · simp [signedCredential, unsignedCredential, proofOptions, insertMember, index, lastMember_cons]
  · rw [eq_answer_of_returns hreturns]
    exact LocalCredentialSigner.verify_signValue ed25519 base64Error ⟨seed⟩ signed

/-- The key of a registration is published first. -/
lemma deskStep_register {issuer : Issuer (List Transaction)} (hgateway : issuer.fabric.Serves)
    (did : String) (s : List Transaction × τ) :
    DeskStep ed25519 versions s (.registerSigningDid issuer did)
      ((DeskAction.registerSigningDid issuer did).perform (signer.backend stack) s) := by
  have hgrows := grows_ask hserves .publicKeyMultibase s.2
  rcases hkey : (SignerCall.publicKeyMultibase.ask (signer.backend stack)) s.2 with ⟨e | key, v⟩
  · have hact : (DeskAction.registerSigningDid issuer did).act (signer.backend stack) s =
        (.error e, s.1, v) :=
      EffectM.bind_of_eq_error (EffectM.bind_of_eq_error (EffectM.onSnd_eq_iff.mpr ⟨hkey, rfl⟩))
    rw [hkey] at hgrows
    rw [DeskAction.perform, hact]
    exact ⟨hgrows, ⟨[], (List.append_nil _).symm, fun _ h => absurd h List.not_mem_nil,
      fun _ _ _ h => by cases h⟩, fun _ _ _ h => by cases h⟩
  · obtain ⟨seed, hseed, hreturns⟩ := exists_returns_of_ask hserves (congrArg Prod.fst hkey)
    rw [hkey] at hgrows hseed
    obtain rfl := eq_answer_of_returns hreturns
    have happends := appends_registerDid hgateway did did
      (LocalCredentialSigner.publicKeyMultibaseValue ed25519 ⟨seed⟩) s.1
    rcases hregister : FabricClient.registerDid issuer.fabric did did
      (LocalCredentialSigner.publicKeyMultibaseValue ed25519 ⟨seed⟩) s.1 with ⟨reply, txs⟩
    rw [hregister] at happends
    obtain ⟨log, hlog, hops, hreply⟩ := happends.exists_log
    have hact : (DeskAction.registerSigningDid issuer did).act (signer.backend stack) s =
        (reply.map fun _ => none, txs, v) := by
      have hboth : issuer.registerSigningDid (signer.backend stack) did s = (reply, txs, v) :=
        (EffectM.bind_of_eq_ok (EffectM.onSnd_eq_iff.mpr ⟨hkey, rfl⟩)).trans
          (EffectM.onFst_eq_iff.mpr ⟨hregister, rfl⟩)
      cases reply with
      | error e => exact EffectM.bind_of_eq_error hboth
      | ok id => exact EffectM.bind_of_eq_ok hboth
    rw [DeskAction.perform, hact]
    refine ⟨hgrows, ⟨log, hlog, fun t ht => .inl ⟨did, seed, ?_, (hops t ht).1⟩, ?_⟩, ?_⟩
    · exact Option.mem_toList.mpr hseed
    · rintro _ _ ⟨⟩ hok
      cases reply with
      | error e => cases hok
      | ok id =>
        obtain ⟨-, t, rfl⟩ := hreply id rfl
        refine ⟨t, List.mem_singleton_self t, ?_⟩
        rw [(hops t (List.mem_singleton_self t)).1]
        rfl
    · intro _ _ _ h
      cases h

/-- A credential is signed once, and only its metadata reach the ledger. -/
lemma deskStep_create {creation : Creation} (hgateway : creation.issuer.fabric.Serves)
    (s : List Transaction × τ) :
    DeskStep ed25519 versions s (.createCredential creation)
      ((DeskAction.createCredential creation).perform (signer.backend stack) s) := by
  obtain ⟨ledger, vault⟩ := s
  obtain ⟨hsame, hstate⟩ := createCredentialWith_follows creation.issuer (signer.backend stack)
    creation.call creation.schemaId creation.issuerDid creation.subjectDid creation.attributes
    creation.expiresAtUnix ledger vault
  let signed : Creation :=
    { creation with issuer := creation.issuer.withSigner (signer.backend stack) vault }
  have happends : Appends ledger signed.operation signed.issuer.fabric.Reports signed.Returns
      (createCredential (creation.issuer.withSigner (signer.backend stack) vault) creation.call
        creation.schemaId creation.issuerDid creation.subjectDid creation.attributes
        creation.expiresAtUnix ledger) := @appends_createCredential signed hgateway ledger
  rcases hcreate : creation.issuer.createCredentialWith (signer.backend stack) creation.call
    creation.schemaId creation.issuerDid creation.subjectDid creation.attributes
    creation.expiresAtUnix (ledger, vault) with ⟨result, txs, v⟩
  rw [hcreate] at hsame hstate
  rw [← hsame] at happends
  obtain ⟨log, hlog, hops, -⟩ := happends.exists_log
  have hact : (DeskAction.createCredential creation).act (signer.backend stack)
      (ledger, vault) = (result.map some, txs, v) := by
    cases result with
    | error e => exact EffectM.bind_of_eq_error hcreate
    | ok issued => exact EffectM.bind_of_eq_ok hcreate
  have hgrows : versions vault <+: versions v := by
    rcases hstate with ⟨-, rfl⟩ | ⟨signingInput, -, rfl⟩
    · exact List.prefix_refl _
    · exact grows_ask hserves (.sign signingInput) vault
  rw [DeskAction.perform, hact]
  refine ⟨hgrows, ⟨log, hlog, fun t ht => .inr (.inl ?_), fun _ _ h => by cases h⟩, ?_⟩
  · rw [(hops t ht).1]
    rfl
  · rintro _ issued base64Error ⟨⟩ hok
    cases result with
    | error e => cases hok
    | ok issued' =>
      obtain rfl : issued' = issued := Option.some.inj (Except.ok.inj hok)
      exact exists_accepts hserves hcreate base64Error

/-- **What an action does**, case by case. -/
lemma deskStep {action : DeskAction} (hgateway : action.Serves) (s : List Transaction × τ) :
    DeskStep ed25519 versions s action (action.perform (signer.backend stack) s) := by
  cases action with
  | registerSigningDid issuer did => exact deskStep_register hserves hgateway did s
  | createCredential creation => exact deskStep_create hserves hgateway s
  | others txs =>
    refine ⟨List.prefix_refl _, ⟨_, Machine.accepted_append .., ?_, fun _ _ h => by cases h⟩,
      fun _ _ _ h => by cases h⟩
    intro t ht
    exact .inr (.inr ⟨txs, List.mem_singleton_self _, Machine.mem_of_mem_accepted _ ht⟩)

omit hserves in
/-- More versions and more actions explain what fewer do. -/
lemma OfDesk.mono {current current' : List (FixedBytes 32)} {actions actions' : List DeskAction}
    {t : Transaction} (h : OfDesk ed25519 current actions t) (hcurrent : current ⊆ current')
    (hactions : actions ⊆ actions') : OfDesk ed25519 current' actions' t := by
  rcases h with ⟨did, seed, hseed, hop⟩ | htarget | ⟨txs, htxs, ht⟩
  · exact .inl ⟨did, seed, hcurrent hseed, hop⟩
  · exact .inr (.inl htarget)
  · exact .inr (.inr ⟨txs, hactions htxs, ht⟩)

/-- What a run does: it adds the transactions of its actions, each registration that succeeded has
one of them, and each credential that it returned is accepted. -/
structure DeskRun (ed25519 : Ed25519) (base64Error : String → String)
    (current : List (FixedBytes 32)) (before after : List Transaction) (actions : List DeskAction)
    (trace : List (DeskAction × WalletResult (Option IssuedCredential))) : Prop where
  log : ∃ log, committed after = committed before ++ log ∧
    (∀ t ∈ log, OfDesk ed25519 current actions t) ∧
    ∀ issuer did, (.registerSigningDid issuer did, .ok none) ∈ trace →
      ∃ t ∈ log, t.operation.target = (.did, .ofString did)
  issued : ∀ creation issued, (.createCredential creation, .ok (some issued)) ∈ trace →
    ∃ seed ∈ current, Accepts ed25519 base64Error creation.issuer (ed25519.publicKey seed) issued

lemma grows_deskRun {actions : List DeskAction} (hgateways : ∀ a ∈ actions, a.Serves)
    (s : List Transaction × τ) : versions s.2 <+:
      versions (Machine.run (DeskAction.perform (signer.backend stack)) s actions).2 := by
  induction actions generalizing s with
  | nil => exact List.prefix_refl _
  | cons action actions ih =>
    obtain ⟨haction, hactions⟩ := List.forall_mem_cons.mp hgateways
    exact (deskStep hserves haction s).grows.trans (ih hactions _)

/-- **What a run does.** -/
lemma deskRun (base64Error : String → String) {actions : List DeskAction}
    (hgateways : ∀ a ∈ actions, a.Serves) (s : List Transaction × τ) :
    let step := DeskAction.perform (signer.backend stack)
    DeskRun ed25519 base64Error
      ((versions (Machine.run step s actions).2).drop ((versions s.2).length - 1))
      s.1 (Machine.run step s actions).1 actions (Machine.trace step s actions) := by
  intro step
  induction actions generalizing s with
  | nil =>
    exact ⟨⟨[], (List.append_nil _).symm, fun _ h => absurd h List.not_mem_nil,
      fun _ _ h => absurd h List.not_mem_nil⟩, fun _ _ h => absurd h List.not_mem_nil⟩
  | cons action actions ih =>
    obtain ⟨haction, hactions⟩ := List.forall_mem_cons.mp hgateways
    obtain ⟨hgrows, ⟨log₁, hlog₁, hof₁, hregister₁⟩, hissued₁⟩ := deskStep hserves haction s
    have hrest := grows_deskRun hserves hactions (step s action).1
    obtain ⟨⟨log₂, hlog₂, hof₂, hregister₂⟩, hissued₂⟩ := ih hactions (step s action).1
    -- the version that an action uses is among those that are the latest from now on
    have hlatest : ∀ seed ∈ (versions (step s action).1.2).getLast?, seed ∈
        (versions (Machine.run step s (action :: actions)).2).drop ((versions s.2).length - 1) :=
      fun seed hseed => mem_drop_of_getLast? hgrows hrest hseed
    have hlater : (versions (Machine.run step (step s action).1 actions).2).drop
        ((versions (step s action).1.2).length - 1) ⊆
        (versions (Machine.run step s (action :: actions)).2).drop
          ((versions s.2).length - 1) := by
      have hlength : (versions s.2).length ≤ (versions (step s action).1.2).length :=
        hgrows.length_le
      exact (List.drop_sublist_drop_left _ (by omega)).subset
    refine ⟨⟨log₁ ++ log₂, ?_, ?_, ?_⟩, ?_⟩
    · rw [Machine.run_cons, hlog₂, hlog₁, List.append_assoc]
    · intro t ht
      rcases List.mem_append.mp ht with ht | ht
      · exact (hof₁ t ht).mono (fun seed hseed => hlatest seed (Option.mem_toList.mp hseed))
          (List.cons_subset_cons _ (List.nil_subset _))
      · exact (hof₂ t ht).mono hlater (List.subset_cons_self _ _)
    · intro issuer did hmem
      rcases List.mem_cons.mp hmem with heq | hmem
      · obtain ⟨rfl, hok⟩ := Prod.mk.inj heq
        obtain ⟨t, ht, htarget⟩ := hregister₁ issuer did rfl hok.symm
        exact ⟨t, List.mem_append_left _ ht, htarget⟩
      · obtain ⟨t, ht, htarget⟩ := hregister₂ issuer did hmem
        exact ⟨t, List.mem_append_right _ ht, htarget⟩
    · intro creation issued hmem
      rcases List.mem_cons.mp hmem with heq | hmem
      · obtain ⟨rfl, hok⟩ := Prod.mk.inj heq
        obtain ⟨seed, hseed, haccepts⟩ := hissued₁ creation issued base64Error rfl hok.symm
        exact ⟨seed, hlatest seed hseed, haccepts⟩
      · obtain ⟨seed, hseed, haccepts⟩ := hissued₂ creation issued hmem
        exact ⟨seed, hlater hseed, haccepts⟩

/-- **A registered key is the key of every credential.**  After any run in which the key was not
rotated, with a registration of the signing DID that succeeded and no document of others under it:
the DID is resolved with a public key that decodes, and under that key every credential verifies
that the run has returned. -/
theorem resolveDid_verifies (base64Error : String → String) {actions : List DeskAction}
    (hgateways : ∀ a ∈ actions, a.Serves) (s : List Transaction × τ)
    (hrotated : (versions (Machine.run (DeskAction.perform (signer.backend stack)) s
      actions).2).length = (versions s.2).length)
    {issuer : Issuer (List Transaction)} {did : String}
    (hregistered : (.registerSigningDid issuer did, .ok none) ∈
      Machine.trace (DeskAction.perform (signer.backend stack)) s actions)
    (hothers : ∀ txs, .others txs ∈ actions → ∀ t ∈ txs,
      t.operation.target ≠ (.did, .ofString did))
    {fabric : Gateway (List Transaction)} (serde : SerdeJson)
    (hanswers : fabric.Answers
      (Machine.run (DeskAction.perform (signer.backend stack)) s actions).1) :
    let final := Machine.run (DeskAction.perform (signer.backend stack)) s actions
    ∃ doc publicKey, FabricClient.resolveDid fabric serde did final.1 = (.ok doc, final.1) ∧
      Multibase.decode doc.publicKey = some publicKey.1 ∧
      ∀ creation issued, (.createCredential creation, .ok (some issued)) ∈
          Machine.trace (DeskAction.perform (signer.backend stack)) s actions →
        Accepts ed25519 base64Error creation.issuer publicKey issued := by
  intro final
  obtain ⟨⟨log, hlog, hof, hregisters⟩, hissued⟩ := deskRun hserves base64Error hgateways s
  obtain ⟨t₀, ht₀, htarget₀⟩ := hregisters issuer did hregistered
  obtain ⟨pre, t, post, rfl, htarget, hpost⟩ := Machine.exists_last
    (p := fun t : Transaction => t.operation.target = (.did, .ofString did)) ht₀ htarget₀
  -- the document is one of the signer's keys
  obtain ⟨seed, hseed, hop⟩ : ∃ seed ∈ (versions final.2).drop ((versions s.2).length - 1),
      t.operation = .registerDid (.ofString did) (.ofString did)
        (.ofString (LocalCredentialSigner.publicKeyMultibaseValue ed25519 ⟨seed⟩)) := by
    rcases hof t (List.mem_append_right _ List.mem_cons_self) with
      ⟨did', seed, hseed, hop⟩ | hcredential | ⟨txs, htxs, ht⟩
    · rw [hop] at htarget
      obtain rfl : did' = did := Bytes.utf8_injective (Prod.mk.inj htarget).2
      exact ⟨seed, hseed, hop⟩
    · rw [htarget] at hcredential
      cases hcredential
    · exact absurd htarget (hothers txs htxs t ht)
  have hone : ((versions final.2).drop ((versions s.2).length - 1)).length ≤ 1 := by
    rw [List.length_drop, hrotated]
    omega
  refine ⟨_, ed25519.publicKey seed, resolveDid_of_committed hanswers
    (hlog.trans (List.append_assoc ..).symm) hop hpost, Multibase.decode_encode _, ?_⟩
  intro creation issued hmem
  obtain ⟨seed', hseed', haccepts⟩ := hissued creation issued hmem
  obtain rfl : seed = seed' := eq_of_length_le_one hone hseed hseed'
  exact haccepts

end Runs

/-! ### A registered key of the staff

A credential is created, and the key is registered after it. -/

section Staff

variable {τ : Type} {backend : CredentialSignerBackend τ} {vault : τ}

/-- A signer that signs lets the credential of the staff be issued. -/
lemma createCredentialWith_staff {proofOf : Bytes → String}
    (hsign : ∀ payload, backend.sign payload vault = (.ok (proofOf payload), vault)) :
    ∃ issued, staffIssuer.createCredentialWith backend staffCreation.call "schema-1"
      "did:dzta:issuer" "did:dzta:alice" staffCreation.attributes 2000000000
      ([staffSchema], vault) =
        (.ok issued, [staffSchema, .faultless staffCreation.operation 1700000000], vault) := by
  obtain ⟨issued, hcreate⟩ : ∃ issued, createCredential (staffIssuer.withSigner backend vault)
      staffCreation.call "schema-1" "did:dzta:issuer" "did:dzta:alice" staffCreation.attributes
      2000000000 [staffSchema] =
        (.ok issued, [staffSchema, .faultless staffCreation.operation 1700000000]) :=
    createCredential_of_ok (by decide +kernel) (by decide +kernel) getSchema_staffIssuer rfl rfl
      rfl (congrArg Prod.fst (hsign _)) recordCredentialMetadata_staffIssuer
  obtain ⟨hsame, hstate⟩ := createCredentialWith_follows staffIssuer backend staffCreation.call
    "schema-1" "did:dzta:issuer" "did:dzta:alice" staffCreation.attributes 2000000000
    [staffSchema] vault
  rw [hcreate] at hsame
  rcases hwith : staffIssuer.createCredentialWith backend staffCreation.call "schema-1"
    "did:dzta:issuer" "did:dzta:alice" staffCreation.attributes 2000000000
    ([staffSchema], vault) with ⟨result, txs, v⟩
  rw [hwith] at hsame hstate
  obtain ⟨rfl, rfl⟩ := Prod.mk.inj hsame
  rcases hstate with ⟨⟨e, he⟩, -⟩ | ⟨signingInput, -, hv⟩
  · cases he
  · rw [hsign] at hv
    subst hv
    exact ⟨issued, rfl⟩

/-- A key that is not blank is registered. -/
lemma registerDid_direct {seconds : Int64} {did publicKey : String} (hdid : Rust.trim did ≠ "")
    (hkey : Rust.trim publicKey ≠ "") (txs : List Transaction) :
    FabricClient.registerDid (.direct seconds) did did publicKey txs =
      (.ok "committed", txs ++ [.faultless (.registerDid (.ofString did) (.ofString did)
        (.ofString publicKey)) seconds]) := by
  have hne : ∀ s : String, Rust.trim s ≠ "" → GoString.ofString s ≠ [] := by
    rintro s htrim hs
    obtain rfl : s = "" := Bytes.utf8_injective hs
    exact htrim (by decide)
  rw [FabricClient.registerDid, if_neg (not_or.mpr ⟨hdid, not_or.mpr ⟨hdid, hkey⟩⟩)]
  exact Gateway.direct_invokeChaincode rfl
    ((Ledger.submit_isOk fun _ => rfl).mpr ⟨hne did hdid, hne did hdid, hne publicKey hkey⟩)

lemma trim_publicKeyMultibaseValue_ne_empty (ed25519 : Ed25519) (signer : LocalCredentialSigner) :
    Rust.trim (signer.publicKeyMultibaseValue ed25519) ≠ "" := by
  intro h
  have hblank := (Rust.trim_eq_empty_iff _).mp h 'z'
  rw [LocalCredentialSigner.publicKeyMultibaseValue, Multibase.encode, String.toList_append]
    at hblank
  exact absurd (hblank (List.mem_append_left _ (List.mem_singleton_self 'z'))) (by decide)

/-- A credential is issued, and the key is registered later. -/
def staffActions : List DeskAction :=
  [.createCredential staffCreation, .registerSigningDid staffIssuer "did:dzta:issuer"]

/-- Both succeed with a signer that answers. -/
lemma trace_staffActions {text : SignerCall → String}
    (hask : ∀ call : SignerCall, call.ask backend vault = (.ok (text call), vault))
    (hkey : Rust.trim (text .publicKeyMultibase) ≠ "") :
    ∃ issued txs,
      Machine.run (DeskAction.perform backend) ([staffSchema], vault) staffActions =
        (txs, vault) ∧
      Machine.trace (DeskAction.perform backend) ([staffSchema], vault) staffActions =
        [(.createCredential staffCreation, .ok (some issued)),
          (.registerSigningDid staffIssuer "did:dzta:issuer", .ok none)] := by
  obtain ⟨issued, hcreate⟩ := createCredentialWith_staff fun payload => hask (.sign payload)
  have hfirst : (DeskAction.createCredential staffCreation).act backend ([staffSchema], vault) =
      (.ok (some issued), [staffSchema, .faultless staffCreation.operation 1700000000], vault) :=
    EffectM.bind_of_eq_ok hcreate
  have hregister : staffIssuer.registerSigningDid backend "did:dzta:issuer"
      ([staffSchema, .faultless staffCreation.operation 1700000000], vault) = _ :=
    (EffectM.bind_of_eq_ok (EffectM.onSnd_eq_iff.mpr ⟨hask .publicKeyMultibase, rfl⟩)).trans
      (EffectM.onFst_eq_iff.mpr ⟨registerDid_direct (by decide +kernel) hkey _, rfl⟩)
  obtain ⟨txs, hsecond⟩ : ∃ txs, (DeskAction.registerSigningDid staffIssuer
      "did:dzta:issuer").act backend
        ([staffSchema, .faultless staffCreation.operation 1700000000], vault) =
          (.ok none, txs, vault) :=
    ⟨_, EffectM.bind_of_eq_ok hregister⟩
  refine ⟨issued, txs, ?_, ?_⟩
  · rw [staffActions, Machine.run_cons, Machine.run_cons, Machine.run_nil, DeskAction.perform,
      DeskAction.perform, hfirst, hsecond]
  · rw [staffActions, Machine.trace_cons, Machine.trace_cons, Machine.trace_nil,
      DeskAction.perform, DeskAction.perform, hfirst, hsecond]

/-- The run of the issuer with its key in Vault: the credential of the employee is issued, the key
is registered after that, and who resolves the DID then gets the public key under which the
credential is accepted. -/
theorem resolveDid_verifies_staff :
    ∃ issued txs doc,
      Machine.trace (DeskAction.perform
          (issuerSigner.backend (grantingVault (.ed25519 issuerEd25519))))
        ([staffSchema], [issuerSeed]) staffActions =
          [(.createCredential staffCreation, .ok (some issued)),
            (.registerSigningDid staffIssuer "did:dzta:issuer", .ok none)] ∧
      Machine.run (DeskAction.perform
          (issuerSigner.backend (grantingVault (.ed25519 issuerEd25519))))
        ([staffSchema], [issuerSeed]) staffActions = (txs, [issuerSeed]) ∧
      FabricClient.resolveDid (.direct 1700000000) .strict "did:dzta:issuer" txs = (.ok doc, txs) ∧
      ∃ publicKey : FixedBytes 32, Multibase.decode doc.publicKey = some publicKey.1 ∧
        Accepts issuerEd25519 (fun _ => "Invalid padding") staffIssuer publicKey issued := by
  have hask : ∀ call : SignerCall, call.ask (issuerSigner.backend
      (grantingVault (.ed25519 issuerEd25519))) [issuerSeed] =
        (.ok (call.answer issuerEd25519 ⟨issuerSeed⟩), [issuerSeed]) := fun call =>
    congrArg Prod.swap
      (perform_grantingVault issuerEd25519 issuerSigner rfl (Nat.one_lt_two_pow (by decide)) call)
  have hkey : Rust.trim (SignerCall.answer issuerEd25519 ⟨issuerSeed⟩ .publicKeyMultibase) ≠ "" :=
    trim_publicKeyMultibaseValue_ne_empty _ _
  obtain ⟨issued, txs, hrun, htrace⟩ := trace_staffActions hask hkey
  have hgateways : ∀ a ∈ staffActions, a.Serves := by
    intro a ha
    rcases List.mem_pair.mp ha with rfl | rfl <;> exact Gateway.serves_direct 1700000000
  have hothers : ∀ txs, .others txs ∈ staffActions → ∀ t ∈ txs,
      t.operation.target ≠ (.did, .ofString "did:dzta:issuer") := by
    intro txs htxs
    rcases List.mem_pair.mp htxs with h | h <;> cases h
  obtain ⟨doc, publicKey, hresolve, hdecode, haccepts⟩ :=
    resolveDid_verifies (serves_grantingVault _ issuerSigner) (fun _ => "Invalid padding")
      hgateways ([staffSchema], [issuerSeed]) (by rw [id_eq, id_eq, hrun])
      (htrace ▸ List.mem_cons_of_mem _ List.mem_cons_self) hothers .strict
      (Gateway.answers_direct 1700000000 _)
  rw [hrun] at hresolve
  exact ⟨issued, txs, doc, htrace, hrun, hresolve, publicKey, hdecode,
    haccepts _ _ (htrace ▸ List.mem_cons_self)⟩

end Staff

end DZTA
