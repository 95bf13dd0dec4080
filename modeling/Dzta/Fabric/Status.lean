import Dzta.Fabric.Channel

/-!
# The check of a credential

`verify_credential_active` on the channel: two queries and a comparison with the clock.  In terms of
the registry of credentials the check has three outcomes and no others, and **it never answers
`false`**: what is not active is an error (`verifyCredentialActive_ne_false`).
-/

namespace DZTA

open GoJson

/-! ## The metadata across the boundary

What Go writes of a record is what the client reads. -/

lemma encode_coerce_metadata (m : CredentialMetadata) : m.coerce.encode = m.encode := by
  simp [CredentialMetadata.encode, CredentialMetadata.coerce]

/-- **What Rust code makes of the metadata of a credential.** -/
lemma deserialize_metadata (m : CredentialMetadata) :
    Shared.CredentialMetadata.deserialize m.encode =
      some ⟨Bytes.utf8Lossy m.credentialId, Bytes.utf8Lossy m.schemaId,
        Bytes.utf8Lossy m.issuerDid, Bytes.utf8Lossy m.subjectDid, m.issuedAt, m.expiresAt,
        m.revoked, none, false, []⟩ := by
  have hint : ∀ i, encodeInt64 i = Json.ofI64 i := fun _ => rfl
  simp [Shared.CredentialMetadata.deserialize, CredentialMetadata.encode, encodeString, hint,
    Json.requiredField, Json.defaultField, Json.asBool?]

lemma plain_metadata (m : CredentialMetadata) : m.encode.Plain := by
  have hint : ∀ i, (encodeInt64 i).Plain := Json.plain_ofI64
  simp [CredentialMetadata.encode, encodeString, hint]

lemma depth_metadata_le (m : CredentialMetadata) : m.encode.depth ≤ 127 := by
  simp [CredentialMetadata.encode]

/-! ## The two queries

Each of them on a ledger that has the record, and on one that has none. -/

section Queries

variable {fabric : Gateway (List Transaction)} (serde : SerdeJson) {txs : List Transaction}
  {id : String} {m : CredentialMetadata}

lemma isCredentialRevoked_of_recorded (hanswers : fabric.Answers txs)
    (hm : registries txs .credential (.ofString id) = some m) :
    FabricClient.isCredentialRevoked fabric serde id txs = (.ok m.revoked, txs) := by
  have heval : (Query.isCredentialRevoked (.ofString id)).evaluate (ledger txs).state =
      .ok (.bool m.revoked) := by
    rw [Query.evaluate, isCredentialRevoked_ledger txs _ hm]
    rfl
  exact FabricClient.queryAs_answers hanswers rfl heval trivial (Nat.zero_le _) rfl

lemma getCredentialMetadata_of_credential (hanswers : fabric.Answers txs)
    (hm : registries txs .credential (.ofString id) = some m) :
    ∃ metadata, metadata.expiresAt = m.expiresAt ∧
      FabricClient.getCredentialMetadata fabric serde id txs = (.ok metadata, txs) := by
  have heval : (Query.getCredentialMetadata (.ofString id)).evaluate (ledger txs).state =
      .ok m.encode := by
    rw [Query.evaluate, getCredentialMetadata_ledger, hm, ← encode_coerce_metadata]
    rfl
  exact ⟨_, rfl, FabricClient.queryAs_answers hanswers rfl heval (plain_metadata m)
    (depth_metadata_le m) (deserialize_metadata m)⟩

lemma isCredentialRevoked_eq_ok {revoked : Bool} (hserves : fabric.Serves)
    (h : (FabricClient.isCredentialRevoked fabric serde id txs).1 = .ok revoked) :
    ∃ m, registries txs .credential (.ofString id) = some m ∧ m.revoked = revoked := by
  obtain ⟨v, heval, hread⟩ := FabricClient.queryAs_eq_ok hserves rfl h
  cases hm : registries txs .credential (.ofString id) with
  | none =>
    rw [Query.evaluate, DZTA.isCredentialRevoked, getCredentialMetadata_ledger, hm] at heval
    cases heval
  | some m =>
    rw [Query.evaluate, isCredentialRevoked_ledger txs _ hm] at heval
    obtain rfl : Json.bool m.revoked = v := Except.ok.inj heval
    have hplain : (Json.bool m.revoked).Plain := trivial
    exact ⟨m, rfl, Option.some.inj ((serde.fromSlice_text _ _ _ _ (Json.read_print _ _ _) hplain
      (Nat.zero_le _)).mp hread)⟩

lemma getCredentialMetadata_eq_ok {metadata : Shared.CredentialMetadata} (hserves : fabric.Serves)
    (h : (FabricClient.getCredentialMetadata fabric serde id txs).1 = .ok metadata) :
    ∃ m, registries txs .credential (.ofString id) = some m ∧ metadata.revoked = m.revoked ∧
      metadata.expiresAt = m.expiresAt := by
  obtain ⟨v, heval, hread⟩ := FabricClient.queryAs_eq_ok hserves rfl h
  cases hm : registries txs .credential (.ofString id) with
  | none =>
    rw [Query.evaluate, getCredentialMetadata_ledger, hm] at heval
    cases heval
  | some m =>
    rw [Query.evaluate, getCredentialMetadata_ledger, hm] at heval
    obtain rfl : m.coerce.encode = v := Except.ok.inj heval
    rw [encode_coerce_metadata] at hread
    have hsame := (serde.fromSlice_text _ _ _ _ (Json.read_print _ _ _) (plain_metadata m)
      (depth_metadata_le m)).mp hread
    rw [deserialize_metadata] at hsame
    obtain rfl := Option.some.inj hsame
    exact ⟨m, rfl, rfl, rfl⟩

end Queries

/-! ## The check

Both answers together, compared with the time. -/

namespace FabricClient

section Check

variable {fabric : Gateway (List Transaction)} (serde : SerdeJson) {txs : List Transaction}
  {id : String} {m : CredentialMetadata} (now : DateTime)

/-- **The check of a recorded credential.** -/
theorem verifyCredentialActive_of_recorded (hanswers : fabric.Answers txs)
    (hm : registries txs .credential (.ofString id) = some m) :
    verifyCredentialActive fabric serde now id txs =
      (if m.revoked then .error (.revocationError ("Credential revoked: " ++ id))
        else if m.expiresAt < now.seconds then
          .error (.revocationError ("Credential expired: " ++ id))
        else .ok true, txs) := by
  obtain ⟨metadata, hexpiry, hmetadata⟩ := getCredentialMetadata_of_credential serde hanswers hm
  rw [verifyCredentialActive,
    EffectM.bind_of_eq_ok (isCredentialRevoked_of_recorded serde hanswers hm)]
  cases m.revoked with
  | true => rfl
  | false =>
    simp only [Bool.false_eq_true, if_false]
    rw [EffectM.bind_of_eq_ok hmetadata, hexpiry]
    split <;> rfl

/-- Only a credential that is recorded, not revoked and not expired is active. -/
lemma verifyCredentialActive_eq_ok_iff (hanswers : fabric.Answers txs)
    (hm : registries txs .credential (.ofString id) = some m) :
    (verifyCredentialActive fabric serde now id txs).1 = .ok true ↔
      m.revoked = false ∧ now.seconds ≤ m.expiresAt := by
  rw [verifyCredentialActive_of_recorded serde now hanswers hm]
  cases m.revoked with
  | true => simp
  | false =>
    by_cases h : m.expiresAt < now.seconds
    · simp [h, Int64.not_le.mpr h]
    · simp [h, Int64.not_lt.mp h]

/-- **A credential that is not recorded is not active.** -/
theorem verifyCredentialActive_of_not_recorded (hserves : fabric.Serves)
    (hm : registries txs .credential (.ofString id) = none) :
    ∃ e, (verifyCredentialActive fabric serde now id txs).1 = .error e := by
  obtain ⟨e, heval⟩ : ∃ e, (Query.isCredentialRevoked (.ofString id)).evaluate
      (ledger txs).state = .error e := by
    rw [Query.evaluate, DZTA.isCredentialRevoked, getCredentialMetadata_ledger, hm]
    exact ⟨_, rfl⟩
  obtain ⟨e', hquery⟩ : ∃ e', isCredentialRevoked fabric serde id txs = (.error e', txs) :=
    queryAs_error hserves rfl heval
  exact ⟨e', by rw [verifyCredentialActive, EffectM.bind_of_eq_error hquery]⟩

end Check

/-- **The check never answers `false`**, whatever stands behind the client. -/
theorem verifyCredentialActive_ne_false {σ : Type} (fabric : Gateway σ) (serde : SerdeJson)
    (now : DateTime) (id : String) (s : σ) :
    (verifyCredentialActive fabric serde now id s).1 ≠ .ok false := by
  intro h
  obtain ⟨revoked, s₁, -, h⟩ := EffectM.bind_eq_ok_iff.mp (Prod.ext h rfl)
  cases revoked with
  | true => cases (Prod.mk.inj h).1
  | false =>
    obtain ⟨metadata, s₂, -, h⟩ := EffectM.bind_eq_ok_iff.mp h
    split at h
    · cases (Prod.mk.inj h).1
    · cases (Prod.mk.inj h).1

end FabricClient

end DZTA
