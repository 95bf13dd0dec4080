import Dzta.Chaincode.Ledger
import Mathlib.Logic.Function.Basic

/-!
# The three registries

What the chaincode is for: a registry of schemas, one of credentials and one of DID documents,
each a partial function from ids to records.  A committed transaction changes one record of one
registry (`Registries.commit`), and **the world state refines the registries** over every run
(`refines_ledger`): under the key of each record lies its JSON, and there are no other keys.

Everything that is read from the ledger is then read from the registries (`getSchema_eq`,
`getCredentialMetadata_eq`, `resolveDid_eq`), where a registry is a fold over the committed
transactions, and a record is decided by the transactions that target it (`registries_congr`).
-/

namespace DZTA

open GoJson

/-! ## The abstract model

What the chaincode is for: a partial map from ids to records for each kind. -/

/-- The records of a kind. -/
abbrev Record : Kind → Type
  | .schema => CredentialSchema
  | .credential => CredentialMetadata
  | .did => DIDDocument

/-- The JSON of a record. -/
def Record.encode : (k : Kind) → Record k → Json
  | .schema => CredentialSchema.encode
  | .credential => CredentialMetadata.encode
  | .did => DIDDocument.encode

/-- The records that are registered, by kind and id. -/
abbrev Registries := (k : Kind) → GoString → Option (Record k)

namespace Registries

/-- No records. -/
def empty : Registries := fun _ _ => none

/-- Replaces one record. -/
def set (r : Registries) (k : Kind) (id : GoString) (x : Option (Record k)) : Registries :=
  Function.update r k (Function.update (r k) id x)

/-- What an operation does to the registries when it is committed at a given time. -/
def perform (r : Registries) (seconds : Int64) : Operation → Registries
  | .registerSchema schemaId issuerDid name version attributesJson =>
    r.set .schema schemaId (some ⟨schemaId, issuerDid, name, version,
      (parseAttributes attributesJson).getD none, seconds⟩)
  | .recordCredentialMetadata credentialId schemaId issuerDid subjectDid expiresAt =>
    r.set .credential credentialId (some
      ⟨credentialId, schemaId, issuerDid, subjectDid, seconds, expiresAt, false⟩)
  | .revokeCredential credentialId =>
    r.set .credential credentialId
      ((r .credential credentialId).map fun m => { m with revoked := true })
  | .registerDid did issuerDid publicKey =>
    r.set .did did (some (newDidDocument did issuerDid publicKey))

/-- What a committed transaction does to the registries. -/
def commit (r : Registries) (tx : Transaction) : Registries := r.perform tx.seconds tx.operation

@[simp] lemma set_self (r : Registries) (k : Kind) (id : GoString) (x : Option (Record k)) :
    r.set k id x k id = x := by
  simp [set]

lemma set_of_ne (r : Registries) {k k' : Kind} {id id' : GoString} (x : Option (Record k))
    (h : (k, id) ≠ (k', id')) : r.set k id x k' id' = r k' id' := by
  rw [set]
  by_cases hk : k' = k
  · subst hk
    have hid : id' ≠ id := fun e => h (by rw [e])
    rw [Function.update_self, Function.update_of_ne hid]
  · rw [Function.update_of_ne hk]

/-- **An operation changes no record but its target.** -/
theorem perform_of_ne (r : Registries) (seconds : Int64) {op : Operation} {k : Kind}
    {id : GoString} (h : op.target ≠ (k, id)) : r.perform seconds op k id = r k id := by
  cases op <;> exact set_of_ne r _ h

lemma commit_of_ne (r : Registries) {tx : Transaction} {k : Kind} {id : GoString}
    (h : tx.operation.target ≠ (k, id)) : r.commit tx k id = r k id :=
  r.perform_of_ne tx.seconds h

/-- What an operation makes of its target depends on the target only. -/
lemma perform_congr {r r' : Registries} {k : Kind} {id : GoString} (seconds : Int64)
    (op : Operation) (h : r k id = r' k id) :
    r.perform seconds op k id = r'.perform seconds op k id := by
  by_cases htarget : op.target = (k, id)
  · cases op with
    | revokeCredential credentialId =>
      obtain ⟨rfl, rfl⟩ := Prod.mk.inj htarget
      simp only [perform, set_self, h]
    | _ =>
      obtain ⟨rfl, rfl⟩ := Prod.mk.inj htarget
      simp only [perform, set_self]
  · rw [r.perform_of_ne seconds htarget, r'.perform_of_ne seconds htarget, h]

end Registries

/-- The registries after a list of transactions. -/
def registries (txs : List Transaction) : Registries :=
  (committed txs).foldl Registries.commit .empty

/-! ## The refinement

A world state stands for registries if it has the text of each record under its key. -/

/-- The world state holds the JSON of every registered record under its key, and nothing else. -/
structure Refines (w : WorldState) (r : Registries) : Prop where
  lookup : ∀ k id, w.lookup (key k id) = (r k id).map fun x => marshal (Record.encode k x)
  keys : ∀ key' ∈ w, ∃ k id, key' = key k id

namespace Refines

/-- Writing the JSON of a record refines replacing it. -/
lemma insert {w : WorldState} {r r' : Registries} {k : Kind} {id : GoString} {x : Record k}
    (h : Refines w r) (hself : r' k id = some x)
    (hother : ∀ k' id', (k, id) ≠ (k', id') → r' k' id' = r k' id') :
    Refines (w.insert (key k id) (marshal (Record.encode k x))) r' where
  lookup k' id' := by
    by_cases hk : (k, id) = (k', id')
    · obtain ⟨rfl, rfl⟩ := Prod.mk.inj hk
      rw [AList.lookup_insert, hself, Option.map_some]
    · have hkey : key k' id' ≠ key k id := fun e => hk (by
        obtain ⟨rfl, rfl⟩ := key_inj.mp e
        rfl)
      rw [AList.lookup_insert_ne hkey, h.lookup, hother k' id' hk]
  keys key' hmem := by
    rcases (AList.mem_insert _).mp hmem with rfl | hmem
    · exact ⟨k, id, rfl⟩
    · exact h.keys key' hmem

end Refines

/-! ### Reading

What a read returns is the record, with its texts as JSON leaves them. -/

lemma getRecord_of_lookup {α : Type} {stub : Stub} {k : Kind} {decode : Decoder α} {zero a : α}
    {missing id : GoString} {j : Json} (hfault : stub.fault (.getState (key k id)) = none)
    (hlookup : stub.state.lookup (key k id) = some (marshal j))
    (hdepth : Json.depth j ≤ maxNestingDepth) (hdecode : decode j zero = some a) :
    getRecord stub k decode zero missing id = .ok a := by
  have hunmarshal : unmarshal decode (marshal j) zero = some a := by
    rw [unmarshal, parse_marshal hdepth]
    exact hdecode
  simp only [getRecord, Stub.getState, Stub.call, hfault, hlookup, bind, Except.bind, pure,
    Except.pure, unmarshalOrError, hunmarshal]

lemma getRecord_of_lookup_none {α : Type} {stub : Stub} {k : Kind} {decode : Decoder α} {zero : α}
    {missing id : GoString} (hfault : stub.fault (.getState (key k id)) = none)
    (hlookup : stub.state.lookup (key k id) = none) :
    getRecord stub k decode zero missing id = .error (.message missing) := by
  simp only [getRecord, Stub.getState, Stub.call, hfault, hlookup, bind, Except.bind, pure,
    Except.pure]

section Reading

variable (stub : Stub) {r : Registries} (h : Refines stub.state r)

include h

/-- **`GetCredentialMetadata` reads the registry of credentials.** -/
theorem getCredentialMetadata_eq {id : GoString}
    (hfault : stub.fault (.getState (key .credential id)) = none) :
    getCredentialMetadata stub id =
      match r .credential id with
      | some m => .ok m.coerce
      | none => .error (.message (GoString.ofString "credential " ++ id ++
          GoString.ofString " metadata does not exist")) := by
  have hlookup := h.lookup .credential id
  cases hr : r .credential id with
  | none =>
    rw [hr] at hlookup
    exact getRecord_of_lookup_none hfault hlookup
  | some m =>
    rw [hr] at hlookup
    exact getRecord_of_lookup hfault hlookup (depth_metadata m) (CredentialMetadata.decode_encode m)

/-- **`GetSchema` reads the registry of schemas.** -/
theorem getSchema_eq {id : GoString}
    (hfault : stub.fault (.getState (key .schema id)) = none) :
    getSchema stub id =
      match r .schema id with
      | some s => .ok s.coerce
      | none => .error (.message (GoString.ofString "schema " ++ id ++
          GoString.ofString " does not exist")) := by
  have hlookup := h.lookup .schema id
  cases hr : r .schema id with
  | none =>
    rw [hr] at hlookup
    exact getRecord_of_lookup_none hfault hlookup
  | some s =>
    rw [hr] at hlookup
    exact getRecord_of_lookup hfault hlookup (depth_schema s) (CredentialSchema.decode_encode s)

/-- **`ResolveDID` reads the registry of DID documents.** -/
theorem resolveDid_eq {id : GoString}
    (hfault : stub.fault (.getState (key .did id)) = none) :
    resolveDid stub id =
      match r .did id with
      | some d => .ok d.coerce
      | none => .error (.message (GoString.ofString "did document " ++ id ++
          GoString.ofString " does not exist")) := by
  have hlookup := h.lookup .did id
  cases hr : r .did id with
  | none =>
    rw [hr] at hlookup
    exact getRecord_of_lookup_none hfault hlookup
  | some d =>
    rw [hr] at hlookup
    exact getRecord_of_lookup hfault hlookup (depth_didDocument d) (DIDDocument.decode_encode d)

end Reading

/-- The metadata that a stub returns, even one that fails some calls, is in the registry. -/
lemma credential_of_getCredentialMetadata (stub : Stub) {r : Registries}
    (h : Refines stub.state r) {id : GoString} {metadata : CredentialMetadata}
    (hget : getCredentialMetadata stub id = .ok metadata) :
    ∃ m, r .credential id = some m ∧ metadata = m.coerce := by
  obtain ⟨text, hlookup, hunmarshal⟩ := getRecord_eq_ok hget
  rw [h.lookup] at hlookup
  obtain ⟨m, hm, rfl⟩ := Option.map_eq_some_iff.mp hlookup
  refine ⟨m, hm, ?_⟩
  rw [unmarshal, Record.encode, parse_marshal (depth_metadata m)] at hunmarshal
  have hdecode := CredentialMetadata.decode_encode m
  exact Option.some.inj (hunmarshal.symm.trans hdecode)

/-! ### Runs

Each transaction does to the world state what it does to the registries. -/

/-- **What an operation writes refines what it does to the registries.** -/
theorem refines_perform (stub : Stub) {r : Registries} {op : Operation} {text : String}
    {event : Option Event} (h : Refines stub.state r)
    (hcommits : Ledger.Commits stub op text event) :
    Refines (stub.state.insert (key op.target.1 op.target.2) text)
      (r.perform stub.txSeconds op) := by
  have hother := fun k' id' (hne : op.target ≠ (k', id')) => r.perform_of_ne stub.txSeconds hne
  cases hcommits with
  | @registerSchema schemaId issuerDid name version _ attributes hattributes =>
    refine h.insert (k := .schema)
      (x := ⟨schemaId, issuerDid, name, version, attributes, stub.txSeconds⟩) ?_ hother
    simp only [Registries.perform, Operation.target, Registries.set_self, hattributes,
      Option.getD_some]
  | @recordCredentialMetadata credentialId schemaId issuerDid subjectDid expiresAt =>
    exact h.insert (k := .credential) (x :=
      ⟨credentialId, schemaId, issuerDid, subjectDid, stub.txSeconds, expiresAt, false⟩)
      (Registries.set_self ..) hother
  | @revokeCredential credentialId metadata hmetadata =>
    -- the record is written back as it was read, and coercing it twice changes nothing
    obtain ⟨m, hm, rfl⟩ := credential_of_getCredentialMetadata stub h hmetadata
    have hencode : ({ m.coerce with revoked := true } : CredentialMetadata).encode =
        ({ m with revoked := true } : CredentialMetadata).encode := by
      simp [CredentialMetadata.encode, CredentialMetadata.coerce]
    rw [hencode]
    refine h.insert (k := .credential) (x := { m with revoked := true }) ?_ hother
    simp only [Registries.perform, Operation.target, Registries.set_self, hm, Option.map_some]
  | @registerDid did issuerDid publicKey hargs =>
    exact h.insert (k := .did) (x := newDidDocument did issuerDid publicKey)
      (Registries.set_self ..) hother

/-- **A committed transaction refines its abstract effect.** -/
theorem refines_submit {l : Ledger} {r : Registries} {tx : Transaction} (h : Refines l.state r)
    (hok : (l.submit tx).2.isOk = true) : Refines (l.submit tx).1.state (r.commit tx) := by
  obtain ⟨text, event, hcommits, hsubmit⟩ := Ledger.submit_eq_ok hok
  rw [hsubmit]
  exact refines_perform (tx.stub l.state) h hcommits

lemma refines_genesis : Refines Ledger.genesis.state .empty where
  lookup _ _ := rfl
  keys _ hmem := absurd hmem (AList.notMem_empty _)

/-- **The world state refines the registries after every run.** -/
theorem refines_ledger (txs : List Transaction) : Refines (ledger txs).state (registries txs) := by
  refine Machine.simulation_accepted Ledger.submit Except.isOk (fun l r => Refines l.state r)
    Registries.commit (fun l r tx h hok => refines_submit h hok) (fun l r tx h herror => ?_)
    refines_genesis txs
  rw [Ledger.submit_of_error herror]
  exact h

/-! ## What decides a record

Transactions for other ids do not touch it. -/

/-- **Only the committed transactions on a record decide it**: two runs that agree on them agree
on the record. -/
theorem registries_congr {txs txs' : List Transaction} {k : Kind} {id : GoString}
    (h : (committed txs).filter (fun tx => tx.operation.target = (k, id)) =
      (committed txs').filter (fun tx => tx.operation.target = (k, id))) :
    registries txs k id = registries txs' k id := by
  have hfilter := fun log => Machine.view_foldl_filter Registries.commit
    (fun r : Registries => r k id) (fun tx => decide (tx.operation.target = (k, id)))
    (fun tx r r' hr => Registries.perform_congr tx.seconds tx.operation hr)
    (fun tx r htx => r.commit_of_ne (of_decide_eq_false htx)) log (rfl : Registries.empty k id = _)
  rw [registries, registries]
  exact (hfilter _).trans ((congrArg (fun log => log.foldl Registries.commit .empty k id) h).trans
    (hfilter _).symm)

lemma registries_eq_none {txs : List Transaction} {k : Kind} {id : GoString}
    (h : ∀ tx ∈ committed txs, tx.operation.target ≠ (k, id)) : registries txs k id = none :=
  Machine.view_foldl_of_frame Registries.commit (fun r : Registries => r k id)
    (fun tx htx r => r.commit_of_ne (h tx htx)) _

/-- The last committed transaction on a record decides it. -/
lemma registries_of_last {txs pre post : List Transaction} {tx : Transaction} {k : Kind}
    {id : GoString} (hlog : committed txs = pre ++ tx :: post)
    (hpost : ∀ t ∈ post, t.operation.target ≠ (k, id)) :
    registries txs k id = (pre.foldl Registries.commit .empty).commit tx k id := by
  rw [registries, hlog]
  exact Machine.view_foldl_append_cons Registries.commit (fun r : Registries => r k id)
    (fun t ht r => r.commit_of_ne (hpost t ht)) _

end DZTA
