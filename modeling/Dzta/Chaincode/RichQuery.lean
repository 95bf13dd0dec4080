import Dzta.Chaincode.History

/-!
# The rich query for the DIDs of an issuer

`QueryDIDsByIssuer` writes the issuer into the text of a CouchDB selector and decodes whatever
rows come back as DID documents.  Of CouchDB the model assumes one thing (`CouchDb`): a selector
on the field `issuer_did` returns the documents of the world state whose field has the value.

The query is meant to return the DID documents of an issuer.  It does so **exactly when**
(`queryDidsByIssuer_exact_iff`) the issuer denotes itself between the quotes of the selector and no
schema and no credential names it as issuer; or it denotes another value there, which no document
has, and it has no DIDs either.  Every kind of record has the field and every kind decodes as a DID
document, so an issuer that has recorded a single credential gets back a document that is not a
DID document (`queryDidsByIssuer_not_exact`).
-/

namespace DZTA

open GoJson

/-! ## CouchDB

The database selects documents by a member, and returns them in an order of its own. -/

/-- The documents of a world state with their keys. -/
def WorldState.rows (w : WorldState) : List (GoString × String) := w.entries.map fun e => (e.1, e.2)

/-- The string in the field `issuer_did` of a document. -/
def documentIssuer? (text : String) : Option String := do
  let document ← Json.read none text.toList
  let member ← document.member? "issuer_did"
  member.asString?

/-- The value that a query asks for, if its text is a selector on the field `issuer_did`. -/
def selectedIssuer? (query : GoString) : Option String := do
  let text ← Bytes.utf8Decode? query
  match Json.read none text.toList with
  | some (.obj [("selector", .obj [("issuer_did", .str issuer)])]) => some issuer
  | _ => none

/-- The documents that have a given issuer. -/
def WorldState.selectedRows (w : WorldState) (issuer : String) : List (GoString × String) :=
  w.rows.filter fun row => documentIssuer? row.2 = some issuer

/-- The state database: what it answers to a query, with what it promises for a selector. -/
structure CouchDb where
  getQueryResult : WorldState → GoString → Except GoError (List (GoString × String))
  selector : ∀ w query issuer, selectedIssuer? query = some issuer →
    ∃ rows, getQueryResult w query = .ok rows ∧ rows.Perm (w.selectedRows issuer)

/-- A state database that answers selectors only, in the order of the world state. -/
def CouchDb.selectorsOnly : CouchDb where
  getQueryResult w query :=
    match selectedIssuer? query with
    | some issuer => .ok (w.selectedRows issuer)
    | none => .error (.stub [])
  selector w query issuer h := ⟨_, by rw [h], .refl _⟩

/-! ## The query

The issuer is put into the text of the query as it is. -/

/-- The text of the selector. -/
def queryString (issuerDid : GoString) : GoString :=
  GoString.ofString "\x7b\"selector\":\x7b\"issuer_did\":\"" ++ issuerDid ++
    GoString.ofString "\"\x7d\x7d"

/-- `QueryDIDsByIssuer`; the slice of a query without rows is `nil`. -/
def queryDidsByIssuer (db : CouchDb) (w : WorldState) (issuerDid : GoString) :
    Except GoError (Option (List DIDDocument)) := do
  let rows ← db.getQueryResult w (queryString issuerDid)
  let documents ← rows.mapM fun row => unmarshalOrError DIDDocument.decode row.2 {}
  return if documents = [] then none else some documents

/-- The DID documents that are stored under the key of a DID and have a given issuer. -/
def registeredDids (w : WorldState) (issuerDid : GoString) : List DIDDocument :=
  w.rows.filterMap fun row =>
    if (GoString.ofString Kind.did.keyPrefix).isPrefixOf row.1 then
      (unmarshal DIDDocument.decode row.2 {}).filter fun d => d.issuerDid = issuerDid
    else none

/-- The query returns the DID documents of the issuer, each once, and nothing else. -/
def QueryExact (db : CouchDb) (w : WorldState) (issuerDid : GoString) : Prop :=
  ∃ documents, queryDidsByIssuer db w issuerDid = .ok documents ∧
    (documents.getD []).Perm (registeredDids w issuerDid)

/-! ## The documents of a reachable world state

All kinds of records have the member that is selected. -/

namespace Record

/-- The issuer of a record. -/
def issuerDid : (k : Kind) → Record k → GoString
  | .schema => CredentialSchema.issuerDid
  | .credential => CredentialMetadata.issuerDid
  | .did => DIDDocument.issuerDid

/-- What a record is when its JSON is decoded as a DID document. -/
def asDidDocument : (k : Kind) → Record k → DIDDocument
  | .schema, s => { issuerDid := s.issuerDid.coerce }
  | .credential, m => { issuerDid := m.issuerDid.coerce }
  | .did, d => d.coerce

@[simp] lemma issuerDid_asDidDocument (k : Kind) (x : Record k) :
    (asDidDocument k x).issuerDid = (issuerDid k x).coerce := by
  cases k <;> rfl

/-- **Every kind of record decodes as a DID document.** -/
lemma unmarshal_asDidDocument (k : Kind) (x : Record k) :
    unmarshal DIDDocument.decode (marshal (encode k x)) {} = some (asDidDocument k x) := by
  cases k with
  | schema =>
    rw [unmarshal, encode, parse_marshal (depth_schema x)]
    exact DIDDocument.decode_schema x
  | credential =>
    rw [unmarshal, encode, parse_marshal (depth_metadata x)]
    exact DIDDocument.decode_metadata x
  | did =>
    rw [unmarshal, encode, parse_marshal (depth_didDocument x)]
    exact DIDDocument.decode_encode x

/-- **Every kind of record has the field** that the query selects on. -/
lemma documentIssuer?_marshal (k : Kind) (x : Record k) :
    documentIssuer? (marshal (encode k x)) = some (Bytes.utf8Lossy (issuerDid k x)) := by
  rw [documentIssuer?, marshal, String.toList_ofList, Json.read_print]
  cases k with
  | schema => simp [encode, CredentialSchema.encode, Json.lastMember_cons, encodeString, issuerDid]
  | credential =>
    simp [encode, CredentialMetadata.encode, Json.lastMember_cons, encodeString, issuerDid]
  | did =>
    rcases h : DIDDocument.context x with _ | ⟨_ | ⟨c, cs⟩⟩ <;>
      simp [encode, DIDDocument.encode, DIDDocument.encodeContext, h, Json.lastMember_cons,
        encodeString, issuerDid]

end Record

namespace Refines

variable {w : WorldState} {r : Registries} (h : Refines w r)

include h

lemma exists_of_mem_rows {row : GoString × String} (hrow : row ∈ w.rows) :
    ∃ k id x, r k id = some x ∧ row = (key k id, marshal (Record.encode k x)) := by
  obtain ⟨e, he, rfl⟩ := List.mem_map.mp hrow
  have hlookup : w.lookup e.1 = some e.2 := AList.mem_lookup_iff.mpr he
  obtain ⟨k, id, hkey⟩ := h.keys e.1 (AList.lookup_isSome.mp (by rw [hlookup]; rfl))
  rw [hkey, h.lookup] at hlookup
  obtain ⟨x, hx, htext⟩ := Option.map_eq_some_iff.mp hlookup
  exact ⟨k, id, x, hx, by rw [hkey, htext]⟩

lemma mem_rows {k : Kind} {id : GoString} {x : Record k} (hx : r k id = some x) :
    (key k id, marshal (Record.encode k x)) ∈ w.rows := by
  have hlookup : w.lookup (key k id) = some (marshal (Record.encode k x)) := by
    rw [h.lookup, hx, Option.map_some]
  exact List.mem_map.mpr ⟨_, AList.mem_lookup_iff.mp hlookup, rfl⟩

end Refines

/-- The keys of DID documents are told from the others by their prefix. -/
lemma isPrefixOf_key (k : Kind) (id : GoString) :
    (GoString.ofString Kind.did.keyPrefix).isPrefixOf (key k id) = decide (k = .did) := by
  cases k with
  | did => simp [key]
  | _ => rfl

/-- The row of a record contributes to the DIDs of an issuer if it is a DID document of that
issuer. -/
lemma registeredDids_row (issuerDid : GoString) (k : Kind) (id : GoString) (x : Record k) :
    (if (GoString.ofString Kind.did.keyPrefix).isPrefixOf (key k id) then
      (unmarshal DIDDocument.decode (marshal (Record.encode k x)) {}).filter
        fun d => d.issuerDid = issuerDid
    else none) =
      if k = .did ∧ (Record.issuerDid k x).coerce = issuerDid then
        some (Record.asDidDocument k x)
      else none := by
  rw [isPrefixOf_key, Record.unmarshal_asDidDocument]
  by_cases hk : k = .did <;> simp [hk, Option.filter_some]

lemma mem_registeredDids {w : WorldState} {r : Registries} (h : Refines w r)
    {issuerDid : GoString} {d : DIDDocument} :
    d ∈ registeredDids w issuerDid ↔
      ∃ id x, r .did id = some x ∧ DIDDocument.coerce x = d ∧ d.issuerDid = issuerDid := by
  rw [registeredDids, List.mem_filterMap]
  constructor
  · rintro ⟨row, hrow, hd⟩
    obtain ⟨k, id, x, hx, rfl⟩ := h.exists_of_mem_rows hrow
    rw [registeredDids_row] at hd
    split at hd
    · rename_i hcond
      obtain ⟨rfl, hissuer⟩ := hcond
      obtain rfl := Option.some.inj hd
      exact ⟨id, x, hx, rfl, hissuer⟩
    · cases hd
  · rintro ⟨id, x, hx, rfl, hissuer⟩
    refine ⟨_, h.mem_rows hx, ?_⟩
    rw [registeredDids_row, if_pos ⟨rfl, hissuer⟩]
    rfl

/-! ## What the query returns

Each selected record is read as a document, whatever its kind. -/

/-- A row as a DID document. -/
def asDidDocument (row : GoString × String) : DIDDocument :=
  (unmarshal DIDDocument.decode row.2 {}).getD {}

lemma mapM_unmarshal {w : WorldState} {r : Registries} (h : Refines w r)
    {rows : List (GoString × String)} (hrows : ∀ row ∈ rows, row ∈ w.rows) :
    (rows.mapM fun row => unmarshalOrError DIDDocument.decode row.2 {}) =
      .ok (rows.map asDidDocument) := by
  induction rows with
  | nil => rfl
  | cons row rows ih =>
    obtain ⟨k, id, x, -, hrow⟩ := h.exists_of_mem_rows (hrows row List.mem_cons_self)
    have hdecode := Record.unmarshal_asDidDocument k x
    rw [List.mapM_cons, ih fun s hs => hrows s (List.mem_cons_of_mem _ hs), List.map_cons,
      asDidDocument, hrow, unmarshalOrError, hdecode]
    rfl

/-- **The query returns the selected rows**, whatever they are. -/
theorem queryExact_iff {w : WorldState} {r : Registries} (h : Refines w r) (db : CouchDb)
    {issuerDid : GoString} {issuer : String}
    (hselected : selectedIssuer? (queryString issuerDid) = some issuer) :
    QueryExact db w issuerDid ↔
      ((w.selectedRows issuer).map asDidDocument).Perm (registeredDids w issuerDid) := by
  obtain ⟨rows, hquery, hperm⟩ := db.selector w _ issuer hselected
  have hmem : ∀ row ∈ rows, row ∈ w.rows := fun row hrow =>
    (List.mem_filter.mp (hperm.mem_iff.mp hrow)).1
  have hresult : queryDidsByIssuer db w issuerDid =
      .ok (if rows.map asDidDocument = [] then none else some (rows.map asDidDocument)) := by
    rw [queryDidsByIssuer, hquery]
    simp only [bind, Except.bind, mapM_unmarshal h hmem, pure, Except.pure]
  have hdocuments : (if rows.map asDidDocument = [] then none
      else some (rows.map asDidDocument)).getD [] = rows.map asDidDocument := by
    split <;> simp [*]
  constructor
  · rintro ⟨documents, hdocs, hexact⟩
    rw [hresult] at hdocs
    obtain rfl := Except.ok.inj hdocs
    rw [hdocuments] at hexact
    exact (hperm.map asDidDocument).symm.trans hexact
  · intro hexact
    refine ⟨_, hresult, ?_⟩
    rw [hdocuments]
    exact (hperm.map asDidDocument).trans hexact

lemma mem_selectedRows {w : WorldState} {r : Registries} (h : Refines w r) {issuer : String}
    {k : Kind} {id : GoString} {x : Record k} (hx : r k id = some x)
    (hissuer : (Record.issuerDid k x).coerce = Bytes.utf8 issuer) :
    Record.asDidDocument k x ∈ (w.selectedRows issuer).map asDidDocument := by
  refine List.mem_map.mpr ⟨_, List.mem_filter.mpr ⟨h.mem_rows hx, ?_⟩, ?_⟩
  · rw [Record.documentIssuer?_marshal, Bytes.utf8_injective hissuer]
    exact decide_eq_true rfl
  · rw [asDidDocument, Record.unmarshal_asDidDocument, Option.getD_some]

lemma issuerDid_of_mem_selectedRows {w : WorldState} {r : Registries} (h : Refines w r)
    {issuer : String} {d : DIDDocument} (hd : d ∈ (w.selectedRows issuer).map asDidDocument) :
    ∃ k id x, r k id = some x ∧ (Record.issuerDid k x).coerce = Bytes.utf8 issuer ∧
      d = Record.asDidDocument k x := by
  obtain ⟨row, hrow, rfl⟩ := List.mem_map.mp hd
  obtain ⟨hmem, hselected⟩ := List.mem_filter.mp hrow
  obtain ⟨k, id, x, hx, rfl⟩ := h.exists_of_mem_rows hmem
  rw [Record.documentIssuer?_marshal, decide_eq_true_eq] at hselected
  refine ⟨k, id, x, hx, ?_, ?_⟩
  · rw [GoString.coerce, Option.some.inj hselected]
  · rw [asDidDocument, Record.unmarshal_asDidDocument, Option.getD_some]

/-- If only DID documents have the issuer, the selected rows are the DIDs of the issuer. -/
lemma selectedRows_eq_registeredDids {w : WorldState} {r : Registries} (h : Refines w r)
    {issuerDid : GoString} {issuer : String} (hself : Bytes.utf8 issuer = issuerDid)
    (honly : ∀ k id x, r k id = some x → (Record.issuerDid k x).coerce = issuerDid → k = .did) :
    (w.selectedRows issuer).map asDidDocument = registeredDids w issuerDid := by
  rw [WorldState.selectedRows, registeredDids, ← List.filterMap_eq_map, List.filterMap_filter]
  refine List.filterMap_congr fun row hrow => ?_
  obtain ⟨k, id, x, hx, rfl⟩ := h.exists_of_mem_rows hrow
  rw [registeredDids_row, Record.documentIssuer?_marshal, Function.comp_apply, asDidDocument,
    Record.unmarshal_asDidDocument, Option.getD_some]
  have hiff : some (Bytes.utf8Lossy (Record.issuerDid k x)) = some issuer ↔
      (Record.issuerDid k x).coerce = issuerDid := by
    rw [Option.some.injEq, ← hself, GoString.coerce]
    exact ⟨congrArg Bytes.utf8, fun e => Bytes.utf8_injective e⟩
  by_cases hissuer : (Record.issuerDid k x).coerce = issuerDid
  · rw [if_pos (decide_eq_true (hiff.mpr hissuer)), if_pos ⟨honly k id x hx hissuer, hissuer⟩]
  · rw [if_neg (by simpa using fun e => hissuer (hiff.mp (congrArg some e))),
      if_neg fun e => hissuer e.2]

/-! ## When the query is exact

The text that is selected is the issuer itself, or something that escapes make of it; in each case
other records decide. -/

/-- Registered DIDs are not empty. -/
theorem did_id_ne_nil {txs : List Transaction} {id : GoString} {d : DIDDocument}
    (h : registries txs .did id = some d) : d.coerce.id ≠ [] := by
  have hinv := Machine.simulation_accepted Ledger.submit Except.isOk
    (fun (_ : Ledger) (r : Registries) =>
      ∀ (id : GoString) (d : DIDDocument), r .did id = some d → d.id ≠ [])
    Registries.commit
    (fun l r tx hr hok => by
      obtain ⟨text, event, hcommits, -⟩ := Ledger.submit_eq_ok hok
      intro id d hd
      by_cases htarget : tx.operation.target = (.did, id)
      · rw [Registries.commit] at hd
        generalize tx.operation = op at hcommits htarget hd
        cases hcommits with
        | registerDid hargs =>
          obtain ⟨-, rfl⟩ := Prod.mk.inj htarget
          rw [Registries.perform, Registries.set_self] at hd
          obtain rfl := Option.some.inj hd
          exact hargs.1
        | _ => cases htarget
      · exact hr id d ((r.commit_of_ne htarget).symm.trans hd))
    (fun l r tx hr _ => hr) (s := Ledger.genesis) (t := .empty) (fun _ _ hd => by cases hd) txs
  have hid := hinv id d h
  rwa [DIDDocument.coerce, ne_eq, GoString.coerce_eq_nil]

section Exact

variable {txs : List Transaction} {issuerDid : GoString} {issuer : String}

/-- An issuer that denotes itself in the query: its DIDs are the selected rows if only DID
documents have it as issuer. -/
lemma selectedRows_perm_iff_of_eq (hself : Bytes.utf8 issuer = issuerDid) :
    (((ledger txs).state.selectedRows issuer).map asDidDocument).Perm
        (registeredDids (ledger txs).state issuerDid) ↔
      ∀ k id x, registries txs k id = some x → (Record.issuerDid k x).coerce = issuerDid →
        k = .did := by
  have h := refines_ledger txs
  constructor
  · intro hperm k id x hx hissuer
    -- a record that is not a DID document decodes as one with an empty id
    have hmem := hperm.mem_iff.mp (mem_selectedRows h hx (hissuer.trans hself.symm))
    obtain ⟨id', d, hd, heq, -⟩ := (mem_registeredDids h).mp hmem
    have hid := did_id_ne_nil hd
    rw [heq] at hid
    cases k with
    | did => rfl
    | _ => exact absurd rfl hid
  · intro honly
    rw [selectedRows_eq_registeredDids h hself honly]

/-- An issuer that denotes another value in the query: every selected row is one too many, and
every DID of the issuer is missing. -/
lemma selectedRows_perm_iff_of_ne (hself : Bytes.utf8 issuer ≠ issuerDid) :
    (((ledger txs).state.selectedRows issuer).map asDidDocument).Perm
        (registeredDids (ledger txs).state issuerDid) ↔
      (∀ k id x, registries txs k id = some x →
        (Record.issuerDid k x).coerce ≠ Bytes.utf8 issuer) ∧
      ∀ id x, registries txs .did id = some x → (Record.issuerDid .did x).coerce ≠ issuerDid := by
  have h := refines_ledger txs
  constructor
  · intro hperm
    refine ⟨?_, ?_⟩
    · intro k id x hx hissuer
      have hmem := hperm.mem_iff.mp (mem_selectedRows h hx hissuer)
      obtain ⟨-, -, -, -, hd⟩ := (mem_registeredDids h).mp hmem
      rw [Record.issuerDid_asDidDocument, hissuer] at hd
      exact hself hd
    · intro id x hx hissuer
      have hmem := hperm.mem_iff.mpr ((mem_registeredDids h).mpr ⟨id, x, hx, rfl, hissuer⟩)
      obtain ⟨k, id', x', -, hissuer', heq⟩ := issuerDid_of_mem_selectedRows h hmem
      have hsame := congrArg DIDDocument.issuerDid heq
      rw [Record.issuerDid_asDidDocument, hissuer'] at hsame
      exact hself (hsame.symm.trans hissuer)
  · rintro ⟨hnone, hnodids⟩
    have hleft : ((ledger txs).state.selectedRows issuer).map asDidDocument = [] := by
      refine List.eq_nil_iff_forall_not_mem.mpr fun d hd => ?_
      obtain ⟨k, id, x, hx, hissuer, -⟩ := issuerDid_of_mem_selectedRows h hd
      exact hnone k id x hx hissuer
    have hright : registeredDids (ledger txs).state issuerDid = [] := by
      refine List.eq_nil_iff_forall_not_mem.mpr fun d hd => ?_
      obtain ⟨id, x, hx, rfl, hissuer⟩ := (mem_registeredDids h).mp hd
      exact hnodids id x hx hissuer
    rw [hleft, hright]

end Exact

/-- When the query is exact: the value it selects is the issuer, and no schema and no credential
has it as issuer; or it is another value, no record has that one, and the issuer has no DIDs. -/
def QueryCondition (r : Registries) (issuerDid : GoString) : Prop :=
  ∃ issuer, selectedIssuer? (queryString issuerDid) = some issuer ∧
    ((Bytes.utf8 issuer = issuerDid ∧
        ∀ k id x, r k id = some x → (Record.issuerDid k x).coerce = issuerDid → k = .did) ∨
      (Bytes.utf8 issuer ≠ issuerDid ∧
        (∀ k id x, r k id = some x → (Record.issuerDid k x).coerce ≠ Bytes.utf8 issuer) ∧
        ∀ id x, r .did id = some x → (Record.issuerDid .did x).coerce ≠ issuerDid))

/-- **`QueryDIDsByIssuer` is exact in a reachable state if and only if** the issuer denotes itself
in the text of the query and is the issuer of no schema and no credential, or it denotes a value
that no record has as its issuer and has no DIDs. -/
theorem queryDidsByIssuer_exact_iff (txs : List Transaction) (issuerDid : GoString) :
    (∀ db : CouchDb, QueryExact db (ledger txs).state issuerDid) ↔
      QueryCondition (registries txs) issuerDid := by
  cases hselected : selectedIssuer? (queryString issuerDid) with
  | none =>
    constructor
    · intro hexact
      obtain ⟨documents, hdocs, -⟩ := hexact .selectorsOnly
      simp [queryDidsByIssuer, CouchDb.selectorsOnly, hselected, bind, Except.bind] at hdocs
    · rintro ⟨issuer, hissuer, -⟩
      rw [hselected] at hissuer
      cases hissuer
  | some issuer =>
    have hperm : (∀ db : CouchDb, QueryExact db (ledger txs).state issuerDid) ↔
        (((ledger txs).state.selectedRows issuer).map asDidDocument).Perm
          (registeredDids (ledger txs).state issuerDid) :=
      ⟨fun hexact => (queryExact_iff (refines_ledger txs) .selectorsOnly hselected).mp (hexact _),
        fun hperm db => (queryExact_iff (refines_ledger txs) db hselected).mpr hperm⟩
    rw [hperm, QueryCondition, hselected]
    simp only [Option.some.injEq, exists_eq_left']
    by_cases hself : Bytes.utf8 issuer = issuerDid
    · rw [selectedRows_perm_iff_of_eq hself]
      simp only [hself, ne_eq, not_true_eq_false, true_and, false_and, or_false]
    · rw [selectedRows_perm_iff_of_ne hself]
      simp only [hself, ne_eq, not_false_eq_true, true_and, false_and, false_or]

/-! ## Issuers that denote themselves

A text without quotes, backslashes and control characters does. -/

lemma print_selector {issuer : String}
    (h : ∀ c ∈ issuer.toList, c ≠ '"' ∧ c ≠ '\\' ∧ 0x20 ≤ c.toNat) :
    Json.print (fun _ => false) (.obj [("selector", .obj [("issuer_did", .str issuer)])]) =
      "\x7b\"selector\":\x7b\"issuer_did\":\"".toList ++ issuer.toList ++ "\"\x7d\x7d".toList := by
  have hselector : Json.printString (fun _ => false) "selector" =
      ['s', 'e', 'l', 'e', 'c', 't', 'o', 'r', '"'] := by decide
  have hfield : Json.printString (fun _ => false) "issuer_did" =
      ['i', 's', 's', 'u', 'e', 'r', '_', 'd', 'i', 'd', '"'] := by decide
  simp only [Json.print, Json.printMembers, Json.printString_plain h, hselector, hfield,
    List.cons_append, List.nil_append, List.append_assoc]
  rfl

/-- An issuer without quotes, backslashes and control characters denotes itself in the query. -/
theorem selectedIssuer?_plain {issuer : String}
    (h : ∀ c ∈ issuer.toList, c ≠ '"' ∧ c ≠ '\\' ∧ 0x20 ≤ c.toNat) :
    selectedIssuer? (queryString (Bytes.utf8 issuer)) = some issuer := by
  rw [queryString, GoString.ofString, GoString.ofString, ← Bytes.utf8_append,
    ← Bytes.utf8_append, selectedIssuer?, Bytes.utf8Decode?_utf8]
  simp only [Option.bind_eq_bind, Option.bind_some, String.toList_append, ← print_selector h,
    Json.read_print]

/-- **One credential is enough for a wrong answer**: an issuer that has recorded a credential, and
registered nothing, gets back a document that is not a DID document. -/
theorem queryDidsByIssuer_not_exact :
    ¬ ∀ (db : CouchDb) (txs : List Transaction) (issuerDid : GoString),
      QueryExact db (ledger txs).state issuerDid := by
  intro hexact
  have hlog := committed_concat_record [] (Bytes.utf8 "vc-1") (Bytes.utf8 "schema-1")
    (Bytes.utf8 "did:dzta:issuer") (Bytes.utf8 "did:dzta:alice") 0 0
  have hplain : ∀ c ∈ "did:dzta:issuer".toList, c ≠ '"' ∧ c ≠ '\\' ∧ 0x20 ≤ c.toNat := by simp
  have hregistered := credential_of_recorded (hlog : _ = [] ++ _ :: []) rfl (by simp)
  have honly := fun hperm => (selectedRows_perm_iff_of_eq rfl).mp hperm .credential _ _ hregistered
    (GoString.coerce_utf8 _)
  cases honly ((queryExact_iff (refines_ledger _) .selectorsOnly
    (selectedIssuer?_plain hplain)).mp
    (hexact .selectorsOnly _ _))

end DZTA
