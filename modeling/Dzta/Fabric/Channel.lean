import Dzta.Chaincode.History
import Dzta.Fabric.Client

/-!
# The channel behind the client

What a gateway does that leads to the chaincode.  The state of the channel is its history, the list
of transactions that were ordered.  A proposal is a function name with arguments in text; the
contract API converts the arguments, and writes a returned record with `json.Marshal`.

Nothing is assumed about when a gateway, a peer or the orderer fails.  A gateway that **serves** the
channel (`Gateway.Serves`) returns nothing that the chaincode has not returned, and an invocation
that it passes on is committed or has no effect.  Whether the client learns of the commit is
open: it gives up after a while.  Where a query gets through as well, the gateway **answers** it
(`Gateway.Answers`).

**`queryAs_answers`**: a query that is answered is a read of the registries, through one encoder
and one decoder.
-/

namespace DZTA

open GoJson

/-! ## Arguments

A number arrives as a text, and the contract reads it as one. -/

namespace Contractapi

/-- A number in decimal digits. -/
def digits? (cs : List Char) : Option ℕ :=
  if cs ≠ [] ∧ cs.all Char.isDigit then some (Nat.ofDigitChars 10 cs 0) else none

/-- `strconv.ParseInt` to base ten. -/
def parseInt? : List Char → Option Int64
  | '-' :: cs =>
    (digits? cs).bind fun n => if n ≤ 2 ^ 63 then some (Int64.ofInt (-n)) else none
  | '+' :: cs => (digits? cs).bind fun n => if n < 2 ^ 63 then some (Int64.ofInt n) else none
  | cs => (digits? cs).bind fun n => if n < 2 ^ 63 then some (Int64.ofInt n) else none

/-- An argument as an `int64`; an empty one is zero. -/
def convertInt64 (arg : String) : Option Int64 :=
  if arg = "" then some 0 else parseInt? arg.toList

lemma digits?_toDigits (n : ℕ) : digits? (Nat.toDigits 10 n) = some n := by
  have hall : (Nat.toDigits 10 n).all Char.isDigit = true :=
    List.all_eq_true.mpr fun _ h => Nat.isDigit_of_mem_toDigits (by norm_num) (by norm_num) h
  rw [digits?, if_pos ⟨Nat.toDigits_ne_nil, hall⟩, Nat.ofDigitChars_ten_toDigits]

lemma parseInt?_toDigits (n : ℕ) (h : n < 2 ^ 63) :
    parseInt? (Nat.toDigits 10 n) = some (Int64.ofInt n) := by
  obtain ⟨d, ds, hds⟩ := List.exists_cons_of_ne_nil (Nat.toDigits_ne_nil (n := n) (b := 10))
  have hd : d.isDigit = true := Nat.isDigit_of_mem_toDigits (b := 10) (n := n)
    (by norm_num) (by norm_num) (hds ▸ List.mem_cons_self)
  have hsign : ∀ c, c.isDigit = false → ∀ cs, d :: ds = c :: cs → False := by
    rintro c hc cs heq
    rw [(List.cons.inj heq).1, hc] at hd
    cases hd
  have hread := digits?_toDigits n
  rw [hds] at hread ⊢
  rw [parseInt?, hread, Option.bind_some, if_pos h]
  · exact hsign '-' rfl
  · exact hsign '+' rfl

/-- **A number that Rust has written is read by Go.** -/
theorem convertInt64_toString (i : Int64) : convertInt64 (toString i) = some i := by
  have hlow : -2 ^ 63 ≤ i.toInt := i.le_toInt
  have hhigh : i.toInt < 2 ^ 63 := i.toInt_lt
  have htext : (toString i).toList = if 0 ≤ i.toInt then Nat.toDigits 10 i.toInt.toNat
      else '-' :: Nat.toDigits 10 (-i.toInt).toNat := by
    rw [show toString i = i.toInt.repr from rfl, Int.repr_eq_if]
    split
    · exact Nat.toList_repr
    · rw [String.toList_append, Nat.toList_repr]
      rfl
  have hne : toString i ≠ "" := by
    intro hempty
    rw [hempty, String.toList_empty] at htext
    split at htext
    · exact Nat.toDigits_ne_nil htext.symm
    · cases htext
  rw [convertInt64, if_neg hne, htext]
  split
  · rename_i hpos
    rw [parseInt?_toDigits _ (by omega), Int.toNat_of_nonneg hpos, Int64.ofInt_toInt]
  · rename_i hneg
    have habs : -((-i.toInt).toNat : ℤ) = i.toInt := by omega
    rw [parseInt?, digits?_toDigits, Option.bind_some, if_pos (by omega), habs, Int64.ofInt_toInt]

end Contractapi

/-! ## Proposals

The name of a function and its arguments stand for an operation or a query. -/

/-- A writing function with its arguments converted. -/
def Operation.ofProposal : String → List String → Option Operation
  | "RegisterSchema", [schemaId, issuerDid, name, version, attributesJson] =>
    some (.registerSchema (.ofString schemaId) (.ofString issuerDid) (.ofString name)
      (.ofString version) (.ofString attributesJson))
  | "RecordCredentialMetadata", [credentialId, schemaId, issuerDid, subjectDid, expiresAt] =>
    (Contractapi.convertInt64 expiresAt).map fun expiresAt =>
      .recordCredentialMetadata (.ofString credentialId) (.ofString schemaId)
        (.ofString issuerDid) (.ofString subjectDid) expiresAt
  | "RevokeCredential", [credentialId] => some (.revokeCredential (.ofString credentialId))
  | "RegisterDID", [did, issuerDid, publicKey] =>
    some (.registerDid (.ofString did) (.ofString issuerDid) (.ofString publicKey))
  | _, _ => none

/-- A function that reads one record, with its argument. -/
inductive Query where
  | getSchema (schemaId : GoString)
  | getCredentialMetadata (credentialId : GoString)
  | isCredentialRevoked (credentialId : GoString)
  | resolveDid (did : GoString)

namespace Query

/-- A reading function with its argument. -/
def ofProposal : String → List String → Option Query
  | "GetSchema", [schemaId] => some (getSchema (.ofString schemaId))
  | "GetCredentialMetadata", [credentialId] =>
    some (getCredentialMetadata (.ofString credentialId))
  | "IsCredentialRevoked", [credentialId] => some (isCredentialRevoked (.ofString credentialId))
  | "ResolveDID", [did] => some (resolveDid (.ofString did))
  | _, _ => none

/-- The value that a query returns, as the contract API writes it. -/
def evaluate (w : WorldState) : Query → Except GoError Json
  | getSchema schemaId => (DZTA.getSchema w.reader schemaId).map CredentialSchema.encode
  | getCredentialMetadata credentialId =>
    (DZTA.getCredentialMetadata w.reader credentialId).map CredentialMetadata.encode
  | isCredentialRevoked credentialId => (DZTA.isCredentialRevoked w.reader credentialId).map .bool
  | resolveDid did => (DZTA.resolveDid w.reader did).map DIDDocument.encode

end Query

/-! ## Gateways

What is expected of a gateway: a call commits its transaction or fails, and a query answers from the
ledger. -/

/-- What can come of an invocation: an error without effect, or a transaction that is committed,
with a reply that may still be an error. -/
inductive InvokeOutcome (function : String) (args : List String) (txs : List Transaction) :
    WalletResult String × List Transaction → Prop
  | noEffect (e : WalletError) : InvokeOutcome function args txs (.error e, txs)
  | committed (tx : Transaction) (reply : WalletResult String)
      (hoperation : Operation.ofProposal function args = some tx.operation)
      (hok : ((ledger txs).submit tx).2.isOk = true) :
      InvokeOutcome function args txs (reply, txs ++ [tx])

namespace Gateway

/-- A gateway to the channel, which may fail at any time. -/
structure Serves (fabric : Gateway (List Transaction)) : Prop where
  invoke : ∀ function args txs,
    InvokeOutcome function args txs (fabric.invokeChaincode function args txs)
  query : ∀ function args txs, (fabric.queryChaincode function args txs).2 = txs
  reply : ∀ {function args query payload} txs, Query.ofProposal function args = some query →
    (fabric.queryChaincode function args txs).1 = .ok payload →
    ∃ v, query.evaluate (ledger txs).state = .ok v ∧ payload = Bytes.utf8 (marshal v)

/-- Every commit is reported: an invocation that returns an error had no effect. -/
def Reports (fabric : Gateway (List Transaction)) : Prop :=
  ∀ function args txs e, (fabric.invokeChaincode function args txs).1 = .error e →
    (fabric.invokeChaincode function args txs).2 = txs

/-- The queries get through while the channel is in a state. -/
def Answers (fabric : Gateway (List Transaction)) (txs : List Transaction) : Prop :=
  ∀ {function args query v}, Query.ofProposal function args = some query →
    query.evaluate (ledger txs).state = .ok v →
    fabric.queryChaincode function args txs = (.ok (Bytes.utf8 (marshal v)), txs)

/-- A gateway at which nothing fails but the chaincode, in front of peers with a given clock. -/
def direct (seconds : Int64) : Gateway (List Transaction) where
  invokeChaincode function args txs :=
    match Operation.ofProposal function args with
    | some op =>
      if ((ledger txs).submit (.faultless op seconds)).2.isOk then
        (.ok "committed", txs ++ [.faultless op seconds])
      else (.error (.chaincodeFailed "rejected"), txs)
    | none => (.error (.chaincodeFailed "rejected"), txs)
  queryChaincode function args txs :=
    match Query.ofProposal function args with
    | some query => (((query.evaluate (ledger txs).state).mapError fun _ =>
        .chaincodeFailed "rejected").map fun v => Bytes.utf8 (marshal v), txs)
    | none => (.error (.chaincodeFailed "rejected"), txs)

lemma serves_direct (seconds : Int64) : (direct seconds).Serves where
  invoke function args txs := by
    simp only [direct]
    cases hop : Operation.ofProposal function args with
    | none => exact .noEffect _
    | some op =>
      by_cases hok : ((ledger txs).submit (.faultless op seconds)).2.isOk
      · simp only [if_pos hok]
        exact .committed (.faultless op seconds) _ hop hok
      · simp only [if_neg hok]
        exact .noEffect _
  query function args txs := by
    simp only [direct]
    split <;> rfl
  reply txs hquery hreply := by
    simp only [direct, hquery] at hreply
    rename_i query payload
    cases heval : query.evaluate (ledger txs).state with
    | error e =>
      rw [heval] at hreply
      cases hreply
    | ok v =>
      rw [heval] at hreply
      exact ⟨v, rfl, (Except.ok.inj hreply).symm⟩

lemma reports_direct (seconds : Int64) : (direct seconds).Reports := by
  intro function args txs e h
  simp only [direct] at h ⊢
  cases hop : Operation.ofProposal function args with
  | none => rfl
  | some op =>
    simp only [hop] at h ⊢
    split
    · rename_i hok
      rw [if_pos hok] at h
      cases h
    · rfl

lemma direct_invokeChaincode {seconds : Int64} {function : String} {args : List String}
    {op : Operation} {txs : List Transaction} (hop : Operation.ofProposal function args = some op)
    (hok : ((ledger txs).submit (.faultless op seconds)).2.isOk = true) :
    (direct seconds).invokeChaincode function args txs =
      (.ok "committed", txs ++ [.faultless op seconds]) := by
  simp only [direct, hop, if_pos hok]

lemma answers_direct (seconds : Int64) (txs : List Transaction) : (direct seconds).Answers txs := by
  intro function args query v hquery heval
  simp only [direct, hquery, heval]
  rfl

end Gateway

/-- What can come of an operation for which one transaction is invoked: an error without effect, or
the transaction, with a result that is good or an error all the same (not where commits are
reported). -/
inductive Appends {α : Type} (txs : List Transaction) (op : Operation) (reports : Prop)
    (good : α → Prop) : WalletResult α × List Transaction → Prop
  | noEffect (e : WalletError) : Appends txs op reports good (.error e, txs)
  | appended (tx : Transaction) (result : WalletResult α) (hoperation : tx.operation = op)
      (hok : ((ledger txs).submit tx).2.isOk = true) (hgood : ∀ a, result = .ok a → good a)
      (hreports : reports → result.isOk = true) :
      Appends txs op reports good (result, txs ++ [tx])

namespace Appends

variable {α β : Type} {txs : List Transaction} {op : Operation} {reports : Prop} {good : α → Prop}

lemma of_invoke {fabric : Gateway (List Transaction)} (hserves : fabric.Serves)
    {function : String} {args : List String} (hop : Operation.ofProposal function args = some op) :
    Appends txs op fabric.Reports (fun _ => True) (fabric.invokeChaincode function args txs) := by
  have houtcome := hserves.invoke function args txs
  have hlost : fabric.Reports → ∀ e, (fabric.invokeChaincode function args txs).1 = .error e →
      (fabric.invokeChaincode function args txs).2 = txs := fun h => h function args txs
  generalize fabric.invokeChaincode function args txs = r at houtcome hlost ⊢
  cases houtcome with
  | noEffect e => exact .noEffect e
  | committed tx reply hoperation hok =>
    rw [hop] at hoperation
    refine .appended tx reply (Option.some.inj hoperation).symm hok (fun _ _ => trivial) ?_
    intro hreports
    cases reply with
    | ok id => rfl
    | error e => exact absurd (hlost hreports e rfl) (by simp)

lemma bind_pure {x : FabricM (List Transaction) α} {f : α → β} {good' : β → Prop}
    (h : Appends txs op reports good (x txs)) (hgood' : ∀ a, good a → good' (f a)) :
    Appends txs op reports good' ((x >>= fun a => pure (f a)) txs) := by
  simp only [bind, ExceptT.bind, ExceptT.mk, StateT.bind]
  generalize x txs = r at h ⊢
  cases h with
  | noEffect e => exact .noEffect e
  | appended tx result hoperation hok hgood hreports =>
    cases result with
    | error e => exact .appended tx (.error e) hoperation hok (fun _ h => by cases h) hreports
    | ok a =>
      refine .appended tx (.ok (f a)) hoperation hok ?_ fun _ => rfl
      rintro b ⟨⟩
      exact hgood' a (hgood a rfl)

lemma exists_log {r : WalletResult α × List Transaction} (h : Appends txs op reports good r) :
    ∃ log, committed r.2 = committed txs ++ log ∧
      (∀ t ∈ log, t.operation = op ∧ (reports → ∃ a, r.1 = .ok a ∧ good a)) ∧
      ∀ a, r.1 = .ok a → good a ∧ ∃ t, log = [t] := by
  cases h with
  | noEffect e =>
    refine ⟨[], by simp, fun t ht => absurd ht List.not_mem_nil, ?_⟩
    rintro a ⟨⟩
  | appended tx result hoperation hok hgood hreports =>
    refine ⟨[tx], committed_concat hok, ?_, fun a ha => ⟨hgood a ha, tx, rfl⟩⟩
    intro t ht
    rw [List.mem_singleton.mp ht]
    refine ⟨hoperation, fun hreports' => ?_⟩
    cases result with
    | error e => cases hreports hreports'
    | ok a => exact ⟨a, rfl, hgood a rfl⟩

end Appends

/-! ## Reading a record

An answer of the ledger is read as the type of the client. -/

namespace FabricClient

variable {fabric : Gateway (List Transaction)} {serde : SerdeJson} {α : Type}
  {deserialize : Json → Option α} {function : String} {args : List String} {query : Query}
  {txs : List Transaction} {v : Json} {a : α}

/-- **A query that is answered**: what the client decodes from what the chaincode encodes. -/
theorem queryAs_answers (hanswers : fabric.Answers txs)
    (hquery : Query.ofProposal function args = some query)
    (heval : query.evaluate (ledger txs).state = .ok v) (hplain : v.Plain) (hdepth : v.depth ≤ 127)
    (hread : deserialize v = some a) :
    queryAs fabric serde deserialize function args txs = (.ok a, txs) := by
  have hdecode : serde.fromSlice deserialize (Bytes.utf8 (marshal v)) = .ok a :=
    (serde.fromSlice_text deserialize _ v a (Json.read_print _ _ v) hplain hdepth).mpr hread
  rw [queryAs, EffectM.bind_of_eq_ok (hanswers hquery heval), hdecode]
  rfl

/-- What a query returns, the chaincode has returned. -/
lemma queryAs_eq_ok (hserves : fabric.Serves) (hquery : Query.ofProposal function args = some query)
    (h : (queryAs fabric serde deserialize function args txs).1 = .ok a) :
    ∃ v, query.evaluate (ledger txs).state = .ok v ∧
      serde.fromSlice deserialize (Bytes.utf8 (marshal v)) = .ok a := by
  obtain ⟨payload, txs', hreply, h⟩ := EffectM.bind_eq_ok_iff.mp (Prod.ext h rfl)
  obtain ⟨v, heval, rfl⟩ := hserves.reply txs hquery (congrArg Prod.fst hreply)
  exact ⟨v, heval, Except.mapError_eq_ok_iff.mp (FabricM.ofResult_eq_ok h).1⟩

lemma queryAs_unchanged (hserves : fabric.Serves) (txs : List Transaction) :
    (queryAs fabric serde deserialize function args txs).2 = txs := by
  refine EffectM.bind_of_unchanged (P := fun r => r.2 = txs) (hserves.query function args txs) ?_ ?_
  · intro e
    rfl
  · intro payload hpayload
    rfl

lemma queryAs_error {e : GoError} (hserves : fabric.Serves)
    (hquery : Query.ofProposal function args = some query)
    (heval : query.evaluate (ledger txs).state = .error e) :
    ∃ e', queryAs fabric serde deserialize function args txs = (.error e', txs) := by
  refine EffectM.bind_of_unchanged (P := fun r => ∃ e', r = (.error e', txs))
    (hserves.query function args txs) ?_ ?_
  · intro e'
    exact ⟨e', rfl⟩
  · intro payload hpayload
    obtain ⟨v, hv, -⟩ := hserves.reply txs hquery hpayload
    rw [heval] at hv
    cases hv

end FabricClient

end DZTA
