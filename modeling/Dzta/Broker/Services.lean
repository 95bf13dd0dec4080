import Dzta.Library.Effects
import Dzta.Library.Rsa
import Dzta.Library.Sha256
import Dzta.Shared.Models

/-!
# What the broker calls

The broker fetches collateral for a quote, asks for the time, posts to Vault and to a key management
service, and draws random numbers.  These are its calls; what answers them is an environment
(`Services`), whose replies may depend on everything that was called before.  The log of calls is
what the broker did to the outside, in order.

The libraries that the broker is built with are parameters too (`Crates`).  They are functions: what
they return depends on nothing but their arguments.
-/

namespace DZTA

/-! ## Errors

An error of the broker has a text, and an error of its interface a status too. -/

/-- A status code with its canonical reason, if it has one. -/
structure StatusCode where
  code : ℕ
  reason : Option String
deriving DecidableEq

namespace StatusCode

/-- `is_success`: the codes from 200 to 299. -/
def isSuccess (status : StatusCode) : Bool := 200 ≤ status.code && status.code < 300

/-- The text of a status. -/
def text (status : StatusCode) : String :=
  toString status.code ++ " " ++ status.reason.getD "<unknown status code>"

/-- `BAD_REQUEST`: the request is at fault. -/
def badRequest : StatusCode := ⟨400, some "Bad Request"⟩

/-- `INTERNAL_SERVER_ERROR`: the broker or a service behind it is at fault. -/
def internalServerError : StatusCode := ⟨500, some "Internal Server Error"⟩

end StatusCode

/-- `BrokerError`: a request that could not be made, a reply of a service that is no success, and
one that cannot be read. -/
inductive BrokerError where
  | request (message : String)
  | provider (status : StatusCode) (body : String)
  | wallet (error : WalletError)
  | response (message : String)
  | configuration (message : String)
deriving DecidableEq

/-- The text of an error. -/
def BrokerError.text : BrokerError → String
  | request message => "provider request failed: " ++ message
  | provider status body => "provider returned HTTP " ++ status.text ++ ": " ++ body
  | wallet error => "wallet error: " ++ error.text
  | response message => "invalid provider response: " ++ message
  | configuration message => "provider configuration error: " ++ message

/-- `ApiError`: the status and the text of an error reply. -/
structure ApiError where
  status : StatusCode
  error : String
deriving DecidableEq

/-- `ApiError::from`: whatever fails behind the broker is its own fault, with the text of the
error. -/
def ApiError.ofBrokerError (error : BrokerError) : ApiError :=
  ⟨.internalServerError, error.text⟩

/-! ## Quotes

What the verifier of quotes tells, which is code of others. -/

/-- What a quote says of the enclave that asked for it. -/
structure EnclaveReport where
  mrEnclave : FixedBytes 32
  mrSigner : FixedBytes 32
  reportData : FixedBytes 64
deriving DecidableEq

/-- `Report`: what a quote speaks of, an enclave or something else. -/
inductive Report where
  | sgxEnclave (report : EnclaveReport)
  | td10
  | td15

/-- `as_sgx`: the report of an enclave, if it is one. -/
def Report.asSgx : Report → Option EnclaveReport
  | sgxEnclave report => some report
  | _ => none

/-- The verification of quotes: clients for collateral, policies, and the report of a quote that
verifies. -/
structure QuoteVerifier where
  Collateral : Type
  Policy : Type
  withDefaultHttp : String → Except String Unit
  strict : UInt64 → Policy
  verifyWithPolicy : Bytes → Collateral → UInt64 → Policy → Except String Report

/-- The libraries of the broker.  An error in a base64 text is described as `base64Error` says, and
a body that is not what was expected as `decodeError` says. -/
structure Crates where
  serde : SerdeJson
  digest : Bytes → FixedBytes 32
  rsa : Rsa
  oaep : Oaep rsa
  qvl : QuoteVerifier
  base64Error : String → String
  decodeError : String → String

/-- Decodes a base64 text. -/
def Crates.base64Decode (crates : Crates) (text : String) : Except String Bytes :=
  Except.okOr (crates.base64Error text) (Base64.decode text)

lemma Crates.base64Decode_eq_ok_iff {crates : Crates} {text : String} {bytes : Bytes} :
    crates.base64Decode text = .ok bytes ↔ Base64.decode text = some bytes :=
  Except.okOr_eq_ok_iff

/-! ## Calls

All that the broker does to its surroundings is a call, and the calls so far determine the
answer. -/

/-- A `POST` to a service. -/
structure ServiceRequest where
  url : String
  headers : List (String × String)
  body : Option Json

/-- The reply of a service.  Its body may break off, and is taken as bytes or as text. -/
structure ServiceReply where
  status : StatusCode
  bytes : Except String Bytes
  text : Except String String

/-- `json` of a reply. -/
def Crates.json (crates : Crates) {α : Type} (deserialize : Json → Option α)
    (reply : ServiceReply) : Except String α := do
  let body ← reply.bytes
  (crates.serde.fromSlice deserialize body).mapError crates.decodeError

/-- A call of the broker. -/
inductive BrokerCall where
  | fetchCollateral (pccsUrl : String) (quote : Bytes)
  | now
  | send (request : ServiceRequest)
  | random

/-- What a call is replied with. -/
def BrokerCall.Reply (Collateral : Type) : BrokerCall → Type
  | fetchCollateral .. => Except String Collateral
  | now => Except String UInt64
  | send _ => Except String ServiceReply
  | random => Bytes

/-- The services that the broker meets. -/
abbrev Services (crates : Crates) :=
  Environment BrokerCall (BrokerCall.Reply crates.qvl.Collateral)

/-- An operation of the broker, with the calls that it has made. -/
abbrev BrokerM (ε α : Type) := EffectM ε (List BrokerCall) α

/-- The broker with another encryption for the same keys. -/
def Crates.withOaep (crates : Crates) (oaep : Oaep crates.rsa) : Crates := { crates with oaep }

/-- Services do not depend on how the broker encrypts. -/
def Services.withOaep {crates : Crates} (services : Services crates) (oaep : Oaep crates.rsa) :
    Services (crates.withOaep oaep) := services

section Services

variable {crates : Crates} (services : Services crates)

/-- `SystemTime::now`, in seconds since the epoch. -/
def systemTime : BrokerM String UInt64 := do
  let reply ← services.call .now
  .ofExcept reply

/-- `fetch` of a client for collateral. -/
def fetchCollateral (pccsUrl : String) (quote : Bytes) : BrokerM String crates.qvl.Collateral := do
  let reply ← services.call (.fetchCollateral pccsUrl quote)
  .ofExcept reply

/-- `send` of a request. -/
def send (request : ServiceRequest) : BrokerM String ServiceReply := do
  let reply ← services.call (.send request)
  .ofExcept reply

variable {services} {calls calls' : List BrokerCall}

lemma systemTime_eq_ok_iff {now : UInt64} :
    systemTime services calls = (.ok now, calls') ↔
      services.reply calls .now = .ok now ∧ calls ++ [.now] = calls' := Prod.ext_iff

lemma fetchCollateral_eq_ok_iff {pccsUrl : String} {quote : Bytes}
    {collateral : crates.qvl.Collateral} :
    fetchCollateral services pccsUrl quote calls = (.ok collateral, calls') ↔
      services.reply calls (.fetchCollateral pccsUrl quote) = .ok collateral ∧
        calls ++ [.fetchCollateral pccsUrl quote] = calls' := Prod.ext_iff

lemma send_eq_ok_iff {request : ServiceRequest} {reply : ServiceReply} :
    send services request calls = (.ok reply, calls') ↔
      services.reply calls (.send request) = .ok reply ∧ calls ++ [.send request] = calls' :=
  Prod.ext_iff

/-- A call of the broker that posts nothing. -/
def BrokerCall.IsQuiet (c : BrokerCall) : Prop := ∀ request, c ≠ .send request

/-- Two services that answer some calls alike. -/
def AgreeOn (P : BrokerCall → Prop) (services services' : Services crates) : Prop :=
  ∀ c, P c → ∀ calls, services.reply calls c = services'.reply calls c

variable {services' : Services crates}

lemma send_congr {request : ServiceRequest}
    (h : services.reply calls (.send request) = services'.reply calls (.send request)) :
    send services request calls = send services' request calls := Prod.ext h rfl

lemma lockstep_systemTime (oaep : Oaep crates.rsa)
    (hagree : AgreeOn BrokerCall.IsQuiet services services') :
    EffectM.Lockstep BrokerCall.IsQuiet Eq (systemTime services)
      (systemTime (services'.withOaep oaep)) := by
  have hquiet : BrokerCall.IsQuiet .now := fun _ h => by cases h
  exact .bind_of_eq (.call hquiet (hagree _ hquiet)) fun _ => .same _

lemma lockstep_fetchCollateral (oaep : Oaep crates.rsa)
    (hagree : AgreeOn BrokerCall.IsQuiet services services') (pccsUrl : String) (quote : Bytes) :
    EffectM.Lockstep BrokerCall.IsQuiet Eq (fetchCollateral services pccsUrl quote)
      (fetchCollateral (services'.withOaep oaep) pccsUrl quote) := by
  have hquiet : BrokerCall.IsQuiet (.fetchCollateral pccsUrl quote) := fun _ h => by cases h
  exact .bind_of_eq (.call hquiet (hagree _ hquiet)) fun _ => .same _

lemma lockstep_send (oaep : Oaep crates.rsa) {request : ServiceRequest}
    (hagree : AgreeOn (· = .send request) services services') :
    EffectM.Lockstep (fun _ => True) Eq (send services request)
      (send (services'.withOaep oaep) request) :=
  .bind_of_eq (.call trivial (hagree _ rfl)) fun _ => .same _

end Services

end DZTA
