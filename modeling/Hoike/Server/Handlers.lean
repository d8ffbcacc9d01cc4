/-
Answering OCSP requests (`handlers.rs`, `state.rs`).

A request is answered from the loaded working set, signed on demand, forwarded
or refused.  The wall clock is read up to twice on the way; `clock` gives the
readings in order.  HTTP dates are kept as instants, and the cache age of a
stored answer, which only scales its window, is left out.
-/

import Hoike.Core.Request
import Hoike.Sign.Live

namespace Hoike

open Ahu
open Ocsp

structure LiveSignerState where
  signer : Signer
  responderKeyBytes : Bytes
  validitySecs : UInt64
  responderCertDer : Option Bytes

/-- An answer of an upstream responder.  The body comes in chunks, and reading
one may fail. -/
structure UpstreamResponse where
  success : Bool
  contentType : Option String
  contentLength : Option Nat
  chunks : List (Except String Bytes)

/-- An outbound client: target and request body to the upstream answer. -/
abbrev ForwardClient := String → Bytes → Except String UpstreamResponse

/-- The scheme of a target that parses (`url` crate). -/
class Url where
  scheme : String → Option String

structure AppState where
  config : Config
  scopeMap : ScopeMap
  liveSigners : HashMap String LiveSignerState
  forwardClients : HashMap String ForwardClient

inductive Response where
  | ocspError (status : OcspResponseStatus)
  | ocspSuccess (body : Bytes) (etag : Octets 32) (lastModified expires : UInt64)
  | live (body : Bytes)
deriving DecidableEq

/-- The label a request is counted under. -/
inductive RequestStatus where
  | malformed
  | tryLater
  | live
  | unknown
  | internalError
  | forwarded
  | served
  | unauthorized
deriving DecidableEq, Repr

/-- A response with the CA label and the status it is counted under. -/
structure Answer where
  response : Response
  ca : String
  status : RequestStatus
deriving DecidableEq

def Answer.malformed : Answer :=
  { response := .ocspError .malformedRequest
    ca := "unknown"
    status := .malformed }

def Answer.unauthorized : Answer :=
  { response := .ocspError .unauthorized
    ca := "unknown"
    status := .unauthorized }

def Answer.tryLater (ca : String) : Answer :=
  { response := .ocspError .tryLater
    ca := ca
    status := .tryLater }

def Answer.internalError (ca : String) : Answer :=
  { response := .ocspError .internalError
    ca := ca
    status := .internalError }

/-! ### Forwarding -/

def maxForwardResponse : Nat := 65536

def readChunks : List (Except String Bytes) → Bytes → Except OcspResponseStatus Bytes
  | [], body => .ok body
  | .error _ :: _, _ => .error .tryLater
  | .ok chunk :: rest, body =>
      if maxForwardResponse - body.length < chunk.length then .error .internalError
      else readChunks rest (body ++ chunk)

def isOcspResponseType (contentType : String) : Bool :=
  match contentType.splitOn ";" with
  | [] => false
  | first :: _ => eqIgnoreAsciiCase first.trimAscii.toString "application/ocsp-response"

def forwardRequest [Url] (client : ForwardClient) (url : String) (derBytes : Bytes)
    (allowInsecure : Bool) : Response :=
  let permitted := (Url.scheme url).any fun scheme =>
    scheme = "https" || (allowInsecure && scheme = "http")
  if !permitted then .ocspError .internalError
  else
    match client url derBytes with
    | .error _ => .ocspError .tryLater
    | .ok upstream =>
        if !upstream.success then .ocspError .tryLater
        else if !upstream.contentType.any isOcspResponseType then .ocspError .tryLater
        else if upstream.contentLength.any (maxForwardResponse < ·) then
          .ocspError .internalError
        else
          match readChunks upstream.chunks [] with
          | .error status => .ocspError status
          | .ok body => .live body

def AppState.forwardInsecureFor (state : AppState) (ca : String) : Bool :=
  (state.config.ca.find? (·.label = ca)).any CaConfig.forwardInsecure

/-! ### Requests -/

section Requests

variable [Sha2] [Sha1] [X509Ocsp] [Url]

/-- The window is checked once more, right before the payload goes out. -/
def ocspSuccessResponse (result : LookupResult) (now : UInt64) : Response :=
  if result.window.outside now then .ocspError .tryLater
  else .ocspSuccess result.responseBytes (Sha2.sha256 result.responseBytes)
    result.window.thisUpdateMin result.window.nextUpdateMin

/-- Nonce policy "live": the stored status is signed again with the nonce.  The
clock is read when the signer is free. -/
def answerLive (state : AppState) (now : UInt64) (certId : ParsedCertId) (nonce : Bytes)
    (result : LookupResult) : Answer :=
  match state.liveSigners.lookup result.caLabel with
  | none => .internalError result.caLabel
  | some live =>
      match extractStatusForCert result.responseBytes certId.certidDer with
      | .error _ => .internalError result.caLabel
      | .ok source =>
          match signLiveResponseWithWindow certId.certidDer source.status nonce
            live.responderKeyBytes live.signer now source.thisUpdate
            (minU64 (minU64 source.nextUpdate result.window.nextUpdateMin)
              (saturatingAddU64 now live.validitySecs)) live.responderCertDer with
          | .error _ => .internalError result.caLabel
          | .ok responseDer =>
              { response := .live responseDer
                ca := result.caLabel
                status := .live }

def answerForward (state : AppState) (derBytes : Bytes) (result : LookupResult) : Answer :=
  match result.forwardTo with
  | none => .internalError result.caLabel
  | some url =>
      match state.forwardClients.lookup result.caLabel with
      | none => .internalError result.caLabel
      | some client =>
          { response :=
              forwardRequest client url derBytes (state.forwardInsecureFor result.caLabel)
            ca := result.caLabel
            status := .forwarded }

def answerStored (now : UInt64) (result : LookupResult) : Answer :=
  { response := ocspSuccessResponse result now
    ca := result.caLabel
    status := .served }

def answerHit (state : AppState) (clock : Nat → UInt64) (derBytes : Bytes)
    (certId : ParsedCertId) (nonce : Option Bytes) (result : LookupResult) : Answer :=
  if result.window.outside (clock 0) then .tryLater result.caLabel
  else
    match nonce with
    | none => answerStored (clock 1) result
    | some nonce =>
        if result.noncePolicy = "live" then answerLive state (clock 1) certId nonce result
        else if result.noncePolicy = "forward" then answerForward state derBytes result
        else answerStored (clock 1) result

/-- A signed "unknown" for a serial without an entry, where the first scope for
its issuer is configured as complete. -/
def answerUnknown (state : AppState) (now : UInt64) (derBytes : Bytes) (certId : ParsedCertId)
    (nonce : Bytes) : Answer :=
  match state.scopeMap.scopeForCertid certId with
  | none => .unauthorized
  | some scope =>
      if scope.authoritative then
        match state.liveSigners.lookup scope.caLabel with
        | some live =>
            match signLiveResponse certId.certidDer .unknown nonce live.responderKeyBytes
              live.signer now live.validitySecs live.responderCertDer with
            | .error _ => .unauthorized
            | .ok responseDer =>
                { response := .live responseDer
                  ca := scope.caLabel
                  status := .unknown }
        | none =>
            match scope.forwardTo with
            | none => .unauthorized
            | some url =>
                match state.forwardClients.lookup scope.caLabel with
                | none => .unauthorized
                | some client =>
                    { response := forwardRequest client url derBytes
                        (state.forwardInsecureFor scope.caLabel)
                      ca := scope.caLabel
                      status := .forwarded }
      else .unauthorized

def answerMiss (state : AppState) (clock : Nat → UInt64) (derBytes : Bytes)
    (certId : ParsedCertId) (nonce : Option Bytes) : Answer :=
  match nonce with
  | none => .unauthorized
  | some nonce => answerUnknown state (clock 0) derBytes certId nonce

def processRequestInner (state : AppState) (clock : Nat → UInt64) (derBytes : Bytes) : Answer :=
  match parseOcspRequest derBytes with
  | .error _ => .malformed
  | .ok parsed =>
      if parsed.nonce.map validateNonce = some .malformedRequest then .malformed
      else
        match parsed.certIds.head? with
        | none => .malformed
        | some certId =>
            match state.scopeMap.lookup certId parsed.preferredSigAlgs with
            | some result => answerHit state clock derBytes certId parsed.nonce result
            | none => answerMiss state clock derBytes certId parsed.nonce

end Requests

end Hoike
