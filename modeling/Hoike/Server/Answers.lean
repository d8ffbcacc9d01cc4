/-
What an answer from the working set rests on.

A stored payload goes out unchanged, from the first route that holds the
CertID, while its window is open.  A live answer repeats what that payload says
about the certificate and never outlasts its sources.
-/

import Hoike.Ahu.Materialize
import Hoike.Core.AntiRollback
import Hoike.Core.Routing
import Hoike.Ocsp.Crates
import Hoike.Server.Handlers

namespace Hoike

open Ahu
open Ocsp

/-! ### The first route that holds a CertID -/

def Ahu.Bundle.select (bundle : Bundle) (asked : ParsedCertId) (preferredAlgs : List UInt16) :
    Option Bytes :=
  if preferredAlgs = [] then bundle.lookup asked.entryKey
  else bundle.lookupPreferred asked.entryKey preferredAlgs

def Route.Holds (route : Route) (asked : ParsedCertId) (preferredAlgs : List UInt16)
    (payload : Bytes) : Prop :=
  (∃ scope ∈ route.bundle.manifest.caScopes, scope.scopeKey = asked.scopeKey) ∧
    route.bundle.select asked preferredAlgs = some payload

def FirstHolder (routes : List Route) (asked : ParsedCertId) (preferredAlgs : List UInt16)
    (route : Route) (payload : Bytes) : Prop :=
  ∃ before after, routes = before ++ route :: after ∧ route.Holds asked preferredAlgs payload ∧
    ∀ other ∈ before, ∀ bytes, ¬other.Holds asked preferredAlgs bytes

def Route.result (route : Route) (payload : Bytes) : LookupResult :=
  { responseBytes := payload
    window := route.bundle.manifest.window
    caLabel := route.policy.caLabel
    noncePolicy := route.policy.noncePolicy
    forwardTo := route.policy.forwardTo }

theorem Route.hit_eq_select (route : Route) (asked : ParsedCertId)
    (preferredAlgs : List UInt16) :
    route.hit asked preferredAlgs =
      (route.bundle.select asked preferredAlgs).map route.result := by
  rfl

theorem Route.hits_eq_nil_or (route : Route) (asked : ParsedCertId)
    (preferredAlgs : List UInt16) :
    ((route.registrations asked.scopeKey).filterMap (Route.hit asked preferredAlgs) = [] ∧
        ∀ payload, ¬route.Holds asked preferredAlgs payload) ∨
      ∃ payload rest, route.Holds asked preferredAlgs payload ∧
        (route.registrations asked.scopeKey).filterMap (Route.hit asked preferredAlgs) =
          route.result payload :: rest := by
  cases selected : route.bundle.select asked preferredAlgs with
  | none =>
      refine Or.inl ⟨?_, ?_⟩
      · rw [List.filterMap_eq_nil_iff]
        intro other member
        rw [(Route.mem_registrations.mp member).1, Route.hit_eq_select, selected]
        rfl
      · intro payload holds
        have chosen := holds.2
        rw [selected] at chosen
        cases chosen
  | some payload =>
      cases registrations : route.registrations asked.scopeKey with
      | nil =>
          refine Or.inl ⟨rfl, ?_⟩
          intro bytes holds
          have listed : route ∈ route.registrations asked.scopeKey :=
            Route.mem_registrations.mpr ⟨rfl, holds.1⟩
          rw [registrations] at listed
          cases listed
      | cons first rest =>
          have listed : first ∈ route.registrations asked.scopeKey := by
            rw [registrations]
            exact List.mem_cons_self
          obtain ⟨same, named⟩ := Route.mem_registrations.mp listed
          refine Or.inr ⟨payload, rest.filterMap (Route.hit asked preferredAlgs),
            ⟨named, selected⟩, ?_⟩
          rw [same, List.filterMap_cons, Route.hit_eq_select, selected]
          rfl

theorem firstHolder_of_hits {routes : List Route} {asked : ParsedCertId}
    {preferredAlgs : List UInt16} {result : LookupResult}
    (found : ((routes.flatMap fun route => route.registrations asked.scopeKey).filterMap
      (Route.hit asked preferredAlgs)).head? = some result) :
    ∃ route payload, FirstHolder routes asked preferredAlgs route payload ∧
      result = route.result payload := by
  induction routes with
  | nil =>
      cases found
  | cons route rest ih =>
      rw [List.flatMap_cons, List.filterMap_append] at found
      rcases route.hits_eq_nil_or asked preferredAlgs with nothing | something
      · obtain ⟨noHits, notHeld⟩ := nothing
        rw [noHits, List.nil_append] at found
        obtain ⟨holder, payload, first, same⟩ := ih found
        obtain ⟨before, after, split, holds, earlier⟩ := first
        refine ⟨holder, payload, ⟨route :: before, after, ?_, holds, ?_⟩, same⟩
        · rw [split, List.cons_append]
        · intro other member bytes
          rcases List.mem_cons.mp member with isFirst | inRest
          · rw [isFirst]
            exact notHeld bytes
          · exact earlier other inRest bytes
      · obtain ⟨payload, others, holds, hits⟩ := something
        rw [hits, List.cons_append, List.head?_cons, Option.some.injEq] at found
        refine ⟨route, payload, ⟨[], rest, rfl, holds, ?_⟩, found.symm⟩
        intro other impossible
        cases impossible

/-! ### What was asked -/

section Answers

variable [Sha2] [Sha1] [X509Ocsp] [Url]

/-- The request decodes, and its first CertID is this one. -/
structure Asks (derBytes : Bytes) (certId : CertId) (asked : ParsedCertId)
    (request : ParsedRequest) : Prop where
  decoded : ∃ message, X509Ocsp.requestFromDer derBytes = .ok message ∧
    message.requestList.head? = some certId
  parsed : parseOcspRequest derBytes = .ok request
  first : request.certIds.head? = some asked
  encoded : parseCertId certId = .ok asked

omit [Sha1] [Url] in
theorem asks_of_parsed {derBytes : Bytes} {asked : ParsedCertId} {request : ParsedRequest}
    (parsed : parseOcspRequest derBytes = .ok request)
    (first : request.certIds.head? = some asked) :
    ∃ certId, Asks derBytes certId asked request := by
  have whole := parsed
  unfold parseOcspRequest at parsed
  obtain ⟨_, _, parsed⟩ := Except.bind_eq_ok.mp parsed
  obtain ⟨_, _, parsed⟩ := Except.bind_eq_ok.mp parsed
  obtain ⟨message, decoded, parsed⟩ := Except.bind_eq_ok.mp parsed
  obtain ⟨_, _, parsed⟩ := Except.bind_eq_ok.mp parsed
  obtain ⟨certIds, encoded, parsed⟩ := Except.bind_eq_ok.mp parsed
  obtain ⟨nonce, _, parsed⟩ := Except.bind_eq_ok.mp parsed
  cases parsed
  rw [Except.mapError_eq_ok] at decoded
  have pairs := Except.mapM_eq_ok.mp encoded
  cases requested : message.requestList with
  | nil =>
      rw [requested] at pairs
      cases pairs
      cases first
  | cons certId rest =>
      rw [requested] at pairs
      cases pairs with
      | cons own _ =>
          cases first
          exact ⟨certId, ⟨message, decoded, by rw [requested]; rfl⟩, whole, rfl, own⟩

omit [Sha1] [Url] in
theorem Asks.unique {derBytes : Bytes} {certId other : CertId} {asked otherAsked : ParsedCertId}
    {request otherRequest : ParsedRequest} (asks : Asks derBytes certId asked request)
    (again : Asks derBytes other otherAsked otherRequest) :
    otherRequest = request ∧ otherAsked = asked := by
  have sameRequest := again.parsed
  rw [asks.parsed] at sameRequest
  cases sameRequest
  have sameAsked := again.first
  rw [asks.first] at sameAsked
  exact ⟨rfl, (Option.some.inj sameAsked).symm⟩

/-- Every answer is a refusal, an answer to a hit or an answer to a miss. -/
theorem processRequestInner_cases (state : AppState) (clock : Nat → UInt64) (derBytes : Bytes) :
    processRequestInner state clock derBytes = .malformed ∨
      ∃ certId asked request, Asks derBytes certId asked request ∧
        ((∃ result, state.scopeMap.lookup asked request.preferredSigAlgs = some result ∧
            processRequestInner state clock derBytes =
              answerHit state clock derBytes asked request.nonce result) ∨
          (state.scopeMap.lookup asked request.preferredSigAlgs = none ∧
            processRequestInner state clock derBytes =
              answerMiss state clock derBytes asked request.nonce)) := by
  unfold processRequestInner
  cases parsed : parseOcspRequest derBytes with
  | error error =>
      exact Or.inl rfl
  | ok request =>
      dsimp only
      split_ifs with refused
      · exact Or.inl rfl
      · cases first : request.certIds.head? with
        | none =>
            exact Or.inl rfl
        | some asked =>
            obtain ⟨certId, asks⟩ := asks_of_parsed parsed first
            refine Or.inr ⟨certId, asked, request, asks, ?_⟩
            dsimp only
            cases found : state.scopeMap.lookup asked request.preferredSigAlgs with
            | none =>
                exact Or.inr ⟨rfl, rfl⟩
            | some result =>
                exact Or.inl ⟨result, rfl, rfl⟩

/-! ### Hits -/

def Response.IsStored (response : Response) : Prop :=
  ∃ body etag lastModified expires, response = .ocspSuccess body etag lastModified expires

def Answer.NotFromPayload (answer : Answer) : Prop :=
  ¬answer.response.IsStored ∧ answer.status ≠ .live

omit [Sha2] [Sha1] [X509Ocsp] [Url] in
theorem Answer.notFromPayload_of_ocspError {answer : Answer} {status : OcspResponseStatus}
    (refused : answer.response = .ocspError status) (counted : answer.status ≠ .live) :
    answer.NotFromPayload := by
  refine ⟨?_, counted⟩
  rintro ⟨_, _, _, _, stored⟩
  rw [refused] at stored
  cases stored

omit [Sha2] [Sha1] [X509Ocsp] [Url] in
theorem Answer.internalError_notFromPayload (ca : String) :
    (Answer.internalError ca).NotFromPayload := by
  refine Answer.notFromPayload_of_ocspError rfl ?_
  intro impossible
  cases impossible

omit [Sha2] [Sha1] [X509Ocsp] in
theorem forwardRequest_not_stored (client : ForwardClient) (url : String) (derBytes : Bytes)
    (allowInsecure : Bool) : ¬(forwardRequest client url derBytes allowInsecure).IsStored := by
  rintro ⟨body, etag, lastModified, expires, stored⟩
  unfold forwardRequest at stored
  dsimp only at stored
  split_ifs at stored
  split at stored
  · cases stored
  · split_ifs at stored
    split at stored
    · cases stored
    · cases stored

omit [Sha2] [Url] in
theorem answerLive_cases (state : AppState) (now : UInt64) (asked : ParsedCertId)
    (nonce : Bytes) (result : LookupResult) :
    answerLive state now asked nonce result = .internalError result.caLabel ∨
      ∃ live source responseDer,
        state.liveSigners.lookup result.caLabel = some live ∧
        extractStatusForCert result.responseBytes asked.certidDer = .ok source ∧
        signLiveResponseWithWindow asked.certidDer source.status nonce live.responderKeyBytes
          live.signer now source.thisUpdate
          (minU64 (minU64 source.nextUpdate result.window.nextUpdateMin)
            (saturatingAddU64 now live.validitySecs)) live.responderCertDer = .ok responseDer ∧
        answerLive state now asked nonce result =
          { response := .live responseDer
            ca := result.caLabel
            status := .live } := by
  unfold answerLive
  cases signer : state.liveSigners.lookup result.caLabel with
  | none =>
      exact Or.inl rfl
  | some live =>
      dsimp only
      cases extracted : extractStatusForCert result.responseBytes asked.certidDer with
      | error error =>
          exact Or.inl rfl
      | ok source =>
          dsimp only
          cases signed : signLiveResponseWithWindow asked.certidDer source.status nonce
              live.responderKeyBytes live.signer now source.thisUpdate
              (minU64 (minU64 source.nextUpdate result.window.nextUpdateMin)
                (saturatingAddU64 now live.validitySecs)) live.responderCertDer with
          | error error =>
              exact Or.inl rfl
          | ok responseDer =>
              exact Or.inr ⟨live, source, responseDer, rfl, rfl, signed, rfl⟩

theorem answerHit_cases (state : AppState) (clock : Nat → UInt64) (derBytes : Bytes)
    (asked : ParsedCertId) (nonce : Option Bytes) (result : LookupResult) :
    answerHit state clock derBytes asked nonce result = .tryLater result.caLabel ∨
      result.window.outside (clock 0) = false ∧
        (answerHit state clock derBytes asked nonce result = answerStored (clock 1) result ∨
          answerHit state clock derBytes asked nonce result =
            answerForward state derBytes result ∨
          ∃ value, nonce = some value ∧
            answerHit state clock derBytes asked nonce result =
              answerLive state (clock 1) asked value result) := by
  unfold answerHit
  cases closed : result.window.outside (clock 0) with
  | true =>
      exact Or.inl rfl
  | false =>
      refine Or.inr ⟨rfl, ?_⟩
      rw [if_neg Bool.false_ne_true]
      cases nonce with
      | none =>
          exact Or.inl rfl
      | some value =>
          dsimp only
          split_ifs
          · exact Or.inr (Or.inr ⟨value, rfl, rfl⟩)
          · exact Or.inr (Or.inl rfl)
          · exact Or.inl rfl

omit [Sha2] [Sha1] [X509Ocsp] in
theorem answerForward_cases (state : AppState) (derBytes : Bytes) (result : LookupResult) :
    answerForward state derBytes result = .internalError result.caLabel ∨
      ∃ client url insecure, answerForward state derBytes result =
        { response := forwardRequest client url derBytes insecure
          ca := result.caLabel
          status := .forwarded } := by
  unfold answerForward
  split
  · exact Or.inl rfl
  · split
    · exact Or.inl rfl
    · exact Or.inr ⟨_, _, _, rfl⟩

omit [Sha2] in
theorem answerMiss_cases (state : AppState) (clock : Nat → UInt64) (derBytes : Bytes)
    (asked : ParsedCertId) (nonce : Option Bytes) :
    answerMiss state clock derBytes asked nonce = .unauthorized ∨
      (∃ ca client url insecure, answerMiss state clock derBytes asked nonce =
        { response := forwardRequest client url derBytes insecure
          ca := ca
          status := .forwarded }) ∨
      ∃ value scope live body, nonce = some value ∧
        state.scopeMap.scopeForCertid asked = some scope ∧ scope.authoritative = true ∧
        state.liveSigners.lookup scope.caLabel = some live ∧
        signLiveResponse asked.certidDer .unknown value live.responderKeyBytes live.signer
          (clock 0) live.validitySecs live.responderCertDer = .ok body ∧
        answerMiss state clock derBytes asked nonce =
          { response := .live body
            ca := scope.caLabel
            status := .unknown } := by
  unfold answerMiss answerUnknown
  cases nonce with
  | none =>
      exact Or.inl rfl
  | some value =>
      dsimp only
      split
      · exact Or.inl rfl
      case h_2 scope routed =>
        split_ifs with authoritative
        · split
          case h_1 live signer =>
            split
            · exact Or.inl rfl
            case h_2 body signed =>
              exact Or.inr (Or.inr ⟨value, scope, live, body, rfl, routed, authoritative, signer,
                signed, rfl⟩)
          case h_2 =>
            split
            · exact Or.inl rfl
            · split
              · exact Or.inl rfl
              · exact Or.inr (Or.inl ⟨_, _, _, _, rfl⟩)
        · exact Or.inl rfl

theorem processRequestInner_of_miss {state : AppState} {clock : Nat → UInt64}
    {derBytes nonce body : Bytes} {certId : CertId} {asked : ParsedCertId}
    {request : ParsedRequest} (asks : Asks derBytes certId asked request)
    (nonced : request.nonce = some nonce) (accepted : validateNonce nonce ≠ .malformedRequest)
    (missing : state.scopeMap.lookup asked request.preferredSigAlgs = none)
    {scope : ScopeAnswer} (found : state.scopeMap.scopeForCertid asked = some scope)
    (authoritative : scope.authoritative = true) {live : LiveSignerState}
    (signer : state.liveSigners.lookup scope.caLabel = some live)
    (signed : signLiveResponse asked.certidDer .unknown nonce live.responderKeyBytes live.signer
      (clock 0) live.validitySecs live.responderCertDer = .ok body) :
    processRequestInner state clock derBytes =
      { response := .live body
        ca := scope.caLabel
        status := .unknown } := by
  have valid : request.nonce.map validateNonce ≠ some .malformedRequest := by
    rw [nonced]
    exact fun same => accepted (Option.some.inj same)
  unfold processRequestInner
  rw [asks.parsed]
  dsimp only
  rw [if_neg valid, asks.first]
  dsimp only
  rw [missing, nonced]
  change answerUnknown state (clock 0) derBytes asked nonce = _
  unfold answerUnknown
  rw [found]
  dsimp only
  rw [if_pos authoritative, signer]
  dsimp only
  rw [signed]

theorem Asks.nonce_accepted {state : AppState} {clock : Nat → UInt64} {derBytes : Bytes}
    {certId : CertId} {asked : ParsedCertId} {request : ParsedRequest}
    (asks : Asks derBytes certId asked request)
    (counted : (processRequestInner state clock derBytes).status = .unknown) :
    request.nonce.map validateNonce ≠ some .malformedRequest := by
  intro malformed
  unfold processRequestInner at counted
  rw [asks.parsed] at counted
  dsimp only at counted
  rw [if_pos malformed] at counted
  cases counted

omit [Sha1] [X509Ocsp] [Url] in
theorem answerStored_stored {now : UInt64} {result : LookupResult} {body : Bytes}
    {etag : Octets 32} {lastModified expires : UInt64}
    (stored : (answerStored now result).response =
      .ocspSuccess body etag lastModified expires) :
    body = result.responseBytes ∧ result.window.outside now = false := by
  unfold answerStored ocspSuccessResponse at stored
  dsimp only at stored
  split_ifs at stored with closed
  cases stored
  exact ⟨rfl, Bool.eq_false_iff.mpr closed⟩

omit [Sha2] [Sha1] [X509Ocsp] in
theorem forwarded_notFromPayload (ca : String) (client : ForwardClient) (url : String)
    (derBytes : Bytes) (insecure : Bool) :
    Answer.NotFromPayload
      { response := forwardRequest client url derBytes insecure
        ca := ca
        status := .forwarded } := by
  refine ⟨forwardRequest_not_stored _ _ _ _, ?_⟩
  intro impossible
  cases impossible

omit [Sha2] [Sha1] [X509Ocsp] in
theorem answerForward_notFromPayload (state : AppState) (derBytes : Bytes)
    (result : LookupResult) : (answerForward state derBytes result).NotFromPayload := by
  rcases answerForward_cases state derBytes result with refused | ⟨client, url, insecure, answer⟩
  · rw [refused]
    exact Answer.internalError_notFromPayload _
  · rw [answer]
    exact forwarded_notFromPayload _ _ _ _ _

omit [Sha2] in
theorem answerMiss_notFromPayload (state : AppState) (clock : Nat → UInt64) (derBytes : Bytes)
    (asked : ParsedCertId) (nonce : Option Bytes) :
    (answerMiss state clock derBytes asked nonce).NotFromPayload := by
  rcases answerMiss_cases state clock derBytes asked nonce with
    refused | ⟨_, _, _, _, answer⟩ | ⟨_, _, _, _, _, _, _, _, _, answer⟩
  · rw [refused]
    exact Answer.notFromPayload_of_ocspError rfl (by decide)
  · rw [answer]
    exact forwarded_notFromPayload _ _ _ _ _
  · rw [answer]
    refine ⟨?_, ?_⟩
    · rintro ⟨_, _, _, _, impossible⟩
      cases impossible
    · intro impossible
      cases impossible

/-! ### What hits are answered with -/

/-- The payload of the first holder, unchanged, with its window open at both
readings of the clock. -/
structure StoredAnswer (routes : List Route) (clock : Nat → UInt64) (derBytes body : Bytes)
    (certId : CertId) (asked : ParsedCertId) (request : ParsedRequest) (route : Route) :
    Prop where
  asks : Asks derBytes certId asked request
  first : FirstHolder routes asked request.preferredSigAlgs route body
  open_ : ∀ reading < 2, route.bundle.manifest.window.thisUpdateMin ≤ clock reading ∧
    clock reading < route.bundle.manifest.window.nextUpdateMin

/-- A response that repeats what the payload of the first holder says about the
CertID, with the nonce of the request. -/
structure LiveAnswer (state : AppState) (routes : List Route) (now : UInt64)
    (derBytes body : Bytes) (certId : CertId) (asked : ParsedCertId) (request : ParsedRequest)
    (route : Route) (reply : SingleResponse) (ending : DateTime) : Prop where
  asks : Asks derBytes certId asked request
  signed : ∃ nonce, request.nonce = some nonce ∧ SignedFor body reply nonce
  about : reply.certId = certId
  source : ∃ payload basic single sourceEnd,
    FirstHolder routes asked request.preferredSigAlgs route payload ∧
    parseBasic payload = .ok basic ∧
    basic.tbsResponseData.responses.filter (·.certId = certId) = [single] ∧
    reply.certStatus = single.certStatus ∧ reply.thisUpdate = single.thisUpdate ∧
    single.nextUpdate = some sourceEnd ∧ ending.epoch ≤ sourceEnd.epoch
  ends : reply.nextUpdate = some ending
  current : reply.thisUpdate.epoch ≤ now ∧ now < ending.epoch
  withinBundle : ending.epoch ≤ route.bundle.manifest.window.nextUpdateMin
  withinSigner : ∃ live, state.liveSigners.lookup route.policy.caLabel = some live ∧
    ending.epoch.toNat ≤ now.toNat + live.validitySecs.toNat ∧
    ∀ bytes, live.responderCertDer = some bytes →
      ∃ cert, X509Ocsp.certificateFromDer bytes = .ok cert ∧ ending.epoch ≤ cert.notAfter

omit [Url] in
theorem liveAnswer_of_signed {state : AppState} {routes : List Route} {now : UInt64}
    {derBytes responseDer payload nonce : Bytes} {certId : CertId} {asked : ParsedCertId}
    {request : ParsedRequest} {route : Route} {live : LiveSignerState}
    {source : LiveResponseSource} (asks : Asks derBytes certId asked request)
    (codec : certId.ReadsBack) (given : request.nonce = some nonce)
    (first : FirstHolder routes asked request.preferredSigAlgs route payload)
    (signer : state.liveSigners.lookup route.policy.caLabel = some live)
    (extracted : extractStatusForCert payload asked.certidDer = .ok source)
    (signed : signLiveResponseWithWindow asked.certidDer source.status nonce
      live.responderKeyBytes live.signer now source.thisUpdate
      (minU64 (minU64 source.nextUpdate route.bundle.manifest.window.nextUpdateMin)
        (saturatingAddU64 now live.validitySecs)) live.responderCertDer = .ok responseDer) :
    ∃ reply ending, LiveAnswer state routes now derBytes responseDer certId asked request route
      reply ending := by
  obtain ⟨requested, basic, single, sourceEnd, decoded, parsed, only, hasEnd, sourceEq⟩ :=
    extractStatusForCert_eq_ok extracted
  subst sourceEq
  obtain ⟨next, reply, ending, started, current, cut, about, status, starts, ends, ended, carries⟩ :=
    signLiveResponseWithWindow_eq_ok signed
  obtain ⟨later, sooner, certified⟩ := liveNextUpdate_eq_ok cut current
  obtain ⟨certidDer, encodes, shape⟩ := Except.bind_eq_ok.mp asks.encoded
  rw [Except.mapError_eq_ok] at encodes
  cases shape
  have same := codec certidDer encodes
  rw [same] at decoded about
  cases decoded
  rw [statusFromSingle_toCertStatus] at status
  rw [ocspTime_epoch] at starts
  have bounds := minU64_spec
    (minU64 sourceEnd.epoch route.bundle.manifest.window.nextUpdateMin)
    (saturatingAddU64 now live.validitySecs)
  have sources := minU64_spec sourceEnd.epoch route.bundle.manifest.window.nextUpdateMin
  have withinSource : next ≤ sourceEnd.epoch :=
    UInt64.le_trans sooner (UInt64.le_trans bounds.1 sources.1)
  have calendar : next.toNat < 253402300800 := by
    refine Nat.lt_of_le_of_lt (UInt64.le_iff_toNat_le.mp withinSource) ?_
    rw [sourceEnd.toNat_epoch]
    exact sourceEnd.toUnixDuration_lt
  have instant : ending.epoch = next := epoch_of_ocspTime calendar ended
  have thisUpdate : single.thisUpdate = reply.thisUpdate := Except.ok.inj starts
  refine ⟨reply, ending, ?_⟩
  exact
    { asks := asks
      signed := ⟨nonce, given, carries⟩
      about := (Except.ok.inj about).symm
      source := by
        refine ⟨payload, basic, single, sourceEnd, first, parsed, only,
          (Except.ok.inj status).symm, thisUpdate.symm, hasEnd, ?_⟩
        rw [instant]
        exact withinSource
      ends := ends
      current := by
        rw [instant, ← thisUpdate]
        exact ⟨started, later⟩
      withinBundle := by
        rw [instant]
        exact UInt64.le_trans sooner (UInt64.le_trans bounds.1 sources.2.1)
      withinSigner := by
        refine ⟨live, signer, ?_, ?_⟩
        · rw [instant]
          exact Nat.le_trans (UInt64.le_iff_toNat_le.mp (UInt64.le_trans sooner bounds.2.1))
            (toNat_saturatingAddU64_le _ _)
        · intro bytes configured
          rw [instant]
          exact certified bytes configured }

/-- What goes out on a hit is the unchanged payload of the first holder while
its window is open, or a current response that repeats its status. -/
structure AnsweredCurrently (state : AppState) (routes : List Route) (clock : Nat → UInt64)
    (derBytes : Bytes) (answer : Answer) : Prop where
  stored : ∀ body etag lastModified expires,
    answer.response = .ocspSuccess body etag lastModified expires →
      ∃ certId asked request route,
        StoredAnswer routes clock derBytes body certId asked request route
  live : answer.status = .live →
    ∃ body certId asked request route reply ending, answer.response = .live body ∧
      LiveAnswer state routes (clock 1) derBytes body certId asked request route reply ending

omit [Sha1] [Url] in
theorem Answer.NotFromPayload.answeredCurrently {answer : Answer}
    (neither : answer.NotFromPayload) (state : AppState) (routes : List Route)
    (clock : Nat → UInt64) (derBytes : Bytes) :
    AnsweredCurrently state routes clock derBytes answer := by
  refine ⟨?_, fun isLive => absurd isLive neither.2⟩
  intro body etag lastModified expires stored
  exact absurd ⟨body, etag, lastModified, expires, stored⟩ neither.1

theorem answerHit_answeredCurrently {state : AppState} {routes : List Route}
    {clock : Nat → UInt64} {derBytes payload : Bytes} {certId : CertId} {asked : ParsedCertId}
    {request : ParsedRequest} {route : Route} (asks : Asks derBytes certId asked request)
    (codec : certId.ReadsBack)
    (first : FirstHolder routes asked request.preferredSigAlgs route payload) :
    AnsweredCurrently state routes clock derBytes
      (answerHit state clock derBytes asked request.nonce (route.result payload)) := by
  rcases answerHit_cases state clock derBytes asked request.nonce (route.result payload) with
    closed | ⟨atFirst, stored | forwarded | ⟨nonce, given, live⟩⟩
  · rw [closed]
    refine (Answer.notFromPayload_of_ocspError rfl ?_).answeredCurrently _ _ _ _
    intro impossible
    cases impossible
  · rw [stored]
    refine ⟨?_, ?_⟩
    · intro body etag lastModified expires goesOut
      obtain ⟨unchanged, atSecond⟩ := answerStored_stored goesOut
      rw [unchanged]
      refine ⟨certId, asked, request, route, asks, first, ?_⟩
      intro reading bound
      rw [← Window.outside_eq_false]
      match reading, bound with
      | 0, _ => exact atFirst
      | 1, _ => exact atSecond
    · intro impossible
      cases impossible
  · rw [forwarded]
    exact (answerForward_notFromPayload _ _ _).answeredCurrently _ _ _ _
  · rw [live]
    rcases answerLive_cases state (clock 1) asked nonce (route.result payload) with
      failed | ⟨signer, source, responseDer, configured, extracted, signed, response⟩
    · rw [failed]
      exact (Answer.internalError_notFromPayload _).answeredCurrently _ _ _ _
    · rw [response]
      refine ⟨?_, ?_⟩
      · intro _ _ _ _ impossible
        cases impossible
      · intro _
        obtain ⟨reply, ending, answered⟩ :=
          liveAnswer_of_signed asks codec given first configured extracted signed
        exact ⟨responseDer, certId, asked, request, route, reply, ending, rfl, answered⟩

variable [Ciborium] [Pki]

/-- Every request to a loaded working set is answered in one of these ways or
not from a payload at all. -/
theorem hits_are_answered_currently {os : Os} {config : Config} {disk : Disk} (state : AppState)
    (loaded : Served os config disk state.scopeMap) (clock : Nat → UInt64) (derBytes : Bytes)
    (codec : ∀ message, X509Ocsp.requestFromDer derBytes = .ok message →
      ∀ certId ∈ message.requestList, certId.ReadsBack) :
    ∃ paths routes, Routed os disk config paths state.scopeMap routes ∧
      AnsweredCurrently state routes clock derBytes
        (processRequestInner state clock derBytes) := by
  obtain ⟨paths, routes, routed⟩ := loaded.routed
  refine ⟨paths, routes, routed, ?_⟩
  rcases processRequestInner_cases state clock derBytes with
    refused | ⟨certId, asked, request, asks, ⟨result, found, answer⟩ | ⟨_, answer⟩⟩
  · rw [refused]
    exact (Answer.notFromPayload_of_ocspError rfl (by decide)).answeredCurrently _ _ _ _
  · rw [routed.routed.lookup] at found
    obtain ⟨route, payload, first, same⟩ := firstHolder_of_hits found
    subst same
    obtain ⟨message, decoded, isFirst⟩ := asks.decoded
    rw [answer]
    exact answerHit_answeredCurrently asks
      (codec message decoded certId (List.mem_of_mem_head? isFirst)) first
  · rw [answer]
    exact (answerMiss_notFromPayload _ _ _ _ _).answeredCurrently _ _ _ _

end Answers

/-! ### A demo server with a live signer -/

section LiveSample

local instance answersSha2 : Sha2 := Crates.sha2
local instance answersSha1 : Sha1 := Crates.sha1
local instance answersCiborium : Ciborium := Crates.ciborium
local instance answersPki : Pki := Crates.pki []
local instance answersUrl : Url := { scheme := fun _ => some "https" }

def demoCertId (serial : UInt8) : CertId :=
  { hashAlgorithm := { oid := "1.3.14.3.2.26", parameters := some [0x05, 0x00] }
    issuerNameHash := List.replicate 20 0x11
    issuerKeyHash := List.replicate 20 0xaa
    serialNumber := [serial] }

def demoNonce : Bytes := List.replicate 16 0x4e

def demoNonceExtension : Extension :=
  { extnId := idPkixOcspNonce
    critical := false
    extnValue := Der.octetString demoNonce }

def demoRequest (serial : UInt8) (extensions : Option (List Extension)) : OcspRequest :=
  { requestList := [demoCertId serial]
    requestExtensions := extensions }

def demoSigner : Signer :=
  { algorithm := .ok { oid := "1.2.840.10045.4.3.2", parameters := none }
    trySign := fun _ => .ok [0x30, 0x06, 0x02, 0x01, 0x01, 0x02, 0x01, 0x01] }

def demoBasic (producedAt : UInt64) (serial : UInt8) (status : CertStatus)
    (thisUpdate nextUpdate : UInt64) (extensions : Option (List Extension)) :
    BasicOcspResponse :=
  { tbsResponseData :=
      { responderId := .byKey (Sha1.sha1 Crates.signerKey).val
        producedAt := Crates.timeAt producedAt
        responses := [
          { certId := demoCertId serial
            certStatus := status
            thisUpdate := Crates.timeAt thisUpdate
            nextUpdate := some (Crates.timeAt nextUpdate)
            singleExtensions := none }]
        responseExtensions := extensions }
    signatureAlgorithm := { oid := "1.2.840.10045.4.3.2", parameters := none }
    signature := [0x30, 0x06, 0x02, 0x01, 0x01, 0x02, 0x01, 0x01]
    certs := none }

def storedBasic : BasicOcspResponse :=
  demoBasic 1800000000 1 .good 1800000000 1800086400 none

def liveBasic : BasicOcspResponse :=
  demoBasic 1800000100 1 .good 1800000000 1800003700 (some [demoNonceExtension])

def answersMessages : Crates.Messages :=
  { requests := [demoRequest 1 none, demoRequest 1 (some [demoNonceExtension])]
    certIds := [demoCertId 1]
    basics := [storedBasic, liveBasic] }

local instance answersX509Ocsp : X509Ocsp := Crates.x509Ocsp answersMessages

def storedPayload : Bytes :=
  Crates.responseDer
    { responseStatus := .successful
      responseBytes :=
        some { responseType := idPkixOcspBasic, response := Crates.basicDer storedBasic } }

def answeringFile : Bytes :=
  let builder := (BundleBuilder.new
    (Crates.plainManifest "p" [Crates.plainScope 0xaa 5] none)).addEntry
      (Sha2.sha256 (Crates.certIdDer (demoCertId 1))) storedPayload
  (builder.written inputHeader []).toBytes.toOption.getD []

def liveConfig : Config :=
  { demoConfig with
    server := { mode := "combined" }
    ca := [
      { label := "a"
        noncePolicy := "live"
        completeness := "authoritative-complete"
        signingKey := some .demo }] }

def liveWorld (file : Bytes) : World :=
  World.holding [(["w", "bundles", "a.ahu"], file)] ["w", "state", "state.json"]
    PersistedState.default

def liveLoad (file : Bytes) : Except CoreError ScopeMap × StateStore × World :=
  (loadScopeMap (Os.faultless 1800000000) liveConfig).outcome
    ({ path := liveConfig.statePath, state := PersistedState.default, staged := false },
      liveWorld file)

theorem liveLoad_served {file : Bytes} {map : ScopeMap} (run : (liveLoad file).1 = .ok map) :
    Served (Os.faultless 1800000000) liveConfig (liveWorld file).disk map := by
  have whole : liveLoad file = (.ok map, (liveLoad file).2) := Prod.ext run rfl
  exact .configured whole

def demoLive : LiveSignerState :=
  { signer := demoSigner
    responderKeyBytes := Crates.signerKey
    validitySecs := 3600
    responderCertDer := none }

def liveState (map : ScopeMap) : AppState :=
  { config := liveConfig
    scopeMap := map
    liveSigners := (∅ : HashMap String LiveSignerState).insert "a" demoLive
    forwardClients := ∅ }

theorem answeringFile_answers : ((liveLoad answeringFile).1.map fun map =>
    ((processRequestInner (liveState map) (fun _ => 1800000100)
        (Crates.requestDer (demoRequest 1 none))).response,
      (processRequestInner (liveState map) (fun _ => 1800000100)
        (Crates.requestDer (demoRequest 1 (some [demoNonceExtension])))).status)) =
    .ok (.ocspSuccess storedPayload (Sha2.sha256 storedPayload) 1800000000 1800086400,
      .live) := by
  decide +kernel

theorem demoCertId_readsBack (certId : CertId) : certId.ReadsBack := by
  intro der encoded
  refine Crates.decodeListed_encodeListed ?_ encoded
  intro left leftListed right rightListed _
  rw [List.mem_singleton.mp leftListed, List.mem_singleton.mp rightListed]

/-- Without a nonce the demo server sends the payload, with one it signs. -/
theorem demo_hits_answered_currently : ∃ map paths routes,
    Served (Os.faultless 1800000000) liveConfig (liveWorld answeringFile).disk map ∧
      Routed (Os.faultless 1800000000) (liveWorld answeringFile).disk liveConfig paths map routes ∧
      (∃ certId asked request route, StoredAnswer routes (fun _ => 1800000100)
        (Crates.requestDer (demoRequest 1 none)) storedPayload certId asked request route) ∧
      ∃ routes' body certId asked request route reply ending,
        LiveAnswer (liveState map) routes' 1800000100
          (Crates.requestDer (demoRequest 1 (some [demoNonceExtension]))) body certId asked request
          route reply ending := by
  obtain ⟨map, run, answers⟩ := Except.map_eq_ok.mp answeringFile_answers
  have served := liveLoad_served run
  obtain ⟨stored, live⟩ := Prod.mk.inj answers
  obtain ⟨paths, routes, routed, plain⟩ := hits_are_answered_currently (liveState map) served
    (fun _ => 1800000100) (Crates.requestDer (demoRequest 1 none))
    (fun _ _ certId _ => demoCertId_readsBack certId)
  obtain ⟨_, routes', _, nonced⟩ := hits_are_answered_currently (liveState map) served
    (fun _ => 1800000100) (Crates.requestDer (demoRequest 1 (some [demoNonceExtension])))
    (fun _ _ certId _ => demoCertId_readsBack certId)
  obtain ⟨body, certId, asked, request, route, reply, ending, _, answered⟩ := nonced.live live
  exact ⟨map, paths, routes, served, routed, plain.stored _ _ _ _ stored, routes', body, certId,
    asked, request, route, reply, ending, answered⟩

end LiveSample

end Hoike
