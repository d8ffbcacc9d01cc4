/-
Signed "unknown" answers.

For a CertID without an entry the handler goes by the configured completeness
of the first scope alone.  Neither the completeness that the sealed manifest
declares nor the window of the bundle is looked at, so the answer is backed by
a bundle only where these happen to agree with the configuration.
-/

import Hoike.Ocsp.EpochTime
import Hoike.Server.Answers

namespace Hoike

open Ahu
open Ocsp

def ScopeMap.RegisteredFor (map : ScopeMap) (asked : ParsedCertId) (bundle : Bundle) : Prop :=
  ∃ entries entry, map.entries.lookup asked.scopeKey = some entries ∧ entry ∈ entries ∧
    map.bundles[entry.bundleIdx]? = some bundle

def Ahu.Bundle.CompleteFor (bundle : Bundle) (asked : ParsedCertId) : Prop :=
  ∃ scope ∈ bundle.manifest.caScopes, scope.scopeKey = asked.scopeKey ∧
    scope.completeness = .authoritativeComplete

/-- A current bundle that covers the whole scope. -/
structure ScopeMap.Vouches (map : ScopeMap) (asked : ParsedCertId) (now : UInt64)
    (bundle : Bundle) : Prop where
  registered : map.RegisteredFor asked bundle
  complete : bundle.CompleteFor asked
  started : bundle.manifest.window.thisUpdateMin ≤ now
  current : now < bundle.manifest.window.nextUpdateMin

section Unknowns

variable [Sha2] [Sha1] [X509Ocsp] [Url]

def LiveSignerState.EndsBy (live : LiveSignerState) (now limit : UInt64) : Prop :=
  now.toNat + live.validitySecs.toNat ≤ limit.toNat ∨
    ∃ bytes cert, live.responderCertDer = some bytes ∧
      X509Ocsp.certificateFromDer bytes = .ok cert ∧ cert.notAfter ≤ limit

/-- Responses can be dated from now on, under a certificate that is valid now. -/
structure LiveSignerState.ValidAt (live : LiveSignerState) (now : UInt64) : Prop where
  lasting : 0 < live.validitySecs
  fits : now.toNat + live.validitySecs.toNat < 18446744073709551616
  certificate : ∀ bytes, live.responderCertDer = some bytes →
    ∃ cert, X509Ocsp.certificateFromDer bytes = .ok cert ∧ cert.notBefore ≤ now ∧
      now < cert.notAfter

/-- All that the request, the indexes, the configuration and the dates have to
say before the miss path signs with this signer. -/
structure AppState.MissSigns (state : AppState) (now : UInt64) (asked : ParsedCertId)
    (request : ParsedRequest) (nonce : Bytes) (live : LiveSignerState) : Prop where
  nonced : request.nonce = some nonce
  accepted : validateNonce nonce ≠ .malformedRequest
  missing : state.scopeMap.lookup asked request.preferredSigAlgs = none
  complete : ∃ scope, state.scopeMap.scopeForCertid asked = some scope ∧
    scope.authoritative = true ∧ state.liveSigners.lookup scope.caLabel = some live
  valid : live.ValidAt now

def UnknownUntil (body : Bytes) (certId : CertId) (ending : DateTime) : Prop :=
  ∃ basic reply, parseBasic body = .ok basic ∧ basic.tbsResponseData.responses = [reply] ∧
    reply.certId = certId ∧ reply.certStatus = .unknown ∧ reply.nextUpdate = some ending

omit [Sha2] [Sha1] [Url] in
theorem UnknownUntil.ending_eq {body : Bytes} {certId other : CertId} {ending end' : DateTime}
    (answers : UnknownUntil body certId ending) (again : UnknownUntil body other end') :
    ending = end' := by
  obtain ⟨basic, reply, parsed, only, _, _, ends⟩ := answers
  obtain ⟨basic', reply', parsed', only', _, _, ends'⟩ := again
  rw [parsed] at parsed'
  cases parsed'
  rw [only] at only'
  cases only'
  rw [ends] at ends'
  exact Option.some.inj ends'

/-- If the answer is a signed unknown, a bundle vouches for it until it ends. -/
def AppState.UnknownBacked (state : AppState) (clock : Nat → UInt64) (derBytes : Bytes) : Prop :=
  (processRequestInner state clock derBytes).status = .unknown →
    ∃ certId asked request body ending bundle, Asks derBytes certId asked request ∧
      (processRequestInner state clock derBytes).response = .live body ∧
      UnknownUntil body certId ending ∧ state.scopeMap.Vouches asked (clock 0) bundle ∧
      ending.epoch ≤ bundle.manifest.window.nextUpdateMin

/-- Where the miss path signs, the configured validity or the certificate ends
within the window of a current, complete bundle. -/
def AppState.MissOutlasted (state : AppState) (now : UInt64) (derBytes : Bytes) : Prop :=
  ∀ certId asked request nonce live, Asks derBytes certId asked request →
    state.MissSigns now asked request nonce live →
    ∃ bundle, state.scopeMap.Vouches asked now bundle ∧
      live.EndsBy now bundle.manifest.window.nextUpdateMin

theorem answerHit_not_unknown (state : AppState) (clock : Nat → UInt64) (derBytes : Bytes)
    (asked : ParsedCertId) (nonce : Option Bytes) (result : LookupResult) :
    (answerHit state clock derBytes asked nonce result).status ≠ .unknown := by
  intro counted
  rcases answerHit_cases state clock derBytes asked nonce result with
    closed | ⟨_, stored | forwarded | ⟨value, _, live⟩⟩
  · rw [closed] at counted
    cases counted
  · rw [stored] at counted
    cases counted
  · rcases answerForward_cases state derBytes result with refused | ⟨_, _, _, answer⟩
    · rw [forwarded, refused] at counted
      cases counted
    · rw [forwarded, answer] at counted
      cases counted
  · rcases answerLive_cases state (clock 1) asked value result with
      failed | ⟨_, _, _, _, _, _, answer⟩
    · rw [live, failed] at counted
      cases counted
    · rw [live, answer] at counted
      cases counted

omit [Sha2] [Sha1] [Url] in
theorem LiveSignerState.endsBy_iff {live : LiveSignerState} {now next : UInt64}
    (fits : now.toNat + live.validitySecs.toNat < 18446744073709551616)
    (cut : liveNextUpdate now (now + live.validitySecs) live.responderCertDer = .ok next)
    (limit : UInt64) : live.EndsBy now limit ↔ next ≤ limit := by
  have sum : (now + live.validitySecs).toNat = now.toNat + live.validitySecs.toNat := by
    rw [UInt64.toNat_add, Nat.mod_eq_of_lt fits]
  unfold LiveSignerState.EndsBy
  rw [← sum, ← UInt64.le_iff_toNat_le]
  cases carried : live.responderCertDer with
  | none =>
      rw [carried] at cut
      cases cut
      constructor
      · rintro (own | ⟨_, _, impossible, _⟩)
        · exact own
        · cases impossible
      · exact Or.inl
  | some bytes =>
      rw [carried] at cut
      obtain ⟨cert, decoded, cut⟩ := Except.bind_eq_ok.mp cut
      obtain ⟨_, _, same⟩ := Except.bind_eq_ok.mp cut
      rw [Except.mapError_eq_ok] at decoded
      cases same
      obtain ⟨byOwn, byCert, either⟩ := Ahu.minU64_spec (now + live.validitySecs) cert.notAfter
      constructor
      · rintro (own | ⟨_, _, chosen, decodedTo, expires⟩)
        · exact UInt64.le_trans byOwn own
        · cases chosen
          rw [decoded] at decodedTo
          cases decodedTo
          exact UInt64.le_trans byCert expires
      · intro bounded
        rcases either with own | ended
        · rw [own] at bounded
          exact Or.inl bounded
        · rw [ended] at bounded
          exact Or.inr ⟨bytes, cert, rfl, decoded, bounded⟩

omit [Sha2] [Url] in
theorem LiveSignerState.validAt_of_signed {live : LiveSignerState} {certidDer nonce body : Bytes}
    {status : LiveCertStatus} {now : UInt64}
    (signed : signLiveResponse certidDer status nonce live.responderKeyBytes live.signer now
      live.validitySecs live.responderCertDer = .ok body) : live.ValidAt now := by
  obtain ⟨_, fits, signed⟩ := Except.bind_eq_ok.mp signed
  rw [Except.require_eq_ok] at fits
  obtain ⟨next, _, _, _, current, cut, _⟩ := signLiveResponseWithWindow_eq_ok signed
  refine ⟨?_, fits, ?_⟩
  · rw [UInt64.lt_iff_toNat_lt, UInt64.toNat_add, Nat.mod_eq_of_lt fits] at current
    rw [UInt64.lt_iff_toNat_lt]
    exact Nat.pos_of_lt_add_right current
  · intro bytes carried
    rw [carried] at cut
    obtain ⟨cert, decoded, cut⟩ := Except.bind_eq_ok.mp cut
    obtain ⟨_, valid, _⟩ := Except.bind_eq_ok.mp cut
    rw [Except.mapError_eq_ok] at decoded
    rw [Except.require_eq_ok] at valid
    exact ⟨cert, decoded, valid⟩

omit [Sha2] [Url] in
theorem unknownUntil_of_signed (codec : ResponsesReadBack) {certId : CertId}
    (readsBack : certId.ReadsBack) {certidDer nonce body : Bytes} {live : LiveSignerState}
    {now : UInt64} (decoded : X509Ocsp.certIdFromDer certidDer = .ok certId)
    (signed : signLiveResponse certidDer .unknown nonce live.responderKeyBytes live.signer now
      live.validitySecs live.responderCertDer = .ok body) :
    ∃ next ending, UnknownUntil body certId ending ∧ ocspTime next = .ok ending ∧
      ∀ limit, live.EndsBy now limit ↔ next ≤ limit := by
  obtain ⟨_, fits, signed⟩ := Except.bind_eq_ok.mp signed
  rw [Except.require_eq_ok] at fits
  obtain ⟨next, reply, ending, _, _, cut, about, status, _, ends, ended, carries⟩ :=
    signLiveResponseWithWindow_eq_ok signed
  obtain ⟨basic, der, extension, only, _, _, inner, outer⟩ := carries
  rw [decoded] at about
  have ids : ∀ single ∈ basic.tbsResponseData.responses, single.certId.ReadsBack := by
    intro single member
    rw [only, List.mem_singleton] at member
    rw [member, ← Except.ok.inj about]
    exact readsBack
  exact ⟨next, ending, ⟨basic, reply, codec basic der body ids inner outer, only,
    (Except.ok.inj about).symm, (Except.ok.inj status).symm, ends⟩, ended,
    LiveSignerState.endsBy_iff fits cut⟩

theorem missSigns_of_counted {state : AppState} {clock : Nat → UInt64} {derBytes : Bytes}
    (counted : (processRequestInner state clock derBytes).status = .unknown) :
    ∃ certId asked request nonce live body, Asks derBytes certId asked request ∧
      state.MissSigns (clock 0) asked request nonce live ∧
      signLiveResponse asked.certidDer .unknown nonce live.responderKeyBytes live.signer (clock 0)
        live.validitySecs live.responderCertDer = .ok body ∧
      (processRequestInner state clock derBytes).response = .live body := by
  rcases processRequestInner_cases state clock derBytes with
    refused | ⟨certId, asked, request, asks, ⟨result, found, answer⟩ | ⟨missing, answer⟩⟩
  · rw [refused] at counted
    cases counted
  · rw [answer] at counted
    exact absurd counted (answerHit_not_unknown _ _ _ _ _ _)
  · have accepted := asks.nonce_accepted counted
    rcases answerMiss_cases state clock derBytes asked request.nonce with
      unauthorized | ⟨_, _, _, _, forwarded⟩ |
        ⟨nonce, scope, live, body, nonced, routed, authoritative, signer, signed, unknown⟩
    · rw [answer, unauthorized] at counted
      cases counted
    · rw [answer, forwarded] at counted
      cases counted
    rw [nonced] at accepted
    refine ⟨certId, asked, request, nonce, live, body, asks, ?_, signed, ?_⟩
    · exact
        { nonced := nonced
          accepted := fun malformed => accepted (congrArg some malformed)
          missing := missing
          complete := ⟨scope, routed, authoritative, signer⟩
          valid := LiveSignerState.validAt_of_signed signed }
    · rw [answer, unknown]

omit [Sha1] [Url] in
theorem Asks.certIdFromDer {derBytes : Bytes} {certId : CertId} {asked : ParsedCertId}
    {request : ParsedRequest} (asks : Asks derBytes certId asked request)
    (ids : ∀ message, X509Ocsp.requestFromDer derBytes = .ok message →
      ∀ certId ∈ message.requestList, certId.ReadsBack) :
    certId.ReadsBack ∧ X509Ocsp.certIdFromDer asked.certidDer = .ok certId := by
  obtain ⟨message, decoded, isFirst⟩ := asks.decoded
  obtain ⟨certidDer, encodes, shape⟩ := Except.bind_eq_ok.mp asks.encoded
  rw [Except.mapError_eq_ok] at encodes
  have readsBack := ids message decoded certId (List.mem_of_mem_head? isFirst)
  cases shape
  exact ⟨readsBack, readsBack certidDer encodes⟩

/-- A signed unknown is backed by a current, complete bundle if, wherever the
miss path signs, such a bundle lasts until the configured validity or the
certificate ends; and where that end has a date before the year 10000 and the
signer can sign, only then. -/
theorem signed_unknown_backed_iff (codec : ResponsesReadBack) (state : AppState)
    (clock : Nat → UInt64) (derBytes : Bytes)
    (ids : ∀ message, X509Ocsp.requestFromDer derBytes = .ok message →
      ∀ certId ∈ message.requestList, certId.ReadsBack) :
    (state.MissOutlasted (clock 0) derBytes → state.UnknownBacked clock derBytes) ∧
      ((∀ certId asked request nonce live, Asks derBytes certId asked request →
          state.MissSigns (clock 0) asked request nonce live →
          (clock 0).toNat + live.validitySecs.toNat < 253402300800 ∧
            ∃ body, signLiveResponse asked.certidDer .unknown nonce live.responderKeyBytes
              live.signer (clock 0) live.validitySecs live.responderCertDer = .ok body) →
        state.UnknownBacked clock derBytes → state.MissOutlasted (clock 0) derBytes) := by
  constructor
  · intro outlasted counted
    obtain ⟨certId, asked, request, nonce, live, body, asks, signs, signed, response⟩ :=
      missSigns_of_counted counted
    obtain ⟨readsBack, decoded⟩ := asks.certIdFromDer ids
    obtain ⟨next, ending, answers, ended, endsBy⟩ :=
      unknownUntil_of_signed codec readsBack decoded signed
    obtain ⟨bundle, vouches, lasts⟩ := outlasted certId asked request nonce live asks signs
    exact ⟨certId, asked, request, body, ending, bundle, asks, response, answers, vouches,
      UInt64.le_trans (epoch_ocspTime_le ended) ((endsBy _).mp lasts)⟩
  · intro able backed certId asked request nonce live asks signs
    obtain ⟨early, body, signed⟩ := able certId asked request nonce live asks signs
    obtain ⟨scope, routed, authoritative, signer⟩ := signs.complete
    have answer := processRequestInner_of_miss asks signs.nonced signs.accepted signs.missing
      routed authoritative signer signed
    obtain ⟨certId', asked', request', body', ending', bundle, asks', response, answers', vouches,
      lasts⟩ := backed (by rw [answer])
    obtain ⟨rfl, rfl⟩ := asks.unique asks'
    rw [answer] at response
    cases response
    -- The response that is backed is the one this signer signs.
    obtain ⟨readsBack, decoded⟩ := asks.certIdFromDer ids
    obtain ⟨next, ending, answers, ended, endsBy⟩ :=
      unknownUntil_of_signed codec readsBack decoded signed
    rw [answers'.ending_eq answers] at lasts
    have within : next.toNat < 253402300800 := by
      have bounded := (endsBy (clock 0 + live.validitySecs)).mp (Or.inl ?_)
      · rw [UInt64.le_iff_toNat_le, UInt64.toNat_add, Nat.mod_eq_of_lt signs.valid.fits] at bounded
        exact Nat.lt_of_le_of_lt bounded early
      · rw [UInt64.toNat_add, Nat.mod_eq_of_lt signs.valid.fits]
    rw [epoch_of_ocspTime within ended] at lasts
    exact ⟨bundle, vouches, (endsBy _).mpr lasts⟩

end Unknowns

/-! ### A current and an expired bundle -/

section DemoUnknowns

local instance unknownsSha2 : Sha2 := Crates.sha2
local instance unknownsSha1 : Sha1 := Crates.sha1
local instance unknownsCiborium : Ciborium := Crates.ciborium
local instance unknownsPki : Pki := Crates.pki []
local instance unknownsUrl : Url := { scheme := fun _ => some "https" }

def unknownBasic (now : UInt64) : BasicOcspResponse :=
  demoBasic now 2 .unknown now (now + 3600) (some [demoNonceExtension])

def unknownMessages : Crates.Messages :=
  { requests := [demoRequest 2 (some [demoNonceExtension])]
    certIds := [demoCertId 2]
    basics := [unknownBasic 1800000100, unknownBasic 1800200000] }

local instance unknownsX509Ocsp : X509Ocsp := Crates.x509Ocsp unknownMessages

def askUnknown (map : ScopeMap) (now : UInt64) : Answer :=
  processRequestInner (liveState map) (fun _ => now)
    (Crates.requestDer (demoRequest 2 (some [demoNonceExtension])))

/-- How the demo server counts the requests, and what it holds for the issuer. -/
structure UnknownsView where
  current : RequestStatus
  expired : RequestStatus
  registered : Option (List Nat)
  scopes : List (List CaScope)
  windows : List Window
deriving DecidableEq

def unknownsView (current expired : UInt64) (map : ScopeMap) : UnknownsView :=
  { current := (askUnknown map current).status
    expired := (askUnknown map expired).status
    registered := (map.entries.lookup (List.replicate 20 0x11, List.replicate 20 0xaa)).map
      (List.map ScopeEntry.bundleIdx)
    scopes := map.bundles.map fun bundle => bundle.manifest.caScopes
    windows := map.bundles.map fun bundle => bundle.manifest.window }

theorem answeringFile_unknowns :
    (liveLoad answeringFile).1.map (unknownsView 1800000100 1800200000) = .ok
      { current := .unknown
        expired := .unknown
        registered := some [0]
        scopes := [[Crates.plainScope 0xaa 5]]
        windows := [(Crates.plainManifest "p" [] none).window] } := by
  decide +kernel

theorem counted_of_view {current expired : UInt64} {map : ScopeMap} {view : UnknownsView}
    (viewed : unknownsView current expired map = view) :
    (askUnknown map current).status = view.current ∧
      (askUnknown map expired).status = view.expired := by
  subst viewed
  dsimp only [unknownsView]
  exact ⟨Eq.refl _, Eq.refl _⟩

theorem unknownMessages_readBack : ResponsesReadBack :=
  Crates.responsesReadBack unknownMessages (by decide +kernel) (by decide +kernel)

theorem unknownCertId_readsBack (certId : CertId) : certId.ReadsBack := by
  intro der encoded
  refine Crates.decodeListed_encodeListed ?_ encoded
  intro left leftListed right rightListed _
  rw [List.mem_singleton.mp leftListed, List.mem_singleton.mp rightListed]

theorem window_of_registered {map : ScopeMap} {asked : ParsedCertId} {bundle : Bundle}
    {windows : List Window}
    (viewed : (map.bundles.map fun bundle => bundle.manifest.window) = windows)
    (registered : map.RegisteredFor asked bundle) : bundle.manifest.window ∈ windows := by
  obtain ⟨_, entry, _, _, found⟩ := registered
  rw [← viewed]
  exact List.mem_map_of_mem (List.mem_of_getElem? found)

/-- Two days after the window of its only bundle has closed, the server still
signs that it does not know the certificate. -/
theorem expired_bundle_signs_unknown : ∃ map certId asked request body ending,
    Served (Os.faultless 1800000000) liveConfig (liveWorld answeringFile).disk map ∧
      Asks (Crates.requestDer (demoRequest 2 (some [demoNonceExtension]))) certId asked request ∧
      (askUnknown map 1800200000).response = .live body ∧
      (askUnknown map 1800200000).status = .unknown ∧ UnknownUntil body certId ending ∧
      ∀ bundle, ¬map.Vouches asked 1800200000 bundle := by
  obtain ⟨map, run, view⟩ := Except.map_eq_ok.mp answeringFile_unknowns
  have counted := (counted_of_view view).2
  have windows := congrArg UnknownsView.windows view
  obtain ⟨certId, asked, request, nonce, live, body, asks, _, signed, response⟩ :=
    missSigns_of_counted counted
  obtain ⟨readsBack, decoded⟩ :=
    asks.certIdFromDer (fun _ _ certId _ => unknownCertId_readsBack certId)
  obtain ⟨_, ending, answers, _⟩ :=
    unknownUntil_of_signed unknownMessages_readBack readsBack decoded signed
  refine ⟨map, certId, asked, request, body, ending, liveLoad_served run, asks, response, counted,
    answers, ?_⟩
  intro bundle vouches
  have current := vouches.current
  rw [List.mem_singleton.mp (window_of_registered windows vouches.registered)] at current
  exact absurd current (by decide)

theorem scopeKey_of_asks {certId : CertId} {asked : ParsedCertId} {request : ParsedRequest}
    (asks : Asks (Crates.requestDer (demoRequest 2 (some [demoNonceExtension]))) certId asked
      request) :
    asked.scopeKey = (List.replicate 20 0x11, List.replicate 20 0xaa) := by
  obtain ⟨message, decoded, first⟩ := asks.decoded
  have listed : message ∈ unknownMessages.requests := by
    unfold X509Ocsp.requestFromDer unknownsX509Ocsp Crates.x509Ocsp Crates.decodeListed at decoded
    dsimp only at decoded
    split at decoded
    case h_1 value found =>
      cases decoded
      exact List.mem_of_find?_eq_some found
    case h_2 =>
      cases decoded
  rw [List.mem_singleton.mp listed] at first
  obtain ⟨der, _, shape⟩ := Except.bind_eq_ok.mp asks.encoded
  cases first
  cases shape
  rfl

theorem vouches_of_view {map : ScopeMap} {asked : ParsedCertId} {now : UInt64}
    (key : asked.scopeKey = (List.replicate 20 0x11, List.replicate 20 0xaa))
    (registered : (map.entries.lookup (List.replicate 20 0x11, List.replicate 20 0xaa)).map
      (List.map ScopeEntry.bundleIdx) = some [0])
    (scopes : (map.bundles.map fun bundle => bundle.manifest.caScopes) =
      [[Crates.plainScope 0xaa 5]])
    (windows : (map.bundles.map fun bundle => bundle.manifest.window) =
      [(Crates.plainManifest "p" [] none).window])
    (started : 1800000000 ≤ now) (current : now < 1800086400) :
    ∃ bundle, map.Vouches asked now bundle ∧
      bundle.manifest.window.nextUpdateMin = 1800086400 := by
  obtain ⟨entries, found, indices⟩ := Option.map_eq_some_iff.mp registered
  obtain ⟨entry, rest, split⟩ : ∃ entry rest, entries = entry :: rest := by
    cases entries with
    | nil =>
        cases indices
    | cons entry rest =>
        exact ⟨entry, rest, rfl⟩
  obtain ⟨bundle, others, loaded⟩ : ∃ bundle others, map.bundles = bundle :: others := by
    cases bundles : map.bundles with
    | nil =>
        rw [bundles] at scopes
        cases scopes
    | cons bundle others =>
        exact ⟨bundle, others, rfl⟩
  subst split
  rw [loaded] at scopes windows
  have ownScopes : bundle.manifest.caScopes = [Crates.plainScope 0xaa 5] := (List.cons.inj scopes).1
  have ownWindow : bundle.manifest.window = (Crates.plainManifest "p" [] none).window :=
    (List.cons.inj windows).1
  have first : entry.bundleIdx = 0 := (List.cons.inj indices).1
  have place : map.RegisteredFor asked bundle := by
    refine ⟨entry :: rest, entry, ?_, List.mem_cons_self, ?_⟩
    · rw [key]
      exact found
    · rw [first, loaded]
      rfl
  have complete : bundle.CompleteFor asked := by
    refine ⟨Crates.plainScope 0xaa 5, ?_, ?_, rfl⟩
    · rw [ownScopes]
      exact List.mem_singleton_self _
    · rw [key]
      rfl
  refine ⟨bundle, ⟨place, complete, ?_, ?_⟩, ?_⟩
  · rw [ownWindow]
    exact started
  · rw [ownWindow]
    exact current
  · rw [ownWindow]
    rfl

theorem liveState_signer {map : ScopeMap} {label : String} {live : LiveSignerState}
    (signer : (liveState map).liveSigners.lookup label = some live) : live = demoLive := by
  unfold liveState at signer
  dsimp only at signer
  by_cases same : label = "a"
  · rw [same, AList.lookup_insert] at signer
    exact (Option.some.inj signer).symm
  · rw [AList.lookup_insert_ne same] at signer
    cases signer

theorem current_bundle_backs_unknown : ∃ map,
    Served (Os.faultless 1800000000) liveConfig (liveWorld answeringFile).disk map ∧
      (askUnknown map 1800000100).status = .unknown ∧
      (liveState map).MissOutlasted 1800000100
        (Crates.requestDer (demoRequest 2 (some [demoNonceExtension]))) ∧
      (liveState map).UnknownBacked (fun _ => 1800000100)
        (Crates.requestDer (demoRequest 2 (some [demoNonceExtension]))) := by
  obtain ⟨map, run, view⟩ := Except.map_eq_ok.mp answeringFile_unknowns
  have counted := (counted_of_view view).1
  have backed := signed_unknown_backed_iff unknownMessages_readBack (liveState map)
    (fun _ => 1800000100) (Crates.requestDer (demoRequest 2 (some [demoNonceExtension])))
    (fun _ _ certId _ => unknownCertId_readsBack certId)
  have outlasted : (liveState map).MissOutlasted 1800000100
      (Crates.requestDer (demoRequest 2 (some [demoNonceExtension]))) := by
    intro certId asked request nonce live asks signs
    obtain ⟨scope, _, _, signer⟩ := signs.complete
    obtain ⟨bundle, vouches, ending⟩ := vouches_of_view (scopeKey_of_asks asks)
      (congrArg UnknownsView.registered view) (congrArg UnknownsView.scopes view)
      (congrArg UnknownsView.windows view) (show (1800000000 : UInt64) ≤ 1800000100 by decide)
      (by decide)
    refine ⟨bundle, vouches, Or.inl ?_⟩
    rw [liveState_signer signer, ending]
    decide
  exact ⟨map, liveLoad_served run, counted, outlasted, backed.1 outlasted⟩

end DemoUnknowns

end Hoike
