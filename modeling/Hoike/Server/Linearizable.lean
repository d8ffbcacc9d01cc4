/-
A request while the bundles are reloaded (`handlers.rs`, `router.rs`).

The handler reads the scope map once for the entry of a CertID and, if there is
none and the request has a nonce, a second time for the scope of its issuer.
Each reload replaces the map at once, so one may fall between the two reads.
-/

import Hoike.Server.SignedUnknown

namespace Hoike

open Ahu
open Ocsp

/-! ### The steps of a request -/

/-- How far a request has come. -/
inductive Stage where
  | received
  | missed (certId : ParsedCertId) (preferredAlgs : List UInt16) (nonce : Bytes)
  | answered (answer : Answer)

/-- A request in progress.  `state.scopeMap` is the current map; `active` are
the maps that have been current since the request came in. -/
structure Serving where
  state : AppState
  active : List ScopeMap
  stage : Stage

def Serving.start (state : AppState) : Serving :=
  { state := state
    active := [state.scopeMap]
    stage := .received }

def AppState.withMap (state : AppState) (map : ScopeMap) : AppState :=
  { state with scopeMap := map }

/-- What happens next: a reload has succeeded, or the handler reads the map. -/
inductive ServingEvent where
  | reloaded (map : ScopeMap)
  | read

section Requests

variable [Sha2] [Sha1] [X509Ocsp] [Url]

def firstRead (state : AppState) (clock : Nat → UInt64) (derBytes : Bytes) : Stage :=
  match parseOcspRequest derBytes with
  | .error _ => .answered .malformed
  | .ok parsed =>
      if parsed.nonce.map validateNonce = some .malformedRequest then .answered .malformed
      else
        match parsed.certIds.head? with
        | none => .answered .malformed
        | some certId =>
            match state.scopeMap.lookup certId parsed.preferredSigAlgs with
            | some result => .answered (answerHit state clock derBytes certId parsed.nonce result)
            | none =>
                match parsed.nonce with
                | none => .answered .unauthorized
                | some nonce => .missed certId parsed.preferredSigAlgs nonce

def nextStage (state : AppState) (clock : Nat → UInt64) (derBytes : Bytes) : Stage → Stage
  | .received => firstRead state clock derBytes
  | .missed certId _ nonce => .answered (answerUnknown state (clock 0) derBytes certId nonce)
  | .answered answer => .answered answer

/-- Once there is an answer, later maps no longer concern the request. -/
def Serving.step (clock : Nat → UInt64) (derBytes : Bytes) (serving : Serving) :
    ServingEvent → Serving
  | .reloaded map =>
      match serving.stage with
      | .answered _ => { serving with state := serving.state.withMap map }
      | _ => { serving with
          state := serving.state.withMap map
          active := serving.active ++ [map] }
  | .read => { serving with stage := nextStage serving.state clock derBytes serving.stage }

def Serving.run (clock : Nat → UInt64) (derBytes : Bytes) (serving : Serving)
    (events : List ServingEvent) : Serving :=
  events.foldl (Serving.step clock derBytes) serving

theorem run_undisturbed (state : AppState) (clock : Nat → UInt64) (derBytes : Bytes) :
    ((Serving.start state).run clock derBytes [.read, .read]).stage =
      .answered (processRequestInner state clock derBytes) := by
  change nextStage state clock derBytes (firstRead state clock derBytes) = _
  unfold firstRead processRequestInner
  cases parseOcspRequest derBytes with
  | error error =>
      rfl
  | ok parsed =>
      dsimp only
      split_ifs
      · rfl
      · cases parsed.certIds.head? with
        | none =>
            rfl
        | some certId =>
            dsimp only
            cases state.scopeMap.lookup certId parsed.preferredSigAlgs with
            | some result =>
                rfl
            | none =>
                dsimp only
                unfold answerMiss
                cases parsed.nonce with
                | none =>
                    rfl
                | some nonce =>
                    rfl

/-! ### Reads that agree -/

def ScopeMap.Resolves (map : ScopeMap) (certId : ParsedCertId) (preferredAlgs : List UInt16)
    (scope : Option ScopeAnswer) : Prop :=
  map.lookup certId preferredAlgs = none ∧ map.scopeForCertid certId = scope

/-- A second read finds a scope that one of the maps without an entry gives. -/
def Serving.Steady (serving : Serving) : Prop :=
  match serving.stage with
  | .missed certId preferredAlgs _ => ∃ map ∈ serving.active,
      map.Resolves certId preferredAlgs (serving.state.scopeMap.scopeForCertid certId)
  | _ => True

def Calm (clock : Nat → UInt64) (derBytes : Bytes) : Serving → List ServingEvent → Prop
  | _, [] => True
  | serving, event :: rest =>
      (event = .read → serving.Steady) ∧ Calm clock derBytes (serving.step clock derBytes event) rest

/-! ### Every answer is one of a single map -/

omit [Sha2] in
theorem answerUnknown_withMap (state : AppState) {left right : ScopeMap} (now : UInt64)
    (derBytes : Bytes) {certId : ParsedCertId} (nonce : Bytes)
    (same : left.scopeForCertid certId = right.scopeForCertid certId) :
    answerUnknown (state.withMap left) now derBytes certId nonce =
      answerUnknown (state.withMap right) now derBytes certId nonce := by
  unfold answerUnknown AppState.withMap
  dsimp only
  rw [same]
  rfl

def Stage.Explains (state : AppState) (clock : Nat → UInt64) (derBytes : Bytes)
    (active : List ScopeMap) : Stage → Prop
  | .received => True
  | .missed certId preferredAlgs nonce => ∀ map : ScopeMap,
      map.lookup certId preferredAlgs = none →
        processRequestInner (state.withMap map) clock derBytes =
          answerUnknown (state.withMap map) (clock 0) derBytes certId nonce
  | .answered answer => ∃ map ∈ active,
      processRequestInner (state.withMap map) clock derBytes = answer

/-- The first read leads to the handler's answer, or to a miss every map
without an entry would lead to. -/
theorem firstRead_explains (state : AppState) (clock : Nat → UInt64) (derBytes : Bytes)
    {active : List ScopeMap} {map : ScopeMap} (current : map ∈ active) :
    (firstRead (state.withMap map) clock derBytes).Explains state clock derBytes active := by
  -- A request that is refused or found is answered with the current map.
  have answered : ∀ answer, firstRead (state.withMap map) clock derBytes = .answered answer →
      processRequestInner (state.withMap map) clock derBytes = answer →
      (firstRead (state.withMap map) clock derBytes).Explains state clock derBytes active := by
    intro answer stage same
    rw [stage]
    exact ⟨map, current, same⟩
  cases parsed : parseOcspRequest derBytes with
  | error error =>
      exact answered .malformed (by rw [firstRead, parsed]) (by rw [processRequestInner, parsed])
  | ok request =>
      by_cases malformed : request.nonce.map validateNonce = some .malformedRequest
      · refine answered .malformed ?_ ?_
        · simp only [firstRead, parsed, if_pos malformed]
        · simp only [processRequestInner, parsed, if_pos malformed]
      · cases first : request.certIds.head? with
        | none =>
            refine answered .malformed ?_ ?_
            · simp only [firstRead, parsed, if_neg malformed, first]
            · simp only [processRequestInner, parsed, if_neg malformed, first]
        | some certId =>
            have whole : ∀ other : ScopeMap, other.lookup certId request.preferredSigAlgs = none →
                processRequestInner (state.withMap other) clock derBytes =
                  answerMiss (state.withMap other) clock derBytes certId request.nonce := by
              intro other missing
              simp only [processRequestInner, parsed, if_neg malformed, first, AppState.withMap,
                missing]
            cases found : map.lookup certId request.preferredSigAlgs with
            | some result =>
                refine answered (answerHit (state.withMap map) clock derBytes certId request.nonce
                  result) ?_ ?_
                · simp only [firstRead, parsed, if_neg malformed, first, AppState.withMap, found]
                · simp only [processRequestInner, parsed, if_neg malformed, first,
                    AppState.withMap, found]
            | none =>
                cases nonce : request.nonce with
                | none =>
                    rw [nonce] at malformed
                    refine answered .unauthorized ?_ ?_
                    · simp only [firstRead, parsed, nonce, if_neg malformed, first,
                        AppState.withMap, found]
                    · rw [whole map found, nonce]
                      rfl
                | some value =>
                    have stage : firstRead (state.withMap map) clock derBytes =
                        .missed certId request.preferredSigAlgs value := by
                      rw [nonce] at malformed
                      simp only [firstRead, parsed, nonce, if_neg malformed, first,
                        AppState.withMap, found]
                    rw [stage]
                    intro other missing
                    rw [whole other missing, nonce]
                    rfl

/-- The state is the one the request came in with, apart from the map. -/
structure Serving.Consistent (state : AppState) (clock : Nat → UInt64) (derBytes : Bytes)
    (serving : Serving) : Prop where
  same : serving.state = state.withMap serving.state.scopeMap
  current : (∃ answer, serving.stage = .answered answer) ∨
    serving.state.scopeMap ∈ serving.active
  explains : serving.stage.Explains state clock derBytes serving.active

theorem Serving.Consistent.reloaded {state : AppState} {clock : Nat → UInt64} {derBytes : Bytes}
    {serving : Serving} (consistent : serving.Consistent state clock derBytes) (map : ScopeMap) :
    (serving.step clock derBytes (.reloaded map)).Consistent state clock derBytes := by
  obtain ⟨now, active, stage⟩ := serving
  obtain ⟨same, _, explains⟩ := consistent
  have sameState : now.withMap map = state.withMap map := by
    rw [show now = _ from same]
    rfl
  have added : map ∈ active ++ [map] := List.mem_append_right _ (List.mem_singleton.mpr rfl)
  cases stage with
  | answered answer =>
      exact ⟨sameState, Or.inl ⟨answer, rfl⟩, explains⟩
  | received =>
      exact ⟨sameState, Or.inr added, trivial⟩
  | missed certId preferredAlgs nonce =>
      exact ⟨sameState, Or.inr added, explains⟩

theorem Serving.Consistent.read {state : AppState} {clock : Nat → UInt64} {derBytes : Bytes}
    {serving : Serving} (consistent : serving.Consistent state clock derBytes)
    (steady : serving.Steady) :
    (serving.step clock derBytes .read).Consistent state clock derBytes := by
  obtain ⟨now, active, stage⟩ := serving
  obtain ⟨same, current, explains⟩ := consistent
  cases stage with
  | answered answer =>
      exact ⟨same, current, explains⟩
  | received =>
      have member : now.scopeMap ∈ active := by
        rcases current with ⟨answer, impossible⟩ | member
        · cases impossible
        · exact member
      refine ⟨same, Or.inr member, ?_⟩
      change (firstRead now clock derBytes).Explains state clock derBytes active
      rw [show now = _ from same]
      exact firstRead_explains state clock derBytes member
  | missed certId preferredAlgs nonce =>
      obtain ⟨map, member, missing, scope⟩ := steady
      refine ⟨same, Or.inl ⟨_, rfl⟩, map, member, ?_⟩
      rw [explains map missing, show now = _ from same]
      exact answerUnknown_withMap state (clock 0) derBytes nonce scope

theorem Serving.Consistent.run {state : AppState} {clock : Nat → UInt64} {derBytes : Bytes}
    {serving : Serving} (consistent : serving.Consistent state clock derBytes)
    {events : List ServingEvent} (calm : Calm clock derBytes serving events) :
    (serving.run clock derBytes events).Consistent state clock derBytes := by
  induction events generalizing serving with
  | nil =>
      exact consistent
  | cons event rest ih =>
      obtain ⟨steady, calm⟩ := calm
      cases event with
      | reloaded map =>
          exact ih (consistent.reloaded map) calm
      | read =>
          exact ih (consistent.read (steady rfl)) calm

theorem calm_across_reload {state : AppState} {clock : Nat → UInt64} {derBytes : Bytes}
    {map : ScopeMap}
    (missing : ∀ certId preferredAlgs nonce,
      firstRead state clock derBytes = .missed certId preferredAlgs nonce →
        map.lookup certId preferredAlgs = none) :
    Calm clock derBytes (Serving.start state) [.read, .reloaded map, .read] := by
  refine ⟨fun _ => trivial, fun impossible => (by cases impossible), fun _ => ?_, trivial⟩
  let between : Serving :=
    { state := state
      active := [state.scopeMap]
      stage := firstRead state clock derBytes }
  change (between.step clock derBytes (.reloaded map)).Steady
  unfold Serving.step Serving.Steady between
  cases stage : firstRead state clock derBytes with
  | received =>
      trivial
  | answered answer =>
      trivial
  | missed certId preferredAlgs nonce =>
      exact ⟨map, List.mem_append_right _ (List.mem_singleton.mpr rfl),
        missing certId preferredAlgs nonce stage, rfl⟩

/-- In a run whose second read finds a scope that a map without an entry gives,
the answer is the one of a single map that was current during the request. -/
theorem answered_by_single_map (state : AppState) (clock : Nat → UInt64) (derBytes : Bytes)
    (events : List ServingEvent) (answer : Answer)
    (calm : Calm clock derBytes (Serving.start state) events)
    (done : ((Serving.start state).run clock derBytes events).stage = .answered answer) :
    ∃ map ∈ ((Serving.start state).run clock derBytes events).active,
      processRequestInner (state.withMap map) clock derBytes = answer := by
  have initial : (Serving.start state).Consistent state clock derBytes :=
    ⟨rfl, Or.inr (List.mem_singleton.mpr rfl), trivial⟩
  have explains := (initial.run calm).explains
  rw [done] at explains
  exact explains

end Requests

/-! ### A reload between the two reads -/

section Reloaded

local instance reloadedSha2 : Sha2 := Crates.sha2
local instance reloadedSha1 : Sha1 := Crates.sha1
local instance reloadedCiborium : Ciborium := Crates.ciborium
local instance reloadedPki : Pki := Crates.pki []
local instance reloadedUrl : Url := { scheme := fun _ => some "https" }

def reloadedMessages : Crates.Messages :=
  { requests := [demoRequest 1 (some [demoNonceExtension]),
      demoRequest 2 (some [demoNonceExtension])]
    certIds := [demoCertId 1, demoCertId 2]
    basics := [storedBasic, liveBasic,
      demoBasic 1800000100 1 .unknown 1800000100 1800003700 (some [demoNonceExtension]),
      demoBasic 1800000100 2 .unknown 1800000100 1800003700 (some [demoNonceExtension])] }

local instance reloadedX509Ocsp : X509Ocsp := Crates.x509Ocsp reloadedMessages

def foreignFile : Bytes :=
  Crates.plainFile (Crates.plainManifest "p" [Crates.plainScope 0xbb 5] none) []

def reloadedMaps : Except CoreError (ScopeMap × ScopeMap) :=
  let (first, store, world) := liveLoad foreignFile
  let replaced : World :=
    { world with
      disk := world.disk.replaceFiles ["w", "state"] fun place =>
        if place = ["w", "bundles", "a.ahu"] then some answeringFile
        else world.disk.files place }
  let (second, _) := (loadScopeMap (Os.faultless 1800000000) liveConfig).outcome (store, replaced)
  first.bind fun before => second.map fun after => (before, after)

def askedRequest (serial : UInt8) : Bytes :=
  Crates.requestDer (demoRequest serial (some [demoNonceExtension]))

def Stage.status : Stage → Option RequestStatus
  | .answered answer => some answer.status
  | _ => none

def askedAcross (maps : ScopeMap × ScopeMap) (serial : UInt8) : Serving :=
  (Serving.start (liveState maps.1)).run (fun _ => 1800000100) (askedRequest serial)
    [.read, .reloaded maps.2, .read]

def reloadedStatuses (maps : ScopeMap × ScopeMap) (serial : UInt8) :
    RequestStatus × RequestStatus × Option RequestStatus :=
  ((processRequestInner (liveState maps.1) (fun _ => 1800000100) (askedRequest serial)).status,
    (processRequestInner (liveState maps.2) (fun _ => 1800000100) (askedRequest serial)).status,
    (askedAcross maps serial).stage.status)

def missedTwice (maps : ScopeMap × ScopeMap) (serial : UInt8) : Bool :=
  match firstRead (liveState maps.1) (fun _ => 1800000100) (askedRequest serial) with
  | .missed certId preferredAlgs _ => (maps.2.lookup certId preferredAlgs).isNone
  | _ => false

theorem reloadedMaps_statuses :
    (reloadedMaps.map fun maps => (reloadedStatuses maps 1, reloadedStatuses maps 2,
      missedTwice maps 2)) =
      .ok ((.unauthorized, .live, some .unknown), (.unauthorized, .unknown, some .unknown),
        true) := by
  decide +kernel

theorem exists_answer_of_status {stage : Stage} {status : RequestStatus}
    (counted : stage.status = some status) :
    ∃ answer, stage = .answered answer ∧ answer.status = status := by
  cases stage with
  | received =>
      cases counted
  | missed certId preferredAlgs nonce =>
      cases counted
  | answered answer =>
      exact ⟨answer, rfl, Option.some.inj counted⟩

/-- The reload brings the scope but no entry, and the signed "unknown" is the
answer of the new map alone. -/
theorem missed_across_reload : ∃ maps answer, reloadedMaps = .ok maps ∧
    (askedAcross maps 2).stage = .answered answer ∧ answer.status = .unknown ∧
      (processRequestInner (liveState maps.1) (fun _ => 1800000100) (askedRequest 2)).status =
        .unauthorized ∧
      ∃ map ∈ (askedAcross maps 2).active,
        processRequestInner ((liveState maps.1).withMap map) (fun _ => 1800000100)
          (askedRequest 2) = answer := by
  obtain ⟨maps, loaded, facts⟩ := Except.map_eq_ok.mp reloadedMaps_statuses
  obtain ⟨_, statuses, missed⟩ : _ ∧ reloadedStatuses maps 2 = _ ∧ missedTwice maps 2 = true := by
    simpa using facts
  obtain ⟨before, others⟩ := Prod.mk.inj statuses
  obtain ⟨answer, stage, unknown⟩ := exists_answer_of_status (Prod.mk.inj others).2
  have missing : ∀ certId preferredAlgs nonce,
      firstRead (liveState maps.1) (fun _ => 1800000100) (askedRequest 2) =
        .missed certId preferredAlgs nonce → maps.2.lookup certId preferredAlgs = none := by
    intro certId preferredAlgs nonce first
    unfold missedTwice at missed
    rw [first] at missed
    exact Option.isNone_iff_eq_none.mp missed
  exact ⟨maps, answer, loaded, stage, unknown, before,
    answered_by_single_map _ _ _ _ answer (calm_across_reload missing) stage⟩

theorem active_across_reload {state : AppState} {clock : Nat → UInt64} {derBytes : Bytes}
    {map other : ScopeMap}
    (member : other ∈ ((Serving.start state).run clock derBytes
      [.read, .reloaded map, .read]).active) :
    other = state.scopeMap ∨ other = map := by
  unfold Serving.run at member
  simp only [List.foldl_cons, List.foldl_nil, Serving.step] at member
  split at member
  · exact Or.inl (List.mem_singleton.mp member)
  · exact List.mem_pair.mp member

/-- The request is unauthorized before the reload and answered from the entry
after it.  With the reload in between, the server signs that it does not know
the certificate. -/
theorem unknown_across_reload : ∃ maps answer, reloadedMaps = .ok maps ∧
    (askedAcross maps 1).stage = .answered answer ∧ answer.status = .unknown ∧
      ∀ map ∈ (askedAcross maps 1).active,
        processRequestInner ((liveState maps.1).withMap map) (fun _ => 1800000100)
          (askedRequest 1) ≠ answer := by
  obtain ⟨maps, loaded, facts⟩ := Except.map_eq_ok.mp reloadedMaps_statuses
  obtain ⟨before, others⟩ := Prod.mk.inj (Prod.mk.inj facts).1
  obtain ⟨after, between⟩ := Prod.mk.inj others
  obtain ⟨answer, stage, unknown⟩ := exists_answer_of_status between
  refine ⟨maps, answer, loaded, stage, unknown, ?_⟩
  intro map member same
  have status := congrArg Answer.status same
  rw [unknown] at status
  rcases active_across_reload member with rfl | rfl
  · cases before.symm.trans status
  · cases after.symm.trans status

end Reloaded

end Hoike
