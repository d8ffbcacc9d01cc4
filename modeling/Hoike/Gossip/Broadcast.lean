/-
Receiving gossip broadcasts (`broadcast.rs`).

A frame is authenticated before it is decoded.  What passes is put on a channel
of bounded capacity; at most 4096 scopes are admitted within an hour.
-/

import Hoike.Library.Sha256
import Hoike.Gossip.Authentication

namespace Hoike
namespace Gossip

structure BroadcastKey where
  producerId : String
  issuerKeyHash : Bytes
  epoch : UInt64
deriving DecidableEq

def GossipMessage.broadcastKey (message : GossipMessage) : BroadcastKey :=
  { producerId := message.scopeKey.1
    issuerKeyHash := message.scopeKey.2
    epoch := message.epoch }

/-- The sending half of a `tokio` channel. -/
structure Sender where
  capacity : Nat
  queue : List GossipMessage
  closed : Bool

def Sender.HasRoom (tx : Sender) : Prop :=
  tx.closed = false ∧ tx.queue.length < tx.capacity

instance (tx : Sender) : Decidable tx.HasRoom :=
  inferInstanceAs (Decidable (_ ∧ _))

/-- `try_send`: a message that does not fit is lost. -/
def Sender.trySend (tx : Sender) (message : GossipMessage) : Sender :=
  if tx.HasRoom then { tx with queue := tx.queue ++ [message] } else tx

abbrev Admitted := HashMap (String × Bytes) Nat

def Admitted.retain (admitted : Admitted) (now : Nat) : Admitted :=
  ⟨admitted.entries.filter fun entry => now - entry.2 < 3600000000000,
    admitted.nodupKeys.sublist List.filter_sublist⟩

def maxScopes : Nat := 4096

def Admitted.HasRoom (admitted : Admitted) (scope : String × Bytes) : Prop :=
  scope ∈ admitted ∨ admitted.entries.length < maxScopes

instance (admitted : Admitted) (scope : String × Bytes) : Decidable (admitted.HasRoom scope) :=
  inferInstanceAs (Decidable (_ ∨ _))

section Broadcast

variable [Ed25519] [SerdeJson]

structure BroadcastHandler where
  tx : Sender
  verifier : GossipVerifier
  admitted : Admitted

def maxFrame : Nat := 2048

def BroadcastHandler.admitScope (handler : BroadcastHandler) (now : Nat)
    (message : GossipMessage) : Option BroadcastKey × BroadcastHandler :=
  if message.validBounds then
    let admitted := handler.admitted.retain now
    if admitted.HasRoom message.scopeKey then
      (some message.broadcastKey,
        { handler with
          tx := handler.tx.trySend message
          admitted := admitted.insert message.scopeKey now })
    else (none, { handler with admitted := admitted })
  else (none, handler)

def BroadcastHandler.receiveItem (handler : BroadcastHandler) (now : Nat) (data : Bytes) :
    Except String (Option BroadcastKey) × BroadcastHandler :=
  if maxFrame < data.length then (.ok none, handler)
  else
    match handler.verifier.check data with
    | .reject _ => (.ok none, handler)
    | .accept payload =>
        match SerdeJson.fromSlice payload with
        | .error error => (.error s!"decode: {error}", handler)
        | .ok message =>
            let (key, after) := handler.admitScope now message
            (.ok key, after)

def Delivers (handler : BroadcastHandler) (now : Nat) (data : Bytes) (message : GossipMessage) :
    Prop :=
  (handler.receiveItem now data).2.tx.queue = handler.tx.queue ++ [message]

/-! ### What a frame that passes has been signed with -/

/-- A name and a key the configuration binds: a named peer, or the node itself. -/
def Configured (config : GossipConfig) (files : KeyFiles) (name : String)
    (key : Ed25519.VerifyingKey) : Prop :=
  (∃ path, (name, path) ∈ config.peerIdentities.toList ∧ loadVerifyingKey files path = .ok key) ∨
    name = config.nodeName ∧ ∃ path own, config.identityKey = some path ∧
      loadSigningKey files path = .ok own ∧ key = Ed25519.verifyingKey own

def SignedFrame (data : Bytes) (signature : Octets 64) (payload : Bytes) : Prop :=
  data = signedTag :: (signature.val ++ payload)

omit [SerdeJson] in
theorem signedFrame_frame (signer : GossipSigner) (payload : Bytes) :
    SignedFrame (signer.frame payload) (Ed25519.sign signer.key payload) payload :=
  rfl

theorem check_signed (verifier : GossipVerifier) {data payload : Bytes} {signature : Octets 64}
    (signed : SignedFrame data signature payload) :
    verifier.check data = verifier.checkSigned payload signature := by
  obtain ⟨bytes, exact⟩ := signature
  subst signed
  have long : 1 + sigLen ≤ (signedTag :: (bytes ++ payload)).length := by
    rw [List.length_cons, List.length_append, exact]
    unfold sigLen
    omega
  have front : (bytes ++ payload).take sigLen = bytes := List.take_left' exact
  have back : (signedTag :: (bytes ++ payload)).drop (1 + sigLen) = payload := by
    rw [Nat.add_comm, List.drop_succ_cons]
    exact List.drop_left' exact
  have tagged : (signedTag :: (bytes ++ payload)).head? = some signedTag := rfl
  unfold GossipVerifier.check
  rw [if_pos tagged, dif_pos long]
  congr 1
  exact Subtype.ext front

theorem check_unsigned {verifier : GossipVerifier} {data payload : Bytes}
    (unsigned : data.head? ≠ some signedTag) (accepted : verifier.check data = .accept payload) :
    verifier.mode = .permissive := by
  unfold GossipVerifier.check at accepted
  rw [if_neg unsigned] at accepted
  cases mode : verifier.mode with
  | permissive =>
      rfl
  | required =>
      rw [mode] at accepted
      cases accepted

theorem exists_signedFrame {verifier : GossipVerifier} {data payload : Bytes}
    (tagged : data.head? = some signedTag) (accepted : verifier.check data = .accept payload) :
    ∃ signature rest, SignedFrame data signature rest := by
  unfold GossipVerifier.check at accepted
  rw [if_pos tagged] at accepted
  split at accepted
  case isFalse =>
    cases accepted
  case isTrue long =>
    cases data with
    | nil =>
        cases tagged
    | cons first rest =>
        cases Option.some.inj tagged
        have enough : sigLen ≤ rest.length := by
          rw [List.length_cons] at long
          omega
        refine ⟨⟨rest.take sigLen, List.length_take_of_le enough⟩, rest.drop sigLen, ?_⟩
        unfold SignedFrame
        rw [List.take_append_drop]

/-- With keys bound to names, a signature counts only under the origin's. -/
theorem checkSigned_eq_accept {identities : List (String × Ed25519.VerifyingKey)} {mode : AuthMode}
    {payload result : Bytes} {signature : Octets 64}
    (accepted : (GossipVerifier.forIdentities identities mode).checkSigned payload signature =
      .accept result) :
    result = payload ∧ ∃ message, SerdeJson.fromSlice payload = .ok message ∧
      ∃ identity ∈ identities, identity.1 = message.originNode ∧
        Ed25519.verifyStrict identity.2 payload signature = true := by
  unfold GossipVerifier.checkSigned at accepted
  split_ifs at accepted with trusted named
  · split at accepted
    · cases accepted
    · rename_i message decoded
      split_ifs at accepted with authorized
      cases accepted
      obtain ⟨identity, member, both⟩ := List.any_eq_true.mp authorized
      obtain ⟨name, strict⟩ := Bool.and_eq_true_iff.mp both
      exact ⟨rfl, message, decoded, identity, member, of_decide_eq_true name, strict⟩
  · -- Without identities there is no trusted key either.
    have none : identities = [] := not_not.mp named
    subst none
    cases trusted

theorem receiveItem_cases (handler : BroadcastHandler) (now : Nat) (data : Bytes) :
    (handler.receiveItem now data).2.tx = handler.tx ∨
      ∃ payload message, handler.verifier.check data = .accept payload ∧
        SerdeJson.fromSlice payload = .ok message ∧
          (handler.receiveItem now data).2.tx = handler.tx.trySend message := by
  unfold BroadcastHandler.receiveItem
  split_ifs
  · exact Or.inl rfl
  · cases checked : handler.verifier.check data with
    | reject reason =>
        exact Or.inl rfl
    | accept payload =>
        dsimp only
        cases decoded : SerdeJson.fromSlice payload with
        | error error =>
            exact Or.inl rfl
        | ok message =>
            dsimp only [BroadcastHandler.admitScope]
            split_ifs
            · exact Or.inr ⟨payload, message, rfl, decoded, rfl⟩
            · exact Or.inl rfl
            · exact Or.inl rfl

theorem receiveItem_accepted {handler : BroadcastHandler} {now : Nat} {data payload : Bytes}
    {message : GossipMessage} (short : data.length ≤ maxFrame)
    (accepted : handler.verifier.check data = .accept payload)
    (decoded : SerdeJson.fromSlice payload = .ok message) (bounds : message.validBounds = true)
    (scopes : (handler.admitted.retain now).HasRoom message.scopeKey) :
    handler.receiveItem now data =
      (.ok (some message.broadcastKey),
        { handler with
          tx := handler.tx.trySend message
          admitted := (handler.admitted.retain now).insert message.scopeKey now }) := by
  unfold BroadcastHandler.receiveItem
  rw [if_neg (Nat.not_lt.mpr short), accepted]
  dsimp only
  rw [decoded]
  dsimp only [BroadcastHandler.admitScope]
  rw [if_pos bounds, if_pos scopes]

omit [Ed25519] [SerdeJson] in
theorem trySend_eq_append {tx : Sender} {sent message : GossipMessage}
    (grown : (tx.trySend sent).queue = tx.queue ++ [message]) : sent = message := by
  unfold Sender.trySend at grown
  split_ifs at grown
  · exact List.cons.inj (List.append_cancel_left grown) |>.1
  · exact absurd (List.self_eq_append_right.mp grown) (List.cons_ne_nil _ _)

theorem accepted_of_delivers {handler : BroadcastHandler} {now : Nat} {data : Bytes}
    {message : GossipMessage} (delivers : Delivers handler now data message) :
    ∃ payload, handler.verifier.check data = .accept payload ∧
      SerdeJson.fromSlice payload = .ok message := by
  unfold Delivers at delivers
  rcases receiveItem_cases handler now data with same | ⟨payload, sent, checked, decoded, same⟩
  · rw [same] at delivers
    exact absurd (List.self_eq_append_right.mp delivers) (List.cons_ne_nil _ _)
  · rw [same] at delivers
    cases trySend_eq_append delivers
    exact ⟨payload, checked, decoded⟩

/-! ### The loaded policy -/

/-- The parts of a policy that loads. -/
structure Loaded (config : GossipConfig) (files : KeyFiles) (signer : Option GossipSigner)
    (identities : List (String × Ed25519.VerifyingKey)) : Prop where
  configured : ∀ identity ∈ identities, Configured config files identity.1 identity.2
  own : ∀ signs, signer = some signs → (config.nodeName, signs.verifyingKey) ∈ identities

omit [SerdeJson] in
theorem configured_of_loadIdentity {config : GossipConfig} {files : KeyFiles}
    {signer : Option GossipSigner} {entry : String × PathBuf}
    {identity : String × Ed25519.VerifyingKey} (listed : entry ∈ config.peerIdentities.toList)
    (loaded : loadIdentity config files signer entry = .ok identity) :
    Configured config files identity.1 identity.2 := by
  obtain ⟨_, _, loaded⟩ := Except.bind_eq_ok.mp loaded
  obtain ⟨key, read, loaded⟩ := Except.bind_eq_ok.mp loaded
  obtain ⟨_, _, loaded⟩ := Except.bind_eq_ok.mp loaded
  cases loaded
  exact Or.inl ⟨entry.2, listed, Except.mapError_eq_ok.mp read⟩

omit [SerdeJson] in
theorem configured_of_loadSigner {config : GossipConfig} {files : KeyFiles} {own : GossipSigner}
    (loaded : loadSigner config files = .ok (some own)) :
    Configured config files config.nodeName own.verifyingKey := by
  unfold loadSigner at loaded
  cases identity : config.identityKey with
  | none =>
      rw [identity] at loaded
      cases loaded
  | some path =>
      rw [identity] at loaded
      obtain ⟨key, read, loaded⟩ := Except.bind_eq_ok.mp loaded
      cases loaded
      exact Or.inr ⟨rfl, path, key, identity, Except.mapError_eq_ok.mp read, rfl⟩

omit [SerdeJson] in
theorem mem_foldSigner {config : GossipConfig} {own : GossipSigner}
    {peers : List (String × Ed25519.VerifyingKey)} {identity : String × Ed25519.VerifyingKey}
    (member : identity ∈ foldSigner config (some own) peers) :
    identity ∈ peers ∨ identity = (config.nodeName, own.verifyingKey) := by
  unfold foldSigner at member
  dsimp only at member
  split_ifs at member
  · exact Or.inl member
  · exact (List.mem_append.mp member).imp_right List.mem_singleton.mp

omit [SerdeJson] in
theorem loaded_of_loadAuthentication {config : GossipConfig} {files : KeyFiles}
    {signer : Option GossipSigner} {verifier : GossipVerifier}
    (loaded : loadAuthentication config files = .ok (signer, verifier)) :
    ∃ identities, verifier = .forIdentities identities config.authMode ∧
      Loaded config files signer identities := by
  obtain ⟨_, _, loaded⟩ := Except.bind_eq_ok.mp loaded
  obtain ⟨own, signs, loaded⟩ := Except.bind_eq_ok.mp loaded
  obtain ⟨_, _, loaded⟩ := Except.bind_eq_ok.mp loaded
  obtain ⟨peers, traversed, loaded⟩ := Except.bind_eq_ok.mp loaded
  cases loaded
  have named : ∀ identity ∈ peers, Configured config files identity.1 identity.2 := by
    intro identity member
    obtain ⟨entry, listed, read⟩ := Except.exists_of_mem_mapM traversed member
    exact configured_of_loadIdentity listed read
  refine ⟨_, rfl, ?_, ?_⟩
  · intro identity member
    cases signer with
    | none =>
        exact named identity member
    | some own =>
        rcases mem_foldSigner member with peer | rfl
        · exact named identity peer
        · exact configured_of_loadSigner signs
  · rintro signs rfl
    unfold foldSigner
    dsimp only
    split_ifs with already
    · exact already
    · exact List.mem_append_right _ (List.mem_singleton.mpr rfl)

/-! ### Origins -/

/-- What a delivered signed frame proves: a configured key bound to the origin
of the message has signed the payload. -/
structure Attributed (config : GossipConfig) (files : KeyFiles) (data : Bytes)
    (message : GossipMessage) (signature : Octets 64) (payload : Bytes)
    (key : Ed25519.VerifyingKey) : Prop where
  frame : SignedFrame data signature payload
  decodes : SerdeJson.fromSlice payload = .ok message
  configured : Configured config files message.originNode key
  signed : Ed25519.verifyStrict key payload signature = true

theorem configured_of_accepted {config : GossipConfig} {files : KeyFiles}
    {signer : Option GossipSigner} {verifier : GossipVerifier}
    (loaded : loadAuthentication config files = .ok (signer, verifier)) {data payload result : Bytes}
    {signature : Octets 64} (frame : SignedFrame data signature payload)
    (accepted : verifier.check data = .accept result) :
    result = payload ∧ ∃ message, SerdeJson.fromSlice payload = .ok message ∧
      ∃ key, Configured config files message.originNode key ∧
        Ed25519.verifyStrict key payload signature = true := by
  obtain ⟨identities, rfl, parts⟩ := loaded_of_loadAuthentication loaded
  rw [check_signed _ frame] at accepted
  obtain ⟨same, message, decoded, identity, member, name, strict⟩ :=
    checkSigned_eq_accept accepted
  refine ⟨same, message, decoded, identity.2, ?_, strict⟩
  rw [← name]
  exact parts.configured identity member

theorem check_own_frame {config : GossipConfig} {files : KeyFiles} {own : GossipSigner}
    {verifier : GossipVerifier}
    (loaded : loadAuthentication config files = .ok (some own, verifier))
    (honest : HonestSignatures) {message : GossipMessage}
    (readsBack : SerdeJson.fromSlice (SerdeJson.toVec message) = .ok message)
    (origin : message.originNode = config.nodeName) :
    verifier.check (own.frame (SerdeJson.toVec message)) = .accept (SerdeJson.toVec message) := by
  obtain ⟨identities, rfl, parts⟩ := loaded_of_loadAuthentication loaded
  have member := parts.own own rfl
  obtain ⟨verified, strict⟩ := honest own.key (SerdeJson.toVec message)
  rw [check_signed _ (signedFrame_frame own _)]
  unfold GossipVerifier.checkSigned
  have trusted : ((GossipVerifier.forIdentities identities config.authMode).trusted.any fun key =>
      Ed25519.verify key (SerdeJson.toVec message)
        (Ed25519.sign own.key (SerdeJson.toVec message))) = true :=
    List.any_eq_true.mpr ⟨own.verifyingKey, List.mem_map_of_mem member, verified⟩
  have named : (GossipVerifier.forIdentities identities config.authMode).identities ≠ [] :=
    List.ne_nil_of_mem member
  have authorized : (GossipVerifier.forIdentities identities config.authMode).authorizes
      message.originNode (SerdeJson.toVec message)
        (Ed25519.sign own.key (SerdeJson.toVec message)) = true := by
    refine List.any_eq_true.mpr ⟨_, member, ?_⟩
    rw [origin, Bool.and_eq_true_iff]
    exact ⟨decide_eq_true rfl, strict⟩
  rw [if_pos trusted, if_pos named, readsBack]
  exact if_pos authorized

theorem attributed_of_delivers {config : GossipConfig} {files : KeyFiles}
    {signer : Option GossipSigner} {handler : BroadcastHandler}
    (loaded : loadAuthentication config files = .ok (signer, handler.verifier)) {now : Nat}
    {data : Bytes} {message : GossipMessage} (tagged : data.head? = some signedTag)
    (delivers : Delivers handler now data message) :
    ∃ signature payload key, Attributed config files data message signature payload key := by
  obtain ⟨result, accepted, decoded⟩ := accepted_of_delivers delivers
  obtain ⟨signature, payload, frame⟩ := exists_signedFrame tagged accepted
  obtain ⟨rfl, other, otherDecoded, key, configured, strict⟩ :=
    configured_of_accepted loaded frame accepted
  cases Except.ok.inj (otherDecoded.symm.trans decoded)
  exact ⟨signature, result, key, frame, decoded, configured, strict⟩

theorem tagged_of_required {config : GossipConfig} {files : KeyFiles}
    {signer : Option GossipSigner} {handler : BroadcastHandler}
    (loaded : loadAuthentication config files = .ok (signer, handler.verifier))
    (required : config.authMode = .required) {now : Nat} {data : Bytes} {message : GossipMessage}
    (delivers : Delivers handler now data message) : data.head? = some signedTag := by
  obtain ⟨result, accepted, _⟩ := accepted_of_delivers delivers
  by_contra untagged
  have permissive := check_unsigned untagged accepted
  obtain ⟨identities, same, _⟩ := loaded_of_loadAuthentication loaded
  rw [same] at permissive
  rw [show config.authMode = _ from permissive] at required
  cases required

theorem receiveItem_unprovisioned {config : GossipConfig} {files : KeyFiles}
    {signer : Option GossipSigner} {handler : BroadcastHandler}
    (loaded : loadAuthentication config files = .ok (signer, handler.verifier)) (now : Nat)
    {data payload : Bytes} {signature : Octets 64} (frame : SignedFrame data signature payload)
    (unprovisioned : ∀ name key, Configured config files name key →
      Ed25519.verifyStrict key payload signature = false) :
    handler.receiveItem now data = (.ok none, handler) := by
  unfold BroadcastHandler.receiveItem
  split_ifs
  · rfl
  · cases checked : handler.verifier.check data with
    | reject reason =>
        rfl
    | accept result =>
        obtain ⟨_, message, _, key, configured, strict⟩ :=
          configured_of_accepted loaded frame checked
        rw [unprovisioned _ key configured] at strict
        cases strict

theorem delivers_of_accepted {handler : BroadcastHandler} {now : Nat} {data payload : Bytes}
    {message : GossipMessage} (short : data.length ≤ maxFrame)
    (accepted : handler.verifier.check data = .accept payload)
    (decoded : SerdeJson.fromSlice payload = .ok message) (bounds : message.validBounds = true)
    (scopes : (handler.admitted.retain now).HasRoom message.scopeKey) (room : handler.tx.HasRoom) :
    Delivers handler now data message := by
  unfold Delivers
  rw [receiveItem_accepted short accepted decoded bounds scopes]
  dsimp only
  unfold Sender.trySend
  rw [if_pos room]

/-- Every message delivered from a signed frame was signed with a key that is
configured for its origin; in required mode no other message is delivered;
frames that no configured key has signed change nothing; and a node's own
messages pass, are accepted while there is room for their scope, and are then
delivered while the channel has room. -/
theorem gossip_origins_authentic {config : GossipConfig} {files : KeyFiles}
    {signer : Option GossipSigner} {handler : BroadcastHandler}
    (loaded : loadAuthentication config files = .ok (signer, handler.verifier))
    (honest : HonestSignatures) (now : Nat) :
    (∀ data message, data.head? = some signedTag → Delivers handler now data message →
        ∃ signature payload key,
          Attributed config files data message signature payload key) ∧
      (config.authMode = .required → ∀ data message, Delivers handler now data message →
        data.head? = some signedTag) ∧
      (∀ data signature payload, SignedFrame data signature payload →
        (∀ name key, Configured config files name key →
          Ed25519.verifyStrict key payload signature = false) →
        handler.receiveItem now data = (.ok none, handler)) ∧
      ∀ own message, signer = some own → message.originNode = config.nodeName →
        SerdeJson.fromSlice (SerdeJson.toVec message) = .ok message →
        handler.verifier.check (own.frame (SerdeJson.toVec message)) =
            .accept (SerdeJson.toVec message) ∧
          ((own.frame (SerdeJson.toVec message)).length ≤ maxFrame → message.validBounds = true →
            (handler.admitted.retain now).HasRoom message.scopeKey →
            (handler.receiveItem now (own.frame (SerdeJson.toVec message))).1 =
                .ok (some message.broadcastKey) ∧
              (handler.tx.HasRoom →
                Delivers handler now (own.frame (SerdeJson.toVec message)) message)) := by
  refine ⟨?_, ?_, ?_, ?_⟩
  · intro data message tagged delivers
    exact attributed_of_delivers loaded tagged delivers
  · intro required data message delivers
    exact tagged_of_required loaded required delivers
  · intro data signature payload frame unprovisioned
    exact receiveItem_unprovisioned loaded now frame unprovisioned
  · rintro own message rfl origin readsBack
    have accepted := check_own_frame loaded honest readsBack origin
    refine ⟨accepted, ?_⟩
    intro short bounds scopes
    refine ⟨?_, delivers_of_accepted short accepted readsBack bounds scopes⟩
    rw [receiveItem_accepted short accepted readsBack bounds scopes]

end Broadcast

/-! ### One node -/

section Sample

def plainSign (key : UInt8) (payload : Bytes) : Octets 64 :=
  ⟨List.replicate 32 key ++ (Sha256.digest payload).val, by
    rw [List.length_append, List.length_replicate, (Sha256.digest payload).property]⟩

@[reducible] def plainEd25519 : Ed25519 :=
  { SigningKey := UInt8
    VerifyingKey := UInt8
    decideKey := inferInstance
    verifyingKey := id
    sign := plainSign
    verify := fun key payload signature => signature = plainSign key payload
    verifyStrict := fun key payload signature => signature = plainSign key payload
    signingKeyFromPem := fun _ => .error "PEM"
    signingKeyFromDer := fun bytes =>
      match bytes with
      | [key] => .ok key
      | _ => .error "DER"
    verifyingKeyFromPem := fun _ => .error "PEM"
    verifyingKeyFromDer := fun bytes =>
      match bytes with
      | [key] => .ok key
      | _ => .error "DER" }

def urgentMessage : GossipMessage :=
  .urgentRevocation "signer-a" (List.replicate 20 0xaa) 7 "node-a"

def urgentJson : Bytes :=
  Cbor.utf8 ("\x7b\"UrgentRevocation\":\x7b\"producer_id\":\"signer-a\",\"issuer_key_hash\":" ++
    "[170,170,170,170,170,170,170,170,170,170,170,170,170,170,170,170,170,170,170,170]," ++
    "\"epoch\":7,\"origin_node\":\"node-a\"\x7d\x7d")

@[reducible] def urgentSerdeJson : SerdeJson :=
  { toVec := fun message => if message = urgentMessage then urgentJson else []
    fromSlice := fun bytes =>
      if bytes = urgentJson then .ok urgentMessage else .error "expected value" }

local instance sampleEd25519 : Ed25519 := plainEd25519
local instance sampleSerdeJson : SerdeJson := urgentSerdeJson

theorem plainEd25519_honest : HonestSignatures :=
  fun _ _ => ⟨decide_eq_true rfl, decide_eq_true rfl⟩

def nodeConfig : GossipConfig :=
  { nodeName := "node-a"
    authMode := .required
    identityKey := some { root := true, parts := ["w", "node.p8"] }
    peerKeys := []
    peerIdentities := ∅ }

def nodeFiles : KeyFiles := fun _ => .ok [7]

def nodeSigner : GossipSigner := { key := (7 : UInt8) }

def nodeHandler (capacity : Nat) (queue : List GossipMessage) : BroadcastHandler :=
  { tx :=
      { capacity := capacity
        queue := queue
        closed := false }
    verifier := .forIdentities [("node-a", (7 : UInt8))] .required
    admitted := ∅ }

theorem nodeConfig_loaded (capacity : Nat) (queue : List GossipMessage) :
    loadAuthentication nodeConfig nodeFiles =
      .ok (some nodeSigner, (nodeHandler capacity queue).verifier) :=
  rfl

theorem own_revocation_delivered :
    ((nodeHandler 256 []).receiveItem 0 (nodeSigner.frame (SerdeJson.toVec urgentMessage))).1 =
        .ok (some urgentMessage.broadcastKey) ∧
      Delivers (nodeHandler 256 []) 0 (nodeSigner.frame (SerdeJson.toVec urgentMessage))
        urgentMessage := by
  obtain ⟨_, received⟩ := (gossip_origins_authentic (nodeConfig_loaded 256 []) plainEd25519_honest
    0).2.2.2 nodeSigner urgentMessage rfl (by decide +kernel) (by decide +kernel)
  obtain ⟨key, delivered⟩ := received (by decide +kernel) (by decide +kernel) (by decide +kernel)
  exact ⟨key, delivered (by decide +kernel)⟩

/-- When the channel is full, the message is accepted and lost. -/
theorem own_revocation_lost :
    (nodeSigner.frame (SerdeJson.toVec urgentMessage)).length ≤ maxFrame ∧
      urgentMessage.validBounds = true ∧ urgentMessage.originNode = nodeConfig.nodeName ∧
      loadAuthentication nodeConfig nodeFiles =
        .ok (some nodeSigner, (nodeHandler 1 [urgentMessage]).verifier) ∧
      ((nodeHandler 1 [urgentMessage]).receiveItem 0
        (nodeSigner.frame (SerdeJson.toVec urgentMessage))).1 =
          .ok (some urgentMessage.broadcastKey) ∧
      ¬Delivers (nodeHandler 1 [urgentMessage]) 0
        (nodeSigner.frame (SerdeJson.toVec urgentMessage)) urgentMessage := by
  refine ⟨by decide +kernel, by decide +kernel, rfl, nodeConfig_loaded 1 [urgentMessage],
    by decide +kernel, ?_⟩
  unfold Delivers
  decide +kernel

end Sample

end Gossip
end Hoike
