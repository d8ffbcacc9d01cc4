/-
Seal authorizations confine signers.

Requests for an issuer are answered from the bundles that name it, and each of
these was authenticated with an authorization for its producer, that issuer and
the signer of its seal.  Other bundles have no influence on the answers.
-/

import Hoike.Core.Routing
import Hoike.Core.Isolation

namespace Hoike

open Ahu
open Fallible

def Ahu.Bundle.NamesIssuer (bundle : Bundle) (issuerKeyHash : Bytes) : Prop :=
  ∃ scope ∈ bundle.manifest.caScopes, scope.issuerKeyHash = issuerKeyHash

/-- The two maps have the same bundles that name the issuer, under the same
labels. -/
def SameFor (issuerKeyHash : Bytes) (map map' : ScopeMap) : Prop :=
  ∀ label bundle, bundle.NamesIssuer issuerKeyHash →
    (map.Registers label bundle ↔ map'.Registers label bundle)

theorem registrations_eq_nil {route : Route} {key : ScopeKey}
    (silent : ¬ route.bundle.NamesIssuer key.2) : route.registrations key = [] := by
  apply List.eq_nil_iff_forall_not_mem.mpr
  intro other member
  obtain ⟨_, scope, named, same⟩ := Route.mem_registrations.mp member
  exact silent ⟨scope, named, congrArg Prod.snd same⟩

theorem Ahu.Bundle.NamesIssuer.scopes_ne_nil {bundle : Bundle} {issuerKeyHash : Bytes}
    (named : bundle.NamesIssuer issuerKeyHash) : bundle.manifest.caScopes ≠ [] := by
  obtain ⟨scope, member, _⟩ := named
  exact List.ne_nil_of_mem member

theorem route_eq_of_label {routes : List Route}
    (distinct : (routes.map fun route => route.policy.caLabel).Nodup) {left right : Route}
    (leftMember : left ∈ routes) (rightMember : right ∈ routes)
    (same : left.policy.caLabel = right.policy.caLabel) : left = right :=
  List.inj_on_of_nodup_map distinct leftMember rightMember same

theorem bundle_eq_of_named {map map' : ScopeMap} {routes routes' : List Route}
    {issuerKeyHash : Bytes} (routed : RoutedBy map.entries map.bundles routes)
    (routed' : RoutedBy map'.entries map'.bundles routes')
    (distinct : (routes'.map fun route => route.policy.caLabel).Nodup)
    (alike : ∀ label bundle, bundle.NamesIssuer issuerKeyHash →
      map.Registers label bundle → map'.Registers label bundle)
    {route route' : Route} (member : route ∈ routes) (member' : route' ∈ routes')
    (policy : route.policy = route'.policy) (named : route.bundle.NamesIssuer issuerKeyHash) :
    route = route' := by
  have registers : map.Registers route.policy.caLabel route.bundle :=
    routed.registers_iff.mpr ⟨route, member, rfl, rfl, named.scopes_ne_nil⟩
  obtain ⟨other, otherMember, label, same, _⟩ :=
    routed'.registers_iff.mp (alike _ _ named registers)
  have found : other = route' :=
    route_eq_of_label distinct otherMember member' (label.trans (by rw [policy]))
  subst found
  cases route
  cases other
  cases same
  cases policy
  rfl

theorem flatMap_eq_of_forall₂ {α β γ : Type} {rel : α → β → Prop} {left : List α}
    {right : List β} {f : α → List γ} {g : β → List γ} (related : List.Forall₂ rel left right)
    (same : ∀ a ∈ left, ∀ b ∈ right, rel a b → f a = g b) : left.flatMap f = right.flatMap g := by
  induction related with
  | nil =>
      rfl
  | cons head _ ih =>
      rw [List.flatMap_cons, List.flatMap_cons]
      rw [same _ List.mem_cons_self _ List.mem_cons_self head]
      rw [ih fun a member b member' => same a (List.mem_cons_of_mem _ member) b
        (List.mem_cons_of_mem _ member')]

theorem registrations_alike {map map' : ScopeMap} {routes routes' : List Route}
    (key : ScopeKey) (routed : RoutedBy map.entries map.bundles routes)
    (routed' : RoutedBy map'.entries map'.bundles routes')
    (policies : routes.map Route.policy = routes'.map Route.policy)
    (distinct : ((routes.map Route.policy).map ScopePolicy.caLabel).Nodup)
    (alike : SameFor key.2 map map') :
    (routes.flatMap fun route => route.registrations key) =
      routes'.flatMap fun route => route.registrations key := by
  have labels : (routes.map fun route => route.policy.caLabel).Nodup := by
    rw [List.map_map] at distinct
    exact distinct
  have labels' : (routes'.map fun route => route.policy.caLabel).Nodup := by
    rw [policies, List.map_map] at distinct
    exact distinct
  have related : List.Forall₂ (fun route route' => route.policy = route'.policy)
      routes routes' := by
    have mapped : List.Forall₂ Eq (routes.map Route.policy) (routes'.map Route.policy) := by
      rw [List.forall₂_eq_eq_eq]
      exact policies
    exact List.forall₂_map_left_iff.mp (List.forall₂_map_right_iff.mp mapped)
  apply flatMap_eq_of_forall₂ related
  intro route member route' member' policy
  by_cases named : route.bundle.NamesIssuer key.2
  · rw [bundle_eq_of_named routed routed' labels' (fun label bundle names =>
      (alike label bundle names).mp) member member' policy named]
  · by_cases named' : route'.bundle.NamesIssuer key.2
    · rw [bundle_eq_of_named routed' routed labels (fun label bundle names =>
        (alike label bundle names).mpr) member' member policy.symm named']
    · rw [registrations_eq_nil named, registrations_eq_nil named']

section Confined

variable [Sha2] [Ciborium] [Pki]

theorem authorized_of_admitted {os : Os} {disk : Disk} {bundle : Bundle}
    {storage : StorageConfig} {now : UInt64} {trust : AdmissionTrust}
    (authorizations : storage.sealAuthorizations ≠ [])
    (admitted : admitBundle os disk bundle storage now = .ok trust) :
    ∃ verification, authenticateBundle os disk bundle storage now = .ok verification ∧
      ∀ scope ∈ bundle.manifest.caScopes, ∃ authorization ∈ storage.sealAuthorizations,
        authorization.covers bundle.manifest.producerId scope verification.signerSha256 := by
  unfold admitBundle at admitted
  obtain ⟨_, _, admitted⟩ := Except.bind_eq_ok.mp admitted
  have serious : storage.isDemo = false := by
    unfold StorageConfig.isDemo
    simp [authorizations]
  rw [serious] at admitted
  obtain ⟨verification, authenticated, _⟩ := Except.bind_eq_ok.mp admitted
  refine ⟨verification, authenticated, ?_⟩
  unfold authenticateBundle at authenticated
  obtain ⟨_, _, authenticated⟩ := Except.bind_eq_ok.mp authenticated
  obtain ⟨_, _, authenticated⟩ := Except.bind_eq_ok.mp authenticated
  obtain ⟨_, _, authenticated⟩ := Except.bind_eq_ok.mp authenticated
  obtain ⟨_, _, authenticated⟩ := Except.bind_eq_ok.mp authenticated
  obtain ⟨_, _, authenticated⟩ := Except.bind_eq_ok.mp authenticated
  obtain ⟨checked, _, authenticated⟩ := Except.bind_eq_ok.mp authenticated
  obtain ⟨_, covered, same⟩ := Except.bind_eq_ok.mp authenticated
  cases same
  intro scope member
  have some_covers := (Except.require_eq_ok.mp covered).resolve_left authorizations scope member
  exact List.any_eq_true.mp some_covers

/-- For every configuration with seal authorizations and every issuer key hash:
working sets with the same bundles for that issuer give it the same answers,
and a bundle that can answer for it passed authentication with an authorization
for its producer, the issuer and the signer of its seal. -/
theorem authorizations_confine_signers {config : Config}
    (authorizations : config.storage.sealAuthorizations ≠ []) (issuerKeyHash : Bytes) :
    (∀ os os' disk disk' map map', Served os config disk map → Served os' config disk' map' →
        SameFor issuerKeyHash map map' → ∀ certId : ParsedCertId,
          certId.issuerKeyHash = issuerKeyHash →
            (∀ preferredAlgs, map.lookup certId preferredAlgs =
              map'.lookup certId preferredAlgs) ∧
            map.scopeForCertid certId = map'.scopeForCertid certId) ∧
      ∀ os disk map, Served os config disk map → ∀ issuerNameHash entries entry bundle,
        map.entries.lookup (issuerNameHash, issuerKeyHash) = some entries → entry ∈ entries →
          map.bundles[entry.bundleIdx]? = some bundle →
            ∃ now verification, authenticateBundle os disk bundle config.storage now =
                .ok verification ∧
              ∃ authorization ∈ config.storage.sealAuthorizations,
                authorization.producerId = bundle.manifest.producerId ∧
                  eqIgnoreAsciiCase authorization.issuerKeyHash
                    (Bytes.encodeHex issuerKeyHash) ∧
                  eqIgnoreAsciiCase authorization.signerSha256 verification.signerSha256 := by
  constructor
  · intro os os' disk disk' map map' served served' alike certId same
    obtain ⟨_, routes, routed⟩ := served.routed
    obtain ⟨_, routes', routed'⟩ := served'.routed
    subst same
    have registered := registrations_alike certId.scopeKey routed.routed routed'.routed
      (routed.policies.trans routed'.policies.symm) (routed.policies ▸ routed.distinct) alike
    constructor
    · intro preferredAlgs
      rw [routed.routed.lookup, routed'.routed.lookup, registered]
    · rw [routed.routed.scopeForCertid, routed'.routed.scopeForCertid, registered]
  · intro os disk map served issuerNameHash entries entry bundle registered member found
    obtain ⟨paths, routes, routed⟩ := served.routed
    obtain ⟨route, isRoute, _, same, scope, named, key⟩ :=
      routed.routed.route_of_entry registered member found
    subst same
    obtain ⟨now, trust, admitted⟩ := routed.admitted isRoute
    obtain ⟨verification, authenticated, covered⟩ :=
      authorized_of_admitted authorizations admitted
    obtain ⟨authorization, listed, covers⟩ := covered scope named
    have keyHash : scope.issuerKeyHash = issuerKeyHash := congrArg Prod.snd key
    unfold SealAuthorization.covers at covers
    rw [keyHash, decide_eq_true_eq] at covers
    exact ⟨now, verification, authenticated, authorization, listed, covers⟩

end Confined

/-! ### Two working sets that differ in another issuer -/

section TwoSets

local instance confinementSha2 : Sha2 := Crates.sha2
local instance confinementCiborium : Ciborium := Crates.ciborium

def laterManifestB : Manifest :=
  Crates.plainManifest "p" [Crates.plainScope 0xbb 6] none

def laterSignatureB : Bytes :=
  Bytes.unpack 70
    0x3044022061662fd8a6ffbc40839e230549420e5f745e5de3670fddf76112730411ca8bff0220370a7013c6deffe4281731070d685cc979cdb89aaeb7fa3326df1038798cd0af []

local instance confinementPki : Pki := Crates.pki
  [(Sha2.sha256 manifestA.toCbor, signatureA), (Sha2.sha256 manifestB.toCbor, signatureB),
    (Sha2.sha256 laterManifestB.toCbor, laterSignatureB)]

def authorizationFor (octet : UInt8) : SealAuthorization :=
  { producerId := "p"
    issuerKeyHash := Bytes.encodeHex (List.replicate 20 octet)
    signerSha256 := Bytes.encodeHex (Sha2.sha256 Crates.signerDer).val }

def confinedConfig : Config :=
  { twoLabels absoluteState with
    storage :=
      { (twoLabels absoluteState).storage with
        sealAuthorizations := [authorizationFor 0xaa, authorizationFor 0xbb] } }

def fileA : Bytes := Crates.sealedFile manifestA signatureA

def confinedWorld (fileB : Bytes) : World :=
  World.holding
    [(["w", "pin.der"], Crates.signerDer), (["w", "bundles", "a.ahu"], fileA),
      (["w", "bundles", "b.ahu"], fileB)]
    ["w", "state", "state.json"] PersistedState.default

def confinedLoad (fileB : Bytes) : Except CoreError ScopeMap × StateStore × World :=
  (loadScopeMap insideW confinedConfig).outcome
    (pinnedStore PersistedState.default, confinedWorld fileB)

def pathFor (name : String) : PathBuf :=
  { root := true
    parts := ["w", "bundles", name] }

theorem confinedLoad_paths {disk : Disk} {paths : List PathBuf}
    (configured : configuredBundlePaths insideW disk confinedConfig = .ok paths) :
    paths = [pathFor "a.ahu", pathFor "b.ahu"] := by
  rw [configuredBundlePaths_sections (List.cons_ne_nil _ _) configured]
  decide

theorem read_confined (fileB : Bytes) :
    insideW.read (confinedWorld fileB).disk (pathFor "a.ahu") = .ok fileA ∧
      insideW.read (confinedWorld fileB).disk (pathFor "b.ahu") = .ok fileB := by
  have placeA : insideW.locate (pathFor "a.ahu") = ["w", "bundles", "a.ahu"] := by
    decide
  have placeB : insideW.locate (pathFor "b.ahu") = ["w", "bundles", "b.ahu"] := by
    decide
  unfold confinedWorld
  generalize fileA = first
  constructor
  · rw [Os.read_eq_ok, placeA]
    exact ⟨rfl, rfl⟩
  · rw [Os.read_eq_ok, placeB]
    exact ⟨rfl, rfl⟩

theorem bundle_of_readFrom {fileB bytes : Bytes} {path : PathBuf} {route : Route}
    {bundle : Bundle} (read : ReadFrom insideW (confinedWorld fileB).disk confinedConfig path route)
    (contents : insideW.read (confinedWorld fileB).disk path = .ok bytes)
    (parsed : Bundle.fromBytes bytes = .ok bundle) : route.bundle = bundle := by
  obtain ⟨spelling, same, admitted⟩ := read
  exact bundleFromFile_of_canonical admitted.parsed
    (bundleFromFile_eq_ok.mpr ⟨bytes, contents, parsed⟩) same

theorem namesIssuer_plainScope {bundle : Bundle} {octet : UInt8} {epoch : UInt64}
    {issuerKeyHash : Bytes} (scopes : bundle.manifest.caScopes = [Crates.plainScope octet epoch]) :
    bundle.NamesIssuer issuerKeyHash ↔ List.replicate 20 octet = issuerKeyHash := by
  unfold Bundle.NamesIssuer
  rw [scopes]
  constructor
  · intro named
    obtain ⟨scope, member, same⟩ := named
    rw [List.mem_singleton.mp member] at same
    exact same
  · intro same
    exact ⟨_, List.mem_singleton_self _, same⟩

theorem parsed_with_scope (file : Bytes) (scope : CaScope)
    (view : ((Bundle.fromBytes file).map fun bundle => bundle.manifest.caScopes) = .ok [scope]) :
    ∃ bundle, Bundle.fromBytes file = .ok bundle ∧ bundle.manifest.caScopes = [scope] :=
  Except.map_eq_ok.mp view

theorem registers_confined {fileB : Bytes} {map : ScopeMap} {after : StateStore × World}
    {bundleA bundleB : Bundle} {epochA epochB : UInt64}
    (run : confinedLoad fileB = (.ok map, after)) (parsedA : Bundle.fromBytes fileA = .ok bundleA)
    (scopesA : bundleA.manifest.caScopes = [Crates.plainScope 0xaa epochA])
    (parsedB : Bundle.fromBytes fileB = .ok bundleB)
    (scopesB : bundleB.manifest.caScopes = [Crates.plainScope 0xbb epochB]) {label : String}
    {bundle : Bundle} (named : bundle.NamesIssuer (List.replicate 20 0xaa)) :
    map.Registers label bundle ↔ label = "a" ∧ bundle = bundleA := by
  obtain ⟨paths, routes, configured, routed⟩ := ensures_loadScopeMap_routing.of_ok run
  have read := routed.read
  rw [confinedLoad_paths configured] at read
  obtain ⟨first, rest, readA, others, split⟩ := List.forall₂_cons_left_iff.mp read
  obtain ⟨second, last, readB, done, split'⟩ := List.forall₂_cons_left_iff.mp others
  cases List.forall₂_nil_left_iff.mp done
  subst split' split
  have policies := routed.policies
  have labels : first.policy.caLabel = "a" := congrArg ScopePolicy.caLabel (List.cons.inj policies).1
  have holdsA : first.bundle = bundleA := bundle_of_readFrom readA (read_confined fileB).1 parsedA
  have holdsB : second.bundle = bundleB := bundle_of_readFrom readB (read_confined fileB).2 parsedB
  rw [routed.routed.registers_iff]
  constructor
  · intro listed
    obtain ⟨route, member, labelled, same, _⟩ := listed
    rcases List.mem_pair.mp member with rfl | rfl
    · exact ⟨labelled.symm.trans labels, same.symm.trans holdsA⟩
    · rw [← same, holdsB, namesIssuer_plainScope scopesB] at named
      cases named
  · intro both
    obtain ⟨rfl, rfl⟩ := both
    refine ⟨first, List.mem_cons_self, labels, holdsA, ?_⟩
    rw [scopesA]
    exact List.cons_ne_nil _ _

def certIdA : ParsedCertId :=
  { entryKey := Sha2.sha256 []
    certidDer := []
    issuerNameHash := List.replicate 20 0x11
    issuerKeyHash := List.replicate 20 0xaa
    serialNumber := [1]
    hashAlgOid := "1.3.14.3.2.26" }

def answerA : ScopeAnswer :=
  { caLabel := "a"
    authoritative := false
    forwardTo := none }

theorem confinedLoad_served (fileB : Bytes) (loads : (confinedLoad fileB).1.isOk = true) :
    ∃ map after, confinedLoad fileB = (.ok map, after) ∧
      Served insideW confinedConfig (confinedWorld fileB).disk map := by
  obtain ⟨map, after, run⟩ := Fallible.eq_ok_of_isOk loads
  exact ⟨map, after, run, .configured run⟩

theorem confined_sets_answer_alike : ∃ map map',
    Served insideW confinedConfig
        (confinedWorld (Crates.sealedFile manifestB signatureB)).disk map ∧
      Served insideW confinedConfig
        (confinedWorld (Crates.sealedFile laterManifestB laterSignatureB)).disk map' ∧
      map.scopeForCertid certIdA = some answerA ∧
      map'.scopeForCertid certIdA = some answerA := by
  obtain ⟨bundleA, parsedA, scopesA⟩ := parsed_with_scope fileA
    (Crates.plainScope 0xaa 5) (by decide +kernel)
  obtain ⟨bundleB, parsedB, scopesB⟩ := parsed_with_scope
    (Crates.sealedFile manifestB signatureB) (Crates.plainScope 0xbb 5) (by decide +kernel)
  obtain ⟨bundleB', parsedB', scopesB'⟩ := parsed_with_scope
    (Crates.sealedFile laterManifestB laterSignatureB) (Crates.plainScope 0xbb 6)
    (by decide +kernel)
  have answer : ((confinedLoad (Crates.sealedFile manifestB signatureB)).1.map fun map =>
      map.scopeForCertid certIdA) = .ok (some answerA) := by
    decide +kernel
  obtain ⟨_, loads, _⟩ := Except.map_eq_ok.mp answer
  obtain ⟨map, after, run, served⟩ := confinedLoad_served
    (Crates.sealedFile manifestB signatureB) (by rw [loads]; rfl)
  obtain ⟨map', after', run', served'⟩ := confinedLoad_served
    (Crates.sealedFile laterManifestB laterSignatureB) (by decide +kernel)
  have alike : SameFor (List.replicate 20 0xaa) map map' := by
    intro label bundle named
    rw [registers_confined run parsedA scopesA parsedB scopesB named,
      registers_confined run' parsedA scopesA parsedB' scopesB' named]
  have authorizations : confinedConfig.storage.sealAuthorizations ≠ [] :=
    List.cons_ne_nil _ _
  have same := ((authorizations_confine_signers authorizations _).1 _ _ _ _ _ _ served served'
    alike certIdA rfl).2
  rw [run] at answer
  have answered : map.scopeForCertid certIdA = some answerA := Except.ok.inj answer
  exact ⟨map, map', served, served', answered, same.symm.trans answered⟩

end TwoSets

end Hoike
