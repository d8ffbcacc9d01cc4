/-
The routes of a loaded working set.

A load assigns one admitted bundle to every configured label and registers it
for each of its scopes.  Lookups depend on these assignments only, not on how
the bundles are numbered, so a bundle has no influence on issuers it does not
name.
-/

import Hoike.Core.LoadSpec
import Hoike.Core.Lookup

namespace Hoike

open Ahu
open Fallible

/-! ### Routes -/

/-- What an entry says besides its bundle. -/
structure ScopePolicy where
  caLabel : String
  noncePolicy : String
  completeness : String
  forwardTo : Option String
deriving DecidableEq, Repr

def ScopeEntry.policy (entry : ScopeEntry) : ScopePolicy :=
  { caLabel := entry.caLabel
    noncePolicy := entry.noncePolicy
    completeness := entry.completeness
    forwardTo := entry.forwardTo }

def CaConfig.policy (ca : CaConfig) : ScopePolicy :=
  (ca.entry 0).policy

/-- A configured label with the bundle that was loaded for it. -/
structure Route where
  policy : ScopePolicy
  bundle : Bundle

def Ahu.CaScope.scopeKey (scope : CaScope) : ScopeKey :=
  (scope.issuerNameHash, scope.issuerKeyHash)

/-- The route, once for every scope with this key. -/
def Route.registrations (route : Route) (key : ScopeKey) : List Route :=
  (route.bundle.manifest.caScopes.filter fun scope => scope.scopeKey = key).map fun _ => route

def resolve (bundles : List Bundle) (entry : ScopeEntry) : Option Route :=
  bundles[entry.bundleIdx]?.map fun bundle =>
    { policy := entry.policy
      bundle := bundle }

def RoutedBy (entries : HashMap ScopeKey (List ScopeEntry)) (bundles : List Bundle)
    (routes : List Route) : Prop :=
  ∀ key, ((entries.lookup key).getD []).map (resolve bundles) =
    (routes.flatMap fun route => route.registrations key).map some

def registerScope (entry : ScopeEntry) (entries : HashMap ScopeKey (List ScopeEntry))
    (scope : CaScope) : HashMap ScopeKey (List ScopeEntry) :=
  entries.insert scope.scopeKey ((entries.lookup scope.scopeKey).getD [] ++ [entry])

theorem lookup_registerScope (entry : ScopeEntry)
    (entries : HashMap ScopeKey (List ScopeEntry)) (scope : CaScope) (key : ScopeKey) :
    ((registerScope entry entries scope).lookup key).getD [] =
      (entries.lookup key).getD [] ++ if scope.scopeKey = key then [entry] else [] := by
  unfold registerScope
  by_cases same : scope.scopeKey = key
  · subst same
    rw [AList.lookup_insert, Option.getD_some, if_pos rfl]
  · rw [AList.lookup_insert_ne (Ne.symm same), if_neg same, List.append_nil]

theorem lookup_registerBundleScopes (bundle : Bundle) (entry : ScopeEntry)
    (entries : HashMap ScopeKey (List ScopeEntry)) (key : ScopeKey) :
    ((registerBundleScopes bundle entry entries).lookup key).getD [] =
      (entries.lookup key).getD [] ++
        (bundle.manifest.caScopes.filter fun scope => scope.scopeKey = key).map
          fun _ => entry := by
  change ((bundle.manifest.caScopes.foldl (registerScope entry) entries).lookup key).getD [] = _
  induction bundle.manifest.caScopes generalizing entries with
  | nil =>
      exact (List.append_nil _).symm
  | cons scope rest ih =>
      rw [List.foldl_cons, ih, lookup_registerScope, List.append_assoc, List.filter_cons]
      by_cases same : scope.scopeKey = key
      · rw [if_pos same, if_pos (decide_eq_true same)]
        rfl
      · rw [if_neg same, if_neg (by simpa using same), List.nil_append]

theorem RoutedBy.empty (bundles : List Bundle) : RoutedBy ∅ bundles [] := by
  intro key
  rfl

theorem RoutedBy.register {entries : HashMap ScopeKey (List ScopeEntry)}
    {bundles : List Bundle} {routes : List Route} {entry : ScopeEntry} {bundle : Bundle}
    (routed : RoutedBy entries bundles routes)
    (found : bundles[entry.bundleIdx]? = some bundle) :
    RoutedBy (registerBundleScopes bundle entry entries) bundles
      (routes ++ [{ policy := entry.policy, bundle := bundle }]) := by
  intro key
  have resolved : resolve bundles entry = some { policy := entry.policy, bundle := bundle } := by
    unfold resolve
    rw [found, Option.map_some]
  rw [lookup_registerBundleScopes, List.map_append, routed key, List.flatMap_append, List.map_append]
  congr 1
  rw [List.flatMap_singleton, List.map_map]
  unfold Route.registrations
  rw [List.map_map]
  apply List.map_congr_left
  intro scope _
  exact resolved

theorem RoutedBy.extend {entries : HashMap ScopeKey (List ScopeEntry)} {bundles : List Bundle}
    {routes : List Route} (routed : RoutedBy entries bundles routes) (bundle : Bundle) :
    RoutedBy entries (bundles ++ [bundle]) routes := by
  intro key
  rw [← routed key]
  apply List.map_congr_left
  intro entry member
  have listed : resolve bundles entry ∈
      (routes.flatMap fun route => route.registrations key).map some := by
    rw [← routed key]
    exact List.mem_map_of_mem member
  obtain ⟨route, _, resolved⟩ := List.mem_map.mp listed
  unfold resolve at resolved ⊢
  obtain ⟨held, found, _⟩ := Option.map_eq_some_iff.mp resolved.symm
  have below : entry.bundleIdx < bundles.length := (List.getElem?_eq_some_iff.mp found).1
  rw [List.getElem?_append_left below]

/-! ### Lookups along routes -/

def Route.hit (certId : ParsedCertId) (preferredAlgs : List UInt16) (route : Route) :
    Option LookupResult :=
  let found := if preferredAlgs = [] then route.bundle.lookup certId.entryKey
    else route.bundle.lookupPreferred certId.entryKey preferredAlgs
  found.map fun responseBytes =>
    { responseBytes := responseBytes
      window := route.bundle.manifest.window
      caLabel := route.policy.caLabel
      noncePolicy := route.policy.noncePolicy
      forwardTo := route.policy.forwardTo }

def Route.answer (route : Route) : ScopeAnswer :=
  { caLabel := route.policy.caLabel
    authoritative := route.policy.completeness = "authoritative-complete"
    forwardTo := route.policy.forwardTo }

theorem hit_eq_resolve (map : ScopeMap) (certId : ParsedCertId) (preferredAlgs : List UInt16)
    (entry : ScopeEntry) :
    map.hit certId preferredAlgs entry =
      (resolve map.bundles entry).bind (Route.hit certId preferredAlgs) := by
  unfold ScopeMap.hit resolve
  cases map.bundles[entry.bundleIdx]? with
  | none =>
      rfl
  | some bundle =>
      rfl

/-- The first registered route that holds the entry key answers. -/
theorem RoutedBy.lookup {map : ScopeMap} {routes : List Route}
    (routed : RoutedBy map.entries map.bundles routes) (certId : ParsedCertId)
    (preferredAlgs : List UInt16) :
    map.lookup certId preferredAlgs =
      ((routes.flatMap fun route => route.registrations certId.scopeKey).filterMap
        (Route.hit certId preferredAlgs)).head? := by
  have unrouted : map.lookup certId preferredAlgs =
      (((map.entries.lookup certId.scopeKey).getD []).filterMap
        (map.hit certId preferredAlgs)).head? := by
    unfold ScopeMap.lookup
    cases map.entries.lookup certId.scopeKey with
    | none =>
        rfl
    | some entries =>
        rfl
  have hits : map.hit certId preferredAlgs = fun entry =>
      (resolve map.bundles entry).bind (Route.hit certId preferredAlgs) :=
    funext (hit_eq_resolve map certId preferredAlgs)
  have through : ((map.entries.lookup certId.scopeKey).getD []).filterMap
      (map.hit certId preferredAlgs) =
        (((map.entries.lookup certId.scopeKey).getD []).map (resolve map.bundles)).filterMap
          fun route => route.bind (Route.hit certId preferredAlgs) := by
    rw [hits, List.filterMap_map]
    rfl
  rw [unrouted, through, routed, List.filterMap_map]
  rfl

theorem RoutedBy.scopeForCertid {map : ScopeMap} {routes : List Route}
    (routed : RoutedBy map.entries map.bundles routes) (certId : ParsedCertId) :
    map.scopeForCertid certId =
      (routes.flatMap fun route => route.registrations certId.scopeKey).head?.map
        Route.answer := by
  have unrouted : map.scopeForCertid certId =
      ((map.entries.lookup certId.scopeKey).getD []).head?.map fun entry =>
        { caLabel := entry.caLabel
          authoritative := entry.completeness = "authoritative-complete"
          forwardTo := entry.forwardTo } := by
    unfold ScopeMap.scopeForCertid
    cases map.entries.lookup certId.scopeKey with
    | none =>
        rfl
    | some entries =>
        rfl
  rw [unrouted]
  have heads := congrArg List.head? (routed certId.scopeKey)
  rw [List.head?_map, List.head?_map] at heads
  cases first : ((map.entries.lookup certId.scopeKey).getD []).head? with
  | none =>
      rw [first, Option.map_none] at heads
      rw [Option.map_eq_none_iff.mp heads.symm]
      rfl
  | some entry =>
      rw [first, Option.map_some] at heads
      obtain ⟨route, firstRoute, resolved⟩ := Option.map_eq_some_iff.mp heads.symm
      unfold resolve at resolved
      obtain ⟨bundle, _, same⟩ := Option.map_eq_some_iff.mp resolved.symm
      rw [firstRoute, ← same]
      rfl

def ScopeMap.Registers (map : ScopeMap) (label : String) (bundle : Bundle) : Prop :=
  ∃ key entries entry, map.entries.lookup key = some entries ∧ entry ∈ entries ∧
    entry.caLabel = label ∧ map.bundles[entry.bundleIdx]? = some bundle

theorem Route.mem_registrations {route other : Route} {key : ScopeKey} :
    other ∈ route.registrations key ↔
      other = route ∧ ∃ scope ∈ route.bundle.manifest.caScopes, scope.scopeKey = key := by
  unfold Route.registrations
  rw [List.mem_map]
  constructor
  · intro listed
    obtain ⟨scope, member, same⟩ := listed
    rw [List.mem_filter, decide_eq_true_eq] at member
    exact ⟨same.symm, scope, member⟩
  · intro both
    obtain ⟨same, scope, member⟩ := both
    refine ⟨scope, ?_, same.symm⟩
    rw [List.mem_filter, decide_eq_true_eq]
    exact member

theorem RoutedBy.route_of_entry {map : ScopeMap} {routes : List Route}
    (routed : RoutedBy map.entries map.bundles routes) {key : ScopeKey}
    {entries : List ScopeEntry} {entry : ScopeEntry} {bundle : Bundle}
    (registered : map.entries.lookup key = some entries) (member : entry ∈ entries)
    (found : map.bundles[entry.bundleIdx]? = some bundle) :
    ∃ route ∈ routes, route.policy = entry.policy ∧ route.bundle = bundle ∧
      ∃ scope ∈ bundle.manifest.caScopes, scope.scopeKey = key := by
  have listed : resolve map.bundles entry ∈
      (routes.flatMap fun route => route.registrations key).map some := by
    rw [← routed key, registered]
    exact List.mem_map_of_mem member
  obtain ⟨registration, among, resolved⟩ := List.mem_map.mp listed
  obtain ⟨route, isRoute, own⟩ := List.mem_flatMap.mp among
  obtain ⟨same, named⟩ := Route.mem_registrations.mp own
  subst same
  unfold resolve at resolved
  rw [found, Option.map_some, Option.some.injEq] at resolved
  subst resolved
  exact ⟨_, isRoute, rfl, rfl, named⟩

theorem RoutedBy.registers_iff {map : ScopeMap} {routes : List Route}
    (routed : RoutedBy map.entries map.bundles routes) {label : String} {bundle : Bundle} :
    map.Registers label bundle ↔
      ∃ route ∈ routes, route.policy.caLabel = label ∧ route.bundle = bundle ∧
        bundle.manifest.caScopes ≠ [] := by
  constructor
  · intro registers
    obtain ⟨key, entries, entry, registered, member, labelled, found⟩ := registers
    obtain ⟨route, isRoute, policy, same, scope, named, _⟩ :=
      routed.route_of_entry registered member found
    refine ⟨route, isRoute, ?_, same, List.ne_nil_of_mem named⟩
    rw [policy]
    exact labelled
  · intro routes_have
    obtain ⟨route, isRoute, labelled, same, nonempty⟩ := routes_have
    subst same
    obtain ⟨scope, named⟩ := List.exists_mem_of_ne_nil _ nonempty
    have listed : some route ∈
        (routes.flatMap fun route => route.registrations scope.scopeKey).map some :=
      List.mem_map_of_mem (List.mem_flatMap.mpr
        ⟨route, isRoute, Route.mem_registrations.mpr ⟨rfl, scope, named, rfl⟩⟩)
    rw [← routed scope.scopeKey] at listed
    obtain ⟨entry, member, resolved⟩ := List.mem_map.mp listed
    unfold resolve at resolved
    obtain ⟨bundle, found, assembled⟩ := Option.map_eq_some_iff.mp resolved
    cases registered : map.entries.lookup scope.scopeKey with
    | none =>
        rw [registered] at member
        cases member
    | some entries =>
        rw [registered] at member
        subst assembled
        exact ⟨scope.scopeKey, entries, entry, registered, member, labelled, found⟩

/-! ### What a load registers -/

section Loads

variable [Sha2] [Ciborium] [Pki]

def Config.policies (config : Config) : List ScopePolicy :=
  if config.ca = [] then [defaultEntry.policy] else config.ca.map CaConfig.policy

/-- The bundle of the route was read under this path or another spelling of it,
and admitted. -/
def ReadFrom (os : Os) (disk : Disk) (config : Config) (path : PathBuf) (route : Route) :
    Prop :=
  ∃ spelling, os.canonicalOrSelf disk spelling = os.canonicalOrSelf disk path ∧
    Admitted os disk config spelling route.bundle

/-- One admitted bundle for every configured label, read from these paths and
registered in configuration order. -/
structure Routed (os : Os) (disk : Disk) (config : Config) (paths : List PathBuf)
    (map : ScopeMap) (routes : List Route) : Prop where
  policies : routes.map Route.policy = config.policies
  distinct : (config.policies.map ScopePolicy.caLabel).Nodup
  read : List.Forall₂ (ReadFrom os disk config) paths routes
  routed : RoutedBy map.entries map.bundles routes

theorem Routed.admitted {os : Os} {disk : Disk} {config : Config} {paths : List PathBuf}
    {map : ScopeMap} {routes : List Route} (routed : Routed os disk config paths map routes)
    {route : Route} (member : route ∈ routes) :
    ∃ now trust, admitBundle os disk route.bundle config.storage now = .ok trust := by
  have read := routed.read
  clear routed
  induction read with
  | nil =>
      cases member
  | cons first _ ih =>
      rcases List.mem_cons.mp member with rfl | later
      · obtain ⟨_, _, admitted⟩ := first
        exact admitted.admitted
      · exact ih later

/-- The routes of the sections visited so far, and the bundle of every path that
was loaded. -/
structure Routing (os : Os) (disk : Disk) (config : Config) (done : List (CaConfig × PathBuf))
    (loading : Loading) : Prop where
  routes : ∃ routes, routes.map Route.policy = done.map (fun item => item.1.policy) ∧
    List.Forall₂ (ReadFrom os disk config) (done.map Prod.snd) routes ∧
    RoutedBy loading.entries loading.bundles routes
  known : ∀ canonical idx, loading.loadedPaths.lookup canonical = some idx →
    ∃ path bundle, os.canonicalOrSelf disk path = canonical ∧
      Admitted os disk config path bundle ∧ loading.bundles[idx]? = some bundle

theorem Routing.empty (os : Os) (disk : Disk) (config : Config) :
    Routing os disk config [] Loading.empty :=
  { routes := ⟨[], rfl, .nil, .empty []⟩
    known := by
      intro canonical idx impossible
      cases impossible }

theorem Routing.register {os : Os} {disk : Disk} {config : Config}
    {done : List (CaConfig × PathBuf)} {loading : Loading} {idx : Nat} {bundle : Bundle}
    {spelling : PathBuf} (routing : Routing os disk config done loading)
    (item : CaConfig × PathBuf)
    (same : os.canonicalOrSelf disk spelling = os.canonicalOrSelf disk item.2)
    (admitted : Admitted os disk config spelling bundle)
    (found : loading.bundles[idx]? = some bundle) :
    Routing os disk config (done ++ [item])
      { loading with
        entries := registerBundleScopes bundle (item.1.entry idx) loading.entries } := by
  obtain ⟨routes, policies, read, routed⟩ := routing.routes
  refine ⟨⟨_, ?_, ?_, routed.register found⟩, routing.known⟩
  · rw [List.map_append, List.map_append, policies]
    rfl
  · rw [List.map_append]
    exact List.rel_append read (.cons ⟨spelling, same, admitted⟩ .nil)

theorem Routing.load {os : Os} {disk : Disk} {config : Config}
    {done : List (CaConfig × PathBuf)} {loading : Loading} {path : PathBuf} {bundle : Bundle}
    (routing : Routing os disk config done loading)
    (admitted : Admitted os disk config path bundle) :
    Routing os disk config done
      { bundles := loading.bundles ++ [bundle]
        entries := loading.entries
        loadedPaths := loading.loadedPaths.insert (os.canonicalOrSelf disk path)
          loading.bundles.length } := by
  obtain ⟨routes, policies, read, routed⟩ := routing.routes
  refine ⟨⟨routes, policies, read, routed.extend bundle⟩, ?_⟩
  intro other idx known
  by_cases here : other = os.canonicalOrSelf disk path
  · subst here
    rw [AList.lookup_insert, Option.some.injEq] at known
    subst known
    exact ⟨path, bundle, rfl, admitted, List.getElem?_concat_length⟩
  · rw [AList.lookup_insert_ne here] at known
    obtain ⟨first, held, same, ok, found⟩ := routing.known other idx known
    refine ⟨first, held, same, ok, ?_⟩
    rw [List.getElem?_append_left (List.getElem?_eq_some_iff.mp found).1]
    exact found

theorem ensures_loadCa_routing {os : Os} {config : Config} {loading : Loading}
    {item : CaConfig × PathBuf} {done : List (CaConfig × PathBuf)} {current : StateStore}
    {world now : World} (staged : current.staged = true)
    (routing : Routing os world.disk config done loading) (same : world.SameDisk now) :
    Ensures (loadCa os config loading item) (current, now)
      (fun loading' after => after.1.staged = true ∧
        Routing os world.disk config (done ++ [item]) loading' ∧ world.SameDisk after.2)
      (fun _ _ => True) := by
  unfold loadCa
  simp only [ensures_bind, ensures_get]
  have sameDisk := same.disk
  cases found : loading.loadedPaths.lookup (os.canonicalOrSelf now.disk item.2) with
  | some idx =>
      rw [sameDisk] at found
      obtain ⟨path, bundle, canonical, admitted, present⟩ := routing.known _ idx found
      dsimp only
      rw [present]
      exact ⟨staged, routing.register item canonical admitted present, same⟩
  | none =>
      simp only [ensures_bind, ensures_pure]
      refine ensures_admitAndStage staged ?_ (fun _ _ _ => trivial)
      intro bundle after admitted _ _ later
      rw [sameDisk] at admitted ⊢
      have loaded := routing.load admitted
      exact ⟨staged, loaded.register item rfl admitted List.getElem?_concat_length,
        same.trans later⟩

omit [Sha2] [Ciborium] [Pki] in
theorem labels_of_validateNonceEntries {config : Config} {sections : List CaConfig} :
    ∀ {seen : List String}, validateNonceEntries config seen sections = .ok () →
      (sections.map CaConfig.label).Nodup ∧ ∀ label ∈ seen, label ∉ sections.map CaConfig.label := by
  induction sections with
  | nil =>
      intro seen _
      exact ⟨List.nodup_nil, fun _ _ => List.not_mem_nil⟩
  | cons ca rest ih =>
      intro seen valid
      obtain ⟨_, first, others⟩ := Except.bind_eq_ok.mp valid
      unfold validateNonceEntry at first
      obtain ⟨_, fresh, _⟩ := Except.bind_eq_ok.mp first
      have fresh := Except.require_eq_ok.mp fresh
      obtain ⟨distinct, apart⟩ := ih others
      constructor
      · exact List.nodup_cons.mpr ⟨apart ca.label List.mem_cons_self, distinct⟩
      · intro label known member
        rcases List.mem_cons.mp member with here | later
        · exact fresh (here ▸ known)
        · exact apart label (List.mem_cons_of_mem _ known) later

omit [Sha2] [Pki] in
theorem labels_distinct {os : Os} {disk : Disk} {config : Config} {paths : List PathBuf}
    (configured : configuredBundlePaths os disk config = .ok paths) :
    (config.policies.map ScopePolicy.caLabel).Nodup := by
  obtain ⟨_, valid, _⟩ := Except.bind_eq_ok.mp configured
  unfold Config.policies
  split_ifs with unscoped
  · exact List.nodup_singleton _
  · rw [List.map_map]
    exact (labels_of_validateNonceEntries valid).1

theorem ensures_loadBundles_routing {os : Os} {config : Config} {store : StateStore}
    {world : World} (staged : store.staged = true) :
    Ensures (loadBundles os config) (store, world)
      (fun loading _ => ∃ paths routes, configuredBundlePaths os world.disk config = .ok paths ∧
        Routed os world.disk config paths
          { entries := loading.entries, bundles := loading.bundles } routes)
      (fun _ _ => True) := by
  unfold loadBundles
  simp only [ensures_bind, ensures_get, ensures_liftM]
  refine ⟨?_, fun _ _ => trivial⟩
  intro paths configured
  have distinct := labels_distinct configured
  by_cases unscoped : config.ca = []
  · rw [if_pos unscoped]
    obtain ⟨path, rfl⟩ := configuredBundlePaths_single unscoped configured
    simp only [List.head?_cons, ensures_bind, ensures_pure]
    refine ensures_admitAndStage staged ?_ (fun _ _ _ => trivial)
    intro bundle after admitted _ _ _
    have routed : RoutedBy (registerBundleScopes bundle defaultEntry ∅) [bundle]
        [{ policy := defaultEntry.policy, bundle := bundle }] :=
      (RoutedBy.empty [bundle]).register rfl
    refine ⟨_, _, configured, ⟨?_, distinct, .cons ⟨path, rfl, admitted⟩ .nil, routed⟩⟩
    unfold Config.policies
    rw [if_pos unscoped]
    rfl
  · rw [if_neg unscoped]
    have lengths : config.ca.length = paths.length := by
      rw [configuredBundlePaths_sections unscoped configured, List.length_map]
    refine Ensures.foldlM (fun rest loading current => current.1.staged = true ∧
        (∃ done, done ++ rest = config.ca.zip paths ∧
          Routing os world.disk config done loading) ∧ world.SameDisk current.2)
      ⟨staged, ⟨[], rfl, .empty os world.disk config⟩, .refl world⟩ ?_ ?_
    · rintro item rest loading ⟨current, now⟩ ⟨still, ⟨done, split, routing⟩, same⟩
      refine (ensures_loadCa_routing still routing same).mono ?_ (fun _ _ _ => trivial)
      intro loading' after visited
      exact ⟨visited.1, ⟨done ++ [item], by rw [← split]; simp, visited.2.1⟩, visited.2.2⟩
    · rintro loading ⟨current, now⟩ ⟨_, ⟨done, split, routing⟩, _⟩
      rw [List.append_nil] at split
      subst split
      obtain ⟨routes, policies, read, routed⟩ := routing.routes
      rw [List.map_snd_zip (Nat.le_of_eq lengths.symm)] at read
      refine ⟨paths, routes, configured, ⟨?_, distinct, read, routed⟩⟩
      unfold Config.policies
      rw [if_neg unscoped, policies]
      change (config.ca.zip paths).map (CaConfig.policy ∘ Prod.fst) = _
      rw [← List.map_map, List.map_fst_zip (Nat.le_of_eq lengths)]

theorem ensures_loadScopeMap_routing {os : Os} {config : Config} {store : StateStore}
    {world : World} :
    Ensures (loadScopeMap os config) (store, world)
      (fun map _ => ∃ paths routes, configuredBundlePaths os world.disk config = .ok paths ∧
        Routed os world.disk config paths map routes) (fun _ _ => True) := by
  unfold loadScopeMap loadScopeMapCandidate
  simp only [ensures_bind, ensures_get, ensures_onShared, ensures_withLocal, ensures_pure]
  refine (ensures_loadBundles_routing rfl).mono ?_ (fun _ _ _ => trivial)
  intro loading current routed
  -- neither the snapshots nor the commit change the map
  refine Ensures.intro ?_ (fun _ _ _ => trivial)
  intro _ after _
  refine Ensures.intro ?_ (fun _ _ _ => trivial)
  intro _ _ _
  exact routed

theorem ensures_recoverDefault_routing {os : Os} {config : Config} {path : PathBuf}
    {store : StateStore} {world : World} (unscoped : config.ca = []) :
    Ensures (recoverDefault os config path) (store, world)
      (fun map _ => ∃ routes, Routed os world.disk config [path] map routes)
      (fun _ _ => True) := by
  unfold recoverDefault
  simp only [ensures_bind, ensures_get, ensures_onShared, ensures_withLocal, ensures_pure]
  refine ensures_admitAndStage rfl ?_ (fun _ _ _ => trivial)
  intro bundle after admitted _ _ _
  refine Ensures.intro ?_ (fun _ _ _ => trivial)
  intro _ _ _
  refine Ensures.intro ?_ (fun _ _ _ => trivial)
  intro _ _ _
  have single : config.policies = [defaultEntry.policy] := if_pos unscoped
  refine ⟨[{ policy := defaultEntry.policy, bundle := bundle }], single.symm, ?_,
    .cons ⟨path, rfl, admitted⟩ .nil, (RoutedBy.empty [bundle]).register rfl⟩
  rw [single]
  exact List.nodup_singleton _

omit [Sha2] [Ciborium] [Pki] in
theorem recoveryConfig_eq_ok {config recovery : Config} {active : HashMap String PathBuf}
    (recovered : recoveryConfig config active = .ok recovery) :
    recovery.storage = config.storage ∧ recovery.policies = config.policies := by
  obtain ⟨sections, traversed, same⟩ := Except.bind_eq_ok.mp recovered
  cases same
  have pairs := Except.mapM_eq_ok.mp traversed
  have policies : sections.map CaConfig.policy = config.ca.map CaConfig.policy := by
    clear recovered traversed
    generalize config.ca = configured at pairs ⊢
    induction pairs with
    | nil =>
        rfl
    | cons changed _ ih =>
        rw [List.map_cons, List.map_cons, ih]
        split at changed
        · cases changed
        · cases changed
          rfl
  refine ⟨rfl, ?_⟩
  unfold Config.policies
  dsimp only
  rw [policies]
  have length := congrArg List.length policies
  rw [List.length_map, List.length_map] at length
  by_cases unscoped : config.ca = []
  · rw [if_pos unscoped, if_pos]
    rw [unscoped] at length
    exact List.eq_nil_of_length_eq_zero length
  · rw [if_neg unscoped, if_neg]
    intro nothing
    rw [nothing] at length
    exact unscoped (List.eq_nil_of_length_eq_zero length.symm)

/-- A working set that a load of the configured files or a recovery of the
committed snapshots gives, with the disk its bundles were read from. -/
inductive Served (os : Os) (config : Config) : Disk → ScopeMap → Prop
  | configured {store world map after} :
      (loadScopeMap os config).outcome (store, world) = (.ok map, after) →
        Served os config world.disk map
  | recovered {active recovery store world map after} :
      recoveryConfig config active = .ok recovery →
        (loadScopeMap os recovery).outcome (store, world) = (.ok map, after) →
          Served os config world.disk map
  | recoveredDefault {path store world map after} :
      config.ca = [] → (recoverDefault os config path).outcome (store, world) = (.ok map, after) →
        Served os config world.disk map

theorem Served.routed {os : Os} {config : Config} {disk : Disk} {map : ScopeMap}
    (served : Served os config disk map) :
    ∃ paths routes, Routed os disk config paths map routes := by
  cases served with
  | configured run =>
      obtain ⟨paths, routes, _, routed⟩ := ensures_loadScopeMap_routing.of_ok run
      exact ⟨paths, routes, routed⟩
  | recovered recovery run =>
      obtain ⟨storage, policies⟩ := recoveryConfig_eq_ok recovery
      obtain ⟨paths, routes, _, routed⟩ := ensures_loadScopeMap_routing.of_ok run
      refine ⟨paths, routes, ⟨routed.policies.trans policies, policies ▸ routed.distinct, ?_,
        routed.routed⟩⟩
      refine routed.read.imp ?_
      intro path route read
      obtain ⟨spelling, same, parsed, now, trust, accepted⟩ := read
      rw [storage] at accepted
      exact ⟨spelling, same, parsed, now, trust, accepted⟩
  | recoveredDefault unscoped run =>
      obtain ⟨routes, routed⟩ := (ensures_recoverDefault_routing unscoped).of_ok run
      exact ⟨_, routes, routed⟩

theorem served_of_load {os : Os} {config : Config} {guard : StateDirectoryLock} {world after : World}
    {responder : ResponderState}
    (run : (load os config guard).outcome world = (.ok responder, after)) :
    ∃ disk, Served os config disk responder.scopeMap := by
  have spec : Ensures (load os config guard) world
      (fun responder _ => ∃ disk, Served os config disk responder.scopeMap)
      (fun _ _ => True) := by
    refine ensures_load (fun _ => trivial) ?_
    intro store _ _
    unfold loadOrRecover
    rw [ensures_bind, ensures_observing]
    refine Ensures.intro (fun map _ loaded => ⟨_, .configured loaded⟩) ?_
    intro original middle _
    simp only [ensures_bind, ensures_get]
    split_ifs with unbound single
    · trivial
    · cases middle.1.state.activeBundles.lookup "default" with
      | none =>
          trivial
      | some path =>
          exact Ensures.intro (fun map _ loaded => ⟨_, .recoveredDefault single loaded⟩)
            (fun _ _ _ => trivial)
    · simp only [ensures_bind, ensures_liftM]
      refine ⟨?_, fun _ _ => trivial⟩
      intro recovery recovered
      exact Ensures.intro (fun map _ loaded => ⟨_, .recovered recovered loaded⟩)
        (fun _ _ _ => trivial)
  exact spec.of_ok run

theorem served_of_reload {os : Os} {responder : ResponderState} {world : World}
    {after : ResponderState × World}
    (run : (reload os).outcome (responder, world) = (.ok (), after)) :
    ∃ disk, Served os responder.config disk after.1.scopeMap := by
  have spec : Ensures (reload os) (responder, world)
      (fun _ after => ∃ disk, Served os responder.config disk after.1.scopeMap)
      (fun _ _ => True) := by
    unfold reload
    simp only [ensures_bind, ensures_get, ensures_zoom, ensures_modify]
    exact Ensures.intro (fun map _ loaded => ⟨_, .configured loaded⟩) (fun _ _ _ => trivial)
  exact spec.of_ok run

end Loads

end Hoike
