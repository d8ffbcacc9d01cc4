/-
The background signer loop (`main.rs`).

The loop sleeps, then either runs a full pass over all sections or, between full
passes, looks for certificates that were revoked since its baseline and signs
their section alone.  The baseline is the set of serials per label that the loop
takes as known.
-/

import Hoike.Sign.EpochReuse

namespace Hoike

open Ahu (Bundle minU64)
open Ocsp
open Fallible

/-! ### Intervals -/

def urgentPollSecs : UInt64 := 300

def SignerCa.isUrgent (ca : SignerCa) : Bool :=
  ca.urgentRevocation && ca.source.isSome

namespace SignerConfig

def minInterval (config : SignerConfig) : UInt64 :=
  match config.ca.map SignerCa.batchInterval with
  | [] => 3600
  | first :: rest => rest.foldl minU64 first

def anyUrgent (config : SignerConfig) : Bool :=
  config.ca.any SignerCa.isUrgent

def pollInterval (config : SignerConfig) : UInt64 :=
  if config.anyUrgent then minU64 config.minInterval urgentPollSecs else config.minInterval

end SignerConfig

/-! ### State of the loop -/

structure SignerLoop where
  node : Node
  knownRevoked : HashMap String (List SerialBytes) := ∅
  elapsedSinceFull : UInt64 := 0

/-- What one wake meets: the environment of its signings, and what the check of the
signing material and the reload of the live signer give. -/
structure Wake where
  env : SigningEnvironment
  prepareSignerMaterial : Nat → SignerCa → Except String Unit
  reloadLiveSigner : Nat → SignerCa → Except String Unit

def Wake.isReady (wake : Wake) (calls : Nat) (ca : SignerCa) : Bool :=
  (wake.prepareSignerMaterial calls ca).isOk && (wake.reloadLiveSigner calls ca).isOk

namespace SignerLoop

def tick (loop : SignerLoop) : SignerLoop :=
  { loop with
    node := { loop.node with
      system := { loop.node.system with world := loop.node.system.world.tick } } }

def signed (loop : SignerLoop) (desk : Desk) : SignerLoop :=
  { loop with node := loop.node.after desk }

def refresh (loop : SignerLoop) (label : String) (serials : List SerialBytes) : SignerLoop :=
  { loop with knownRevoked := loop.knownRevoked.insert label serials }

/-- `entry(label).or_default()`: an unknown label gets the empty set. -/
def entryOrDefault (loop : SignerLoop) (label : String) : SignerLoop :=
  match loop.knownRevoked.lookup label with
  | some _ => loop
  | none => { loop with knownRevoked := loop.knownRevoked.insert label [] }

def previous (loop : SignerLoop) (label : String) : List SerialBytes :=
  (loop.knownRevoked.lookup label).getD []

end SignerLoop

section Loop

variable [Sha2] [Ciborium] [Sha1] [Pki] [X509Ocsp] [SourceFiles]

namespace SignerLoop

/-- A step of the node that the loop does not take itself: requests, reloads,
installations and signing on demand. -/
def act (directory : RealPath) (loop : SignerLoop) (action : SignerAction) : SignerLoop :=
  { loop with node := loop.node.step directory action }

/-! ### Baselines -/

omit [Sha2] [Ciborium] [Sha1] in
def rebaseline (env : SigningEnvironment) (loop : SignerLoop) (ca : SignerCa) : SignerLoop :=
  if ca.isUrgent then
    match revokedSerialsForScope env ca loop.node.system.world with
    | .ok serials => loop.tick.refresh ca.label serials
    | .error _ => loop.tick
  else loop

omit [Sha2] [Ciborium] [Sha1] in
def rebaselineAll (env : SigningEnvironment) (config : SignerConfig) (loop : SignerLoop) :
    SignerLoop :=
  if config.anyUrgent then config.ca.foldl (rebaseline env) loop else loop

/-! ### Passes -/

/-- Sign one section off the cycle.  The set that was read before becomes the
baseline when the production succeeds. -/
def urgentProduction (directory : RealPath) (config : SignerConfig) (wake : Wake)
    (loop : SignerLoop) (ca : SignerCa) (current : List SerialBytes) : SignerLoop :=
  let run := (signAndWriteScope wake.env config ca).outcome loop.node.desk
  match run.1 with
  | .ok _ =>
      ((loop.signed run.2).refresh ca.label current).act directory
        (.serve (.reload wake.env.os))
  | .error _ => (loop.signed run.2).tick

def urgentScope (directory : RealPath) (config : SignerConfig) (wake : Wake) (loop : SignerLoop)
    (ca : SignerCa) : SignerLoop :=
  if ca.isUrgent then
    match revokedSerialsForScope wake.env ca loop.node.system.world with
    | .error _ => loop.tick
    | .ok current =>
        let loop := loop.tick.entryOrDefault ca.label
        let newCount := (current.filter fun serial => serial ∉ loop.previous ca.label).length
        if newCount = 0 then loop
        else if wake.isReady loop.node.system.world.calls ca then
          urgentProduction directory config wake loop ca current
        else loop
  else loop

def urgentRevocationPass (directory : RealPath) (config : SignerConfig) (wake : Wake)
    (loop : SignerLoop) : SignerLoop :=
  config.ca.foldl (urgentScope directory config wake) loop

def produceAll (directory : RealPath) (config : SignerConfig) (wake : Wake) (loop : SignerLoop) :
    SignerLoop :=
  let run := (signAndWriteAll wake.env config).outcome loop.node.desk
  match run.1 with
  | .ok _ => (loop.signed run.2).act directory (.serve (.reload wake.env.os))
  | .error _ => (loop.signed run.2).tick

/-- A full pass takes a new baseline whether or not its production succeeded. -/
def scheduledPass (directory : RealPath) (config : SignerConfig) (wake : Wake)
    (loop : SignerLoop) : SignerLoop :=
  if config.ca.all (wake.isReady loop.node.system.world.calls) then
    rebaselineAll wake.env config (produceAll directory config wake loop)
  else loop

def wake (directory : RealPath) (config : SignerConfig) (loop : SignerLoop) (wake : Wake) :
    SignerLoop :=
  let elapsed := saturatingAddU64 loop.elapsedSinceFull config.pollInterval
  if config.minInterval ≤ elapsed then
    scheduledPass directory config wake { loop with elapsedSinceFull := 0 }
  else if config.anyUrgent then
    urgentRevocationPass directory config wake { loop with elapsedSinceFull := elapsed }
  else { loop with elapsedSinceFull := elapsed }

/-! ### Runs -/

def served (directory : RealPath) (config : SignerConfig) (wake : Wake) (node : Node) :
    SignerLoop :=
  act directory { node := node.after ((signAndWriteAll wake.env config).outcome node.desk).2 }
    (.serve (.start wake.env.os config.toConfig))

end SignerLoop

inductive LoopEvent where
  | wake (wake : Wake)
  | other (action : SignerAction)

def SignerLoop.step (directory : RealPath) (config : SignerConfig) (loop : SignerLoop) :
    LoopEvent → SignerLoop
  | .wake wake => loop.wake directory config wake
  | .other action => loop.act directory action

def SignerLoop.run (directory : RealPath) (config : SignerConfig) (loop : SignerLoop)
    (events : List LoopEvent) : SignerLoop :=
  events.foldl (SignerLoop.step directory config) loop

end Loop

end Hoike
