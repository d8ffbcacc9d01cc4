import Hoike.Library.Fallible
import Hoike.Library.Runs
import Hoike.Library.Watermark
import Hoike.Library.Round
import Hoike.Library.Latest
import Hoike.Library.Octets
import Hoike.Library.Sha256
import Hoike.Library.Cbor
import Hoike.Library.BinarySearch
import Hoike.Library.Overlay
import Hoike.Library.LinkedChain
import Hoike.Library.Calendar
import Hoike.Library.Decimal
import Hoike.Library.Scan
import Hoike.Library.Chunks
import Hoike.Library.DerInteger
import Hoike.Library.DerValue
import Hoike.Library.Since
import Hoike.Library.Sha1
import Hoike.Ahu.Error
import Hoike.Ahu.Manifest
import Hoike.Ahu.ManifestCodec
import Hoike.Ahu.Bundle
import Hoike.Ahu.Index
import Hoike.Ahu.Verify
import Hoike.Ahu.Seal
import Hoike.Ahu.Crates
import Hoike.Ahu.RoundTrip
import Hoike.Ahu.Anchors
import Hoike.Ahu.SealedContent
import Hoike.Ahu.RawIndex
import Hoike.Ahu.MmapBundle
import Hoike.Ahu.Determinism
import Hoike.Ahu.Builder
import Hoike.Ahu.LongSeals
import Hoike.Ahu.BuilderCalls
import Hoike.Ahu.PayloadRanges
import Hoike.Ahu.Oversized
import Hoike.Ahu.Ops
import Hoike.Ahu.Materialize
import Hoike.Ahu.DeltaFold
import Hoike.Ahu.Diff
import Hoike.Ahu.DeltaChain
import Hoike.Core.Storage
import Hoike.Core.Config
import Hoike.Core.SignerConfig
import Hoike.Core.Admission
import Hoike.Core.CompleteLookup
import Hoike.Core.MinorVersions
import Hoike.Core.ServingProfile
import Hoike.Core.State
import Hoike.Core.Router
import Hoike.Core.Lookup
import Hoike.Core.Provenance
import Hoike.Core.Install
import Hoike.Core.StoreSpec
import Hoike.Core.LoadSpec
import Hoike.Core.Routing
import Hoike.Core.Ledger
import Hoike.Core.Validation
import Hoike.Core.System
import Hoike.Core.AntiRollback
import Hoike.Core.NormalForm
import Hoike.Core.Continuity
import Hoike.Core.Reloadable
import Hoike.Core.CommittedRuns
import Hoike.Core.MaterializedInstall
import Hoike.Core.Atomicity
import Hoike.Core.Durability
import Hoike.Core.EpochBudget
import Hoike.Core.Isolation
import Hoike.Core.Confinement
import Hoike.Ocsp.Time
import Hoike.Ocsp.EpochTime
import Hoike.Ocsp.Messages
import Hoike.Ocsp.Crates
import Hoike.Core.Request
import Hoike.Sign.Source
import Hoike.Sign.DogtagEntry
import Hoike.Sign.CivilDates
import Hoike.Sign.DogtagSync
import Hoike.Sign.SyncReports
import Hoike.Sign.SyncContent
import Hoike.Sign.Live
import Hoike.Sign.Crl
import Hoike.Sign.Generate
import Hoike.Sign.Orchestrate
import Hoike.Sign.Production
import Hoike.Sign.Verifiable
import Hoike.Sign.ProducedWindow
import Hoike.Sign.Agreement
import Hoike.Sign.EntryFlags
import Hoike.Sign.Signings
import Hoike.Sign.EpochReuse
import Hoike.Sign.NextPass
import Hoike.Sign.SourceSerials
import Hoike.Sign.SerialText
import Hoike.Sign.EcdsaDer
import Hoike.Server.Handlers
import Hoike.Server.HttpDate
import Hoike.Server.Answers
import Hoike.Server.SignedUnknown
import Hoike.Server.KnownSerials
import Hoike.Server.Linearizable
import Hoike.Gossip.Authentication
import Hoike.Gossip.Broadcast
import Hoike.Gossip.Generations
import Hoike.Cli.SignerLoop
import Hoike.Cli.UrgentBaseline
