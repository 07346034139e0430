import OnfiFlash.Link.Scripted
import OnfiFlash.Main
import OnfiFlash.Proofs.ImageOutcome
import OnfiFlash.Proofs.ImageRoundTrip
import OnfiFlash.Proofs.WriteContainment
import OnfiFlash.Proofs.WriteTrace
import OnfiFlash.Proofs.ColumnReads
import OnfiFlash.Proofs.FlashArray
import OnfiFlash.Proofs.StoredContent
import OnfiFlash.Proofs.MidwayProtection
import OnfiFlash.Proofs.TransientFaults
import OnfiFlash.Proofs.BridgeTransparency
import OnfiFlash.Proofs.FlashPhysics
import OnfiFlash.Proofs.ResetIsolation
import OnfiFlash.Proofs.FailureEnds
import OnfiFlash.Proofs.RequestsInStep
import OnfiFlash.Proofs.WellAddressed
import OnfiFlash.Proofs.ScanExactness
import OnfiFlash.Proofs.CommandTraces
import OnfiFlash.Proofs.ImageContents
import OnfiFlash.Proofs.PageLoads
import OnfiFlash.Proofs.VerifiedProgram
import OnfiFlash.Proofs.BlockWriting
import OnfiFlash.Proofs.RetryPolicy
import OnfiFlash.Proofs.ArgumentChecks
import OnfiFlash.Proofs.EraseAccounting
import OnfiFlash.Proofs.BoundedWaits
import OnfiFlash.Proofs.EccNegotiation
import OnfiFlash.Proofs.OpeningOutcome
import OnfiFlash.Proofs.Numerals
import OnfiFlash.Proofs.NumberKeys
import OnfiFlash.Proofs.TransferLifetimes
import OnfiFlash.Proofs.WordArithmetic
import OnfiFlash.Proofs.BadBlockSet
import OnfiFlash.Proofs.BridgeStrings
import OnfiFlash.Proofs.FaultDuration
