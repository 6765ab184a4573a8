import Dxmt9.Admission.SessionAdmissionSafety
import Dxmt9.Completion.ReceiptHistory
import Dxmt9.Constants.CaptureRanges
import Dxmt9.Constants.FixedWidth
import Dxmt9.CpuReady.AggregateCapacity
import Dxmt9.CpuReady.ChunkPlanSound
import Dxmt9.DirectContinuation.CoverageExact
import Dxmt9.DirectSlot.CapacityRuns
import Dxmt9.DirectSource.LifecycleSafety
import Dxmt9.EncodePartition.IdentityResolution
import Dxmt9.EncodePartition.PartitionPlanSound
import Dxmt9.Framegraph.CoalesceIndependent
import Dxmt9.Framegraph.DefaultPlan
import Dxmt9.Framegraph.DeferredSuffixSound
import Dxmt9.Framegraph.ReplayMeaning
import Dxmt9.Framegraph.EliminationSound
import Dxmt9.Framegraph.ProtectedPasses
import Dxmt9.Framegraph.SeedExact
import Dxmt9.Provisioning.ProvisionSound
import Dxmt9.QueryScope.CommandPartition
import Dxmt9.QueryUpload.UploadRuns
import Dxmt9.Registry.IdentityExactness
import Dxmt9.ReplayOffload.DrainSoundness
import Dxmt9.ReplayOffload.QueueSafety
import Dxmt9.ReplayRollback.ReplayRuns
import Dxmt9.Retainer.WarmPins
import Dxmt9.Scratch.RingArena
import Dxmt9.SemanticBatch.BatchTheorems
import Dxmt9.SessionRelease.ClosedPrefixReuse
import Dxmt9.Shader.CallLabels
import Dxmt9.Shader.DecoderBoundaries
import Dxmt9.Shader.MatrixRows
import Dxmt9.SourcePayload.BindingAtomic
import Dxmt9.SourcePayload.CheckWraps
import Dxmt9.StateBlock.TransactionSafety
import Dxmt9.Surface.ClippedFill
import Dxmt9.Tape.ProducerIntervals
import Dxmt9.Tracing.BatchDelivery
import Dxmt9.Transient.ArenaRuns
import Dxmt9.Uniform.UploadCoverage
