import MiniLlm.FlatMemory
import MiniLlm.FreeStack
import MiniLlm.Request
import MiniLlm.BlockManager
import MiniLlm.RealKvAllocator
import MiniLlm.AllocatorCalls
import MiniLlm.SwapOutCalls
import MiniLlm.SwapInCalls
import MiniLlm.StagedScatter
import MiniLlm.KvAddress
import MiniLlm.SwapLayout
import MiniLlm.SwapRoundTrip
import MiniLlm.SwapHistory
import MiniLlm.Scheduler
import MiniLlm.SchedulerLoops
import MiniLlm.PhaseRecords
import MiniLlm.SchedulerSteps
import MiniLlm.SchedulerBoard
import MiniLlm.QuietPhases
import MiniLlm.MockRuntime
import MiniLlm.ResponseStream
import MiniLlm.Determined
import MiniLlm.OutputRuns
import MiniLlm.Ownership
import MiniLlm.Placement
import MiniLlm.SchedulerInvariant
import MiniLlm.RangedSwaps
import MiniLlm.ExclusiveBlocks
import MiniLlm.Gpt2Model
import MiniLlm.BatchSizes
import MiniLlm.StagingBuffers
import MiniLlm.Gpt2Backend
import MiniLlm.CacheLength
import MiniLlm.QueuePlaces
import MiniLlm.AppendKv
import MiniLlm.PagedRun
import MiniLlm.RowSlots
import MiniLlm.PagedReads
import MiniLlm.PagedCache
import MiniLlm.RequestLine
import MiniLlm.Server
import MiniLlm.EventLoop
import MiniLlm.SchedulerThread
import MiniLlm.ResponseAsync
import MiniLlm.Connections
import MiniLlm.Routing
import MiniLlm.TokenBudget
import MiniLlm.CachedCounts
import MiniLlm.TableBounds
import MiniLlm.Serviceable
import MiniLlm.SwapInRoom
import MiniLlm.Starvation
import MiniLlm.VictimRoom
import MiniLlm.SwapCycle
import MiniLlm.FirstCome
import MiniLlm.OnlineSoftmax
import MiniLlm.BlockReduction
import MiniLlm.FlashAttention
import MiniLlm.FlashExact
import MiniLlm.CausalAttention
import MiniLlm.PagedAttention
import MiniLlm.DecodeAgrees
import MiniLlm.RowBuffers
import MiniLlm.ForwardPass
import MiniLlm.ForwardRows
import MiniLlm.PrefillRows
import MiniLlm.DecodeRows
import MiniLlm.FlashRows
import MiniLlm.Batching
import MiniLlm.LoadedWeights
import MiniLlm.ProbeWeights
import MiniLlm.PrefixCache
import MiniLlm.RequestGrammar
import MiniLlm.ReadDelivery
import MiniLlm.WritePump
import MiniLlm.GreedySelection
import MiniLlm.FailedCalls
import MiniLlm.AdmissionGate
import MiniLlm.DecodePass
import MiniLlm.GlobalStall
import MiniLlm.KernelLaunch
import MiniLlm.TiledGrid
import MiniLlm.GemmKernels
import MiniLlm.GemmTiles
import MiniLlm.GemmDispatch
import MiniLlm.StreamOrder
import MiniLlm.GemmBackends
import MiniLlm.BackendRuns
import MiniLlm.InterchangeableGemm
import MiniLlm.ConditionVariable
import MiniLlm.MutexQueue
import MiniLlm.TokenText
import MiniLlm.BlockVectors
import MiniLlm.ManagerVectors
import MiniLlm.BarrierInterval
import MiniLlm.BlockSchedules
import MiniLlm.RowReduction
import MiniLlm.LayernormKernel
import MiniLlm.CausalLayers
import MiniLlm.ReferenceModel
import MiniLlm.PassReference
import MiniLlm.DecodeReference
import MiniLlm.CachedBoard
import MiniLlm.GreedyServing
import MiniLlm.Capacity
import MiniLlm.BodyTokens
import MiniLlm.BoundedService
import MiniLlm.Quiescence
import MiniLlm.ClientTranscript
import MiniLlm.ClientService
import MiniLlm.DeviceGemm
import MiniLlm.DeviceKernels
import MiniLlm.DeviceRows
import MiniLlm.DevicePass
import MiniLlm.BackendAgreement
import MiniLlm.DeviceServing
import MiniLlm.FailedWrites
import MiniLlm.WeightFiles
import MiniLlm.CheckpointModel
import MiniLlm.AttentionAccess
import MiniLlm.ResidualFusion
