import Astraea.Memory.ImageViewOrder
import Astraea.Loader.DynamicTagRepetition
import Astraea.Loader.DynamicTable
import Astraea.Loader.PublicSceLocalIds
import Astraea.Graphics.Rdna2Stream
import Astraea.Graphics.ShaderProgramExecution
import Astraea.Graphics.ShaderWaveBudget
import Astraea.Graphics.AgcShaderDecoding
import Astraea.Graphics.StreamComposition
import Astraea.Graphics.Gfx10SurfaceLayout
import Astraea.Graphics.SpirvProbeRefinement
import Astraea.Execution.RelativeApply
import Astraea.Execution.ReservationRanges
import Astraea.Execution.ImportPipeline
import Astraea.Execution.NamedImports
import Astraea.Trace.DiffMirror
import Astraea.Trace.GraphicsIdentity
import Astraea.Trace.TextValidation
import Astraea.Probe.AgcLinkShadersTail
import Astraea.Probe.HelloImage
import Astraea.Research.OwnedCpuEffectLedger
import Astraea.Research.BreakoutEntryRun
import Astraea.Research.OwnedGuestMemoryPublication
import Astraea.App.RetailDiagnostic
import Astraea.App.ManifestRefusals
import Astraea.Execution.SyntheticSession
import Astraea.Execution.ShaderOrigin
import Astraea.Execution.ModuleImports
import Astraea.Execution.Pm4WriteData
