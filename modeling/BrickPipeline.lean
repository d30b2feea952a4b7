import BrickPipeline.Main
import BrickPipeline.Proofs.Records
import BrickPipeline.Proofs.Plain
import BrickPipeline.Proofs.Failures
import BrickPipeline.Proofs.Alerts
import BrickPipeline.Proofs.Codec
import BrickPipeline.Proofs.Reading
import BrickPipeline.Proofs.Direct
import BrickPipeline.Proofs.InPlace
import BrickPipeline.Proofs.Lockstep
import BrickPipeline.Proofs.Concealment
import BrickPipeline.Proofs.Simulation
import BrickPipeline.Proofs.Secrets
import BrickPipeline.Proofs.Requests
import BrickPipeline.Proofs.ReservedKeys
import BrickPipeline.Proofs.FileLoading
import BrickPipeline.Proofs.LintSound
import BrickPipeline.Proofs.KeyOrder
import BrickPipeline.Proofs.RoundTrip
import BrickPipeline.Proofs.Inlining
import BrickPipeline.Proofs.Containment
import BrickPipeline.Proofs.Deployment
import BrickPipeline.Proofs.Depth
import BrickPipeline.Proofs.Capture
import BrickPipeline.Proofs.Unrolling
import BrickPipeline.Proofs.Skipping
import BrickPipeline.Proofs.Builder
import BrickPipeline.Proofs.Interpolation
import BrickPipeline.Proofs.PathGrammar
import BrickPipeline.Proofs.Redaction
import BrickPipeline.Proofs.PathIndices
import BrickPipeline.Proofs.PathMarkers
import BrickPipeline.Proofs.RenderModes
import BrickPipeline.Proofs.Demands
import BrickPipeline.Proofs.Validation
import BrickPipeline.Proofs.Attempts
import BrickPipeline.Proofs.Delays
import BrickPipeline.Proofs.Resolution
import BrickPipeline.Proofs.BarePaths
import BrickPipeline.Proofs.ServiceViews
import BrickPipeline.Proofs.SyntaxTree
import BrickPipeline.Proofs.Diagnostics
import BrickPipeline.Proofs.Traversals
import BrickPipeline.Proofs.Places
import BrickPipeline.Proofs.Structure
import BrickPipeline.Proofs.OutputKeys
import BrickPipeline.Proofs.Identifiers
import BrickPipeline.Proofs.LocatorHistory
import BrickPipeline.Proofs.ResolutionOrder
import BrickPipeline.Proofs.Refreshes
import BrickPipeline.Proofs.FileHistory
import BrickPipeline.Proofs.DuplicateKeys
