import ShaderBuild.Files.Memory
import ShaderBuild.Include.Pattern.Reader
import ShaderBuild.Main
import ShaderBuild.Proofs.Acceptance
import ShaderBuild.Proofs.IncludeGraph
import ShaderBuild.Proofs.Soundness
import ShaderBuild.Proofs.Dependence
import ShaderBuild.Proofs.Buckets
import ShaderBuild.Proofs.DefineLines
import ShaderBuild.Proofs.Peeling
import ShaderBuild.Proofs.Reuse
import ShaderBuild.Proofs.Workspace
import ShaderBuild.Proofs.Distinct
import ShaderBuild.Proofs.Batch
import ShaderBuild.Proofs.Effects
import ShaderBuild.Proofs.Transcript
import ShaderBuild.Proofs.Provenance
import ShaderBuild.Proofs.ErrorLocation
import ShaderBuild.Proofs.Truncation
import ShaderBuild.Proofs.Locality
import ShaderBuild.Proofs.DepthLimit
import ShaderBuild.Proofs.Termination
import ShaderBuild.Proofs.Resumption
import ShaderBuild.Proofs.Registration
import ShaderBuild.Proofs.Spelling
import ShaderBuild.Proofs.Inert
import ShaderBuild.Proofs.SameLines
import ShaderBuild.Proofs.DirectiveWord
import ShaderBuild.Proofs.BuiltinNames
import ShaderBuild.Proofs.GivenDefines
import ShaderBuild.Proofs.KeyImage
import ShaderBuild.Proofs.Templates
import ShaderBuild.Proofs.WholeMatch
import ShaderBuild.Proofs.ArtifactPaths
import ShaderBuild.Proofs.DigestText
import ShaderBuild.Proofs.GeneratorOrder
import ShaderBuild.Proofs.CompileRun
