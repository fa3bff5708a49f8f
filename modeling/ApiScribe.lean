import ApiScribe.Main
import ApiScribe.OpenApi.Read
import ApiScribe.Proofs.Builder.Places
import ApiScribe.Proofs.Builder.Rules
import ApiScribe.Proofs.Builder.Coherence
import ApiScribe.Proofs.Builder.Scope
import ApiScribe.Proofs.Builder.Transport
import ApiScribe.Proofs.Builder.Atomicity
import ApiScribe.Proofs.Overlay
import ApiScribe.Proofs.Builder.Contribution
import ApiScribe.Proofs.Builder.Arguments
import ApiScribe.Proofs.Soundness
import ApiScribe.Proofs.Builder.Soundness
import ApiScribe.Proofs.Builder.Flattening
import ApiScribe.Proofs.Json.Value
import ApiScribe.Proofs.Json.Lexing
import ApiScribe.Proofs.Json.Parsing
import ApiScribe.Proofs.Json.Reading
import ApiScribe.Proofs.Regularity
import ApiScribe.Proofs.Linking
import ApiScribe.Proofs.RoundTrip
import ApiScribe.Proofs.NormalForm
import ApiScribe.Proofs.Builder.Regularity
import ApiScribe.Proofs.Annotation.Splitting
import ApiScribe.Proofs.Builder.Phrases
import ApiScribe.Proofs.Json.OneLine
import ApiScribe.Proofs.Builder.Description
import ApiScribe.Proofs.Builder.Conveying
import ApiScribe.Proofs.Builder.Rebuilding
import ApiScribe.Proofs.Annotation.Rendering
import ApiScribe.Proofs.Builder.Confinement
import ApiScribe.Proofs.Builder.Independence
import ApiScribe.Proofs.Project.Places
import ApiScribe.Proofs.Project.Writing
import ApiScribe.Proofs.Project.Pruning
import ApiScribe.Proofs.Cli.Run
import ApiScribe.Proofs.Json.Positions
import ApiScribe.Proofs.Expansion
import ApiScribe.Proofs.Json.Scanning
import ApiScribe.Proofs.Json.Spelling
import ApiScribe.Proofs.Json.Acceptance
import ApiScribe.Proofs.Builder.Schemas
import ApiScribe.Proofs.Builder.Embedding
import ApiScribe.Proofs.Annotation.Records
import ApiScribe.Proofs.Builder.Forms
import ApiScribe.Proofs.Builder.Alterations
import ApiScribe.Proofs.Builder.Attachment
import ApiScribe.Proofs.Builder.ComponentIds
import ApiScribe.Proofs.Builder.Exchange
import ApiScribe.Proofs.Json.Pointer
import ApiScribe.Proofs.Locating
import ApiScribe.Proofs.Builder.References
import ApiScribe.Proofs.PathCalls
import ApiScribe.Proofs.Project.Scanning
import ApiScribe.Proofs.Builder.Separation
