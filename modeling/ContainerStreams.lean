import ContainerStreams.Access.Mapping
import ContainerStreams.Access.Project
import ContainerStreams.Access.Queries
import ContainerStreams.Access.Resolve
import ContainerStreams.ControlPlane.Scripted
import ContainerStreams.Digest.Content
import ContainerStreams.Json.Parser
import ContainerStreams.Json.Printer
import ContainerStreams.Proofs.Access.Absence
import ContainerStreams.Proofs.Access.Cancellation
import ContainerStreams.Proofs.Access.Inheritance
import ContainerStreams.Proofs.Access.Provenance
import ContainerStreams.Proofs.Object.RoundTrip
import ContainerStreams.Proofs.Pullthrough.Reordering
import ContainerStreams.Proofs.Reference.Completion
import ContainerStreams.Proofs.Reference.Grammar
import ContainerStreams.Proofs.Reference.Hostname
import ContainerStreams.Proofs.Store.Recency
import ContainerStreams.Proofs.Access.Aftermath
import ContainerStreams.Proofs.Digest.Grammar
import ContainerStreams.Proofs.History.Abbreviation
import ContainerStreams.Proofs.History.Latest
import ContainerStreams.Proofs.Access.LimitRanges
