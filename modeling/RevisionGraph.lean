import RevisionGraph.Main
import RevisionGraph.Proofs.Assembly.Order
import RevisionGraph.Proofs.Assembly.Outcome
import RevisionGraph.Proofs.Calls.Editing
import RevisionGraph.Proofs.Engine.Naming
import RevisionGraph.Proofs.Revision.Classification
import RevisionGraph.Proofs.Revision.Drafts
import RevisionGraph.Proofs.Revision.Faults
import RevisionGraph.Proofs.Revision.Methods
import RevisionGraph.Proofs.Files.Growth
import RevisionGraph.Proofs.Publisher.Message
import RevisionGraph.Proofs.Text.Lines
import RevisionGraph.Proofs.Worker.Publication
import RevisionGraph.Proofs.Assembly.Conservation
import RevisionGraph.Proofs.Worker.Accounting
import RevisionGraph.Proofs.Assembly.Batches
import RevisionGraph.Proofs.Assembly.Strictness
import RevisionGraph.Proofs.Worker.Standing
import RevisionGraph.Proofs.Revision.Resolution
import RevisionGraph.Proofs.Worker.Counters
import RevisionGraph.Proofs.Publisher.Sink
import RevisionGraph.Proofs.Maven.Repository
import RevisionGraph.Proofs.Assembly.Attempts
import RevisionGraph.Proofs.Execution.Tails
import RevisionGraph.Proofs.Publisher.Protocol
