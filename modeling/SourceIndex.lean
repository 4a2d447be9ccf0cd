import SourceIndex.Proofs.Chunk.Cuts
import SourceIndex.Proofs.Chunk.Records
import SourceIndex.Proofs.Chunk.Sweep
import SourceIndex.Proofs.Collection.LoadRuns
import SourceIndex.Proofs.Dataset.Damage
import SourceIndex.Proofs.Dataset.Listings
import SourceIndex.Proofs.Dataset.Order
import SourceIndex.Proofs.IndexRun.Conservation
import SourceIndex.Proofs.Stream.Accounts
import SourceIndex.Proofs.Text.Division
import SourceIndex.Proofs.Text.FileLines
import SourceIndex.Report
import SourceIndex.Settings.Load
import SourceIndex.Version
import SourceIndex.Proofs.Embedding.BatchRuns
import SourceIndex.Proofs.Embedding.Frame
import SourceIndex.Proofs.Walk.Pruning
import SourceIndex.Proofs.Collection.Fitting
import SourceIndex.Proofs.Collection.TextCells
import SourceIndex.Proofs.Dataset.Gathering
import SourceIndex.Proofs.Settings.Load
