import Cloak.Main
import Cloak.Proofs.Json.Codebook
import Cloak.Proofs.Renaming.Expansion
import Cloak.Proofs.Renaming.Independence
import Cloak.Proofs.Renaming.Restoration
import Cloak.Proofs.Renaming.Simultaneous
import Cloak.Proofs.Renaming.Statement
import Cloak.Proofs.Renaming.Survival
import Cloak.Proofs.Run.Refinement
import Cloak.Proofs.Symbol.Allotment
import Cloak.Proofs.Compaction.Words
import Cloak.Proofs.Path.SeededName
import Cloak.Proofs.Command.OutputName
import Cloak.Proofs.Command.Atomicity
import Cloak.Proofs.Renaming.Undoing
import Cloak.Proofs.Renaming.Freshness
import Cloak.Proofs.Harvest.Declaration
import Cloak.Proofs.Harvest.Declarator
import Cloak.Proofs.Harvest.Variable
import Cloak.Proofs.Harvest.DeclarationText
import Cloak.Proofs.Renaming.Directive
import Cloak.Proofs.Harvest.Definition
import Cloak.Proofs.Compaction.Layout
import Cloak.Proofs.Signature.ListingText
import Cloak.Proofs.Symbol.Classification
import Cloak.Proofs.Path.Padding
import Cloak.Proofs.Name.History
import Cloak.Proofs.Run.OutputFile
import Cloak.Proofs.Name.Candidate
import Cloak.Proofs.Renaming.Occurrence
import Cloak.Proofs.Seed.Answer
