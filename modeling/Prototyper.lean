import Prototyper.Entry.Census
import Prototyper.Files.Tree
import Prototyper.Log.Filter
import Prototyper.Main
import Prototyper.Proofs.Declaration.Grammar
import Prototyper.Proofs.Declaration.Reading
import Prototyper.Proofs.Lookup
import Prototyper.Proofs.Reconstruction.Description
import Prototyper.Proofs.Resolution.Termination
import Prototyper.Proofs.Extraction.Footprint
import Prototyper.Proofs.Extraction.Isolation
import Prototyper.Proofs.Extraction.Completion
import Prototyper.Proofs.Extraction.Partition
import Prototyper.Proofs.Extraction.Repetition
import Prototyper.Proofs.Reconstruction.WellFormed
import Prototyper.Proofs.Decoding.Layout
import Prototyper.Proofs.Decoding.Units
import Prototyper.Proofs.Decoding.Flattening
import Prototyper.Proofs.Declaration.Nesting
import Prototyper.Proofs.Declaration.Prototype
import Prototyper.Proofs.Reconstruction.Absence
import Prototyper.Proofs.Entry.History
import Prototyper.Proofs.Reconstruction.Growth
import Prototyper.Proofs.Resolution.Defect
import Prototyper.Proofs.Decoding.Numbers
import Prototyper.Proofs.Reconstruction.Defect
import Prototyper.Proofs.Decoding.References
import Prototyper.Proofs.Reconstruction.Instance
import Prototyper.Proofs.Extraction.Naming
import Prototyper.Proofs.Reconstruction.Dangling
import Prototyper.Proofs.Declaration.Pointers
import Prototyper.Proofs.Declaration.Elements
import Prototyper.Proofs.Declaration.Spacing
import Prototyper.Proofs.Report.Printed
import Prototyper.Proofs.Report.Lossless
import Prototyper.Proofs.Settings.Stored
