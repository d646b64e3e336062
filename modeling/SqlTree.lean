import SqlTree.Analysis.Inference
import SqlTree.Analysis.Tables
import SqlTree.Node.Edit
import SqlTree.Node.Name
import SqlTree.Proofs.DecoderLogic
import SqlTree.Proofs.TableOrder
import SqlTree.Proofs.BuiltTrees
import SqlTree.Proofs.FaultOrder
import SqlTree.Proofs.QueryShape
import SqlTree.Proofs.BuiltFaults
import SqlTree.Proofs.DepthLimit
import SqlTree.Proofs.Levels
import SqlTree.Proofs.DecimalText
import SqlTree.Proofs.DoubleText
import SqlTree.Proofs.RecordContents
import SqlTree.Proofs.DecoderRuns
import SqlTree.Proofs.Encoding
import SqlTree.Proofs.Resemblance
import SqlTree.Proofs.Growth
import SqlTree.Proofs.Monotonicity
import SqlTree.Proofs.Rewriting
import SqlTree.Proofs.Reordering
import SqlTree.Proofs.Influence
import SqlTree.Proofs.Agreement
import SqlTree.Proofs.Questions
import SqlTree.Proofs.RawChanges
import SqlTree.Proofs.ListSpelling
import SqlTree.Proofs.UnreadFields
import SqlTree.Proofs.FieldSpelling
import SqlTree.Proofs.JsonNesting
import SqlTree.Proofs.ErrorOrigins
import SqlTree.Proofs.ShallowInput
import SqlTree.Proofs.RecordKinds
import SqlTree.Proofs.FieldFaults
import SqlTree.Proofs.Culprits
import SqlTree.Proofs.SetAlgebra
import SqlTree.Proofs.Operands
import SqlTree.Proofs.ResultsAndContents
import SqlTree.Proofs.DecodedFields
import SqlTree.Proofs.Mirroring
import SqlTree.Proofs.Provenance
import SqlTree.Proofs.RelationNames
import SqlTree.Proofs.StatementLists
import SqlTree.Proofs.EmptySlots
import SqlTree.Proofs.Positions
import SqlTree.Proofs.Ownership
