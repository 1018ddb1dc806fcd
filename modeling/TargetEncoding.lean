import TargetEncoding.Config.Json
import TargetEncoding.Domain.Json
import TargetEncoding.Encoder.ActionIndexer
import TargetEncoding.Interpreter.Words
import TargetEncoding.Json.Numeral.Lemmas
import TargetEncoding.Json.StringLiteral.Lemmas
import TargetEncoding.Proofs.Alignment
import TargetEncoding.Proofs.ForStd
import TargetEncoding.StateEncoder.Fallback
import TargetEncoding.TagTable.Json
import TargetEncoding.Target.Json
import TargetEncoding.TargetEncoder
import TargetEncoding.Proofs.BoundaryTag
import TargetEncoding.Proofs.TagTable
import TargetEncoding.Proofs.TaggingModes
import TargetEncoding.Proofs.BoundaryBlocks
import TargetEncoding.Proofs.EntityEncoding
import TargetEncoding.Proofs.Tokenization
import TargetEncoding.Proofs.Conflicts
import TargetEncoding.Proofs.ActionLabels
import TargetEncoding.Proofs.Setup
import TargetEncoding.Proofs.SparseMatrix
import TargetEncoding.Proofs.Batch
import TargetEncoding.Proofs.JsonRecord
import TargetEncoding.Proofs.TagTableExport
import TargetEncoding.Proofs.Inference
import TargetEncoding.Proofs.Vocabulary
import TargetEncoding.Proofs.Lifecycle
import TargetEncoding.Proofs.Readiness
import TargetEncoding.Proofs.JsonGrammar
import TargetEncoding.Proofs.JsonPresentation
import TargetEncoding.Proofs.InputTexts
import TargetEncoding.Proofs.MessageEdits
import TargetEncoding.Proofs.SharedCharacters
import TargetEncoding.Proofs.LabelSpace
import TargetEncoding.Proofs.Interpretation
import TargetEncoding.Proofs.BagOfWords
import TargetEncoding.Proofs.ActionEncoding
import TargetEncoding.Proofs.SymbolicActions
import TargetEncoding.Proofs.EntityOutcomes
import TargetEncoding.Proofs.ExampleOutcomes
import TargetEncoding.Proofs.DefaultInterpreter
import TargetEncoding.Proofs.WordSpans
import TargetEncoding.Proofs.IndependentMentions
import TargetEncoding.Proofs.PackedIds
import TargetEncoding.Proofs.ReadOutcomes
import TargetEncoding.Proofs.SpokenText
