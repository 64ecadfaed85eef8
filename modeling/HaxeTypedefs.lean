import HaxeTypedefs.Main
import HaxeTypedefs.Pattern.Written
import HaxeTypedefs.Source.FileTree
import HaxeTypedefs.Proofs.Reading
import HaxeTypedefs.Proofs.Spelling
import HaxeTypedefs.Proofs.LeftmostFirst
import HaxeTypedefs.Proofs.Matches
import HaxeTypedefs.Proofs.Absence
import HaxeTypedefs.Proofs.Residue
import HaxeTypedefs.Proofs.Declaration
import HaxeTypedefs.Proofs.DeclarationLine
import HaxeTypedefs.Proofs.FieldLine
import HaxeTypedefs.Proofs.Line
import HaxeTypedefs.Proofs.LineEnding
import HaxeTypedefs.Proofs.Translation
import HaxeTypedefs.Proofs.Collapse
import HaxeTypedefs.Proofs.Supersession
import HaxeTypedefs.Proofs.SupersededUnion
import HaxeTypedefs.Proofs.Tally
import HaxeTypedefs.Proofs.Delimiters
import HaxeTypedefs.Proofs.Strictness
import HaxeTypedefs.Proofs.Provenance
import HaxeTypedefs.Proofs.PrimitiveType
import HaxeTypedefs.Proofs.Annotation
import HaxeTypedefs.Proofs.OptionalField
import HaxeTypedefs.Proofs.UnionScan
import HaxeTypedefs.Proofs.VarianceMark
import HaxeTypedefs.Proofs.Idempotence
import HaxeTypedefs.Proofs.Nesting
import HaxeTypedefs.Proofs.CommandItems
import HaxeTypedefs.Proofs.Exit
import HaxeTypedefs.Proofs.Insertion
import HaxeTypedefs.Proofs.WholeWord
import HaxeTypedefs.Proofs.IndentedLine
import HaxeTypedefs.Proofs.KindComment
import HaxeTypedefs.Proofs.Encoding
import HaxeTypedefs.Proofs.LocalCopy
import HaxeTypedefs.Proofs.BannerComment
