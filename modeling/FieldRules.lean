import FieldRules.Files.Tree
import FieldRules.Main
import FieldRules.Output.Inspection
import FieldRules.Proofs.Declared
import FieldRules.Proofs.Divergence
import FieldRules.Proofs.Grouping
import FieldRules.Proofs.ReadBack
import FieldRules.Proofs.Verdict
import FieldRules.Rule.Decoding
import FieldRules.Proofs.Ascending
import FieldRules.Proofs.Building
import FieldRules.Proofs.Interchange
import FieldRules.Proofs.Numerals
import FieldRules.Proofs.Printing
import FieldRules.Proofs.Saved
import FieldRules.Proofs.Session
import FieldRules.Proofs.CamelCase
import FieldRules.Proofs.Rendered
import FieldRules.Proofs.FieldsApart
import FieldRules.Proofs.Registered
import FieldRules.Proofs.Configured
import FieldRules.Proofs.OneLine
import FieldRules.Proofs.Records
import FieldRules.Proofs.ByteOrder
import FieldRules.Proofs.Listed
import FieldRules.Proofs.Referenced
import FieldRules.Proofs.Vocabulary
import FieldRules.Proofs.Placed
import FieldRules.Proofs.Spared
import FieldRules.Proofs.Joined
import FieldRules.Proofs.Overwritten
import FieldRules.Proofs.Parted
import FieldRules.Proofs.Compiled
import FieldRules.Proofs.Grammar
import FieldRules.Proofs.WrittenBack
import FieldRules.Proofs.Dotted
import FieldRules.Proofs.Checked
import FieldRules.Proofs.Shown
import FieldRules.Proofs.Loaded
import FieldRules.Proofs.Underscores
import FieldRules.Proofs.Selected
import FieldRules.Proofs.Scalars
import FieldRules.Proofs.Integers
import FieldRules.Proofs.Numeric
import FieldRules.Proofs.Addresses
import FieldRules.Proofs.Colored
