import WireSchema.Main
import WireSchema.Proofs.Names.Reports
import WireSchema.Proofs.Names.Declared
import WireSchema.Proofs.Reported.Lexical
import WireSchema.Proofs.Compiled.Rules
import WireSchema.Proofs.Compiled.Filtered
import WireSchema.Proofs.Compiled.Missing
import WireSchema.Proofs.Glob.Selection
import WireSchema.Proofs.Reported.LineEnds
import WireSchema.Proofs.Token.Finish
import WireSchema.Proofs.Grammar.Finish
import WireSchema.Proofs.Names.Indices
import WireSchema.Proofs.Permuted.Sources
import WireSchema.Proofs.Compiled.Kept
import WireSchema.Proofs.Token.Tiling
import WireSchema.Proofs.Reported.Docs
import WireSchema.Proofs.Displayed.RoundTrip
import WireSchema.Proofs.Token.Printed
import WireSchema.Proofs.Token.Permission
import WireSchema.Proofs.Literals.Tokens
import WireSchema.Proofs.Token.Limit
import WireSchema.Proofs.TagString.RoundTrip
import WireSchema.Proofs.Validity.Branches
import WireSchema.Proofs.Grammar.Skipping
import WireSchema.Proofs.Reported.Trailing
import WireSchema.Proofs.Names.Placeholders
import WireSchema.Proofs.Glob.Bracketed
import WireSchema.Proofs.Literals.ArraySizes
import WireSchema.Proofs.Json.Rendering
import WireSchema.Proofs.Compiled.Imports
import WireSchema.Proofs.Names.Runs
import WireSchema.Proofs.Text.FirstAtom
