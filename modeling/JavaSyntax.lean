import JavaSyntax.Raw.Rows
import JavaSyntax.Tree.Outline
import JavaSyntax.Tree.Form
import JavaSyntax.Tree.Part
import JavaSyntax.Tree.Location
import JavaSyntax.Tree.Equality
import JavaSyntax.Builder
import JavaSyntax.Serial.Coded
import JavaSyntax.Proofs.Build.Refusal
import JavaSyntax.Proofs.Build.Height
import JavaSyntax.Proofs.Build.Extent
import JavaSyntax.Proofs.Build.Location
import JavaSyntax.Proofs.Build.Session
import JavaSyntax.Proofs.Build.Unit
import JavaSyntax.Proofs.Build.Operator
import JavaSyntax.Proofs.Build.Order
import JavaSyntax.Proofs.Build.Comment
import JavaSyntax.Proofs.Build.Role
import JavaSyntax.Proofs.Build.Snippet
import JavaSyntax.Proofs.Tree.WellFormed
import JavaSyntax.Proofs.Tree.Kind
import JavaSyntax.Proofs.Raw.Outermost
import JavaSyntax.Proofs.Tree.Skeleton
import JavaSyntax.Proofs.Build.Outline
import JavaSyntax.Proofs.Lowering.SolePlace
import JavaSyntax.Proofs.Lowering.Rank
import JavaSyntax.Proofs.Lowering.Variables
import JavaSyntax.Proofs.Lowering.Switch
import JavaSyntax.Proofs.Lowering.DottedName
import JavaSyntax.Proofs.Lowering.Agreement
import JavaSyntax.Proofs.Build.Completion
import JavaSyntax.Proofs.Lowering.Members
