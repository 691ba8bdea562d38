import FieldRules.Workspace
import FieldRules.Proofs.Store.Keys
import FieldRules.Proofs.Registry.Actions
import FieldRules.Proofs.Workspace.Steps
import FieldRules.Proofs.Workspace.Transparency
import FieldRules.Proofs.Workspace.Interference
import FieldRules.Proofs.OrderedMap.Traversal
import FieldRules.Proofs.Property.Definition
import FieldRules.Proofs.Rule.Evaluation
import FieldRules.Proofs.RuleTable.Fragments
import FieldRules.Proofs.RuleTable.Untyped
import FieldRules.Proofs.RuleTable.Omission
import FieldRules.Proofs.FailureReport.Joining
import FieldRules.Proofs.Contract.Checking
import FieldRules.Proofs.Registry.Checking
import FieldRules.Proofs.Registry.Gathering
import FieldRules.Proofs.Workspace.Gathering
import FieldRules.Proofs.SchemaDirectory.Loading
import FieldRules.Proofs.RuleTable.Agreement
import FieldRules.Proofs.Contract.Required
import FieldRules.Proofs.Registry.Unknown
import FieldRules.Proofs.Workspace.Registration
import FieldRules.Proofs.RuleTable.Negation
import FieldRules.Proofs.Binary64.Rounding
import FieldRules.Proofs.Binary64.Shortest
import FieldRules.Proofs.Json.Numbers
import FieldRules.Proofs.Clause.Parameter
import FieldRules.Proofs.Rule.Bounds
import FieldRules.Proofs.Workspace.Reordering
import FieldRules.Proofs.Registry.Calls
import FieldRules.Proofs.Workspace.Log
import FieldRules.Proofs.Rule.Pattern
import FieldRules.Proofs.Rule.Prefix
import FieldRules.Proofs.RuleTable.Decoding
import FieldRules.Proofs.Rule.Consistency
import FieldRules.Proofs.Rule.MissingType
import FieldRules.Proofs.Rule.Rendering
import FieldRules.Proofs.Contract.Records
import FieldRules.Proofs.RuleTable.Messages
import FieldRules.Proofs.Rule.Order
