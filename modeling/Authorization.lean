import Authorization.Administration.Call
import Authorization.Administration.Cleaning
import Authorization.Administration.Policies
import Authorization.Administration.Roles
import Authorization.Chain
import Authorization.Decision.Access
import Authorization.Encoding.Escaped
import Authorization.Encoding.Page.Table
import Authorization.Encoding.Reader
import Authorization.Encoding.Unit
import Authorization.Error.Basic
import Authorization.Error.Record
import Authorization.Error.Rule
import Authorization.Journal
import Authorization.Key
import Authorization.Keyed
import Authorization.Number.Binary
import Authorization.Number.Complex
import Authorization.Number.Decimal
import Authorization.Number.Reading
import Authorization.Procedure.Administration
import Authorization.Procedure.Basic
import Authorization.Procedure.Listing
import Authorization.Proofs.Administration.Acceptance
import Authorization.Proofs.Administration.Appending
import Authorization.Proofs.Administration.Atomicity
import Authorization.Proofs.Administration.Clones
import Authorization.Proofs.Administration.Copies
import Authorization.Proofs.Administration.Duplicates
import Authorization.Proofs.Administration.Effects
import Authorization.Proofs.Administration.Failure
import Authorization.Proofs.Administration.Heedless
import Authorization.Proofs.Administration.Interchange
import Authorization.Proofs.Administration.Orders
import Authorization.Proofs.Administration.PolicyEffects
import Authorization.Proofs.Administration.RoleEffects
import Authorization.Proofs.Administration.Roles
import Authorization.Proofs.Administration.Touches
import Authorization.Proofs.Administration.Upkeep
import Authorization.Proofs.Administration.Verdicts
import Authorization.Proofs.Decision.Audit
import Authorization.Proofs.Decision.Bench
import Authorization.Proofs.Decision.Chain
import Authorization.Proofs.Decision.Consultation
import Authorization.Proofs.Decision.Gate
import Authorization.Proofs.Decision.Grants
import Authorization.Proofs.Decision.Question
import Authorization.Proofs.Decision.Steady
import Authorization.Proofs.Decision.Twins
import Authorization.Proofs.Disclosure.Arithmetic
import Authorization.Proofs.Disclosure.Element
import Authorization.Proofs.Disclosure.Equality
import Authorization.Proofs.Disclosure.Function
import Authorization.Proofs.Disclosure.Iteration
import Authorization.Proofs.Disclosure.Method
import Authorization.Proofs.Disclosure.Operation
import Authorization.Proofs.Disclosure.Rule
import Authorization.Proofs.Disclosure.Script
import Authorization.Proofs.Disclosure.Value
import Authorization.Proofs.Disclosure.Written
import Authorization.Proofs.Double
import Authorization.Proofs.Key
import Authorization.Proofs.Keyed
import Authorization.Proofs.Number
import Authorization.Proofs.Procedure.Upkeep
import Authorization.Proofs.Record
import Authorization.Proofs.Registry.Agreement
import Authorization.Proofs.Result
import Authorization.Proofs.Rule.Comparison
import Authorization.Proofs.Rule.Failure
import Authorization.Proofs.Rule.Making
import Authorization.Proofs.Rule.Path
import Authorization.Proofs.Script.Acceptance
import Authorization.Proofs.Script.Conjunction
import Authorization.Proofs.Script.Faults
import Authorization.Proofs.Script.Integers
import Authorization.Proofs.Script.Jumps
import Authorization.Proofs.Script.Keeping
import Authorization.Proofs.Script.Lengths
import Authorization.Proofs.Script.Limits
import Authorization.Proofs.Script.Locality
import Authorization.Proofs.Script.LooseControl
import Authorization.Proofs.Script.Names
import Authorization.Proofs.Script.Parts
import Authorization.Proofs.Script.Produced
import Authorization.Proofs.Script.Progress
import Authorization.Proofs.Script.Results
import Authorization.Proofs.Script.Run
import Authorization.Proofs.Script.Simulation
import Authorization.Proofs.Script.Unrolling
import Authorization.Proofs.Service.Heedless
import Authorization.Proofs.Service.Keeps
import Authorization.Proofs.Service.Run
import Authorization.Proofs.Settings
import Authorization.Proofs.Store.Administered
import Authorization.Proofs.Store.Assignments
import Authorization.Proofs.Store.Catalog
import Authorization.Proofs.Store.Document
import Authorization.Proofs.Store.Interchange
import Authorization.Proofs.Store.Memory
import Authorization.Proofs.Store.Numbering
import Authorization.Proofs.Store.Order
import Authorization.Proofs.Store.Plain
import Authorization.Proofs.Store.Policy
import Authorization.Proofs.Store.Role
import Authorization.Proofs.Store.Saving
import Authorization.Proofs.Store.Workable
import Authorization.Proofs.System.Assignments
import Authorization.Proofs.System.Catalog
import Authorization.Proofs.System.Interchange
import Authorization.Proofs.System.Keys
import Authorization.Proofs.System.Listing
import Authorization.Proofs.System.Orderly
import Authorization.Proofs.System.Rebuilding
import Authorization.Proofs.System.RoleInterchange
import Authorization.Proofs.System.Roles
import Authorization.Proofs.System.SavedRoles
import Authorization.Proofs.System.Sealed
import Authorization.Proofs.System.Session
import Authorization.Proofs.System.Slugs
import Authorization.Proofs.System.Storing
import Authorization.Proofs.System.Upkeep
import Authorization.Proofs.Tenancy.Confidentiality
import Authorization.Proofs.Tenancy.Finding
import Authorization.Proofs.Tenancy.Integrity
import Authorization.Proofs.Tenancy.Policies
import Authorization.Proofs.Tenancy.PolicyAdministration
import Authorization.Proofs.Tenancy.RoleAdministration
import Authorization.Proofs.Tenancy.Roles
import Authorization.Proofs.Tenancy.Stores
import Authorization.Proofs.Tenancy.Systems
import Authorization.Proofs.Text.Case
import Authorization.Proofs.Text.Uuid
import Authorization.Proofs.Value
import Authorization.Record.Arguments
import Authorization.Record.Entry
import Authorization.Record.Make
import Authorization.Record.Policy
import Authorization.Record.Principal
import Authorization.Record.Role
import Authorization.Registry.Basic
import Authorization.Rule.Basic
import Authorization.Rule.Catalog
import Authorization.Script.Acceptance
import Authorization.Script.Evaluation
import Authorization.Script.Function
import Authorization.Script.Grammar.Basic
import Authorization.Script.Grammar.Expression
import Authorization.Script.Grammar.Pattern
import Authorization.Script.Grammar.Statement
import Authorization.Script.Limits
import Authorization.Script.Method
import Authorization.Script.Run
import Authorization.Script.Syntax
import Authorization.Script.Token
import Authorization.Script.Token.Literal
import Authorization.Script.Token.Scan
import Authorization.Settings
import Authorization.Store.Column
import Authorization.Store.Policy
import Authorization.Store.Role
import Authorization.System.Assembly
import Authorization.System.Basic
import Authorization.System.Change
import Authorization.System.Stores
import Authorization.Text.Basic
import Authorization.Text.Case
import Authorization.Text.Case.Table
import Authorization.Text.Digit
import Authorization.Text.Letter
import Authorization.Text.Naming
import Authorization.Text.Normal
import Authorization.Text.Quoted
import Authorization.Text.Uuid
import Authorization.Time.Instant
import Authorization.Time.Iso
import Authorization.Value.Arithmetic
import Authorization.Value.Attribute
import Authorization.Value.Basic
import Authorization.Value.Cursor
import Authorization.Value.Element
import Authorization.Value.Equality
import Authorization.Value.Order
import Authorization.Value.Written
