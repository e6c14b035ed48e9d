import EntityQuery.ClassModel.Basic
import EntityQuery.ClassModel.Example
import EntityQuery.Collection.Kind
import EntityQuery.Collection.Role
import EntityQuery.Descriptor.Basic
import EntityQuery.Descriptor.Schema
import EntityQuery.Diagnostic.Basic
import EntityQuery.Diagnostic.Report
import EntityQuery.Event
import EntityQuery.Function.Dialect
import EntityQuery.Function.Signature
import EntityQuery.Function.Vocabulary
import EntityQuery.Lineage
import EntityQuery.Mapping
import EntityQuery.Member
import EntityQuery.Navigation.Segment
import EntityQuery.Navigation.Walk
import EntityQuery.Profile
import EntityQuery.Proofs.Moves
import EntityQuery.Proofs.Store
import EntityQuery.QueryType
import EntityQuery.Scalar
import EntityQuery.SchemaError
import EntityQuery.Session.Basic
import EntityQuery.Session.Request
import EntityQuery.Session.Step
import EntityQuery.Settings
import EntityQuery.Store.Basic
import EntityQuery.Store.Entity
import EntityQuery.Store.Lookup
import EntityQuery.Store.Role
import EntityQuery.Table
import EntityQuery.Text.Blank
import EntityQuery.Text.CaseData
import EntityQuery.Text.CharClass
import EntityQuery.Text.Cut
import EntityQuery.Text.Lowercase
import EntityQuery.Proofs.Edges
import EntityQuery.Proofs.Lookups
import EntityQuery.Proofs.Sessions
import EntityQuery.Proofs.Policy
import EntityQuery.Proofs.Lineage
import EntityQuery.Proofs.Provenance
import EntityQuery.Proofs.Fallback
import EntityQuery.Proofs.Transparency
import EntityQuery.Proofs.Permanence
import EntityQuery.Proofs.Roles
import EntityQuery.Proofs.Collections
import EntityQuery.Proofs.Elements
import EntityQuery.Proofs.Agreement
import EntityQuery.Proofs.Warnings
import EntityQuery.Proofs.DeclaredPaths
import EntityQuery.Proofs.FirstFailure
import EntityQuery.Proofs.PropertyAnswers
import EntityQuery.Proofs.Composition
import EntityQuery.Proofs.MemberPaths
import EntityQuery.Proofs.Catalogue
import EntityQuery.Proofs.Positions
import EntityQuery.Proofs.NearestDeclaration
import EntityQuery.Proofs.SubclassOrder
import EntityQuery.Proofs.Inheritance
import EntityQuery.Proofs.Arity
import EntityQuery.Proofs.Instantiation
import EntityQuery.Proofs.LastWriter
import EntityQuery.Proofs.Relocation
import EntityQuery.Proofs.Whitelist
import EntityQuery.Proofs.Components
import EntityQuery.Proofs.Reports
import EntityQuery.Proofs.Segments
import EntityQuery.Proofs.TypeNames
import EntityQuery.Proofs.Spellings
