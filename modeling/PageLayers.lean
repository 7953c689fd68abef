import PageLayers.Calendar.Date
import PageLayers.Calendar.IsoText
import PageLayers.Collection.Document
import PageLayers.Collection.FieldType
import PageLayers.Collection.Given
import PageLayers.Collection.Item
import PageLayers.Collection.Order
import PageLayers.Collection.References
import PageLayers.Collection.Sorting
import PageLayers.Document.Fault
import PageLayers.Document.Record
import PageLayers.Document.Scalar
import PageLayers.Document.WholeText
import PageLayers.Entries
import PageLayers.Failure
import PageLayers.Json.Basic
import PageLayers.Json.Display
import PageLayers.Json.Printer
import PageLayers.Json.Reader
import PageLayers.Json.Stored
import PageLayers.Layer.Basic
import PageLayers.Layer.Components
import PageLayers.Layer.Depth
import PageLayers.Layer.Document
import PageLayers.Layer.Given
import PageLayers.Layer.Ids
import PageLayers.Layer.Injection
import PageLayers.Layer.Placeholder
import PageLayers.Layer.Slot
import PageLayers.Layer.Token
import PageLayers.Number.Binary64
import PageLayers.Number.Reading
import PageLayers.Number.Shortest
import PageLayers.Page
import PageLayers.Pagination.Basic
import PageLayers.Pagination.Controls
import PageLayers.Pagination.Document
import PageLayers.Pagination.Query
import PageLayers.Pass
import PageLayers.Proofs.Bindings
import PageLayers.Proofs.Injection
import PageLayers.Proofs.Outcome
import PageLayers.Proofs.Selection
import PageLayers.Proofs.Variants
import PageLayers.Resolution.Binding
import PageLayers.Resolution.Collections
import PageLayers.Resolution.GivenReferences
import PageLayers.Resolution.Outcome
import PageLayers.Resolution.References
import PageLayers.Resolution.Visible
import PageLayers.Session
import PageLayers.Settings
import PageLayers.Store.Faults
import PageLayers.Store.Query
import PageLayers.Store.Repository
import PageLayers.Text.Base
import PageLayers.Text.BaseTable
import PageLayers.Text.Blank
import PageLayers.Text.Case
import PageLayers.Text.CaseTable
import PageLayers.Text.Digit
import PageLayers.Text.Pieces
import PageLayers.Text.Printable
import PageLayers.Text.Range
import PageLayers.Visibility.Condition
import PageLayers.Visibility.Document
import PageLayers.Visibility.Evaluation
import PageLayers.Proofs.Expansion
import PageLayers.Proofs.Scope
import PageLayers.Proofs.Failures
import PageLayers.Proofs.Journal
import PageLayers.Proofs.ReferenceWalk
import PageLayers.Proofs.ReferenceValues
import PageLayers.Proofs.ReferenceBounds
import PageLayers.Proofs.ReferenceCoverage
import PageLayers.Proofs.InjectionOrder
import PageLayers.Proofs.VisibleLineages
import PageLayers.Proofs.Multiplicity
import PageLayers.Proofs.StoredItems
import PageLayers.Proofs.RepositoryHistory
import PageLayers.Proofs.Fragments
import PageLayers.Proofs.Addresses
import PageLayers.Proofs.PageAddresses
import PageLayers.Proofs.Ids
import PageLayers.Proofs.ComponentCycles
import PageLayers.Proofs.StageFailures
import PageLayers.Proofs.PageFailures
import PageLayers.Proofs.PagePasses
import PageLayers.Proofs.FragmentWalk
import PageLayers.Proofs.SecondResolution
import PageLayers.Proofs.Pages
import PageLayers.Proofs.StableSort
import PageLayers.Proofs.FieldOrder
import PageLayers.Proofs.PageOrder
import PageLayers.Proofs.PageCount
import PageLayers.Proofs.PageTotals
import PageLayers.Proofs.ComponentChains
import PageLayers.Proofs.ComponentTrees
import PageLayers.Proofs.ReferenceLists
import PageLayers.Proofs.DocumentFields
import PageLayers.Proofs.LayerDocuments
import PageLayers.Proofs.ReferenceFaults
import PageLayers.Proofs.Unconditional
import PageLayers.Proofs.Survivors
import PageLayers.Proofs.Copies
import PageLayers.Proofs.Room
import PageLayers.Proofs.ListVisibility
import PageLayers.Proofs.ItemOrder
import PageLayers.Proofs.InjectionBorder
import PageLayers.Proofs.Rounding
import PageLayers.Proofs.ShortestDecimal
import PageLayers.Proofs.NumberText
import PageLayers.Proofs.Entries
import PageLayers.Proofs.JsonText
import PageLayers.Proofs.Pieces
import PageLayers.Proofs.InlineTokens
import PageLayers.Proofs.PaginationControls
import PageLayers.Proofs.BuiltControls
import PageLayers.Proofs.Operators
import PageLayers.Proofs.Containment
import PageLayers.Proofs.PageParameters
import PageLayers.Proofs.StaticWindow
import PageLayers.Proofs.ExactPageCount
import PageLayers.Proofs.TokenRemoval
import PageLayers.Proofs.Placeholders
import PageLayers.Proofs.SlugIndex
