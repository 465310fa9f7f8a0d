import OrderRetrieval.Calendar.Duration
import OrderRetrieval.Order.Column
import OrderRetrieval.Proofs.Index.Lookup
import OrderRetrieval.Proofs.Order.Table
import OrderRetrieval.Service.Basic
import OrderRetrieval.Proofs.Indexing.Effect
import OrderRetrieval.Proofs.Indexing.Interleaving
import OrderRetrieval.Proofs.Indexing.Freshness
import OrderRetrieval.Proofs.Indexing.Convergence
import OrderRetrieval.Proofs.Service.Turns
import OrderRetrieval.Proofs.Indexing.Removal
import OrderRetrieval.Proofs.Document.Regular
import OrderRetrieval.Proofs.Sorting.Stable
import OrderRetrieval.Proofs.Sorting.Order
import OrderRetrieval.Proofs.Filter.Select
import OrderRetrieval.Proofs.Matching.Score
import OrderRetrieval.Proofs.Query.Meaning
import OrderRetrieval.Proofs.Engine.Meaning
import OrderRetrieval.Proofs.Engine.Consult
import OrderRetrieval.Proofs.Index.Log
import OrderRetrieval.Proofs.Sorting.Obstacle
import OrderRetrieval.Proofs.Datum.Canonical
import OrderRetrieval.Proofs.Engine.Validation
import OrderRetrieval.Proofs.Calendar.Day
import OrderRetrieval.Proofs.Filter.Verdict
import OrderRetrieval.Proofs.Engine.Answer
import OrderRetrieval.Proofs.Service.Rebuild
import OrderRetrieval.Proofs.Engine.Conjunction
import OrderRetrieval.Proofs.Engine.Pages
import OrderRetrieval.Proofs.Engine.Halt
import OrderRetrieval.Proofs.Engine.Rejection
import OrderRetrieval.Proofs.Order.Customer
import OrderRetrieval.Proofs.Facet.Count
import OrderRetrieval.Proofs.Engine.Drill
import OrderRetrieval.Proofs.Service.Bookkeeping
import OrderRetrieval.Proofs.Matching.EditDistance
import OrderRetrieval.Proofs.Engine.Unswayed
import OrderRetrieval.Proofs.Engine.Restamped
import OrderRetrieval.Proofs.Popularity.Ranking
import OrderRetrieval.Proofs.Text.LowerCase
import OrderRetrieval.Proofs.Matching.Highlight
import OrderRetrieval.Proofs.Filter.Address
import OrderRetrieval.Proofs.Document.Address
import OrderRetrieval.Proofs.Matching.Composition
import OrderRetrieval.Proofs.Matching.Threshold
import OrderRetrieval.Proofs.Text.Blank
import OrderRetrieval.Proofs.Matching.Contained
import OrderRetrieval.Proofs.Filter.Negation
import OrderRetrieval.Proofs.Calendar.Date
import OrderRetrieval.Proofs.Facet.Group
import OrderRetrieval.Proofs.Filter.SameDay
import OrderRetrieval.Proofs.Filter.AllOrNone
import OrderRetrieval.Proofs.Filter.Derived
import OrderRetrieval.Proofs.Filter.Classification
import OrderRetrieval.Proofs.Sorting.Iterated
import OrderRetrieval.Proofs.Facet.Exact
import OrderRetrieval.Proofs.Engine.Facets
import OrderRetrieval.Proofs.Number.Sum
import OrderRetrieval.Proofs.Facet.Partition
import OrderRetrieval.Proofs.Popularity.Trim
import OrderRetrieval.Proofs.Popularity.Bounded
import OrderRetrieval.Proofs.Popularity.Learning
import OrderRetrieval.Proofs.Number.Truncation
import OrderRetrieval.Proofs.Popularity.Limit
import OrderRetrieval.Proofs.Popularity.Completion
import OrderRetrieval.Proofs.Service.Orphans
import OrderRetrieval.Proofs.Service.OneOrder
import OrderRetrieval.Proofs.Order.ChangedSince
import OrderRetrieval.Proofs.Engine.Trace
import OrderRetrieval.Proofs.Sorting.Comparison
