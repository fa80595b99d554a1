import CardSearch.FileSystem.Tree
import CardSearch.Main
import CardSearch.Proofs.Query.Lenient
import CardSearch.Proofs.Query.Strict
import CardSearch.Proofs.Query.Shape
import CardSearch.Proofs.Query.Content
import CardSearch.Proofs.Query.Written
import CardSearch.Proofs.Sorting.Preorder
import CardSearch.Proofs.Query.Opening
import CardSearch.Proofs.Query.Composition
import CardSearch.Proofs.Query.Disjunction
import CardSearch.Proofs.Search.Selection
import CardSearch.Proofs.Query.History
import CardSearch.Proofs.Search.Rows
import CardSearch.Proofs.Query.Flat
import CardSearch.Proofs.Registry.History
import CardSearch.Proofs.Sorting.Threshold
import CardSearch.Proofs.Search.Grouping
import CardSearch.Proofs.Search.Ties
import CardSearch.Proofs.CommandLine.Output
import CardSearch.Proofs.Search.Parts
import CardSearch.Proofs.Sorting.Arrangement
import CardSearch.Proofs.Search.Partition
import CardSearch.Proofs.Search.GroupKeys
import CardSearch.Proofs.Search.Operators
import CardSearch.Proofs.Search.Laws
import CardSearch.Proofs.Search.Refining
import CardSearch.Proofs.Query.Positions
import CardSearch.Proofs.Query.Repair
import CardSearch.Proofs.Query.Resolution
import CardSearch.Proofs.Query.Display
import CardSearch.Proofs.Registry.Takeovers
import CardSearch.Proofs.Text.Encoding
import CardSearch.Proofs.Database.Loading
import CardSearch.Proofs.CommandLine.FilterSpec
