import EntitySearch.Text.Blank
import EntitySearch.Text.Folding
import EntitySearch.Text.Lowercase
import EntitySearch.InsertionMap
import EntitySearch.Key
import EntitySearch.Criterion
import EntitySearch.Wildcard
import EntitySearch.Number.Decimal
import EntitySearch.Time.Timestamp
import EntitySearch.Time.Period
import EntitySearch.Query
import EntitySearch.Collection
import EntitySearch.Json.Reader
import EntitySearch.Json.Printer
import EntitySearch.Value.Json
import EntitySearch.Settings
import EntitySearch.User
import EntitySearch.Tag
import EntitySearch.Post
import EntitySearch.Config.Text
import EntitySearch.Request
import EntitySearch.Proofs.Comparison
import EntitySearch.Proofs.History
import EntitySearch.Proofs.Listing
import EntitySearch.Proofs.Search
import EntitySearch.Proofs.Escape
import EntitySearch.Proofs.Paging
import EntitySearch.Proofs.Query
import EntitySearch.Proofs.Wildcard
import EntitySearch.Proofs.Literal
import EntitySearch.Proofs.SortToken
import EntitySearch.Proofs.Narrowing
import EntitySearch.Proofs.Composition
import EntitySearch.Proofs.Wording
import EntitySearch.Proofs.Calendar
import EntitySearch.Proofs.Period
import EntitySearch.Proofs.DateCriterion
import EntitySearch.Proofs.Exchange
import EntitySearch.Proofs.Ratio
import EntitySearch.Proofs.Settings
import EntitySearch.Proofs.SettingsEdit
import EntitySearch.Proofs.Resolution
import EntitySearch.Proofs.PageSizes
import EntitySearch.Proofs.OrderText
import EntitySearch.Proofs.TextFault
import EntitySearch.Proofs.UserHistory
import EntitySearch.Proofs.Lookup
import EntitySearch.Proofs.Backslash
import EntitySearch.Proofs.PatternText
import EntitySearch.Proofs.Widening
import EntitySearch.Proofs.WrittenYear
import EntitySearch.Proofs.Succession
import EntitySearch.Proofs.DateReading
import EntitySearch.Proofs.Tiling
import EntitySearch.Proofs.Precedence
import EntitySearch.Proofs.StableSort
import EntitySearch.Proofs.OwnKind
import EntitySearch.Proofs.Mark
import EntitySearch.Proofs.CriterionText
import EntitySearch.Proofs.Alternatives
import EntitySearch.Proofs.IntegerCriterion
import EntitySearch.Proofs.NumericOrder
import EntitySearch.Proofs.FloatCriterion
import EntitySearch.Proofs.Trimming
import EntitySearch.Proofs.Merging
import EntitySearch.Proofs.OrderRoundTrip
import EntitySearch.Proofs.OrderBuilding
import EntitySearch.Proofs.SettingsInPlace
import EntitySearch.Proofs.SingleText
import EntitySearch.Proofs.OrderSpacing
import EntitySearch.Proofs.WindowWords
import EntitySearch.Proofs.EscapedValue
import EntitySearch.Proofs.JsonText
import EntitySearch.Proofs.ValueJson
import EntitySearch.Proofs.ValueBlanks
import EntitySearch.Proofs.MarkOffset
