import PipeQuery.Main
import PipeQuery.Source.Disturbed
import PipeQuery.Proofs.CacheCalls
import PipeQuery.Proofs.CacheBooks
import PipeQuery.Proofs.CacheSteps
import PipeQuery.Proofs.Leasing
import PipeQuery.Proofs.Ranks
import PipeQuery.Proofs.Matches
import PipeQuery.Proofs.HitStreams
import PipeQuery.Proofs.Merging
import PipeQuery.Proofs.Gathering
import PipeQuery.Proofs.Pages
import PipeQuery.Proofs.Pipelines
import PipeQuery.Proofs.Quoting
import PipeQuery.Proofs.Written
import PipeQuery.Proofs.FacetCounts
import PipeQuery.Proofs.RowStages
import PipeQuery.Proofs.PageTotals
import PipeQuery.Proofs.NumbersIn
import PipeQuery.Proofs.Tallies
import PipeQuery.Proofs.TimeSpans
import PipeQuery.Proofs.OrderFree
import PipeQuery.Proofs.Rounding
import PipeQuery.Proofs.Decimals
import PipeQuery.Proofs.ReadBack
import PipeQuery.Proofs.Evaluations
import PipeQuery.Proofs.FieldPages
import PipeQuery.Proofs.Building
import PipeQuery.Proofs.BuildFaults
import PipeQuery.Proofs.TimeLabels
import PipeQuery.Proofs.Steps
import PipeQuery.Proofs.Running
import PipeQuery.Proofs.Invariants
import PipeQuery.Proofs.LeaseBalance
import PipeQuery.Proofs.ForwardRuns
import PipeQuery.Proofs.Deliveries
import PipeQuery.Proofs.Interleavings
import PipeQuery.Proofs.Retries
import PipeQuery.Proofs.Asking
import PipeQuery.Proofs.StreamBooks
import PipeQuery.Proofs.StreamEnds
import PipeQuery.Proofs.Lookahead
import PipeQuery.Proofs.Measures
import PipeQuery.Proofs.Aggregates
import PipeQuery.Proofs.StatsColumns
import PipeQuery.Proofs.TableColumns
import PipeQuery.Proofs.Calendar
import PipeQuery.Proofs.SpanCounts
import PipeQuery.Proofs.LabelsRead
import PipeQuery.Proofs.MovedFilters
import PipeQuery.Proofs.ArgumentPlaces
import PipeQuery.Proofs.WholeWords
import PipeQuery.Proofs.Scores
import PipeQuery.Proofs.FilterWords
import PipeQuery.Proofs.QuotedValues
import PipeQuery.Proofs.NumbersShown
import PipeQuery.Proofs.Spellings
import PipeQuery.Proofs.FacetSums
import PipeQuery.Proofs.RangeLabels
import PipeQuery.Proofs.RangesApart
import PipeQuery.Proofs.Thousandths
import PipeQuery.Proofs.MillisKept
import PipeQuery.Proofs.NullEntries
import PipeQuery.Proofs.OpenQuotes
import PipeQuery.Proofs.Configurations
import PipeQuery.Proofs.TimeOrder
import PipeQuery.Proofs.PageCounts
