import SpotForecast.Main
import SpotForecast.Tree.SingleFlight
import SpotForecast.Files.Tree
import SpotForecast.Proofs.Category.Identity
import SpotForecast.Proofs.History.Slot
import SpotForecast.Proofs.Pipeline.Safety
import SpotForecast.Proofs.Pipeline.Window
import SpotForecast.Proofs.Tree.SingleFlight
import SpotForecast.Proofs.Tree.Defects
import SpotForecast.Proofs.Grid.RowCount
import SpotForecast.Proofs.Tree.EmptySlots
import SpotForecast.Proofs.Pipeline.Outcome
import SpotForecast.Proofs.Pipeline.Span
import SpotForecast.Proofs.Feed.Composition
import SpotForecast.Proofs.Grid.Shadow
import SpotForecast.Proofs.Tree.PlainMap
import SpotForecast.Proofs.Commands.AllAtOnce
import SpotForecast.Proofs.Text.Runs
import SpotForecast.Proofs.Service.Gate
import SpotForecast.Proofs.Grid.Parts
import SpotForecast.Proofs.Grid.Loop
import SpotForecast.Proofs.Tree.Leaves
import SpotForecast.Proofs.Lags.Views
import SpotForecast.Proofs.Feed.Spacing
import SpotForecast.Proofs.Category.Order
import SpotForecast.Proofs.Calendar.Dates
import SpotForecast.Proofs.Decimal.Fixed
import SpotForecast.Proofs.Text.Fields
import SpotForecast.Proofs.Grid.Table
import SpotForecast.Proofs.Lags.Table
import SpotForecast.Proofs.Lags.Names
import SpotForecast.Proofs.Tree.Traversal
import SpotForecast.Proofs.Json.Strings
import SpotForecast.Proofs.Json.Tokens
import SpotForecast.Proofs.Json.RoundTrip
import SpotForecast.Proofs.Calendar.RoundTrip
import SpotForecast.Proofs.Pipeline.Reread
