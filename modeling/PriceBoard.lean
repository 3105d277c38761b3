import PriceBoard.Api
import PriceBoard.Pipeline
import PriceBoard.Proofs.Decimal.Digits
import PriceBoard.Proofs.Decimal.Value
import PriceBoard.Proofs.FixedPoint
import PriceBoard.Proofs.Outcome
import PriceBoard.Proofs.Provider.Boundary
import PriceBoard.Proofs.Updater.Cycle
import PriceBoard.Proofs.Pipeline.Run
import PriceBoard.Proofs.Board
import PriceBoard.Proofs.CoinInfo
import PriceBoard.Proofs.Quotation
import PriceBoard.Proofs.Source.Fiat
import PriceBoard.Proofs.Source.Market
import PriceBoard.Proofs.Provider.Table
import PriceBoard.Proofs.Pipeline.Upstream
import PriceBoard.Proofs.Pipeline.Keys
import PriceBoard.Proofs.Pipeline.Additivity
import PriceBoard.Proofs.Updater.History
import PriceBoard.Proofs.Updater.Iteration
import PriceBoard.Proofs.Updater.Rounds
import PriceBoard.Proofs.Dispatch.Figures
import PriceBoard.Proofs.Dispatch.Failure
import PriceBoard.Proofs.Pipeline.Answers
import PriceBoard.Proofs.Pipeline.Obtained
import PriceBoard.Proofs.Pipeline.Reachable
import PriceBoard.Proofs.Pipeline.Counts
import PriceBoard.Proofs.Pipeline.ReadBack
import PriceBoard.Proofs.Json.Literal
import PriceBoard.Proofs.Json.Exact
import PriceBoard.Proofs.Json.Script
import PriceBoard.Proofs.Json.Field
import PriceBoard.Proofs.Provider.Written
import PriceBoard.Proofs.Pipeline.Fidelity
import PriceBoard.Proofs.Pipeline.Positive
import PriceBoard.Proofs.Asset
import PriceBoard.Proofs.Text.Split
import PriceBoard.Proofs.Text.Upper
import PriceBoard.Proofs.Updater.Crew
import PriceBoard.Proofs.Pipeline.Requests
import PriceBoard.Proofs.Text.Encoding
import PriceBoard.Proofs.Json.Sent
import PriceBoard.Proofs.Api.Records
import PriceBoard.Proofs.Pipeline.Collisions
import PriceBoard.Proofs.FixedPoint.Order
import PriceBoard.Proofs.Dispatch.Shares
import PriceBoard.Proofs.Decimal.Rounding
import PriceBoard.Proofs.Decimal.Arithmetic
import PriceBoard.Proofs.Source.CrossRate
import PriceBoard.Proofs.Source.Pair
import PriceBoard.Proofs.Pipeline.Spacing
import PriceBoard.Proofs.Pipeline.Currencies
import PriceBoard.Proofs.Provider.Rows
import PriceBoard.Proofs.Provider.Number
import PriceBoard.Proofs.Pipeline.Coins
import PriceBoard.Proofs.Decimal.Order
import PriceBoard.Proofs.Source.CrossRate.Order
import PriceBoard.Proofs.Source.Registry
import PriceBoard.Proofs.Asset.Universe
import PriceBoard.Proofs.Settings
import PriceBoard.Proofs.Text.Spelling
import PriceBoard.Proofs.Dispatch.Printing
import PriceBoard.Proofs.Provider.Unicode
import PriceBoard.Proofs.Pipeline.Printing
