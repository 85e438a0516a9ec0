import FeeMarket.Chain.Change
import FeeMarket.Chain.Envelope
import FeeMarket.Chain.Growth
import FeeMarket.Chain.Scripted
import FeeMarket.Http
import FeeMarket.Main
import FeeMarket.Program
import FeeMarket.Proofs.Alike
import FeeMarket.Proofs.Chain.Agreement
import FeeMarket.Proofs.Chain.Changes
import FeeMarket.Proofs.Chain.Completeness
import FeeMarket.Proofs.Chain.Conversion
import FeeMarket.Proofs.Chain.Pending
import FeeMarket.Proofs.Chain.Rewinding
import FeeMarket.Proofs.Chain.Serving
import FeeMarket.Proofs.DataModel
import FeeMarket.Proofs.Extent
import FeeMarket.Proofs.Faultless
import FeeMarket.Proofs.FeeDecay
import FeeMarket.Proofs.FeeExactness
import FeeMarket.Proofs.FeeOrder
import FeeMarket.Proofs.FeeSources
import FeeMarket.Proofs.GasLimit
import FeeMarket.Proofs.Json.Leaf
import FeeMarket.Proofs.Json.Text
import FeeMarket.Proofs.Numeral
import FeeMarket.Proofs.Percentile
import FeeMarket.Proofs.Projection
import FeeMarket.Proofs.Quantile
import FeeMarket.Proofs.Refusal
import FeeMarket.Proofs.Reward
import FeeMarket.Proofs.SelectorText
import FeeMarket.Proofs.Selectors
import FeeMarket.Proofs.Shape
import FeeMarket.Proofs.Shortfall
import FeeMarket.Proofs.Suggestion
import FeeMarket.Proofs.Traffic
