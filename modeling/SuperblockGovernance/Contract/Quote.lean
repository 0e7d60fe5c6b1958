/-
Market data that a contract carries beside its payouts: three prices and the phase of
the automatic adjustment, which compares the coin price with the one recorded at the
last superblock. A price is a number of 128 bits and stands as decimal text with a fixed
number of places: writing shows every place; reading accepts fewer, and a point with nothing
after it.
-/

import SuperblockGovernance.Failure
import SuperblockGovernance.Text.Decimal
import SuperblockGovernance.Text.Search

namespace SuperblockGovernance

/-! ### Prices -/

/-- A price in units of its last place. -/
abbrev Price := BitVec 128

namespace FixedPoint

/-- The text of a number of units of `10 ^ -places`. -/
def text (places number : Nat) : String :=
  String.ofList (Decimal.pointed places number)

/-- The units in a text of digits, with at most `places` more digits after a point if there is
one. -/
def unitsOfText? (places : Nat) (text : List Char) : Option Nat :=
  let (whole, fraction?) := Decimal.cutAtPoint text
  let fraction := fraction?.getD []
  if Decimal.IsNumeral whole ∧ fraction.all Char.isDigit = true ∧ fraction.length ≤ places then
    some (Decimal.units places whole fraction)
  else none

/-- Reads a number that 128 bits can hold. -/
def ofText? (places : Nat) (text : String) : Option Price := do
  let units ← unitsOfText? places text.toList
  if units < 2 ^ 128 then some (BitVec.ofNat 128 units) else none

end FixedPoint

/-! ### Market data -/

/-- The market data of a contract. -/
structure Quote where
  phase : Int8
  /-- The coin in BTC, twelve decimals. -/
  bbpPrice : Price
  /-- The coin in USD, twelve decimals. -/
  price : Price
  btcPriceCents : UInt64
  deriving DecidableEq

/-- Prices as a market reports them now. -/
structure SpotQuote where
  bbpPrice : Price
  usdPrice : Price
  btcUsdCents : UInt64
  deriving DecidableEq

/-! ### Phases -/

namespace Phase

/-- No phases are computed yet. -/
def inactive : Int8 := 0

/-- A price is not known. -/
def missingPrice : Int8 := -1

/-- The price is the one recorded before. -/
def unchanged : Int8 := 1

/-- The price is above the one recorded before. -/
def increased : Int8 := 2

/-- The price is below the one recorded before. -/
def decreased : Int8 := 3

/-- How the coin price moved since the one recorded before; an unknown or zero price counts as
missing. -/
def ofPrices (active : Bool) (current previous : Option Price) : Int8 :=
  if !active then inactive
  else
    match current, previous with
    | some now, some before =>
      if now = 0 ∨ before = 0 then missingPrice
      else if now = before then unchanged
      else if before < now then increased
      else decreased
    | _, _ => missingPrice

end Phase

namespace Quote

/-- The decimals of a coin price. -/
def priceDecimals : Nat := 12

/-- The market data for a contract at a height. The phase is live from the activation height
on, and never at height zero. -/
def forHeight (height : Height) (activation : Option Height) (current : Option SpotQuote)
    (previous : Option Quote) : Quote :=
  let active := activation.any fun first => first ≤ height && 0 < height
  { phase := Phase.ofPrices active (current.map SpotQuote.bbpPrice) (previous.map Quote.bbpPrice)
    bbpPrice := (current.map SpotQuote.bbpPrice).getD 0
    price := (current.map SpotQuote.usdPrice).getD 0
    btcPriceCents := (current.map SpotQuote.btcUsdCents).getD 0 }

/-! ### The text form -/

/-- The phase as market data carry it. -/
def phaseText (quote : Quote) : String :=
  Decimal.signedText quote.phase.toInt

/-- The coin price in bitcoin. -/
def bbpPriceText (quote : Quote) : String :=
  FixedPoint.text priceDecimals quote.bbpPrice.toNat

/-- The coin price in dollars. -/
def priceText (quote : Quote) : String :=
  FixedPoint.text priceDecimals quote.price.toNat

/-- The price of a bitcoin with its cents. -/
def btcPriceText (quote : Quote) : String :=
  FixedPoint.text 2 quote.btcPriceCents.toNat

/-- The four sections that hold the market data. -/
def toText (quote : Quote) : String :=
  Section.wrap "QTPHASE" quote.phaseText ++ Section.wrap "BBPPRICE" quote.bbpPriceText ++
    Section.wrap "PRICE" quote.priceText ++ Section.wrap "BTCPRICE" quote.btcPriceText

/-- The body of a section that has to be there. -/
def field (tag text : String) : Except ValidationError String :=
  match Section.body? tag text with
  | some body => .ok body
  | none => .error (.missingSection tag)

/-- Reads a price with so many places after the point. -/
def readFixed (places : Nat) (text : String) : Except ValidationError Price :=
  match FixedPoint.ofText? places text with
  | some price => .ok price
  | none => .error (.nonCanonical ("bad decimal `" ++ text ++ "`"))

/-- Reads a phase; the reason names the field it stands in. -/
def readPhase (text reason : String) : Except ValidationError Int8 :=
  match Decimal.small? text.toList with
  | some phase => .ok phase
  | none => .error (.nonCanonical reason)

/-- Reads the market data from sections in any order. -/
def ofText (text : String) : Except ValidationError Quote := do
  let phase ← readPhase (← field "QTPHASE" text) "bad QTPHASE"
  let btcPrice ← readFixed 2 (← field "BTCPRICE" text)
  let bbpPrice ← readFixed priceDecimals (← field "BBPPRICE" text)
  let price ← readFixed priceDecimals (← field "PRICE" text)
  if btcPrice.toNat < 2 ^ 64 then
    return ⟨phase, bbpPrice, price, UInt64.ofNat btcPrice.toNat⟩
  else .error (.nonCanonical "BTCPRICE out of range")

end Quote

end SuperblockGovernance
