import Mathlib.Data.Option.Basic
import ObjcSwiftLearning.SignalServiceKit.ByteParser

/-!
# The quote of an enclave

`CDSQuote parseQuoteFromData:` reads a quote field by field, little-endian.  The fields in
front of the quote's own signature are the 432 bytes that the attestation service signs.

* `CDSQuoteBody` — the fields in front of the signature.
* `parseQuote` — parsing, over whatever parser.
-/

namespace ObjcSwiftLearning.SignalServiceKit

open AxolotlKit

def sgxFlagsInitted : UInt64 := 0x0000000000000001

def sgxFlagsDebug : UInt64 := 0x0000000000000002

def sgxFlagsMode64Bit : UInt64 := 0x0000000000000004

def sgxFlagsReserved : UInt64 := 0xFFFFFFFFFFFFFFC8

def sgxXfrmReserved : UInt64 := 0xFFFFFFFFFFFFFFF8

/-- The fields of a `CDSQuote` in front of its signature. -/
structure CDSQuoteBody where
  version : UInt16
  signType : UInt16
  isSigLinkable : Bool
  gid : UInt32
  qeSvn : UInt16
  pceSvn : UInt16
  basename : NSData
  cpuSvn : NSData
  flags : UInt64
  xfrm : UInt64
  mrenclave : NSData
  mrsigner : NSData
  isvProdId : UInt16
  isvSvn : UInt16
  reportData : NSData

structure CDSQuote extends CDSQuoteBody where
  signature : NSData

def CDSQuoteBody.isDebugQuote (quote : CDSQuoteBody) : Bool :=
  quote.flags &&& sgxFlagsDebug != 0

/-- The flags of a quote that was parsed. -/
def CDSQuoteBody.IsInitialised64Bit (quote : CDSQuoteBody) : Prop :=
  quote.flags &&& sgxFlagsInitted ≠ 0 ∧ quote.flags &&& sgxFlagsMode64Bit ≠ 0

/-! ## Parsing -/

section Parsing

open ByteParser (orNil require)
open ByteParser.ByteReader

variable {m : Type → Type} [Monad m] [ByteParser.ByteReader m]

/-- The security version of the provisioning enclave, which the first version has no field
for. -/
def readPceSvn (version : UInt16) : m UInt16 :=
  if 1 < version then nextShort
  else do
    require (← readZero 2)
    return 0

/-- `parseQuoteFromData:` up to the report data. -/
def parseQuoteBody : m CDSQuoteBody := do
  let version ← nextShort
  require (¬(version < 1 ∨ 2 < version))
  let signType ← nextShort
  require (signType &&& ~~~1 = 0)
  let gid ← nextInt
  let qeSvn ← nextShort
  let pceSvn ← readPceSvn version
  require (← readZero 4)
  let basename ← orNil (← readBytes 32)
  let cpuSvn ← orNil (← readBytes 16)
  require (← readZero 4)
  require (← readZero 28)
  let flags ← nextLong
  require (¬(flags &&& sgxFlagsReserved ≠ 0 ∨ flags &&& sgxFlagsInitted = 0 ∨
    flags &&& sgxFlagsMode64Bit = 0))
  let xfrm ← nextLong
  require (xfrm &&& sgxXfrmReserved = 0)
  let mrenclave ← orNil (← readBytes 32)
  require (← readZero 32)
  let mrsigner ← orNil (← readBytes 32)
  require (← readZero 96)
  let isvProdId ← nextShort
  let isvSvn ← nextShort
  require (← readZero 60)
  let reportData ← orNil (← readBytes 64)
  return { version, signType, isSigLinkable := signType == 1, gid, qeSvn, pceSvn, basename,
           cpuSvn, flags, xfrm, mrenclave, mrsigner, isvProdId, isvSvn, reportData }

/-- The rest of `parseQuoteFromData:`, the quote's own signature.  The length is compared as
an `NSUInteger`, so for data shorter than the body it is compared with a number that wraps. -/
def parseQuoteSignature (quoteData : NSData) : m NSData := do
  let signatureLength ← nextInt
  require (signatureLength.toUInt64 = UInt64.ofNat quoteData.length - 436)
  orNil (← readBytes signatureLength.toNat)

/-- A parser with an error has no result. -/
def refuseError : m Unit := do
  require (¬(← hasError))

/-- `parseQuoteFromData:`, from its parser on. -/
def parseQuote (quoteData : NSData) : m CDSQuote := do
  let body ← parseQuoteBody
  let signature ← parseQuoteSignature quoteData
  refuseError
  return { body with signature }

end Parsing

open ByteParser

def CDSQuote.parseQuoteFromData (quoteData : NSData) : Option CDSQuote :=
  StateT.run' (parseQuote quoteData) (initWithData quoteData true)

end ObjcSwiftLearning.SignalServiceKit
