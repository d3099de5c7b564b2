import ObjcSwiftLearning.SignalServiceKit.QuoteFormat

/-!
# Reading bytes with words

`ByteParser` adds and compares `NSUInteger`s, which wrap, and `NSData` raises an exception when
it is asked for a range that it does not have.  Here are the parser and the parsing of a quote
with words of 64 bits and that exception.

* `WordByteParser.Simulates` — a computation with words does what one with numbers does, and
  asks for no range that is not there, as long as its cursor has `k` to go.
* `CDSQuote.parses_exactly` — **a quote is parsed exactly from the byte strings that are
  quotes, and nothing outside of a byte string is ever asked for.**
-/

namespace ObjcSwiftLearning.SignalServiceKit

open AxolotlKit
open ByteParser (ByteReader orNil require)

structure NSRange where
  location : UInt64
  length : UInt64

/-- `NSData`, whose length is an `NSUInteger`. -/
structure SizedData where
  bytes : NSData
  length_lt : bytes.length < 2 ^ 64

def SizedData.length (data : SizedData) : UInt64 := .ofNat data.bytes.length

theorem SizedData.toNat_length (data : SizedData) : data.length.toNat = data.bytes.length := by
  rw [length, UInt64.toNat_ofNat']
  exact Nat.mod_eq_of_lt data.length_lt

/-- `getBytes:range:` and `subdataWithRange:`, which raise an `NSRangeException`. -/
def getBytes (data : NSData) (range : NSRange) : Except NSRange NSData :=
  if data.length < range.location.toNat + range.length.toNat then .error range
  else .ok ((data.drop range.location.toNat).take range.length.toNat)

structure WordByteParser where
  littleEndian : Bool
  data : SizedData
  cursor : UInt64
  hasError : Bool

namespace WordByteParser

/-- A method that goes on with the parser, returns `nil`, or raises an exception. -/
abbrev Parse (α : Type) := StateT WordByteParser (OptionT (Except NSRange)) α

def initWithData (data : SizedData) (littleEndian : Bool) : WordByteParser where
  littleEndian := littleEndian
  data := data
  cursor := 0
  hasError := false

/-- What raises an exception ends the method. -/
def raising {α : Type} (result : Except NSRange α) : Parse α := fun parser =>
  OptionT.mk (result.map fun a => some (a, parser))

/-- `shortAtIndex:`, `intAtIndex:` and `longAtIndex:`, which differ in the size. -/
def integerAtIndex (valueSize index : UInt64) : Parse ℕ := do
  let parser ← get
  if parser.data.length < index + valueSize then
    set { parser with hasError := true }
    return 0
  else
    let bytes ← raising (getBytes parser.data.bytes ⟨index, valueSize⟩)
    return ByteParser.integerOfBytes parser.littleEndian bytes

def nextInteger (valueSize : UInt64) : Parse ℕ := do
  let value ← integerAtIndex valueSize (← get).cursor
  modify fun parser => { parser with cursor := parser.cursor + valueSize }
  return value

def nextShort : Parse UInt16 := do return .ofNat (← nextInteger 2)

def nextInt : Parse UInt32 := do return .ofNat (← nextInteger 4)

def nextLong : Parse UInt64 := do return .ofNat (← nextInteger 8)

def readBytes (length : UInt64) : Parse (Option NSData) := do
  let parser ← get
  if parser.data.length < parser.cursor + length then
    set { parser with hasError := true }
    return none
  else
    let subdata ← raising (getBytes parser.data.bytes ⟨parser.cursor, length⟩)
    set { parser with cursor := parser.cursor + length }
    return some subdata

def readZero (length : UInt64) : Parse Bool := do
  match ← readBytes length with
  | none => return false
  | some subdata =>
      let bytes ← raising (getBytes subdata ⟨0, length⟩)
      return bytes.all (· == 0)

instance : ByteReader (StateT WordByteParser (OptionT (Except NSRange))) where
  nextShort := nextShort
  nextInt := nextInt
  nextLong := nextLong
  readBytes length := readBytes (.ofNat length)
  readZero length := readZero (.ofNat length)
  hasError := do return (← get).hasError
  nil := failure

/-! ## The parser with numbers -/

def erased (parser : WordByteParser) : ByteParser where
  littleEndian := parser.littleEndian
  data := parser.data.bytes
  cursor := parser.cursor.toNat
  hasError := parser.hasError

/-- A computation with words that raises no exception and does what one with numbers does, where
the cursor has `k` to go before it wraps. -/
def Simulates {α : Type} (k : ℕ) (m : Parse α) (m' : ByteParser.Parse α) : Prop :=
  ∀ parser : WordByteParser, parser.cursor.toNat + k < 2 ^ 64 → ∃ result,
    (m.run parser).run = .ok result ∧
      m'.run parser.erased = result.map (fun outcome => (outcome.1, outcome.2.erased)) ∧
        ∀ outcome ∈ result, outcome.2.cursor.toNat ≤ parser.cursor.toNat + k

namespace Simulates

variable {α β : Type} {j k : ℕ} {m : Parse α} {m' : ByteParser.Parse α}
  {f : α → Parse β} {f' : α → ByteParser.Parse β}

/-- **One after the other.** -/
theorem bind (hm : Simulates j m m') (hf : ∀ a, Simulates k (f a) (f' a)) :
    Simulates (j + k) (m >>= f) (m' >>= f') := by
  intro parser hcursor
  obtain ⟨result, hrun, hrun', hbound⟩ := hm parser (by omega)
  cases result with
  | none =>
      refine ⟨none, ?_, ?_, by simp⟩
      · rw [StateT.run_bind, OptionT.run_bind, hrun]
        rfl
      · rw [StateT.run_bind, hrun']
        rfl
  | some outcome =>
      have hfirst := hbound outcome rfl
      obtain ⟨result, hsecond, hsecond', hbound'⟩ := hf outcome.1 outcome.2 (by omega)
      refine ⟨result, ?_, ?_, ?_⟩
      · rw [StateT.run_bind, OptionT.run_bind, hrun]
        exact hsecond
      · rw [StateT.run_bind, hrun']
        exact hsecond'
      · intro last hlast
        have hnext := hbound' last hlast
        omega

theorem mono (hm : Simulates j m m') (hle : j ≤ k) : Simulates k m m' := by
  intro parser hroom
  obtain ⟨result, hrun, hrun', hbound⟩ := hm parser (by omega)
  exact ⟨result, hrun, hrun', fun outcome hmem => Nat.le_trans (hbound outcome hmem) (by omega)⟩

/-- One after the other, with what is left of `k`. -/
theorem next (hm : Simulates j m m') (hle : j ≤ k)
    (hf : ∀ a, Simulates (k - j) (f a) (f' a)) : Simulates k (m >>= f) (m' >>= f') := by
  have h := hm.bind hf
  rwa [Nat.add_sub_cancel' hle] at h

theorem pure (a : α) : Simulates 0 (Pure.pure a) (Pure.pure a) :=
  fun parser _ => ⟨some (a, parser), rfl, rfl, by simp⟩

theorem failure : Simulates 0 (failure : Parse α) failure :=
  fun _ _ => ⟨none, rfl, rfl, by simp⟩

theorem test (c : Prop) [Decidable c] : Simulates 0 (require c) (require c) := by
  unfold require
  split
  · exact .pure ()
  · exact .failure

end Simulates

variable {parser : WordByteParser}

theorem lt_add_iff {size : UInt64} (hroom : parser.cursor.toNat + size.toNat < 2 ^ 64) :
    parser.data.length < parser.cursor + size ↔
      parser.data.bytes.length < parser.cursor.toNat + size.toNat := by
  rw [UInt64.lt_iff_toNat_lt, UInt64.toNat_add, Nat.mod_eq_of_lt hroom, parser.data.toNat_length]

theorem toNat_cursor_add {size : UInt64} (hroom : parser.cursor.toNat + size.toNat < 2 ^ 64) :
    (parser.cursor + size).toNat = parser.cursor.toNat + size.toNat := by
  rw [UInt64.toNat_add, Nat.mod_eq_of_lt hroom]

/-- A range that is there. -/
theorem getBytes_eq {data : NSData} {location length : UInt64}
    (hlong : ¬data.length < location.toNat + length.toNat) :
    getBytes data ⟨location, length⟩ = .ok (bytesAt data location.toNat length.toNat) :=
  if_neg hlong

theorem run_nextInteger_of_lt {valueSize : UInt64}
    (hshort : parser.data.length < parser.cursor + valueSize) :
    ((nextInteger valueSize).run parser).run = .ok (some (0,
      { parser with hasError := true, cursor := parser.cursor + valueSize })) := by
  simp only [nextInteger, integerAtIndex, StateT.run_bind, StateT.run_get, pure_bind, if_pos hshort]
  rfl

theorem run_nextInteger {valueSize : UInt64} {bytes : NSData}
    (hlong : ¬parser.data.length < parser.cursor + valueSize)
    (hbytes : getBytes parser.data.bytes ⟨parser.cursor, valueSize⟩ = .ok bytes) :
    ((nextInteger valueSize).run parser).run = .ok (some
      (ByteParser.integerOfBytes parser.littleEndian bytes,
        { parser with cursor := parser.cursor + valueSize })) := by
  simp only [nextInteger, integerAtIndex, StateT.run_bind, StateT.run_get, pure_bind, if_neg hlong,
    hbytes]
  rfl

theorem simulates_nextInteger (valueSize : UInt64) :
    Simulates valueSize.toNat (nextInteger valueSize) (ByteParser.nextInteger valueSize.toNat) := by
  intro parser hroom
  by_cases hshort : parser.data.length < parser.cursor + valueSize
  · refine ⟨_, run_nextInteger_of_lt hshort, ?_, ?_⟩
    · rw [ByteParser.run_nextInteger_of_lt parser.erased ((lt_add_iff hroom).mp hshort)]
      simp only [Option.map_some, erased, toNat_cursor_add hroom]
    · rintro _ ⟨⟩
      exact Nat.le_of_eq (toNat_cursor_add hroom)
  · have hlong := (lt_add_iff hroom).not.mp hshort
    refine ⟨_, run_nextInteger hshort (getBytes_eq hlong), ?_, ?_⟩
    · rw [ByteParser.run_nextInteger parser.erased hlong]
      simp only [Option.map_some, erased, toNat_cursor_add hroom]
    · rintro _ ⟨⟩
      exact Nat.le_of_eq (toNat_cursor_add hroom)

variable {length : UInt64}

theorem run_readBytes_of_lt (hshort : parser.data.length < parser.cursor + length) :
    ((readBytes length).run parser).run =
      .ok (some (none, { parser with hasError := true })) := by
  simp only [readBytes, StateT.run_bind, StateT.run_get, pure_bind, if_pos hshort]
  rfl

theorem run_readBytes {bytes : NSData} (hlong : ¬parser.data.length < parser.cursor + length)
    (hbytes : getBytes parser.data.bytes ⟨parser.cursor, length⟩ = .ok bytes) :
    ((readBytes length).run parser).run = .ok (some (some bytes,
      { parser with cursor := parser.cursor + length })) := by
  simp only [readBytes, StateT.run_bind, StateT.run_get, pure_bind, if_neg hlong, hbytes]
  rfl

theorem simulates_readBytes (length : UInt64) :
    Simulates length.toNat (readBytes length) (ByteParser.readBytes length.toNat) := by
  intro parser hroom
  by_cases hshort : parser.data.length < parser.cursor + length
  · refine ⟨_, run_readBytes_of_lt hshort, ?_, ?_⟩
    · rw [ByteParser.run_readBytes_of_lt parser.erased ((lt_add_iff hroom).mp hshort)]
      simp only [Option.map_some, erased]
    · rintro _ ⟨⟩
      exact Nat.le_add_right _ _
  · have hlong := (lt_add_iff hroom).not.mp hshort
    refine ⟨_, run_readBytes hshort (getBytes_eq hlong), ?_, ?_⟩
    · rw [ByteParser.run_readBytes parser.erased hlong]
      simp only [Option.map_some, erased, toNat_cursor_add hroom]
    · rintro _ ⟨⟩
      exact Nat.le_of_eq (toNat_cursor_add hroom)

/-- A result that is converted. -/
theorem Simulates.map {α β : Type} {k : ℕ} {m : Parse α} {m' : ByteParser.Parse α} (g : α → β)
    (hm : Simulates k m m') : Simulates k (do return g (← m)) (do return g (← m')) :=
  hm.bind fun a => .pure (g a)

theorem simulates_nextShort : Simulates 2 nextShort ByteParser.nextShort :=
  (simulates_nextInteger 2).map _

theorem simulates_nextInt : Simulates 4 nextInt ByteParser.nextInt :=
  (simulates_nextInteger 4).map _

theorem simulates_nextLong : Simulates 8 nextLong ByteParser.nextLong :=
  (simulates_nextInteger 8).map _

theorem run_readZero_of_lt (hshort : parser.data.length < parser.cursor + length) :
    ((readZero length).run parser).run =
      .ok (some (false, { parser with hasError := true })) := by
  rw [readZero, StateT.run_bind, OptionT.run_bind, run_readBytes_of_lt hshort]
  rfl

theorem run_readZero {bytes : NSData} (hlong : ¬parser.data.length < parser.cursor + length)
    (hbytes : getBytes parser.data.bytes ⟨parser.cursor, length⟩ = .ok bytes)
    (hsame : getBytes bytes ⟨0, length⟩ = .ok bytes) :
    ((readZero length).run parser).run = .ok (some (bytes.all (· == 0),
      { parser with cursor := parser.cursor + length })) := by
  have hrest : ∀ parser, ((do
      let bytes ← raising (getBytes bytes ⟨0, length⟩)
      return bytes.all (· == 0) : Parse Bool).run parser).run =
        .ok (some (bytes.all (· == 0), parser)) := by
    intro parser
    rw [hsame]
    rfl
  rw [readZero, StateT.run_bind, OptionT.run_bind, run_readBytes hlong hbytes]
  exact hrest _

theorem simulates_readZero (length : UInt64) :
    Simulates length.toNat (readZero length) (ByteParser.readZero length.toNat) := by
  intro parser hroom
  by_cases hshort : parser.data.length < parser.cursor + length
  · refine ⟨_, run_readZero_of_lt hshort, ?_, ?_⟩
    · rw [ByteParser.readZero, StateT.run_bind,
        ByteParser.run_readBytes_of_lt parser.erased ((lt_add_iff hroom).mp hshort)]
      rfl
    · rintro _ ⟨⟩
      exact Nat.le_add_right _ _
  · have hlong := (lt_add_iff hroom).not.mp hshort
    have hlength := Nat.le_of_eq (length_bytesAt (Nat.not_lt.mp hlong))
    have hsame : getBytes (bytesAt parser.data.bytes parser.cursor.toNat length.toNat) ⟨0, length⟩ =
        .ok (bytesAt parser.data.bytes parser.cursor.toNat length.toNat) := by
      rw [getBytes_eq]
      · exact congrArg _ (List.take_of_length_le hlength)
      · rw [length_bytesAt (Nat.not_lt.mp hlong)]
        exact Nat.not_lt.mpr (Nat.le_of_eq (Nat.zero_add _))
    refine ⟨_, run_readZero hshort (getBytes_eq hlong) hsame, ?_, ?_⟩
    · rw [ByteParser.readZero, StateT.run_bind,
        ByteParser.run_readBytes parser.erased hlong]
      simp only [Option.map_some, erased, toNat_cursor_add hroom]
      rfl
    · rintro _ ⟨⟩
      exact Nat.le_of_eq (toNat_cursor_add hroom)

end WordByteParser

/-! ## A quote -/

namespace WordByteParser

/-- `parseQuoteFromData:`, which returns a quote or `nil`, or raises an exception. -/
def parseQuoteFromData (quoteData : SizedData) : Except NSRange (Option CDSQuote) :=
  OptionT.run (StateT.run' (parseQuote quoteData.bytes) (initWithData quoteData true))

theorem simulates_orNil {α : Type} (a : Option α) :
    Simulates 0 (orNil a) (orNil a) := by
  cases a with
  | none => exact .failure
  | some a => exact .pure a

theorem simulates_readPceSvn (version : UInt16) :
    Simulates 2 (readPceSvn version) (readPceSvn version) := by
  unfold readPceSvn
  split
  · exact simulates_nextShort
  · exact (simulates_readZero 2).bind fun zero =>
      (Simulates.test (zero = true)).bind fun _ => .pure 0

theorem simulates_refuseError : Simulates 0 refuseError refuseError := by
  intro parser _
  exact Simulates.test (¬parser.hasError = true) parser (by omega)

/-- The fields in front of the signature take the cursor 432 bytes on. -/
theorem simulates_parseQuoteBody :
    Simulates 432 parseQuoteBody parseQuoteBody := by
  unfold parseQuoteBody
  refine simulates_nextShort.next (by decide) fun version => ?_
  refine (Simulates.test _).next (Nat.zero_le _) fun _ => ?_
  refine simulates_nextShort.next (by decide) fun signType => ?_
  refine (Simulates.test _).next (Nat.zero_le _) fun _ => ?_
  refine simulates_nextInt.next (by decide) fun gid => ?_
  refine simulates_nextShort.next (by decide) fun qeSvn => ?_
  refine (simulates_readPceSvn version).next (by decide) fun pceSvn => ?_
  refine (simulates_readZero 4).next (by decide) fun xeid => ?_
  refine (Simulates.test _).next (Nat.zero_le _) fun _ => ?_
  refine (simulates_readBytes 32).next (by decide) fun basename => ?_
  refine (simulates_orNil basename).next (Nat.zero_le _) fun basename => ?_
  -- The report body.
  refine (simulates_readBytes 16).next (by decide) fun cpuSvn => ?_
  refine (simulates_orNil cpuSvn).next (Nat.zero_le _) fun cpuSvn => ?_
  refine (simulates_readZero 4).next (by decide) fun miscSelect => ?_
  refine (Simulates.test _).next (Nat.zero_le _) fun _ => ?_
  refine (simulates_readZero 28).next (by decide) fun reserved1 => ?_
  refine (Simulates.test _).next (Nat.zero_le _) fun _ => ?_
  refine simulates_nextLong.next (by decide) fun flags => ?_
  refine (Simulates.test _).next (Nat.zero_le _) fun _ => ?_
  refine simulates_nextLong.next (by decide) fun xfrm => ?_
  refine (Simulates.test _).next (Nat.zero_le _) fun _ => ?_
  refine (simulates_readBytes 32).next (by decide) fun mrenclave => ?_
  refine (simulates_orNil mrenclave).next (Nat.zero_le _) fun mrenclave => ?_
  refine (simulates_readZero 32).next (by decide) fun reserved2 => ?_
  refine (Simulates.test _).next (Nat.zero_le _) fun _ => ?_
  refine (simulates_readBytes 32).next (by decide) fun mrsigner => ?_
  refine (simulates_orNil mrsigner).next (Nat.zero_le _) fun mrsigner => ?_
  refine (simulates_readZero 96).next (by decide) fun reserved3 => ?_
  refine (Simulates.test _).next (Nat.zero_le _) fun _ => ?_
  refine simulates_nextShort.next (by decide) fun isvProdId => ?_
  refine simulates_nextShort.next (by decide) fun isvSvn => ?_
  refine (simulates_readZero 60).next (by decide) fun reserved4 => ?_
  refine (Simulates.test _).next (Nat.zero_le _) fun _ => ?_
  refine (simulates_readBytes 64).next (by decide) fun reportData => ?_
  refine (simulates_orNil reportData).next (Nat.zero_le _) fun reportData => ?_
  exact (Simulates.pure _).mono (Nat.zero_le _)

theorem simulates_parseQuoteSignature (quoteData : NSData) :
    Simulates (4 + 2 ^ 32) (parseQuoteSignature quoteData) (parseQuoteSignature quoteData) := by
  unfold parseQuoteSignature
  refine simulates_nextInt.bind fun signatureLength => ?_
  refine (Simulates.test _).next (Nat.zero_le _) fun _ => ?_
  have hlength : (UInt64.ofNat signatureLength.toNat).toNat = signatureLength.toNat :=
    UInt64.toNat_ofNat_of_lt (Nat.lt_trans signatureLength.toNat_lt (by decide))
  have hread := simulates_readBytes (.ofNat signatureLength.toNat)
  rw [hlength] at hread
  refine hread.next (Nat.le_of_lt signatureLength.toNat_lt) fun signature => ?_
  exact (simulates_orNil signature).mono (Nat.zero_le _)

/-- **Words do what numbers do**: nothing is added up to more than a word, and no range that is
not there is asked for. -/
theorem parseQuoteFromData_eq (quoteData : SizedData) :
    parseQuoteFromData quoteData = .ok (CDSQuote.parseQuoteFromData quoteData.bytes) := by
  have hsimulates := simulates_parseQuoteBody.bind fun body =>
    (simulates_parseQuoteSignature quoteData.bytes).bind fun signature =>
      simulates_refuseError.bind fun _ =>
        Simulates.pure ({ toCDSQuoteBody := body, signature := signature } : CDSQuote)
  have hroom : 0 + (432 + (4 + 2 ^ 32 + (0 + 0))) < 2 ^ 64 := by decide
  obtain ⟨result, hrun, hrun', -⟩ := hsimulates (initWithData quoteData true) hroom
  have hfirst : parseQuoteFromData quoteData = .ok (result.map Prod.fst) := by
    rw [parseQuoteFromData, StateT.run'_eq, OptionT.run_map]
    exact congrArg (Functor.map (Option.map Prod.fst)) hrun
  have hsecond : CDSQuote.parseQuoteFromData quoteData.bytes = result.map Prod.fst := by
    rw [CDSQuote.parseQuoteFromData, StateT.run'_eq]
    refine (congrArg (Functor.map Prod.fst) hrun').trans ?_
    rw [Option.map_eq_map, Option.map_map]
    rfl
  rw [hfirst, hsecond]

end WordByteParser

/-- **A quote is parsed exactly from the byte strings that are quotes**: it has the fields at
their offsets, and writing them back gives the byte string.  Every other byte string gives `nil`,
and no byte string makes the parser read what it does not have. -/
theorem CDSQuote.parses_exactly (quoteData : SizedData) :
    (∃ result, WordByteParser.parseQuoteFromData quoteData = .ok result ∧
      ∀ quote, result = some quote ↔
        IsQuoteData quoteData.bytes ∧ quote = quoteAt quoteData.bytes) ∧
    (IsQuoteData quoteData.bytes → (quoteAt quoteData.bytes).serialized = quoteData.bytes) := by
  constructor
  · exact ⟨_, WordByteParser.parseQuoteFromData_eq quoteData, fun quote =>
      parseQuoteFromData_eq_some_iff quoteData.length_lt⟩
  · exact serialized_quoteAt

end ObjcSwiftLearning.SignalServiceKit
