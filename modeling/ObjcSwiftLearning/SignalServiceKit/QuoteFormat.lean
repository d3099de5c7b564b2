import Mathlib.Tactic.MkIffOfInductiveProp
import ObjcSwiftLearning.Library.ByteOrder
import ObjcSwiftLearning.SignalServiceKit.CDSQuote

/-!
# The format of a quote

What `parseQuoteFromData:` accepts, told by the offsets of the fields.

* `ByteParser.Ends` — where a computation ends without an error, and with which results.
* `IsQuoteData`, `quoteAt` — the byte strings that are quotes, and the quote that one is.
* `CDSQuote.parseQuoteFromData_eq_some_iff` — **a quote is parsed exactly from these**.
* `CDSQuote.parseQuoteBody_of_take_eq` — **what is read in front of the signature is in the
  first 432 bytes.**
* `CDSQuote.serialized_quoteAt` — **writing its fields back gives the byte string.**
-/

namespace ObjcSwiftLearning.SignalServiceKit

open AxolotlKit ByteParser

/-! ## Fields by their offsets -/

def bytesAt (data : NSData) (offset length : ℕ) : NSData := (data.drop offset).take length

/-- Two bytes, the lower first. -/
def shortAt (data : NSData) (offset : ℕ) : UInt16 :=
  .ofNat (ByteOrder.value (bytesAt data offset 2))

/-- Four bytes, the lowest first. -/
def intAt (data : NSData) (offset : ℕ) : UInt32 :=
  .ofNat (ByteOrder.value (bytesAt data offset 4))

/-- Eight bytes, the lowest first. -/
def longAt (data : NSData) (offset : ℕ) : UInt64 :=
  .ofNat (ByteOrder.value (bytesAt data offset 8))

def zeroAt (data : NSData) (offset length : ℕ) : Bool := (bytesAt data offset length).all (· == 0)

theorem integerOfBytes_eq (bytes : NSData) : integerOfBytes true bytes = ByteOrder.value bytes := by
  rw [integerOfBytes, if_pos rfl, List.foldl_reverse]
  induction bytes with
  | nil => rfl
  | cons byte bytes ih =>
      rw [List.foldr_cons, ih, ByteOrder.value]
      omega

namespace ByteParser

/-- A parser of some data that has come to an offset without an error. -/
def reached (data : NSData) (offset : ℕ) : ByteParser where
  littleEndian := true
  data := data
  cursor := offset
  hasError := false

/-- A computation that, from an offset in some data, ends without an error exactly if the data
has `next` bytes, and then there, with the results that satisfy `R`. -/
structure Ends {α : Type} (data : NSData) (offset : ℕ) (m : Parse α) (next : ℕ)
    (R : α → Prop) : Prop where
  keepsError : KeepsError m
  run_iff : offset ≤ data.length → ∀ a parser,
    m.run (reached data offset) = some (a, parser) ∧ parser.hasError = false ↔
      next ≤ data.length ∧ R a ∧ parser = reached data next

namespace Ends

variable {α β : Type} {data : NSData} {offset middle next : ℕ} {m : Parse α} {f : α → Parse β}
  {R R' : α → Prop} {S : α → β → Prop}

theorem congr (h : Ends data offset m next R) (hiff : next ≤ data.length → ∀ a, R a ↔ R' a) :
    Ends data offset m next R' where
  keepsError := h.keepsError
  run_iff hoffset a parser := by
    rw [h.run_iff hoffset]
    constructor
    · rintro ⟨hnext, hR, hparser⟩
      exact ⟨hnext, (hiff hnext a).mp hR, hparser⟩
    · rintro ⟨hnext, hR, hparser⟩
      exact ⟨hnext, (hiff hnext a).mpr hR, hparser⟩

/-- One after the other, where the second one keeps errors whatever the first one gives. -/
theorem bind_of (hm : Ends data offset m middle R) (hle : middle ≤ next)
    (hkeeps : ∀ a, KeepsError (f a)) (hf : ∀ a, R a → Ends data middle (f a) next (S a)) :
    Ends data offset (m >>= f) next fun b => ∃ a, R a ∧ S a b where
  keepsError := hm.keepsError.bind hkeeps
  run_iff hoffset b parser := by
    rw [StateT.run_bind, Option.bind_eq_bind, Option.bind_eq_some_iff]
    constructor
    · rintro ⟨⟨⟨a, parser₁⟩, hfirst, hsecond⟩, herror⟩
      have herror₁ : parser₁.hasError = false := by
        cases herror₁ : parser₁.hasError with
        | false => rfl
        | true =>
            have hkept := hkeeps a parser₁ b parser hsecond herror₁
            rw [herror] at hkept
            cases hkept
      obtain ⟨hmiddle, hR, rfl⟩ := (hm.run_iff hoffset a parser₁).mp ⟨hfirst, herror₁⟩
      obtain ⟨hlength, hS, hparser⟩ := ((hf a hR).run_iff hmiddle b parser).mp ⟨hsecond, herror⟩
      exact ⟨hlength, ⟨a, hR, hS⟩, hparser⟩
    · rintro ⟨hlength, ⟨a, hR, hS⟩, hparser⟩
      have hmiddle := Nat.le_trans hle hlength
      obtain ⟨hfirst, -⟩ := (hm.run_iff hoffset a _).mpr ⟨hmiddle, hR, rfl⟩
      obtain ⟨hsecond, herror⟩ := ((hf a hR).run_iff hmiddle b parser).mpr ⟨hlength, hS, hparser⟩
      exact ⟨⟨_, hfirst, hsecond⟩, herror⟩

/-- **One after the other.** -/
theorem bind (hm : Ends data offset m middle R) (hle : middle ≤ next)
    (hf : ∀ a, Ends data middle (f a) next (S a)) :
    Ends data offset (m >>= f) next fun b => ∃ a, R a ∧ S a b :=
  hm.bind_of hle (fun a => (hf a).keepsError) fun a _ => hf a

end Ends

variable {data : NSData} {offset : ℕ}

theorem ends_pure {α : Type} (a : α) : Ends data offset (pure a) offset (· = a) where
  keepsError parser b parser' hrun herror := by
    obtain ⟨rfl, rfl⟩ := Prod.mk.inj (Option.some.inj hrun)
    exact herror
  run_iff hoffset b parser := by
    constructor
    · rintro ⟨hrun, -⟩
      obtain ⟨rfl, rfl⟩ := Prod.mk.inj (Option.some.inj hrun)
      exact ⟨hoffset, rfl, rfl⟩
    · rintro ⟨-, rfl, rfl⟩
      exact ⟨rfl, rfl⟩

theorem ends_failure {α : Type} : Ends data offset (failure : Parse α) offset fun _ => False where
  keepsError parser b parser' hrun _ := by cases hrun
  run_iff hoffset b parser := by
    constructor
    · rintro ⟨hrun, -⟩
      cases hrun
    · rintro ⟨-, ⟨⟩, -⟩

theorem ends_require (c : Prop) [Decidable c] :
    Ends data offset (require c : Parse Unit) offset fun _ => c := by
  by_cases hc : c
  · rw [require, if_pos hc]
    exact (ends_pure ()).congr fun _ _ => iff_of_true rfl hc
  · rw [require, if_neg hc]
    exact ends_failure.congr fun _ _ => iff_of_false id hc

theorem ends_orNil {α : Type} (a : Option α) :
    Ends data offset (orNil a) offset fun b => a = some b := by
  cases a with
  | none => exact ends_failure.congr fun _ _ => iff_of_false id (Option.some_ne_none _).symm
  | some a => exact (ends_pure a).congr fun _ _ => by rw [Option.some.injEq, eq_comm]

theorem run_nextInteger_of_lt (parser : ByteParser) {valueSize : ℕ}
    (hshort : parser.data.length < parser.cursor + valueSize) :
    (nextInteger valueSize).run parser =
      some (0, { parser with hasError := true, cursor := parser.cursor + valueSize }) := by
  simp only [nextInteger, integerAtIndex, StateT.run, if_pos hshort]

theorem run_nextInteger (parser : ByteParser) {valueSize : ℕ}
    (hlong : ¬parser.data.length < parser.cursor + valueSize) :
    (nextInteger valueSize).run parser =
      some (integerOfBytes parser.littleEndian (bytesAt parser.data parser.cursor valueSize),
        { parser with cursor := parser.cursor + valueSize }) := by
  simp only [nextInteger, integerAtIndex, StateT.run, if_neg hlong, bytesAt]

theorem run_readBytes_of_lt (parser : ByteParser) {length : ℕ}
    (hshort : parser.data.length < parser.cursor + length) :
    (readBytes length).run parser = some (none, { parser with hasError := true }) := by
  simp only [readBytes, StateT.run, if_pos hshort]

theorem run_readBytes (parser : ByteParser) {length : ℕ}
    (hlong : ¬parser.data.length < parser.cursor + length) :
    (readBytes length).run parser = some (some (bytesAt parser.data parser.cursor length),
      { parser with cursor := parser.cursor + length }) := by
  simp only [readBytes, StateT.run, if_neg hlong, bytesAt]

/-- A computation with an error where the data is too short, else with one result. -/
theorem ends_of_run {α : Type} {m : Parse α} {next : ℕ} {v w : α} {parser : ByteParser}
    (hkeeps : KeepsError m)
    (hshort : data.length < next → m.run (reached data offset) = some (w, parser) ∧
      parser.hasError = true)
    (hlong : ¬data.length < next → m.run (reached data offset) = some (v, reached data next)) :
    Ends data offset m next (· = v) where
  keepsError := hkeeps
  run_iff _ a parser' := by
    by_cases hlength : data.length < next
    · obtain ⟨hrun, herror⟩ := hshort hlength
      rw [hrun]
      constructor
      · rintro ⟨heq, herror'⟩
        obtain ⟨-, rfl⟩ := Prod.mk.inj (Option.some.inj heq)
        rw [herror] at herror'
        cases herror'
      · rintro ⟨hnext, -⟩
        omega
    · rw [hlong hlength]
      constructor
      · rintro ⟨heq, -⟩
        obtain ⟨rfl, rfl⟩ := Prod.mk.inj (Option.some.inj heq)
        exact ⟨Nat.not_lt.mp hlength, rfl, rfl⟩
      · rintro ⟨-, rfl, rfl⟩
        exact ⟨rfl, rfl⟩

theorem ends_nextInteger (valueSize : ℕ) : Ends data offset (nextInteger valueSize)
    (offset + valueSize) (· = ByteOrder.value (bytesAt data offset valueSize)) :=
  ends_of_run (keepsError_nextInteger valueSize)
    (fun hshort => ⟨run_nextInteger_of_lt (reached data offset) hshort, rfl⟩)
    fun hlong => by
      rw [run_nextInteger (reached data offset) hlong]
      exact congrArg _ (congrArg (·, _) (integerOfBytes_eq _))

theorem ends_readBytes (length : ℕ) : Ends data offset (readBytes length) (offset + length)
    (· = some (bytesAt data offset length)) :=
  ends_of_run (keepsError_readBytes length)
    (fun hshort => ⟨run_readBytes_of_lt (reached data offset) hshort, rfl⟩)
    fun hlong => run_readBytes (reached data offset) hlong

/-- A result that is converted. -/
theorem Ends.map {α β : Type} {m : Parse α} {next : ℕ} {v : α} (g : α → β)
    (hm : Ends data offset m next (· = v)) :
    Ends data offset (do return g (← m)) next (· = g v) := by
  refine (hm.bind (Nat.le_refl next) fun a => ends_pure (g a)).congr fun _ b => ?_
  rw [exists_eq_left]

theorem ends_nextShort : Ends data offset nextShort (offset + 2) (· = shortAt data offset) :=
  (ends_nextInteger 2).map _

theorem ends_nextInt : Ends data offset nextInt (offset + 4) (· = intAt data offset) :=
  (ends_nextInteger 4).map _

theorem ends_nextLong : Ends data offset nextLong (offset + 8) (· = longAt data offset) :=
  (ends_nextInteger 8).map _

theorem ends_readZero (length : ℕ) : Ends data offset (readZero length) (offset + length)
    (· = zeroAt data offset length) := by
  refine ((ends_readBytes length).bind (Nat.le_refl _) (S := fun subdata zero =>
    zero = (subdata.map fun subdata => subdata.all (· == 0)).getD false) ?_).congr ?_
  · intro subdata
    cases subdata with
    | none => exact ends_pure false
    | some subdata => exact ends_pure _
  · intro _ zero
    rw [exists_eq_left]
    rfl

end ByteParser

/-! ## What is asked of the fields -/

theorem value_bytesAt_lt (data : NSData) (offset length : ℕ) :
    ByteOrder.value (bytesAt data offset length) < 256 ^ length :=
  Nat.lt_of_lt_of_le (ByteOrder.value_lt _)
    (Nat.pow_le_pow_right (by decide) (List.length_take_le _ _))

theorem toNat_shortAt (data : NSData) (offset : ℕ) :
    (shortAt data offset).toNat = ByteOrder.value (bytesAt data offset 2) := by
  rw [shortAt, UInt16.toNat_ofNat']
  exact Nat.mod_eq_of_lt (value_bytesAt_lt data offset 2)

theorem toNat_intAt (data : NSData) (offset : ℕ) :
    (intAt data offset).toNat = ByteOrder.value (bytesAt data offset 4) := by
  rw [intAt, UInt32.toNat_ofNat']
  exact Nat.mod_eq_of_lt (value_bytesAt_lt data offset 4)

theorem toNat_longAt (data : NSData) (offset : ℕ) :
    (longAt data offset).toNat = ByteOrder.value (bytesAt data offset 8) := by
  rw [longAt, UInt64.toNat_ofNat']
  exact Nat.mod_eq_of_lt (value_bytesAt_lt data offset 8)

variable {offset : ℕ}

theorem zeroAt_two {data : NSData} : zeroAt data offset 2 = true ↔ shortAt data offset = 0 := by
  have hzero : shortAt data offset = 0 ↔ (shortAt data offset).toNat = 0 :=
    UInt16.toNat_inj.symm
  rw [hzero, toNat_shortAt, ByteOrder.value_eq_zero, zeroAt, List.all_eq_true]
  simp only [beq_iff_eq]

theorem version_iff {version : UInt16} :
    ¬(version < 1 ∨ 2 < version) ↔ version = 1 ∨ version = 2 := by
  simp only [UInt16.lt_iff_toNat_lt, ← UInt16.toNat_inj, UInt16.toNat_one, UInt16.reduceToNat]
  omega

theorem signType_iff {signType : UInt16} :
    signType &&& ~~~1 = 0 ↔ signType = 0 ∨ signType = 1 := by
  constructor
  · intro hmask
    have hnat : signType.toNat &&& 65534 = 0 := by
      have h := congrArg UInt16.toNat hmask
      rwa [UInt16.toNat_and] at h
    have hhalf : signType.toNat / 2 = 0 := by
      have hlt := signType.toNat_lt
      have h : (signType.toNat &&& 65534) / 2 = signType.toNat / 2 &&& (2 ^ 15 - 1) :=
        Nat.and_div_two
      rw [hnat, Nat.and_two_pow_sub_one_eq_mod] at h
      omega
    rw [← UInt16.toNat_inj, ← UInt16.toNat_inj, UInt16.toNat_zero, UInt16.toNat_one]
    omega
  · rintro (rfl | rfl) <;> decide

/-- What is asked of the fields in front of the signature. -/
@[mk_iff]
structure IsQuoteBodyData (data : NSData) : Prop where
  version : shortAt data 0 = 1 ∨ shortAt data 0 = 2
  signType : shortAt data 2 = 0 ∨ shortAt data 2 = 1
  /-- The first version has no field here. -/
  pceSvn : shortAt data 0 = 1 → shortAt data 10 = 0
  xeid : zeroAt data 12 4 = true
  miscSelect : zeroAt data 64 4 = true
  reserved1 : zeroAt data 68 28 = true
  flags : longAt data 96 &&& sgxFlagsReserved = 0 ∧ longAt data 96 &&& sgxFlagsInitted ≠ 0 ∧
    longAt data 96 &&& sgxFlagsMode64Bit ≠ 0
  xfrm : longAt data 104 &&& sgxXfrmReserved = 0
  reserved2 : zeroAt data 144 32 = true
  reserved3 : zeroAt data 208 96 = true
  reserved4 : zeroAt data 308 60 = true

/-- The byte strings that are quotes. -/
structure IsQuoteData (data : NSData) : Prop extends IsQuoteBodyData data where
  length : data.length = 436 + (intAt data 432).toNat

/-- The fields in front of the signature. -/
def quoteBodyAt (data : NSData) : CDSQuoteBody where
  version := shortAt data 0
  signType := shortAt data 2
  isSigLinkable := shortAt data 2 == 1
  gid := intAt data 4
  qeSvn := shortAt data 8
  pceSvn := shortAt data 10
  basename := bytesAt data 16 32
  cpuSvn := bytesAt data 48 16
  flags := longAt data 96
  xfrm := longAt data 104
  mrenclave := bytesAt data 112 32
  mrsigner := bytesAt data 176 32
  isvProdId := shortAt data 304
  isvSvn := shortAt data 306
  reportData := bytesAt data 368 64

/-- The quote that a byte string is. -/
def quoteAt (data : NSData) : CDSQuote where
  toCDSQuoteBody := quoteBodyAt data
  signature := data.drop 436

/-! ## What is parsed -/

variable {data : NSData}

theorem ends_readPceSvn (version : UInt16) : Ends data 10 (readPceSvn version) 12 fun pceSvn =>
    pceSvn = shortAt data 10 ∧ (¬1 < version → shortAt data 10 = 0) := by
  unfold readPceSvn
  split
  · next hversion =>
      refine ends_nextShort.congr fun _ pceSvn => (and_iff_left ?_).symm
      exact fun hnot => absurd hversion hnot
  · next hversion =>
      refine ((ends_readZero 2).bind (Nat.le_refl _) fun zero =>
        (ends_require (zero = true)).bind (Nat.le_refl _) fun _ => ends_pure 0).congr ?_
      intro _ pceSvn
      rw [exists_eq_left, exists_const, zeroAt_two]
      constructor
      · rintro ⟨hzero, rfl⟩
        exact ⟨hzero.symm, fun _ => hzero⟩
      · rintro ⟨rfl, hzero⟩
        exact ⟨hzero hversion, hzero hversion⟩

/-- **The fields in front of the signature** are those at their offsets. -/
theorem ends_parseQuoteBody : Ends data 0 parseQuoteBody 432 fun body =>
    IsQuoteBodyData data ∧ body = quoteBodyAt data := by
  apply Ends.congr
  · unfold parseQuoteBody
    apply ends_nextShort.bind (by decide); intro version
    apply (ends_require _).bind (by decide); intro _
    apply ends_nextShort.bind (by decide); intro signType
    apply (ends_require _).bind (by decide); intro _
    apply ends_nextInt.bind (by decide); intro gid
    apply ends_nextShort.bind (by decide); intro qeSvn
    apply (ends_readPceSvn version).bind (by decide); intro pceSvn
    apply (ends_readZero 4).bind (by decide); intro xeid
    apply (ends_require _).bind (by decide); intro _
    apply (ends_readBytes 32).bind (by decide); intro basename
    apply (ends_orNil basename).bind (by decide); intro basename
    -- The report body.
    apply (ends_readBytes 16).bind (by decide); intro cpuSvn
    apply (ends_orNil cpuSvn).bind (by decide); intro cpuSvn
    apply (ends_readZero 4).bind (by decide); intro miscSelect
    apply (ends_require _).bind (by decide); intro _
    apply (ends_readZero 28).bind (by decide); intro reserved1
    apply (ends_require _).bind (by decide); intro _
    apply ends_nextLong.bind (by decide); intro flags
    apply (ends_require _).bind (by decide); intro _
    apply ends_nextLong.bind (by decide); intro xfrm
    apply (ends_require _).bind (by decide); intro _
    apply (ends_readBytes 32).bind (by decide); intro mrenclave
    apply (ends_orNil mrenclave).bind (by decide); intro mrenclave
    apply (ends_readZero 32).bind (by decide); intro reserved2
    apply (ends_require _).bind (by decide); intro _
    apply (ends_readBytes 32).bind (by decide); intro mrsigner
    apply (ends_orNil mrsigner).bind (by decide); intro mrsigner
    apply (ends_readZero 96).bind (by decide); intro reserved3
    apply (ends_require _).bind (by decide); intro _
    apply ends_nextShort.bind (by decide); intro isvProdId
    apply ends_nextShort.bind (by decide); intro isvSvn
    apply (ends_readZero 60).bind (by decide); intro reserved4
    apply (ends_require _).bind (by decide); intro _
    apply (ends_readBytes 64).bind (by decide); intro reportData
    apply (ends_orNil reportData).bind (by decide); intro reportData
    exact ends_pure _
  · intro _ body
    simp only [exists_eq_left, exists_const, Option.some.injEq, exists_eq_left', and_assoc,
      Nat.reduceAdd, version_iff, signType_iff]
    simp only [not_or, ne_eq, not_not]
    constructor
    · rintro ⟨hversion, hsignType, hpceSvn, hxeid, hmiscSelect, hreserved1, hflags, hxfrm,
        hreserved2, hreserved3, hreserved4, rfl⟩
      refine ⟨?_, rfl⟩
      exact {
        version := hversion, signType := hsignType, xeid := hxeid, miscSelect := hmiscSelect
        pceSvn := fun hone => hpceSvn (by rw [hone]; decide)
        reserved1 := hreserved1, flags := hflags, xfrm := hxfrm
        reserved2 := hreserved2, reserved3 := hreserved3, reserved4 := hreserved4 }
    · rintro ⟨h, rfl⟩
      refine ⟨h.version, h.signType, ?_, h.xeid, h.miscSelect, h.reserved1, h.flags,
        h.xfrm, h.reserved2, h.reserved3, h.reserved4, rfl⟩
      intro hnot
      refine h.pceSvn (h.version.resolve_right ?_)
      intro htwo
      rw [htwo] at hnot
      exact hnot (by decide)

theorem run_refuseError_iff {parser parser' : ByteParser} {u : Unit} :
    StateT.run refuseError parser = some (u, parser') ↔
      parser.hasError = false ∧ parser' = parser := by
  have hrequire : StateT.run refuseError parser =
      (require (¬parser.hasError = true) : Parse Unit).run parser := rfl
  rw [hrequire]
  by_cases herror : parser.hasError = true
  · rw [require, if_neg (not_not_intro herror), herror]
    exact iff_of_false (Option.some_ne_none _).symm fun h => Bool.noConfusion h.1
  · rw [require, if_pos herror, Bool.eq_false_iff.mpr herror, and_iff_right rfl]
    constructor
    · intro hrun
      exact (Prod.mk.inj (Option.some.inj hrun)).2.symm
    · rintro rfl
      rfl

theorem ends_refuseError : Ends data offset refuseError offset fun _ => True where
  keepsError parser u parser' hrun herror := by
    obtain ⟨hnone, -⟩ := run_refuseError_iff.mp hrun
    rw [herror] at hnone
    cases hnone
  run_iff hoffset u parser := by
    rw [run_refuseError_iff]
    constructor
    · rintro ⟨⟨-, rfl⟩, -⟩
      exact ⟨hoffset, trivial, rfl⟩
    · rintro ⟨-, -, rfl⟩
      exact ⟨⟨rfl, rfl⟩, rfl⟩

theorem signatureLength_iff {length : ℕ} {signatureLength : UInt32} (hsize : length < 2 ^ 64)
    (hlength : 436 ≤ length) :
    signatureLength.toUInt64 = UInt64.ofNat length - 436 ↔
      length = 436 + signatureLength.toNat := by
  have h436 : (436 : UInt64) ≤ UInt64.ofNat length := by
    rw [UInt64.le_iff_toNat_le, UInt64.toNat_ofNat', Nat.mod_eq_of_lt hsize]
    exact hlength
  rw [← UInt64.toNat_inj, UInt64.toNat_sub_of_le _ _ h436, UInt64.toNat_ofNat',
    Nat.mod_eq_of_lt hsize, UInt32.toNat_toUInt64]
  have hvalue : (436 : UInt64).toNat = 436 := rfl
  omega

theorem keepsError_signatureOfLength (quoteData : NSData) (signatureLength : UInt32) :
    KeepsError (do
      require (signatureLength.toUInt64 = UInt64.ofNat quoteData.length - 436)
      orNil (← readBytes signatureLength.toNat) : Parse NSData) := by
  refine (@ends_require [] 0 _ _).keepsError.bind fun _ => ?_
  exact (keepsError_readBytes _).bind fun signature => (@ends_orNil [] 0 _ signature).keepsError

theorem keepsError_parseQuoteSignature (quoteData : NSData) :
    KeepsError (parseQuoteSignature quoteData) :=
  keepsError_nextInt.bind (keepsError_signatureOfLength quoteData)

theorem ends_parseQuoteSignature (hsize : data.length < 2 ^ 64) :
    Ends data 432 (parseQuoteSignature data) (436 + (intAt data 432).toNat) fun signature =>
      data.length = 436 + (intAt data 432).toNat ∧
        signature = bytesAt data 436 (intAt data 432).toNat := by
  refine (ends_nextInt.bind_of (Nat.le_add_right 436 _) (keepsError_signatureOfLength data)
    (S := fun _ signature => data.length = 436 + (intAt data 432).toNat ∧
      signature = bytesAt data 436 (intAt data 432).toNat) ?_).congr ?_
  · rintro signatureLength rfl
    refine ((ends_require _).bind (Nat.le_add_right 436 _) fun _ =>
      (ends_readBytes _).bind (Nat.le_refl _) fun signature => ends_orNil signature).congr ?_
    intro hnext signature
    rw [exists_const, exists_eq_left, Option.some.injEq,
      signatureLength_iff hsize (Nat.le_trans (Nat.le_add_right 436 _) hnext)]
    exact and_congr_right fun _ => eq_comm
  · intro _ signature
    exact exists_eq_left

/-- A computation that ends without an error, or with no result. -/
def RefusesError {α : Type} (m : Parse α) : Prop :=
  ∀ parser a parser', m.run parser = some (a, parser') → parser'.hasError = false

theorem RefusesError.bind {α β : Type} {m : Parse α} {f : α → Parse β}
    (hf : ∀ a, RefusesError (f a)) : RefusesError (m >>= f) := by
  intro parser b parser' hrun
  rw [StateT.run_bind, Option.bind_eq_bind, Option.bind_eq_some_iff] at hrun
  obtain ⟨⟨a, parser₁⟩, -, hsecond⟩ := hrun
  exact hf a parser₁ b parser' hsecond

theorem refusesError_pure {α : Type} (a : α) : RefusesError (refuseError >>= fun _ => pure a) := by
  intro parser b parser' hrun
  rw [StateT.run_bind, Option.bind_eq_bind, Option.bind_eq_some_iff] at hrun
  obtain ⟨⟨_, parser₁⟩, hfirst, hsecond⟩ := hrun
  obtain ⟨hnone, rfl⟩ := run_refuseError_iff.mp hfirst
  obtain ⟨rfl, rfl⟩ := Prod.mk.inj (Option.some.inj hsecond)
  exact hnone

/-- The results of a computation from the beginning. -/
theorem run'_eq_some_iff {α : Type} {m : Parse α} {next : ℕ} {R : α → Prop} {a : α}
    (hends : Ends data 0 m next R) (hrefuses : RefusesError m) :
    m.run' (initWithData data true) = some a ↔ next ≤ data.length ∧ R a := by
  rw [StateT.run'_eq, Option.map_eq_map, Option.map_eq_some_iff]
  constructor
  · rintro ⟨⟨a, parser⟩, hrun, rfl⟩
    obtain ⟨hnext, hR, -⟩ := (hends.run_iff (Nat.zero_le _) a parser).mp
      ⟨hrun, hrefuses _ a parser hrun⟩
    exact ⟨hnext, hR⟩
  · rintro ⟨hnext, hR⟩
    obtain ⟨hrun, -⟩ := (hends.run_iff (Nat.zero_le _) a _).mpr ⟨hnext, hR, rfl⟩
    exact ⟨_, hrun, rfl⟩

theorem bytesAt_signature {length : ℕ} (hlength : data.length = 436 + length) :
    bytesAt data 436 length = data.drop 436 := by
  refine List.take_of_length_le ?_
  rw [List.length_drop]
  omega

/-- **A quote is parsed** exactly from the byte strings that are quotes. -/
theorem CDSQuote.parseQuoteFromData_eq_some_iff (hsize : data.length < 2 ^ 64) {quote : CDSQuote} :
    parseQuoteFromData data = some quote ↔ IsQuoteData data ∧ quote = quoteAt data := by
  have hends := ends_parseQuoteBody.bind (Nat.le_trans (by decide) (Nat.le_add_right 436 _))
    fun body => (ends_parseQuoteSignature hsize).bind (Nat.le_refl _) fun signature =>
      ends_refuseError.bind (Nat.le_refl _) fun _ =>
        ends_pure ({ toCDSQuoteBody := body, signature := signature } : CDSQuote)
  rw [parseQuoteFromData, parseQuote, run'_eq_some_iff hends
    (.bind fun body => .bind fun signature => refusesError_pure _)]
  constructor
  · rintro ⟨hnext, body, ⟨hbody, rfl⟩, signature, ⟨hlength, rfl⟩, -, -, rfl⟩
    refine ⟨{ hbody with length := hlength }, ?_⟩
    rw [bytesAt_signature hlength]
    rfl
  · rintro ⟨h, rfl⟩
    refine ⟨Nat.le_of_eq h.length.symm, _, ⟨h.toIsQuoteBodyData, rfl⟩, _, ⟨h.length, rfl⟩, (),
      trivial, ?_⟩
    rw [bytesAt_signature h.length]
    rfl

/-! ## The bytes that are read -/

/-- **A quote that was parsed** has in front of its signature what `parseQuoteBody` reads
from its data, without an error. -/
theorem CDSQuote.exists_run_of_parseQuoteFromData {quoteData : NSData} {quote : CDSQuote}
    (h : parseQuoteFromData quoteData = some quote) :
    ∃ parser', StateT.run parseQuoteBody (initWithData quoteData true) =
        some (quote.toCDSQuoteBody, parser') ∧
      parser'.hasError = false := by
  rw [parseQuoteFromData, StateT.run'_eq, Option.map_eq_map, Option.map_eq_some_iff] at h
  obtain ⟨⟨_, parser₃⟩, hrun, rfl⟩ := h
  rw [parseQuote, StateT.run_bind, Option.bind_eq_bind, Option.bind_eq_some_iff] at hrun
  obtain ⟨⟨body, parser₁⟩, hbody, hrun⟩ := hrun
  rw [StateT.run_bind, Option.bind_eq_bind, Option.bind_eq_some_iff] at hrun
  obtain ⟨⟨signature, parser₂⟩, hsignature, hrun⟩ := hrun
  rw [StateT.run_bind, Option.bind_eq_bind, Option.bind_eq_some_iff] at hrun
  obtain ⟨⟨_, _⟩, hrefuse, hreturn⟩ := hrun
  obtain ⟨rfl, rfl⟩ := Prod.mk.inj (Option.some.inj hreturn)
  have herror₂ : parser₂.hasError = false := (run_refuseError_iff.mp hrefuse).1
  refine ⟨parser₁, hbody, ?_⟩
  cases herror : parser₁.hasError with
  | false => rfl
  | true =>
      have := keepsError_parseQuoteSignature quoteData parser₁ signature parser₂ hsignature
        herror
      rw [herror₂] at this
      cases this

theorem bytesAt_take {offset length k : ℕ} (hle : offset + length ≤ k) :
    bytesAt (data.take k) offset length = bytesAt data offset length := by
  rw [bytesAt, List.drop_take, List.take_take, Nat.min_eq_left (by omega), bytesAt]

/-- **The fields in front of the signature are in the first 432 bytes.** -/
theorem quoteBodyAt_take : quoteBodyAt (data.take 432) = quoteBodyAt data := by
  simp only [quoteBodyAt, shortAt, intAt, longAt, bytesAt_take, Nat.reduceAdd, Nat.reduceLeDiff]

theorem isQuoteBodyData_take : IsQuoteBodyData (data.take 432) ↔ IsQuoteBodyData data := by
  simp only [isQuoteBodyData_iff, shortAt, longAt, zeroAt, bytesAt_take, Nat.reduceAdd,
    Nat.reduceLeDiff]

/-- **What is read does not depend on the copy**: other data with the same first 432 bytes
has the same fields. -/
theorem CDSQuote.parseQuoteBody_of_take_eq {quoteData other : NSData} {quote : CDSQuote}
    (h : parseQuoteFromData quoteData = some quote)
    (hsame : other.take 432 = quoteData.take 432) :
    quote.IsInitialised64Bit ∧
      StateT.run parseQuoteBody (initWithData other true) =
        some (quote.toCDSQuoteBody, reached other 432) := by
  obtain ⟨parser', hrun, herror⟩ := exists_run_of_parseQuoteFromData h
  obtain ⟨hlength, ⟨hbody, hquote⟩, -⟩ :=
    (ends_parseQuoteBody.run_iff (Nat.zero_le _) _ _).mp ⟨hrun, herror⟩
  have hother : 432 ≤ other.length := by
    have hlengths := congrArg List.length hsame
    rw [List.length_take, List.length_take] at hlengths
    omega
  rw [hquote]
  refine ⟨hbody.flags.2, ?_⟩
  rw [← isQuoteBodyData_take, ← hsame, isQuoteBodyData_take] at hbody
  rw [← quoteBodyAt_take, ← hsame, quoteBodyAt_take]
  exact ((ends_parseQuoteBody.run_iff (Nat.zero_le _) _ _).mpr ⟨hother, ⟨hbody, rfl⟩, rfl⟩).1

/-! ## Writing a quote -/

/-- The byte string of a quote. -/
def CDSQuote.serialized (quote : CDSQuote) : NSData :=
  ByteOrder.bytes 2 quote.version.toNat ++ ByteOrder.bytes 2 quote.signType.toNat ++
    ByteOrder.bytes 4 quote.gid.toNat ++ ByteOrder.bytes 2 quote.qeSvn.toNat ++
    ByteOrder.bytes 2 quote.pceSvn.toNat ++ List.replicate 4 0 ++ quote.basename ++ quote.cpuSvn ++
    List.replicate 4 0 ++ List.replicate 28 0 ++ ByteOrder.bytes 8 quote.flags.toNat ++
    ByteOrder.bytes 8 quote.xfrm.toNat ++ quote.mrenclave ++ List.replicate 32 0 ++
    quote.mrsigner ++ List.replicate 96 0 ++ ByteOrder.bytes 2 quote.isvProdId.toNat ++
    ByteOrder.bytes 2 quote.isvSvn.toNat ++ List.replicate 60 0 ++ quote.reportData ++
    ByteOrder.bytes 4 quote.signature.length ++ quote.signature

theorem length_bytesAt {offset length : ℕ} (hlength : offset + length ≤ data.length) :
    (bytesAt data offset length).length = length := by
  rw [bytesAt, List.length_take, List.length_drop]
  omega

theorem bytes_value_bytesAt {offset length : ℕ} (hlength : offset + length ≤ data.length) :
    ByteOrder.bytes length (ByteOrder.value (bytesAt data offset length)) =
      bytesAt data offset length := by
  have hbytes := ByteOrder.bytes_value (bytesAt data offset length)
  rwa [length_bytesAt hlength] at hbytes

theorem bytes_shortAt (hlength : offset + 2 ≤ data.length) :
    ByteOrder.bytes 2 (shortAt data offset).toNat = bytesAt data offset 2 := by
  rw [toNat_shortAt, bytes_value_bytesAt hlength]

theorem bytes_intAt (hlength : offset + 4 ≤ data.length) :
    ByteOrder.bytes 4 (intAt data offset).toNat = bytesAt data offset 4 := by
  rw [toNat_intAt, bytes_value_bytesAt hlength]

theorem bytes_longAt (hlength : offset + 8 ≤ data.length) :
    ByteOrder.bytes 8 (longAt data offset).toNat = bytesAt data offset 8 := by
  rw [toNat_longAt, bytes_value_bytesAt hlength]

theorem replicate_eq_bytesAt {offset length : ℕ} (hlength : offset + length ≤ data.length)
    (hzero : zeroAt data offset length = true) :
    List.replicate length 0 = bytesAt data offset length := by
  refine (List.eq_replicate_iff.mpr ⟨length_bytesAt hlength, fun byte hbyte => ?_⟩).symm
  exact beq_iff_eq.mp (List.all_eq_true.mp hzero byte hbyte)

/-- A field in front of the rest. -/
theorem bytesAt_append {offset length next : ℕ} (hnext : offset + length = next) :
    bytesAt data offset length ++ data.drop next = data.drop offset := by
  rw [← hnext, ← List.drop_drop, bytesAt, List.take_append_drop]

/-- **Writing the fields back gives the byte string.** -/
theorem CDSQuote.serialized_quoteAt (h : IsQuoteData data) : (quoteAt data).serialized = data := by
  have hlength : 436 ≤ data.length := by
    have := h.length
    omega
  have hsignature : (data.drop 436).length = (intAt data 432).toNat := by
    rw [List.length_drop, h.length, Nat.add_sub_cancel_left]
  -- What is written, as the bytes that were read.
  have hshort : ∀ offset, offset + 2 ≤ 436 →
      ByteOrder.bytes 2 (shortAt data offset).toNat = bytesAt data offset 2 :=
    fun offset hle => bytes_shortAt (Nat.le_trans hle hlength)
  have hint : ∀ offset, offset + 4 ≤ 436 →
      ByteOrder.bytes 4 (intAt data offset).toNat = bytesAt data offset 4 :=
    fun offset hle => bytes_intAt (Nat.le_trans hle hlength)
  have hlong : ∀ offset, offset + 8 ≤ 436 →
      ByteOrder.bytes 8 (longAt data offset).toNat = bytesAt data offset 8 :=
    fun offset hle => bytes_longAt (Nat.le_trans hle hlength)
  have hzero : ∀ offset length, offset + length ≤ 436 → zeroAt data offset length = true →
      List.replicate length 0 = bytesAt data offset length :=
    fun offset length hle => replicate_eq_bytesAt (Nat.le_trans hle hlength)
  unfold serialized quoteAt quoteBodyAt
  dsimp only
  rw [hsignature, hshort 0 (by decide), hshort 2 (by decide), hint 4 (by decide),
    hshort 8 (by decide), hshort 10 (by decide), hlong 96 (by decide), hlong 104 (by decide),
    hzero 208 96 (by decide) h.reserved3, hshort 304 (by decide), hshort 306 (by decide),
    hint 432 (by decide)]
  simp only [List.append_assoc]
  -- From the end, each field is put in front of the rest.
  rw [bytesAt_append (show 432 + 4 = 436 from rfl), bytesAt_append (show 368 + 64 = 432 from rfl),
    hzero 308 60 (by decide) h.reserved4, bytesAt_append (show 308 + 60 = 368 from rfl),
    bytesAt_append (show 306 + 2 = 308 from rfl), bytesAt_append (show 304 + 2 = 306 from rfl),
    bytesAt_append (show 208 + 96 = 304 from rfl), bytesAt_append (show 176 + 32 = 208 from rfl),
    hzero 144 32 (by decide) h.reserved2, bytesAt_append (show 144 + 32 = 176 from rfl),
    bytesAt_append (show 112 + 32 = 144 from rfl), bytesAt_append (show 104 + 8 = 112 from rfl),
    bytesAt_append (show 96 + 8 = 104 from rfl), hzero 68 28 (by decide) h.reserved1,
    bytesAt_append (show 68 + 28 = 96 from rfl)]
  -- Two reserved fields of one length.
  rw [hzero 64 4 (by decide) h.miscSelect, bytesAt_append (show 64 + 4 = 68 from rfl),
    ← hzero 64 4 (by decide) h.miscSelect, bytesAt_append (show 48 + 16 = 64 from rfl),
    bytesAt_append (show 16 + 32 = 48 from rfl), hzero 12 4 (by decide) h.xeid,
    bytesAt_append (show 12 + 4 = 16 from rfl), bytesAt_append (show 10 + 2 = 12 from rfl),
    bytesAt_append (show 8 + 2 = 10 from rfl), bytesAt_append (show 4 + 4 = 8 from rfl),
    bytesAt_append (show 2 + 2 = 4 from rfl), bytesAt_append (show 0 + 2 = 2 from rfl),
    List.drop_zero]

end ObjcSwiftLearning.SignalServiceKit
