import ObjcSwiftLearning.AxolotlKit.Foundation
import ObjcSwiftLearning.Library.Base128

/-!
# The stream of a sync message

`OWSChunkedOutputStream` writes bytes, data and lengths to a stream that takes as much of each as
it likes.

* `ChunkedOutputStream.writeData`, `writeVariableLengthUInt32` — with their loops.
* `Appends` — what has been written, without an error.
* `ChunkedOutputStream.appends_writeDataLoop` — **nothing is lost or repeated.**
* `ChunkedOutputStream.appends_writeVariableLengthUInt32` — a length is written in base 128.
-/

namespace ObjcSwiftLearning.SignalServiceKit

open AxolotlKit

/-! ## `OWSChunkedOutputStream` -/

/-- `NSOutputStream`. -/
structure OutputStream where
  written : NSData
  /-- How often it has been written to. -/
  writes : ℕ
  /-- How many of the bytes it is offered it takes, each time; a number below 1 is an error. -/
  accepts : ℕ → ℕ → ℤ

/-- `write:maxLength:`. -/
def OutputStream.write (stream : OutputStream) (bytes : NSData) : ℤ × OutputStream :=
  let count := stream.accepts stream.writes bytes.length
  (count, { stream with
    written := stream.written ++ bytes.take count.toNat
    writes := stream.writes + 1 })

structure ChunkedOutputStream where
  outputStream : OutputStream
  hasError : Bool

namespace ChunkedOutputStream

def writeByte (stream : ChunkedOutputStream) (value : UInt8) : Bool × ChunkedOutputStream :=
  let (written, outputStream) := stream.outputStream.write [value]
  if written ≠ 1 then (false, { outputStream, hasError := true })
  else (true, { stream with outputStream })

def writeDataLoop (stream : ChunkedOutputStream) (data : NSData) : Bool × ChunkedOutputStream :=
  let outputStream := (stream.outputStream.write data).2
  if (stream.outputStream.write data).1 < 1 then (false, { outputStream, hasError := true })
  else if (stream.outputStream.write data).1 < data.length then
    writeDataLoop { stream with outputStream } (data.drop (stream.outputStream.write data).1.toNat)
  else (true, { stream with outputStream })
termination_by data.length
decreasing_by
  rw [List.length_drop]
  omega

def writeData (stream : ChunkedOutputStream) (data : NSData) : Bool × ChunkedOutputStream :=
  if data.length < 1 then (true, stream) else stream.writeDataLoop data

end ChunkedOutputStream

theorem toNat_shiftRight_seven (value : UInt32) : (value >>> 7).toNat = value.toNat / 128 := by
  rw [UInt32.toNat_shiftRight]
  exact Nat.shiftRight_eq_div_pow _ _

/-- Seven bits, and the highest. -/
theorem toUInt8_continued (value : UInt32) :
    ((value &&& 0x7F) ||| 0x80).toUInt8 = UInt8.ofNat (value.toNat % 128 + 128) := by
  have hlow : value.toNat &&& (2 ^ 7 - 1) = value.toNat % 2 ^ 7 :=
    Nat.and_two_pow_sub_one_eq_mod _ _
  have hhigh : 2 ^ 7 * 1 + value.toNat % 2 ^ 7 = 2 ^ 7 * 1 ||| value.toNat % 2 ^ 7 :=
    Nat.two_pow_add_eq_or_of_lt (Nat.mod_lt _ (by decide)) 1
  have hor : ((value &&& 0x7F) ||| 0x80).toNat = value.toNat % 128 + 128 := by
    rw [UInt32.toNat_or, UInt32.toNat_and, Nat.or_comm, Nat.add_comm]
    exact (congrArg (2 ^ 7 * 1 ||| ·) hlow).trans hhigh.symm
  refine UInt8.toNat_inj.mp ?_
  rw [UInt32.toNat_toUInt8, hor, UInt8.toNat_ofNat']

namespace ChunkedOutputStream

def writeVariableLengthUInt32 (stream : ChunkedOutputStream) (value : UInt32) :
    Bool × ChunkedOutputStream :=
  if value ≤ 0x7F then stream.writeByte value.toUInt8
  else
    let result := stream.writeByte ((value &&& 0x7F) ||| 0x80).toUInt8
    if !result.1 then (false, result.2)
    else result.2.writeVariableLengthUInt32 (value >>> 7)
termination_by value.toNat
decreasing_by
  have hlarge : ¬value.toNat ≤ 127 := by assumption
  rw [toNat_shiftRight_seven]
  omega

end ChunkedOutputStream

/-! ## What is written -/

/-- A stream that takes between one and all bytes that it is offered. -/
def OutputStream.Accepts (stream : OutputStream) : Prop :=
  ∀ time offered, 0 < offered →
    1 ≤ stream.accepts time offered ∧ stream.accepts time offered ≤ offered

/-- A stream that has been written to without an error. -/
structure Appends (stream : ChunkedOutputStream) (data : NSData) (stream' : ChunkedOutputStream) :
    Prop where
  written : stream'.outputStream.written = stream.outputStream.written ++ data
  accepts : stream'.outputStream.accepts = stream.outputStream.accepts
  hasError : stream'.hasError = stream.hasError

namespace Appends

variable {stream stream' stream'' : ChunkedOutputStream} {data data' : NSData}

theorem refl (stream : ChunkedOutputStream) : Appends stream [] stream where
  written := (List.append_nil _).symm
  accepts := rfl
  hasError := rfl

theorem trans (h : Appends stream data stream') (h' : Appends stream' data' stream'') :
    Appends stream (data ++ data') stream'' where
  written := by rw [h'.written, h.written, List.append_assoc]
  accepts := h'.accepts.trans h.accepts
  hasError := h'.hasError.trans h.hasError

theorem outputStream_accepts (h : Appends stream data stream')
    (haccepts : stream.outputStream.Accepts) : stream'.outputStream.Accepts := by
  rw [OutputStream.Accepts, h.accepts]
  exact haccepts

end Appends

namespace ChunkedOutputStream

variable {stream : ChunkedOutputStream}

section

variable (haccepts : stream.outputStream.Accepts)
include haccepts

theorem appends_writeByte (value : UInt8) :
    (stream.writeByte value).1 = true ∧ Appends stream [value] (stream.writeByte value).2 := by
  obtain ⟨hone, hle⟩ := haccepts stream.outputStream.writes 1 (by decide)
  have hcount : stream.outputStream.accepts stream.outputStream.writes 1 = 1 := by omega
  have hwrite : stream.writeByte value = (true, { stream with outputStream :=
      { stream.outputStream with
        written := stream.outputStream.written ++ [value]
        writes := stream.outputStream.writes + 1 } }) := by
    simp only [writeByte, OutputStream.write, List.length_singleton, hcount]
    rfl
  rw [hwrite]
  exact ⟨rfl, rfl, rfl, rfl⟩

/-- **Nothing is lost or repeated**, however much is taken each time. -/
theorem appends_writeDataLoop {data : NSData} (hne : 0 < data.length) :
    (stream.writeDataLoop data).1 = true ∧
      Appends stream data (stream.writeDataLoop data).2 := by
  induction hlength : data.length using Nat.strongRecOn generalizing stream data with
  | ind length ih =>
      subst hlength
      obtain ⟨hone, hle⟩ := haccepts stream.outputStream.writes data.length hne
      have hcount : (stream.outputStream.write data).1 =
          stream.outputStream.accepts stream.outputStream.writes data.length := rfl
      have htaken : Appends stream (data.take (stream.outputStream.write data).1.toNat)
          { stream with outputStream := (stream.outputStream.write data).2 } := ⟨rfl, rfl, rfl⟩
      rw [writeDataLoop, if_neg (by omega)]
      split
      · next hless =>
          have hrest := ih (data.drop (stream.outputStream.write data).1.toNat).length
            (by rw [List.length_drop]; omega) (htaken.outputStream_accepts haccepts)
            (by rw [List.length_drop]; omega) rfl
          refine ⟨hrest.1, ?_⟩
          have happended := htaken.trans hrest.2
          rwa [List.take_append_drop] at happended
      · next hall =>
          rw [List.take_of_length_le (by omega)] at htaken
          exact ⟨rfl, htaken⟩

theorem appends_writeData (data : NSData) : Appends stream data (stream.writeData data).2 := by
  unfold writeData
  split
  · next hnone =>
      obtain rfl := List.eq_nil_of_length_eq_zero (Nat.lt_one_iff.mp hnone)
      exact .refl stream
  · next hsome => exact (appends_writeDataLoop haccepts (by omega)).2

/-- **A length is written in base 128.** -/
theorem appends_writeVariableLengthUInt32 (value : UInt32) :
    Appends stream (Base128.write value.toNat) (stream.writeVariableLengthUInt32 value).2 := by
  induction hvalue : value.toNat using Nat.strongRecOn generalizing stream value with
  | ind number ih =>
      subst hvalue
      by_cases hsmall : value ≤ 0x7F
      · have hlt : value.toNat < 128 := Nat.lt_succ_of_le hsmall
        have hbyte : value.toUInt8 = UInt8.ofNat value.toNat := rfl
        rw [writeVariableLengthUInt32, if_pos hsmall, Base128.write_of_lt hlt, ← hbyte]
        exact (appends_writeByte haccepts _).2
      · have hle : 128 ≤ value.toNat := Nat.lt_of_not_le hsmall
        have hbyte := toUInt8_continued value
        obtain ⟨hwrote, hfirst⟩ := appends_writeByte haccepts
          ((value &&& 0x7F) ||| 0x80).toUInt8
        have hrest := ih (value >>> 7).toNat (by rw [toNat_shiftRight_seven]; omega)
          (hfirst.outputStream_accepts haccepts) _ rfl
        rw [writeVariableLengthUInt32, if_neg hsmall, Base128.write_of_le hle, ← hbyte]
        simp only [hwrote]
        rw [toNat_shiftRight_seven] at hrest
        exact hfirst.trans hrest

end

end ChunkedOutputStream

end ObjcSwiftLearning.SignalServiceKit
