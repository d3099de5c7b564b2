import Mathlib.Data.List.ReduceOption
import ObjcSwiftLearning.SignalServiceKit.ChunkedOutputStream
import ObjcSwiftLearning.SignalServiceKit.ReceivedContent
import ObjcSwiftLearning.SignalServiceKit.VerifiedIdentities

/-!
# Contacts and groups as a stream

Contacts and groups are sent to a linked device as a stream: for each, the length of its record,
the record, and the avatar that the record announces.

* `SyncProtos.writeSignalAccount`, `writeGroup` — the two writers.
* `SyncFrame`, `SyncProtos.readFrames` — a record with its avatar, and the reader.
* `SyncProtos.readFrames_flatMap` — frames are read as they were written.
* `SyncProtos.framed_iff` — **every record is followed by the avatar it announces** if and only if
  no length is cut.
-/

namespace ObjcSwiftLearning.SignalServiceKit

open AxolotlKit

/-! ## The records -/

/-- The avatar of a contact's or a group's details, with the fields that have been set. -/
structure SSKProtoDetailsAvatar where
  contentType : Option String := none
  length : Option UInt32 := none
  deriving DecidableEq

/-- `build` of either avatar's builder: no field is required. -/
def SSKProtoDetailsAvatar.parseProto (proto : SSKProtoDetailsAvatar) :
    Option SSKProtoDetailsAvatar := some proto

/-- What the builder of a `SSKProtoVerified` has so far. -/
structure SignalServiceProtos.Verified where
  destination : Option String := none
  identityKey : Option NSData := none
  state : SSKProtoVerifiedState := .default

def SSKProtoVerified.parseProto (proto : SignalServiceProtos.Verified) :
    Option SSKProtoVerified := do
  let destination ← proto.destination
  return { destination, identityKey := proto.identityKey, state := proto.state }

structure SSKProtoContactDetails where
  number : String
  name : String
  color : String
  verified : Option SSKProtoVerified
  avatar : Option SSKProtoDetailsAvatar
  profileKey : Option NSData
  expireTimer : UInt32
  blocked : Bool
  deriving DecidableEq

structure SSKProtoGroupDetails where
  id : NSData
  name : String
  members : List String
  color : String
  avatar : Option SSKProtoDetailsAvatar
  expireTimer : UInt32
  blocked : Bool
  deriving DecidableEq

/-- What a record is about. -/
inductive DetailsKind where
  | contact
  | group
  deriving DecidableEq

inductive DetailsRecord where
  | contact (details : SSKProtoContactDetails)
  | group (details : SSKProtoGroupDetails)
  deriving DecidableEq

namespace DetailsRecord

/-- What it is about. -/
def kind : DetailsRecord → DetailsKind
  | contact _ => .contact
  | group _ => .group

/-- The field `avatar`. -/
def avatar : DetailsRecord → Option SSKProtoDetailsAvatar
  | contact details => details.avatar
  | group details => details.avatar

/-- How many bytes of an avatar follow it. -/
def announced (record : DetailsRecord) : ℕ :=
  record.avatar.elim 0 fun avatar => (avatar.length.getD 0).toNat

end DetailsRecord

/-- The protobuf layer; a record is read as it was written. -/
structure SyncProtos where
  /-- `buildSerializedDataAndReturnError:`. -/
  serialize : DetailsRecord → Option NSData
  parse : DetailsKind → NSData → Option DetailsRecord
  parse_serialize : ∀ {record data},
    serialize record = some data → parse record.kind data = some record

/-! ## The writers -/

def owsMimeTypeImagePng : String := "image/png"

def owsVerificationStateToProtoState : OWSVerificationState → SSKProtoVerifiedState
  | .default => .default
  | .verified => .verified
  | .noLongerVerified => .unverified

/-- `BuildVerifiedProtoWithRecipientId`, without padding. -/
def buildVerifiedProtoWithRecipientId (destinationRecipientId : String)
    (identityKey : Option NSData) (verificationState : OWSVerificationState) :
    Option SSKProtoVerified :=
  SSKProtoVerified.parseProto {
    destination := some destinationRecipientId
    identityKey
    state := owsVerificationStateToProtoState verificationState }

/-- The timer is always set, so that "off" is told from "not specified". -/
def OWSDisappearingMessagesConfiguration.expireTimer :
    Option OWSDisappearingMessagesConfiguration → UInt32
  | none => 0
  | some configuration => if configuration.isEnabled then configuration.durationSeconds else 0

/-- What `writeSignalAccount:…` is given and looks up. -/
structure SignalAccountCall where
  recipientId : String
  fullName : String
  conversationColorName : String
  /-- With its `recipientId`. -/
  recipientIdentity : Option (String × OWSRecipientIdentity)
  /-- `rawAvatar`, by what `UIImagePNGRepresentation` answers. -/
  rawAvatar : Option (Option NSData)
  profileKeyData : Option NSData
  disappearingMessagesConfiguration : Option OWSDisappearingMessagesConfiguration
  isRecipientIdBlocked : Bool

namespace SignalAccountCall

variable (call : SignalAccountCall)

def avatarPng : Option NSData := call.rawAvatar.join

/-- `verified`; nothing where `writeSignalAccount:…` returns. -/
def verified : Option (Option SSKProtoVerified) :=
  match call.recipientIdentity with
  | none => some none
  | some (recipientId, recipientIdentity) =>
      (buildVerifiedProtoWithRecipientId recipientId
        (recipientIdentity.identityKey.map prependKeyType)
        recipientIdentity.verificationState).map some

/-- `avatar`; nothing where `writeSignalAccount:…` returns. -/
def avatar : Option (Option SSKProtoDetailsAvatar) :=
  match call.avatarPng with
  | none => some none
  | some avatarPng =>
      (SSKProtoDetailsAvatar.parseProto {
        contentType := some owsMimeTypeImagePng
        length := some (UInt32.ofNat avatarPng.length) }).map some

/-- `contactBuilder`; nothing where `writeSignalAccount:…` returns. -/
def details : Option SSKProtoContactDetails := do
  let verified ← call.verified
  let avatar ← call.avatar
  some {
    number := call.recipientId
    name := call.fullName
    color := call.conversationColorName
    verified
    avatar
    profileKey := call.profileKeyData
    expireTimer := OWSDisappearingMessagesConfiguration.expireTimer
      call.disappearingMessagesConfiguration
    blocked := call.isRecipientIdBlocked }

end SignalAccountCall

/-- What `writeGroup:transaction:` is given and looks up. -/
structure GroupCall where
  groupId : NSData
  groupName : Option String
  groupMemberIds : List String
  conversationColorName : String
  /-- `groupImage`, by what `UIImagePNGRepresentation` answers. -/
  groupImage : Option (Option NSData)
  disappearingMessagesConfiguration : Option OWSDisappearingMessagesConfiguration
  isGroupIdBlocked : Bool

namespace GroupCall

variable (call : GroupCall)

def avatarPng : Option NSData := call.groupImage.join

/-- `avatarProto`, where it is built. -/
def avatar : Option SSKProtoDetailsAvatar :=
  if call.groupImage.isSome then
    SSKProtoDetailsAvatar.parseProto {
      contentType := some owsMimeTypeImagePng
      length := some (UInt32.ofNat (call.avatarPng.elim 0 List.length)) }
  else none

/-- `groupBuilder`; no name becomes an empty one. -/
def details : SSKProtoGroupDetails where
  id := call.groupId
  name := call.groupName.getD ""
  members := call.groupMemberIds
  color := call.conversationColorName
  avatar := call.avatar
  expireTimer := OWSDisappearingMessagesConfiguration.expireTimer
    call.disappearingMessagesConfiguration
  blocked := call.isGroupIdBlocked

end GroupCall

/-- The end of both writers: the length, the record, and the avatar. -/
def ChunkedOutputStream.writeDetails (stream : ChunkedOutputStream) (data : NSData)
    (avatarPng : Option NSData) : ChunkedOutputStream :=
  let stream := (stream.writeVariableLengthUInt32 (UInt32.ofNat data.length)).2
  let stream := (stream.writeData data).2
  match avatarPng with
  | none => stream
  | some avatarPng => (stream.writeData avatarPng).2

namespace SyncProtos

variable (P : SyncProtos)

/-- `writeSignalAccount:recipientIdentity:profileKeyData:contactsManager:…`. -/
def writeSignalAccount (stream : ChunkedOutputStream) (call : SignalAccountCall) :
    ChunkedOutputStream :=
  match call.details.bind fun details => P.serialize (.contact details) with
  | none => stream
  | some contactData => stream.writeDetails contactData call.avatarPng

/-- `writeGroup:transaction:`. -/
def writeGroup (stream : ChunkedOutputStream) (call : GroupCall) : ChunkedOutputStream :=
  match P.serialize (.group call.details) with
  | none => stream
  | some groupData => stream.writeDetails groupData call.avatarPng

end SyncProtos

inductive SyncCall where
  | signalAccount (call : SignalAccountCall)
  | group (call : GroupCall)

namespace SyncCall

def record : SyncCall → Option DetailsRecord
  | signalAccount call => call.details.map .contact
  | group call => some (.group call.details)

def avatarPng : SyncCall → Option NSData
  | signalAccount call => call.avatarPng
  | group call => call.avatarPng

end SyncCall

namespace SyncProtos

variable (P : SyncProtos)

def write (stream : ChunkedOutputStream) : SyncCall → ChunkedOutputStream
  | .signalAccount call => P.writeSignalAccount stream call
  | .group call => P.writeGroup stream call

def run (stream : ChunkedOutputStream) (calls : List SyncCall) : ChunkedOutputStream :=
  calls.foldl P.write stream

def written (call : SyncCall) : Option (DetailsRecord × NSData) :=
  call.record.bind fun record => (P.serialize record).map fun data => (record, data)

/-- The bytes that a call writes. -/
def appended (call : SyncCall) : NSData :=
  match P.written call with
  | none => []
  | some (_, data) =>
      Base128.write (UInt32.ofNat data.length).toNat ++ (data ++ call.avatarPng.getD [])

variable {P} {stream : ChunkedOutputStream}

theorem appends_writeDetails (haccepts : stream.outputStream.Accepts) (data : NSData)
    (avatarPng : Option NSData) :
    Appends stream
      (Base128.write (UInt32.ofNat data.length).toNat ++ (data ++ avatarPng.getD []))
      (stream.writeDetails data avatarPng) := by
  have hlength := ChunkedOutputStream.appends_writeVariableLengthUInt32 haccepts
    (UInt32.ofNat data.length)
  have hdata := ChunkedOutputStream.appends_writeData (hlength.outputStream_accepts haccepts) data
  have hrecord := hlength.trans hdata
  cases avatarPng with
  | none =>
      rw [Option.getD_none, List.append_nil]
      exact hrecord
  | some avatarPng =>
      rw [Option.getD_some, ← List.append_assoc]
      exact hrecord.trans
        (ChunkedOutputStream.appends_writeData (hrecord.outputStream_accepts haccepts) avatarPng)

/-- Both writers end alike. -/
theorem write_eq (call : SyncCall) :
    P.write stream call = match P.written call with
      | none => stream
      | some (_, data) => stream.writeDetails data call.avatarPng := by
  cases call with
  | signalAccount call =>
      simp only [write, writeSignalAccount, written, SyncCall.record, SyncCall.avatarPng]
      cases call.details with
      | none => rfl
      | some details =>
          simp only [Option.map_some, Option.bind_some]
          cases P.serialize (.contact details) with
          | none => rfl
          | some data => rfl
  | group call =>
      simp only [write, writeGroup, written, SyncCall.record, SyncCall.avatarPng,
        Option.bind_some]
      cases P.serialize (.group call.details) with
      | none => rfl
      | some data => rfl

/-- **Both writers write** the length, the record and the avatar; or nothing. -/
theorem appends_write (haccepts : stream.outputStream.Accepts) (call : SyncCall) :
    Appends stream (P.appended call) (P.write stream call) := by
  rw [write_eq, appended]
  cases P.written call with
  | none => exact .refl stream
  | some written => exact appends_writeDetails haccepts written.2 call.avatarPng

end SyncProtos

/-! ## What a reader makes of it -/

/-- A record of the stream, its bytes, and the bytes of the avatar after it. -/
structure SyncFrame where
  record : DetailsRecord
  data : NSData
  avatar : NSData

namespace SyncFrame

/-- The length of the record, the record, and the avatar. -/
def bytes (frame : SyncFrame) : NSData :=
  Base128.write frame.data.length ++ (frame.data ++ frame.avatar)

/-- What a reader is to make of it. -/
def contents (frame : SyncFrame) : DetailsRecord × NSData := (frame.record, frame.avatar)

/-- A serialized record that announces its avatar. -/
def IsFrame (P : SyncProtos) (frame : SyncFrame) : Prop :=
  P.serialize frame.record = some frame.data ∧ frame.avatar.length = frame.record.announced

end SyncFrame

namespace SyncProtos

variable (P : SyncProtos)

/-- The first record and its avatar, and what follows them. -/
def readFrame (kind : DetailsKind) (bytes : NSData) :
    Option ((DetailsRecord × NSData) × NSData) := do
  let (length, rest) ← Base128.read bytes
  guard (length ≤ rest.length)
  let record ← P.parse kind (rest.take length)
  let rest := rest.drop length
  guard (record.announced ≤ rest.length)
  some ((record, rest.take record.announced), rest.drop record.announced)

variable {P}

theorem length_of_readFrame {kind : DetailsKind} {bytes : NSData}
    {result : (DetailsRecord × NSData) × NSData} (hread : P.readFrame kind bytes = some result) :
    result.2.length < bytes.length := by
  unfold readFrame at hread
  obtain ⟨⟨length, rest⟩, hlength, hread⟩ := Option.bind_eq_some_iff.mp hread
  obtain ⟨-, -, hread⟩ := Option.bind_eq_some_iff.mp hread
  obtain ⟨record, -, hread⟩ := Option.bind_eq_some_iff.mp hread
  obtain ⟨-, -, hread⟩ := Option.bind_eq_some_iff.mp hread
  cases hread
  have hrest := Base128.length_of_read hlength
  simp only [List.length_drop]
  exact Nat.lt_of_le_of_lt ((Nat.sub_le _ _).trans (Nat.sub_le _ _)) hrest

variable (P)

/-- All records with their avatars; `kinds` says what each is about. -/
def readFrames (kinds : ℕ → DetailsKind) (bytes : NSData) :
    Option (List (DetailsRecord × NSData)) :=
  if bytes = [] then some []
  else
    match hread : P.readFrame (kinds 0) bytes with
    | none => none
    | some (contents, rest) =>
        (readFrames (fun index => kinds (index + 1)) rest).map (contents :: ·)
termination_by bytes.length
decreasing_by exact length_of_readFrame hread

variable {P}

theorem readFrame_bytes {frame : SyncFrame} (hframe : frame.IsFrame P) (rest : NSData) :
    P.readFrame frame.record.kind (frame.bytes ++ rest) = some (frame.contents, rest) := by
  obtain ⟨hserialize, hannounced⟩ := hframe
  have hparse := P.parse_serialize hserialize
  have hfits : frame.data.length ≤ (frame.data ++ frame.avatar ++ rest).length := by
    rw [List.append_assoc, List.length_append]
    exact Nat.le_add_right _ _
  have hannounces : frame.record.announced ≤ (frame.avatar ++ rest).length := by
    rw [List.length_append, hannounced]
    exact Nat.le_add_right _ _
  unfold readFrame SyncFrame.bytes
  rw [List.append_assoc, Base128.read_write]
  simp only [Option.bind_eq_bind, Option.bind_some, guard, if_pos hfits, Option.pure_def]
  rw [List.append_assoc, List.take_left', List.drop_left', hparse]
  · simp only [Option.bind_some, if_pos hannounces]
    rw [← hannounced, List.take_left', List.drop_left']
    · rfl
    · rfl
    · rfl
  · rfl
  · rfl

/-- **Frames are read as they were written.** -/
theorem readFrames_flatMap {frames : List SyncFrame} {kinds : ℕ → DetailsKind}
    (hframes : ∀ frame ∈ frames, frame.IsFrame P)
    (hkinds : ∀ index frame, frames[index]? = some frame → kinds index = frame.record.kind) :
    P.readFrames kinds (frames.flatMap SyncFrame.bytes) =
      some (frames.map SyncFrame.contents) := by
  induction frames generalizing kinds with
  | nil => rw [readFrames, List.flatMap_nil, if_pos rfl, List.map_nil]
  | cons frame frames ih =>
      have hframe := readFrame_bytes (hframes frame List.mem_cons_self)
        (frames.flatMap SyncFrame.bytes)
      have hne : frame.bytes ++ frames.flatMap SyncFrame.bytes ≠ [] := by
        intro hempty
        have hlength := Base128.length_of_read
          (Base128.read_write frame.data.length (frame.data ++ frame.avatar))
        rw [show Base128.write frame.data.length ++ (frame.data ++ frame.avatar) = [] from
          (List.append_eq_nil_iff.mp hempty).1] at hlength
        exact Nat.not_lt_zero _ hlength
      have hrest : P.readFrames (fun index => kinds (index + 1))
          (frames.flatMap SyncFrame.bytes) = some (frames.map SyncFrame.contents) :=
        ih (fun other hother => hframes other (List.mem_cons_of_mem _ hother))
          (fun index other hother => hkinds (index + 1) other hother)
      rw [← hkinds 0 frame rfl] at hframe
      rw [readFrames, List.flatMap_cons, if_neg hne]
      split
      · next hnone => rw [hframe] at hnone; cases hnone
      · next contents rest hsome =>
          rw [hframe] at hsome
          cases hsome
          rw [hrest]
          rfl

/-! ## When the stream can be read -/

variable (P)

def Writes (call : SyncCall) : Option SyncFrame → Prop
  | none => P.written call = none
  | some frame => P.written call = some (frame.record, frame.data) ∧ frame.IsFrame P

def HoldsFrames (stream : ChunkedOutputStream) (calls : List SyncCall)
    (frames : List (Option SyncFrame)) : Prop :=
  ∀ count, (P.run stream (calls.take count)).outputStream.written =
    stream.outputStream.written ++ (frames.take count).reduceOption.flatMap SyncFrame.bytes

/-- Each call writes its frame, and a reader recovers the records and avatars of all of them. -/
def Framed (stream : ChunkedOutputStream) (calls : List SyncCall) : Prop :=
  ∃ frames : List (Option SyncFrame),
    List.Forall₂ P.Writes calls frames ∧ P.HoldsFrames stream calls frames ∧
    ∀ kinds : ℕ → DetailsKind,
      (∀ index frame, frames.reduceOption[index]? = some frame →
        kinds index = frame.record.kind) →
      P.readFrames kinds (frames.reduceOption.flatMap SyncFrame.bytes) =
        some (frames.reduceOption.map SyncFrame.contents)

/-- If it writes a record, then neither that nor the avatar is longer than can be said. -/
def Fits (call : SyncCall) : Prop :=
  ∀ record data, P.written call = some (record, data) →
    data.length < 2 ^ 32 ∧ (call.avatarPng.getD []).length < 2 ^ 32

end SyncProtos

theorem toNat_ofNat_length_eq_iff (length : ℕ) :
    (UInt32.ofNat length).toNat = length ↔ length < 2 ^ 32 := by
  rw [UInt32.toNat_ofNat']
  exact Nat.mod_eq_iff_lt (by decide)

namespace SyncProtos

variable {P : SyncProtos}

/-- A contact is announced with the avatar that follows it, unless that is too long. -/
theorem announced_signalAccount {call : SignalAccountCall} {details : SSKProtoContactDetails}
    (hdetails : call.details = some details) :
    (DetailsRecord.contact details).announced = (call.avatarPng.getD []).length ↔
      (call.avatarPng.getD []).length < 2 ^ 32 := by
  obtain ⟨verified, -, hdetails⟩ := Option.bind_eq_some_iff.mp hdetails
  obtain ⟨avatar, havatar, hdetails⟩ := Option.bind_eq_some_iff.mp hdetails
  cases hdetails
  simp only [SignalAccountCall.avatar] at havatar
  simp only [DetailsRecord.announced, DetailsRecord.avatar]
  cases hpng : call.avatarPng with
  | none =>
      rw [hpng] at havatar
      cases havatar
      exact iff_of_true rfl (by decide)
  | some avatarPng =>
      rw [hpng] at havatar
      cases havatar
      exact toNat_ofNat_length_eq_iff avatarPng.length

/-- And so is a group. -/
theorem announced_group (call : GroupCall) :
    (DetailsRecord.group call.details).announced = (call.avatarPng.getD []).length ↔
      (call.avatarPng.getD []).length < 2 ^ 32 := by
  simp only [DetailsRecord.announced, DetailsRecord.avatar, GroupCall.details,
    GroupCall.avatar, GroupCall.avatarPng]
  match call.groupImage with
  | none | some none => exact iff_of_true rfl (by decide)
  | some (some avatarPng) => exact toNat_ofNat_length_eq_iff avatarPng.length

theorem of_written {call : SyncCall} {record : DetailsRecord} {data : NSData}
    (hwritten : P.written call = some (record, data)) :
    call.record = some record ∧ P.serialize record = some data := by
  obtain ⟨written, hrecord, hdata⟩ := Option.bind_eq_some_iff.mp hwritten
  obtain ⟨bytes, hserialize, hsame⟩ := Option.map_eq_some_iff.mp hdata
  obtain ⟨rfl, rfl⟩ := Prod.mk.inj hsame
  exact ⟨hrecord, hserialize⟩

theorem announced_eq_iff {call : SyncCall} {record : DetailsRecord} {data : NSData}
    (hwritten : P.written call = some (record, data)) :
    record.announced = (call.avatarPng.getD []).length ↔
      (call.avatarPng.getD []).length < 2 ^ 32 := by
  obtain ⟨hrecord, -⟩ := of_written hwritten
  cases call with
  | signalAccount call =>
      obtain ⟨details, hdetails, rfl⟩ := Option.map_eq_some_iff.mp hrecord
      exact announced_signalAccount hdetails
  | group call =>
      cases hrecord
      exact announced_group call

/-- **A call appends its frame** if and only if it fits. -/
theorem appended_eq_iff (call : SyncCall) :
    (∃ frame, P.Writes call frame ∧ P.appended call = frame.elim [] SyncFrame.bytes) ↔
      P.Fits call := by
  unfold appended Fits
  cases hwritten : P.written call with
  | none =>
      exact iff_of_true ⟨none, hwritten, rfl⟩ (by rintro record data ⟨⟩)
  | some written =>
      obtain ⟨record, data⟩ := written
      have hannounced := announced_eq_iff hwritten
      have hserialize := (of_written hwritten).2
      constructor
      · rintro ⟨frame, hframe, happended⟩ _ _ ⟨⟩
        cases frame with
        | none =>
            rw [Writes, hwritten] at hframe
            cases hframe
        | some frame =>
            obtain ⟨hframe, -, havatar⟩ := hframe
            rw [hwritten] at hframe
            obtain ⟨rfl, rfl⟩ := Prod.mk.inj (Option.some.inj hframe)
            obtain ⟨hlength, hrest⟩ := Base128.write_append_inj happended
            have hsame := List.append_cancel_left hrest
            rw [hsame] at hannounced ⊢
            exact ⟨(toNat_ofNat_length_eq_iff _).mp hlength, hannounced.mp havatar.symm⟩
      · intro hfits
        obtain ⟨hlength, hannounces⟩ := hfits record data rfl
        refine ⟨some ⟨record, data, call.avatarPng.getD []⟩,
          ⟨hwritten, hserialize, (hannounced.mpr hannounces).symm⟩, ?_⟩
        simp only [(toNat_ofNat_length_eq_iff _).mpr hlength]
        rfl

/-! ## Sequences of calls -/

variable {stream : ChunkedOutputStream} {calls : List SyncCall}

theorem flatMap_reduceOption_cons (frame : Option SyncFrame) (frames : List (Option SyncFrame)) :
    (frame :: frames).reduceOption.flatMap SyncFrame.bytes =
      frame.elim [] SyncFrame.bytes ++ frames.reduceOption.flatMap SyncFrame.bytes := by
  cases frame with
  | none => rfl
  | some frame => rfl

theorem holdsFrames_cons_iff (haccepts : stream.outputStream.Accepts) {call : SyncCall}
    {frame : Option SyncFrame} {frames : List (Option SyncFrame)} :
    P.HoldsFrames stream (call :: calls) (frame :: frames) ↔
      P.appended call = frame.elim [] SyncFrame.bytes ∧
        P.HoldsFrames (P.write stream call) calls frames := by
  have hwrite := (appends_write (P := P) haccepts call).written
  constructor
  · intro hholds
    have hfirst : P.appended call = frame.elim [] SyncFrame.bytes := by
      have hone := hholds 1
      rw [List.take_succ_cons, List.take_zero, List.take_succ_cons, List.take_zero,
        flatMap_reduceOption_cons] at hone
      have hone : (P.write stream call).outputStream.written = _ := hone
      rw [hwrite] at hone
      exact (List.append_cancel_left hone).trans (List.append_nil _)
    refine ⟨hfirst, fun count => ?_⟩
    have hcount := hholds (count + 1)
    rw [List.take_succ_cons, List.take_succ_cons, flatMap_reduceOption_cons, ← hfirst,
      ← List.append_assoc, ← hwrite] at hcount
    exact hcount
  · rintro ⟨hfirst, hholds⟩ count
    cases count with
    | zero => exact (List.append_nil _).symm
    | succ count =>
        rw [List.take_succ_cons, List.take_succ_cons, flatMap_reduceOption_cons, ← hfirst,
          ← List.append_assoc, ← hwrite]
        exact hholds count

theorem exists_frames_iff (haccepts : stream.outputStream.Accepts) :
    (∃ frames, List.Forall₂ P.Writes calls frames ∧ P.HoldsFrames stream calls frames) ↔
      ∀ call ∈ calls, P.Fits call := by
  induction calls generalizing stream with
  | nil =>
      refine iff_of_true ⟨[], .nil, fun count => ?_⟩ (by simp)
      rw [List.take_nil, List.take_nil]
      exact (List.append_nil _).symm
  | cons call calls ih =>
      have hrest := ih ((appends_write (P := P) haccepts call).outputStream_accepts haccepts)
      rw [List.forall_mem_cons, ← hrest, ← appended_eq_iff]
      constructor
      · rintro ⟨frames, hwrites, hholds⟩
        cases hwrites with
        | cons hfirst hwrites =>
            obtain ⟨happended, hholds⟩ := (holdsFrames_cons_iff haccepts).mp hholds
            exact ⟨⟨_, hfirst, happended⟩, _, hwrites, hholds⟩
      · rintro ⟨⟨frame, hfirst, happended⟩, frames, hwrites, hholds⟩
        exact ⟨frame :: frames, .cons hfirst hwrites,
          (holdsFrames_cons_iff haccepts).mpr ⟨happended, hholds⟩⟩

theorem isFrame_of_writes {frames : List (Option SyncFrame)}
    (hwrites : List.Forall₂ P.Writes calls frames) :
    ∀ frame ∈ frames.reduceOption, frame.IsFrame P := by
  induction hwrites with
  | nil => simp
  | @cons call frame calls frames hfirst hwrites ih =>
      cases frame with
      | none => exact ih
      | some frame =>
          intro other hother
          cases hother with
          | head => exact hfirst.2
          | tail _ hother => exact ih other hother

theorem framed_of_fits (haccepts : stream.outputStream.Accepts)
    (hfits : ∀ call ∈ calls, P.Fits call) : P.Framed stream calls := by
  obtain ⟨frames, hwrites, hholds⟩ := (exists_frames_iff haccepts).mpr hfits
  exact ⟨frames, hwrites, hholds, fun kinds hkinds =>
    readFrames_flatMap (isFrame_of_writes hwrites) hkinds⟩

theorem fits_of_framed (haccepts : stream.outputStream.Accepts) (hframed : P.Framed stream calls) :
    ∀ call ∈ calls, P.Fits call := by
  obtain ⟨frames, hwrites, hholds, -⟩ := hframed
  exact (exists_frames_iff haccepts).mp ⟨frames, hwrites, hholds⟩

end SyncProtos

/-- No number's bytes begin with another's. -/
theorem ChunkedOutputStream.eq_of_isPrefix {stream : ChunkedOutputStream}
    (haccepts : stream.outputStream.Accepts) {value other : UInt32}
    (hstart : (stream.writeVariableLengthUInt32 value).2.outputStream.written <+:
      (stream.writeVariableLengthUInt32 other).2.outputStream.written) : value = other := by
  rw [(appends_writeVariableLengthUInt32 haccepts value).written,
    (appends_writeVariableLengthUInt32 haccepts other).written,
    List.prefix_append_right_inj] at hstart
  exact UInt32.toNat_inj.mp (Base128.eq_of_write_isPrefix hstart)

namespace SyncProtos

variable {P : SyncProtos} {stream : ChunkedOutputStream}

/-- **Every record is followed by the avatar it announces, and a reader recovers records and
avatars**, if and only if each call that writes a record fits; lengths are a prefix code. -/
theorem framed_iff (haccepts : stream.outputStream.Accepts) (calls : List SyncCall) :
    (P.Framed stream calls ∧
      ∀ value other : UInt32,
        (stream.writeVariableLengthUInt32 value).2.outputStream.written <+:
          (stream.writeVariableLengthUInt32 other).2.outputStream.written → value = other) ↔
      ∀ call ∈ calls, P.Fits call := by
  constructor
  · rintro ⟨hframed, -⟩
    exact fits_of_framed haccepts hframed
  · intro hfits
    exact ⟨framed_of_fits haccepts hfits,
      fun _ _ => ChunkedOutputStream.eq_of_isPrefix haccepts⟩

end SyncProtos

/-! ## A stream -/

/-- A stream that takes a byte at a time. -/
def sampleOutputStream : ChunkedOutputStream where
  outputStream := { written := [], writes := 0, accepts := fun _ _ => 1 }
  hasError := false

theorem sampleOutputStream_accepts : sampleOutputStream.outputStream.Accepts :=
  fun _ _ hoffered => ⟨le_refl _, Int.ofNat_le.mpr hoffered⟩

/-- A group with an image. -/
def sampleGroupCall (avatarPng : NSData) : GroupCall where
  groupId := [7]
  groupName := some "Book"
  groupMemberIds := ["+15550100"]
  conversationColorName := "teal"
  groupImage := some (some avatarPng)
  disappearingMessagesConfiguration := none
  isGroupIdBlocked := false

/-- The record of `sampleGroupCall`, with the length that its avatar is said to have. -/
def sampleGroupDetails (length : UInt32) : SSKProtoGroupDetails where
  id := [7]
  name := "Book"
  members := ["+15550100"]
  color := "teal"
  avatar := some { contentType := some owsMimeTypeImagePng, length := some length }
  expireTimer := 0
  blocked := false

/-- A contact without an avatar. -/
def sampleAccountCall : SignalAccountCall where
  recipientId := "+15550101"
  fullName := "Ann"
  conversationColorName := "teal"
  recipientIdentity := none
  rawAvatar := none
  profileKeyData := none
  disappearingMessagesConfiguration := none
  isRecipientIdBlocked := false

/-- The record of `sampleAccountCall`. -/
def sampleContactDetails : SSKProtoContactDetails where
  number := "+15550101"
  name := "Ann"
  color := "teal"
  verified := none
  avatar := none
  profileKey := none
  expireTimer := 0
  blocked := false

/-- The bytes of `sampleGroupDetails`, for a length of one byte. -/
def sampleGroupData (length : UInt8) : NSData :=
  [0x0A, 1, 7, 0x12, 4, 0x42, 0x6F, 0x6F, 0x6B, 0x1A, 9, 0x2B, 0x31, 0x35, 0x35, 0x35, 0x30, 0x31,
    0x30, 0x30, 0x22, 13, 0x0A, 9, 0x69, 0x6D, 0x61, 0x67, 0x65, 0x2F, 0x70, 0x6E, 0x67, 0x10,
    length, 0x30, 0, 0x3A, 4, 0x74, 0x65, 0x61, 0x6C]

/-- The bytes of `sampleContactDetails`. -/
def sampleAccountData : NSData :=
  [0x0A, 9, 0x2B, 0x31, 0x35, 0x35, 0x35, 0x30, 0x31, 0x30, 0x31, 0x12, 3, 0x41, 0x6E, 0x6E, 0x22,
    4, 0x74, 0x65, 0x61, 0x6C, 0x40, 0]

/-- The protobuf layer, for these records. -/
def sampleSyncProtos : SyncProtos where
  serialize record :=
    if record = .group (sampleGroupDetails 3) then some (sampleGroupData 3)
    else if record = .group (sampleGroupDetails 0) then some (sampleGroupData 0)
    else if record = .contact sampleContactDetails then some sampleAccountData
    else none
  parse _ data :=
    if data = sampleGroupData 3 then some (.group (sampleGroupDetails 3))
    else if data = sampleGroupData 0 then some (.group (sampleGroupDetails 0))
    else if data = sampleAccountData then some (.contact sampleContactDetails)
    else none
  parse_serialize := by
    intro record data hserialize
    split at hserialize
    · next hrecord =>
        cases hserialize
        rw [if_pos rfl, hrecord]
    · split at hserialize
      · next hrecord =>
          cases hserialize
          rw [if_neg (by decide), if_pos rfl, hrecord]
      · split at hserialize
        · next hrecord =>
            cases hserialize
            rw [if_neg (by decide), if_neg (by decide), if_pos rfl, hrecord]
        · cases hserialize

theorem serialize_sampleGroup :
    sampleSyncProtos.serialize (.group (sampleGroupDetails 3)) = some (sampleGroupData 3) := by
  unfold sampleSyncProtos
  dsimp only
  rw [if_pos rfl]

theorem serialize_sampleGroup_of_cut :
    sampleSyncProtos.serialize (.group (sampleGroupDetails 0)) = some (sampleGroupData 0) := by
  unfold sampleSyncProtos
  dsimp only
  rw [if_neg (by decide), if_pos rfl]

theorem serialize_sampleContact :
    sampleSyncProtos.serialize (.contact sampleContactDetails) = some sampleAccountData := by
  unfold sampleSyncProtos
  dsimp only
  rw [if_neg (by decide), if_neg (by decide), if_pos rfl]

theorem sampleCalls_fit :
    ∀ call ∈ [SyncCall.group (sampleGroupCall [1, 2, 3]), .signalAccount sampleAccountCall],
      sampleSyncProtos.Fits call := by
  intro call hcall record data hwritten
  have hserialize := (SyncProtos.of_written hwritten).2
  have hrecord := (SyncProtos.of_written hwritten).1
  rw [List.mem_cons, List.mem_singleton] at hcall
  obtain rfl | rfl := hcall
  · cases hrecord
    cases serialize_sampleGroup.symm.trans hserialize
    exact ⟨by decide, by decide⟩
  · cases hrecord
    cases serialize_sampleContact.symm.trans hserialize
    exact ⟨by decide, by decide⟩

/-- A group with its image and a contact without: the reader recovers both. -/
theorem SyncProtos.framed_sample : sampleSyncProtos.Framed sampleOutputStream
    [.group (sampleGroupCall [1, 2, 3]), .signalAccount sampleAccountCall] :=
  ((SyncProtos.framed_iff sampleOutputStream_accepts _).mpr sampleCalls_fit).1

/-- **An image whose length is cut**: it has `2 ^ 32` bytes, and the record announces none. -/
theorem SyncProtos.cut_image : ¬sampleSyncProtos.Framed sampleOutputStream
    [.group (sampleGroupCall (List.replicate (2 ^ 32) 0))] := by
  intro hframed
  have hfits := fits_of_framed sampleOutputStream_accepts hframed _ List.mem_cons_self
  have hdetails (avatarPng : NSData) : (sampleGroupCall avatarPng).details =
      sampleGroupDetails (UInt32.ofNat avatarPng.length) := rfl
  have hwritten : sampleSyncProtos.written
      (.group (sampleGroupCall (List.replicate (2 ^ 32) 0))) =
        some (.group (sampleGroupDetails 0), sampleGroupData 0) := by
    unfold written SyncCall.record
    dsimp only
    rw [hdetails, List.length_replicate, Option.bind_some]
    exact congrArg (Option.map _) serialize_sampleGroup_of_cut
  have hlength : (List.replicate (2 ^ 32) (0 : UInt8)).length < 2 ^ 32 :=
    (hfits _ _ hwritten).2
  rw [List.length_replicate] at hlength
  exact Nat.lt_irrefl _ hlength

end ObjcSwiftLearning.SignalServiceKit
