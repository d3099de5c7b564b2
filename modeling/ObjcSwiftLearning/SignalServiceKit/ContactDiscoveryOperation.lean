import Mathlib.Data.Finset.Dedup
import Mathlib.Data.Finset.Insert
import Mathlib.Data.Finset.Lattice.Basic
import ObjcSwiftLearning.AxolotlKit.Foundation
import ObjcSwiftLearning.Library.ByteOrder
import ObjcSwiftLearning.Library.Decimal

/-!
# Contact discovery

A `CDSOperation` looks recipient ids up in batches.  A batch is sent to the enclave as one
address for each of its ids, and the answer is joined with the ids by position.

* `parseUInt64`, `encodePhoneNumbers` — an address is the number behind the plus sign.
* `CDSBatchOperation.run`, `CDSOperation.perform` — the batches, and what they make together.
* `CDSOperation.discovers_iff` — **the registered ids are found, and malformed ones refused**, if
  no batch is let through with an id that has two plus signs.

A string is the list of its `Character`s.
-/

namespace ObjcSwiftLearning.SignalServiceKit

open AxolotlKit

/-- A phone number, or what is taken for one. -/
abbrev RecipientId := List Char

/-! ## Numbers -/

/-- `UInt64(_:)` behind a sign, where `result` has been read; `none` is an overflow, or a
character that is no digit. -/
def parseUnsigned (positive : Bool) : ℕ → List Char → Option ℕ
  | result, [] => some result
  | result, c :: rest =>
      if Decimal.IsDigit c then
        if 2 ^ 64 ≤ 10 * result then none
        else if positive then
          if 2 ^ 64 ≤ 10 * result + Decimal.digitValue c then none
          else parseUnsigned positive (10 * result + Decimal.digitValue c) rest
        else if 10 * result < Decimal.digitValue c then none
        else parseUnsigned positive (10 * result - Decimal.digitValue c) rest
      else none

/-- `UInt64(_:)`, which takes a sign. -/
def parseUInt64 : List Char → Option ℕ
  | [] => none
  | '+' :: rest => if rest.isEmpty then none else parseUnsigned true 0 rest
  | '-' :: rest => if rest.isEmpty then none else parseUnsigned false 0 rest
  | text => parseUnsigned true 0 text

/-! ## `CDSBatchOperation` -/

inductive ContactDiscoveryError where
  | parseError (description : String)
  | assertionError (description : String)
  | clientError
  | serverError
  | other
  deriving DecidableEq, Repr

/-- The address of one id, as `encodePhoneNumbers(recipientIds:)` appends it. -/
def encodePhoneNumber (recipientId : RecipientId) : Except ContactDiscoveryError NSData :=
  if recipientId.take 1 = ['+'] then
    match parseUInt64 (recipientId.drop 1) with
    | none => .error (.assertionError "unexpectedly short identifier")
    | some numericIdentifier =>
        if 99 < numericIdentifier then .ok (ByteOrder.bytes 8 numericIdentifier).reverse
        else .error (.assertionError "unexpectedly short identifier")
  else .error (.assertionError "unexpected id format")

def encodePhoneNumbers : List RecipientId → Except ContactDiscoveryError NSData
  | [] => .ok []
  | recipientId :: recipientIds => do
      let address ← encodePhoneNumber recipientId
      let output ← encodePhoneNumbers recipientIds
      return address ++ output

def boolArray (data : NSData) : List Bool := data.map (· == 1)

def matchIncluded (recipientIds : List RecipientId) (isIncluded : List Bool) :
    Except ContactDiscoveryError (Finset RecipientId) :=
  if recipientIds.length = isIncluded.length then
    let includedRecipientIds := (List.range recipientIds.length).filterMap fun index =>
      if isIncluded.getD index false then recipientIds[index]? else none
    .ok includedRecipientIds.toFinset
  else .error (.assertionError "length mismatch for isIncluded/recipientIds")

/-- The members of a `Set` of some ids, in the order that the set has them. -/
structure Unordered (recipientIds : List RecipientId) where
  toList : List RecipientId
  nodup : toList.Nodup
  mem_iff : ∀ recipientId, recipientId ∈ toList ↔ recipientId ∈ recipientIds

structure CDSBatchOperation where
  recipientIdsToLookup : List RecipientId
  registeredRecipientIds : Finset RecipientId
  isCancelled : Bool
  failingError : Option ContactDiscoveryError

structure BatchAnswers where
  /-- The error of `performRemoteAttestation`. -/
  attestationError : Option ContactDiscoveryError
  /-- `encryptAESGCM` gives a result. -/
  encrypts : Bool
  responseError : NSData → Option ContactDiscoveryError

/-- The answer of an enclave: a byte for each address of the request. -/
def enclaveAnswer (registered : ℕ → Bool) (addresses : NSData) : NSData :=
  (List.range (addresses.length / 8)).map fun index =>
    if registered (ByteOrder.value ((addresses.drop (8 * index)).take 8).reverse) then 1 else 0

namespace CDSBatchOperation

def initWith {recipientIdsToLookup : List RecipientId} (members : Unordered recipientIdsToLookup) :
    CDSBatchOperation where
  recipientIdsToLookup := members.toList
  registeredRecipientIds := ∅
  isCancelled := false
  failingError := none

/-- `reportError`; no retries remain. -/
def reportError (operation : CDSBatchOperation) (error : ContactDiscoveryError) :
    CDSBatchOperation :=
  { operation with failingError := some error }

/-- `encryptAddresses(recipientIds:remoteAttestation:)`, of which the enclave reads the
plaintext. -/
def encryptAddresses (answers : BatchAnswers) (recipientIds : List RecipientId) :
    Except ContactDiscoveryError NSData := do
  let addressPlainTextData ← encodePhoneNumbers recipientIds
  if answers.encrypts then return addressPlainTextData
  else throw (.assertionError "Encryption failure")

/-- `parseAndDecrypt(response:remoteAttestation:)` of the response to a request. -/
def parseAndDecrypt (answers : BatchAnswers) (registered : ℕ → Bool) (addresses : NSData) :
    Except ContactDiscoveryError NSData :=
  match answers.responseError addresses with
  | some error => .error error
  | none => .ok (enclaveAnswer registered addresses)

/-- `handle(response:remoteAttestation:)`, with the request before it. -/
def handle (operation : CDSBatchOperation) (answers : BatchAnswers) (registered : ℕ → Bool) :
    Except ContactDiscoveryError (Finset RecipientId) := do
  let addresses ← encryptAddresses answers operation.recipientIdsToLookup
  let isIncludedData ← parseAndDecrypt answers registered addresses
  matchIncluded operation.recipientIdsToLookup (boolArray isIncludedData)

/-- `makeContactDiscoveryRequest(remoteAttestation:)`. -/
def makeContactDiscoveryRequest (operation : CDSBatchOperation) (answers : BatchAnswers)
    (registered : ℕ → Bool) : CDSBatchOperation :=
  if operation.isCancelled then operation
  else
    match operation.handle answers registered with
    | .error error => operation.reportError error
    | .ok registeredRecipientIds => { operation with registeredRecipientIds }

def run (operation : CDSBatchOperation) (answers : BatchAnswers) (registered : ℕ → Bool) :
    CDSBatchOperation :=
  if operation.isCancelled then operation
  else
    match answers.attestationError with
    | some error => operation.reportError error
    | none => operation.makeContactDiscoveryRequest answers registered

end CDSBatchOperation

/-! ## `CDSOperation` -/

def chunked {α : Type} (list : List α) (chunkSize : ℕ) : List (List α) :=
  ((List.range list.length).filter fun index => index % chunkSize = 0).map fun index =>
    (list.drop index).take (min (index + chunkSize) list.length - index)

def batchSize : ℕ := 2048

structure CDSOperation where
  recipientIdsToLookup : List RecipientId
  dependencies : List CDSBatchOperation
  registeredRecipientIds : Finset RecipientId
  isCancelled : Bool
  failingError : Option ContactDiscoveryError

/-- What the orders of the sets, the services and the enclave are for a lookup. -/
structure DiscoveryCircumstances where
  members : ℕ → (recipientIds : List RecipientId) → Unordered recipientIds
  answers : ℕ → BatchAnswers
  registered : ℕ → Bool

namespace CDSOperation

variable (circumstances : DiscoveryCircumstances)

def initWith (recipientIdsToLookup : List RecipientId) : CDSOperation where
  recipientIdsToLookup := recipientIdsToLookup
  dependencies := (chunked recipientIdsToLookup batchSize).mapIdx fun index batchIds =>
    .initWith (circumstances.members index batchIds)
  registeredRecipientIds := ∅
  isCancelled := false
  failingError := none

def runDependencies (operation : CDSOperation) : CDSOperation :=
  { operation with
    dependencies := operation.dependencies.mapIdx fun index batchOperation =>
      batchOperation.run (circumstances.answers index) circumstances.registered }

def checkForPreconditionError (operation : CDSOperation) : Option ContactDiscoveryError :=
  operation.dependencies.findSome? CDSBatchOperation.failingError

def run (operation : CDSOperation) : CDSOperation :=
  { operation with
    registeredRecipientIds := operation.dependencies.foldl
      (fun registeredRecipientIds batchOperation =>
        registeredRecipientIds ∪ batchOperation.registeredRecipientIds)
      operation.registeredRecipientIds }

def main (operation : CDSOperation) : CDSOperation :=
  match operation.checkForPreconditionError with
  | some preconditionError => { operation with failingError := some preconditionError }
  | none => if operation.isCancelled then operation else operation.run

def perform (recipientIdsToLookup : List RecipientId) : CDSOperation :=
  ((initWith circumstances recipientIdsToLookup).runDependencies circumstances).main

end CDSOperation

/-! ## Addresses -/

structure IsNumeric (digits : List Char) (number : ℕ) : Prop where
  isDigit : ∀ c ∈ digits, Decimal.IsDigit c
  value : number = Decimal.value digits
  gt : 99 < number
  lt : number < 2 ^ 64

/-- A plus sign and digits. -/
def HasNumber (recipientId : RecipientId) (number : ℕ) : Prop :=
  ∃ digits, recipientId = '+' :: digits ∧ IsNumeric digits number

def HasTwoSigns (recipientId : RecipientId) (number : ℕ) : Prop :=
  ∃ digits, recipientId = '+' :: '+' :: digits ∧ IsNumeric digits number

def IsAccepted (recipientId : RecipientId) (number : ℕ) : Prop :=
  HasNumber recipientId number ∨ HasTwoSigns recipientId number

variable {text : List Char}

theorem parseUnsigned_true_iff {high number : ℕ} (hhigh : high < 2 ^ 64) :
    parseUnsigned true high text = some number ↔ (∀ c ∈ text, Decimal.IsDigit c) ∧
      number = Decimal.valueFrom high text ∧ number < 2 ^ 64 := by
  induction text generalizing high with
  | nil =>
      rw [parseUnsigned, Option.some.injEq]
      constructor
      · rintro rfl
        exact ⟨by simp, rfl, hhigh⟩
      · rintro ⟨-, hvalue, -⟩
        exact hvalue.symm
  | cons c rest ih =>
      rw [parseUnsigned, List.forall_mem_cons, Decimal.valueFrom_cons]
      by_cases hc : Decimal.IsDigit c
      · have hle := Decimal.le_valueFrom (10 * high + Decimal.digitValue c) rest
        rw [if_pos hc, and_iff_right hc]
        split
        · refine iff_of_false (Option.some_ne_none _).symm ?_
          rintro ⟨-, rfl, hlt⟩
          omega
        · rw [if_pos rfl]
          split
          · refine iff_of_false (Option.some_ne_none _).symm ?_
            rintro ⟨-, rfl, hlt⟩
            omega
          · exact ih (by omega)
      · rw [if_neg hc]
        exact iff_of_false (Option.some_ne_none _).symm fun h => hc h.1.1

variable {number : ℕ}

theorem parseUnsigned_false (hparsed : parseUnsigned false 0 text = some number) : number = 0 := by
  induction text with
  | nil => exact (Option.some.inj hparsed).symm
  | cons c rest ih =>
      rw [parseUnsigned] at hparsed
      split at hparsed
      · split at hparsed
        · cases hparsed
        · rw [if_neg (by decide)] at hparsed
          split at hparsed
          · cases hparsed
          · rw [Nat.mul_zero, Nat.zero_sub] at hparsed
            exact ih hparsed
      · cases hparsed

theorem parseUnsigned_iff_isNumeric (hgt : 99 < number) :
    parseUnsigned true 0 text = some number ↔ IsNumeric text number := by
  rw [parseUnsigned_true_iff (by decide)]
  constructor
  · rintro ⟨hdigits, hvalue, hlt⟩
    exact ⟨hdigits, hvalue, hgt, hlt⟩
  · rintro ⟨hdigits, hvalue, -, hlt⟩
    exact ⟨hdigits, hvalue, hlt⟩

theorem IsNumeric.ne_nil (h : IsNumeric text number) : text ≠ [] := by
  rintro rfl
  have hgt := h.gt
  rw [h.value] at hgt
  exact absurd hgt (by decide)

theorem IsNumeric.isDigit_head {c : Char} (h : IsNumeric (c :: text) number) :
    Decimal.IsDigit c := h.isDigit c List.mem_cons_self

/-- **What `UInt64(_:)` reads** above 99: digits, or a plus sign and digits. -/
theorem parseUInt64_iff (hgt : 99 < number) :
    parseUInt64 text = some number ↔
      IsNumeric text number ∨ ∃ digits, text = '+' :: digits ∧ IsNumeric digits number := by
  cases text with
  | nil =>
      refine iff_of_false (Option.some_ne_none _).symm ?_
      rintro (h | ⟨digits, heq, -⟩)
      · exact h.ne_nil rfl
      · cases heq
  | cons c rest =>
      by_cases hplus : c = '+'
      · subst hplus
        have hnot : ¬IsNumeric ('+' :: rest) number := fun h => absurd h.isDigit_head (by decide)
        rw [parseUInt64, or_iff_right hnot]
        constructor
        · intro hparsed
          split at hparsed
          · cases hparsed
          · exact ⟨rest, rfl, (parseUnsigned_iff_isNumeric hgt).mp hparsed⟩
        · rintro ⟨digits, heq, h⟩
          obtain rfl : rest = digits := (List.cons.inj heq).2
          rw [if_neg (by simpa using h.ne_nil)]
          exact (parseUnsigned_iff_isNumeric hgt).mpr h
      · have hsecond : ¬∃ digits, c :: rest = '+' :: digits ∧ IsNumeric digits number := by
          rintro ⟨digits, heq, -⟩
          exact hplus (List.cons.inj heq).1
        rw [or_iff_left hsecond]
        by_cases hminus : c = '-'
        · subst hminus
          refine iff_of_false ?_ fun h => absurd h.isDigit_head (by decide)
          intro hparsed
          rw [parseUInt64] at hparsed
          split at hparsed
          · cases hparsed
          · rw [parseUnsigned_false hparsed] at hgt
            exact absurd hgt (by decide)
        · rw [parseUInt64]
          · exact parseUnsigned_iff_isNumeric hgt
          · simp
          · exact fun _ heq => hplus (List.cons.inj heq).1
          · exact fun _ heq => hminus (List.cons.inj heq).1

def addressOf (number : ℕ) : NSData := (ByteOrder.bytes 8 number).reverse

theorem isAccepted_cons {c : Char} {rest : List Char} :
    IsAccepted (c :: rest) number ↔ c = '+' ∧
      (IsNumeric rest number ∨ ∃ digits, rest = '+' :: digits ∧ IsNumeric digits number) := by
  simp only [IsAccepted, HasNumber, HasTwoSigns, List.cons.injEq]
  constructor
  · rintro (⟨digits, ⟨hc, rfl⟩, h⟩ | ⟨digits, ⟨hc, hrest⟩, h⟩)
    · exact ⟨hc, .inl h⟩
    · exact ⟨hc, .inr ⟨digits, hrest, h⟩⟩
  · rintro ⟨hc, h | ⟨digits, hrest, h⟩⟩
    · exact .inl ⟨rest, ⟨hc, rfl⟩, h⟩
    · exact .inr ⟨digits, ⟨hc, hrest⟩, h⟩

variable {recipientId : RecipientId}

theorem IsAccepted.gt_lt (h : IsAccepted recipientId number) : 99 < number ∧ number < 2 ^ 64 := by
  rcases h with ⟨digits, -, h⟩ | ⟨digits, -, h⟩
  · exact ⟨h.gt, h.lt⟩
  · exact ⟨h.gt, h.lt⟩

/-- **The encoder accepts** a number behind one plus sign, or behind two. -/
theorem encodePhoneNumber_eq_ok {address : NSData} :
    encodePhoneNumber recipientId = .ok address ↔
      ∃ number, IsAccepted recipientId number ∧ address = addressOf number := by
  cases recipientId with
  | nil =>
      refine iff_of_false (by rintro ⟨⟩) ?_
      rintro ⟨number, ⟨digits, heq, -⟩ | ⟨digits, heq, -⟩, -⟩
      · cases heq
      · cases heq
  | cons c rest =>
      have hdrop : (c :: rest).drop 1 = rest := rfl
      by_cases hc : c = '+'
      · have htake : (c :: rest).take 1 = ['+'] := by rw [hc]; rfl
        rw [encodePhoneNumber, if_pos htake, hdrop]
        constructor
        · intro haddress
          split at haddress
          · cases haddress
          · next number hparsed =>
              split at haddress
              · next hgt =>
                  refine ⟨number, isAccepted_cons.mpr ⟨hc, (parseUInt64_iff hgt).mp hparsed⟩, ?_⟩
                  exact (Except.ok.inj haddress).symm
              · cases haddress
        · rintro ⟨number, haccepted, rfl⟩
          have hgt := haccepted.gt_lt.1
          have hparsed := (parseUInt64_iff hgt).mpr (isAccepted_cons.mp haccepted).2
          rw [hparsed]
          exact if_pos hgt
      · have htake : (c :: rest).take 1 ≠ ['+'] := fun heq => hc (List.cons.inj heq).1
        rw [encodePhoneNumber, if_neg htake]
        refine iff_of_false (by rintro ⟨⟩) ?_
        rintro ⟨number, haccepted, -⟩
        exact hc (isAccepted_cons.mp haccepted).1

theorem IsAccepted.unique {number other : ℕ} (h : IsAccepted recipientId number)
    (hother : IsAccepted recipientId other) : number = other := by
  have hfirst := encodePhoneNumber_eq_ok.mpr ⟨number, h, rfl⟩
  have hsecond := encodePhoneNumber_eq_ok.mpr ⟨other, hother, rfl⟩
  have hsame := List.reverse_inj.mp (Except.ok.inj (hfirst.symm.trans hsecond))
  exact ByteOrder.bytes_inj h.gt_lt.2 hother.gt_lt.2 hsame

variable {recipientIds : List RecipientId}

theorem encodePhoneNumbers_eq_ok {addresses : NSData} :
    encodePhoneNumbers recipientIds = .ok addresses ↔ ∃ numbers : List ℕ,
      List.Forall₂ IsAccepted recipientIds numbers ∧ addresses = numbers.flatMap addressOf := by
  induction recipientIds generalizing addresses with
  | nil =>
      rw [encodePhoneNumbers, Except.ok.injEq]
      constructor
      · rintro rfl
        exact ⟨[], .nil, rfl⟩
      · rintro ⟨_, ⟨⟩, rfl⟩
        rfl
  | cons recipientId recipientIds ih =>
      rw [encodePhoneNumbers]
      constructor
      · intro hencoded
        cases haddress : encodePhoneNumber recipientId with
        | error error =>
            rw [haddress] at hencoded
            cases hencoded
        | ok address =>
            cases houtput : encodePhoneNumbers recipientIds with
            | error error =>
                rw [haddress, houtput] at hencoded
                cases hencoded
            | ok output =>
                rw [haddress, houtput] at hencoded
                obtain ⟨number, haccepted, rfl⟩ := encodePhoneNumber_eq_ok.mp haddress
                obtain ⟨numbers, hnumbers, rfl⟩ := ih.mp houtput
                exact ⟨number :: numbers, .cons haccepted hnumbers,
                  (Except.ok.inj hencoded).symm⟩
      · rintro ⟨_, hnumbers, rfl⟩
        cases hnumbers with
        | cons haccepted hrest =>
            rw [encodePhoneNumber_eq_ok.mpr ⟨_, haccepted, rfl⟩, ih.mpr ⟨_, hrest, rfl⟩]
            rfl

/-! ## A batch -/

theorem length_addressOf (number : ℕ) : (addressOf number).length = 8 := by
  rw [addressOf, List.length_reverse, ByteOrder.length_bytes]

theorem value_reverse_addressOf (hlt : number < 2 ^ 64) :
    ByteOrder.value (addressOf number).reverse = number := by
  rw [addressOf, List.reverse_reverse, ByteOrder.value_bytes]
  exact Nat.mod_eq_of_lt hlt

/-- **An answer for each number.** -/
theorem boolArray_enclaveAnswer (registered : ℕ → Bool) {numbers : List ℕ}
    (hlt : ∀ number ∈ numbers, number < 2 ^ 64) :
    boolArray (enclaveAnswer registered (numbers.flatMap addressOf)) = numbers.map registered := by
  induction numbers with
  | nil => rfl
  | cons number numbers ih =>
      have hrest := ih fun later hlater => hlt later (List.mem_cons_of_mem number hlater)
      have hlength : (addressOf number ++ numbers.flatMap addressOf).length / 8 =
          (numbers.flatMap addressOf).length / 8 + 1 := by
        rw [List.length_append, length_addressOf]
        omega
      have hfirst : ((addressOf number ++ numbers.flatMap addressOf).drop (8 * 0)).take 8 =
          addressOf number := by
        rw [Nat.mul_zero, List.drop_zero, ← length_addressOf number, List.take_left]
      have hdrop : ∀ index, (addressOf number ++ numbers.flatMap addressOf).drop (8 * (index + 1)) =
          (numbers.flatMap addressOf).drop (8 * index) := by
        intro index
        rw [List.drop_append, length_addressOf, List.drop_of_length_le, List.nil_append]
        · congr 1
        · rw [length_addressOf]
          omega
      rw [List.flatMap_cons, boolArray, enclaveAnswer, hlength, List.range_succ_eq_map,
        List.map_cons, List.map_map, List.map_cons, List.map_cons, hfirst,
        value_reverse_addressOf (hlt number List.mem_cons_self), ← hrest]
      refine congrArg₂ List.cons ?_ ?_
      · cases registered number <;> rfl
      · rw [boolArray, enclaveAnswer]
        refine congrArg (List.map _) (List.map_congr_left fun index _ => ?_)
        rw [Function.comp_apply, Nat.succ_eq_add_one, hdrop]

theorem lt_of_forall₂ {numbers : List ℕ} (hnumbers : List.Forall₂ IsAccepted recipientIds numbers) :
    ∀ number ∈ numbers, number < 2 ^ 64 := by
  intro number hnumber
  obtain ⟨index, hlt, rfl⟩ := List.mem_iff_getElem.mp hnumber
  exact (hnumbers.get (hnumbers.length_eq ▸ hlt) hlt).gt_lt.2

/-- **Ids and answers are joined by position.** -/
theorem exists_matchIncluded {numbers : List ℕ} (registered : ℕ → Bool)
    (hnumbers : List.Forall₂ IsAccepted recipientIds numbers) :
    ∃ included, matchIncluded recipientIds (numbers.map registered) = .ok included ∧
      ∀ recipientId, recipientId ∈ included ↔ recipientId ∈ recipientIds ∧
        ∃ number, IsAccepted recipientId number ∧ registered number = true := by
  have hlength := hnumbers.length_eq
  refine ⟨_, if_pos (by rw [List.length_map, hlength]), fun recipientId => ?_⟩
  rw [List.mem_toFinset, List.mem_filterMap]
  constructor
  · rintro ⟨index, -, hindex⟩
    split at hindex
    · next hincluded =>
        obtain ⟨hlt, rfl⟩ := List.getElem?_eq_some_iff.mp hindex
        have hlt' : index < numbers.length := hlength ▸ hlt
        refine ⟨List.getElem_mem hlt, numbers[index], hnumbers.get hlt hlt', ?_⟩
        simpa [List.getD, hlt'] using hincluded
    · cases hindex
  · rintro ⟨hmem, number, haccepted, hregistered⟩
    obtain ⟨index, hlt, rfl⟩ := List.mem_iff_getElem.mp hmem
    have hlt' : index < numbers.length := hlength ▸ hlt
    have hsame : number = numbers[index] := haccepted.unique (hnumbers.get hlt hlt')
    refine ⟨index, List.mem_range.mpr hlt, ?_⟩
    rw [if_pos, List.getElem?_eq_getElem hlt]
    simpa [List.getD, hlt', hsame] using hregistered

theorem exists_encodePhoneNumbers :
    (∃ addresses, encodePhoneNumbers recipientIds = .ok addresses) ↔
      ∀ recipientId ∈ recipientIds, ∃ number, IsAccepted recipientId number := by
  constructor
  · rintro ⟨addresses, hencoded⟩
    obtain ⟨numbers, hnumbers, -⟩ := encodePhoneNumbers_eq_ok.mp hencoded
    intro recipientId hmem
    obtain ⟨index, hlt, rfl⟩ := List.mem_iff_getElem.mp hmem
    exact ⟨_, hnumbers.get hlt (hnumbers.length_eq ▸ hlt)⟩
  · intro haccepted
    induction recipientIds with
    | nil => exact ⟨[], rfl⟩
    | cons recipientId recipientIds ih =>
        obtain ⟨number, hnumber⟩ := haccepted recipientId List.mem_cons_self
        obtain ⟨output, houtput⟩ :=
          ih fun later hlater => haccepted later (List.mem_cons_of_mem recipientId hlater)
        obtain ⟨numbers, hnumbers, -⟩ := encodePhoneNumbers_eq_ok.mp houtput
        exact ⟨_, encodePhoneNumbers_eq_ok.mpr ⟨number :: numbers, .cons hnumber hnumbers, rfl⟩⟩

namespace CDSBatchOperation

variable {operation : CDSBatchOperation} {answers : BatchAnswers} {registered : ℕ → Bool}

/-- What a batch finds. -/
theorem handle_eq_ok {included : Finset RecipientId}
    (hhandled : operation.handle answers registered = .ok included) :
    (∃ addresses, encodePhoneNumbers operation.recipientIdsToLookup = .ok addresses) ∧
      ∀ recipientId, recipientId ∈ included ↔ recipientId ∈ operation.recipientIdsToLookup ∧
        ∃ number, IsAccepted recipientId number ∧ registered number = true := by
  obtain ⟨addresses, hencrypted, hhandled⟩ := bind_eq_ok.mp hhandled
  obtain ⟨isIncludedData, hparsed, hmatch⟩ := bind_eq_ok.mp hhandled
  obtain ⟨output, hencoded, hencrypted⟩ := bind_eq_ok.mp hencrypted
  refine ⟨⟨output, hencoded⟩, ?_⟩
  obtain rfl : output = addresses := by
    split at hencrypted
    · exact Except.ok.inj hencrypted
    · cases hencrypted
  obtain rfl : enclaveAnswer registered output = isIncludedData := by
    unfold parseAndDecrypt at hparsed
    split at hparsed
    · cases hparsed
    · exact Except.ok.inj hparsed
  obtain ⟨numbers, hnumbers, rfl⟩ := encodePhoneNumbers_eq_ok.mp hencoded
  obtain ⟨included', hmatched, hmem⟩ := exists_matchIncluded registered hnumbers
  rw [boolArray_enclaveAnswer registered (lt_of_forall₂ hnumbers), hmatched] at hmatch
  obtain rfl := Except.ok.inj hmatch
  exact hmem

theorem exists_handle {addresses : NSData} (hencrypts : answers.encrypts = true)
    (hresponse : answers.responseError addresses = none)
    (hencoded : encodePhoneNumbers operation.recipientIdsToLookup = .ok addresses) :
    ∃ included, operation.handle answers registered = .ok included := by
  obtain ⟨numbers, hnumbers, rfl⟩ := encodePhoneNumbers_eq_ok.mp hencoded
  obtain ⟨included, hmatched, -⟩ := exists_matchIncluded registered hnumbers
  refine ⟨included, bind_eq_ok.mpr ⟨numbers.flatMap addressOf, bind_eq_ok.mpr ⟨_, hencoded, ?_⟩,
    bind_eq_ok.mpr ⟨enclaveAnswer registered (numbers.flatMap addressOf), ?_, ?_⟩⟩⟩
  · rw [if_pos hencrypts]
    rfl
  · rw [parseAndDecrypt, hresponse]
  · rw [boolArray_enclaveAnswer registered (lt_of_forall₂ hnumbers), hmatched]

/-- A batch fails and finds nothing, or it is encoded and finds what is registered. -/
theorem run_initWith {recipientIds : List RecipientId} (members : Unordered recipientIds)
    (answers : BatchAnswers) (registered : ℕ → Bool) :
    (((initWith members).run answers registered).failingError ≠ none ∧
      ((initWith members).run answers registered).registeredRecipientIds = ∅) ∨
    ((∀ recipientId ∈ recipientIds, ∃ number, IsAccepted recipientId number) ∧
      ((initWith members).run answers registered).failingError = none ∧
      ∀ recipientId,
        recipientId ∈ ((initWith members).run answers registered).registeredRecipientIds ↔
          recipientId ∈ recipientIds ∧
            ∃ number, IsAccepted recipientId number ∧ registered number = true) := by
  -- It fails at the attestation, or at what is made of the answer; else it has what was matched.
  cases herror : answers.attestationError with
  | some error =>
      have hrun : (initWith members).run answers registered =
          (initWith members).reportError error := by
        rw [run, herror]
        rfl
      rw [hrun]
      exact .inl ⟨Option.some_ne_none error, rfl⟩
  | none =>
      cases hhandled : (initWith members).handle answers registered with
      | error error =>
          have hrun : (initWith members).run answers registered =
              (initWith members).reportError error := by
            rw [run, herror]
            dsimp only
            rw [makeContactDiscoveryRequest, hhandled]
            rfl
          rw [hrun]
          exact .inl ⟨Option.some_ne_none error, rfl⟩
      | ok included =>
          have hrun : (initWith members).run answers registered =
              { initWith members with registeredRecipientIds := included } := by
            rw [run, herror]
            dsimp only
            rw [makeContactDiscoveryRequest, hhandled]
            rfl
          obtain ⟨hencoded, hmem⟩ := handle_eq_ok hhandled
          rw [hrun]
          refine .inr ⟨?_, rfl, fun recipientId => ?_⟩
          · intro recipientId hrecipientId
            exact exists_encodePhoneNumbers.mp hencoded recipientId
              ((members.mem_iff recipientId).mpr hrecipientId)
          · exact (hmem recipientId).trans (and_congr_left' (members.mem_iff recipientId))

/-- A batch that is encoded can succeed. -/
theorem failingError_run_initWith {recipientIds : List RecipientId}
    (members : Unordered recipientIds) {registered : ℕ → Bool}
    (haccepted : ∀ recipientId ∈ recipientIds, ∃ number, IsAccepted recipientId number) :
    ((initWith members).run ⟨none, true, fun _ => none⟩ registered).failingError = none := by
  obtain ⟨addresses, hencoded⟩ := exists_encodePhoneNumbers.mpr fun recipientId hmem =>
    haccepted recipientId ((members.mem_iff recipientId).mp hmem)
  have hexists : ∃ included,
      (initWith members).handle ⟨none, true, fun _ => none⟩ registered = .ok included :=
    exists_handle rfl rfl hencoded
  obtain ⟨included, hhandled⟩ := hexists
  have hrun : (initWith members).run ⟨none, true, fun _ => none⟩ registered =
      { initWith members with registeredRecipientIds := included } := by
    rw [run]
    dsimp only
    rw [makeContactDiscoveryRequest, hhandled]
    rfl
  rw [hrun]
  rfl

end CDSBatchOperation

/-! ## The operation -/

theorem subset_of_mem_chunked {α : Type} {list batch : List α} {chunkSize : ℕ}
    (hbatch : batch ∈ chunked list chunkSize) : batch ⊆ list := by
  obtain ⟨index, -, rfl⟩ := List.mem_map.mp hbatch
  exact List.Subset.trans (List.take_subset _ _) (List.drop_subset _ _)

/-- **Every id is in a batch.** -/
theorem exists_mem_chunked {α : Type} {list : List α} {chunkSize : ℕ} {a : α}
    (hpos : 0 < chunkSize) (ha : a ∈ list) : ∃ batch ∈ chunked list chunkSize, a ∈ batch := by
  obtain ⟨place, hplace, rfl⟩ := List.mem_iff_getElem.mp ha
  have hmod := Nat.mod_lt place hpos
  have hdiv := Nat.div_add_mod place chunkSize
  have hstart : chunkSize * (place / chunkSize) % chunkSize = 0 := Nat.mul_mod_right _ _
  refine ⟨_, List.mem_map.mpr ⟨chunkSize * (place / chunkSize),
    List.mem_filter.mpr ⟨List.mem_range.mpr (by omega), decide_eq_true hstart⟩, rfl⟩, ?_⟩
  refine List.mem_iff_getElem.mpr ⟨place % chunkSize, ?_, ?_⟩
  · rw [List.length_take, List.length_drop]
    omega
  · rw [List.getElem_take, List.getElem_drop]
    exact getElem_congr_idx hdiv

theorem mem_foldl_union {operations : List CDSBatchOperation} {found : Finset RecipientId} :
    recipientId ∈ operations.foldl (fun registeredRecipientIds batchOperation =>
        registeredRecipientIds ∪ batchOperation.registeredRecipientIds) found ↔
      recipientId ∈ found ∨
        ∃ operation ∈ operations, recipientId ∈ operation.registeredRecipientIds := by
  induction operations generalizing found with
  | nil => simp
  | cons operation operations ih =>
      rw [List.foldl_cons, ih, Finset.mem_union, or_assoc, List.exists_mem_cons_iff]

namespace CDSOperation

variable (circumstances : DiscoveryCircumstances) (recipientIds : List RecipientId)

/-- The batches after they have run. -/
def ranBatches : List CDSBatchOperation :=
  (chunked recipientIds batchSize).mapIdx fun index batchIds =>
    (CDSBatchOperation.initWith (circumstances.members index batchIds)).run
      (circumstances.answers index) circumstances.registered

theorem dependencies_runDependencies :
    ((initWith circumstances recipientIds).runDependencies circumstances).dependencies =
      ranBatches circumstances recipientIds :=
  List.mapIdx_mapIdx

variable {circumstances recipientIds}

theorem dependencies_main (operation : CDSOperation) :
    operation.main.dependencies = operation.dependencies := by
  unfold main
  split
  · rfl
  · split <;> rfl

theorem dependencies_perform : (perform circumstances recipientIds).dependencies =
    ranBatches circumstances recipientIds := by
  rw [perform, dependencies_main, dependencies_runDependencies]

/-- A batch that fails makes the operation fail, with nothing found. -/
theorem perform_of_failed {batch : CDSBatchOperation}
    (hbatch : batch ∈ ranBatches circumstances recipientIds) (hfailed : batch.failingError ≠ none) :
    (perform circumstances recipientIds).failingError ≠ none ∧
      (perform circumstances recipientIds).registeredRecipientIds = ∅ := by
  cases herror : ((initWith circumstances recipientIds).runDependencies
      circumstances).checkForPreconditionError with
  | none =>
      rw [checkForPreconditionError, dependencies_runDependencies,
        List.findSome?_eq_none_iff] at herror
      exact absurd (herror batch hbatch) hfailed
  | some preconditionError =>
      rw [perform, main, herror]
      exact ⟨Option.some_ne_none _, rfl⟩

/-- Where no batch fails, what they found is put together. -/
theorem perform_of_succeeded
    (hsucceeded : ∀ batch ∈ ranBatches circumstances recipientIds, batch.failingError = none) :
    (perform circumstances recipientIds).failingError = none ∧ ∀ recipientId,
      recipientId ∈ (perform circumstances recipientIds).registeredRecipientIds ↔
        ∃ batch ∈ ranBatches circumstances recipientIds,
          recipientId ∈ batch.registeredRecipientIds := by
  have herror : ((initWith circumstances recipientIds).runDependencies
      circumstances).checkForPreconditionError = none := by
    rw [checkForPreconditionError, dependencies_runDependencies, List.findSome?_eq_none_iff]
    exact hsucceeded
  have hperform : perform circumstances recipientIds =
      ((initWith circumstances recipientIds).runDependencies circumstances).run := by
    rw [perform, main, herror]
    rfl
  rw [hperform]
  refine ⟨rfl, fun recipientId => ?_⟩
  rw [run, dependencies_runDependencies]
  refine mem_foldl_union.trans (or_iff_right ?_)
  exact Finset.notMem_empty recipientId

/-! ## What a lookup is for -/

/-- Ids that differ by zeros behind the plus sign only. -/
def SameButZeros (recipientId other : RecipientId) : Prop :=
  ∃ digits digits', recipientId = '+' :: digits ∧ other = '+' :: digits' ∧
    digits.dropWhile (· == '0') = digits'.dropWhile (· == '0')

/-- **A lookup finds what is registered**, and refuses what is no number. -/
structure Discovers (recipientIds : List RecipientId) : Prop where
  /-- Where all batches succeed, the ids are found whose number is registered. -/
  registered : ∀ circumstances,
    (∀ batch ∈ (perform circumstances recipientIds).dependencies, batch.failingError = none) →
      (perform circumstances recipientIds).failingError = none ∧ ∀ recipientId,
        recipientId ∈ (perform circumstances recipientIds).registeredRecipientIds ↔
          recipientId ∈ recipientIds ∧ ∃ number, HasNumber recipientId number ∧
            circumstances.registered number = true
  /-- A batch with an id that is no number fails as a whole, and the operation with it. -/
  refuses : ∀ circumstances (index : ℕ) batchIds,
    (chunked recipientIds batchSize)[index]? = some batchIds →
      (∃ recipientId ∈ batchIds, ¬∃ number, HasNumber recipientId number) →
        (∃ batch : CDSBatchOperation,
          (perform circumstances recipientIds).dependencies[index]? = some batch ∧
            batch.failingError ≠ none ∧ batch.registeredRecipientIds = ∅) ∧
        (perform circumstances recipientIds).failingError ≠ none ∧
          (perform circumstances recipientIds).registeredRecipientIds = ∅
  /-- Ids that are encoded have different addresses, unless they differ by zeros only. -/
  addresses : ∀ batchIds ∈ chunked recipientIds batchSize,
    ∀ otherIds ∈ chunked recipientIds batchSize,
      (∃ addresses, encodePhoneNumbers batchIds = .ok addresses) →
      (∃ addresses, encodePhoneNumbers otherIds = .ok addresses) →
        ∀ recipientId ∈ batchIds, ∀ other ∈ otherIds, ¬SameButZeros recipientId other →
          encodePhoneNumber recipientId ≠ encodePhoneNumber other

def RefusesTwoSigns (recipientIds : List RecipientId) : Prop :=
  ∀ batchIds ∈ chunked recipientIds batchSize,
    (∃ recipientId ∈ batchIds, ∃ number, HasTwoSigns recipientId number) →
      ∃ recipientId ∈ batchIds, ¬∃ number, IsAccepted recipientId number

theorem not_hasNumber_of_hasTwoSigns {recipientId : RecipientId} {number other : ℕ}
    (h : HasTwoSigns recipientId number) : ¬HasNumber recipientId other := by
  rintro ⟨digits, heq, hdigits⟩
  obtain ⟨digits', rfl, -⟩ := h
  obtain rfl := (List.cons.inj heq).2
  exact absurd hdigits.isDigit_head (by decide)

/-- **One address is one number**, but for zeros. -/
theorem sameButZeros_of_encodePhoneNumber_eq {recipientId other : RecipientId} {number number' : ℕ}
    (hnumber : HasNumber recipientId number) (hother : HasNumber other number')
    (hsame : encodePhoneNumber recipientId = encodePhoneNumber other) :
    SameButZeros recipientId other := by
  have haddress := encodePhoneNumber_eq_ok.mpr ⟨number, .inl hnumber, rfl⟩
  have hbytes := encodePhoneNumber_eq_ok.mpr ⟨number', .inl hother, rfl⟩
  rw [hsame, hbytes] at haddress
  obtain ⟨digits, rfl, hdigits⟩ := hnumber
  obtain ⟨digits', rfl, hdigits'⟩ := hother
  obtain rfl := ByteOrder.bytes_inj hdigits'.lt hdigits.lt
    (List.reverse_inj.mp (Except.ok.inj haddress))
  exact ⟨digits, digits', rfl, rfl, Decimal.stripped_eq_of_value_eq hdigits.isDigit
    hdigits'.isDigit (hdigits.value.symm.trans hdigits'.value)⟩

def inOrder (recipientIds : List RecipientId) : Unordered recipientIds where
  toList := recipientIds.dedup
  nodup := recipientIds.nodup_dedup
  mem_iff _ := List.mem_dedup

theorem getElem?_ranBatches (circumstances : DiscoveryCircumstances)
    {recipientIds batchIds : List RecipientId} {index : ℕ}
    (hbatch : (chunked recipientIds batchSize)[index]? = some batchIds) :
    (ranBatches circumstances recipientIds)[index]? =
      some ((CDSBatchOperation.initWith (circumstances.members index batchIds)).run
        (circumstances.answers index) circumstances.registered) := by
  rw [ranBatches, List.getElem?_mapIdx, hbatch]
  rfl

theorem RefusesTwoSigns.hasNumber {recipientIds batchIds : List RecipientId}
    (h : RefusesTwoSigns recipientIds) (hbatch : batchIds ∈ chunked recipientIds batchSize)
    (haccepted : ∀ recipientId ∈ batchIds, ∃ number, IsAccepted recipientId number)
    {recipientId : RecipientId} (hmem : recipientId ∈ batchIds) {number : ℕ}
    (hnumber : IsAccepted recipientId number) : HasNumber recipientId number := by
  refine hnumber.resolve_right fun hsigns => ?_
  obtain ⟨other, hother, hrefused⟩ := h batchIds hbatch ⟨recipientId, hmem, number, hsigns⟩
  exact hrefused (haccepted other hother)

theorem RefusesTwoSigns.registered {recipientIds : List RecipientId}
    (h : RefusesTwoSigns recipientIds) {circumstances : DiscoveryCircumstances}
    (hsucceeded : ∀ batch ∈ ranBatches circumstances recipientIds, batch.failingError = none)
    (recipientId : RecipientId) :
    recipientId ∈ (perform circumstances recipientIds).registeredRecipientIds ↔
      recipientId ∈ recipientIds ∧ ∃ number, HasNumber recipientId number ∧
        circumstances.registered number = true := by
  have hran : ∀ index batchIds, (chunked recipientIds batchSize)[index]? = some batchIds →
      (∀ recipientId ∈ batchIds, ∃ number, IsAccepted recipientId number) ∧
        ∀ recipientId, recipientId ∈ ((CDSBatchOperation.initWith
            (circumstances.members index batchIds)).run (circumstances.answers index)
              circumstances.registered).registeredRecipientIds ↔
          recipientId ∈ batchIds ∧ ∃ number, IsAccepted recipientId number ∧
            circumstances.registered number = true := by
    intro index batchIds hindex
    have hnone := hsucceeded _ (List.mem_of_getElem? (getElem?_ranBatches circumstances hindex))
    rcases CDSBatchOperation.run_initWith (circumstances.members index batchIds)
      (circumstances.answers index) circumstances.registered with ⟨hfailed, -⟩ | ⟨hall, -, hmem⟩
    · exact absurd hnone hfailed
    · exact ⟨hall, hmem⟩
  rw [(perform_of_succeeded hsucceeded).2]
  constructor
  · rintro ⟨batch, hbatch, hfound⟩
    obtain ⟨index, hlt, rfl⟩ := List.mem_mapIdx.mp hbatch
    have hindex := List.getElem?_eq_getElem hlt
    obtain ⟨hall, hmem⟩ := hran index _ hindex
    obtain ⟨hlisted, number, hnumber, hregistered⟩ := (hmem recipientId).mp hfound
    have hchunk := List.mem_of_getElem? hindex
    exact ⟨subset_of_mem_chunked hchunk hlisted, number,
      h.hasNumber hchunk hall hlisted hnumber, hregistered⟩
  · rintro ⟨hlisted, number, hnumber, hregistered⟩
    obtain ⟨batchIds, hchunk, hmem⟩ := exists_mem_chunked (by decide : 0 < batchSize) hlisted
    obtain ⟨index, hindex⟩ := List.getElem?_of_mem hchunk
    refine ⟨_, List.mem_of_getElem? (getElem?_ranBatches circumstances hindex), ?_⟩
    obtain ⟨-, hfound⟩ := hran index batchIds hindex
    exact (hfound recipientId).mpr ⟨hmem, number, .inl hnumber, hregistered⟩

/-- A batch that is encoded succeeds if the services have no error. -/
theorem Discovers.refusesTwoSigns {recipientIds : List RecipientId} (h : Discovers recipientIds) :
    RefusesTwoSigns recipientIds := by
  rintro batchIds hbatch ⟨recipientId, hmem, number, hsigns⟩
  by_contra hnone
  have haccepted : ∀ other ∈ batchIds, ∃ number, IsAccepted other number := by
    intro other hother
    by_contra hrefused
    exact hnone ⟨other, hother, hrefused⟩
  obtain ⟨index, hlt, rfl⟩ := List.mem_iff_getElem.mp hbatch
  -- The services have no error.
  obtain ⟨⟨batch, hindex, hfailed, -⟩, -⟩ := h.refuses
    ⟨fun _ => inOrder, fun _ => ⟨none, true, fun _ => none⟩, fun _ => false⟩ index _
    (List.getElem?_eq_getElem hlt)
    ⟨recipientId, hmem, not_exists.mpr fun _ => not_hasNumber_of_hasTwoSigns hsigns⟩
  rw [dependencies_perform, getElem?_ranBatches _ (List.getElem?_eq_getElem hlt)] at hindex
  obtain rfl := Option.some.inj hindex
  exact hfailed (CDSBatchOperation.failingError_run_initWith _ haccepted)

/-- **A lookup finds what is registered** if and only if every batch that has an id with two plus
signs has one that is refused. -/
theorem discovers_iff (recipientIds : List RecipientId) :
    Discovers recipientIds ↔ RefusesTwoSigns recipientIds := by
  constructor
  · exact Discovers.refusesTwoSigns
  · intro h
    refine ⟨fun circumstances hsucceeded => ?_, fun circumstances index batchIds hindex => ?_, ?_⟩
    · rw [dependencies_perform] at hsucceeded
      exact ⟨(perform_of_succeeded hsucceeded).1, h.registered hsucceeded⟩
    · rintro ⟨recipientId, hmem, hnot⟩
      have hbatch := getElem?_ranBatches circumstances hindex
      rcases CDSBatchOperation.run_initWith (circumstances.members index batchIds)
        (circumstances.answers index) circumstances.registered with ⟨hfailed, hnone⟩ | ⟨hall, -⟩
      · rw [dependencies_perform]
        exact ⟨⟨_, hbatch, hfailed, hnone⟩, perform_of_failed (List.mem_of_getElem? hbatch) hfailed⟩
      · obtain ⟨number, hnumber⟩ := hall recipientId hmem
        exact absurd ⟨number, h.hasNumber (List.mem_of_getElem? hindex) hall hmem hnumber⟩ hnot
    · intro batchIds hbatch otherIds hotherBatch hencoded hotherEncoded recipientId hmem other hother
        hdifferent hsame
      have hall := exists_encodePhoneNumbers.mp hencoded
      have hotherAll := exists_encodePhoneNumbers.mp hotherEncoded
      obtain ⟨number, hnumber⟩ := hall recipientId hmem
      obtain ⟨number', hnumber'⟩ := hotherAll other hother
      exact hdifferent (sameButZeros_of_encodePhoneNumber_eq
        (h.hasNumber hbatch hall hmem hnumber)
        (h.hasNumber hotherBatch hotherAll hother hnumber') hsame)

theorem two_signs_accepted : ¬Discovers [['+', '+', '1', '2', '3', '4']] := by
  intro h
  have hsigns : HasTwoSigns ['+', '+', '1', '2', '3', '4'] 1234 :=
    ⟨['1', '2', '3', '4'], rfl, by simp [Decimal.IsDigit], rfl, by decide, by decide⟩
  obtain ⟨recipientId, hmem, hrefused⟩ := h.refusesTwoSigns _ List.mem_cons_self
    ⟨_, List.mem_cons_self, 1234, hsigns⟩
  obtain rfl := List.mem_singleton.mp hmem
  exact hrefused ⟨1234, .inr hsigns⟩

end CDSOperation

end ObjcSwiftLearning.SignalServiceKit
