import ObjcSwiftLearning.AxolotlKit.AdditivePrimitives
import ObjcSwiftLearning.AxolotlKit.TrialEffects

/-!
# Do trials isolate session states?

`throws_decryptWithSessionRecord:` tries a message on one session state after
another.  `TrialIsolated` says what one would want of it: the states that were
tried in vain, and those that were not tried, are as before, in their order, and
the state that decrypted is in front.

The code works on the states themselves, so a vain trial leaves its writes
behind.  `trialIsolated_iff` is the exact condition: no state before the hit is
touched.

* `Rejected.eq_self_iff` — the tried states are unchanged when none is touched.
* `RecordDecryption.states_eq` — what the record holds afterwards.
-/

namespace ObjcSwiftLearning.AxolotlKit

open SignalServiceKit Procedure SessionCipher

variable {P : Primitives}

/-! ## What a vain trial leaves -/

section Rejected

variable {whisperMessage : WhisperMessage} {tried rejected : List SessionState}
  {generated generated' : ℕ}

section

variable (h : Rejected P whisperMessage tried generated rejected generated')
include h

theorem SessionCipher.Rejected.opens_eq_none : ∀ s ∈ tried, s.opens P whisperMessage = none := by
  induction h with
  | nil generated => simp
  | cons hrun hrest ih =>
      intro s hs
      rcases List.mem_cons.mp hs with rfl | hs
      · exact (trialOutcome_of_run hrun).opens_eq_none
      · exact ih s hs

/-- The tried states are unchanged exactly when none is touched. -/
theorem SessionCipher.Rejected.eq_self_iff :
    rejected = tried ↔ ∀ s ∈ tried, s.touches P whisperMessage = false := by
  induction h with
  | nil generated => simp
  | cons hrun hrest ih =>
      rw [List.cons.injEq, List.forall_mem_cons, ih, (trialOutcome_of_run hrun).eq_self_iff]

/-- The states a message is tried on in vain are those before the first that
opens it. -/
theorem SessionCipher.Rejected.takeWhile_eq {s : SessionState} {untried : List SessionState}
    (hs : (s.opens P whisperMessage).isSome = true) :
    (tried ++ s :: untried).takeWhile (fun s => (s.opens P whisperMessage).isNone) = tried := by
  have htried : ∀ t ∈ tried, (t.opens P whisperMessage).isNone = true := by
    intro t ht
    simp [h.opens_eq_none t ht]
  rw [List.takeWhile_append_of_pos htried, List.takeWhile_cons_of_neg]
  · simp
  · simpa [← Option.isSome_iff_ne_none] using hs

end

end Rejected

/-! ## The record afterwards -/

/-- What one would want of a successful decryption: only the decrypting state has
advanced, it is in front, and the others are as they were, in their order. -/
def TrialIsolated (P : Primitives) (whisperMessage : WhisperMessage)
    (sessionRecord sessionRecord' : SessionRecord) : Prop :=
  ∃ before s after s', sessionRecord.states = before ++ s :: after ∧
    sessionRecord'.states = s' :: (before ++ after) ∧
    ∃ generated generated' plaintext,
      (throwsDecryptWithSessionState P whisperMessage).run ⟨s, generated⟩ =
        (.ok plaintext, ⟨s', generated'⟩)

/-- **Isolation, exactly**: it holds when no state before the first that opens the
message is touched by its trial. -/
theorem trialIsolated_iff {cipher : SessionCipher} {sessionRecord sessionRecord' : SessionRecord}
    {whisperMessage : WhisperMessage} {world world' : World} {plaintext : NSData}
    (hlength : sessionRecord.previousStates.length ≤ 40)
    (h : (cipher.throwsDecryptWithSessionRecord P sessionRecord whisperMessage).run world =
      (.ok (plaintext, sessionRecord'), world')) :
    TrialIsolated P whisperMessage sessionRecord sessionRecord' ↔
      ∀ s ∈ sessionRecord.states.takeWhile (fun s => (s.opens P whisperMessage).isNone),
        s.touches P whisperMessage = false := by
  obtain ⟨-, hdecryption⟩ := throwsDecryptWithSessionRecord_eq_ok h
  cases hdecryption with
  | @mk tried rejected untried s s' generated₁ generated₂ hstates hrejected hrun =>
      have hopens := (trialOutcome_of_run hrun).opens_eq
      have hwhile : sessionRecord.states.takeWhile
          (fun s => (s.opens P whisperMessage).isNone) = tried := by
        rw [hstates, hrejected.takeWhile_eq (by simp [hopens])]
      have hafter := decryptedRecord_states s' hlength hstates hrejected.length_eq
      rw [hwhile, ← hrejected.eq_self_iff]
      constructor
      · -- Any hit is at or behind the first, so the first states are unchanged.
        rintro ⟨before, t, after, t', hstates', hafter', generated₀, generated₀', found, hrun'⟩
        have hopens' := (trialOutcome_of_run hrun').opens_eq
        have hprefix : tried <+: before := by
          have hbefore : before <+: sessionRecord.states := ⟨t :: after, hstates'.symm⟩
          have htried : tried <+: sessionRecord.states := ⟨s :: untried, hstates.symm⟩
          rcases List.prefix_or_prefix_of_prefix htried hbefore with hle | hlt
          · exact hle
          · obtain ⟨rest, hrest⟩ := hlt
            cases rest with
            | nil => exact ⟨[], by simpa using hrest.symm⟩
            | cons first rest =>
                -- The state opened would be among the rejected ones.
                rw [hstates, ← hrest, List.append_assoc] at hstates'
                have hfirst := List.append_cancel_left hstates'
                simp only [List.cons_append, List.cons.injEq] at hfirst
                have hmem : t ∈ tried := by
                  rw [← hrest, ← hfirst.1]
                  simp
                rw [hrejected.opens_eq_none t hmem] at hopens'
                simp at hopens'
        obtain ⟨rest, rfl⟩ := hprefix
        rw [hafter, List.cons.injEq, List.append_assoc] at hafter'
        exact (List.append_inj hafter'.2 hrejected.length_eq).1
      · intro hsame
        refine ⟨tried, s, untried, s', hstates, ?_, generated₁, _, plaintext, hrun⟩
        rw [hafter, hsame]

/-- The state in front, of another version, rejects the message untouched; the one behind it
opens it. -/
theorem trialIsolated_sample :
    let sessionRecord := sampleRecord { sampleSession 30 31 with version := 2 }
      [sampleSession 20 21, sampleSession 40 41]
    ∃ sessionRecord', TrialIsolated additivePrimitives (sampleMessage 21) sessionRecord
      sessionRecord' := by
  intro sessionRecord
  rcases hrun : (sampleCipher.throwsDecryptWithSessionRecord additivePrimitives sessionRecord
      (sampleMessage 21)).run ⟨sampleStores none none, 0, 0⟩ with ⟨e | ⟨plaintext, after⟩, world'⟩
  · have hok : ((sampleCipher.throwsDecryptWithSessionRecord additivePrimitives sessionRecord
        (sampleMessage 21)).run ⟨sampleStores none none, 0, 0⟩).1.isOk = true := by decide +kernel
    rw [hrun] at hok
    simp [Except.isOk, Except.toBool] at hok
  · exact ⟨after, (trialIsolated_iff (by decide) hrun).mpr (by decide +kernel)⟩

/-- The states behind the decrypting one were in the record before. -/
theorem TrialIsolated.mem {whisperMessage : WhisperMessage}
    {sessionRecord sessionRecord' : SessionRecord}
    (h : TrialIsolated P whisperMessage sessionRecord sessionRecord') :
    ∀ s ∈ sessionRecord'.previousStates, s ∈ sessionRecord.states := by
  obtain ⟨before, s, after, s', hstates, hafter, -⟩ := h
  simp only [SessionRecord.states, List.cons.injEq] at hafter
  intro t ht
  rw [hafter.2, List.mem_append] at ht
  rw [hstates, List.mem_append, List.mem_cons]
  tauto

theorem not_trialIsolated_of_archived :
    ¬∀ (P : Primitives) (cipher : SessionCipher) (sessionRecord sessionRecord' : SessionRecord)
      (whisperMessage : WhisperMessage) (world world' : World) (plaintext : NSData),
      sessionRecord.previousStates.length ≤ 40 →
      (cipher.throwsDecryptWithSessionRecord P sessionRecord whisperMessage).run world =
        (.ok (plaintext, sessionRecord'), world') →
      TrialIsolated P whisperMessage sessionRecord sessionRecord' := by
  intro hisolated
  -- The archived states afterwards, looked up among the states before.
  have hleft : ((sampleCipher.throwsDecryptWithSessionRecord additivePrimitives
      (sampleRecord (sampleSession 20 21) [sampleSession 30 31]) (sampleMessage 31)).run
        ⟨sampleStores none none, 0, 0⟩).1.toOption.map (fun decrypted =>
          decrypted.2.previousStates.all
            (· ∈ (sampleRecord (sampleSession 20 21) [sampleSession 30 31]).states)) =
        some false := by decide +kernel
  rcases hrun : (sampleCipher.throwsDecryptWithSessionRecord additivePrimitives
      (sampleRecord (sampleSession 20 21) [sampleSession 30 31]) (sampleMessage 31)).run
        ⟨sampleStores none none, 0, 0⟩ with ⟨e | ⟨plaintext, sessionRecord'⟩, world'⟩
  · rw [hrun] at hleft
    simp [Except.toOption] at hleft
  · rw [hrun] at hleft
    have hmem := (hisolated _ _ _ _ _ _ _ _ (by decide) hrun).mem
    simp only [Except.toOption, Option.map_some, Option.some.injEq, List.all_eq_false,
      decide_eq_true_eq] at hleft
    obtain ⟨s, hs, hnot⟩ := hleft
    exact hnot (hmem s hs)

end ObjcSwiftLearning.AxolotlKit
