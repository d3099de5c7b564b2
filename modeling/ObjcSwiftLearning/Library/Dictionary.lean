import Mathlib.Data.List.AList
import Mathlib.Tactic.Common

/-!
# Changing the values of a dictionary

An association list with one value for each key, changed value by value: the keys
stay what they are, in their order, and what is found under a key is what was found
there, changed.

* `AList.lookup_mapValues` — every value is changed.
* `AList.lookup_modify` — the value under one key is changed.
* `AList.lookup_modifyAll` — the values under the keys of another dictionary are
  changed by what it has there.
* `AList.mem_keysWhere` — the keys whose value satisfies a predicate.
* `AList.lookup_insertEach`, `AList.lookup_insertNew` — one value put under each key
  of a list, or under those that have none yet.
* `AList.lookup_tabulate` — a dictionary of the values of a function.
* `AList.convert_convert_of_leftInverse` — values converted to another type and back.
-/

namespace AList

variable {α β γ : Type}

/-! ## Every value -/

/-- Each value changed by `f`, which may look at the key. -/
def mapValues (f : α → β → β) (s : AList fun _ : α => β) : AList fun _ : α => β where
  entries := s.entries.map (.map id f)
  nodupKeys := s.nodupKeys.map₂ f s.entries

variable {f : α → β → β} {s : AList fun _ : α => β} {a b : α}

variable [DecidableEq α]

@[simp] theorem lookup_mapValues : (s.mapValues f).lookup a = (s.lookup a).map (f a) :=
  List.dlookup_map₂ a

/-! ## The value under one key -/

/-- The value under `a` changed by `g`, if there is one. -/
def modify (a : α) (g : β → β) (s : AList fun _ : α => β) : AList fun _ : α => β :=
  s.mapValues fun key value => if key = a then g value else value

variable {g : β → β}

@[simp] theorem lookup_modify : (s.modify a g).lookup a = (s.lookup a).map g := by
  rw [modify, lookup_mapValues]
  simp

theorem lookup_modify_of_ne (h : b ≠ a) : (s.modify a g).lookup b = s.lookup b := by
  rw [modify, lookup_mapValues]
  simp [h]

/-! ## The values under the keys of another dictionary -/

/-- Each entry of `updates` changes the value under its key. -/
def modifyAll (s : AList fun _ : α => β) (updates : AList fun _ : α => γ) (g : γ → β → β) :
    AList fun _ : α => β :=
  updates.entries.foldl (fun s update => s.modify update.fst (g update.snd)) s

theorem lookup_foldl_modify {updates : List (Σ _ : α, γ)} {g : γ → β → β}
    (h : updates.NodupKeys) :
    (updates.foldl (fun s update => s.modify update.fst (g update.snd)) s).lookup a =
      (s.lookup a).map fun value => (updates.dlookup a).elim value fun update => g update value := by
  induction updates generalizing s with
  | nil => simp
  | cons update updates ih =>
      rw [List.nodupKeys_cons] at h
      rw [List.foldl_cons, ih h.2]
      by_cases heq : a = update.fst
      · subst heq
        rw [lookup_modify, List.dlookup_eq_none.mpr h.1, Option.map_map]
        obtain ⟨key, value⟩ := update
        rw [List.dlookup_cons_eq]
        rfl
      · obtain ⟨key, value⟩ := update
        rw [lookup_modify_of_ne heq, List.dlookup_cons_ne _ _ heq]

/-- What is found under a key the updates have is changed by what they have there. -/
theorem lookup_modifyAll {updates : AList fun _ : α => γ} {g : γ → β → β} :
    (s.modifyAll updates g).lookup a =
      (s.lookup a).map fun value => (updates.lookup a).elim value fun update => g update value :=
  lookup_foldl_modify updates.nodupKeys

/-! ## The keys of some values -/

/-- The keys whose value satisfies `p`. -/
def keysWhere (p : β → Bool) (s : AList fun _ : α => β) : List α :=
  (s.entries.filter fun entry => p entry.snd).map (·.fst)

variable {p : β → Bool} {keys : List α}

theorem mem_keysWhere : a ∈ s.keysWhere p ↔ ∃ value, s.lookup a = some value ∧ p value = true := by
  rw [keysWhere, List.mem_map]
  constructor
  · rintro ⟨⟨key, value⟩, hentry, rfl⟩
    obtain ⟨hmem, hp⟩ := List.mem_filter.mp hentry
    exact ⟨value, mem_lookup_iff.mpr hmem, hp⟩
  · rintro ⟨value, hlookup, hp⟩
    exact ⟨⟨a, value⟩, List.mem_filter.mpr ⟨mem_lookup_iff.mp hlookup, hp⟩, rfl⟩

omit [DecidableEq α] in
/-- Each such key is listed once. -/
theorem nodup_keysWhere : (s.keysWhere p).Nodup := by
  have hsub : (s.keysWhere p).Sublist s.keys := (List.filter_sublist).map _
  exact hsub.nodup s.keys_nodup

/-! ## The values of a function -/

/-- The value of `f` put under each of the keys. -/
def insertValues (s : AList fun _ : α => β) (keys : List α) (f : α → β) : AList fun _ : α => β :=
  keys.foldl (fun s key => s.insert key (f key)) s

theorem lookup_insertValues {f : α → β} :
    (s.insertValues keys f).lookup a = if a ∈ keys then some (f a) else s.lookup a := by
  induction keys generalizing s with
  | nil => rfl
  | cons key keys ih =>
      have hstep : (s.insertValues (key :: keys) f).lookup a =
          ((s.insert key (f key)).insertValues keys f).lookup a := rfl
      rw [hstep, ih]
      by_cases heq : a = key
      · subst heq
        simp
      · rw [lookup_insert_ne heq]
        simp [heq]

/-- The dictionary of the values of `f` at the keys. -/
def tabulate (keys : List α) (f : α → β) : AList fun _ : α => β :=
  insertValues ∅ keys f

theorem lookup_tabulate {f : α → β} :
    (tabulate keys f).lookup a = if a ∈ keys then some (f a) else none := by
  rw [tabulate, lookup_insertValues, lookup_empty]

/-! ## One value for many keys -/

/-- `value` put under each of the keys. -/
def insertEach (s : AList fun _ : α => β) (keys : List α) (value : β) : AList fun _ : α => β :=
  keys.foldl (fun s key => s.insert key value) s

theorem lookup_insertEach {value : β} :
    (s.insertEach keys value).lookup a = if a ∈ keys then some value else s.lookup a :=
  @lookup_insertValues _ _ s a _ keys fun _ => value

/-- `value` put under each of the keys that has none yet. -/
def insertNew (s : AList fun _ : α => β) (keys : List α) (value : β) : AList fun _ : α => β :=
  keys.foldl (fun s key => if (s.lookup key).isSome then s else s.insert key value) s

theorem lookup_insertNew {value : β} :
    (s.insertNew keys value).lookup a =
      (s.lookup a).or (if a ∈ keys then some value else none) := by
  induction keys generalizing s with
  | nil => simp [insertNew]
  | cons key keys ih =>
      have hstep : (s.insertNew (key :: keys) value).lookup a =
          (insertNew (if (s.lookup key).isSome then s else s.insert key value) keys
            value).lookup a := rfl
      rw [hstep, ih]
      by_cases heq : a = key
      · subst heq
        cases hlookup : s.lookup a with
        | none => simp
        | some found => simp [hlookup]
      · have hsame : (if (s.lookup key).isSome then s else s.insert key value).lookup a =
            s.lookup a := by
          split
          · rfl
          · exact lookup_insert_ne heq
        rw [hsame]
        simp [heq]

/-! ## Values of another type -/

/-- Each value converted by `f`. -/
def convert (f : β → γ) (s : AList fun _ : α => β) : AList fun _ : α => γ where
  entries := s.entries.map (.map id fun _ => f)
  nodupKeys := s.nodupKeys.map₂ (fun _ => f) s.entries

omit [DecidableEq α] in
/-- **Converted and converted back**, the values are what they were. -/
theorem convert_convert_of_leftInverse {f : β → γ} {g : γ → β} (h : ∀ b, g (f b) = b) :
    (s.convert f).convert g = s := by
  apply AList.ext
  refine List.map_map.trans (List.map_id'' ?_ s.entries)
  rintro ⟨key, value⟩
  exact congrArg (Sigma.mk key) (h value)

end AList
