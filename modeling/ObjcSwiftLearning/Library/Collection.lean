import Mathlib.Data.List.Nodup
import Mathlib.Tactic.Common

/-!
# Collections of keyed objects

Objects that are stored under keys of their own, one under each.

* `Collection.find`, `save`, `remove` — the object under a key, and how it is replaced and removed.
* `Collection.find_saveEach`, `removeEach_eq_without` — what many of them do.
* `Collection.without_saveEach` — what is stored under other keys is left as it is.
-/

/-- Objects with different keys. -/
@[ext] structure Collection {α κ : Type} (key : α → κ) where
  objects : List α
  nodup : (objects.map key).Nodup

namespace Collection

variable {α κ : Type} {key : α → κ} [DecidableEq κ] {c : Collection key} {a b : α} {k k' : κ}
  {list : List α} {keys : List κ}

/-- Nothing is stored. -/
def empty : Collection key := ⟨[], List.nodup_nil⟩

def find (c : Collection key) (k : κ) : Option α := c.objects.find? (key · = k)

/-- The objects that have a property. -/
def filter (c : Collection key) (p : α → Bool) : Collection key :=
  ⟨c.objects.filter p, c.nodup.sublist (List.filter_sublist.map key)⟩

/-- The objects that are not under one of some keys. -/
def without (c : Collection key) (keys : List κ) : Collection key :=
  ⟨c.objects.filter (key · ∉ keys), c.nodup.sublist (List.filter_sublist.map key)⟩

/-- An object is stored under its key, where it replaces what is there. -/
def save (c : Collection key) (a : α) : Collection key where
  objects := (c.without [key a]).objects ++ [a]
  nodup := by
    rw [List.map_append]
    refine (c.without [key a]).nodup.append (List.nodup_singleton _)
      (List.disjoint_singleton.mpr fun hmem => ?_)
    obtain ⟨b, hb, hkey⟩ := List.mem_map.mp hmem
    have hne := (List.mem_filter.mp hb).2
    rw [hkey] at hne
    simp at hne

def remove (c : Collection key) (k : κ) : Collection key := c.without [k]

/-- Objects are saved one after the other. -/
def saveEach (c : Collection key) (list : List α) : Collection key := list.foldl save c

def removeEach (c : Collection key) (keys : List κ) : Collection key := keys.foldl remove c

omit [DecidableEq κ] in
theorem eq_of_key (ha : a ∈ c.objects) (hb : b ∈ c.objects) (h : key a = key b) : a = b :=
  List.inj_on_of_nodup_map c.nodup ha hb h

theorem find_eq_some_iff : c.find k = some a ↔ a ∈ c.objects ∧ key a = k := by
  constructor
  · intro h
    exact ⟨List.mem_of_find?_eq_some h, by simpa using List.find?_some h⟩
  · rintro ⟨ha, rfl⟩
    cases hfind : c.objects.find? (key · = key a) with
    | none =>
        have hall := List.find?_eq_none.mp hfind a ha
        simp at hall
    | some b =>
        have hkey : key b = key a := by simpa using List.find?_some hfind
        exact eq_of_key (List.mem_of_find?_eq_some hfind) ha hkey ▸ hfind

theorem find_eq_none_iff : c.find k = none ↔ ∀ a ∈ c.objects, key a ≠ k := by
  rw [find, List.find?_eq_none]
  simp

theorem find_key (ha : a ∈ c.objects) : c.find (key a) = some a := find_eq_some_iff.mpr ⟨ha, rfl⟩

theorem mem_iff_find : a ∈ c.objects ↔ c.find (key a) = some a :=
  ⟨find_key, fun h => (find_eq_some_iff.mp h).1⟩

omit [DecidableEq κ] in
@[simp] theorem mem_filter {p : α → Bool} :
    a ∈ (c.filter p).objects ↔ a ∈ c.objects ∧ p a = true := by
  simp [filter]

@[simp] theorem mem_without : a ∈ (c.without keys).objects ↔ a ∈ c.objects ∧ key a ∉ keys := by
  simp [without]

theorem find_without : (c.without keys).find k = if k ∈ keys then none else c.find k := by
  split
  · rename_i hk
    refine find_eq_none_iff.mpr fun a ha hkey => ?_
    exact (mem_without.mp ha).2 (hkey ▸ hk)
  · rename_i hk
    refine Option.ext fun a => ?_
    rw [find_eq_some_iff, find_eq_some_iff, mem_without]
    constructor
    · rintro ⟨⟨ha, -⟩, hkey⟩
      exact ⟨ha, hkey⟩
    · rintro ⟨ha, hkey⟩
      exact ⟨⟨ha, fun hmem => hk (hkey ▸ hmem)⟩, hkey⟩

theorem without_without (keys' : List κ) :
    (c.without keys).without keys' = c.without (keys ++ keys') := by
  ext1
  simp only [without, List.filter_filter]
  refine List.filter_congr fun a _ => ?_
  simp [Bool.and_comm]

theorem without_eq_self (h : ∀ a ∈ c.objects, key a ∉ keys) : c.without keys = c := by
  ext1
  refine List.filter_eq_self.mpr fun a ha => ?_
  simpa using h a ha

@[simp] theorem mem_save : b ∈ (c.save a).objects ↔ b ∈ c.objects ∧ key b ≠ key a ∨ b = a := by
  rw [save, List.mem_append, mem_without, List.mem_singleton, List.mem_singleton]

theorem find_save : (c.save a).find k = if k = key a then some a else c.find k := by
  split
  · rename_i hk
    exact find_eq_some_iff.mpr ⟨mem_save.mpr (.inr rfl), hk.symm⟩
  · rename_i hk
    refine Option.ext fun b => ?_
    rw [find_eq_some_iff, find_eq_some_iff, mem_save]
    constructor
    · rintro ⟨⟨hb, -⟩ | rfl, hkey⟩
      · exact ⟨hb, hkey⟩
      · exact absurd hkey.symm hk
    · rintro ⟨hb, rfl⟩
      exact ⟨.inl ⟨hb, hk⟩, rfl⟩

/-- Objects with different keys are found after they have been saved. -/
theorem find_saveEach (hnodup : (list.map key).Nodup) :
    (c.saveEach list).find k = (list.find? (key · = k)).or (c.find k) := by
  induction list generalizing c with
  | nil => rfl
  | cons a list ih =>
      obtain ⟨hnew, hrest⟩ := List.nodup_cons.mp hnodup
      have hstep : c.saveEach (a :: list) = (c.save a).saveEach list := rfl
      rw [hstep, ih hrest, find_save, List.find?_cons]
      by_cases hk : key a = k
      · have hnone : list.find? (key · = k) = none := by
          refine List.find?_eq_none.mpr fun b hb => ?_
          have hne : key b ≠ k := fun hkey =>
            hnew (List.mem_map.mpr ⟨b, hb, hkey.trans hk.symm⟩)
          simpa using hne
        simp [hk, hnone]
      · simp [hk, Ne.symm hk]

theorem removeEach_eq_without : c.removeEach keys = c.without keys := by
  induction keys generalizing c with
  | nil => exact (without_eq_self fun _ _ => List.not_mem_nil).symm
  | cons k keys ih =>
      have hstep : c.removeEach (k :: keys) = (c.remove k).removeEach keys := rfl
      rw [hstep, ih, remove, without_without, List.singleton_append]

theorem without_save (ha : key a ∈ keys) : (c.save a).without keys = c.without keys := by
  ext1
  have hsave : (c.save a).objects = (c.without [key a]).objects ++ [a] := rfl
  have hlast : [a].filter (key · ∉ keys) = [] := by simpa using ha
  simp only [without, hsave, List.filter_append, List.filter_filter, hlast, List.append_nil]
  refine List.filter_congr fun b _ => ?_
  by_cases hb : key b ∈ keys
  · simp [hb]
  · have hne : key b ≠ key a := fun heq => hb (heq ▸ ha)
    simp [hb, hne]

/-- **What is stored under other keys stays,** in its order. -/
theorem without_saveEach (hkeys : ∀ a ∈ list, key a ∈ keys) :
    (c.saveEach list).without keys = c.without keys := by
  induction list generalizing c with
  | nil => rfl
  | cons a list ih =>
      obtain ⟨ha, hrest⟩ := List.forall_mem_cons.mp hkeys
      have hstep : c.saveEach (a :: list) = (c.save a).saveEach list := rfl
      rw [hstep, ih hrest, without_save ha]

end Collection
