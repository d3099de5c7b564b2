import Mathlib.Data.List.Basic
import Mathlib.Data.List.Chain
import Mathlib.Tactic.Common

/-!
# Maximal runs

The words of a text are the longest stretches of it that consist of letters; in general, the
maximal runs of a list are its longest stretches of elements that satisfy a predicate.

* `List.IsRun` — what it is to be one.
* `List.isRun_append_cons` — an element that does not satisfy the predicate divides the runs.
* `List.mem_runs` — `List.runs` computes them.
-/

namespace List

variable {α : Type} (p : α → Bool)

/-- A stretch of a list whose elements satisfy `p`, and whose neighbours do not. -/
def IsRun (list word : List α) : Prop :=
  word ≠ [] ∧ (∀ a ∈ word, p a = true) ∧ ∃ before after, list = before ++ word ++ after ∧
    (∀ a ∈ before.getLast?, p a = false) ∧ ∀ a ∈ after.head?, p a = false

/-- The maximal runs, where `run` has been read of the current one. -/
def runsFrom : List α → List α → List (List α)
  | run, [] => if run.isEmpty then [] else [run]
  | run, a :: list =>
      if p a then runsFrom (run ++ [a]) list
      else (if run.isEmpty then [] else [run]) ++ runsFrom [] list

def runs (list : List α) : List (List α) := runsFrom p [] list

variable {p} {a : α} {list rest word : List α}

theorem isRun_nil : ¬IsRun p [] word := by
  rintro ⟨hne, -, before, after, heq, -⟩
  simp [hne] at heq

/-- Elements that all satisfy `p` are one run. -/
theorem isRun_of_all (h : ∀ a ∈ list, p a = true) :
    IsRun p list word ↔ word = list ∧ list ≠ [] := by
  constructor
  · rintro ⟨hne, -, before, after, rfl, hbefore, hafter⟩
    have hnone : before = [] := by
      rcases List.eq_nil_or_concat before with hnil | ⟨init, last, rfl⟩
      · exact hnil
      · have hlast := hbefore last (by simp)
        rw [h last (by simp)] at hlast
        cases hlast
    have hnone' : after = [] := by
      cases after with
      | nil => rfl
      | cons first after =>
          have hfirst := hafter first rfl
          rw [h first (by simp)] at hfirst
          cases hfirst
    simp [hnone, hnone', hne]
  · rintro ⟨rfl, hne⟩
    exact ⟨hne, h, [], [], by simp, by simp, by simp⟩

/-- **An element that does not satisfy `p`** divides the runs. -/
theorem isRun_append_cons (ha : p a = false) :
    IsRun p (list ++ a :: rest) word ↔ IsRun p list word ∨ IsRun p rest word := by
  constructor
  · rintro ⟨hne, hall, before, after, heq, hbefore, hafter⟩
    have hnot : a ∉ word := by
      intro hmem
      rw [hall a hmem] at ha
      cases ha
    -- The element is not in the run, so the run ends before it or begins after it.
    rcases List.append_eq_append_iff.mp heq with ⟨middle, hword, hrest⟩ | ⟨middle, hlist, rfl⟩
    · cases middle with
      | nil =>
          refine .inl ⟨hne, hall, before, [], by simpa using hword.symm, hbefore, by simp⟩
      | cons first middle =>
          obtain ⟨rfl, rfl⟩ := List.cons.inj hrest
          rcases List.append_eq_append_iff.mp hword with ⟨gap, -, hgap⟩ | ⟨gap, rfl, hgap⟩
          · exact absurd (by simp [hgap]) hnot
          · cases gap with
            | nil => exact absurd (by rw [List.nil_append] at hgap; simp [← hgap]) hnot
            | cons first gap =>
                obtain ⟨rfl, rfl⟩ := List.cons.inj hgap
                refine .inr ⟨hne, hall, gap, after, by simp, ?_, hafter⟩
                intro last hlast
                refine hbefore last ?_
                rw [List.getLast?_append, List.getLast?_cons, hlast]
                simp
    · refine .inl ⟨hne, hall, before, middle, hlist, hbefore, ?_⟩
      intro first hfirst
      refine hafter first ?_
      rw [List.head?_append, hfirst]
      rfl
  · rintro (⟨hne, hall, before, after, rfl, hbefore, hafter⟩ |
      ⟨hne, hall, before, after, rfl, hbefore, hafter⟩)
    · refine ⟨hne, hall, before, after ++ a :: rest, by simp, hbefore, ?_⟩
      cases after with
      | nil => simpa using ha
      | cons first after => exact hafter
    · refine ⟨hne, hall, list ++ a :: before, after, by simp, ?_, hafter⟩
      intro last hlast
      rw [List.getLast?_append, List.getLast?_cons] at hlast
      cases hlater : before.getLast? with
      | none =>
          rw [hlater] at hlast
          obtain rfl : a = last := by simpa using hlast
          exact ha
      | some later =>
          rw [hlater] at hlast
          obtain rfl : later = last := by simpa using hlast
          exact hbefore later hlater

theorem mem_ite_isEmpty (h : ∀ a ∈ list, p a = true) :
    word ∈ (if list.isEmpty then [] else [list]) ↔ IsRun p list word := by
  rw [isRun_of_all h]
  cases list <;> simp

theorem mem_runsFrom {run : List α} (h : ∀ a ∈ run, p a = true) :
    word ∈ runsFrom p run list ↔ IsRun p (run ++ list) word := by
  induction list generalizing run with
  | nil =>
      rw [List.append_nil]
      exact mem_ite_isEmpty h
  | cons a list ih =>
      rw [runsFrom]
      by_cases ha : p a = true
      · have hrun : ∀ b ∈ run ++ [a], p b = true := by
          intro b hb
          rcases List.mem_append.mp hb with hb | hb
          · exact h b hb
          · rw [List.mem_singleton.mp hb]
            exact ha
        rw [if_pos ha, ih hrun, List.append_assoc, List.singleton_append]
      · have hnone : ∀ b ∈ ([] : List α), p b = true := by simp
        rw [if_neg ha, List.mem_append, mem_ite_isEmpty h, ih hnone, List.nil_append,
          isRun_append_cons (by simpa using ha)]

/-- **The runs are computed.** -/
theorem mem_runs : word ∈ runs p list ↔ IsRun p list word := by
  have hnone : ∀ a ∈ ([] : List α), p a = true := by simp
  exact mem_runsFrom hnone

theorem IsRun.subset (h : IsRun p list word) : word ⊆ list := by
  obtain ⟨-, -, before, after, rfl, -⟩ := h
  intro a ha
  simp [ha]

/-- Elements of which none satisfies `p` make no difference before a list. -/
theorem isRun_append_left (h : ∀ a ∈ list, p a = false) :
    IsRun p (list ++ rest) word ↔ IsRun p rest word := by
  induction list with
  | nil => rfl
  | cons a list ih =>
      rw [List.cons_append, ← List.nil_append (a :: _), isRun_append_cons (h a mem_cons_self),
        or_iff_right isRun_nil]
      exact ih fun b hb => h b (mem_cons_of_mem a hb)

theorem isRun_of_none (h : ∀ a ∈ list, p a = false) : ¬IsRun p list word := by
  rw [← List.append_nil list, isRun_append_left h]
  exact isRun_nil

/-- Nor after it. -/
theorem isRun_append_right (h : ∀ a ∈ rest, p a = false) :
    IsRun p (list ++ rest) word ↔ IsRun p list word := by
  cases rest with
  | nil => rw [List.append_nil]
  | cons a rest =>
      rw [isRun_append_cons (h a mem_cons_self)]
      exact or_iff_left (isRun_of_none fun b hb => h b (mem_cons_of_mem a hb))

theorem runs_map {β : Type _} (f : β → α) (list : List β) :
    runs p (list.map f) = (runs (p ∘ f) list).map (List.map f) := by
  have hfrom : ∀ run : List β, runsFrom p (run.map f) (list.map f) =
      (runsFrom (p ∘ f) run list).map (List.map f) := by
    induction list with
    | nil => intro run; cases run <;> rfl
    | cons b list ih =>
        intro run
        have hrun : run.map f ++ [f b] = (run ++ [b]).map f := by simp
        have hnone := ih []
        rw [List.map_nil] at hnone
        rw [List.map_cons, runsFrom, runsFrom, hrun, ih, hnone, Function.comp_apply]
        split
        · rfl
        · cases run <;> rfl
  exact hfrom []

theorem isRun_intercalate (ha : p a = false) (lists : List (List α)) :
    IsRun p ([a].intercalate lists) word ↔ ∃ list ∈ lists, IsRun p list word := by
  induction lists with
  | nil => simp [List.intercalate, isRun_nil]
  | cons list lists ih =>
      cases lists with
      | nil => simp [List.intercalate]
      | cons next lists =>
          have hjoin : [a].intercalate (list :: next :: lists) =
              list ++ a :: [a].intercalate (next :: lists) := by
            simp [List.intercalate]
          rw [hjoin, isRun_append_cons ha, ih]
          simp

/-- A relation between neighbours holds in lists with an element between each two, if it holds in
each of them and beside that element. -/
theorem isChain_intercalate {R : α → α → Prop} {lists : List (List α)} (hself : R a a)
    (hlists : ∀ list ∈ lists, list.IsChain R ∧ (∀ b ∈ list.head?, R a b) ∧
      ∀ b ∈ list.getLast?, R b a) : ([a].intercalate lists).IsChain R := by
  have hjoined : ([a].intercalate lists).IsChain R ∧
      ∀ b ∈ ([a].intercalate lists).head?, R a b := by
    induction lists with
    | nil => simp [List.intercalate]
    | cons list lists ih =>
        obtain ⟨hchain, hhead, hlast⟩ := hlists list mem_cons_self
        cases lists with
        | nil => simpa [List.intercalate] using And.intro hchain hhead
        | cons next lists =>
            obtain ⟨hrest, hnext⟩ :=
              ih fun later hlater => hlists later (mem_cons_of_mem list hlater)
            have hjoin : [a].intercalate (list :: next :: lists) =
                list ++ a :: [a].intercalate (next :: lists) := by
              simp [List.intercalate]
            rw [hjoin]
            refine ⟨List.isChain_append.mpr ⟨hchain, ?_, ?_⟩, ?_⟩
            · exact List.isChain_cons.mpr ⟨hnext, hrest⟩
            · rintro last hmem b hb
              obtain rfl : a = b := by simpa using hb
              exact hlast last hmem
            · cases list with
              | nil => simpa using hself
              | cons first list => exact hhead
  exact hjoined.1

end List
