import Mathlib.Data.List.DropRight
import Mathlib.Data.List.Sort
import ObjcSwiftLearning.Library.Runs

/-!
# Full text search

What is stored is indexed under its normalized text, and a search is a query built of the
normalized search text: its stretches without digits, each a term, and one more term of all its
digits.  A term matches by prefix.

* `CharacterClasses` — the classes of characters, and what is documented of them.
* `normalize`, `query` — of `FullTextSearchFinder`.
* `parseQuery`, `Matches` — the queries of FTS5, and which texts they match.
* `search_finds` — **a search for prefixes of words finds the text**, and every query is well
  formed.

A text is the list of its Unicode scalars.
-/

namespace ObjcSwiftLearning.SignalServiceKit

/-! ## Characters -/

/-- The classes of characters that are asked for, and how Swift and SQLite put them together. -/
structure CharacterClasses where
  /-- What FTS5 takes for a letter. -/
  letters : Char → Bool
  decimalDigits : Char → Bool
  alphanumerics : Char → Bool
  punctuationCharacters : Char → Bool
  illegalCharacters : Char → Bool
  controlCharacters : Char → Bool
  whitespacesAndNewlines : Char → Bool
  /-- It is of one `Character` with what is before it. -/
  joinsPrevious : Char → Bool
  /-- It is of one `Character` with what is after it. -/
  joinsNext : Char → Bool
  /-- Equality of Swift's strings. -/
  isEqual : List Char → List Char → Bool
  /-- Order of Swift's strings. -/
  isLessOrEqual : List Char → List Char → Bool
  /-- Case folding of FTS5. -/
  fold : Char → Char

namespace CharacterClasses

variable (C : CharacterClasses)

def isTokenCharacter (c : Char) : Bool := C.letters c || C.decimalDigits c

/-- What is documented of the classes. -/
structure Lawful : Prop where
  letters : ∀ c, C.letters c = true → C.alphanumerics c = true ∧ C.decimalDigits c = false
  decimalDigits : ∀ c, C.decimalDigits c = true → C.alphanumerics c = true
  alphanumerics : ∀ c, C.alphanumerics c = true → C.punctuationCharacters c = false ∧
    C.illegalCharacters c = false ∧ C.controlCharacters c = false ∧
      C.whitespacesAndNewlines c = false
  space : C.whitespacesAndNewlines ' ' = true ∧ C.punctuationCharacters ' ' = false ∧
    C.illegalCharacters ' ' = false ∧ C.controlCharacters ' ' = false
  /-- Two spaces are two `Character`s. -/
  space_joins : C.joinsPrevious ' ' = false ∧ C.joinsNext ' ' = false
  quote : C.punctuationCharacters '"' = true

end CharacterClasses

/-! ## `FullTextSearchFinder` -/

namespace FullTextSearchFinder

variable (C : CharacterClasses)

def charactersToRemove (c : Char) : Bool :=
  C.punctuationCharacters c || C.illegalCharacters c || C.controlCharacters c ||
    (decide (c.toNat < 0x80) && !C.alphanumerics c && !C.whitespacesAndNewlines c)

/-- `trimmingCharacters(in: .whitespacesAndNewlines)`. -/
def trimmingCharacters (text : List Char) : List Char :=
  (text.dropWhile C.whitespacesAndNewlines).rdropWhile C.whitespacesAndNewlines

def normalize (text : List Char) : List Char :=
  trimmingCharacters C
    ((text.filter fun c => !charactersToRemove C c).map fun c =>
      if C.whitespacesAndNewlines c then ' ' else c)

/-- Each scalar with whether it is a `Character` of its own that equals a space; `previous` is
the scalar before. -/
def separators : Option Char → List Char → List (Char × Bool)
  | _, [] => []
  | previous, c :: text =>
      (c, c == ' ' && !previous.any C.joinsNext && !text.head?.any C.joinsPrevious) ::
        separators (some c) text

/-- `split(separator: " ")`. -/
def split (text : List Char) : List (List Char) :=
  (List.runs (fun entry => !entry.2) (separators C none text)).map fun entries =>
    entries.map Prod.fst

/-- `insert` of a set of strings; an equal member stays. -/
def inserting (kept : List (List Char)) (term : List Char) : List (List Char) :=
  if kept.any (C.isEqual term) then kept else kept ++ [term]

/-- `Set(queryTerms)`, in the order of the first insertions. -/
def unique (queryTerms : List (List Char)) : List (List Char) :=
  queryTerms.foldl (inserting C) []

def queryTerms (searchText : List Char) : List (List Char) :=
  let normalizedSearchText := normalize C searchText
  let nonNumericText := normalizedSearchText.map fun c => if C.decimalDigits c then ' ' else c
  let digitsOnly := normalizedSearchText.filter C.decimalDigits
  let queryTerms := split C nonNumericText ++ [digitsOnly]
  ((unique C queryTerms).insertionSort fun a b => C.isLessOrEqual a b = true).filter
    fun term => 0 < term.length

def quoted (term : List Char) : List Char := '"' :: term ++ ['"', '*']

def query (searchText : List Char) : List Char :=
  [' '].intercalate ((queryTerms C searchText).map quoted)

end FullTextSearchFinder

/-! ## FTS5 -/

/-- How far a query has been read. -/
inductive QueryProgress where
  | quote
  | term (term : List Char)
  | star (term : List Char)
  /-- A space is to come, or the end. -/
  | space

/-- The terms of a query, from where it has been read. -/
def parseQueryFrom : QueryProgress → List Char → Option (List (List Char))
  | .quote, '"' :: query => parseQueryFrom (.term []) query
  | .term term, '"' :: query => parseQueryFrom (.star term) query
  | .term term, c :: query => parseQueryFrom (.term (term ++ [c])) query
  | .star term, '*' :: query => (parseQueryFrom .space query).map (term :: ·)
  | .space, ' ' :: query => parseQueryFrom .quote query
  | .space, [] => some []
  | _, _ => none

/-- The terms of a query that is a list of quoted terms, each followed by a star. -/
def parseQuery (query : List Char) : Option (List (List Char)) :=
  if query = [] then some [] else parseQueryFrom .quote query

namespace CharacterClasses

variable (C : CharacterClasses)

def tokens (document : List Char) : List (List Char) :=
  (List.runs C.isTokenCharacter document).map fun token => token.map C.fold

def TermMatches (document term : List Char) : Prop :=
  ∃ token ∈ C.tokens document, term.map C.fold <+: token

instance (document term : List Char) : Decidable (C.TermMatches document term) :=
  inferInstanceAs (Decidable (∃ token ∈ C.tokens document, term.map C.fold <+: token))

def Matches (query document : List Char) : Prop :=
  ∃ terms, parseQuery query = some terms ∧ ∀ term ∈ terms, C.TermMatches document term

end CharacterClasses

/-! ## The form of a query -/

theorem parseQueryFrom_term {term : List Char} (hquote : '"' ∉ term) (read rest : List Char) :
    parseQueryFrom (.term read) (term ++ '"' :: '*' :: rest) =
      (parseQueryFrom .space rest).map ((read ++ term) :: ·) := by
  induction term generalizing read with
  | nil => rw [List.append_nil, List.nil_append, parseQueryFrom, parseQueryFrom]
  | cons c term ih =>
      have hc : c ≠ '"' := fun heq => hquote (heq ▸ List.mem_cons_self)
      rw [List.cons_append, parseQueryFrom, ih fun hmem => hquote (List.mem_cons_of_mem c hmem),
        List.append_assoc, List.singleton_append]
      exact fun heq => hc heq

theorem parseQueryFrom_quoted {terms : List (List Char)} (hquote : ∀ term ∈ terms, '"' ∉ term)
    (hne : terms ≠ []) : parseQueryFrom .quote
      ([' '].intercalate (terms.map FullTextSearchFinder.quoted)) = some terms := by
  induction terms with
  | nil => exact absurd rfl hne
  | cons term terms ih =>
      have hterm := hquote term List.mem_cons_self
      cases terms with
      | nil =>
          have hjoin : [' '].intercalate ([term].map FullTextSearchFinder.quoted) =
              '"' :: (term ++ '"' :: '*' :: []) := by
            simp [List.intercalate, FullTextSearchFinder.quoted]
          rw [hjoin, parseQueryFrom, parseQueryFrom_term hterm, parseQueryFrom]
          rfl
      | cons next terms =>
          have hjoin : [' '].intercalate ((term :: next :: terms).map FullTextSearchFinder.quoted) =
              '"' :: (term ++ '"' :: '*' :: ' ' ::
                [' '].intercalate ((next :: terms).map FullTextSearchFinder.quoted)) := by
            simp [List.intercalate, FullTextSearchFinder.quoted]
          rw [hjoin, parseQueryFrom, parseQueryFrom_term hterm, parseQueryFrom,
            ih (fun later hlater => hquote later (List.mem_cons_of_mem term hlater))
              (List.cons_ne_nil next terms)]
          rfl

theorem parseQuery_quoted {terms : List (List Char)} (hquote : ∀ term ∈ terms, '"' ∉ term) :
    parseQuery ([' '].intercalate (terms.map FullTextSearchFinder.quoted)) = some terms := by
  cases terms with
  | nil => rfl
  | cons term terms =>
      have hne : [' '].intercalate ((term :: terms).map FullTextSearchFinder.quoted) ≠ [] := by
        cases terms <;> simp [List.intercalate, FullTextSearchFinder.quoted]
      rw [parseQuery, if_neg hne]
      exact parseQueryFrom_quoted hquote (List.cons_ne_nil term terms)

namespace FullTextSearchFinder

variable {C : CharacterClasses} {c : Char} {text word : List Char}

theorem trimmingCharacters_isInfix (text : List Char) : trimmingCharacters C text <:+: text := by
  have hleft : text.dropWhile C.whitespacesAndNewlines <:+: text :=
    (List.dropWhile_suffix _).isInfix
  have hright : trimmingCharacters C text <:+: text.dropWhile C.whitespacesAndNewlines :=
    List.IsPrefix.isInfix <| List.rdropWhile_prefix _ _
  exact hright.trans hleft

theorem trimmingCharacters_eq (text : List Char) : ∃ before after,
    text = before ++ trimmingCharacters C text ++ after ∧
      (∀ c ∈ before, C.whitespacesAndNewlines c = true) ∧
        ∀ c ∈ after, C.whitespacesAndNewlines c = true := by
  refine ⟨text.takeWhile C.whitespacesAndNewlines,
    (text.dropWhile C.whitespacesAndNewlines).rtakeWhile C.whitespacesAndNewlines, ?_, ?_, ?_⟩
  · have hright : trimmingCharacters C text ++
        (text.dropWhile C.whitespacesAndNewlines).rtakeWhile C.whitespacesAndNewlines =
          text.dropWhile C.whitespacesAndNewlines := by
      rw [trimmingCharacters, List.rdropWhile, List.rtakeWhile, ← List.reverse_append,
        List.takeWhile_append_dropWhile, List.reverse_reverse]
    rw [List.append_assoc, hright, List.takeWhile_append_dropWhile]
  · exact fun c hc => List.mem_takeWhile_imp hc
  · exact fun c hc => List.mem_rtakeWhile_imp hc

theorem mem_inserting {kept : List (List Char)} {first term : List Char}
    (hmem : term ∈ inserting C kept first) : term ∈ kept ∨ term = first := by
  unfold inserting at hmem
  split at hmem
  · exact .inl hmem
  · rcases List.mem_append.mp hmem with hkept | hfirst
    · exact .inl hkept
    · exact .inr (List.mem_singleton.mp hfirst)

theorem mem_unique {terms : List (List Char)} {term : List Char}
    (hmem : term ∈ unique C terms) : term ∈ terms := by
  have hfold : ∀ kept, term ∈ terms.foldl (inserting C) kept → term ∈ kept ∨ term ∈ terms := by
    clear hmem
    induction terms with
    | nil => exact fun kept hmem => .inl hmem
    | cons first terms ih =>
        intro kept hmem
        rcases ih _ hmem with hkept | hlater
        · rcases mem_inserting hkept with hkept | rfl
          · exact .inl hkept
          · exact .inr List.mem_cons_self
        · exact .inr (List.mem_cons_of_mem first hlater)
  rcases hfold [] hmem with hnone | hterm
  · exact absurd hnone List.not_mem_nil
  · exact hterm

theorem mem_queryTerms {searchText term : List Char} (hmem : term ∈ queryTerms C searchText) :
    term ≠ [] ∧ (term ∈ split C ((normalize C searchText).map fun c =>
        if C.decimalDigits c then ' ' else c) ∨
      term = (normalize C searchText).filter C.decimalDigits) := by
  obtain ⟨hsorted, hlength⟩ := List.mem_filter.mp hmem
  refine ⟨?_, ?_⟩
  · rintro rfl
    exact absurd hlength (by decide)
  · have hterm := mem_unique ((List.mem_insertionSort _).mp hsorted)
    rcases List.mem_append.mp hterm with hsplit | hdigits
    · exact .inl hsplit
    · exact .inr (List.mem_singleton.mp hdigits)

theorem separators_map_fst (previous : Option Char) (text : List Char) :
    (separators C previous text).map Prod.fst = text := by
  induction text generalizing previous with
  | nil => rfl
  | cons c text ih => rw [separators, List.map_cons, ih]

theorem subset_of_mem_split {text term : List Char} (hmem : term ∈ split C text) : term ⊆ text := by
  obtain ⟨entries, hentries, rfl⟩ := List.mem_map.mp hmem
  have hsubset := List.map_subset Prod.fst (List.mem_runs.mp hentries).subset
  rwa [separators_map_fst] at hsubset

theorem quote_not_mem_normalize (lawful : C.Lawful) (text : List Char) :
    '"' ∉ normalize C text := by
  intro hmem
  obtain ⟨c, hc, heq⟩ := List.mem_map.mp ((trimmingCharacters_isInfix _).subset hmem)
  have hkept := (List.mem_filter.mp hc).2
  split at heq
  · cases heq
  · subst heq
    rw [charactersToRemove, lawful.quote] at hkept
    cases hkept

theorem quote_not_mem_queryTerms (lawful : C.Lawful) {searchText term : List Char}
    (hmem : term ∈ queryTerms C searchText) : '"' ∉ term := by
  intro hquote
  refine quote_not_mem_normalize lawful searchText ?_
  rcases (mem_queryTerms hmem).2 with hsplit | rfl
  · obtain ⟨c, hc, heq⟩ := List.mem_map.mp (subset_of_mem_split hsplit hquote)
    split at heq
    · cases heq
    · exact heq ▸ hc
  · exact (List.mem_filter.mp hquote).1

/-- **The query is a list of quoted terms**, none of which has a quote. -/
theorem parseQuery_query (lawful : C.Lawful) (searchText : List Char) :
    parseQuery (query C searchText) = some (queryTerms C searchText) :=
  parseQuery_quoted fun _ hmem => quote_not_mem_queryTerms lawful hmem

/-! ## Words -/

def isKeptWhitespace (C : CharacterClasses) (c : Char) : Bool :=
  C.whitespacesAndNewlines c && !charactersToRemove C c

/-- A word of a text: letters, or digits, with whitespace that is kept at both sides. -/
def IsWord (C : CharacterClasses) (text word : List Char) : Prop :=
  List.IsRun (fun c => !isKeptWhitespace C c) text word ∧
    ((∀ c ∈ word, C.letters c = true) ∨ ∀ c ∈ word, C.decimalDigits c = true)

/-- It can be decided. -/
theorem isWord_of_runs (hrun : word ∈ List.runs (fun c => !isKeptWhitespace C c) text)
    (hall : word.all C.letters = true ∨ word.all C.decimalDigits = true) : IsWord C text word :=
  ⟨List.mem_runs.mp hrun, hall.imp List.all_eq_true.mp List.all_eq_true.mp⟩

theorem isTokenCharacter_of_word (hword : IsWord C text word) :
    ∀ c ∈ word, C.isTokenCharacter c = true := by
  intro c hc
  rw [CharacterClasses.isTokenCharacter, Bool.or_eq_true]
  rcases hword.2 with hletters | hdigits
  · exact .inl (hletters c hc)
  · exact .inr (hdigits c hc)

section

variable (lawful : C.Lawful) (htoken : C.isTokenCharacter c = true)
include lawful htoken

theorem alphanumerics_of_token : C.alphanumerics c = true := by
  rcases Bool.or_eq_true_iff.mp htoken with hletter | hdigit
  · exact (lawful.letters c hletter).1
  · exact lawful.decimalDigits c hdigit

theorem whitespace_of_token : C.whitespacesAndNewlines c = false :=
  (lawful.alphanumerics c (alphanumerics_of_token lawful htoken)).2.2.2

theorem charactersToRemove_of_token : charactersToRemove C c = false := by
  have halpha := alphanumerics_of_token lawful htoken
  obtain ⟨hpunctuation, hillegal, hcontrol, -⟩ := lawful.alphanumerics c halpha
  simp [charactersToRemove, hpunctuation, hillegal, hcontrol, halpha]

end

theorem charactersToRemove_space (lawful : C.Lawful) : charactersToRemove C ' ' = false := by
  obtain ⟨hspace, hpunctuation, hillegal, hcontrol⟩ := lawful.space
  simp [charactersToRemove, hpunctuation, hillegal, hcontrol, hspace]

theorem isTokenCharacter_space (lawful : C.Lawful) : C.isTokenCharacter ' ' = false := by
  cases htoken : C.isTokenCharacter ' ' with
  | false => rfl
  | true =>
      have hspace := whitespace_of_token lawful htoken
      rw [lawful.space.1] at hspace
      cases hspace

theorem isRun_trimmingCharacters {p : Char → Bool}
    (hp : ∀ c ∈ text, C.whitespacesAndNewlines c = true → p c = false) :
    List.IsRun p (trimmingCharacters C text) word ↔ List.IsRun p text word := by
  obtain ⟨before, after, heq, hbefore, hafter⟩ := trimmingCharacters_eq (C := C) text
  have hleft : ∀ c ∈ before, p c = false := by
    intro c hc
    refine hp c ?_ (hbefore c hc)
    rw [heq]
    simp [hc]
  have hright : ∀ c ∈ after, p c = false := by
    intro c hc
    refine hp c ?_ (hafter c hc)
    rw [heq]
    simp [hc]
  conv_rhs => rw [heq]
  rw [List.isRun_append_right hright, List.isRun_append_left hleft]

/-- A text before it is trimmed. -/
def simplified (C : CharacterClasses) (text : List Char) : List Char :=
  (text.filter fun c => !charactersToRemove C c).map fun c =>
    if C.whitespacesAndNewlines c then ' ' else c

theorem simplified_append (before after : List Char) :
    simplified C (before ++ after) = simplified C before ++ simplified C after := by
  rw [simplified, List.filter_append, List.map_append]
  rfl

/-- Letters, digits and spaces stay as they are. -/
theorem simplified_eq (lawful : C.Lawful) {text : List Char}
    (htext : ∀ c ∈ text, c = ' ' ∨ C.isTokenCharacter c = true) : simplified C text = text := by
  induction text with
  | nil => rfl
  | cons c text ih =>
      have hrest := ih fun later hlater => htext later (List.mem_cons_of_mem c hlater)
      have hc : simplified C [c] = [c] := by
        rcases htext c List.mem_cons_self with rfl | htoken
        · simp [simplified, charactersToRemove_space lawful]
        · simp [simplified, charactersToRemove_of_token lawful htoken,
            whitespace_of_token lawful htoken]
      rw [← List.singleton_append, simplified_append, hc, hrest]

theorem simplified_keptWhitespace (hc : isKeptWhitespace C c = true) :
    simplified C [c] = [' '] := by
  obtain ⟨hspace, hkept⟩ := Bool.and_eq_true_iff.mp hc
  simp [simplified, hspace, (Bool.not_eq_true' _).mp hkept]

/-- **A word of a text is a token of its normalized text.** -/
theorem isRun_normalize (lawful : C.Lawful) (hword : IsWord C text word) :
    List.IsRun C.isTokenCharacter (normalize C text) word := by
  have htoken := isTokenCharacter_of_word hword
  have hspace : ∀ c ∈ simplified C text, C.whitespacesAndNewlines c = true →
      C.isTokenCharacter c = false := by
    intro c hc hwhite
    cases htoken : C.isTokenCharacter c with
    | false => rfl
    | true =>
        rw [whitespace_of_token lawful htoken] at hwhite
        cases hwhite
  refine (isRun_trimmingCharacters hspace).mpr ?_
  obtain ⟨⟨hne, -, before, after, rfl, hbefore, hafter⟩, -⟩ := hword
  refine ⟨hne, htoken, simplified C before, simplified C after, ?_, ?_, ?_⟩
  · have hsame := simplified_eq lawful fun c hc => .inr (htoken c hc)
    rw [simplified_append, simplified_append, hsame]
  · rcases List.eq_nil_or_concat before with rfl | ⟨init, last, rfl⟩
    · simp [simplified]
    · have hlast : isKeptWhitespace C last = true := by
        simpa using hbefore last (by simp)
      rw [List.concat_eq_append, simplified_append, simplified_keptWhitespace hlast]
      simpa using isTokenCharacter_space lawful
  · cases after with
    | nil => simp [simplified]
    | cons first after =>
        have hfirst : isKeptWhitespace C first = true := by
          simpa using hafter first rfl
        rw [← List.singleton_append, simplified_append, simplified_keptWhitespace hfirst]
        simpa using isTokenCharacter_space lawful

theorem termMatches_of_word (lawful : C.Lawful) {text word piece : List Char}
    (hword : IsWord C text word) (hpiece : piece <+: word) :
    C.TermMatches (normalize C text) piece :=
  ⟨word.map C.fold, List.mem_map.mpr ⟨word, List.mem_runs.mpr (isRun_normalize lawful hword), rfl⟩,
    hpiece.map C.fold⟩

/-! ## Searches -/

/-- Neighbours of which a space is a `Character` of its own. -/
def Apart (C : CharacterClasses) (c next : Char) : Prop :=
  (c = ' ' → C.joinsPrevious next = false) ∧ (next = ' ' → C.joinsNext c = false)

/-- Where no space is joined, every space separates. -/
theorem separators_eq {previous : Option Char} {text : List Char}
    (hprevious : ∀ c ∈ previous, ∀ next ∈ text.head?, Apart C c next)
    (hchain : text.IsChain (Apart C)) :
    separators C previous text = text.map fun c => (c, c == ' ') := by
  induction text generalizing previous with
  | nil => rfl
  | cons c text ih =>
      obtain ⟨hnext, hchain⟩ := List.isChain_cons.mp hchain
      have hafter : ∀ last ∈ some c, ∀ next ∈ text.head?, Apart C last next := by
        rintro _ ⟨⟩
        exact hnext
      have hrest := ih hafter hchain
      rw [separators, hrest, List.map_cons]
      by_cases hc : c = ' '
      · have hbefore : previous.any C.joinsNext = false := by
          cases previous with
          | none => rfl
          | some last => exact (hprevious last rfl c rfl).2 hc
        have hafter : text.head?.any C.joinsPrevious = false := by
          cases text with
          | nil => rfl
          | cons next text => exact (hnext next rfl).1 hc
        rw [hbefore, hafter, Bool.not_false, Bool.and_true, Bool.and_true]
      · have hspace : (c == ' ') = false := beq_false_of_ne hc
        rw [hspace, Bool.false_and, Bool.false_and]

theorem split_eq {text : List Char} (hchain : text.IsChain (Apart C)) :
    split C text = text.runs fun c => c != ' ' := by
  have hnone : ∀ c ∈ (none : Option Char), ∀ next ∈ text.head?, Apart C c next := by
    rintro _ ⟨⟩
  rw [split, separators_eq hnone hchain, List.runs_map, List.map_map]
  have hsame : (List.map Prod.fst ∘ List.map fun c : Char => (c, c == ' ')) = id := by
    funext entries
    rw [Function.comp_apply, List.map_map]
    exact List.map_id entries
  rw [hsame, List.map_id]
  rfl

/-- The digits of a text become spaces. -/
def blanked (C : CharacterClasses) (c : Char) : Char := if C.decimalDigits c then ' ' else c

variable {pieces : List (List Char)}

theorem mem_intercalate (hc : c ∈ [' '].intercalate pieces) :
    c = ' ' ∨ ∃ piece ∈ pieces, c ∈ piece := by
  induction pieces with
  | nil => simp [List.intercalate] at hc
  | cons piece pieces ih =>
      cases pieces with
      | nil => exact .inr ⟨piece, List.mem_cons_self, by simpa [List.intercalate] using hc⟩
      | cons next pieces =>
          have hjoin : [' '].intercalate (piece :: next :: pieces) =
              piece ++ ' ' :: [' '].intercalate (next :: pieces) := by
            simp [List.intercalate]
          rw [hjoin, List.mem_append, List.mem_cons] at hc
          rcases hc with hc | rfl | hc
          · exact .inr ⟨piece, List.mem_cons_self, hc⟩
          · exact .inl rfl
          · rcases ih hc with hspace | ⟨later, hlater, hc⟩
            · exact .inl hspace
            · exact .inr ⟨later, List.mem_cons_of_mem piece hlater, hc⟩

/-- What is searched for: letters, or digits, that do not join a space. -/
structure IsPiece (C : CharacterClasses) (piece : List Char) : Prop where
  uniform : (∀ c ∈ piece, C.letters c = true) ∨ ∀ c ∈ piece, C.decimalDigits c = true
  head : ∀ c ∈ piece.head?, C.joinsPrevious c = false
  last : ∀ c ∈ piece.getLast?, C.joinsNext c = false

theorem IsPiece.isTokenCharacter {piece : List Char} (h : IsPiece C piece) (hc : c ∈ piece) :
    C.isTokenCharacter c = true := by
  rw [CharacterClasses.isTokenCharacter, Bool.or_eq_true]
  rcases h.uniform with hletters | hdigits
  · exact .inl (hletters c hc)
  · exact .inr (hdigits c hc)

theorem space_or_token (hpieces : ∀ piece ∈ pieces, IsPiece C piece)
    (hc : c ∈ [' '].intercalate pieces) : c = ' ' ∨ C.isTokenCharacter c = true := by
  rcases mem_intercalate hc with hspace | ⟨piece, hpiece, hc⟩
  · exact .inl hspace
  · exact .inr ((hpieces piece hpiece).isTokenCharacter hc)

theorem blanked_space : blanked C ' ' = ' ' := by
  unfold blanked
  split <;> rfl

theorem blanked_letter (lawful : C.Lawful) (hletter : C.letters c = true) : blanked C c = c := by
  rw [blanked, (lawful.letters c hletter).2]
  rfl

theorem blanked_digit (hdigit : C.decimalDigits c = true) : blanked C c = ' ' := by
  rw [blanked, hdigit]
  rfl

theorem letter_ne_space (lawful : C.Lawful) (hletter : C.letters c = true) : c ≠ ' ' := by
  rintro rfl
  have hspace := isTokenCharacter_space lawful
  rw [CharacterClasses.isTokenCharacter, hletter] at hspace
  cases hspace

section

variable (lawful : C.Lawful) (hpieces : ∀ piece ∈ pieces, IsPiece C piece)
include lawful hpieces

/-- No space of a search text is joined. -/
theorem isChain_blanked : (([' '].intercalate pieces).map (blanked C)).IsChain (Apart C) := by
  obtain ⟨hprevious, hnext⟩ := lawful.space_joins
  have hspace : Apart C ' ' ' ' := ⟨fun _ => hprevious, fun _ => hnext⟩
  refine (List.isChain_map _).mpr (List.isChain_intercalate ?_ ?_)
  · rw [blanked_space]
    exact hspace
  · intro piece hpiece
    have h := hpieces piece hpiece
    rw [blanked_space]
    rcases h.uniform with hletters | hdigits
    · refine ⟨?_, ?_, ?_⟩
      · refine (List.pairwise_of_forall_mem_list ?_).isChain
        intro c hc next hnext
        rw [blanked_letter lawful (hletters c hc), blanked_letter lawful (hletters next hnext)]
        exact ⟨fun heq => absurd heq (letter_ne_space lawful (hletters c hc)),
          fun heq => absurd heq (letter_ne_space lawful (hletters next hnext))⟩
      · intro c hc
        have hletter := hletters c (List.mem_of_mem_head? hc)
        rw [blanked_letter lawful hletter]
        exact ⟨fun _ => h.head c hc, fun heq => absurd heq (letter_ne_space lawful hletter)⟩
      · intro c hc
        have hletter := hletters c (List.mem_of_mem_getLast? hc)
        rw [blanked_letter lawful hletter]
        exact ⟨fun heq => absurd heq (letter_ne_space lawful hletter), fun _ => h.last c hc⟩
    · refine ⟨?_, ?_, ?_⟩
      · refine (List.pairwise_of_forall_mem_list ?_).isChain
        intro c hc next hnext
        rw [blanked_digit (hdigits c hc), blanked_digit (hdigits next hnext)]
        exact hspace
      · intro c hc
        rw [blanked_digit (hdigits c (List.mem_of_mem_head? hc))]
        exact hspace
      · intro c hc
        rw [blanked_digit (hdigits c (List.mem_of_mem_getLast? hc))]
        exact hspace

/-- A search text loses only spaces to the normalization. -/
theorem normalize_eq :
    normalize C ([' '].intercalate pieces) =
      trimmingCharacters C ([' '].intercalate pieces) :=
  congrArg (trimmingCharacters C)
    (simplified_eq lawful fun _ hc => space_or_token hpieces hc)

theorem isChain_normalize :
    ((normalize C ([' '].intercalate pieces)).map (blanked C)).IsChain (Apart C) := by
  rw [normalize_eq lawful hpieces]
  exact List.IsChain.infix (isChain_blanked lawful hpieces) ((trimmingCharacters_isInfix _).map _)

theorem mem_pieces_of_split {term : List Char}
    (hterm : term ∈ split C ((normalize C ([' '].intercalate pieces)).map (blanked C))) :
    term ∈ pieces := by
  rw [split_eq (isChain_normalize lawful hpieces), List.runs_map] at hterm
  obtain ⟨word, hword, rfl⟩ := List.mem_map.mp hterm
  have hrun := List.mem_runs.mp hword
  rw [normalize_eq lawful hpieces] at hrun
  have hspace : ∀ c ∈ [' '].intercalate pieces, C.whitespacesAndNewlines c = true →
      ((fun c => c != ' ') ∘ blanked C) c = false := by
    intro c hc hwhite
    rcases space_or_token hpieces hc with rfl | htoken
    · rw [Function.comp_apply, blanked_space]
      rfl
    · rw [whitespace_of_token lawful htoken] at hwhite
      cases hwhite
  have hblank : ((fun c => c != ' ') ∘ blanked C) ' ' = false := by
    rw [Function.comp_apply, blanked_space]
    rfl
  rw [isRun_trimmingCharacters hspace, List.isRun_intercalate hblank] at hrun
  obtain ⟨piece, hpiece, hrun⟩ := hrun
  rcases (hpieces piece hpiece).uniform with hletters | hdigits
  · have hall : ∀ c ∈ piece, ((fun c => c != ' ') ∘ blanked C) c = true := by
      intro c hc
      rw [Function.comp_apply, blanked_letter lawful (hletters c hc)]
      exact bne_iff_ne.mpr (letter_ne_space lawful (hletters c hc))
    obtain ⟨rfl, -⟩ := (List.isRun_of_all hall).mp hrun
    have hsame : word.map (blanked C) = word := by
      rw [List.map_congr_left fun c hc => blanked_letter lawful (hletters c hc), List.map_id']
    rwa [hsame]
  · refine absurd hrun (List.isRun_of_none fun c hc => ?_)
    rw [Function.comp_apply, blanked_digit (hdigits c hc)]
    rfl

/-- The digits are those of the search text. -/
theorem filter_normalize :
    (normalize C ([' '].intercalate pieces)).filter C.decimalDigits =
      ([' '].intercalate pieces).filter C.decimalDigits := by
  have hnone : ∀ {text : List Char}, (∀ c ∈ text, C.whitespacesAndNewlines c = true) →
      text.filter C.decimalDigits = [] := by
    intro text hwhite
    refine List.filter_eq_nil_iff.mpr fun c hc hdigit => ?_
    have htoken : C.isTokenCharacter c = true := Bool.or_eq_true_iff.mpr (.inr hdigit)
    have hspace := whitespace_of_token lawful htoken
    rw [hwhite c hc] at hspace
    cases hspace
  obtain ⟨before, after, heq, hbefore, hafter⟩ :=
    trimmingCharacters_eq (C := C) ([' '].intercalate pieces)
  conv_rhs => rw [heq]
  rw [normalize_eq lawful hpieces, List.filter_append, List.filter_append, hnone hbefore,
    hnone hafter, List.nil_append, List.append_nil]

end

end FullTextSearchFinder

open FullTextSearchFinder in
/-- **A search finds the text whose words it has prefixes of**, if all its digits together are
one of them, and every query is a list of quoted terms, none of which has a quote or is empty. -/
theorem CharacterClasses.search_finds {C : CharacterClasses} (lawful : C.Lawful) :
    (∀ (text : List Char) (pieces : List (List Char)),
      (∀ piece ∈ pieces, piece ≠ [] → (∃ word, IsWord C text word ∧ piece <+: word) ∧
        (∀ c ∈ piece.head?, C.joinsPrevious c = false) ∧
          ∀ c ∈ piece.getLast?, C.joinsNext c = false) →
      (∀ digits, digits = ([' '].intercalate pieces).filter C.decimalDigits → digits ≠ [] →
        ∃ word, IsWord C text word ∧ digits <+: word) →
      C.Matches (query C ([' '].intercalate pieces)) (normalize C text)) ∧
    ∀ searchText, ∃ terms, parseQuery (query C searchText) = some terms ∧
      ∀ term ∈ terms, term ≠ [] ∧ '"' ∉ term := by
  constructor
  · intro text pieces hwords hdigits
    have hpieces : ∀ piece ∈ pieces, IsPiece C piece := by
      intro piece hpiece
      by_cases hne : piece = []
      · subst hne
        exact ⟨by simp, by simp, by simp⟩
      · obtain ⟨⟨word, hword, hstart⟩, hhead, hlast⟩ := hwords piece hpiece hne
        refine ⟨?_, hhead, hlast⟩
        rcases hword.2 with hletters | hnumber
        · exact .inl fun c hc => hletters c (hstart.subset hc)
        · exact .inr fun c hc => hnumber c (hstart.subset hc)
    refine ⟨_, parseQuery_query lawful _, fun term hterm => ?_⟩
    obtain ⟨hne, hsplit | hnumber⟩ := mem_queryTerms hterm
    · have hpiece := mem_pieces_of_split lawful hpieces hsplit
      obtain ⟨⟨word, hword, hstart⟩, -⟩ := hwords term hpiece hne
      exact termMatches_of_word lawful hword hstart
    · rw [filter_normalize lawful hpieces] at hnumber
      obtain ⟨word, hword, hstart⟩ := hdigits term hnumber hne
      exact termMatches_of_word lawful hword hstart
  · intro searchText
    exact ⟨_, parseQuery_query lawful searchText, fun term hterm =>
      ⟨(mem_queryTerms hterm).1, quote_not_mem_queryTerms lawful hterm⟩⟩

/-! ## ASCII, and a letter that joins the space before it -/

def asciiCharacters : CharacterClasses where
  letters c := decide (0x41 ≤ c.toNat ∧ c.toNat ≤ 0x5A ∨ 0x61 ≤ c.toNat ∧ c.toNat ≤ 0x7A ∨
    c.toNat = 0xFF9E)
  decimalDigits c := decide (0x30 ≤ c.toNat ∧ c.toNat ≤ 0x39)
  alphanumerics c := decide (0x30 ≤ c.toNat ∧ c.toNat ≤ 0x39 ∨ 0x41 ≤ c.toNat ∧ c.toNat ≤ 0x5A ∨
    0x61 ≤ c.toNat ∧ c.toNat ≤ 0x7A ∨ c.toNat = 0xFF9E)
  punctuationCharacters c := decide (c.toNat ∈ [0x21, 0x22, 0x23, 0x25, 0x26, 0x27, 0x28, 0x29,
    0x2A, 0x2C, 0x2D, 0x2E, 0x2F, 0x3A, 0x3B, 0x3F, 0x40, 0x5B, 0x5C, 0x5D, 0x5F, 0x7B, 0x7D])
  illegalCharacters _ := false
  controlCharacters c := decide (c.toNat < 0x20 ∨ c.toNat = 0x7F)
  whitespacesAndNewlines c := decide (c.toNat = 0x20 ∨ 0x9 ≤ c.toNat ∧ c.toNat ≤ 0xD)
  joinsPrevious c := decide (c.toNat = 0xFF9E)
  joinsNext _ := false
  isEqual a b := decide (a = b)
  isLessOrEqual a b := decide (a.map Char.toNat ≤ b.map Char.toNat)
  fold c := c.toLower

theorem lawful_asciiCharacters : asciiCharacters.Lawful where
  letters c hletter := by
    simp only [asciiCharacters, decide_eq_true_eq, decide_eq_false_iff_not] at hletter ⊢
    omega
  decimalDigits c hdigit := by
    simp only [asciiCharacters, decide_eq_true_eq] at hdigit ⊢
    omega
  alphanumerics c halpha := by
    simp only [asciiCharacters, decide_eq_true_eq, decide_eq_false_iff_not, List.mem_cons,
      List.not_mem_nil, or_false] at halpha ⊢
    refine ⟨?_, trivial, ?_, ?_⟩ <;> omega
  space := by decide
  space_joins := by decide
  quote := by decide

open FullTextSearchFinder in
theorem CharacterClasses.search_finds_bob :
    asciiCharacters.Matches (query asciiCharacters ([' '].intercalate [['3'], ['B', 'o']]))
      (normalize asciiCharacters ['a', 't', ' ', '3', '0', ' ', 'B', 'o', 'b']) := by
  refine (search_finds lawful_asciiCharacters).1 _ _ ?_ ?_
  · intro piece hpiece hne
    rcases List.mem_cons.mp hpiece with rfl | hpiece
    · refine ⟨⟨['3', '0'], isWord_of_runs (by decide) (.inr (by decide)), by decide⟩, ?_, ?_⟩
      · rintro c ⟨⟩
        rfl
      · rintro c ⟨⟩
        rfl
    · obtain rfl := List.mem_singleton.mp hpiece
      refine ⟨⟨['B', 'o', 'b'], isWord_of_runs (by decide) (.inl (by decide)), by decide⟩, ?_, ?_⟩
      · rintro c ⟨⟩
        rfl
      · rintro c ⟨⟩
        rfl
  · rintro digits rfl -
    exact ⟨['3', '0'], isWord_of_runs (by decide) (.inr (by decide)), by decide⟩

open FullTextSearchFinder in
def CharacterClasses.SearchFinds (C : CharacterClasses) (text : List Char)
    (pieces : List (List Char)) : Prop :=
  (∀ piece ∈ pieces, piece ≠ [] ∧ ∃ word, IsWord C text word ∧ piece <+: word) →
    C.Matches (query C ([' '].intercalate pieces)) (normalize C text)

open FullTextSearchFinder in
/-- **Not every search finds the text**: the digits of two numbers are searched for as one, and a
letter can join the space before it. -/
theorem two_numbers_not_found :
    ¬asciiCharacters.SearchFinds ['1', '2', ' ', '3', '4'] [['1', '2'], ['3', '4']] ∧
      ¬asciiCharacters.SearchFinds ['a', ' ', 'ﾞ'] [['a'], ['ﾞ']] := by
  constructor
  · intro hfinds
    obtain ⟨terms, hterms, hall⟩ := hfinds (by
      intro piece hpiece
      rcases List.mem_cons.mp hpiece with rfl | hpiece
      · exact ⟨by decide, ['1', '2'], isWord_of_runs (by decide) (.inr (by decide)), by decide⟩
      · obtain rfl := List.mem_singleton.mp hpiece
        exact ⟨by decide, ['3', '4'], isWord_of_runs (by decide) (.inr (by decide)), by decide⟩)
    have hquery : parseQuery (query asciiCharacters ([' '].intercalate [['1', '2'], ['3', '4']])) =
        some [['1', '2', '3', '4']] := by decide +kernel
    obtain rfl := Option.some.inj (hquery.symm.trans hterms)
    exact absurd (hall _ List.mem_cons_self) (by decide +kernel)
  · intro hfinds
    obtain ⟨terms, hterms, hall⟩ := hfinds (by
      intro piece hpiece
      rcases List.mem_cons.mp hpiece with rfl | hpiece
      · exact ⟨by decide, ['a'], isWord_of_runs (by decide) (.inl (by decide)), by decide⟩
      · obtain rfl := List.mem_singleton.mp hpiece
        exact ⟨by decide, ['ﾞ'], isWord_of_runs (by decide) (.inl (by decide)), by decide⟩)
    have hquery : parseQuery (query asciiCharacters ([' '].intercalate [['a'], ['ﾞ']])) =
        some [['a', ' ', 'ﾞ']] := by decide +kernel
    obtain rfl := Option.some.inj (hquery.symm.trans hterms)
    exact absurd (hall _ List.mem_cons_self) (by decide +kernel)

end ObjcSwiftLearning.SignalServiceKit
