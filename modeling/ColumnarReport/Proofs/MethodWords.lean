import ColumnarReport.Template.MethodName
import ColumnarReport.Proofs.CharacterSets

/-! Method names word by word. A name depends on a stem only through its words, the pieces between
separators that are not empty, so how many separators stand between two words, which ones, and whether
any stand at the ends of the stem does not show. -/
namespace ColumnarReport
namespace Template

open Text

def isSeparator (c : Char) : Bool := !isAlphanumeric c

/-- The pieces between separators, without the empty ones at the ends and between neighbours. -/
def words (cs : List Char) : List (List Char) :=
  (cs.splitOnP isSeparator).filter (fun piece => !piece.isEmpty)

def capitalize : List Char → List Char
  | [] => []
  | c :: rest => upper c++rest.flatMap lower

section

variable {cs ds : List Char} {c : Char}

@[simp] theorem words_nil : words [] = [] := by
  simp [words]

theorem words_append_separator (h : isSeparator c) (cs ds : List Char) :
    words (cs++c :: ds) = words cs++words ds := by
  rw [words,List.splitOnP_append_cons cs ds h,List.filter_append]
  rfl

theorem words_cons_separator (h : isSeparator c) (cs : List Char) : words (c :: cs) = words cs := by
  simpa using words_append_separator h [] cs

theorem words_separators_append (h : ∀ c ∈ cs, isSeparator c) (ds : List Char) :
    words (cs++ds) = words ds := by
  induction cs with
  | nil => rfl
  | cons c cs ih =>
    obtain ⟨first,others⟩ := List.forall_mem_cons.mp h
    rw [List.cons_append,words_cons_separator first]
    exact ih others

theorem words_of_separators (h : ∀ c ∈ cs, isSeparator c) : words cs = [] := by
  simpa using words_separators_append h []

theorem words_append_separators {seps : List Char} (h : ∀ c ∈ seps, isSeparator c) (some : seps ≠ [])
    (cs ds : List Char) : words (cs++seps++ds) = words cs++words ds := by
  cases seps with
  | nil => exact (some rfl).elim
  | cons c seps =>
    obtain ⟨first,others⟩ := List.forall_mem_cons.mp h
    rw [List.append_assoc,List.cons_append,words_append_separator first,words_separators_append others]

theorem words_append_of_separators {seps : List Char} (h : ∀ c ∈ seps, isSeparator c) (cs : List Char) :
    words (cs++seps) = words cs := by
  by_cases none : seps = []
  · rw [none,List.append_nil]
  · simpa using words_append_separators h none cs []

end

/-- Letters are joined piece by piece. Induction on the text: a separator closes the piece in front of
it, so the next letter is a first one, and any other character is the first of the piece behind it. -/
theorem joinWords_of_pieces {cs first : List Char} {more : List (List Char)}
    (h : cs.splitOnP isSeparator = first :: more) :
    joinWords true cs = capitalize first++more.flatMap capitalize ∧
    joinWords false cs = first.flatMap lower++more.flatMap capitalize := by
  induction cs generalizing first more with
  | nil =>
    rw [List.splitOnP_nil] at h
    obtain ⟨rfl,rfl⟩ := List.cons.inj h
    exact ⟨rfl,rfl⟩
  | cons c cs ih =>
    obtain ⟨piece,pieces,hpieces⟩ := List.exists_cons_of_ne_nil (List.splitOnP_ne_nil isSeparator cs)
    obtain ⟨fresh,inside⟩ := ih hpieces
    rw [List.splitOnP_cons_eq_if_modifyHead,hpieces] at h
    by_cases alpha : isAlphanumeric c
    · rw [if_neg (by simp [isSeparator,alpha]),List.modifyHead_cons] at h
      obtain ⟨rfl,rfl⟩ := List.cons.inj h
      simp [joinWords,alpha,inside,capitalize]
    · rw [if_pos (by simp [isSeparator,alpha])] at h
      obtain ⟨rfl,rfl⟩ := List.cons.inj h
      simp [joinWords,alpha,fresh,capitalize]

theorem joinWords_eq (cs : List Char) : joinWords true cs = (words cs).flatMap capitalize := by
  obtain ⟨first,more,pieces⟩ := List.exists_cons_of_ne_nil (List.splitOnP_ne_nil isSeparator cs)
  have filtered (pieces : List (List Char)) :
      (pieces.filter fun piece => !piece.isEmpty).flatMap capitalize = pieces.flatMap capitalize := by
    induction pieces with
    | nil => rfl
    | cons piece pieces ih => cases piece <;> simp [capitalize,ih]
  rw [(joinWords_of_pieces pieces).1,words,filtered,pieces,List.flatMap_cons]

theorem camelName_eq (stem : String) :
    camelName stem = "test"++String.ofList ((words stem.toList).flatMap capitalize) := by
  rw [camelName,joinWords_eq]

theorem camelName_congr {a b : String} (h : words a.toList = words b.toList) :
    camelName a = camelName b := by
  rw [camelName_eq,camelName_eq,h]

section

variable {fresh : Bool} {cs : List Char} {c d : Char}

theorem exists_of_mem_joinWords (h : d ∈ joinWords fresh cs) :
    ∃ c ∈ cs, isAlphanumeric c ∧ (d ∈ upper c ∨ d ∈ lower c) := by
  induction cs generalizing fresh with
  | nil => simp [joinWords] at h
  | cons c cs ih =>
    rw [joinWords] at h
    by_cases alpha : isAlphanumeric c
    · rw [if_pos alpha,List.mem_append] at h
      rcases h with first | others
      · refine ⟨c,List.mem_cons_self,alpha,?_⟩
        cases fresh with
        | true => exact .inl first
        | false => exact .inr first
      · obtain ⟨c',hc,found⟩ := ih others
        exact ⟨c',List.mem_cons_of_mem c hc,found⟩
    · rw [if_neg alpha] at h
      obtain ⟨c',hc,found⟩ := ih h
      exact ⟨c',List.mem_cons_of_mem c hc,found⟩

theorem exists_mem_joinWords (fresh : Bool) (hc : c ∈ cs) (alpha : isAlphanumeric c) :
    ∃ d ∈ joinWords fresh cs, d ∈ upper c ∨ d ∈ lower c := by
  induction cs generalizing fresh with
  | nil => cases hc
  | cons c' cs ih =>
    rcases List.mem_cons.mp hc with rfl | behind
    · rw [joinWords,if_pos alpha]
      cases fresh with
      | true =>
        obtain ⟨d,hd⟩ := List.exists_mem_of_ne_nil _ (upper_ne_nil c)
        exact ⟨d,List.mem_append_left _ hd,.inl hd⟩
      | false =>
        obtain ⟨d,hd⟩ := List.exists_mem_of_ne_nil _ (lower_ne_nil c)
        exact ⟨d,List.mem_append_left _ hd,.inr hd⟩
    · by_cases first : isAlphanumeric c'
      · obtain ⟨d,hd,made⟩ := ih false behind
        rw [joinWords,if_pos first]
        exact ⟨d,List.mem_append_right _ hd,made⟩
      · obtain ⟨d,hd,made⟩ := ih true behind
        rw [joinWords,if_neg first]
        exact ⟨d,hd,made⟩

end

/-- A text of separators only, perhaps of none. -/
def Separates (s : String) : Prop := ∀ c ∈ s.toList, isSeparator c

/-- A name is its prefix and the capitalized words of the stem. The name of two stems joined by a
separator is the first stem's name with the words of the second behind it, and separators may be
replaced, repeated, and added or left out at the ends. -/
theorem camelName_by_words :
    (∀ stem, camelName stem = "test"++String.ofList ((words stem.toList).flatMap capitalize)) ∧
    (∀ (a b : String) (s : Char), isSeparator s → ∃ more, camelName b = "test"++more ∧
      camelName (a++s.toString++b) = camelName a++more) ∧
    (∀ a b s t : String, Separates s → Separates t → s ≠ "" → t ≠ "" →
      camelName (a++s++b) = camelName (a++t++b)) ∧
    (∀ a s t : String, Separates s → Separates t → camelName (s++a++t) = camelName a) ∧
    ∀ s, Separates s → camelName s = "test" := by
  refine ⟨camelName_eq,?_,?_,?_,?_⟩
  · intro a b s separates
    refine ⟨String.ofList ((words b.toList).flatMap capitalize),camelName_eq b,?_⟩
    have split : words (a++s.toString++b).toList = words a.toList++words b.toList := by
      simpa using words_append_separator separates a.toList b.toList
    rw [camelName_eq,camelName_eq,split,List.flatMap_append,String.ofList_append,String.append_assoc]
  · intro a b s t hs ht someS someT
    apply camelName_congr
    have fewer {s : String} (hs : Separates s) (some : s ≠ "") :
        words (a++s++b).toList = words a.toList++words b.toList := by
      rw [String.toList_append,String.toList_append]
      exact words_append_separators hs (by simpa using some) _ _
    rw [fewer hs someS,fewer ht someT]
  · intro a s t hs ht
    apply camelName_congr
    rw [String.toList_append,String.toList_append,words_append_of_separators ht,
      words_separators_append hs]
  · intro s hs
    rw [camelName_eq,words_of_separators hs]
    rfl

/-- A sharp s becomes two letters, but only at the start of a word. -/
theorem camelName_by_words_of_dashes :
    camelName "große-ße" = "testGroßeSSe" ∧ camelName " große -_ße_" = camelName "große-ße" := by
  obtain ⟨-,joined,replaced,ends,-⟩ := camelName_by_words
  have blank : isSeparator ' ' := by decide +kernel
  have dash : isSeparator '-' := by decide +kernel
  have line : isSeparator '_' := by decide +kernel
  constructor
  · obtain ⟨more,second,both⟩ := joined "große" "ße" '-' dash
    have name : camelName "ße" = "test"++"SSe" := by decide +kernel
    have first : camelName "große" = "testGroße" := by decide +kernel
    rw [name,String.append_right_inj] at second
    rw [first,← second] at both
    exact both
  · have outer := ends "große -_ße" " " "_" (by simp [Separates,blank]) (by simp [Separates,line])
    have inner := replaced "große" "ße" " -_" "-" (by simp [Separates,blank,dash,line])
      (by simp [Separates,dash]) (by decide) (by decide)
    exact outer.trans inner

end Template
end ColumnarReport
