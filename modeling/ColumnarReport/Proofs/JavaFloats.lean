import ColumnarReport.Proofs.FloatDigits
import ColumnarReport.Proofs.JavaIdentifiers
import ColumnarReport.Proofs.JavaIntegers

/-! Decimal floating-point literals as Java reads them: digits on one side of a point at least, perhaps a
power of ten, perhaps the suffix of a type, and something of these that tells the literal from that of an
integer. Underscores between digits are not read, nor are hexadecimal literals. Each finite double is
written so that it is read back; the other ones are written as bare names. -/
namespace ColumnarReport

open DecimalText

namespace Java

inductive FloatingType
  | float
  | double
  deriving DecidableEq

def cutSuffix (text : List Char) : Option FloatingType × List Char :=
  match text.getLast? with
  | some 'f' | some 'F' => (some .float,text.dropLast)
  | some 'd' | some 'D' => (some .double,text.dropLast)
  | _ => (none,text)

def cutPower (text : List Char) : List Char × Option (List Char) :=
  match cut 'e' text with
  | (mantissa,some power) => (mantissa,some power)
  | (mantissa,none) => cut 'E' mantissa

def power? : Option (List Char) → Option Int
  | none => some 0
  | some ('+' :: digits) => (digits? digits).map Int.ofNat
  | some power => integer? power

def side? (text : List Char) : Option Nat := if text = [] then some 0 else digits? text

def significand? (text : List Char) : Option ℚ :=
  match cut '.' text with
  | (whole,none) => (digits? whole).map (Nat.cast : Nat → ℚ)
  | (whole,some fraction) =>
    if whole = [] ∧ fraction = [] then none
    else do
      let n ← side? whole
      let r ← side? fraction
      some (n+r/10^fraction.length)

/-- The type of a literal and the number that is rounded to it. -/
def readFloating (text : List Char) : Option (FloatingType × ℚ) :=
  let (suffix,unsuffixed) := cutSuffix text
  let (mantissa,power) := cutPower unsuffixed
  if suffix = none ∧ power = none ∧ '.' ∉ mantissa then none
  else do
    let m ← significand? mantissa
    let p ← power? power
    some (suffix.getD .double,m*10^p)

/-- The text is an expression of a double: a literal, perhaps negated, of a number that rounds to it. A
literal that rounds to infinity is none, nor is one that rounds to zero but is not zero. -/
structure ReadsDouble (text : List Char) (x : Double) : Prop where
  sign : (signed text).1 = x.negative
  finite : x.isFinite
  number : ∃ v, readFloating (signed text).2 = some (.double,v) ∧
    BinaryFormat.double.IsNearest x.magnitude v ∧ (x.magnitude.val = 0 → v = 0)

section

variable {cs : List Char} {c : Char} {v : ℚ}

theorem allDigits_of_digits? {n : Nat} (h : digits? cs = some n) : Digits.AllDigits cs := by
  unfold digits? at h
  split_ifs at h with digits
  exact digits

theorem mem_of_mantissa? (h : mantissa? cs = some v) (hc : c ∈ cs) : c.isDigit ∨ c = '.' := by
  by_cases point : '.' ∈ cs
  · obtain ⟨whole,fraction,rfl,before⟩ := List.eq_append_cons_of_mem point
    simp only [mantissa?,cut_append before,Option.bind_eq_bind,Option.bind_eq_some_iff] at h
    obtain ⟨n,hn,r,hr,-⟩ := h
    rcases List.mem_append.mp hc with mem | mem
    · exact .inl ((allDigits_of_digits? hn).2 c mem)
    · exact (List.mem_cons.mp mem).symm.imp_left ((allDigits_of_digits? hr).2 c)
  · simp only [mantissa?,cut_of_notMem point,Option.map_eq_some_iff] at h
    obtain ⟨n,hn,-⟩ := h
    exact .inl ((allDigits_of_digits? hn).2 c hc)

theorem mem_of_integer? {i : Int} (h : integer? cs = some i) (hc : c ∈ cs) : c.isDigit ∨ c = '-' := by
  unfold integer? at h
  split at h
  next digits =>
    obtain ⟨n,hn,-⟩ := Option.map_eq_some_iff.mp h
    exact (List.mem_cons.mp hc).symm.imp_left ((allDigits_of_digits? hn).2 c)
  next =>
    obtain ⟨n,hn,-⟩ := Option.map_eq_some_iff.mp h
    exact .inl ((allDigits_of_digits? hn).2 c hc)

theorem unsigned?_eq_some (h : unsigned? cs = some v) :
    'e' ∉ cs ∧ mantissa? cs = some v ∨ ∃ mantissa power m p, cs = mantissa ++ 'e' :: power ∧
      'e' ∉ mantissa ∧ mantissa? mantissa = some m ∧ integer? power = some p ∧ v = m*10^p := by
  by_cases scientific : 'e' ∈ cs
  · obtain ⟨mantissa,power,rfl,before⟩ := List.eq_append_cons_of_mem scientific
    simp only [unsigned?,cut_append before,Option.bind_eq_bind,Option.bind_eq_some_iff] at h
    obtain ⟨m,hm,p,hp,hv⟩ := h
    exact .inr ⟨mantissa,power,m,p,rfl,before,hm,hp,(Option.some.inj hv).symm⟩
  · exact .inl ⟨scientific,(unsigned?_of_notMem scientific).symm.trans h⟩

theorem mem_of_unsigned? (h : unsigned? cs = some v) (hc : c ∈ cs) :
    c.isDigit ∨ c ∈ ['.','e','-'] := by
  rcases unsigned?_eq_some h with ⟨-,mantissa⟩ | ⟨mantissa,power,m,p,rfl,-,hm,hp,-⟩
  · rcases mem_of_mantissa? mantissa hc with digit | rfl
    · exact .inl digit
    · exact .inr (by decide)
  · rcases List.mem_append.mp hc with mem | mem
    · rcases mem_of_mantissa? hm mem with digit | rfl
      · exact .inl digit
      · exact .inr (by decide)
    · rcases List.mem_cons.mp mem with rfl | mem
      · exact .inr (by decide)
      · rcases mem_of_integer? hp mem with digit | rfl
        · exact .inl digit
        · exact .inr (by decide)

theorem notMem_of_unsigned? (h : unsigned? cs = some v) (other : c.isDigit = false)
    (letter : c ∉ ['.','e','-']) : c ∉ cs := by
  intro hc
  rcases mem_of_unsigned? h hc with digit | mem
  · exact Bool.eq_false_iff.mp other digit
  · exact letter mem

theorem cutSuffix_of_unsigned? (h : unsigned? cs = some v) : cutSuffix cs = (none,cs) := by
  have last {c : Char} (hc : cs.getLast? = some c) : c.isDigit ∨ c ∈ ['.','e','-'] :=
    mem_of_unsigned? h (List.mem_of_getLast? hc)
  unfold cutSuffix
  split
  next hc => exact absurd (last hc) (by decide)
  next hc => exact absurd (last hc) (by decide)
  next hc => exact absurd (last hc) (by decide)
  next hc => exact absurd (last hc) (by decide)
  next => rfl

theorem side?_of_digits? {n : Nat} (h : digits? cs = some n) : side? cs = some n :=
  (if_neg (allDigits_of_digits? h).1).trans h

theorem significand?_of_mantissa? (h : mantissa? cs = some v) : significand? cs = some v := by
  by_cases point : '.' ∈ cs
  · obtain ⟨whole,fraction,rfl,before⟩ := List.eq_append_cons_of_mem point
    simp only [mantissa?,cut_append before,Option.bind_eq_bind,Option.bind_eq_some_iff] at h
    obtain ⟨n,hn,r,hr,hv⟩ := h
    simp only [significand?,cut_append before,(allDigits_of_digits? hn).1,false_and,if_false,
      side?_of_digits? hn,side?_of_digits? hr]
    exact hv
  · simp only [mantissa?,cut_of_notMem point] at h
    simp only [significand?,cut_of_notMem point]
    exact h

theorem power?_of_integer? {p : Int} (h : integer? cs = some p) : power? (some cs) = some p := by
  have plus : '+' ∉ cs := fun mem => absurd (mem_of_integer? h mem) (by decide)
  unfold power?
  split
  next none => cases none
  next some => simp [Option.some.inj some] at plus
  next some => exact Option.some.inj some ▸ h

/-- What is read as a number with a point or an exponent is a literal of type double. -/
theorem readFloating_of_unsigned? (h : unsigned? cs = some v) (form : HasFraction cs ∨ HasExponent cs) :
    readFloating cs = some (.double,v) := by
  have suffix := cutSuffix_of_unsigned? h
  have capital : 'E' ∉ cs := notMem_of_unsigned? h rfl (by decide)
  rcases unsigned?_eq_some h with ⟨none,mantissa⟩ | ⟨mantissa,power,m,p,rfl,before,hm,hp,rfl⟩
  · have point : '.' ∈ cs := by
      rcases form with ⟨first,c,behind,rfl,-⟩ | ⟨first,p,rfl⟩
      · simp
      · simp at none
    have whole : cutPower cs = (cs,.none) := by
      simp only [cutPower,cut_of_notMem none,cut_of_notMem capital]
    simp [readFloating,suffix,whole,point,significand?_of_mantissa? mantissa,power?]
  · have parts : cutPower (mantissa ++ 'e' :: power) = (mantissa,some power) := by
      simp only [cutPower,cut_append before]
    simp [readFloating,suffix,parts,significand?_of_mantissa? hm,power?_of_integer? hp]

end

theorem not_readsDouble {text : List Char} (h : readFloating (signed text).2 = none) (x : Double) :
    ¬ ReadsDouble text x := by
  rintro ⟨-,-,v,read,-⟩
  rw [h] at read
  cases read

end Java

namespace Template

open Java FloatStyle

variable {x : Double}

theorem signed_javaLiteral (h : x.isNaN = false) : Java.signed (javaLiteral (.float x)).toList =
    (x.negative,(Cell.floatStyle.magnitudeText .double x.magnitude).toList) := by
  change Java.signed (Cell.floatStyle.write x).toList = _
  rw [toList_write_of_number _ h]
  exact signed_sign _ (magnitudeText_ne_minus _ (magnitude_le h))

theorem readsDouble_iff_of_isFinite (finite : x.isFinite) (y : Double) :
    ReadsDouble (javaLiteral (.float x)).toList y ↔ y = x := by
  have magnitude : x.magnitude.val < BinaryFormat.double.infinity := of_decide_eq_true finite
  have expression := signed_javaLiteral (Binary.isNaN_of_isFinite finite)
  obtain ⟨v,read,rounds⟩ := Cell.floatStyle.exists_unsigned?_magnitudeText magnitude
  have literal := readFloating_of_unsigned? read (form_magnitudeText rfl magnitude)
  constructor
  · rintro ⟨sign,-,w,read',nearest,-⟩
    rw [expression] at sign read'
    obtain rfl : v = w := congrArg Prod.snd (Option.some.inj (literal.symm.trans read'))
    have same := ((roundsTo_iff_isNearest rounds.nonneg).mpr nearest).unique rounds
    exact Binary.ext sign.symm (Fin.ext same)
  · rintro rfl
    refine ⟨by rw [expression],finite,v,by rw [expression]; exact literal,rounds.isNearest,?_⟩
    intro zero
    have text : unsigned? (Cell.floatStyle.magnitudeText .double 0).toList = some 0 := by
      simp [magnitudeText,Cell.floatStyle,BinaryFormat.infinity,BinaryFormat.double,unsigned?,cut,mantissa?,
        digits?,Nat.ofDigitChars]
    rw [zero] at read
    exact Option.some.inj (read.symm.trans text)

/-- The other doubles are written as bare names, which Java reads as no literal. -/
theorem bare_of_not_isFinite (h : x.isFinite = false) :
    let name := (Java.signed (javaLiteral (.float x)).toList).2
    IsIdentifier name ∧ readFloating name = none := by
  have bare : ∀ name ∈ [['i','n','f'],['N','a','N']], readFloating name = none := by
    simp [readFloating,cutSuffix,cutPower,cut,significand?,digits?]
  cases number : x.isNaN with
  | true =>
    have text : javaLiteral (.float x) = "NaN" := if_pos number
    rw [text]
    exact ⟨isIdentifier_cons (by decide +kernel) (by decide +kernel) (by decide),bare _ (.tail _ (.head _))⟩
  | false =>
    have infinite : x.magnitude.val = BinaryFormat.double.infinity :=
      Nat.le_antisymm (magnitude_le number) (Nat.le_of_not_lt (of_decide_eq_false h))
    rw [signed_javaLiteral number,infinite,magnitudeText,if_pos rfl]
    exact ⟨isIdentifier_cons (by decide +kernel) (by decide +kernel) (by decide),bare _ (.head _)⟩

/-- The literal of a finite double is an expression of it and of no other double. The literal of any other
one is none: it names a variable. -/
theorem readsDouble_javaLiteral (x : Double) :
    (x.isFinite → ∀ y, ReadsDouble (javaLiteral (.float x)).toList y ↔ y = x) ∧
    (x.isFinite = false → IsIdentifier (Java.signed (javaLiteral (.float x)).toList).2 ∧
      ∀ y, ¬ ReadsDouble (javaLiteral (.float x)).toList y) := by
  refine ⟨readsDouble_iff_of_isFinite,fun infinite => ?_⟩
  obtain ⟨name,none⟩ := bare_of_not_isFinite infinite
  exact ⟨name,not_readsDouble none⟩

/-- The negative number next to zero is read back with its sign. -/
theorem readsDouble_javaLiteral_of_least :
    let x : Double := ⟨true,⟨1,by decide⟩⟩
    javaLiteral (.float x) = "-5e-324" ∧ ReadsDouble "-5e-324".toList x ∧
      ¬ ReadsDouble "-5e-324".toList (.zero true) := by
  intro x
  have text : javaLiteral (.float x) = "-5e-324" := by decide +kernel
  have read := (readsDouble_javaLiteral x).1 (by decide)
  rw [text] at read
  exact ⟨text,(read x).mpr rfl,mt (read (.zero true)).mp (by decide)⟩

theorem javaLiteral_not_finite :
    javaLiteral (.float (.infinite false)) = "inf" ∧ IsIdentifier "inf".toList ∧
      (∀ y, ¬ ReadsDouble "inf".toList y) ∧ javaLiteral (.float .nan) = "NaN" ∧
      ∀ y, ¬ ReadsDouble "NaN".toList y := by
  have inf : javaLiteral (.float (.infinite false)) = "inf" := by decide +kernel
  have nan : javaLiteral (.float .nan) = "NaN" := by decide +kernel
  have infinity := bare_of_not_isFinite (x := .infinite false) (by decide)
  have notNumber := bare_of_not_isFinite (x := .nan) (by decide)
  rw [inf] at infinity
  rw [nan] at notNumber
  exact ⟨inf,infinity.1,not_readsDouble infinity.2,nan,not_readsDouble notNumber.2⟩

end Template
end ColumnarReport
