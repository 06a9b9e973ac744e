import ColumnarReport.Parquet.Metadata
import ColumnarReport.Proofs.Utf8

/-! The texts of byte bounds. Bytes that encode a text are shown as that text, all others by two
hexadecimal digits for each of them, and either way the bytes are read back, once it is known
which way it is. -/
namespace ColumnarReport
namespace Utf8

def hexDigits : List Char := "0123456789abcdef".toList

def hexValue? (c : Char) : Option Nat := hexDigits.idxOf? c

def readHex : List Char → Option (List UInt8)
  | [] => some []
  | [_] => none
  | high :: low :: rest => do
    let h ← hexValue? high
    let l ← hexValue? low
    let bytes ← readHex rest
    some (.ofNat (16*h+l) :: bytes)

theorem hexValue?_hexDigit : ∀ n < 16, hexValue? (hexDigit n) = some n := by decide

theorem hexValue?_eq_some {c : Char} {n : Nat} (h : hexValue? c = some n) :
    n < 16 ∧ c = hexDigit n := by
  have table : ∀ n, (low : n < 16) → hexDigits[n] = hexDigit n := by decide
  obtain ⟨low,found,-⟩ := List.findIdx?_eq_some_iff_getElem.mp h
  exact ⟨low,(eq_of_beq found).symm.trans (table n low)⟩

theorem hex_cons (b : UInt8) (bytes : List UInt8) : (hex (b :: bytes)).toList =
    hexDigit (b.toNat/16) :: hexDigit (b.toNat%16) :: (hex bytes).toList := by
  simp [hex]

theorem length_hex (bytes : List UInt8) : (hex bytes).toList.length = 2*bytes.length := by
  induction bytes with
  | nil => rfl
  | cons b bytes ih =>
    rw [hex_cons,List.length_cons,List.length_cons,ih,List.length_cons]
    omega

theorem readHex_hex (bytes : List UInt8) : readHex (hex bytes).toList = some bytes := by
  induction bytes with
  | nil => rfl
  | cons b bytes ih =>
    have high := hexValue?_hexDigit (b.toNat/16) (by have := b.toNat_lt; omega)
    have low := hexValue?_hexDigit (b.toNat%16) (Nat.mod_lt _ (by decide))
    have value : 16*(b.toNat/16)+b.toNat%16 = b.toNat := Nat.div_add_mod ..
    simp only [hex_cons,readHex,high,low,ih,Option.bind_eq_bind,Option.bind_some,value]
    simp

/-- No other digits are read as the bytes. -/
theorem readHex_eq_some_iff {cs : List Char} {bytes : List UInt8} :
    readHex cs = some bytes ↔ cs = (hex bytes).toList := by
  constructor
  · intro h
    fun_induction readHex cs generalizing bytes with
    | case1 =>
      obtain rfl := Option.some.inj h
      rfl
    | case2 => cases h
    | case3 high low rest ih =>
      simp only [Option.bind_eq_bind,Option.bind_eq_some_iff] at h
      obtain ⟨n,hn,m,hm,bytes,hbytes,made⟩ := h
      obtain ⟨hn,rfl⟩ := hexValue?_eq_some hn
      obtain ⟨hm,rfl⟩ := hexValue?_eq_some hm
      obtain rfl := Option.some.inj made
      have value : (UInt8.ofNat (16*n+m)).toNat = 16*n+m :=
        UInt8.toNat_ofNat_of_lt' (by change _ < 256; omega)
      rw [hex_cons,value,← ih hbytes,show (16*n+m)/16 = n by omega,show (16*n+m)%16 = m by omega]
  · rintro rfl
    exact readHex_hex bytes

end Utf8

namespace Parquet

open Utf8

theorem bytesText_encode (s : String) : bytesText (encode s) = s := by
  rw [bytesText,decode?_encode]

theorem bytesText_of_not_isText {bytes : List UInt8} (h : ¬ IsText bytes) :
    bytesText bytes = "0x"++hex bytes := by
  rw [isText_iff,Option.not_isSome_iff_eq_none] at h
  rw [bytesText,h]

theorem bytesText_inj {a b : List UInt8} (kind : IsText a ↔ IsText b)
    (h : bytesText a = bytesText b) : a = b := by
  by_cases text : IsText a
  · obtain ⟨s,rfl⟩ := text
    obtain ⟨t,rfl⟩ := kind.mp ⟨s,rfl⟩
    rw [bytesText_encode,bytesText_encode] at h
    rw [h]
  · rw [bytesText_of_not_isText text,bytesText_of_not_isText (mt kind.mpr text),
      String.append_right_inj] at h
    have read := congrArg (fun s => readHex s.toList) h
    rw [readHex_hex,readHex_hex] at read
    exact Option.some.inj read

/-- Bytes are shown as the text that they encode, or by the only digits that are read as these bytes.
The statistics of a byte column show a bound where there is one, and bounds of one kind are told
apart. -/
theorem bytesText_exact :
    (∀ s, bytesText (encode s) = s) ∧
    (∀ bytes, ¬ IsText bytes → ∃ digits, bytesText bytes = "0x"++String.ofList digits ∧
      digits.length = 2*bytes.length ∧ ∀ cs, readHex cs = some bytes ↔ cs = digits) ∧
    (∀ s : Statistics .bytes,
      s.view.min = s.min.map bytesText ∧ s.view.max = s.max.map bytesText) ∧
    (∀ (size : Nat) (s : Statistics (.fixedBytes size)),
      s.view.min = s.min.map bytesText ∧ s.view.max = s.max.map bytesText) ∧
    ∀ a b, (IsText a ↔ IsText b) → bytesText a = bytesText b → a = b := by
  refine ⟨bytesText_encode,fun bytes raw => ?_,fun s => ⟨rfl,rfl⟩,fun size s => ⟨rfl,rfl⟩,
    fun a b => bytesText_inj⟩
  refine ⟨(hex bytes).toList,?_,length_hex bytes,fun cs => readHex_eq_some_iff⟩
  rw [bytesText_of_not_isText raw,String.ofList_toList]

/-- A letter, and a sequence of three bytes that breaks off before the last. -/
theorem bytesText_exact_of_cut_sequence :
    let bytes := [0x41,0xE2,0x82]
    ¬ IsText bytes ∧ ∃ digits, bytesText bytes = "0x"++String.ofList digits ∧ digits.length = 6 ∧
      readHex digits = some bytes := by
  intro bytes
  have raw : ¬ IsText bytes := by
    rw [isText_iff]
    decide +kernel
  obtain ⟨digits,shown,length,read⟩ := bytesText_exact.2.1 bytes raw
  exact ⟨raw,digits,shown,length,(read digits).mpr rfl⟩

/-- An overlong form, a surrogate, a code point past the last and a sequence that breaks off. -/
example : [[0xC0,0x80],[0xED,0xA0,0x80],[0xF4,0x90,0x80,0x80],[0xE2,0x82]].map bytesText =
    ["0xc080","0xeda080","0xf4908080","0xe282"] := by
  decide +kernel

end Parquet
end ColumnarReport
