import Mathlib
import ColumnarReport.Text.Utf8

/-! Bytes are read as a text exactly where they are its encoding. A sequence is read from its
first byte, which says how many bytes follow and holds the next one to a range that leaves out
overlong forms, surrogates and code points past the last; what is read is written back the
same. -/
namespace ColumnarReport
namespace Utf8

def bytesOf (v : Nat) : List UInt8 :=
  if v ≤ 0x7F then [.ofNat v]
  else if v ≤ 0x7FF then [.ofNat (v/64%32+0xC0),.ofNat (v%64+0x80)]
  else if v ≤ 0xFFFF then
    [.ofNat (v/4096%16+0xE0),.ofNat (v/64%64+0x80),.ofNat (v%64+0x80)]
  else
    [.ofNat (v/262144%8+0xF0),.ofNat (v/4096%64+0x80),.ofNat (v/64%64+0x80),.ofNat (v%64+0x80)]

theorem encode_eq_flatMap (s : String) : encode s = s.toList.flatMap fun c => bytesOf c.toNat := by
  change s.toByteArray.data.toList = s.toList.flatMap String.utf8EncodeChar
  rw [← String.utf8Encode_toList,List.utf8Encode,List.toList_data_toByteArray]

/-- First bytes of sequences of two, three and four bytes, and those beyond. -/
theorem lead_cases :
    (∀ k < 30, lead (.ofNat (k+0xC2)) = some (1,0x80,0xBF,k+2)) ∧
    (∀ k < 16, lead (.ofNat (k+0xE0)) =
      some (2,if k = 0 then 0xA0 else 0x80,if k = 13 then 0x9F else 0xBF,k)) ∧
    (∀ k < 5, lead (.ofNat (k+0xF0)) =
      some (3,if k = 0 then 0x90 else 0x80,if k = 4 then 0x8F else 0xBF,k)) ∧
    ∀ k < 11, lead (.ofNat (k+0xF5)) = none := by
  refine ⟨?_,?_,?_,?_⟩ <;> decide

theorem lead_below {b : UInt8} (h : b.toNat < 0xC2) : lead b = none := by
  rw [lead,if_pos (UInt8.lt_iff_toNat_lt.mpr h)]

theorem tail_cons {n acc m : Nat} {low high : UInt8} (hl : low.toNat ≤ m) (hh : m ≤ high.toNat)
    (rest : List UInt8) :
    tail (n+1) low high acc (.ofNat m :: rest) = tail n 0x80 0xBF (acc*64+(m-0x80)) rest := by
  have hm := UInt8.toNat_ofNat_of_lt' (n := m) (Nat.lt_of_le_of_lt hh high.toNat_lt)
  rw [tail,if_pos (by simp only [UInt8.le_iff_toNat_le,hm]; exact ⟨hl,hh⟩),hm]

theorem tail_more {n acc m : Nat} (h : m < 64) (rest : List UInt8) :
    tail (n+1) 0x80 0xBF acc (.ofNat (m+0x80) :: rest) = tail n 0x80 0xBF (acc*64+m) rest := by
  have low : (0x80 : UInt8).toNat ≤ m+0x80 := Nat.le_add_left _ _
  have high : m+0x80 ≤ (0xBF : UInt8).toNat := Nat.add_le_add_right (Nat.le_of_lt_succ h) 0x80
  rw [tail_cons low high,Nat.add_sub_cancel]

/-- A sequence is read to its end only where the next byte is in its bounds. -/
theorem tail_eq_some {n acc : Nat} {low high : UInt8} {c : Char} {bytes rest : List UInt8}
    (h : tail (n+1) low high acc bytes = (some c,rest)) :
    ∃ m more, bytes = .ofNat m :: more ∧ low.toNat ≤ m ∧ m ≤ high.toNat ∧
      tail n 0x80 0xBF (acc*64+(m-0x80)) more = (some c,rest) := by
  cases bytes with
  | nil => simp [tail] at h
  | cons b more =>
    rw [tail] at h
    split_ifs at h with hb
    · exact ⟨b.toNat,more,by simp,UInt8.le_iff_toNat_le.mp hb.1,UInt8.le_iff_toNat_le.mp hb.2,h⟩
    · simp at h

theorem pieces_of_lead {b low high : UInt8} {n acc : Nat} {c : Char} {bytes rest : List UInt8}
    (hb : lead b = some (n,low,high,acc)) (ht : tail n low high acc bytes = (some c,rest)) :
    pieces (b :: bytes) = some c :: pieces rest := by
  have high : ¬ b < 0x80 := by
    intro h
    have low := lead_below ((UInt8.lt_iff_toNat_lt.mp h).trans (by decide))
    rw [low] at hb
    cases hb
  rw [pieces,if_neg high,hb]
  simp only
  rw [ht]

theorem pieces_bytesOf {v : Nat} (valid : v.isValidChar) (rest : List UInt8) :
    pieces (bytesOf v++rest) = some (.ofNat v) :: pieces rest := by
  have bound : v < 0x110000 := by rcases valid with h | h <;> omega
  obtain ⟨two,three,four,-⟩ := lead_cases
  unfold bytesOf
  split_ifs with h1 h2 h3
  · have hb := UInt8.toNat_ofNat_of_lt' (n := v) (by change v < 256; omega)
    have low : UInt8.ofNat v < 0x80 := by
      rw [UInt8.lt_iff_toNat_lt,hb]
      exact Nat.lt_succ_of_le h1
    rw [List.singleton_append,pieces,if_pos low,hb]
  · have hk : v/64%32+0xC0 = v/64-2+0xC2 := by omega
    have hacc : (v/64-2+2)*64+v%64 = v := by omega
    rw [hk]
    apply pieces_of_lead (two _ (by omega))
    rw [List.append_eq,List.singleton_append,tail_more (by omega),tail,hacc]
  · have hacc : (v/4096%16*64+(v/64%64+0x80-0x80))*64+v%64 = v := by omega
    apply pieces_of_lead (three _ (by omega))
    rw [List.append_eq,List.cons_append,List.singleton_append,tail_cons,tail_more (by omega),tail,
      hacc]
    · split_ifs with h0
      · change 0xA0 ≤ _
        omega
      · change 0x80 ≤ _
        omega
    · split_ifs with h0
      · change _ ≤ 0x9F
        rcases valid with h | h <;> omega
      · change _ ≤ 0xBF
        omega
  · have hacc : ((v/262144%8*64+(v/4096%64+0x80-0x80))*64+v/64%64)*64+v%64 = v := by omega
    apply pieces_of_lead (four _ (by omega))
    rw [List.append_eq,List.cons_append,List.cons_append,List.singleton_append,tail_cons,
      tail_more (by omega),tail_more (by omega),tail,hacc]
    · split_ifs with h0
      · change 0x90 ≤ _
        omega
      · change 0x80 ≤ _
        omega
    · split_ifs with h0
      · change _ ≤ 0x8F
        omega
      · change _ ≤ 0xBF
        omega

theorem pieces_encode (s : String) : pieces (encode s) = s.toList.map some := by
  rw [encode_eq_flatMap]
  induction s.toList with
  | nil => rw [List.flatMap_nil,pieces,List.map_nil]
  | cons c cs ih =>
    have hc := pieces_bytesOf (v := c.toNat) c.valid (cs.flatMap fun c => bytesOf c.toNat)
    rw [List.flatMap_cons,hc,ih,List.map_cons,Char.ofNat_toNat]

theorem decode?_encode (s : String) : decode? (encode s) = some s := by
  simp [decode?,pieces_encode]

theorem encode_inj {s t : String} (h : encode s = encode t) : s = t := by
  have read := congrArg decode? h
  rw [decode?_encode,decode?_encode] at read
  exact Option.some.inj read

theorem decodeLossy_encode (s : String) : decodeLossy (encode s) = s := by
  simp [decodeLossy,pieces_encode,Function.comp_def]

theorem tail_zero {low high : UInt8} {acc : Nat} {c : Char} {bytes rest : List UInt8}
    (h : tail 0 low high acc bytes = (some c,rest)) : c = .ofNat acc ∧ bytes = rest := by
  rw [tail] at h
  simpa [eq_comm] using h

theorem bytesOf_two {k m : Nat} (hk : k < 30) (lo : 0x80 ≤ m) (hi : m ≤ 0xBF) :
    ((k+2)*64+(m-0x80)).isValidChar ∧
      bytesOf ((k+2)*64+(m-0x80)) = [.ofNat (k+0xC2),.ofNat m] := by
  have e₀ : ((k+2)*64+(m-0x80))/64%32+0xC0 = k+0xC2 := by omega
  have e₁ : ((k+2)*64+(m-0x80))%64+0x80 = m := by omega
  refine ⟨.inl (by omega),?_⟩
  rw [bytesOf,if_neg (by omega),if_pos (by omega),e₀,e₁]

theorem bytesOf_three {k m₁ m₂ : Nat} (hk : k < 16) (lo₁ : (if k = 0 then 0xA0 else 0x80) ≤ m₁)
    (hi₁ : m₁ ≤ if k = 13 then 0x9F else 0xBF) (lo₂ : 0x80 ≤ m₂) (hi₂ : m₂ ≤ 0xBF) :
    ((k*64+(m₁-0x80))*64+(m₂-0x80)).isValidChar ∧
      bytesOf ((k*64+(m₁-0x80))*64+(m₂-0x80)) = [.ofNat (k+0xE0),.ofNat m₁,.ofNat m₂] := by
  generalize hv : (k*64+(m₁-0x80))*64+(m₂-0x80) = v
  have lo : 0x80 ≤ m₁ := by split_ifs at lo₁ <;> omega
  have hi : m₁ ≤ 0xBF := by split_ifs at hi₁ <;> omega
  have big : 0x7FF < v := by split_ifs at lo₁ <;> omega
  have e₀ : v/4096%16+0xE0 = k+0xE0 := by omega
  have e₁ : v/64%64+0x80 = m₁ := by omega
  have e₂ : v%64+0x80 = m₂ := by omega
  constructor
  · unfold Nat.isValidChar
    split_ifs at hi₁ <;> omega
  · rw [bytesOf,if_neg (by omega),if_neg (by omega),if_pos (by omega),e₀,e₁,e₂]

theorem bytesOf_four {k m₁ m₂ m₃ : Nat} (hk : k < 5) (lo₁ : (if k = 0 then 0x90 else 0x80) ≤ m₁)
    (hi₁ : m₁ ≤ if k = 4 then 0x8F else 0xBF) (lo₂ : 0x80 ≤ m₂) (hi₂ : m₂ ≤ 0xBF)
    (lo₃ : 0x80 ≤ m₃) (hi₃ : m₃ ≤ 0xBF) :
    (((k*64+(m₁-0x80))*64+(m₂-0x80))*64+(m₃-0x80)).isValidChar ∧
      bytesOf (((k*64+(m₁-0x80))*64+(m₂-0x80))*64+(m₃-0x80)) =
        [.ofNat (k+0xF0),.ofNat m₁,.ofNat m₂,.ofNat m₃] := by
  generalize hv : ((k*64+(m₁-0x80))*64+(m₂-0x80))*64+(m₃-0x80) = v
  have lo : 0x80 ≤ m₁ := by split_ifs at lo₁ <;> omega
  have hi : m₁ ≤ 0xBF := by split_ifs at hi₁ <;> omega
  have big : 0xFFFF < v := by split_ifs at lo₁ <;> omega
  have e₀ : v/262144%8+0xF0 = k+0xF0 := by omega
  have e₁ : v/4096%64+0x80 = m₁ := by omega
  have e₂ : v/64%64+0x80 = m₂ := by omega
  have e₃ : v%64+0x80 = m₃ := by omega
  constructor
  · unfold Nat.isValidChar
    split_ifs at hi₁ <;> omega
  · rw [bytesOf,if_neg (by omega),if_neg (by omega),if_neg (by omega),e₀,e₁,e₂,e₃]

/-- A sequence that is read to its end is that of its character. -/
theorem bytesOf_of_lead {b low high : UInt8} {n acc : Nat} {c : Char} {bytes rest : List UInt8}
    (hb : lead b = some (n,low,high,acc)) (ht : tail n low high acc bytes = (some c,rest)) :
    bytesOf c.toNat++rest = b :: bytes := by
  obtain ⟨two,three,four,above⟩ := lead_cases
  obtain ⟨m,hm,rfl⟩ : ∃ m < 256, b = .ofNat m := ⟨b.toNat,b.toNat_lt,by simp⟩
  by_cases h1 : m < 0xC2
  · rw [lead_below (by rwa [UInt8.toNat_ofNat_of_lt' hm])] at hb
    cases hb
  by_cases h2 : m < 0xE0
  · obtain ⟨k,rfl⟩ : ∃ k, m = k+0xC2 := ⟨m-0xC2,by omega⟩
    rw [two k (by omega)] at hb
    cases hb
    obtain ⟨m₁,more,rfl,lo,hi,ht⟩ := tail_eq_some ht
    obtain ⟨hc,rfl⟩ := tail_zero ht
    obtain ⟨valid,bytes⟩ := bytesOf_two (k := k) (by omega) lo hi
    rw [hc,Char.toNat_ofNat,if_pos valid,bytes]
    rfl
  by_cases h3 : m < 0xF0
  · obtain ⟨k,rfl⟩ : ∃ k, m = k+0xE0 := ⟨m-0xE0,by omega⟩
    rw [three k (by omega)] at hb
    cases hb
    obtain ⟨m₁,more,rfl,lo₁,hi₁,ht⟩ := tail_eq_some ht
    obtain ⟨m₂,more,rfl,lo₂,hi₂,ht⟩ := tail_eq_some ht
    obtain ⟨hc,rfl⟩ := tail_zero ht
    rw [apply_ite UInt8.toNat] at lo₁ hi₁
    obtain ⟨valid,bytes⟩ := bytesOf_three (k := acc) (by omega) lo₁ hi₁ lo₂ hi₂
    rw [hc,Char.toNat_ofNat,if_pos valid,bytes]
    rfl
  by_cases h4 : m < 0xF5
  · obtain ⟨k,rfl⟩ : ∃ k, m = k+0xF0 := ⟨m-0xF0,by omega⟩
    rw [four k (by omega)] at hb
    cases hb
    obtain ⟨m₁,more,rfl,lo₁,hi₁,ht⟩ := tail_eq_some ht
    obtain ⟨m₂,more,rfl,lo₂,hi₂,ht⟩ := tail_eq_some ht
    obtain ⟨m₃,more,rfl,lo₃,hi₃,ht⟩ := tail_eq_some ht
    obtain ⟨hc,rfl⟩ := tail_zero ht
    rw [apply_ite UInt8.toNat] at lo₁ hi₁
    obtain ⟨valid,bytes⟩ := bytesOf_four (k := acc) (by omega) lo₁ hi₁ lo₂ hi₂ lo₃ hi₃
    rw [hc,Char.toNat_ofNat,if_pos valid,bytes]
    rfl
  · have none := above (m-0xF5) (by omega)
    rw [Nat.sub_add_cancel (by omega),hb] at none
    cases none

theorem flatMap_pieces (bytes : List UInt8) (h : ∀ p ∈ pieces bytes, p.isSome) :
    ((pieces bytes).filterMap id).flatMap (fun c => bytesOf c.toNat) = bytes := by
  fun_induction pieces bytes with
  | case1 => rfl
  | case2 b rest low ih =>
    have hv : b.toNat < 0x80 := UInt8.lt_iff_toNat_lt.mp low
    have valid : b.toNat.isValidChar := .inl (by omega)
    have hrest := ih fun p hp => h p (List.mem_cons_of_mem _ hp)
    rw [List.filterMap_cons_some (f := id) rfl,List.flatMap_cons,hrest,Char.toNat_ofNat,
      if_pos valid,bytesOf,if_pos (by omega)]
    simp
  | case3 b rest low hb ih => simpa using h none (by simp)
  | case4 b rest low n lo hi acc hb t _ ih =>
    have hrest := ih fun p hp => h p (List.mem_cons_of_mem _ hp)
    obtain ⟨c,hc⟩ := Option.isSome_iff_exists.mp (h t.1 (by simp))
    have ht : tail n lo hi acc rest = (some c,t.2) := Prod.ext hc rfl
    rw [hc,List.filterMap_cons_some (f := id) rfl,List.flatMap_cons,hrest]
    exact bytesOf_of_lead hb ht

/-- Bytes are read as a text exactly where they are its encoding. -/
theorem decode?_eq_some_iff {bytes : List UInt8} {s : String} :
    decode? bytes = some s ↔ encode s = bytes := by
  constructor
  · intro h
    simp only [decode?] at h
    split_ifs at h with hall
    obtain rfl := Option.some.inj h
    rw [encode_eq_flatMap,String.toList_ofList]
    exact flatMap_pieces bytes (List.all_eq_true.mp hall)
  · rintro rfl
    exact decode?_encode s

def IsText (bytes : List UInt8) : Prop := ∃ s, encode s = bytes

theorem isText_iff {bytes : List UInt8} : IsText bytes ↔ (decode? bytes).isSome := by
  simp only [IsText,Option.isSome_iff_exists,decode?_eq_some_iff]

theorem high_of_mem_bytesOf {v : Nat} (h : 0x7F < v) : ∀ b ∈ bytesOf v, 0x80 ≤ b.toNat := by
  have high {n : Nat} (low : 0x80 ≤ n) (below : n < 256) : 0x80 ≤ (UInt8.ofNat n).toNat := by
    rwa [UInt8.toNat_ofNat_of_lt' below]
  unfold bytesOf
  rw [if_neg (by omega)]
  split_ifs
  · simp only [List.forall_mem_cons]
    exact ⟨high (by omega) (by omega),high (by omega) (by omega),by simp⟩
  · simp only [List.forall_mem_cons]
    exact ⟨high (by omega) (by omega),high (by omega) (by omega),high (by omega) (by omega),by simp⟩
  · simp only [List.forall_mem_cons]
    exact ⟨high (by omega) (by omega),high (by omega) (by omega),high (by omega) (by omega),
      high (by omega) (by omega),by simp⟩

/-- A byte of seven bits is the character with this code point. -/
theorem mem_encode_iff {s : String} {b : UInt8} {c : Char} (same : c.toNat = b.toNat)
    (ascii : b.toNat ≤ 0x7F) : b ∈ encode s ↔ c ∈ s.toList := by
  rw [encode_eq_flatMap,List.mem_flatMap]
  constructor
  · rintro ⟨d,hd,hb⟩
    by_cases low : d.toNat ≤ 0x7F
    · rw [bytesOf,if_pos low,List.mem_singleton] at hb
      have value := UInt8.toNat_ofNat_of_lt' (n := d.toNat) (by change d.toNat < 256; omega)
      rw [← hb,← same] at value
      rwa [Char.toNat_inj.mp value]
    · have := high_of_mem_bytesOf (by omega) b hb
      omega
  · intro hc
    refine ⟨c,hc,?_⟩
    rw [bytesOf,if_pos (by omega),List.mem_singleton,same]
    simp

end Utf8
end ColumnarReport
