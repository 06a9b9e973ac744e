import Mathlib
import ColumnarReport.Proofs.Concatenation

/-! Batches that are joined into one. Joined batches hold the rows of the first one, then those of the
next, and so on. Joining can fail, and then there are no rows at all. -/
namespace ColumnarReport
namespace Arrow
namespace Batch

variable {fs : Fields}

theorem length_values (b : Batch fs) : b.values.length = b.numRows := by
  simp [values]

theorem values_followedBy {a b : Batch fs} (ha : a.columns.Valid) (hb : b.columns.Valid) :
    (a.followedBy b).values = a.values++b.values := by
  change (List.range (a.numRows+b.numRows)).map (a.columns.followedBy b.columns).values = _
  rw [List.range_add,List.map_append,List.map_map,values,values]
  congr 1
  · refine List.map_congr_left fun i hi => ?_
    exact Columns.values_followedBy_left b.columns ha a.haveLength (List.mem_range.mp hi)
  · refine List.map_congr_left fun i hi => ?_
    exact Columns.values_followedBy_right ha hb a.haveLength b.haveLength (List.mem_range.mp hi)

theorem append_eq_ok {a b whole : Batch fs} (h : a.append b = .ok whole) :
    whole = a.followedBy b := by
  unfold append at h
  split_ifs at h
  exact (Except.ok.inj h).symm

/-- A full dictionary leaves no key for the value of another one. -/
example :
    let fields : Fields :=
      .cons (.mk "flag" (.dictionary (.scalar (.integer .int8)) (.scalar .boolean)) true) .nil
    let rows (values : List (Option Bool)) : Batch fields :=
      ⟨1,.cons (.dictionary [some 0] (.scalar values)) .nil,rfl⟩
    ((rows (List.replicate 128 (some true))).followedBy (rows [some false])).columns.keysFit = false := by
  decide +kernel

theorem concat_cons_eq_ok {b next whole : Batch fs} {rest : List (Batch fs)}
    (h : concat (b :: next :: rest) = .ok whole) :
    ∃ behind, concat (next :: rest) = .ok behind ∧ whole = b.followedBy behind := by
  rw [concat] at h
  cases hc : concat (next :: rest) with
  | error e => simp [hc] at h
  | ok behind =>
    rw [hc] at h
    exact ⟨behind,rfl,append_eq_ok h⟩

theorem numRows_concat {batches : List (Batch fs)} {whole : Batch fs}
    (h : concat batches = .ok whole) : whole.numRows = (batches.map (·.numRows)).sum := by
  match batches with
  | [] =>
    cases h
    rfl
  | [b] =>
    cases h
    simp
  | b :: next :: rest =>
    obtain ⟨behind,hc,rfl⟩ := concat_cons_eq_ok h
    rw [List.map_cons,List.sum_cons,← numRows_concat hc]
    rfl

theorem values_concat {batches : List (Batch fs)} {whole : Batch fs}
    (h : concat batches = .ok whole) (valid : ∀ b ∈ batches, b.columns.Valid) :
    whole.columns.Valid ∧ whole.values = batches.flatMap values := by
  match batches with
  | [] =>
    cases h
    exact ⟨Columns.valid_empty fs,rfl⟩
  | [b] =>
    cases h
    exact ⟨valid _ List.mem_cons_self,by simp⟩
  | b :: next :: rest =>
    obtain ⟨behind,hc,rfl⟩ := concat_cons_eq_ok h
    obtain ⟨first,later⟩ := List.forall_mem_cons.mp valid
    obtain ⟨well,values⟩ := values_concat hc later
    rw [List.flatMap_cons,← values]
    exact ⟨Columns.valid_followedBy first well,values_followedBy first well⟩

end Batch

/-- What batches are joined for: no row is lost or added, and of well-formed batches the values are
those of one behind those of the other. -/
class LawfulJoin [BatchJoin] : Prop where
  numRows {fs : Fields} {batches : List (Batch fs)} {whole : Batch fs}
    (h : BatchJoin.join batches = .ok whole) : whole.numRows = (batches.map (·.numRows)).sum
  values {fs : Fields} {batches : List (Batch fs)} {whole : Batch fs}
    (h : BatchJoin.join batches = .ok whole) (valid : ∀ b ∈ batches, b.columns.Valid) :
    whole.values = batches.flatMap Batch.values

instance lawfulJoin_ofConcat : @LawfulJoin .ofConcat :=
  @LawfulJoin.mk .ofConcat Batch.numRows_concat fun h valid => (Batch.values_concat h valid).2

end Arrow
end ColumnarReport
