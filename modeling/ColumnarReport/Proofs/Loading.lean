import Mathlib
import ColumnarReport.Parquet.StoredFile
import ColumnarReport.Proofs.Joining
import ColumnarReport.Proofs.NumericColumns
import ColumnarReport.Proofs.TemplateName

/-! A loaded table is consistent. Its schema, its columns, its row count and its footer are made
apart from each other, and they agree: decoding loses no column and no row, the batches of a file
hold its rows, and so do its row groups. -/
namespace ColumnarReport

namespace Arrow

section

variable [ZoneDatabase]

namespace Columns

def decodings {fs : Fields} (c : Columns fs) : List (Except DecodeError (List Cell)) :=
  match c with
  | .nil => []
  | .cons head tail => cells head :: tail.decodings

/-- Decoding fails with the first column that has no cells. -/
theorem decode_eq_error {fs : Fields} {c : Columns fs} {e : DecodeError}
    (h : c.decode = .error e) :
    ∃ before after, c.decodings = before++.error e :: after ∧
      ∀ d ∈ before, ∃ cells, d = .ok cells := by
  match c with
  | .nil => cases h
  | .cons head tail =>
    rw [decode] at h
    cases hc : cells head with
    | error f =>
      rw [hc] at h
      cases h
      exact ⟨[],tail.decodings,by rw [decodings,hc]; rfl,by simp⟩
    | ok values =>
      rw [hc] at h
      cases ht : tail.decode with
      | ok rest => simp [ht] at h
      | error f =>
        rw [ht] at h
        cases h
        obtain ⟨before,after,split,good⟩ := decode_eq_error ht
        refine ⟨.ok values :: before,after,by rw [decodings,hc,split]; rfl,?_⟩
        exact List.forall_mem_cons.mpr ⟨⟨values,rfl⟩,good⟩

/-- Decoding keeps the fields in order and gives each the cells of its array. -/
theorem decode_eq_ok {fs : Fields} {c : Columns fs} {columns : List Column}
    (h : c.decode = .ok columns) :
    (columns.map fun c => (c.name,c.typeName)) =
        fs.toList.map (fun f => (f.name,f.type.reportName)) ∧
      columns.map (fun c => .ok c.cells) = c.decodings := by
  match c with
  | .nil =>
    cases h
    exact ⟨rfl,rfl⟩
  | .cons head tail =>
    rw [decode] at h
    cases hc : cells head with
    | error f => simp [hc] at h
    | ok values =>
      rw [hc] at h
      cases ht : tail.decode with
      | error f => simp [ht] at h
      | ok rest =>
        rw [ht] at h
        cases h
        obtain ⟨names,arrays⟩ := decode_eq_ok ht
        simp [Fields.toList,decodings,hc,names,arrays]

theorem length_decodings {fs : Fields} {c : Columns fs} {n : Nat} {values : List Cell}
    (h : c.haveLength n) (hv : .ok values ∈ c.decodings) : values.length = n := by
  match c with
  | .nil => simp [decodings] at hv
  | .cons head tail =>
    simp only [haveLength,Bool.and_eq_true,beq_iff_eq] at h
    rcases List.mem_cons.mp hv with first | later
    · exact (length_cells first.symm).trans h.1
    · exact length_decodings h.2 later

end Columns

end

namespace Batch

theorem ranges_within {size offset rows : Nat} :
    ∀ r ∈ ranges size offset rows, r.1+r.2 ≤ offset+rows := by
  fun_induction ranges size offset rows with
  | case1 => simp
  | case2 offset rows h len ih =>
    refine List.forall_mem_cons.mpr ⟨by omega,fun r hr => ?_⟩
    have := ih r hr
    omega

/-- Cutting rows into batches loses none. -/
theorem sum_numRows_split {fs : Fields} (b : Batch fs) (size : Nat) :
    ((b.split size).map (·.numRows)).sum = b.numRows := by
  have lengths : (b.split size).map (·.numRows) = (ranges size 0 b.numRows).map (·.2) := by
    rw [split,List.map_map]
    refine List.map_congr_left fun r hr => ?_
    -- No range passes the end, so none is cut short.
    have := ranges_within r hr
    change min r.2 (b.numRows-r.1) = r.2
    omega
  rw [lengths,sum_ranges]

end Batch
end Arrow

theorem Template.firstRow_of_lengths {path : Path} {n : Nat} {columns : List Column} {x : Template}
    (h : ofTable path n columns = .ok x) (lengths : ∀ c ∈ columns, c.cells.length = n) :
    (0 < n → ∃ row, x.firstRow = some row ∧ row.map some = columns.map (·.cells[0]?)) ∧
      (n = 0 → x.firstRow = none) := by
  obtain ⟨name,rfl⟩ := ofTable_eq_ok h
  refine ⟨fun some => ⟨_,if_pos some,?_⟩,fun none => if_neg none.not_gt⟩
  rw [List.map_map]
  refine List.map_congr_left fun c hc => ?_
  obtain ⟨cell,rest,cells⟩ := List.exists_cons_of_length_pos (some.trans_eq (lengths c hc).symm)
  simp [cells]

namespace Parquet

open Arrow (Fields Columns DecodeError Batch BatchJoin LawfulJoin)

theorem Metadata.numRows_footer (m : Metadata) (fileSize footerSize : Nat) :
    (m.footer fileSize footerSize).numRows = (m.groups.map (·.numRows)).sum := by
  rw [Footer.numRows,footer,List.map_map]
  rfl

section

variable [ZoneDatabase]

/-- What a table owes to the arrays it is made of: its schema and its columns name the same fields,
each column holds a cell for each of `n` rows, the footer counts as many in a word, and the template
asserts what the first row holds. -/
structure Agrees {fs : Fields} (t : Table) (arrays : Columns fs) (n : Nat) : Prop where
  numRows : t.numRows = n
  numColumns : t.columns.length = t.fields.length
  schema : t.fields.map (fun f => (f.name,f.typeName)) =
    fs.toList.map fun f => (f.name,f.type.reportName)
  columns : t.columns.map (fun c => (c.name,c.typeName)) =
    t.fields.map fun f => (f.name,f.typeName)
  cells : t.columns.map (fun c => .ok c.cells) = arrays.decodings
  lengths : ∀ c ∈ t.columns, c.cells.length = n
  footer : t.footer.numRows = .ofInt n
  footerCount : n < 2^63 → t.footer.numRows.toInt = n
  firstRow : ∀ path x, Template.ofTable path t.numRows t.columns = .ok x →
    (0 < n → ∃ row, x.firstRow = some row ∧ row.map some = t.columns.map (·.cells[0]?)) ∧
    (n = 0 → x.firstRow = none)

/-- Loading fails with the first array that has no cells, and else gives a table that agrees with
all of them. -/
def LoadsAs {fs : Fields} (arrays : Columns fs) (n : Nat) (loaded : Except SourceError Table) :
    Prop :=
  (∃ before e after, arrays.decodings = before++.error e :: after ∧
    (∀ d ∈ before, ∃ cells, d = .ok cells) ∧ loaded = .error (.decode e.message)) ∨
  (∀ d ∈ arrays.decodings, ∃ cells, d = .ok cells) ∧ ∃ t, loaded = .ok t ∧ Agrees t arrays n

theorem Reading.tableOf_loadsAs (r : Reading) {rows : Batch r.fields} {n : Nat}
    (hn : rows.numRows = n) (groups : (r.metadata.groups.map (·.numRows)).sum = .ofInt n) :
    LoadsAs rows.columns n (r.tableOf rows) := by
  cases hd : rows.columns.decode with
  | error e =>
    obtain ⟨before,after,split,good⟩ := Columns.decode_eq_error hd
    exact .inl ⟨before,e,after,split,good,by rw [tableOf,hd]⟩
  | ok columns =>
    obtain ⟨names,arrays⟩ := Columns.decode_eq_ok hd
    have lengths : ∀ c ∈ columns, c.cells.length = n := by
      intro c hc
      refine (Columns.length_decodings rows.haveLength ?_).trans hn
      rw [← arrays]
      exact List.mem_map_of_mem hc
    have fields : (Arrow.schemaFields r.fields).map (fun f => (f.name,f.typeName)) =
        r.fields.toList.map fun f => (f.name,f.type.reportName) := by
      rw [Arrow.schemaFields,List.map_map]
      rfl
    have counted : (r.metadata.footer r.fileSize r.footerSize).numRows = .ofInt n :=
      (r.metadata.numRows_footer _ _).trans groups
    refine .inr ⟨?_,_,by rw [tableOf,hd],?_⟩
    · intro d hd
      rw [← arrays] at hd
      obtain ⟨c,-,rfl⟩ := List.mem_map.mp hd
      exact ⟨c.cells,rfl⟩
    · exact {
        numRows := hn
        numColumns := by simpa using congrArg List.length (names.trans fields.symm)
        schema := fields
        columns := names.trans fields.symm
        cells := arrays
        lengths := lengths
        footer := counted
        footerCount := fun small => by rw [counted,Int64.toInt_ofInt_of_le] <;> omega
        firstRow := fun path x hx => Template.firstRow_of_lengths (hn ▸ hx) lengths }

variable [BatchJoin]

theorem Reading.table_of_rows {r : Reading} {rows : Batch r.fields} (h : r.rows = .ok rows) :
    r.table = r.tableOf rows := by
  rw [table,h]

theorem Reading.table_of_error {r : Reading} {message : String} (h : r.rows = .error message) :
    r.table = .error (.decode message) := by
  rw [table,h]

theorem StoredFile.load_of_no_fault {f : StoredFile} {batchSize : Nat} (opened : f.openFault? = none)
    (read : f.readFault? batchSize = none) : f.load batchSize = (f.reading batchSize).table := by
  rw [load,opened,read]

end

namespace StoredFile

theorem map_groupRanges (start : Nat) (counts : List Nat) :
    (groupRanges start counts).map (·.2) = counts := by
  induction counts generalizing start with
  | nil => rfl
  | cons count counts ih => rw [groupRanges,List.map_cons,ih]

/-- The footer counts the rows of the row groups, which are those of the file. -/
theorem sum_numRows_groups (f : StoredFile) :
    (f.metadata.groups.map (·.numRows)).sum = .ofInt f.rows.numRows := by
  have counts : f.metadata.groups.map (·.numRows) = f.groupRows.map fun (n : Nat) => Int64.ofInt n := by
    rw [← map_groupRanges 0 f.groupRows]
    apply List.ext_getElem?
    intro i
    simp only [metadata,List.getElem?_map,List.getElem?_mapIdx,Option.map_map]
    rfl
  rw [counts,← f.groupRows_sum]
  induction f.groupRows with
  | nil => rfl
  | cons n counts ih =>
    rw [List.map_cons,List.sum_cons,List.sum_cons,ih,Nat.cast_add,Int64.ofInt_add]

theorem numRows_readRows (f : StoredFile) : f.readRows.2.numRows = f.rows.numRows := by
  unfold readRows
  cases f.keepsTypes <;> rfl

end StoredFile

/-- Loading ends as the decoding of the arrays does, whatever a reader hands back whose batches hold as
many rows as its row groups count. Batches that are not joined leave no table. A stored file is read
so. -/
theorem load_agrees [ZoneDatabase] [BatchJoin] [LawfulJoin] :
    (∀ (r : Reading) (rows : Batch r.fields) (n : Nat), r.rows = .ok rows →
      (r.batches.map (·.numRows)).sum = n →
      (r.metadata.groups.map (·.numRows.toInt)).sum = n → LoadsAs rows.columns n r.table) ∧
    (∀ (r : Reading) (message : String), r.rows = .error message →
      r.table = .error (.decode message)) ∧
    ∀ (f : StoredFile) (batchSize : Nat), f.openFault? = none → f.readFault? batchSize = none →
      (∃ message, (f.reading batchSize).rows = .error message ∧
        f.load batchSize = .error (.decode message)) ∨
      ∃ rows, (f.reading batchSize).rows = .ok rows ∧
        LoadsAs rows.columns f.rows.numRows (f.load batchSize) := by
  refine ⟨fun r rows n joined hn groups => ?_,fun r message => Reading.table_of_error,
    fun f batchSize opened read => ?_⟩
  · have counted : (r.metadata.groups.map (·.numRows)).sum = .ofInt n := by
      rw [sum_eq_ofInt,List.map_map]
      exact congrArg Int64.ofInt groups
    rw [Reading.table_of_rows joined]
    exact r.tableOf_loadsAs ((LawfulJoin.numRows joined).trans hn) counted
  · rw [StoredFile.load_of_no_fault opened read]
    cases joined : (f.reading batchSize).rows with
    | error message => exact .inl ⟨message,rfl,Reading.table_of_error joined⟩
    | ok rows =>
      have hn : rows.numRows = f.rows.numRows :=
        (LawfulJoin.numRows joined).trans
          ((Batch.sum_numRows_split _ batchSize).trans f.numRows_readRows)
      rw [Reading.table_of_rows joined]
      exact .inr ⟨rows,rfl,(f.reading batchSize).tableOf_loadsAs hn f.sum_numRows_groups⟩

def StoredFile.ofThreeRows : StoredFile :=
  let seven : Arrow.FixedInt true 32 := .wrap 32 7
  { fields := .cons (.mk "id" (.scalar (.integer .int32)) true) .nil
    rows := ⟨3,.cons (.scalar [some seven,none,some seven]) .nil,by decide⟩
    groupRows := [2,1]
    groupRows_sum := rfl
    codec := .snappy
    version := 1
    createdBy := none
    keyValue := []
    hasStatistics := true
    keepsTypes := true
    layout := ⟨1,1,fun _ => 1,fun _ _ => ⟨1,1,1⟩⟩ }

attribute [local instance] ZoneDatabase.universal BatchJoin.ofConcat

/-- Read in batches of two rows, which end where a row group does. -/
theorem load_agrees_of_three_rows :
    ∃ t, StoredFile.ofThreeRows.load 2 = .ok t ∧ t.numRows = 3 ∧ t.footer.numRows = 3 ∧
      t.columns.map (fun c => (c.name,c.typeName)) = [("id","int32")] ∧
      ∀ c ∈ t.columns, c.cells.length = 3 := by
  obtain ⟨rows,joined,decoded⟩ : ∃ rows, (StoredFile.ofThreeRows.reading 2).rows = .ok rows ∧
      rows.columns.decodings = [.ok [.int 7,.null,.int 7]] := by
    have cuts : Batch.ranges 2 0 3 = [(0,2),(2,1)] := by simp [Batch.ranges]
    change ∃ rows, Batch.concat ((Batch.ranges 2 0 3).map _) = .ok rows ∧ _
    rw [cuts]
    exact ⟨_,rfl,rfl⟩
  rcases load_agrees.2.2 .ofThreeRows 2 rfl rfl with ⟨message,fails,-⟩ | ⟨rows',joined',loads⟩
  · cases joined.symm.trans fails
  · obtain rfl := Except.ok.inj (joined.symm.trans joined')
    rcases loads with ⟨before,e,after,split,-⟩ | ⟨-,t,ht,agrees⟩
    · simp [decoded,List.cons_eq_append_iff] at split
    · exact ⟨t,ht,agrees.numRows,agrees.footer,agrees.columns.trans agrees.schema,agrees.lengths⟩

end Parquet
end ColumnarReport
