import Mathlib
import ColumnarReport.Proofs.JavaText
import ColumnarReport.Proofs.TemplateName

/-! The text of a template. Its lines hold no line feed, whatever the names and cells hold, so the
text gives the lines back, and every line gives back what it was written from. -/
namespace ColumnarReport
namespace Template

open Text

theorem oneLine_columnLine (i : Nat) (c : String × String) : OneLine (columnLine i c) := by
  unfold columnLine
  simp only [oneLine_append]
  exact ⟨⟨⟨⟨⟨by decide,oneLine_javaString _⟩,by decide⟩,oneLine_nat i⟩,by decide⟩,
    oneLine_targetType _⟩

theorem oneLine_valueLine (i : Nat) (value : Cell) : OneLine (valueLine i value) := by
  unfold valueLine
  simp only [oneLine_append]
  exact ⟨⟨⟨⟨by decide,oneLine_javaLiteral value⟩,by decide⟩,oneLine_nat i⟩,by decide⟩

theorem oneLine_firstRowLines {row : List Cell} {line : String} (h : line ∈ firstRowLines row) :
    OneLine line := by
  rcases List.mem_append.mp h with heading | value
  · clear h
    revert line
    decide
  · obtain ⟨i,hi,rfl⟩ := List.mem_mapIdx.mp value
    exact oneLine_valueLine i _

theorem length_headLines (t : Template) : (headLines t).length = 12 := rfl

theorem oneLine_headLines {t : Template} (name : OneLine t.methodName) {line : String}
    (h : line ∈ headLines t) : OneLine line := by
  simp only [headLines,List.mem_cons,List.not_mem_nil,or_false] at h
  rcases h with rfl | rfl | rfl | rfl | rfl | rfl | rfl | rfl | rfl | rfl | rfl | rfl
  case inr.inl =>
    simp only [oneLine_append]
    exact ⟨⟨by decide,name⟩,by decide⟩
  case inr.inr.inl =>
    simp only [oneLine_append]
    exact ⟨⟨by decide,oneLine_javaString _⟩,by decide⟩
  case inr.inr.inr.inr.inr.inr.inr.inr.inl =>
    simp only [oneLine_append]
    exact ⟨⟨by decide,oneLine_nat _⟩,by decide⟩
  case inr.inr.inr.inr.inr.inr.inr.inr.inr.inr.inr =>
    simp only [oneLine_append]
    exact ⟨⟨by decide,oneLine_nat _⟩,by decide⟩
  all_goals decide

theorem oneLine_tailLines {t : Template} {line : String} (h : line ∈ tailLines t) :
    OneLine line := by
  rcases List.mem_append.mp h with first | closing
  · cases hrow : t.firstRow with
    | none => simp [hrow] at first
    | some row =>
      rw [hrow] at first
      exact oneLine_firstRowLines first
  · clear h
    revert line
    decide

theorem oneLine_lines {t : Template} (name : OneLine t.methodName) {line : String}
    (h : line ∈ t.lines) : OneLine line := by
  rw [lines] at h
  rcases List.mem_append.mp h with h | h
  · exact oneLine_headLines name h
  rcases List.mem_append.mp h with h | h
  · obtain ⟨i,hi,rfl⟩ := List.mem_mapIdx.mp h
    exact oneLine_columnLine i _
  · exact oneLine_tailLines h

def target (c : String × String) : String × String := (c.1,targetType c.2)

theorem columnLine_inj {i : Nat} {c d : String × String} (h : columnLine i c = columnLine i d) :
    target c = target d := by
  unfold columnLine at h
  simp only [String.append_assoc,String.append_right_inj] at h
  obtain ⟨name,rest⟩ := javaString_append_inj h
  simp only [String.append_right_inj] at rest
  exact Prod.ext name rest

theorem valueLine_inj {i : Nat} {v w : Cell} (h : valueLine i v = valueLine i w) :
    javaLiteral v = javaLiteral w := by
  unfold valueLine at h
  simp only [String.append_left_inj,String.append_right_inj] at h
  exact h

theorem headLines_inj {t u : Template} (h : headLines t = headLines u) :
    t.methodName = u.methodName ∧ t.fileName = u.fileName ∧ t.totalRows = u.totalRows ∧
      t.columns.length = u.columns.length := by
  unfold headLines at h
  simp only [List.cons.injEq,String.append_left_inj,String.append_right_inj] at h
  obtain ⟨-,method,file,-,-,-,-,-,rows,-,-,count,-⟩ := h
  exact ⟨method,javaString_inj file,Nat.repr_inj.mp rows,Nat.repr_inj.mp count⟩

/-- Lists written line by line, each line with its index, agree in what each line gives back. -/
theorem map_eq_of_mapIdx_eq {α β : Type} (line : Nat → α → String) (read : α → β)
    (inj : ∀ i a b, line i a = line i b → read a = read b) {xs ys : List α}
    (h : xs.mapIdx line = ys.mapIdx line) : xs.map read = ys.map read := by
  have count : xs.length = ys.length := by simpa using congrArg List.length h
  apply List.ext_getElem (by simpa using count)
  intro i hi hj
  have lines := List.getElem_of_eq h (i := i) (by simpa using hi)
  rw [List.getElem_mapIdx,List.getElem_mapIdx] at lines
  simpa using inj _ _ _ lines

/-- A block for the first row begins with an empty line, and without one the braces close. -/
theorem tailLines_inj {t u : Template} (h : tailLines t = tailLines u) :
    t.firstRow.map (·.map javaLiteral) = u.firstRow.map (·.map javaLiteral) := by
  unfold tailLines at h
  rw [List.append_left_inj] at h
  cases ht : t.firstRow with
  | none =>
    cases hu : u.firstRow with
    | none => rfl
    | some row => simp [ht,hu,firstRowLines] at h
  | some row =>
    cases hu : u.firstRow with
    | none => simp [ht,hu,firstRowLines] at h
    | some row' =>
      simp only [ht,hu,Option.map_some,Option.getD_some,firstRowLines,List.append_right_inj] at h
      have values := map_eq_of_mapIdx_eq valueLine javaLiteral (fun _ _ _ => valueLine_inj) h
      rw [Option.map_some,Option.map_some,values]

theorem text_inj {t u : Template} (ht : OneLine t.methodName) (hu : OneLine u.methodName)
    (h : t.text = u.text) : headLines t = headLines u ∧
      t.columns.map target = u.columns.map target ∧
      t.firstRow.map (·.map javaLiteral) = u.firstRow.map (·.map javaLiteral) := by
  have hlines := unlines_inj (fun _ => oneLine_lines ht) (fun _ => oneLine_lines hu) h
  rw [lines,lines] at hlines
  obtain ⟨hhead,hrest⟩ := List.append_inj hlines (by rw [length_headLines,length_headLines])
  obtain ⟨-,-,-,count⟩ := headLines_inj hhead
  obtain ⟨hcolumns,htail⟩ := List.append_inj hrest (by simpa using count)
  have names := map_eq_of_mapIdx_eq columnLine target (fun _ _ _ => columnLine_inj) hcolumns
  exact ⟨hhead,names,tailLines_inj htail⟩

theorem oneLine_methodName (name : String) (totalRows : Nat) (columns : List Column) :
    OneLine (ofName name totalRows columns).methodName :=
  oneLine_camelName _

theorem map_target_ofName (name : String) (totalRows : Nat) (columns : List Column) :
    (ofName name totalRows columns).columns.map target =
      columns.map fun c => (c.name,targetType c.typeName) := by
  rw [ofName,List.map_map]
  rfl

theorem length_lines_ofName (name : String) (totalRows : Nat) (columns : List Column) :
    (ofName name totalRows columns).lines.length =
      if totalRows = 0 then 14+columns.length else 18+2*columns.length := by
  rw [lines]
  cases totalRows with
  | zero =>
    simp [ofName,length_headLines,tailLines]
    omega
  | succ n =>
    simp [ofName,length_headLines,tailLines,firstRowLines]
    omega

/-- A template has its number of lines whatever the names and cells hold, and its text gives back
its names, its counts, its columns with their targets and the literals of its first row. -/
theorem text_determines :
    (∀ (path : Path) (totalRows : Nat) (columns : List Column), path.HasTextName →
      ∃ t, ofTable path totalRows columns = .ok t ∧
        t.text.toList.count '\n' =
          (if totalRows = 0 then 14+columns.length else 18+2*columns.length) ∧
        t.text.toList.getLast? = some '\n') ∧
    ∀ (path path' : Path) (totalRows totalRows' : Nat) (columns columns' : List Column)
      (t u : Template), ofTable path totalRows columns = .ok t →
      ofTable path' totalRows' columns' = .ok u → t.text = u.text →
        t.methodName = u.methodName ∧ t.fileName = u.fileName ∧ totalRows = totalRows' ∧
        columns.length = columns'.length ∧
        (columns.map fun c => (c.name,targetType c.typeName)) =
          (columns'.map fun c => (c.name,targetType c.typeName)) ∧
        t.firstRow.isSome = u.firstRow.isSome ∧
        t.firstRow.map (·.map javaLiteral) = u.firstRow.map (·.map javaLiteral) := by
  refine ⟨?_,?_⟩
  · intro path totalRows columns named
    obtain ⟨name,hname⟩ := named
    have method := oneLine_methodName name totalRows columns
    have lines : (ofName name totalRows columns).lines ≠ [] := by simp [lines,headLines]
    refine ⟨_,ofTable_of_name hname totalRows columns,?_,getLast?_unlines lines⟩
    rw [text,count_unlines fun _ => oneLine_lines method,length_lines_ofName]
  · intro path path' totalRows totalRows' columns columns' t u ht hu h
    obtain ⟨name,rfl⟩ := ofTable_eq_ok ht
    obtain ⟨name',rfl⟩ := ofTable_eq_ok hu
    obtain ⟨hhead,names,first⟩ :=
      text_inj (oneLine_methodName name totalRows columns) (oneLine_methodName name' _ _) h
    obtain ⟨method,file,rows,count⟩ := headLines_inj hhead
    have present := congrArg Option.isSome first
    rw [Option.isSome_map,Option.isSome_map] at present
    rw [map_target_ofName,map_target_ofName] at names
    have count : columns.length = columns'.length := by simpa [ofName] using count
    exact ⟨method,file,rows,count,names,present,first⟩

/-- A file name with a quote, a column name with a line feed, and type names that differ in the case
of their letters only. -/
theorem text_determines_of_quote :
    let path := Path.ofString "day\"1.parquet"
    let columns (typeName : String) : List Column := [⟨"a\nb",typeName,[.int 7]⟩]
    (∃ t, ofTable path 1 (columns "int32") = .ok t ∧ t.text.toList.count '\n' = 20) ∧
      [("a\nb",targetType "int32")] = [("a\nb",targetType "INT32")] := by
  intro path columns
  have last : path.components.getLast? = some (.name (Utf8.encode "day\"1.parquet")) := by decide
  have same : (ofName "day\"1.parquet" 1 (columns "int32")).text =
      (ofName "day\"1.parquet" 1 (columns "INT32")).text := by decide +kernel
  obtain ⟨t,ht,count,-⟩ := text_determines.1 path 1 (columns "int32") ⟨_,last⟩
  have names := (text_determines.2 path path 1 1 _ _ _ _ (ofTable_of_name last 1 (columns "int32"))
    (ofTable_of_name last 1 (columns "INT32")) same).2.2.2.2.1
  exact ⟨⟨t,ht,by simpa [columns] using count⟩,by simpa [columns] using names⟩

end Template
end ColumnarReport
