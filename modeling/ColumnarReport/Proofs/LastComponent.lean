import ColumnarReport.Proofs.TemplateName

/-! The last component of a path, read off its bytes. Separators and single dots behind a piece name
nothing, and what stands before it does not matter, so the template of a path is that of its last piece
alone. A path without a template ends in no name, or in one that is not text. -/
namespace ColumnarReport

namespace Path

section

variable {a b piece : List UInt8}

theorem split_ne_nil (bytes : List UInt8) : split bytes ≠ [] := by
  cases bytes with
  | nil => simp [split]
  | cons b rest =>
    rw [split]
    split_ifs
    · simp
    · split <;> simp

theorem split_append_separator (a b : List UInt8) :
    split (a++separator :: b) = split a++split b := by
  induction a with
  | nil =>
    rw [List.nil_append]
    simp [split]
  | cons x a ih =>
    obtain ⟨first,more,pieces⟩ := List.exists_cons_of_ne_nil (split_ne_nil a)
    rw [pieces] at ih
    rw [List.cons_append,split,split,ih,pieces]
    split_ifs <;> rfl

theorem split_of_notMem (h : separator ∉ piece) : split piece = [piece] := by
  induction piece with
  | nil => rfl
  | cons x piece ih =>
    obtain ⟨first,rest⟩ := not_or.mp (mt List.mem_cons.mpr h)
    rw [split,if_neg (Ne.symm first),ih rest]

theorem notMem_of_mem_split (h : piece ∈ split a) : separator ∉ piece := by
  induction a generalizing piece with
  | nil => simp_all [split]
  | cons x a ih =>
    obtain ⟨first,more,pieces⟩ := List.exists_cons_of_ne_nil (split_ne_nil a)
    rw [pieces] at ih
    rw [split,pieces] at h
    split_ifs at h with hx
    · rcases List.mem_cons.mp h with rfl | old
      · simp
      · exact ih old
    · rcases List.mem_cons.mp h with rfl | old
      · simp [Ne.symm hx,ih List.mem_cons_self]
      · exact ih (List.mem_cons_of_mem first old)

theorem eq_of_split {more : List (List UInt8)} (h : split a = piece :: more) :
    a = piece++more.flatMap (separator :: ·) := by
  induction a generalizing piece more with
  | nil => simp_all [split]
  | cons x a ih =>
    obtain ⟨first,rest,pieces⟩ := List.exists_cons_of_ne_nil (split_ne_nil a)
    rw [split,pieces] at h
    split_ifs at h with hx
    · obtain ⟨rfl,rfl⟩ := List.cons.inj h
      rw [hx,ih pieces]
      rfl
    · obtain ⟨rfl,rfl⟩ := List.cons.inj h
      rw [ih pieces]
      rfl

end

/-- Separators, and single dots behind separators. -/
inductive Trails : List UInt8 → Prop
  | nil : Trails []
  | slash {t : List UInt8} : Trails t → Trails (separator :: t)
  | dot {t : List UInt8} : Trails t → Trails (separator :: dot :: t)

/-- A name that a file can have. -/
structure IsFileName (name : String) : Prop where
  ne_empty : name ≠ ""
  notMem : '/' ∉ name.toList
  ne_dot : name ≠ "."
  ne_dots : name ≠ ".."

/-- The components that the pieces stand for, without what the start of the path adds. -/
def named (bytes : List UInt8) : List Component := (split bytes).filterMap ofPiece

section

variable {p : Path} {a piece t : List UInt8} {c : Component}

theorem components_eq (p : Path) : ∃ start : List Component,
    (start = [] ∨ start = [.root] ∨ start = [.current]) ∧ p.components = start++named p.bytes := by
  simp only [components,named]
  split
  next => exact ⟨[.root],by simp,rfl⟩
  next =>
    split_ifs
    · exact ⟨[.current],by simp,rfl⟩
    · exact ⟨[],by simp,rfl⟩
  next => exact ⟨[],by simp,rfl⟩

theorem getLast?_components (h : (named p.bytes).getLast? = some c) :
    p.components.getLast? = some c := by
  obtain ⟨start,-,parts⟩ := p.components_eq
  rw [parts,List.getLast?_append,h,Option.some_or]

theorem named_append_separator (a b : List UInt8) :
    named (a++separator :: b) = named a++named b := by
  rw [named,split_append_separator,List.filterMap_append]
  rfl

theorem named_of_notMem (h : separator ∉ piece) : named piece = (ofPiece piece).toList := by
  rw [named,split_of_notMem h]
  cases hc : ofPiece piece <;> simp [hc]

/-- Nothing is named behind a piece. Induction on what trails, each of whose steps begins with a
separator. -/
theorem named_append_trails (h : Trails t) (a : List UInt8) : named (a++t) = named a := by
  induction h generalizing a with
  | nil => rw [List.append_nil]
  | slash _ ih =>
    have rest := ih []
    rw [List.nil_append] at rest
    rw [named_append_separator,rest]
    exact List.append_nil _
  | dot _ ih =>
    have rest := ih [Path.dot]
    rw [List.singleton_append] at rest
    rw [named_append_separator,rest]
    exact List.append_nil _

/-- A piece that stands for a component is the last one of the path, whatever stands before it. -/
theorem getLast?_components_of_piece (hc : ofPiece piece = some c) (hs : separator ∉ piece)
    (ht : Trails t) : (Path.mk (piece++t)).components.getLast? = some c ∧
      ∀ d, (Path.mk (d++separator :: (piece++t))).components.getLast? = some c := by
  have last : named (piece++t) = [c] := by
    rw [named_append_trails ht,named_of_notMem hs,hc]
    rfl
  refine ⟨getLast?_components (by rw [last]; rfl),fun d => getLast?_components ?_⟩
  rw [named_append_separator,last,List.getLast?_concat]

theorem trails_of_pieces {pieces : List (List UInt8)} (h : ∀ piece ∈ pieces, ofPiece piece = none) :
    Trails (pieces.flatMap (separator :: ·)) := by
  induction pieces with
  | nil => exact .nil
  | cons piece pieces ih =>
    obtain ⟨first,others⟩ := List.forall_mem_cons.mp h
    have nothing : piece = [] ∨ piece = [dot] := by
      unfold ofPiece at first
      split_ifs at first with h
      exact h
    rcases nothing with rfl | rfl
    · exact .slash (ih others)
    · exact .dot (ih others)

/-- A path that ends in a name ends in its bytes, but for what trails. -/
theorem exists_piece {bytes : List UInt8} (h : p.components.getLast? = some (.name bytes)) :
    ofPiece bytes = some (.name bytes) ∧ separator ∉ bytes ∧
      ∃ t, Trails t ∧ (p.bytes = bytes++t ∨ ∃ d, p.bytes = d++separator :: (bytes++t)) := by
  obtain ⟨start,first,parts⟩ := p.components_eq
  have last : (named p.bytes).getLast? = some (.name bytes) := by
    rw [parts,List.getLast?_append] at h
    cases hn : (named p.bytes).getLast? with
    | some c => simpa [hn] using h
    | none => rcases first with rfl | rfl | rfl <;> simp [hn] at h
  rw [named,List.getLast?_filterMap,List.findSome?_eq_some_iff] at last
  obtain ⟨behind,piece,before,reversed,hpiece,nothing⟩ := last
  obtain rfl : piece = bytes := by
    unfold ofPiece at hpiece
    split_ifs at hpiece
    · cases hpiece
    · exact Component.name.inj (Option.some.inj hpiece)
  have pieces : split p.bytes = before.reverse++piece :: behind.reverse := by
    have := congrArg List.reverse reversed
    simpa using this
  have trails : Trails (behind.reverse.flatMap (separator :: ·)) :=
    trails_of_pieces fun q hq => nothing q (List.mem_reverse.mp hq)
  refine ⟨hpiece,notMem_of_mem_split (a := p.bytes) (by simp [pieces]),_,trails,?_⟩
  cases hb : before.reverse with
  | nil =>
    rw [hb] at pieces
    exact .inl (eq_of_split pieces)
  | cons first more =>
    rw [hb] at pieces
    refine .inr ⟨first++more.flatMap (separator :: ·),?_⟩
    rw [eq_of_split pieces]
    simp

end

/-- The path ends in no component, in the root, in a dot that stands for the current directory, in two
dots, or in a name that is not text. -/
def EndsWithoutName (p : Path) : Prop :=
  p.components.getLast? ∈ [none,some .root,some .current,some .parent] ∨
    ∃ bytes, p.components.getLast? = some (.name bytes) ∧ ¬ Utf8.IsText bytes

theorem EndsWithoutName.not_hasTextName {p : Path} (h : p.EndsWithoutName) : ¬ p.HasTextName := by
  rintro ⟨name,last⟩
  rcases h with other | ⟨bytes,last',raw⟩
  · simp [last] at other
  · rw [last] at last'
    obtain rfl := Component.name.inj (Option.some.inj last')
    exact raw ⟨name,rfl⟩

theorem endsWithoutName_or_hasTextName (p : Path) : p.EndsWithoutName ∨ p.HasTextName := by
  by_cases named : ∃ bytes, p.components.getLast? = some (.name bytes)
  · obtain ⟨bytes,last⟩ := named
    by_cases text : Utf8.IsText bytes
    · obtain ⟨name,rfl⟩ := text
      exact .inr ⟨name,last⟩
    · exact .inl (.inr ⟨bytes,last,text⟩)
  · left
    left
    cases last : p.components.getLast? with
    | none => simp
    | some c =>
      cases c with
      | name bytes => exact (named ⟨bytes,last⟩).elim
      | root | current | parent => simp

section

variable {name : String}

theorem separator_mem_encode_iff : separator ∈ Utf8.encode name ↔ '/' ∈ name.toList :=
  Utf8.mem_encode_iff rfl (by decide)

theorem isFileName_iff : IsFileName name ↔
    ofPiece (Utf8.encode name) = some (.name (Utf8.encode name)) ∧ separator ∉ Utf8.encode name := by
  have empty : Utf8.encode name = [] ↔ name = "" := ⟨fun h => Utf8.encode_inj h,fun h => h ▸ rfl⟩
  have one : Utf8.encode name = [dot] ↔ name = "." :=
    ⟨fun h => Utf8.encode_inj (h.trans (by decide)),fun h => h ▸ by decide⟩
  have two : Utf8.encode name = [dot,dot] ↔ name = ".." :=
    ⟨fun h => Utf8.encode_inj (h.trans (by decide)),fun h => h ▸ by decide⟩
  have piece : ofPiece (Utf8.encode name) = some (.name (Utf8.encode name)) ↔
      name ≠ "" ∧ name ≠ "." ∧ name ≠ ".." := by
    unfold ofPiece
    simp only [empty,one,two]
    split_ifs with nothing parent
    · simp
      tauto
    · simp [parent]
    · simp [parent,not_or.mp nothing]
  rw [piece,separator_mem_encode_iff]
  exact ⟨fun h => ⟨⟨h.1,h.3,h.4⟩,h.2⟩,fun h => ⟨h.1.1,h.2,h.1.2.1,h.1.2.2⟩⟩

end

end Path

namespace Template

open ColumnarReport.Path

/-- The template of a path is that of the name it ends in, whatever bytes stand before the name and
whatever separators and dots behind it, and a path that ends in no name has none. Every path is of
one of these kinds. -/
theorem ofTable_by_name (totalRows : Nat) (columns : List Column) :
    (∀ (name : String) (t : List UInt8), IsFileName name → Trails t →
      ∃ made, made.fileName = name ∧ made.methodName = camelName (fileStem name) ∧
        ofTable (.ofString name) totalRows columns = .ok made ∧
        ofTable ⟨Utf8.encode name++t⟩ totalRows columns = .ok made ∧
        ∀ d, ofTable ⟨d++separator :: (Utf8.encode name++t)⟩ totalRows columns = .ok made) ∧
    (∀ path : Path, path.EndsWithoutName →
      ofTable path totalRows columns = .error (.noFileName path)) ∧
    ∀ path : Path, path.EndsWithoutName ∨ ∃ name t, IsFileName name ∧ Trails t ∧
      (path.bytes = Utf8.encode name++t ∨ ∃ d, path.bytes = d++separator :: (Utf8.encode name++t)) := by
  refine ⟨fun name t ordinary trails => ?_,fun path h => ?_,fun path => ?_⟩
  · obtain ⟨piece,inner⟩ := isFileName_iff.mp ordinary
    obtain ⟨alone,-⟩ := getLast?_components_of_piece piece inner .nil
    rw [List.append_nil] at alone
    obtain ⟨bare,behind⟩ := getLast?_components_of_piece piece inner trails
    exact ⟨ofName name totalRows columns,rfl,rfl,ofTable_of_name alone ..,ofTable_of_name bare ..,
      fun d => ofTable_of_name (behind d) ..⟩
  · exact ofTable_of_not_hasTextName h.not_hasTextName ..
  · rcases path.endsWithoutName_or_hasTextName with without | ⟨name,last⟩
    · exact .inl without
    · obtain ⟨piece,inner,t,trails,bytes⟩ := exists_piece last
      exact .inr ⟨name,t,isFileName_iff.mpr ⟨piece,inner⟩,trails,bytes⟩

theorem ofTable_by_name_of_raw_directory :
    let name := "daily_load.v2.parquet"
    let t := [separator,separator,dot,separator]
    IsFileName name ∧ Trails t ∧ ∃ made, made.methodName = "testDailyLoadV2" ∧
      ofTable (.ofString name) 0 [] = .ok made ∧
      ofTable ⟨0xFF :: separator :: (Utf8.encode name++t)⟩ 0 [] = .ok made := by
  intro name t
  have ordinary : IsFileName name := ⟨by decide,by decide,by decide,by decide⟩
  have trails : Trails t := .slash (.dot (.slash .nil))
  obtain ⟨made,-,method,alone,-,behind⟩ := (ofTable_by_name 0 []).1 name t ordinary trails
  refine ⟨ordinary,trails,made,?_,alone,behind [0xFF]⟩
  rw [method]
  decide +kernel

end Template
end ColumnarReport
