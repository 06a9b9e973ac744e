import ColumnarReport.Arrow.TypeName
import ColumnarReport.Proofs.KeySearch

/-! The target types of columns with nested types. The name of a type is divided into marks, the words and
signs of its constructors, and parts: the names of the types without parts and the names of fields that
are printed. Every mark ends with a character that no key has, and a mark that follows a part begins
with one, so a key stands in the name only where it stands in a part. -/
namespace ColumnarReport
namespace Arrow

open Template Text

/-- What the constructors of types put between the parts of a name. -/
inductive Mark
  | list
  | largeList
  | struct
  | map
  | dictionary
  | indices
  | colon
  | comma
  | close
  deriving DecidableEq

namespace Mark

def text : Mark → String
  | list => "list<"
  | largeList => "large_list<"
  | struct => "struct<"
  | map => "map<"
  | dictionary => "dictionary<values="
  | indices => ", indices="
  | colon => ": "
  | comma => ", "
  | close => ">"

def follows : Mark → Bool
  | indices | colon | comma | close => true
  | _ => false

theorem lowered_text (m : Mark) : lowered m.text = m.text.toList := by
  cases m <;> decide +kernel

theorem getLast?_text (m : Mark) : ∃ c, m.text.toList.getLast? = some c ∧ isKeyChar c = false := by
  cases m <;> exact ⟨_,rfl,rfl⟩

theorem head?_text {m : Mark} (h : m.follows) :
    ∃ c, m.text.toList.head? = some c ∧ isKeyChar c = false := by
  cases m <;> first | exact ⟨_,rfl,rfl⟩ | cases h

theorem not_occurs_text (m : Mark) {row : String × String} (h : row ∈ targetTypes) :
    occurs row.1.toList m.text.toList = false := by
  have all : ∀ row ∈ targetTypes, occurs row.1.toList m.text.toList = false := by
    cases m <;> decide
  exact all row h

end Mark

/-- Types whose names are not made of the names of others. -/
def DataType.isLeaf : DataType → Bool
  | .list .list _ | .list .largeList _ | .struct _ | .map _ _ | .dictionary _ _ => false
  | _ => true

inductive Piece
  | mark (m : Mark)
  | leaf (type : DataType)
  | name (s : String)

namespace Piece

def text : Piece → String
  | mark m => m.text
  | leaf type => type.reportName
  | name s => s

def isPart : Piece → Bool
  | mark _ => false
  | leaf _ | name _ => true

def joined (ps : List Piece) : String := String.join (ps.map text)

variable {p q : Piece} {ps qs : List Piece}

@[simp] theorem joined_nil : joined [] = "" := rfl

@[simp] theorem joined_cons (p : Piece) (ps : List Piece) : joined (p :: ps) = p.text++joined ps := by
  simp [joined]

@[simp] theorem joined_append (ps qs : List Piece) : joined (ps++qs) = joined ps++joined qs := by
  simp [joined]

/-- No two parts stand beside each other, nor a part before the opening mark of a type. -/
def Apart (p q : Piece) : Prop := p.isPart → ∃ m : Mark, q = mark m ∧ m.follows

/-- Marks stand between all parts. -/
def Spaced (ps : List Piece) : Prop := ps.IsChain Apart

theorem spaced_mark_cons (m : Mark) : Spaced (mark m :: ps) ↔ Spaced ps := by
  rw [Spaced,List.isChain_cons,and_iff_right]
  · rfl
  · exact fun q _ part => nomatch part

theorem spaced_append {m : Mark} (h : m.follows) (ps qs : List Piece) :
    Spaced (ps++mark m :: qs) ↔ Spaced ps ∧ Spaced qs := by
  rw [Spaced,List.isChain_append]
  refine and_congr_right fun _ => ?_
  rw [and_iff_left]
  · exact spaced_mark_cons m
  · intro p _ q first _
    exact ⟨m,(Option.some.inj first).symm,h⟩

theorem parted_of_spaced (h : Spaced (p :: ps)) : Parted (lowered p.text) (lowered (joined ps)) := by
  cases part : p.isPart with
  | false =>
    cases p with
    | mark m =>
      left
      obtain ⟨c,last,other⟩ := m.getLast?_text
      exact ⟨c,by rw [text,m.lowered_text,last],by simp [other]⟩
    | leaf | name => cases part
  | true =>
    right
    cases ps with
    | nil => exact fun c first => nomatch first
    | cons q ps =>
      obtain ⟨m,rfl,follows⟩ := (List.isChain_cons_cons.mp h).1 part
      obtain ⟨c,first,other⟩ := m.head?_text follows
      have head : (lowered (joined (mark m :: ps))).head? = some c := by
        rw [joined_cons,lowered_append,text,m.lowered_text,List.head?_append,first]
        rfl
      intro d hd
      rw [head] at hd
      rw [← Option.some.inj hd,other]
      exact Bool.false_ne_true

variable {row : String × String} {i j : Nat}

/-- A key stands in the text of pieces only where it stands in a part. -/
theorem standsAt_joined (known : row ∈ targetTypes) (spaced : Spaced ps)
    (h : StandsAt row.1.toList (lowered (joined ps)) i) :
    ∃ qs p rs, ps = qs++p :: rs ∧ p.isPart ∧ ∃ j, i = (lowered (joined qs)).length+j ∧
      StandsAt row.1.toList (lowered p.text) j := by
  have isKey := isKey_of_mem known
  induction ps generalizing i with
  | nil =>
    rw [StandsAt,joined_nil,lowered,String.toList_empty,List.flatMap_nil,List.drop_nil] at h
    exact absurd (List.prefix_nil.mp h) isKey.ne_nil
  | cons p ps ih =>
    rw [joined_cons,lowered_append] at h
    rcases standsAt_append isKey (parted_of_spaced spaced) h with within | ⟨j,rfl,behind⟩
    · cases part : p.isPart with
      | true => exact ⟨[],p,ps,rfl,part,i,(Nat.zero_add i).symm,within⟩
      | false =>
        cases p with
        | mark m =>
          rw [text,m.lowered_text] at within
          have found := occurs_iff.mpr ⟨i,within⟩
          rw [m.not_occurs_text known] at found
          cases found
        | leaf | name => cases part
    · obtain ⟨qs,q,rs,rfl,part,k,rfl,stands⟩ := ih spaced.tail behind
      refine ⟨p :: qs,q,rs,rfl,part,k,?_,stands⟩
      rw [joined_cons,lowered_append,List.length_append,Nat.add_assoc]

theorem standsAt_joined_of_piece {key : List Char} (qs rs : List Piece)
    (h : StandsAt key (lowered p.text) j) :
    StandsAt key (lowered (joined (qs++p :: rs))) ((lowered (joined qs)).length+j) := by
  rw [joined_append,joined_cons,lowered_append,lowered_append]
  exact standsAt_append_right _ (standsAt_append_left h _)

structure Divides (ps : List Piece) (s : String) : Prop where
  joined : joined ps = s
  spaced : Spaced ps
  leaves : ∀ t, leaf t ∈ ps → t.isLeaf

namespace Divides

variable {s r : String}

theorem nil : Divides [] "" := ⟨rfl,.nil,fun _ mem => nomatch mem⟩

theorem name (s : String) : Divides [.name s] s :=
  ⟨by simp [text],List.isChain_singleton _,by simp⟩

theorem leaf {t : DataType} (h : t.isLeaf) : Divides [.leaf t] t.reportName :=
  ⟨by simp [text],List.isChain_singleton _,by simp [h]⟩

theorem append (hp : Divides ps s) (m : Mark) (h : m.follows) (hq : Divides qs r) :
    Divides (ps++mark m :: qs) (s++m.text++r) where
  joined := by simp [hp.joined,hq.joined,text,String.append_assoc]
  spaced := (spaced_append h ps qs).mpr ⟨hp.spaced,hq.spaced⟩
  leaves t mem := by
    rcases List.mem_append.mp mem with left | right
    · exact hp.leaves t left
    · exact hq.leaves t ((List.mem_cons.mp right).resolve_left (by simp))

theorem enclosed (h : Divides ps s) (m : Mark) :
    Divides (mark m :: (ps++[mark .close])) (m.text++s++">") where
  joined := by simp [h.joined,text,Mark.text,String.append_assoc]
  spaced := (spaced_mark_cons m).mpr (h.append .close rfl nil).spaced
  leaves t mem := (h.append .close rfl nil).leaves t ((List.mem_cons.mp mem).resolve_left (by simp))

end Divides

end Piece

mutual

/-- The name of a type in pieces. A map with a key and a value shows their types only. -/
def DataType.pieces : DataType → List Piece
  | .list .list item => .mark .list :: (item.pieces++[.mark .close])
  | .list .largeList item => .mark .largeList :: (item.pieces++[.mark .close])
  | .struct fields => .mark .struct :: (fields.pieces++[.mark .close])
  | .map (.mk _ (.struct (.cons (.mk _ key _) (.cons (.mk _ value _) .nil))) _) _ =>
    .mark .map :: (key.pieces++.mark .comma :: value.pieces++[.mark .close])
  | .map (.mk _ type _) _ => .mark .map :: (type.pieces++[.mark .close])
  | .dictionary key value =>
    .mark .dictionary :: (value.pieces++.mark .indices :: key.pieces++[.mark .close])
  | t => [.leaf t]

def Field.pieces : Field → List Piece
  | .mk name type _ => .name name :: .mark .colon :: type.pieces

def Fields.pieces : Fields → List Piece
  | .nil => []
  | .cons f .nil => f.pieces
  | .cons f fs => f.pieces++.mark .comma :: fs.pieces

end

open Piece

/-- Entries of other fields than a key and a value are named as a type of their own. -/
theorem DataType.reportName_map {name : String} {type : DataType} {nullable sorted : Bool}
    (other : ∀ n k b n' v b', type ≠ .struct (.cons (.mk n k b) (.cons (.mk n' v b') .nil))) :
    (DataType.map (.mk name type nullable) sorted).reportName = "map<"++type.reportName++">" := by
  -- The equation of the definition for this case is too large to be generated, so its cases are split.
  conv => lhs; unfold DataType.reportName
  split
  case h_6 same =>
    cases same
    exact (other _ _ _ _ _ _ rfl).elim
  case h_7 same =>
    cases same
    rfl
  case h_9 no _ => exact (no _ _ _ _ rfl).elim
  all_goals contradiction

mutual

theorem DataType.divides (t : DataType) : Divides t.pieces t.reportName := by
  unfold DataType.pieces
  split
  next item =>
    unfold DataType.reportName
    exact item.divides.enclosed .list
  next item =>
    unfold DataType.reportName
    exact item.divides.enclosed .largeList
  next fields =>
    unfold DataType.reportName
    exact fields.divides.enclosed .struct
  next key _ _ value _ _ _ =>
    unfold DataType.reportName
    have entries := (key.divides.append .comma rfl value.divides).enclosed .map
    simpa only [Mark.text,String.append_assoc] using entries
  next type _ _ other =>
    rw [DataType.reportName_map other]
    exact type.divides.enclosed .map
  next key value =>
    unfold DataType.reportName
    have both := (value.divides.append .indices rfl key.divides).enclosed .dictionary
    simpa only [Mark.text,String.append_assoc] using both
  next list largeList struct _ map dictionary =>
    refine .leaf ?_
    unfold DataType.isLeaf
    split
    next => exact (list _ rfl).elim
    next => exact (largeList _ rfl).elim
    next => exact (struct _ rfl).elim
    next entries _ _ =>
      cases entries
      exact (map _ _ _ _ rfl).elim
    next => exact (dictionary _ _ rfl).elim
    next => rfl
termination_by sizeOf t
decreasing_by all_goals subst_vars; simp +arith

theorem Field.divides (f : Field) : Divides f.pieces f.reportName := by
  cases f with
  | mk name type nullable =>
    unfold Field.pieces Field.reportName
    exact (Divides.name name).append .colon rfl type.divides
termination_by sizeOf f
decreasing_by simp +arith

theorem Fields.divides (fs : Fields) : Divides fs.pieces (", ".intercalate fs.reportNames) := by
  cases fs with
  | nil => exact .nil
  | cons f fs =>
    have first := f.divides
    have rest := fs.divides
    cases fs with
    | nil =>
      rw [Fields.pieces,Fields.reportNames,Fields.reportNames,String.intercalate_singleton]
      exact first
    | cons g fs =>
      rw [Fields.reportNames,Fields.reportNames,String.intercalate_cons_cons,← Fields.reportNames]
      exact first.append .comma rfl rest
termination_by sizeOf fs
decreasing_by all_goals simp +arith

end

namespace DataType

def parts (t : DataType) : List Piece := t.pieces.filter Piece.isPart

theorem occurs_reportName_iff (t : DataType) {row : String × String} (known : row ∈ targetTypes) :
    occurs row.1.toList (lowercase t.reportName).toList ↔
      ∃ p ∈ t.parts, occurs row.1.toList (lowercase p.text).toList := by
  have isKey := isKey_of_mem known
  simp only [occurs_iff,← standsAt_lowered isKey]
  constructor
  · rintro ⟨i,h⟩
    rw [← t.divides.joined] at h
    obtain ⟨qs,p,rs,pieces,part,j,-,stands⟩ := standsAt_joined known t.divides.spaced h
    have mem : p ∈ t.pieces := pieces ▸ List.mem_append_right qs List.mem_cons_self
    exact ⟨p,List.mem_filter.mpr ⟨mem,part⟩,j,stands⟩
  · rintro ⟨p,hp,j,h⟩
    obtain ⟨qs,rs,pieces⟩ := List.append_of_mem (List.mem_filter.mp hp).1
    rw [← t.divides.joined,pieces]
    exact ⟨_,standsAt_joined_of_piece qs rs h⟩

/-- The target type of a name is that of the first key in the table that occurs in a part of it, each
part in lower case by itself, and every place of a key is a place in one of the parts. -/
theorem targetType_reportName (t : DataType) :
    (joined t.pieces = t.reportName ∧ ∀ u, .leaf u ∈ t.parts → u.isLeaf) ∧
    targetType t.reportName = ((targetTypes.find? fun row => t.parts.any fun p =>
      occurs row.1.toList (lowercase p.text).toList).map (·.2)).getD "Object" ∧
    ∀ row ∈ targetTypes, ∀ i, StandsAt row.1.toList (lowercase t.reportName).toList i →
      ∃ qs p rs, t.pieces = qs++p :: rs ∧ p.isPart ∧
        ∃ j, i = (lowercase (joined qs)).toList.length+j ∧
          StandsAt row.1.toList (lowercase p.text).toList j := by
  refine ⟨⟨t.divides.joined,fun u mem => t.divides.leaves u (List.mem_filter.mp mem).1⟩,?_,
    fun row known i h => ?_⟩
  · have same : (targetTypes.find? fun row => occurs row.1.toList (lowercase t.reportName).toList) =
        targetTypes.find? fun row => t.parts.any fun p =>
          occurs row.1.toList (lowercase p.text).toList := by
      refine List.find?_congr fun row known => Bool.eq_iff_iff.mpr ?_
      rw [t.occurs_reportName_iff known,List.any_eq_true]
    rw [targetType,same]
    split
    next found =>
      rw [found]
      rfl
    next none =>
      rw [none]
      rfl
  · have isKey := isKey_of_mem known
    rw [← standsAt_lowered isKey,← t.divides.joined] at h
    obtain ⟨qs,p,rs,pieces,part,j,place,stands⟩ := standsAt_joined known t.divides.spaced h
    exact ⟨qs,p,rs,pieces,part,j,by rwa [length_lowercase],(standsAt_lowered isKey).mp stands⟩

theorem targetType_reportName_of_later_key :
    let t : DataType := .struct (.cons (.mk "ΑΣ_Float"
      (.dictionary (.scalar (.integer .int32)) (.scalar (.utf8 .short))) true) .nil)
    StandsAt "int32".toList (lowercase t.reportName).toList 51 ∧
      targetType t.reportName = "Integer" ∧
      ∃ qs p rs, t.pieces = qs++p :: rs ∧ p.isPart ∧
        ∃ j, 51 = (lowercase (joined qs)).toList.length+j ∧
          StandsAt "int32".toList (lowercase p.text).toList j := by
  intro t
  have stands : StandsAt "int32".toList (lowercase t.reportName).toList 51 := by decide +kernel
  obtain ⟨-,target,within⟩ := targetType_reportName t
  refine ⟨stands,target.trans ?_,within ("int32","Integer") (by decide) 51 stands⟩
  decide +kernel

end DataType
end Arrow
end ColumnarReport
