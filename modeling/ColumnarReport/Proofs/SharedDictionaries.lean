import Mathlib
import ColumnarReport.Proofs.Joining

/-! Pieces of one array are joined without new keys. Cutting an array leaves its dictionaries whole, so
the pieces share them, and concatenation leaves every key what it was. -/
namespace ColumnarReport
namespace Arrow

mutual

theorem Slots.same_self {t : DataType} (s : Slots t) : s.same s = true :=
  match s with
  | .null _ => by simp [Slots.same]
  | .scalar _ => by simp [Slots.same]
  | .list _ child => by simp [Slots.same,Slots.same_self child]
  | .fixedSizeList _ child => by simp [Slots.same,Slots.same_self child]
  | .struct _ columns => by simp [Slots.same,Columns.same_self columns]
  | .map _ child => by simp [Slots.same,Slots.same_self child]
  | .dictionary _ values => by simp [Slots.same,Slots.same_self values]
  | .runs _ _ _ values => by simp [Slots.same,Slots.same_self values]
  | .union _ columns => by simp [Slots.same,Columns.same_self columns]

theorem Columns.same_self {fs : Fields} (c : Columns fs) : c.same c = true :=
  match c with
  | .nil => by simp [Columns.same]
  | .cons head tail => by simp [Columns.same,Slots.same_self head,Columns.same_self tail]

end

mutual

/-- The second array has the dictionaries of the first one, and keys of their types. -/
def Slots.Keys {t : DataType} (whole s : Slots t) : Prop :=
  match whole,s with
  | .null _,.null _ => True
  | .scalar _,.scalar _ => True
  | .list _ child,.list _ child' => child.Keys child'
  | .fixedSizeList _ child,.fixedSizeList _ child' => child.Keys child'
  | .struct _ columns,.struct _ columns' => columns.Keys columns'
  | .map _ child,.map _ child' => child.Keys child'
  | .dictionary _ values,@Slots.dictionary key _ keys values' =>
    values' = values ∧ (@Slots.dictionary key _ keys values').keysFit
  | .runs _ _ _ values,.runs _ _ _ values' => values.Keys values'
  | .union _ columns,.union _ columns' => columns.Keys columns'

def Columns.Keys {fs : Fields} (whole c : Columns fs) : Prop :=
  match whole,c with
  | .nil,.nil => True
  | .cons head tail,.cons head' tail' => head.Keys head' ∧ tail.Keys tail'

end

mutual

theorem Slots.keys_self {t : DataType} {s : Slots t} (h : s.keysFit) : s.Keys s :=
  match s with
  | .null _ => trivial
  | .scalar _ => trivial
  | .list _ child => Slots.keys_self (s := child) h
  | .fixedSizeList _ child => Slots.keys_self (s := child) h
  | .struct _ columns => Columns.keys_self (c := columns) h
  | .map _ child => Slots.keys_self (s := child) h
  | .dictionary _ _ => ⟨rfl,h⟩
  | .runs _ _ _ values => Slots.keys_self (s := values) h
  | .union _ columns => Columns.keys_self (c := columns) h

theorem Columns.keys_self {fs : Fields} {c : Columns fs} (h : c.keysFit) : c.Keys c :=
  match c with
  | .nil => trivial
  | .cons head tail => by
    rw [Columns.keysFit,Bool.and_eq_true] at h
    exact ⟨Slots.keys_self h.1,Columns.keys_self h.2⟩

end

mutual

theorem Slots.Keys.keysFit {t : DataType} {whole s : Slots t} (h : whole.Keys s) : s.keysFit :=
  match whole,s with
  | .null _,.null _ => rfl
  | .scalar _,.scalar _ => rfl
  | .list _ _,.list _ child => Slots.Keys.keysFit (s := child) h
  | .fixedSizeList _ _,.fixedSizeList _ child => Slots.Keys.keysFit (s := child) h
  | .struct _ _,.struct _ columns => Columns.Keys.keysFit (c := columns) h
  | .map _ _,.map _ child => Slots.Keys.keysFit (s := child) h
  | .dictionary _ _,.dictionary _ _ => h.2
  | .runs _ _ _ _,.runs _ _ _ values => Slots.Keys.keysFit (s := values) h
  | .union _ _,.union _ columns => Columns.Keys.keysFit (c := columns) h

theorem Columns.Keys.keysFit {fs : Fields} {whole c : Columns fs} (h : whole.Keys c) : c.keysFit :=
  match whole,c with
  | .nil,.nil => rfl
  | .cons _ _,.cons head tail => by
    rw [Columns.keysFit,Bool.and_eq_true]
    exact ⟨Slots.Keys.keysFit h.1,Columns.Keys.keysFit h.2⟩

end

mutual

theorem Slots.Keys.slice {t : DataType} {whole s : Slots t} (h : whole.Keys s) (offset len : Nat) :
    whole.Keys (s.slice offset len) :=
  match whole,s with
  | .null _,.null _ => trivial
  | .scalar _,.scalar _ => trivial
  | .list _ _,.list _ _ => h
  | .fixedSizeList _ _,.fixedSizeList _ child => Slots.Keys.slice (s := child) h _ _
  | .struct _ _,.struct _ columns => Columns.Keys.slice (c := columns) h _ _
  | .map _ _,.map _ _ => h
  | .dictionary _ _,.dictionary keys _ => by
    obtain ⟨values,fit⟩ := h
    refine ⟨values,?_⟩
    simp only [Slots.keysFit,Bool.and_eq_true,List.all_eq_true] at fit ⊢
    exact ⟨fun k hk => fit.1 k (mem_of_mem_cut hk),fit.2⟩
  | .runs _ _ _ _,.runs _ _ _ _ => h
  | .union _ _,.union _ _ => h

theorem Columns.Keys.slice {fs : Fields} {whole c : Columns fs} (h : whole.Keys c)
    (offset len : Nat) : whole.Keys (c.slice offset len) :=
  match whole,c with
  | .nil,.nil => trivial
  | .cons _ _,.cons _ _ => ⟨Slots.Keys.slice h.1 _ _,Columns.Keys.slice h.2 _ _⟩

end

mutual

theorem Slots.Keys.followedBy {t : DataType} {whole a b : Slots t} (ha : whole.Keys a)
    (hb : whole.Keys b) : whole.Keys (a.followedBy b) :=
  match whole,a,b with
  | .null _,.null _,.null _ => trivial
  | .scalar _,.scalar _,.scalar _ => trivial
  | .list _ _,.list _ child,.list _ child' => Slots.Keys.followedBy (a := child) (b := child') ha hb
  | .fixedSizeList _ _,.fixedSizeList _ child,.fixedSizeList _ child' =>
    Slots.Keys.followedBy (a := child) (b := child') ha hb
  | .struct _ _,.struct _ columns,.struct _ columns' =>
    Columns.Keys.followedBy (a := columns) (b := columns') ha hb
  | .map _ _,.map _ child,.map _ child' => Slots.Keys.followedBy (a := child) (b := child') ha hb
  | .dictionary _ _,.dictionary xs values,.dictionary ys _ => by
    obtain ⟨rfl,fitA⟩ := ha
    obtain ⟨rfl,fitB⟩ := hb
    simp only [Slots.keysFit,Bool.and_eq_true] at fitA fitB
    rw [Slots.followedBy,if_pos (Slots.same_self _)]
    refine ⟨rfl,?_⟩
    simp only [Slots.keysFit,Bool.and_eq_true,List.all_append]
    exact ⟨⟨fitA.1,fitB.1⟩,fitA.2⟩
  | .runs _ _ _ _,.runs _ _ _ values,.runs _ _ _ values' =>
    Slots.Keys.followedBy (a := values) (b := values') ha hb
  | .union _ _,.union _ columns,.union _ columns' =>
    Columns.Keys.followedBy (a := columns) (b := columns') ha hb

theorem Columns.Keys.followedBy {fs : Fields} {whole a b : Columns fs} (ha : whole.Keys a)
    (hb : whole.Keys b) : whole.Keys (a.followedBy b) :=
  match whole,a,b with
  | .nil,.nil,.nil => trivial
  | .cons _ _,.cons _ _,.cons _ _ =>
    ⟨Slots.Keys.followedBy ha.1 hb.1,Columns.Keys.followedBy ha.2 hb.2⟩

end

namespace Batch

variable {fs : Fields}

/-- Batches that share their dictionaries are always joined. -/
theorem concat_of_keys {whole : Columns fs} {b : Batch fs} {rest : List (Batch fs)}
    (h : ∀ x ∈ b :: rest, whole.Keys x.columns) :
    ∃ joined, concat (b :: rest) = .ok joined ∧ whole.Keys joined.columns := by
  induction rest generalizing b with
  | nil => exact ⟨b,rfl,h b List.mem_cons_self⟩
  | cons next rest ih =>
    obtain ⟨first,later⟩ := List.forall_mem_cons.mp h
    obtain ⟨behind,joined,keys⟩ := ih later
    have all : whole.Keys (b.followedBy behind).columns := first.followedBy keys
    refine ⟨b.followedBy behind,?_,all⟩
    rw [concat,joined]
    exact if_pos all.keysFit

theorem concat_split {b : Batch fs} (h : b.columns.keysFit) (size : Nat) :
    ∃ joined, concat (b.split size) = .ok joined := by
  have keys : ∀ x ∈ b.split size, b.columns.Keys x.columns := by
    intro x hx
    obtain ⟨r,-,rfl⟩ := List.mem_map.mp hx
    exact (Columns.keys_self h).slice r.1 r.2
  cases pieces : b.split size with
  | nil => exact ⟨_,rfl⟩
  | cons first rest =>
    rw [pieces] at keys
    obtain ⟨joined,hj,-⟩ := concat_of_keys keys
    exact ⟨joined,hj⟩

end Batch
end Arrow
end ColumnarReport
