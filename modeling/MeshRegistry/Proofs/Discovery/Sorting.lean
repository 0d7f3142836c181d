import MeshRegistry.Discovery.Documents
import MeshRegistry.Proofs.Text.Utf8

/-!
# Sorting by name

Byte order is total, and only equal names tie in it.  So a list whose names differ has one sorted
form, in which the names strictly increase.
-/

namespace MeshRegistry.Discovery

variable {α : Type} {name : α → String}

theorem byteLe_iff {a b : String} : byteLe a b = true ↔ Text.bytes a ≤ Text.bytes b :=
  decide_eq_true_iff

theorem byteLe_trans (a b c : String) (hab : byteLe a b = true) (hbc : byteLe b c = true) :
    byteLe a c = true := by
  rw [byteLe_iff] at hab hbc ⊢
  exact List.le_trans hab hbc

theorem byteLe_total (a b : String) : (byteLe a b || byteLe b a) = true := by
  rw [Bool.or_eq_true, byteLe_iff, byteLe_iff]
  exact List.le_total _ _

theorem eq_of_byteLe {a b : String} (hab : byteLe a b = true) (hba : byteLe b a = true) :
    a = b := by
  rw [byteLe_iff] at hab hba
  exact Text.bytes_injective (List.le_antisymm hab hba)

theorem sortByName_perm (name : α → String) (l : List α) : (sortByName name l).Perm l :=
  List.mergeSort_perm l _

theorem pairwise_sortByName (name : α → String) (l : List α) :
    (sortByName name l).Pairwise fun a b => byteLe (name a) (name b) = true :=
  List.pairwise_mergeSort (fun a b c => byteLe_trans (name a) (name b) (name c))
    (fun a b => byteLe_total (name a) (name b)) l

/-- Names that differ come out strictly increasing. -/
theorem pairwise_lt_sortByName {l : List α} (h : (l.map name).Nodup) :
    ((sortByName name l).map name).Pairwise fun a b => Text.bytes a < Text.bytes b := by
  have hnodup : ((sortByName name l).map name).Nodup :=
    ((sortByName_perm name l).map name).nodup_iff.2 h
  have hle : ((sortByName name l).map name).Pairwise fun a b => byteLe a b = true :=
    List.pairwise_map.2 (pairwise_sortByName name l)
  apply (hle.and hnodup).imp
  rintro a b ⟨hab, hne⟩
  exact Std.lt_of_le_of_ne (byteLe_iff.1 hab) fun heq => hne (Text.bytes_injective heq)

/-- The sorted form does not depend on the order that a list came in, if no two of its members share
a name. -/
theorem sortByName_eq_of_perm {l m : List α} (hperm : l.Perm m)
    (hname : ∀ a ∈ l, ∀ b ∈ l, name a = name b → a = b) :
    sortByName name l = sortByName name m := by
  apply List.Perm.eq_of_pairwise _ (pairwise_sortByName name l) (pairwise_sortByName name m)
  · exact (sortByName_perm name l).trans (hperm.trans (sortByName_perm name m).symm)
  · intro a b ha hb hab hba
    have ha' : a ∈ l := (sortByName_perm name l).mem_iff.1 ha
    have hb' : b ∈ l := hperm.mem_iff.2 ((sortByName_perm name m).mem_iff.1 hb)
    exact hname a ha' b hb' (eq_of_byteLe hab hba)

/-- Two lists with the same names have them in the same order once they are sorted. -/
theorem map_sortByName_eq {β : Type} {name' : β → String} {l : List α} {m : List β}
    (h : l.map name = m.map name') :
    (sortByName name l).map name = (sortByName name' m).map name' := by
  apply List.Perm.eq_of_pairwise (fun a b _ _ => eq_of_byteLe)
    (List.pairwise_map.2 (pairwise_sortByName name l))
    (List.pairwise_map.2 (pairwise_sortByName name' m))
  have hsorted := (sortByName_perm name l).map name
  rw [h] at hsorted
  exact hsorted.trans ((sortByName_perm name' m).map name').symm

end MeshRegistry.Discovery
