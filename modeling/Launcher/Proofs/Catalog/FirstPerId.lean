import Launcher.Catalog.Load
import Launcher.Search.Index

/-!
# The first entry of each id

`Catalog.firstPerId` walks along entries with the ids seen so far. It keeps entries with distinct
new ids, and a walk along such entries keeps them all, so walking twice is walking once:

> `firstPerId_distinct` what is kept has distinct ids that were not seen
> `firstPerId_append_distinct` distinct entries in front are kept, and count as seen behind them
> `firstPerId_twice` a second walk with more ids seen keeps what one walk with those would keep, and
> the warnings of both walks are the warnings of that one

A catalog without repeated ids is what an index is built of (`Index.build_of_nodup`).
-/

namespace Launcher

namespace Catalog

variable {seen known : List Text}

/-- What is kept has distinct ids, and none of them was seen before. -/
theorem firstPerId_distinct (seen : List Text) (entries : List Entry) :
    ((firstPerId seen entries).1.map Entry.id).Nodup ∧
      ∀ entry ∈ (firstPerId seen entries).1, entry.id ∉ seen := by
  induction entries generalizing seen with
  | nil => exact ⟨List.nodup_nil, nofun⟩
  | cons entry rest ih =>
    rw [firstPerId]
    split
    · exact ih seen
    · next hnew =>
      obtain ⟨hnodup, hfresh⟩ := ih (entry.id :: seen)
      refine ⟨List.nodup_cons.mpr ⟨fun hmem => ?_, hnodup⟩, List.forall_mem_cons.mpr ⟨hnew, ?_⟩⟩
      · obtain ⟨other, hother, hid⟩ := List.mem_map.mp hmem
        exact hfresh other hother (hid ▸ List.mem_cons_self)
      · exact fun other hother hseen => hfresh other hother (List.mem_cons_of_mem _ hseen)

/-- Entries with distinct new ids are kept, and their ids are seen by those behind them. -/
theorem firstPerId_append_distinct {first : List Entry} (hnodup : (first.map Entry.id).Nodup)
    (hnew : ∀ entry ∈ first, entry.id ∉ seen) (second : List Entry) :
    firstPerId seen (first ++ second)
      = (first ++ (firstPerId ((first.map Entry.id).reverse ++ seen) second).1,
          (firstPerId ((first.map Entry.id).reverse ++ seen) second).2) := by
  induction first generalizing seen with
  | nil => rfl
  | cons entry rest ih =>
    obtain ⟨hentry, hrest⟩ := List.forall_mem_cons.mp hnew
    obtain ⟨hapart, hnodup⟩ := List.nodup_cons.mp hnodup
    have hnext : ∀ other ∈ rest, other.id ∉ entry.id :: seen := fun other hother hmem => by
      rcases List.mem_cons.mp hmem with heq | hmem
      · exact hapart (heq ▸ List.mem_map_of_mem hother)
      · exact hrest other hother hmem
    rw [List.cons_append, firstPerId, if_neg hentry, ih hnodup hnext]
    simp only [List.map_cons, List.reverse_cons, List.append_assoc, List.cons_append,
      List.nil_append]

/-- A catalog with distinct ids stays as it is, and nothing is said about it. -/
theorem firstPerId_of_nodup {entries : List Entry} (h : (entries.map Entry.id).Nodup) :
    firstPerId [] entries = (entries, []) := by
  have happend := firstPerId_append_distinct h (fun _ _ => List.not_mem_nil) []
  rw [List.append_nil] at happend
  rw [happend, firstPerId, List.append_nil]

/-- Two walks, the second with more ids seen, are one walk with those. -/
theorem firstPerId_twice (hseen : ∀ id ∈ known, id ∈ seen) (entries : List Entry) :
    (firstPerId seen (firstPerId known entries).1).1 = (firstPerId seen entries).1 ∧
      ((firstPerId known entries).2 ++ (firstPerId seen (firstPerId known entries).1).2).Perm
        (firstPerId seen entries).2 := by
  induction entries generalizing seen known with
  | nil => exact ⟨rfl, List.Perm.refl _⟩
  | cons entry rest ih =>
    have hnext : ∀ id ∈ entry.id :: known, id ∈ entry.id :: seen := fun id hid => by
      rcases List.mem_cons.mp hid with rfl | hid
      · exact List.mem_cons_self
      · exact List.mem_cons_of_mem _ (hseen id hid)
    by_cases hknown : entry.id ∈ known
    · -- left out by the first walk
      obtain ⟨hkept, hperm⟩ := ih hseen
      simp only [firstPerId, if_pos hknown, if_pos (hseen _ hknown)]
      exact ⟨hkept, hperm.cons _⟩
    · by_cases hmore : entry.id ∈ seen
      · -- kept by the first walk and left out by the second
        obtain ⟨hkept, hperm⟩ := ih fun id hid => by
          rcases List.mem_cons.mp hid with rfl | hid
          · exact hmore
          · exact hseen id hid
        simp only [firstPerId, if_neg hknown, if_pos hmore]
        exact ⟨hkept, List.perm_middle.trans (hperm.cons _)⟩
      · obtain ⟨hkept, hperm⟩ := ih hnext
        simp only [firstPerId, if_neg hknown, if_neg hmore]
        exact ⟨by rw [hkept], hperm⟩

end Catalog

/-- Where all ids are distinct and new, none is repeated. -/
theorem firstRepeated?_eq_none_of_nodup {seen ids : List Text} (hnodup : ids.Nodup)
    (hnew : ∀ id ∈ ids, id ∉ seen) : firstRepeated? seen ids = none := by
  induction ids generalizing seen with
  | nil => rfl
  | cons id rest ih =>
    obtain ⟨hapart, hnodup⟩ := List.nodup_cons.mp hnodup
    obtain ⟨hid, hrest⟩ := List.forall_mem_cons.mp hnew
    rw [firstRepeated?, if_neg hid]
    refine ih hnodup fun other hother hmem => ?_
    rcases List.mem_cons.mp hmem with rfl | hmem
    · exact hapart hother
    · exact hrest other hother hmem

/-- A catalog with distinct ids can be made an index. -/
theorem Index.build_of_nodup (weights : Weights Value) {entries : List Entry}
    (h : (entries.map Entry.id).Nodup) :
    Index.build weights entries = .ok (.ofDistinct weights entries h) := by
  have hnone := firstRepeated?_eq_none_of_nodup h fun _ _ => List.not_mem_nil
  unfold build
  split
  · next id hid => rw [hnone] at hid; cases hid
  · rfl

end Launcher
