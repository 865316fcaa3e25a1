import Mathlib.Data.List.Induction
import Mathlib.Data.List.Nodup

/-! First occurrences. A list without its repetitions has each member of the list once, in the
order in which they occur first. Main statement: `isFirstOccurrences_iff`, by which no other list
has them so. -/

namespace DbClient

variable {ι : Type} [DecidableEq ι]

/-- What is kept are the members of a list, each once, in the order of first occurrence. -/
structure IsFirstOccurrences (items kept : List ι) : Prop where
  mem_iff : ∀ item, item ∈ kept ↔ item ∈ items
  nodup : kept.Nodup
  inOrder : kept.Pairwise fun first second => items.idxOf first < items.idxOf second

theorem eraseDups_append_singleton (items : List ι) (item : ι) :
    (items ++ [item]).eraseDups =
      if item ∈ items then items.eraseDups else items.eraseDups ++ [item] := by
  rw [List.eraseDups_append]
  by_cases hItem : item ∈ items <;> simp [List.removeAll, hItem, List.eraseDups_cons]

theorem eraseDups_of_nodup {items : List ι} (h : items.Nodup) : items.eraseDups = items := by
  induction items using List.reverseRecOn with
  | nil => rfl
  | append_singleton items item ih =>
      obtain ⟨hItems, -, hApart⟩ := List.nodup_append.mp h
      have hFresh : item ∉ items := fun hMem => hApart item hMem item (List.mem_singleton_self _) rfl
      rw [eraseDups_append_singleton, if_neg hFresh, ih hItems]

/-- Members of the front of a list occur there first. -/
theorem pairwise_idxOf_append {items kept : List ι} (hKept : ∀ item ∈ kept, item ∈ items)
    (hOrder : kept.Pairwise fun first second => items.idxOf first < items.idxOf second)
    (more : List ι) : kept.Pairwise fun first second =>
      (items ++ more).idxOf first < (items ++ more).idxOf second := by
  refine hOrder.imp_of_mem fun {first second} hFirst hSecond hLt => ?_
  rwa [List.idxOf_append_of_mem (hKept first hFirst), List.idxOf_append_of_mem (hKept second hSecond)]

/-- Items are kept in the order in which they occur first. -/
theorem pairwise_idxOf_eraseDups (items : List ι) : items.eraseDups.Pairwise
    fun first second => items.idxOf first < items.idxOf second := by
  induction items using List.reverseRecOn with
  | nil => exact .nil
  | append_singleton items item ih =>
      have hFront := pairwise_idxOf_append (fun _ => List.mem_eraseDups.mp) ih [item]
      rw [eraseDups_append_singleton]
      split
      · exact hFront
      · rename_i hFresh
        refine List.pairwise_append.mpr ⟨hFront, List.pairwise_singleton _ _, ?_⟩
        intro first hFirst second hSecond
        obtain rfl := List.mem_singleton.mp hSecond
        have hMem := List.mem_eraseDups.mp hFirst
        have hLt := List.idxOf_lt_length_of_mem hMem
        rw [List.idxOf_append_of_mem hMem, List.idxOf_append_of_notMem hFresh]
        omega

theorem isFirstOccurrences_eraseDups (items : List ι) :
    IsFirstOccurrences items items.eraseDups where
  mem_iff _ := List.mem_eraseDups
  nodup := (pairwise_idxOf_eraseDups items).imp fun hLt hEq => by simp [hEq] at hLt
  inOrder := pairwise_idxOf_eraseDups items

/-- Only one list has the members of a list in the order of first occurrence. -/
theorem isFirstOccurrences_iff {items kept : List ι} :
    IsFirstOccurrences items kept ↔ kept = items.eraseDups := by
  refine ⟨fun hKept => ?_, fun hEq => hEq ▸ isFirstOccurrences_eraseDups items⟩
  have hErased := isFirstOccurrences_eraseDups items
  have hPerm : kept.Perm items.eraseDups :=
    (List.perm_ext_iff_of_nodup hKept.nodup hErased.nodup).mpr
      fun item => (hKept.mem_iff item).trans (hErased.mem_iff item).symm
  refine hPerm.eq_of_pairwise (fun first second _ _ hLt hGt => ?_) hKept.inOrder hErased.inOrder
  omega

end DbClient
