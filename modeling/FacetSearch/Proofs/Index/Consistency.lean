import FacetSearch.Index.Consistency
import FacetSearch.Proofs.Index.Construction

/-!
# The postings of an index agree with its entries

The test of postings passes exactly if each of them has ids of entries only, and each
entry is in the postings of all of its tags (`checkPostings_eq_ok_iff`).  In an index
that holds some entries a posting has precisely the ids of those that carry its tag, so
the test always passes and building an index with it comes to the same as building it
without (`Index.ofEntriesChecked?_eq`).
-/

namespace FacetSearch

open Std (ExtDTreeMap ExtTreeMap ExtTreeSet LawfulEqOrd TransOrd)

/-! ## Looking for a member -/

/-- A loop that is left at the first hit finds one if there is one. -/
theorem run_forIn_eq_any {α : Type} (p : α → Bool) (items : List α) :
    (Id.run do
      for item in items do
        if p item then return true
      return false) = items.any p := by
  induction items with
  | nil => rfl
  | cons item rest ih =>
      by_cases hitem : p item
      · simp [hitem]
      · simpa [hitem] using ih

section Any

variable {α β : Type} [Ord α] [TransOrd α] [LawfulEqOrd α]

theorem setAny_iff {set : ExtTreeSet α} {p : α → Bool} :
    set.any p ↔ ∃ member ∈ set, p member := by
  have hloop : set.any p = Id.run do
      for member in set do
        if p member then return true
      return false := by
    obtain ⟨⟨inner⟩⟩ := set
    induction inner using ExtDTreeMap.inductionOn
    rfl
  rw [hloop, ExtTreeSet.forIn_eq_forIn_toList, run_forIn_eq_any, List.any_eq_true]
  simp only [ExtTreeSet.mem_toList]

theorem mapAny_iff {map : ExtTreeMap α β} {p : α → β → Bool} :
    map.any p ↔ ∃ (key : α) (value : β), map[key]? = some value ∧ p key value := by
  have hloop : map.any p = Id.run do
      for item in map do
        if p item.1 item.2 then return true
      return false := by
    obtain ⟨inner⟩ := map
    induction inner using ExtDTreeMap.inductionOn
    rfl
  rw [hloop, ExtTreeMap.forIn_eq_forIn_toList,
    run_forIn_eq_any fun item : α × β => p item.1 item.2, List.any_eq_true]
  simp only [Prod.exists, ExtTreeMap.mem_toList_iff_getElem?_eq_some]

end Any

/-! ## What the test finds -/

variable {Id Tag R : Type} [Ord Id] [TransOrd Id] [LawfulEqOrd Id] [Ord Tag] [TransOrd Tag]
  [LawfulEqOrd Tag]

theorem checkPostings_eq_ok_iff {ids : ExtTreeSet Id} {postings : ExtTreeMap Tag (ExtTreeSet Id)}
    {entries : List (Id × ExtTreeSet Tag)} :
    checkPostings ids postings entries = .ok () ↔
      (∀ (tag : Tag) (posting : ExtTreeSet Id), postings[tag]? = some posting →
        ∀ id ∈ posting, id ∈ ids) ∧
        ∀ entry ∈ entries, ∀ tag ∈ entry.2, entry.1 ∈ postings.getD tag ∅ := by
  have hstray : (postings.any fun _ posting => posting.any fun id => !ids.contains id) ↔
      ∃ (tag : Tag) (posting : ExtTreeSet Id), postings[tag]? = some posting ∧
        ∃ id ∈ posting, id ∉ ids := by
    simp only [mapAny_iff, setAny_iff, Bool.not_eq_true', ← Bool.not_eq_true,
      ExtTreeSet.contains_iff_mem]
  have hmissing : (entries.any fun entry => entry.2.any fun tag =>
      !(postings.getD tag ∅).contains entry.1) ↔
        ∃ entry ∈ entries, ∃ tag ∈ entry.2, entry.1 ∉ postings.getD tag ∅ := by
    simp only [List.any_eq_true, setAny_iff, Bool.not_eq_true', ← Bool.not_eq_true,
      ExtTreeSet.contains_iff_mem]
  rw [checkPostings]
  split
  case isTrue hfault =>
    obtain ⟨tag, posting, hposting, id, hid, hstrayId⟩ := hstray.mp hfault
    simp only [reduceCtorEq, false_iff, not_and]
    exact fun hids => absurd (hids tag posting hposting id hid) hstrayId
  case isFalse hsound =>
    rw [hstray] at hsound
    push Not at hsound
    split
    case isTrue hfault =>
      obtain ⟨entry, hentry, tag, htag, hmissingEntry⟩ := hmissing.mp hfault
      simp only [reduceCtorEq, false_iff, not_and]
      exact fun _ hall => hmissingEntry (hall entry hentry tag htag)
    case isFalse hcomplete =>
      have hnone := mt hmissing.mpr hcomplete
      push Not at hnone
      exact iff_of_true rfl ⟨hsound, hnone⟩

namespace Index

theorem Holds.checkPostings_eq_ok {index : Index Id Tag R} {entries : List (Entry Id Tag R)}
    (hholds : index.Holds entries) : index.checkPostings = .ok () := by
  rw [checkPostings, checkPostings_eq_ok_iff, List.forall_mem_map]
  constructor
  · intro tag posting hposting id hid
    have hmember : id ∈ index.posting tag := by
      rwa [Index.posting, posting?, hposting, Option.getD_some]
    exact hholds.mem_ids_of_mem_posting hmember
  · intro entry hentry tag htag
    rw [hholds.mem_entryList_iff] at hentry
    rw [ExtTreeMap.getD_eq_getD_getElem?]
    exact (hholds.id_mem_posting_iff hentry).mpr htag

/-- No index is turned down for its postings. -/
theorem ofEntriesChecked?_eq [Scalar R] (entries : List (Entry Id Tag R)) :
    ofEntriesChecked? entries = (ofEntries? entries).mapError .refused := by
  rw [ofEntriesChecked?]
  cases hbuilt : ofEntries? entries with
  | error reason => rfl
  | ok index =>
      have hchecked := (holds_of_ofEntries? hbuilt).checkPostings_eq_ok
      simp only [hchecked]
      rfl

end Index

end FacetSearch
