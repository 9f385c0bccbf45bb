import FacetSearch.Proofs.Index.Filtering

/-!
# The index of two corpora together

Whether an entry is selected, and which hit it makes, are statements about that entry
alone (`Holds.mem_select_iff`, `Holds.mem_retrieve_iff_exists`), although an index works
with all ids and whole postings.  If two corpora can be indexed together, their index
therefore selects and finds what the index of the one and the index of the other do.

No id occurs in both corpora, since the index of both would have been refused.  So the
selections have no id in common, and no hit is found twice.
-/

namespace FacetSearch.Index

open Std (ExtTreeSet LawfulEqOrd TransOrd)

variable {Id Tag R : Type} [Ord Id] [TransOrd Id] [LawfulEqOrd Id] [Ord Tag] [TransOrd Tag]
  [Scalar R] {first second : List (Entry Id Tag R)} {index left right : Index Id Tag R}

/-! ## Parts of a corpus -/

/-- Some of the entries that have an index have one of their own. -/
theorem exists_ofEntries?_of_sublist {part entries : List (Entry Id Tag R)}
    (hbuilt : ofEntries? entries = .ok index) (hpart : part.Sublist entries) :
    ∃ alone, ofEntries? part = .ok alone := by
  obtain ⟨hvalid, hdifferent⟩ := exists_ofEntries?_iff.mp ⟨index, hbuilt⟩
  refine exists_ofEntries?_iff.mpr ⟨?_, hdifferent.sublist (hpart.map Entry.id)⟩
  intro entry hentry
  exact hvalid entry (hpart.subset hentry)

/-- Two corpora with a common index have no id in common. -/
theorem id_ne_of_ofEntries?_append (hbuilt : ofEntries? (first ++ second) = .ok index)
    {entry other : Entry Id Tag R} (hentry : entry ∈ first) (hother : other ∈ second) :
    entry.id ≠ other.id := by
  obtain ⟨-, hdifferent⟩ := exists_ofEntries?_iff.mp ⟨index, hbuilt⟩
  rw [List.map_append, List.nodup_append] at hdifferent
  exact hdifferent.2.2 _ (List.mem_map_of_mem hentry) _ (List.mem_map_of_mem hother)

/-! ## Selections and hits -/

namespace Holds

omit [Scalar R] in
theorem mem_select_append_iff (hindex : index.Holds (first ++ second)) (hleft : left.Holds first)
    (hright : right.Holds second) {form : NormalForm Tag} {id : Id} :
    id ∈ index.select form ↔ id ∈ left.select form ∨ id ∈ right.select form := by
  rw [hindex.mem_select_iff, hleft.mem_select_iff, hright.mem_select_iff]
  simp only [List.mem_append, or_and_right, exists_or]

variable {form : NormalForm Tag} {tokens : List String} {options : ScoringOptions R}

theorem mem_retrieve_append_iff (hindex : index.Holds (first ++ second))
    (hleft : left.Holds first) (hright : right.Holds second) {hit : Hit Id R} :
    hit ∈ index.retrieve form tokens options ↔
      hit ∈ left.retrieve form tokens options ∨ hit ∈ right.retrieve form tokens options := by
  rw [hindex.mem_retrieve_iff_exists, hleft.mem_retrieve_iff_exists,
    hright.mem_retrieve_iff_exists]
  simp only [List.mem_append, or_and_right, exists_or]

omit [Scalar R] in
/-- Whether an entry is selected is the same in every index that holds it. -/
theorem id_mem_select_congr {entries others : List (Entry Id Tag R)} (hleft : left.Holds entries)
    (hright : right.Holds others) {entry : Entry Id Tag R} (hentry : entry ∈ entries)
    (hother : entry ∈ others) : entry.id ∈ left.select form ↔ entry.id ∈ right.select form := by
  rw [hleft.id_mem_select_iff hentry, hright.id_mem_select_iff hother]

/-- The hit that an entry makes is the same in every index that holds it. -/
theorem mem_retrieve_congr {entries others : List (Entry Id Tag R)} (hleft : left.Holds entries)
    (hright : right.Holds others) {entry : Entry Id Tag R} (hentry : entry ∈ entries)
    (hother : entry ∈ others) {hit : Hit Id R} (hid : hit.id = entry.id) :
    hit ∈ left.retrieve form tokens options ↔ hit ∈ right.retrieve form tokens options := by
  rw [mem_retrieve_iff, mem_retrieve_iff, hit?_eq_some_iff, hit?_eq_some_iff, hid,
    hleft.id_mem_select_congr hright hentry hother, hleft.entry?_id hentry,
    hright.entry?_id hother]

end Holds

variable {form : NormalForm Tag} {tokens : List String} {options : ScoringOptions R}

theorem not_mem_select_both (hbuilt : ofEntries? (first ++ second) = .ok index)
    (hleft : left.Holds first) (hright : right.Holds second) {id : Id} :
    ¬(id ∈ left.select form ∧ id ∈ right.select form) := by
  intro hboth
  obtain ⟨entry, hentry, hid, -⟩ := hleft.mem_select_iff.mp hboth.1
  obtain ⟨other, hother, hid', -⟩ := hright.mem_select_iff.mp hboth.2
  exact id_ne_of_ofEntries?_append hbuilt hentry hother (hid.trans hid'.symm)

variable [LawfulEqOrd Tag]

/-- The hits of two corpora together are those of the one and those of the other. -/
theorem retrieve_append_perm (hbuilt : ofEntries? (first ++ second) = .ok index)
    (hleft : left.Holds first) (hright : right.Holds second) :
    (index.retrieve form tokens options).Perm
      (left.retrieve form tokens options ++ right.retrieve form tokens options) := by
  have hnodup :
      (left.retrieve form tokens options ++ right.retrieve form tokens options).Nodup := by
    refine nodup_retrieve.append nodup_retrieve fun hit hhit hhit' => ?_
    have hselected : hit.id ∈ left.select form := (mem_retrieve_iff.mp hhit).1
    have hselected' : hit.id ∈ right.select form := (mem_retrieve_iff.mp hhit').1
    exact not_mem_select_both hbuilt hleft hright ⟨hselected, hselected'⟩
  refine (List.perm_ext_iff_of_nodup nodup_retrieve hnodup).mpr fun hit => ?_
  rw [List.mem_append, (holds_of_ofEntries? hbuilt).mem_retrieve_append_iff hleft hright]

/-- **Corpora compose.**  If two corpora can be indexed together, each of them has an index,
and every formula selects in the common index what it selects in the one and, without
overlap, in the other.  The hits of a search are those of the two searches together.
What becomes of an entry is the same as in an index of its own. -/
theorem select_append_and_retrieve_append (hbuilt : ofEntries? (first ++ second) = .ok index) :
    ∃ left right, ofEntries? first = .ok left ∧ ofEntries? second = .ok right ∧
      (∀ form, index.select form = left.select form ∪ right.select form ∧
        ∀ id, ¬(id ∈ left.select form ∧ id ∈ right.select form)) ∧
      (∀ form tokens options, (index.retrieve form tokens options).Perm
        (left.retrieve form tokens options ++ right.retrieve form tokens options)) ∧
      ∀ entry ∈ first ++ second, ∃ alone, ofEntries? [entry] = .ok alone ∧
        (∀ form, entry.id ∈ index.select form ↔ entry.id ∈ alone.select form) ∧
        ∀ form tokens options (hit : Hit Id R), hit.id = entry.id →
          (hit ∈ index.retrieve form tokens options ↔
            hit ∈ alone.retrieve form tokens options) := by
  obtain ⟨left, hleft⟩ :=
    exists_ofEntries?_of_sublist hbuilt (List.sublist_append_left first second)
  obtain ⟨right, hright⟩ :=
    exists_ofEntries?_of_sublist hbuilt (List.sublist_append_right first second)
  have hholds := holds_of_ofEntries? hbuilt
  have hholdsLeft := holds_of_ofEntries? hleft
  have hholdsRight := holds_of_ofEntries? hright
  refine ⟨left, right, hleft, hright, ?select, ?retrieve, ?alone⟩
  case select =>
    intro form
    refine ⟨ExtTreeSet.ext_mem fun id => ?_, fun id =>
      not_mem_select_both hbuilt hholdsLeft hholdsRight⟩
    rw [ExtTreeSet.mem_union_iff, hholds.mem_select_append_iff hholdsLeft hholdsRight]
  case retrieve =>
    intro form tokens options
    exact retrieve_append_perm hbuilt hholdsLeft hholdsRight
  case alone =>
    intro entry hentry
    obtain ⟨alone, halone⟩ :=
      exists_ofEntries?_of_sublist hbuilt (List.singleton_sublist.mpr hentry)
    have hholdsAlone := holds_of_ofEntries? halone
    have hself : entry ∈ [entry] := List.mem_singleton.mpr rfl
    refine ⟨alone, halone, fun form => ?_, fun form tokens options hit hid => ?_⟩
    · exact hholds.id_mem_select_congr hholdsAlone hentry hself
    · exact hholds.mem_retrieve_congr hholdsAlone hentry hself hid

/-- The sample corpus in two parts.  No model of the first part has both tags of the
disjunction, so that every one of them is selected, and one of the second part has. -/
theorem select_append_and_retrieve_append_sample :
    ∃ index left right : Index String String Float, ofEntries? Catalogue.sample = .ok index ∧
      ofEntries? (Catalogue.sample.take 2) = .ok left ∧
      ofEntries? (Catalogue.sample.drop 2) = .ok right ∧
      ∃ form : NormalForm String,
        form = .join .any [.literal ⟨"scale:2", false⟩, .literal ⟨"anime", false⟩,
          .group [.literal ⟨"manga", true⟩, .literal ⟨"jpeg", false⟩]] ∧
        index.select form = left.select form ∪ right.select form ∧
        (∀ id, ¬(id ∈ left.select form ∧ id ∈ right.select form)) ∧
        (index.retrieve form ["4", "x"] .standard).Perm
          (left.retrieve form ["4", "x"] .standard ++
            right.retrieve form ["4", "x"] .standard) := by
  obtain ⟨index, hbuilt⟩ := exists_ofEntries?_sample
  have hparts : ofEntries? (Catalogue.sample.take 2 ++ Catalogue.sample.drop 2) = .ok index := by
    rw [List.take_append_drop]
    exact hbuilt
  obtain ⟨left, right, hleft, hright, hselect, hretrieve, -⟩ :=
    select_append_and_retrieve_append hparts
  exact ⟨index, left, right, hbuilt, hleft, hright, _, rfl, (hselect _).1, (hselect _).2,
    hretrieve _ _ _⟩

end FacetSearch.Index
