import FacetSearch.Catalogue.Sample
import FacetSearch.Index.Basic
import Mathlib.Data.List.Basic
import Mathlib.Tactic.Tauto

/-!
# What an index holds

`Index.Holds` says that an index is exact for a list of entries: an entry is found
under its id if and only if it is one of them, the ids are theirs, and a posting
has the ids of precisely those that carry its tag.

The empty index holds no entries, and adding an entry whose id is new makes an
index hold that entry as well (`Holds.add`).  `Index.add?` adds an entry only if
its id is new, so by induction along the list (`ofEntries?_induction`) the index of a
list of entries holds that list (`holds_of_ofEntries?`).  A list has an index if its
weights are valid and its ids different (`ofEntries?_eq_ok_iff`).
-/

namespace FacetSearch.Index

open Std (ExtTreeMap ExtTreeSet LawfulEqOrd TransOrd)

variable {Id Tag R : Type} [Ord Id] [TransOrd Id] [Ord Tag] [TransOrd Tag]

/-- An index is exact for a list of entries. -/
structure Holds (index : Index Id Tag R) (entries : List (Entry Id Tag R)) : Prop where
  /-- Each of the entries is found under its id, and no others are. -/
  entry?_eq_some_iff : ∀ {id : Id} {entry : Entry Id Tag R},
    index.entry? id = some entry ↔ entry ∈ entries ∧ entry.id = id
  /-- The ids are those of the entries. -/
  mem_ids_iff : ∀ {id : Id}, id ∈ index.ids ↔ ∃ entry ∈ entries, entry.id = id
  /-- A posting has the ids of the entries that carry its tag. -/
  mem_posting_iff : ∀ {tag : Tag} {id : Id},
    id ∈ index.posting tag ↔ ∃ entry ∈ entries, entry.id = id ∧ tag ∈ entry.tags

/-! ## What adding an entry changes -/

section Add

theorem entry?_add (index : Index Id Tag R) (entry : Entry Id Tag R) (id : Id) :
    entry? (index.add entry) id =
      if compare entry.id id = .eq then some entry else index.entry? id := by
  simp [add, entry?, ExtTreeMap.getElem?_insert]

theorem size_add {index : Index Id Tag R} {entry : Entry Id Tag R}
    (hnew : entry.id ∉ index.entries) : (index.add entry).size = index.size + 1 := by
  rw [size, add, ExtTreeMap.size_insert, if_neg (mt ExtTreeMap.contains_iff_mem.mp hnew), size]

/-- The entries that can be added: those with valid weights and a new id. -/
theorem add?_eq_ok_iff [Scalar R] {index next : Index Id Tag R} {entry : Entry Id Tag R} :
    index.add? entry = .ok next ↔
      (∀ text ∈ entry.texts, text.HasValidWeight) ∧ entry.id ∉ index.entries ∧
        index.add entry = next := by
  unfold add?
  split
  case h_1 text hfind =>
    have hinvalid := List.find?_some hfind
    simp only [decide_eq_true_eq] at hinvalid
    simp only [reduceCtorEq, false_iff, not_and]
    exact fun hvalid => absurd (hvalid text (List.mem_of_find?_eq_some hfind)) hinvalid
  case h_2 hfind =>
    have hvalid : ∀ text ∈ entry.texts, text.HasValidWeight := by simpa using hfind
    by_cases hnew : entry.id ∈ index.entries
    · simp [hnew]
    · simpa [hnew] using fun _ => hvalid

/-- A run of additions goes through if its first one does and the others then do. -/
theorem foldlM_add?_cons [Scalar R] {index final : Index Id Tag R} {entry : Entry Id Tag R}
    {rest : List (Entry Id Tag R)} :
    (entry :: rest).foldlM add? index = .ok final ↔
      (∀ text ∈ entry.texts, text.HasValidWeight) ∧ entry.id ∉ index.entries ∧
        rest.foldlM add? (index.add entry) = .ok final := by
  rw [List.foldlM_cons]
  constructor
  · intro hrun
    cases hadded : index.add? entry with
    | error failure => rw [hadded] at hrun; cases hrun
    | ok next =>
        rw [hadded] at hrun
        obtain ⟨hvalid, hnew, rfl⟩ := add?_eq_ok_iff.mp hadded
        exact ⟨hvalid, hnew, hrun⟩
  · rintro ⟨hvalid, hnew, hrun⟩
    rw [add?_eq_ok_iff.mpr ⟨hvalid, hnew, rfl⟩]
    exact hrun

variable [LawfulEqOrd Id]

theorem mem_entries_add {index : Index Id Tag R} {entry : Entry Id Tag R} {id : Id} :
    id ∈ (index.add entry).entries ↔ entry.id = id ∨ id ∈ index.entries := by
  simp [add, ExtTreeMap.mem_insert]

theorem mem_ids_add {index : Index Id Tag R} {entry : Entry Id Tag R} {id : Id} :
    id ∈ (index.add entry).ids ↔ entry.id = id ∨ id ∈ index.ids := by
  simp [add]

variable [LawfulEqOrd Tag]

/-- Adding an id to the postings of some tags adds it to these and no others. -/
theorem mem_addPostings {postings : ExtTreeMap Tag (ExtTreeSet Id)} {newId id : Id}
    {tags : List Tag} {tag : Tag} :
    id ∈ (addPostings postings newId tags)[tag]?.getD ∅ ↔
      (newId = id ∧ tag ∈ tags) ∨ id ∈ postings[tag]?.getD ∅ := by
  unfold addPostings
  induction tags generalizing postings with
  | nil => simp
  | cons head rest ih =>
      rw [List.foldl_cons, ih, ExtTreeMap.getElem?_alter]
      by_cases hhead : head = tag
      · simp only [hhead, Std.ReflCmp.compare_self, if_true, Option.getD_some,
          ExtTreeSet.mem_insert, Std.compare_eq_iff_eq, List.mem_cons, true_or, and_true]
        tauto
      · simp [hhead, Ne.symm hhead]

theorem mem_posting_add {index : Index Id Tag R} {entry : Entry Id Tag R} {tag : Tag} {id : Id} :
    id ∈ (index.add entry).posting tag ↔
      (entry.id = id ∧ tag ∈ entry.tags) ∨ id ∈ index.posting tag := by
  simp only [posting, posting?, add, mem_addPostings, ExtTreeSet.mem_toList]

omit [LawfulEqOrd Id] in
/-- A tag has no posting if it had none before and is not one of those that get one. -/
theorem addPostings_eq_none_iff {postings : ExtTreeMap Tag (ExtTreeSet Id)} {newId : Id}
    {tags : List Tag} {tag : Tag} :
    (addPostings postings newId tags)[tag]? = none ↔ postings[tag]? = none ∧ tag ∉ tags := by
  unfold addPostings
  induction tags generalizing postings with
  | nil => simp
  | cons head rest ih =>
      rw [List.foldl_cons, ih, ExtTreeMap.getElem?_alter]
      by_cases hhead : head = tag
      · simp [hhead]
      · simp [hhead, Ne.symm hhead]

omit [LawfulEqOrd Id] in
theorem posting?_add_eq_none_iff {index : Index Id Tag R} {entry : Entry Id Tag R} {tag : Tag} :
    (index.add entry).posting? tag = none ↔ index.posting? tag = none ∧ tag ∉ entry.tags := by
  rw [posting?, add, addPostings_eq_none_iff, ExtTreeSet.mem_toList, posting?]

end Add

/-- A property of an index and its entries that a single addition keeps is kept by a run
of additions that goes through. -/
theorem foldlM_add?_induction [Scalar R] {motive : Index Id Tag R → List (Entry Id Tag R) → Prop}
    (hadd : ∀ index entries entry, motive index entries → entry.id ∉ index.entries →
      motive (index.add entry) (entries ++ [entry]))
    {index final : Index Id Tag R} {entries more : List (Entry Id Tag R)}
    (hstart : motive index entries) (hrun : more.foldlM add? index = .ok final) :
    motive final (entries ++ more) := by
  induction more generalizing index entries with
  | nil =>
      cases hrun
      simpa using hstart
  | cons entry rest ih =>
      obtain ⟨-, hnew, hrest⟩ := foldlM_add?_cons.mp hrun
      simpa using ih (hadd index entries entry hstart hnew) hrest

/-- Induction along the construction of an index: what holds of the empty index, and is
kept whenever an entry with a new id is added, holds of the index of any entries. -/
theorem ofEntries?_induction [Scalar R] {motive : Index Id Tag R → List (Entry Id Tag R) → Prop}
    (hempty : motive empty [])
    (hadd : ∀ index entries entry, motive index entries → entry.id ∉ index.entries →
      motive (index.add entry) (entries ++ [entry]))
    {entries : List (Entry Id Tag R)} {index : Index Id Tag R}
    (hbuilt : ofEntries? entries = .ok index) : motive index entries :=
  foldlM_add?_induction hadd hempty hbuilt

/-! ## Exactness -/

theorem holds_empty : (empty : Index Id Tag R).Holds [] where
  entry?_eq_some_iff := by simp [empty, entry?]
  mem_ids_iff := by simp [empty, ExtTreeSet.not_mem_empty]
  mem_posting_iff := by simp [posting, posting?, empty, ExtTreeSet.not_mem_empty]

namespace Holds

variable {index : Index Id Tag R} {entries : List (Entry Id Tag R)}

theorem entry?_id (hholds : index.Holds entries) {entry : Entry Id Tag R}
    (hentry : entry ∈ entries) : index.entry? entry.id = some entry :=
  hholds.entry?_eq_some_iff.mpr ⟨hentry, rfl⟩

theorem id_mem_ids (hholds : index.Holds entries) {entry : Entry Id Tag R}
    (hentry : entry ∈ entries) : entry.id ∈ index.ids :=
  hholds.mem_ids_iff.mpr ⟨entry, hentry, rfl⟩

/-- Different entries have different ids. -/
theorem eq_of_id_eq (hholds : index.Holds entries) {entry other : Entry Id Tag R}
    (hentry : entry ∈ entries) (hother : other ∈ entries) (hid : entry.id = other.id) :
    entry = other := by
  have hfound := hholds.entry?_id hentry
  rw [hid, hholds.entry?_id hother] at hfound
  exact (Option.some.inj hfound).symm

theorem id_mem_posting_iff (hholds : index.Holds entries) {entry : Entry Id Tag R}
    (hentry : entry ∈ entries) {tag : Tag} :
    entry.id ∈ index.posting tag ↔ tag ∈ entry.tags := by
  rw [hholds.mem_posting_iff]
  constructor
  · rintro ⟨other, hother, hid, htag⟩
    exact hholds.eq_of_id_eq hother hentry hid ▸ htag
  · intro htag
    exact ⟨entry, hentry, rfl, htag⟩

theorem mem_ids_of_mem_posting (hholds : index.Holds entries) {tag : Tag} {id : Id}
    (hid : id ∈ index.posting tag) : id ∈ index.ids := by
  obtain ⟨entry, hentry, heq, -⟩ := hholds.mem_posting_iff.mp hid
  exact hholds.mem_ids_iff.mpr ⟨entry, hentry, heq⟩

theorem mem_entryList_iff [LawfulEqOrd Id] (hholds : index.Holds entries) {entry : Entry Id Tag R} :
    entry ∈ index.entryList ↔ entry ∈ entries := by
  rw [entryList, List.mem_map]
  constructor
  · rintro ⟨⟨id, found⟩, hfound, rfl⟩
    rw [ExtTreeMap.mem_toList_iff_getElem?_eq_some] at hfound
    exact (hholds.entry?_eq_some_iff.mp hfound).1
  · intro hentry
    refine ⟨(entry.id, entry), ?_, rfl⟩
    rw [ExtTreeMap.mem_toList_iff_getElem?_eq_some]
    exact hholds.entry?_id hentry

/-- An index that gets an entry with a new id holds that entry as well. -/
theorem add [LawfulEqOrd Id] [LawfulEqOrd Tag] (hholds : index.Holds entries)
    {entry : Entry Id Tag R} (hnew : entry.id ∉ index.entries) :
    (index.add entry).Holds (entries ++ [entry]) where
  entry?_eq_some_iff := by
    intro id found
    rw [List.mem_append, List.mem_singleton, entry?_add]
    -- nothing was found under the new id before
    have hnone : index.entry? entry.id = none := by
      rw [← Option.not_isSome_iff_eq_none, entry?]
      exact fun hsome => hnew (ExtTreeMap.mem_iff_isSome_getElem?.mpr hsome)
    split
    case isTrue hid =>
      rw [Std.compare_eq_iff_eq] at hid
      subst hid
      have hother : ¬(found ∈ entries ∧ found.id = entry.id) := by
        rw [← hholds.entry?_eq_some_iff, hnone]
        exact nofun
      rw [Option.some.injEq]
      constructor
      · rintro rfl
        exact ⟨Or.inr rfl, rfl⟩
      · rintro ⟨hfound | hfound, hid⟩
        · exact absurd ⟨hfound, hid⟩ hother
        · exact hfound.symm
    case isFalse hid =>
      rw [Std.compare_eq_iff_eq] at hid
      rw [hholds.entry?_eq_some_iff]
      constructor
      · exact fun ⟨hfound, heq⟩ => ⟨Or.inl hfound, heq⟩
      · rintro ⟨hfound | rfl, heq⟩
        · exact ⟨hfound, heq⟩
        · exact absurd heq hid
  mem_ids_iff := by
    intro id
    rw [mem_ids_add, hholds.mem_ids_iff]
    simp only [List.mem_append, List.mem_singleton, or_and_right, exists_or, exists_eq_left]
    exact or_comm
  mem_posting_iff := by
    intro tag id
    rw [mem_posting_add, hholds.mem_posting_iff]
    simp only [List.mem_append, List.mem_singleton, or_and_right, exists_or, exists_eq_left]
    exact or_comm

end Holds

/-- The index of a list of entries holds them. -/
theorem holds_of_ofEntries? [LawfulEqOrd Id] [LawfulEqOrd Tag] [Scalar R]
    {entries : List (Entry Id Tag R)} {index : Index Id Tag R}
    (hbuilt : ofEntries? entries = .ok index) : index.Holds entries :=
  ofEntries?_induction holds_empty (fun _ _ _ hholds hnew => hholds.add hnew) hbuilt

/-- No entry is lost or counted twice. -/
theorem size_of_ofEntries? [Scalar R] {entries : List (Entry Id Tag R)} {index : Index Id Tag R}
    (hbuilt : ofEntries? entries = .ok index) : index.size = entries.length := by
  apply ofEntries?_induction (motive := fun index entries => index.size = entries.length)
    ?hempty ?hadd hbuilt
  case hempty => simp [size, empty]
  case hadd =>
    intro index entries entry hsize hnew
    rw [size_add hnew, hsize, List.length_append, List.length_singleton]

/-- There is a posting only for the tags that entries carry. -/
theorem posting?_eq_none_iff [LawfulEqOrd Tag] [Scalar R] {entries : List (Entry Id Tag R)}
    {index : Index Id Tag R} (hbuilt : ofEntries? entries = .ok index) {tag : Tag} :
    index.posting? tag = none ↔ ∀ entry ∈ entries, tag ∉ entry.tags := by
  apply ofEntries?_induction (motive := fun index entries =>
    index.posting? tag = none ↔ ∀ entry ∈ entries, tag ∉ entry.tags) ?hempty ?hadd hbuilt
  case hempty => simp [posting?, empty]
  case hadd =>
    intro index entries entry hnone _
    rw [posting?_add_eq_none_iff, hnone, List.forall_mem_append, List.forall_mem_singleton]

/-! ## What can be indexed -/

/-- A run of additions goes through if all weights are valid and the ids are different,
both from each other and from those in the index before. -/
theorem foldlM_add?_eq_ok_iff [LawfulEqOrd Id] [Scalar R] {index final : Index Id Tag R}
    {more : List (Entry Id Tag R)} :
    more.foldlM add? index = .ok final ↔
      (∀ entry ∈ more, ∀ text ∈ entry.texts, text.HasValidWeight) ∧
        (∀ entry ∈ more, entry.id ∉ index.entries) ∧ (more.map Entry.id).Nodup ∧
          more.foldl add index = final := by
  induction more generalizing index with
  | nil => simp [pure, Except.pure]
  | cons entry rest ih =>
      -- the ids after the first one are new if they are so before it and differ from it
      have hnew : (∀ other ∈ rest, other.id ∉ (index.add entry).entries) ↔
          (∀ other ∈ rest, other.id ∉ index.entries) ∧ entry.id ∉ rest.map Entry.id := by
        simp only [mem_entries_add, not_or, List.mem_map, not_exists, not_and]
        constructor
        · exact fun hall => ⟨fun other hother => (hall other hother).2,
            fun other hother heq => (hall other hother).1 heq.symm⟩
        · exact fun ⟨hold, hdifferent⟩ other hother =>
            ⟨fun heq => hdifferent other hother heq.symm, hold other hother⟩
      rw [foldlM_add?_cons, ih, hnew, List.forall_mem_cons, List.forall_mem_cons, List.map_cons,
        List.nodup_cons, List.foldl_cons]
      tauto

/-- The lists of entries that have an index: those with valid weights and different
ids. -/
theorem ofEntries?_eq_ok_iff [LawfulEqOrd Id] [Scalar R] {entries : List (Entry Id Tag R)}
    {index : Index Id Tag R} :
    ofEntries? entries = .ok index ↔
      (∀ entry ∈ entries, ∀ text ∈ entry.texts, text.HasValidWeight) ∧
        (entries.map Entry.id).Nodup ∧ entries.foldl add empty = index := by
  have hnone : ∀ entry ∈ entries, entry.id ∉ (empty : Index Id Tag R).entries := by
    intro entry _
    simp [empty]
  rw [ofEntries?, foldlM_add?_eq_ok_iff, and_iff_right hnone]

theorem exists_ofEntries?_iff [LawfulEqOrd Id] [Scalar R] {entries : List (Entry Id Tag R)} :
    (∃ index, ofEntries? entries = .ok index) ↔
      (∀ entry ∈ entries, ∀ text ∈ entry.texts, text.HasValidWeight) ∧
        (entries.map Entry.id).Nodup := by
  simp only [ofEntries?_eq_ok_iff, exists_and_left, exists_eq', and_true]

/-- The sample corpus can be indexed. -/
theorem exists_ofEntries?_sample :
    ∃ index, ofEntries? (Catalogue.sample : List (Entry String String Float)) = .ok index :=
  ⟨_, rfl⟩

end FacetSearch.Index
