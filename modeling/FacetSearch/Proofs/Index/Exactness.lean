import FacetSearch.Proofs.Index.Consistency

/-!
# The index of a list of entries is exact

Which lists of entries have an index, why the others are refused, and what an index holds
of its entries.

The entries are added one after another, so an index is refused by the first entry that
cannot be added to those before it (`exists_of_foldlM_eq_error`).  What is wrong with an entry
depends on the ids before it and on its own weights, and the weights are looked at first
(`Refuses`).

An index that is not refused is exact: it has as many entries as the list, finds each of
them under its id and no others, and has a posting for every tag that occurs, of
precisely those ids whose entries carry the tag.
-/

namespace FacetSearch

/-- A run of steps that fails goes through a first part of the items and fails at the
next one. -/
theorem exists_of_foldlM_eq_error {σ α ε : Type} {step : σ → α → Except ε σ} {items : List α}
    {start : σ} {failure : ε} (hrun : items.foldlM step start = .error failure) :
    ∃ before item after state, items = before ++ item :: after ∧
      before.foldlM step start = .ok state ∧ step state item = .error failure := by
  induction items generalizing start with
  | nil => cases hrun
  | cons first rest ih =>
      rw [List.foldlM_cons] at hrun
      cases hfirst : step start first with
      | error reason =>
          rw [hfirst] at hrun
          exact ⟨[], first, rest, start, rfl, rfl, hfirst.trans hrun⟩
      | ok next =>
          rw [hfirst] at hrun
          obtain ⟨before, item, after, state, hitems, hbefore, hstep⟩ := ih hrun
          refine ⟨first :: before, item, after, state, ?_, ?_, hstep⟩
          · rw [hitems, List.cons_append]
          · rw [List.foldlM_cons, hfirst]
            exact hbefore

theorem foldlM_append_cons_eq_error {σ α ε : Type} {step : σ → α → Except ε σ}
    {before after : List α} {item : α} {start state : σ} {failure : ε}
    (hbefore : before.foldlM step start = .ok state) (hstep : step state item = .error failure) :
    (before ++ item :: after).foldlM step start = .error failure := by
  have hitem : (item :: after).foldlM step state = .error failure := by
    rw [List.foldlM_cons, hstep]
    rfl
  rw [List.foldlM_append, hbefore]
  exact hitem

namespace Index

open Std (ExtTreeMap ExtTreeSet LawfulEqOrd TransOrd)

variable {Id Tag R : Type} [Ord Id] [TransOrd Id] [Ord Tag] [TransOrd Tag]

/-! ## Refused entries -/

/-- Whether entries can be indexed together: their weights are valid and their ids
different. -/
def Indexable [Scalar R] (entries : List (Entry Id Tag R)) : Prop :=
  (∀ entry ∈ entries, ∀ text ∈ entry.texts, text.HasValidWeight) ∧ (entries.map Entry.id).Nodup

/-- What is wrong with an entry that comes after some others.  Its first weight that is
not valid counts, and its id only if there is no such weight. -/
inductive Refuses [Scalar R] (earlier : List (Entry Id Tag R)) (entry : Entry Id Tag R) :
    IndexError Id R → Prop
  | invalidWeight (before after : List (WeightedText R)) (text : WeightedText R) :
      entry.texts = before ++ text :: after → (∀ other ∈ before, other.HasValidWeight) →
        ¬text.HasValidWeight → Refuses earlier entry (.invalidWeight entry.id text.weight)
  | duplicateId :
      (∀ text ∈ entry.texts, text.HasValidWeight) → (∃ other ∈ earlier, other.id = entry.id) →
        Refuses earlier entry (.duplicateId entry.id)

theorem Holds.mem_entries_iff {index : Index Id Tag R} {entries : List (Entry Id Tag R)}
    (hholds : index.Holds entries) {id : Id} :
    id ∈ index.entries ↔ ∃ entry ∈ entries, entry.id = id := by
  rw [ExtTreeMap.mem_iff_isSome_getElem?, Option.isSome_iff_exists]
  exact exists_congr fun entry => hholds.entry?_eq_some_iff

variable [Scalar R]

omit [TransOrd Id] [TransOrd Tag] [Ord Id] in
/-- The first text of an entry whose weight is not valid, as the search for one finds it. -/
theorem find?_invalid_eq_some_iff {texts : List (WeightedText R)} {text : WeightedText R} :
    texts.find? (fun text => decide ¬text.HasValidWeight) = some text ↔
      ∃ before after, texts = before ++ text :: after ∧
        (∀ other ∈ before, other.HasValidWeight) ∧ ¬text.HasValidWeight := by
  rw [List.find?_eq_some_iff_append]
  simp only [decide_eq_true_eq, Bool.not_eq_true', decide_eq_false_iff_not, not_not]
  constructor
  · intro hfind
    obtain ⟨hinvalid, before, after, htexts, hbefore⟩ := hfind
    exact ⟨before, after, htexts, hbefore, hinvalid⟩
  · intro hsplit
    obtain ⟨before, after, htexts, hbefore, hinvalid⟩ := hsplit
    exact ⟨hinvalid, before, after, htexts, hbefore⟩

/-- An index refuses an entry for what is wrong with it after the entries that it holds. -/
theorem Holds.add?_eq_error_iff {index : Index Id Tag R} {earlier : List (Entry Id Tag R)}
    (hholds : index.Holds earlier) {entry : Entry Id Tag R} {reason : IndexError Id R} :
    index.add? entry = .error reason ↔ Refuses earlier entry reason := by
  unfold add?
  split
  case h_1 text hfind =>
    obtain ⟨before, after, htexts, hbefore, hinvalid⟩ := find?_invalid_eq_some_iff.mp hfind
    constructor
    · intro hreason
      cases hreason
      exact .invalidWeight before after text htexts hbefore hinvalid
    · intro hrefuses
      cases hrefuses with
      | invalidWeight before' after' text' htexts' hbefore' hinvalid' =>
          -- there is only one first text whose weight is not valid
          have hfind' := find?_invalid_eq_some_iff.mpr ⟨_, _, htexts', hbefore', hinvalid'⟩
          rw [hfind, Option.some.injEq] at hfind'
          rw [hfind']
      | duplicateId hvalid =>
          have htext : text ∈ entry.texts := by simp [htexts]
          exact absurd (hvalid text htext) hinvalid
  case h_2 hfind =>
    have hvalid : ∀ text ∈ entry.texts, text.HasValidWeight := by simpa using hfind
    constructor
    · intro hreason
      split at hreason
      case isTrue hrepeated =>
        cases hreason
        exact .duplicateId hvalid (hholds.mem_entries_iff.mp hrepeated)
      case isFalse => cases hreason
    · intro hrefuses
      cases hrefuses with
      | invalidWeight before after text htexts _ hinvalid =>
          exact absurd (hvalid text (by simp [htexts])) hinvalid
      | duplicateId _ hrepeated => rw [if_pos (hholds.mem_entries_iff.mpr hrepeated)]

variable [LawfulEqOrd Id] [LawfulEqOrd Tag]

/-- A list of entries is refused for the first entry that cannot be added. -/
theorem ofEntries?_eq_error_iff {entries : List (Entry Id Tag R)} {reason : IndexError Id R} :
    ofEntries? entries = .error reason ↔
      ∃ earlier entry later, entries = earlier ++ entry :: later ∧ Indexable earlier ∧
        Refuses earlier entry reason := by
  constructor
  · intro hrun
    obtain ⟨earlier, entry, later, index, hentries, hbuilt, hrefused⟩ :=
      exists_of_foldlM_eq_error hrun
    have hholds := holds_of_ofEntries? hbuilt
    exact ⟨earlier, entry, later, hentries, exists_ofEntries?_iff.mp ⟨index, hbuilt⟩,
      hholds.add?_eq_error_iff.mp hrefused⟩
  · intro hsplit
    obtain ⟨earlier, entry, later, hentries, hindexable, hrefuses⟩ := hsplit
    obtain ⟨index, hbuilt⟩ := exists_ofEntries?_iff.mpr hindexable
    have hrefused := (holds_of_ofEntries? hbuilt).add?_eq_error_iff.mpr hrefuses
    rw [hentries]
    exact foldlM_append_cons_eq_error hbuilt hrefused

/-! ## What an index holds -/

omit [Scalar R] [LawfulEqOrd Id] [LawfulEqOrd Tag] in
theorem mem_posting_iff_exists {index : Index Id Tag R} {tag : Tag} {id : Id} :
    id ∈ index.posting tag ↔ ∃ posting, index.posting? tag = some posting ∧ id ∈ posting := by
  rw [posting]
  cases index.posting? tag with
  | none => simp [ExtTreeSet.not_mem_empty]
  | some posting => simp

/-- **An index is exact, or refused by its first faulty entry.**  A list of entries has an
index if its weights are finite and above zero and its ids different.  Otherwise the
reason is what is wrong with the first entry after which this is no longer so.  An index
has all entries of its list and no others, and for every tag that occurs a posting of the
ids whose entries carry the tag.  Its postings never fail their test. -/
theorem ofEntries?_exact (entries : List (Entry Id Tag R)) :
    ((∃ index, ofEntries? entries = .ok index) ↔
      (entries.map Entry.id).Nodup ∧
        ∀ entry ∈ entries, ∀ text ∈ entry.texts,
          Scalar.isFinite text.weight = true ∧ 0 < text.weight) ∧
    (∀ reason, ofEntries? entries = .error reason ↔
      ∃ earlier entry later, entries = earlier ++ entry :: later ∧ Indexable earlier ∧
        Refuses earlier entry reason) ∧
    (∀ index, ofEntries? entries = .ok index →
      index.size = entries.length ∧
      (∀ id entry, index.entry? id = some entry ↔ entry ∈ entries ∧ entry.id = id) ∧
      (∀ id, id ∈ index.ids ↔ ∃ entry ∈ entries, entry.id = id) ∧
      (∀ tag id, (∃ posting, index.posting? tag = some posting ∧ id ∈ posting) ↔
        ∃ entry ∈ entries, entry.id = id ∧ tag ∈ entry.tags) ∧
      (∀ tag, index.posting? tag = none ↔ ∀ entry ∈ entries, tag ∉ entry.tags) ∧
      index.checkPostings = .ok ()) ∧
    ofEntriesChecked? entries = (ofEntries? entries).mapError .refused := by
  refine ⟨?_, fun reason => ofEntries?_eq_error_iff, ?_, ofEntriesChecked?_eq entries⟩
  · rw [exists_ofEntries?_iff, and_comm]
    rfl
  · intro index hbuilt
    have hholds := holds_of_ofEntries? hbuilt
    refine ⟨size_of_ofEntries? hbuilt, fun id entry => hholds.entry?_eq_some_iff,
      fun id => hholds.mem_ids_iff, fun tag id => ?_, fun tag => posting?_eq_none_iff hbuilt,
      hholds.checkPostings_eq_ok⟩
    rw [← mem_posting_iff_exists, hholds.mem_posting_iff]

/-- A list that is refused for its second entry, which has the id of the first one and two
weights that are not valid, and the sample corpus, which is not refused. -/
theorem ofEntries?_exact_sample :
    (∃ entries : List (Entry String String Float),
      entries = [⟨"4x-sharp", .ofList ["scale:4"], [⟨"4x-sharp", 8⟩]⟩,
        ⟨"4x-sharp", .ofList ["anime"], [⟨"4x-sharp", 8⟩, ⟨"kim", -1⟩, ⟨"", 0⟩]⟩,
        ⟨"2x-film", ∅, [⟨"2x-film", 0⟩]⟩] ∧
      ofEntries? entries = .error (.invalidWeight "4x-sharp" (-1))) ∧
    ∃ index : Index String String Float, ofEntries? Catalogue.sample = .ok index ∧
      index.size = 6 ∧ index.posting? "scale:8" = none ∧ index.checkPostings = .ok () ∧
      ∃ posting, index.posting? "jpeg" = some posting ∧ "2x-dejpg-colorize" ∈ posting := by
  constructor
  · refine ⟨_, rfl, ((ofEntries?_exact _).2.1 _).mpr ⟨[_], _, [_], rfl, ?_, ?_⟩⟩
    · exact ⟨by decide, by decide⟩
    · exact .invalidWeight [⟨"4x-sharp", 8⟩] [⟨"", 0⟩] ⟨"kim", -1⟩ rfl (by decide) (by decide)
  · obtain ⟨index, hbuilt⟩ := exists_ofEntries?_sample
    obtain ⟨hsize, -, -, hposting, hnone, hchecked⟩ := (ofEntries?_exact _).2.2.1 index hbuilt
    refine ⟨index, hbuilt, hsize, ?_, hchecked, ?_⟩
    · rw [hnone]
      decide
    · rw [hposting]
      decide

end Index

end FacetSearch
