import FacetSearch.Proofs.Text.Occurrence
import FacetSearch.Proofs.Text.Separation
import Mathlib.Data.Finset.Card

/-!
# The search for occurrences is greedy and loses none

Occurrences are reported from left to right, and what overlaps the one before it is passed
over.  Two facts say all that there is to say about such a search.

* Nothing is reported among the characters that an earlier occurrence covers
  (`le_offset_of_mem_occurrencesAfter`), so reported occurrences lie apart.
* Wherever the word stands, it starts among the covered characters or within a reported
  occurrence (`exists_occurrence_around`).  So between two of these, before the first and after
  the last one, there is none.

That no other choice is better is the usual exchange.  If several occurrences lie apart, each of
them starts within a reported one, and no two within the same, so they are not more than those
that are reported (`card_le_length`).
-/

namespace FacetSearch.Text

/-! ## Places of a word -/

/-- A word stands in a text behind that many bytes. -/
def StandsAt (word text : String) (offset : Nat) : Prop :=
  ∃ before after : String, text = before ++ word ++ after ∧ before.utf8ByteSize = offset

/-- A word stands at the start of a character, or at the end of the text. -/
theorem StandsAt.isValid {word text : String} {offset : Nat} (hstands : StandsAt word text offset) :
    (⟨offset⟩ : String.Pos.Raw).IsValid text := by
  obtain ⟨before, after, rfl, rfl⟩ := hstands
  exact String.Pos.Raw.isValid_iff_exists_append.mpr
    ⟨before, word ++ after, String.append_assoc, rfl⟩

/-! ## Bytes of a part of a text -/

theorem byteLength_pos {cs : List Char} (hcs : cs ≠ []) : 0 < byteLength cs := by
  cases cs with
  | nil => exact absurd rfl hcs
  | cons c rest =>
      have hsize := c.utf8Size_pos
      rw [byteLength]
      omega

/-- What is shorter than a word, where the word starts as well, has fewer bytes than it. -/
theorem byteLength_lt_of_prefix {word skipped rest : List Char} (hword : word <+: skipped ++ rest)
    (hshort : skipped.length < word.length) : byteLength skipped < byteLength word := by
  obtain ⟨more, rfl⟩ :=
    List.prefix_of_prefix_length_le (List.prefix_append skipped rest) hword (Nat.le_of_lt hshort)
  have hmore : more ≠ [] := by
    rintro rfl
    rw [List.append_nil] at hshort
    exact Nat.lt_irrefl _ hshort
  have hpos := byteLength_pos hmore
  rw [byteLength_append]
  omega

/-! ## The search -/

section Search

variable {word : List Char}

theorem prefix_of_mem_occurrencesAfter {covered : Nat} {before after : List Char} {cut : Cut}
    (hcut : cut ∈ occurrencesAfter word covered before after) : word <+: cut.after := by
  induction after generalizing covered before with
  | nil => cases hcut
  | cons c rest ih =>
      rw [occurrencesAfter] at hcut
      split at hcut
      case isTrue hhere =>
        rw [Bool.and_eq_true, List.isPrefixOf_iff_prefix] at hhere
        rcases List.mem_cons.mp hcut with rfl | hlater
        · exact hhere.2
        · exact ih hlater
      case isFalse => exact ih hcut

/-- Nothing is reported among the characters that an earlier occurrence covers. -/
theorem le_offset_of_mem_occurrencesAfter {covered : Nat} {before after : List Char} {cut : Cut}
    (hcut : cut ∈ occurrencesAfter word covered before after) :
    byteLength before + byteLength (after.take covered) ≤ cut.offset := by
  induction after generalizing covered before with
  | nil => cases hcut
  | cons c rest ih =>
      rw [occurrencesAfter] at hcut
      split at hcut
      case isTrue hhere =>
        rw [Bool.and_eq_true, decide_eq_true_eq] at hhere
        rw [hhere.1, List.take_zero]
        rcases List.mem_cons.mp hcut with rfl | hlater
        · exact Nat.le_refl _
        · have hle := ih hlater
          simp only [byteLength] at hle ⊢
          omega
      case isFalse =>
        have hle := ih hcut
        cases covered with
        | zero =>
            simp only [byteLength, List.take_zero] at hle ⊢
            omega
        | succ covered =>
            simp only [byteLength, List.take_succ_cons, Nat.add_sub_cancel] at hle ⊢
            omega

/-- Reported occurrences do not overlap. -/
theorem pairwise_occurrencesAfter (hword : word ≠ []) (covered : Nat) (before after : List Char) :
    (occurrencesAfter word covered before after).Pairwise
      fun cut later => cut.offset + byteLength word ≤ later.offset := by
  induction after generalizing covered before with
  | nil => exact List.Pairwise.nil
  | cons c rest ih =>
      rw [occurrencesAfter]
      split
      case isFalse => exact ih _ _
      case isTrue hhere =>
        rw [Bool.and_eq_true, List.isPrefixOf_iff_prefix] at hhere
        refine List.pairwise_cons.mpr ⟨fun later hlater => ?_, ih _ _⟩
        have hle := le_offset_of_mem_occurrencesAfter hlater
        obtain ⟨d, more, rfl⟩ := List.exists_cons_of_ne_nil hword
        obtain ⟨rfl, hmore⟩ := List.cons_prefix_cons.mp hhere.2
        have htake : rest.take ((d :: more).length - 1) = more := by
          rw [List.length_cons, Nat.add_sub_cancel]
          exact (List.prefix_iff_eq_take.mp hmore).symm
        rw [htake] at hle
        simp only [byteLength, Cut.offset] at hle ⊢
        omega

/-- Wherever the word stands, it starts among the characters that are covered or within an
occurrence that is reported. -/
theorem exists_occurrence_around (hword : word ≠ []) (covered : Nat)
    (before skipped : List Char) {rest : List Char} (hstands : word <+: rest) :
    skipped.length < covered ∨
      ∃ cut ∈ occurrencesAfter word covered before (skipped ++ rest),
        cut.offset ≤ byteLength before + byteLength skipped ∧
          byteLength before + byteLength skipped < cut.offset + byteLength word := by
  induction skipped generalizing covered before with
  | nil =>
      obtain ⟨c, more, rfl⟩ : ∃ c more, rest = c :: more :=
        List.exists_cons_of_ne_nil fun hnil => hword (List.prefix_nil.mp (hnil ▸ hstands))
      rcases Nat.eq_zero_or_pos covered with rfl | hcovered
      · refine Or.inr ⟨⟨before, c :: more⟩, ?_, Nat.le_refl _, ?_⟩
        · rw [List.nil_append, occurrencesAfter, if_pos (by simpa using hstands)]
          exact List.mem_cons_self
        · exact Nat.add_lt_add_left (byteLength_pos hword) _
      · exact Or.inl hcovered
  | cons c skipped ih =>
      have hmoved : byteLength before + byteLength (c :: skipped) =
          byteLength (c :: before) + byteLength skipped := by
        simp only [byteLength]
        omega
      rw [List.cons_append, occurrencesAfter, hmoved]
      split
      case isTrue hhere =>
        rw [Bool.and_eq_true, List.isPrefixOf_iff_prefix] at hhere
        rcases ih (word.length - 1) (c :: before) with hinside | hlater
        · -- the word stands within the occurrence that is reported here
          refine Or.inr ⟨⟨before, c :: (skipped ++ rest)⟩, List.mem_cons_self, ?_⟩
          have hshort : byteLength (c :: skipped) < byteLength word :=
            byteLength_lt_of_prefix hhere.2 (by rw [List.length_cons]; omega)
          rw [← hmoved]
          exact ⟨Nat.le_add_right _ _, Nat.add_lt_add_left hshort _⟩
        · obtain ⟨cut, hcut, haround⟩ := hlater
          exact Or.inr ⟨cut, List.mem_cons_of_mem _ hcut, haround⟩
      case isFalse =>
        rcases ih (covered - 1) (c :: before) with hinside | hlater
        · exact Or.inl (by rw [List.length_cons]; omega)
        · exact Or.inr hlater

end Search

/-! ## Offsets -/

variable {word text : String}

theorem occurrences_of_ne_empty (hword : word ≠ "") :
    occurrences word.toList text.toList = occurrencesAfter word.toList 0 [] text.toList := by
  rw [occurrences, if_neg (String.toList_eq_nil_iff.not.mpr hword)]

/-- The empty word is found nowhere. -/
theorem offsets_empty (text : String) : offsets "" text = [] := by
  rw [offsets, occurrences, if_pos (String.toList_eq_nil_iff.mpr rfl), List.map_nil]

theorem standsAt_of_mem_offsets {offset : Nat} (hoffset : offset ∈ offsets word text) :
    StandsAt word text offset := by
  obtain ⟨cut, hcut, rfl⟩ := List.mem_map.mp hoffset
  have htext := text_of_mem_occurrences hcut
  have hword : word ≠ "" := by
    rintro rfl
    exact absurd hcut (by simp [occurrences])
  rw [occurrences_of_ne_empty hword] at hcut
  obtain ⟨after, hafter⟩ := prefix_of_mem_occurrencesAfter hcut
  refine ⟨String.ofList cut.before.reverse, String.ofList after, ?_, ?_⟩
  · rw [← String.toList_inj, ← htext, Cut.text, ← hafter]
    simp
  · rw [← byteLength_toList, String.toList_ofList, byteLength_reverse, Cut.offset]

theorem pairwise_offsets (word text : String) :
    (offsets word text).Pairwise (fun offset later => offset + word.utf8ByteSize ≤ later) := by
  by_cases hword : word = ""
  · rw [hword, offsets_empty]
    exact List.Pairwise.nil
  · rw [offsets, List.pairwise_map, occurrences_of_ne_empty hword, ← byteLength_toList]
    exact pairwise_occurrencesAfter (String.toList_eq_nil_iff.not.mpr hword) 0 [] _

/-- Every occurrence starts within one that is reported. -/
theorem exists_mem_offsets_around (hword : word ≠ "") {offset : Nat}
    (hstands : StandsAt word text offset) :
    ∃ found ∈ offsets word text, found ≤ offset ∧ offset < found + word.utf8ByteSize := by
  obtain ⟨before, after, rfl, rfl⟩ := hstands
  have htext : (before ++ word ++ after).toList =
      before.toList ++ (word.toList ++ after.toList) := by
    rw [String.toList_append, String.toList_append, List.append_assoc]
  rcases exists_occurrence_around (String.toList_eq_nil_iff.not.mpr hword) 0 [] before.toList
    (List.prefix_append word.toList after.toList) with hcovered | haround
  · exact absurd hcovered (Nat.not_lt_zero _)
  · obtain ⟨cut, hcut, hle, hlt⟩ := haround
    rw [byteLength, Nat.zero_add, byteLength_toList] at hle hlt
    rw [byteLength_toList] at hlt
    refine ⟨cut.offset, List.mem_map_of_mem ?_, hle, hlt⟩
    rwa [occurrences_of_ne_empty hword, htext]

/-- A word has offsets in a text if it is a substring. -/
theorem offsets_eq_nil_iff (hword : word ≠ "") :
    offsets word text = [] ↔ ¬word.toList <:+: text.toList := by
  have hsome : ¬offsets word text = [] ↔ word.toList <:+: text.toList := by
    rw [offsets, List.map_eq_nil_iff, ← ne_eq, occurrences_ne_nil_iff, ne_eq,
      String.toList_eq_nil_iff, and_iff_right hword]
  exact (not_iff_comm.mp hsome).symm

/-- Places that lie apart are not more than the starting points within whose reach all of them
are. -/
theorem card_le_length {size : Nat} {starts : List Nat} {places : Finset Nat}
    (haround : ∀ place ∈ places, ∃ start ∈ starts, start ≤ place ∧ place < start + size)
    (hapart : ∀ place ∈ places, ∀ later ∈ places, place < later → place + size ≤ later) :
    places.card ≤ starts.length := by
  choose! start hstart using haround
  have hinjective : Set.InjOn start places := by
    intro place hplace other hother hsame
    obtain ⟨-, hle, hlt⟩ := hstart place hplace
    obtain ⟨-, hle', hlt'⟩ := hstart other hother
    -- two places within the reach of one starting point would overlap
    rcases Nat.lt_trichotomy place other with hbefore | heq | hbehind
    · have := hapart place hplace other hother hbefore
      omega
    · exact heq
    · have := hapart other hother place hplace hbehind
      omega
  calc places.card
      ≤ starts.toFinset.card :=
        Finset.card_le_card_of_injOn start
          (fun place hplace => List.mem_toFinset.mpr (hstart place hplace).1) hinjective
    _ ≤ starts.length := List.toFinset_card_le starts

/-- **The search for occurrences is greedy and loses none.**  The empty word is found nowhere.
Of any other word the reported offsets increase and lie apart, and at each of them, where a
character starts, the word stands.  Where it stands behind all occurrences that are reported
up to some point, it stands no earlier than at the next one.  Nothing is reported exactly if
the word is no substring, and no set of occurrences that lie apart is larger. -/
theorem offsets_greedy :
    (∀ text, offsets "" text = []) ∧
    ∀ word text : String, word ≠ "" →
      (offsets word text).Pairwise
        (fun offset later => offset < later ∧ offset + word.utf8ByteSize ≤ later) ∧
      (∀ offset ∈ offsets word text,
        (⟨offset⟩ : String.Pos.Raw).IsValid text ∧ StandsAt word text offset) ∧
      (∀ earlier next later, offsets word text = earlier ++ next :: later →
        ∀ offset, StandsAt word text offset →
          (∀ found ∈ earlier, found + word.utf8ByteSize ≤ offset) → next ≤ offset) ∧
      (offsets word text = [] ↔ ¬word.toList <:+: text.toList) ∧
      ∀ places : Finset Nat, (∀ place ∈ places, StandsAt word text place) →
        (∀ place ∈ places, ∀ later ∈ places, place < later →
          place + word.utf8ByteSize ≤ later) →
        places.card ≤ (offsets word text).length := by
  refine ⟨offsets_empty, fun word text hword => ?_⟩
  have hsize : 0 < word.utf8ByteSize := by
    rw [← byteLength_toList]
    exact byteLength_pos (String.toList_eq_nil_iff.not.mpr hword)
  refine ⟨?apart, ?stands, ?next, offsets_eq_nil_iff hword, ?most⟩
  case apart =>
    refine (pairwise_offsets word text).imp fun hapart => ⟨?_, hapart⟩
    omega
  case stands =>
    intro offset hoffset
    have hstands := standsAt_of_mem_offsets hoffset
    exact ⟨hstands.isValid, hstands⟩
  case next =>
    intro earlier next later hoffsets offset hstands hbehind
    obtain ⟨found, hfound, hle, hlt⟩ := exists_mem_offsets_around hword hstands
    have hpairwise := pairwise_offsets word text
    rw [hoffsets] at hfound hpairwise
    rcases List.mem_append.mp hfound with hearlier | hlater
    · exact absurd hlt (Nat.not_lt.mpr (hbehind found hearlier))
    · rcases List.mem_cons.mp hlater with rfl | hlater
      · exact hle
      · have hnext := (List.pairwise_cons.mp (List.pairwise_append.mp hpairwise).2.1).1 found hlater
        omega
  case most =>
    intro places hstands hapart
    have haround (place : Nat) (hplace : place ∈ places) :=
      exists_mem_offsets_around hword (hstands place hplace)
    exact card_le_length haround hapart

/-- The word `aa` stands in `éaaa aa` behind 2, 3 and 6 bytes, and the first two of these places
overlap.  Two places are reported, which is as many as there can be. -/
theorem offsets_greedy_sample :
    offsets "" "éaaa aa" = [] ∧ "aa" ≠ "" ∧ offsets "aa" "éaaa aa" = [2] ++ 6 :: [] ∧
      2 + "aa".utf8ByteSize ≤ 6 ∧ (⟨6⟩ : String.Pos.Raw).IsValid "éaaa aa" ∧
      StandsAt "aa" "éaaa aa" 3 ∧ StandsAt "aa" "éaaa aa" 6 ∧
      (∀ offset, StandsAt "aa" "éaaa aa" offset → 2 + "aa".utf8ByteSize ≤ offset → 6 ≤ offset) ∧
      ¬"b".toList <:+: "éaaa aa".toList ∧
      ({3, 6} : Finset Nat).card ≤ (offsets "aa" "éaaa aa").length := by
  obtain ⟨hempty, hgreedy⟩ := offsets_greedy
  have hoffsets : offsets "aa" "éaaa aa" = [2] ++ 6 :: [] := by decide
  have hthree : StandsAt "aa" "éaaa aa" 3 := ⟨"éa", " aa", by decide, by decide⟩
  obtain ⟨hapart, hstands, hnext, -, hmost⟩ := hgreedy "aa" "éaaa aa" (by decide)
  obtain ⟨-, -, -, hnone, -⟩ := hgreedy "b" "éaaa aa" (by decide)
  obtain ⟨hvalid, hsix⟩ := hstands 6 (by rw [hoffsets]; decide)
  have hspaced : 2 + "aa".utf8ByteSize ≤ 6 := by
    rw [hoffsets] at hapart
    exact (List.pairwise_cons.mp hapart).1 6 (by decide) |>.2
  refine ⟨hempty _, by decide, hoffsets, hspaced, hvalid, hthree, hsix, ?_,
    hnone.mp (by decide), ?_⟩
  · intro offset hoffset hbehind
    exact hnext [2] 6 [] hoffsets offset hoffset (List.forall_mem_singleton.mpr hbehind)
  · refine hmost {3, 6} ?_ (by decide)
    intro place hplace
    rcases Finset.mem_insert.mp hplace with rfl | hplace
    · exact hthree
    · rw [Finset.mem_singleton.mp hplace]
      exact hsix

end FacetSearch.Text
