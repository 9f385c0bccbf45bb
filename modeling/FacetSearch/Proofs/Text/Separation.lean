import FacetSearch.Proofs.Character.Ascii
import FacetSearch.Proofs.Character.Lowercase
import FacetSearch.Proofs.Text.Lowering
import FacetSearch.Text.Occurrence

/-!
# Texts in two parts

A separator divides a text into what is before it and what is after it.  A word without the
separator is found in each part for itself: it occurs at the places of the first part and at
those of the second one, further on by the length of the first part and the separator
(`occurrences_append_cons`).

Passing over the characters of an earlier occurrence could put the search out of step behind
the separator.  It does not, since an occurrence lies within its part, and so what it covers
ends there.  This is the invariant of `occurrencesAfter_append_cons`.

Whether a word starts at a place is decided by the characters around it.  At the ends of a
part these are cut off, and there a word starts anyway.  At the last character of the first
part the one after it would be the separator, which is in lowercase as little as the end of a
text is.  So every place is a word start in the whole text if it is one in its part
(`Cut.startsWord_followedBy`, `Cut.startsWord_precededBy`).
-/

namespace FacetSearch.Text

/-! ## Places in a part of a text -/

namespace Cut

/-- The text that a place is in. -/
def text (cut : Cut) : List Char :=
  cut.before.reverse ++ cut.after

/-- The same place, with more text after it. -/
def followedBy (cut : Cut) (more : List Char) : Cut :=
  ⟨cut.before, cut.after ++ more⟩

/-- The same place, with more text before it. -/
def precededBy (cut : Cut) (more : List Char) : Cut :=
  ⟨cut.before ++ more.reverse, cut.after⟩

theorem text_followedBy (cut : Cut) (more : List Char) :
    (cut.followedBy more).text = cut.text ++ more := by
  unfold text followedBy
  exact (List.append_assoc _ _ _).symm

theorem text_precededBy (cut : Cut) (more : List Char) :
    (cut.precededBy more).text = more ++ cut.text := by
  unfold text precededBy
  rw [List.reverse_append, List.reverse_reverse, List.append_assoc]

end Cut

/-! ## Offsets -/

theorem byteLength_append (cs ds : List Char) :
    byteLength (cs ++ ds) = byteLength cs + byteLength ds := by
  induction cs with
  | nil => exact (Nat.zero_add _).symm
  | cons c rest ih => rw [List.cons_append, byteLength, byteLength, ih, Nat.add_assoc]

theorem byteLength_reverse (cs : List Char) : byteLength cs.reverse = byteLength cs := by
  induction cs with
  | nil => rfl
  | cons c rest ih =>
      rw [List.reverse_cons, byteLength_append, ih, Nat.add_comm]
      rfl

theorem byteLength_toList (text : String) : byteLength text.toList = text.utf8ByteSize := by
  induction text using String.push_induction with
  | empty => rfl
  | push start c ih =>
      rw [String.toList_push, byteLength_append, ih, String.utf8ByteSize_push]
      rfl

namespace Cut

theorem offset_followedBy (cut : Cut) (more : List Char) :
    (cut.followedBy more).offset = cut.offset :=
  rfl

theorem offset_precededBy (cut : Cut) (more : List Char) :
    (cut.precededBy more).offset = byteLength more + cut.offset := by
  unfold offset precededBy
  rw [byteLength_append, byteLength_reverse, Nat.add_comm]

theorem ahead?_byteLength (before cs after : List Char) :
    ahead? before (cs ++ after) (byteLength cs) = some ⟨cs.reverse ++ before, after⟩ := by
  induction cs generalizing before with
  | nil => exact ahead?.eq_1 before after
  | cons c rest ih =>
      have hsize := c.utf8Size_pos
      have hfits : c.utf8Size ≤ c.utf8Size + byteLength rest := Nat.le_add_right _ _
      rw [List.cons_append, byteLength, ahead?.eq_3 _ _ _ _ (by omega), if_pos hfits,
        Nat.add_sub_cancel_left, ih, List.reverse_cons, List.append_assoc, List.singleton_append]

/-- A place is found by its offset. -/
theorem at?_offset (cut : Cut) : at? cut.text cut.offset = some cut := by
  have hfound := ahead?_byteLength [] cut.before.reverse cut.after
  rwa [byteLength_reverse, List.reverse_reverse, List.append_nil] at hfound

end Cut

/-- To ask for a word start at the offset of a place is to ask for it at the place. -/
theorem startsWordAt_offset {text : String} {cut : Cut} (htext : cut.text = text.toList) :
    startsWordAt text cut.offset = cut.startsWord := by
  rw [startsWordAt, ← htext, Cut.at?_offset]
  rfl

/-! ## Word starts -/

namespace Cut

variable {s : Char}

/-- A separator after the current character is like the end of the text there. -/
theorem wordStartsBetween_separator (hs : isSeparator s) (previous current : Char) :
    wordStartsBetween previous current (some s) = wordStartsBetween previous current none := by
  obtain ⟨-, -, hsmall⟩ := classes_of_isSeparator hs
  unfold wordStartsBetween
  simp only [Option.any_some, Option.any_none, isLowercase_of_isSeparator hs, hsmall]

theorem startsWord_followedBy (hs : isSeparator s) (cut : Cut) (more : List Char) :
    (cut.followedBy (s :: more)).startsWord = cut.startsWord := by
  obtain ⟨before, after⟩ := cut
  match before, after with
  | [], _ => rfl
  | previous :: _, [] =>
      show wordStartsBetween previous s more.head? = true
      simp [wordStartsBetween, hs]
  | previous :: _, [current] => exact wordStartsBetween_separator hs previous current
  | previous :: _, current :: next :: rest => rfl

theorem startsWord_precededBy (hs : isSeparator s) (cut : Cut) (more : List Char) :
    (cut.precededBy (more ++ [s])).startsWord = cut.startsWord := by
  obtain ⟨before, after⟩ := cut
  unfold precededBy
  rw [List.reverse_append, List.reverse_singleton, List.singleton_append]
  match before, after with
  | [], [] => rfl
  | [], current :: rest =>
      show wordStartsBetween s current rest.head? = true
      simp [wordStartsBetween, hs]
  | previous :: _, [] => rfl
  | previous :: _, current :: rest => rfl

end Cut

/-! ## Occurrences -/

variable {word : List Char}

theorem text_of_mem_occurrencesAfter {covered : Nat} {before after : List Char} {cut : Cut}
    (hcut : cut ∈ occurrencesAfter word covered before after) :
    cut.text = before.reverse ++ after := by
  induction after generalizing covered before with
  | nil => cases hcut
  | cons c rest ih =>
      have hmoved : (c :: before).reverse ++ rest = before.reverse ++ c :: rest := by
        rw [List.reverse_cons, List.append_assoc, List.singleton_append]
      rw [occurrencesAfter] at hcut
      split at hcut
      case isTrue =>
        rcases List.mem_cons.mp hcut with rfl | hlater
        · rfl
        · rw [ih hlater, hmoved]
      case isFalse => rw [ih hcut, hmoved]

/-- Occurrences are places in the text that is searched. -/
theorem text_of_mem_occurrences {text : List Char} {cut : Cut}
    (hcut : cut ∈ occurrences word text) : cut.text = text := by
  unfold occurrences at hcut
  split at hcut
  case isTrue => cases hcut
  case isFalse => exact text_of_mem_occurrencesAfter hcut

/-- What has been passed before the search began is only there in the places found. -/
theorem occurrencesAfter_precededBy (covered : Nat) (before more after : List Char) :
    occurrencesAfter word covered (before ++ more.reverse) after =
      (occurrencesAfter word covered before after).map (Cut.precededBy · more) := by
  induction after generalizing covered before with
  | nil => rfl
  | cons c rest ih =>
      have hrest (n : Nat) := ih n (c :: before)
      rw [occurrencesAfter, occurrencesAfter]
      split
      case isTrue =>
        rw [List.map_cons, ← hrest]
        rfl
      case isFalse =>
        rw [← hrest]
        rfl

variable {s : Char}

/-- A word without the separator does not reach beyond it. -/
theorem prefix_append_cons_iff (hword : s ∉ word) {cs more : List Char} :
    word <+: cs ++ s :: more ↔ word <+: cs := by
  constructor
  · intro hstarts
    rcases List.prefix_or_prefix_of_prefix hstarts (List.prefix_append cs (s :: more)) with
      hshort | ⟨last, rfl⟩
    · exact hshort
    · have hlast : s ∉ last := fun hs => hword (List.mem_append_right cs hs)
      rw [List.prefix_append_right_inj] at hstarts
      rw [eq_nil_of_prefix_cons hlast hstarts, List.append_nil]
  · intro hstarts
    exact hstarts.trans (List.prefix_append cs (s :: more))

theorem isPrefixOf_append_cons (hword : s ∉ word) (cs more : List Char) :
    word.isPrefixOf (cs ++ s :: more) = word.isPrefixOf cs := by
  rw [Bool.eq_iff_iff, List.isPrefixOf_iff_prefix, List.isPrefixOf_iff_prefix,
    prefix_append_cons_iff hword]

/-- What an earlier occurrence covers ends before the separator, and behind it the search
begins anew. -/
theorem occurrencesAfter_append_cons (hnonempty : word ≠ []) (hword : s ∉ word)
    {covered : Nat} {before cs : List Char} (hcovered : covered ≤ cs.length)
    (more : List Char) :
    occurrencesAfter word covered before (cs ++ s :: more) =
      (occurrencesAfter word covered before cs).map (Cut.followedBy · (s :: more)) ++
        occurrencesAfter word 0 (s :: (cs.reverse ++ before)) more := by
  induction cs generalizing covered before with
  | nil =>
      -- the word does not start with the separator
      have hnot : ¬(covered = 0 && word.isPrefixOf (s :: more)) := by
        rw [Bool.and_eq_true, List.isPrefixOf_iff_prefix]
        exact fun hstarts => hnonempty (eq_nil_of_prefix_cons hword hstarts.2)
      have hpassed : occurrencesAfter word covered before (s :: more) =
          occurrencesAfter word (covered - 1) (s :: before) more := by
        rw [occurrencesAfter, if_neg hnot]
      have hzero : covered - 1 = 0 := by
        rw [List.length_nil] at hcovered
        omega
      rw [List.nil_append, hpassed, hzero]
      rfl
  | cons c rest ih =>
      have hpassed : (c :: rest).reverse ++ before = rest.reverse ++ c :: before := by
        rw [List.reverse_cons, List.append_assoc, List.singleton_append]
      rw [List.length_cons] at hcovered
      rw [hpassed, List.cons_append, occurrencesAfter, occurrencesAfter, ← List.cons_append,
        isPrefixOf_append_cons hword]
      split
      case isTrue hhere =>
        rw [Bool.and_eq_true, List.isPrefixOf_iff_prefix] at hhere
        have hlength := hhere.2.length_le
        rw [List.length_cons] at hlength
        rw [ih (by omega), List.map_cons, List.cons_append]
        rfl
      case isFalse => rw [ih (by omega)]

/-- A word is found in the two parts of a text for itself. -/
theorem occurrences_append_cons (hword : s ∉ word) (cs ds : List Char) :
    occurrences word (cs ++ s :: ds) =
      (occurrences word cs).map (Cut.followedBy · (s :: ds)) ++
        (occurrences word ds).map (Cut.precededBy · (cs ++ [s])) := by
  unfold occurrences
  split
  case isTrue => rfl
  case isFalse hnonempty =>
    have hbehind : occurrencesAfter word 0 (s :: cs.reverse) ds =
        (occurrencesAfter word 0 [] ds).map (Cut.precededBy · (cs ++ [s])) := by
      rw [← occurrencesAfter_precededBy, List.reverse_append, List.reverse_singleton,
        List.singleton_append, List.nil_append]
    rw [occurrencesAfter_append_cons hnonempty hword (Nat.zero_le _), List.append_nil, hbehind]

/-! ## Offsets of occurrences -/

/-- The byte offsets at which a token occurs in a text. -/
def offsets (token text : String) : List Nat :=
  (occurrences token.toList text.toList).map Cut.offset

/-- Two texts with a separator between them. -/
def separated (first : String) (s : Char) (second : String) : String :=
  first ++ String.singleton s ++ second

theorem toList_separated (first : String) (s : Char) (second : String) :
    (separated first s second).toList = first.toList ++ s :: second.toList := by
  unfold separated
  rw [String.toList_append, String.toList_append, String.toList_singleton, List.append_assoc,
    List.singleton_append]

variable {token first second : String}

theorem exists_of_mem_offsets {offset : Nat} (hoffset : offset ∈ offsets token first) :
    ∃ cut : Cut, cut.text = first.toList ∧ cut.offset = offset := by
  obtain ⟨cut, hcut, rfl⟩ := List.mem_map.mp hoffset
  exact ⟨cut, text_of_mem_occurrences hcut, rfl⟩

theorem byteLength_head (first : String) (s : Char) :
    byteLength (first.toList ++ [s]) = (first ++ String.singleton s).utf8ByteSize := by
  rw [← byteLength_toList, String.toList_append, String.toList_singleton]

/-- The offsets in the second part are further on by the length of the first part and the
separator. -/
theorem offsets_separated (hword : s ∉ token.toList) :
    offsets token (separated first s second) = offsets token first ++
      (offsets token second).map ((first ++ String.singleton s).utf8ByteSize + ·) := by
  have hmoved : Cut.offset ∘ (Cut.precededBy · (first.toList ++ [s])) =
      ((first ++ String.singleton s).utf8ByteSize + ·) ∘ Cut.offset := by
    funext cut
    rw [Function.comp_apply, Cut.offset_precededBy, byteLength_head]
    rfl
  unfold offsets
  rw [toList_separated, occurrences_append_cons hword, List.map_append, List.map_map,
    List.map_map, List.map_map, hmoved]
  rfl

/-- At the offsets in the first part a word starts in the whole text if it does in the
part. -/
theorem startsWordAt_separated_left (hs : isSeparator s) {offset : Nat}
    (hoffset : offset ∈ offsets token first) :
    startsWordAt (separated first s second) offset = startsWordAt first offset := by
  obtain ⟨cut, htext, rfl⟩ := exists_of_mem_offsets hoffset
  have hwhole : (cut.followedBy (s :: second.toList)).text =
      (separated first s second).toList := by
    rw [Cut.text_followedBy, htext, toList_separated]
  rw [startsWordAt_offset htext, ← Cut.startsWord_followedBy hs cut second.toList,
    ← startsWordAt_offset hwhole, Cut.offset_followedBy]

/-- So it does at the offsets in the second part. -/
theorem startsWordAt_separated_right (hs : isSeparator s) {offset : Nat}
    (hoffset : offset ∈ offsets token second) :
    startsWordAt (separated first s second)
      ((first ++ String.singleton s).utf8ByteSize + offset) = startsWordAt second offset := by
  obtain ⟨cut, htext, rfl⟩ := exists_of_mem_offsets hoffset
  have hwhole : (cut.precededBy (first.toList ++ [s])).text =
      (separated first s second).toList := by
    rw [Cut.text_precededBy, htext, toList_separated, List.append_assoc, List.singleton_append]
  rw [startsWordAt_offset htext, ← Cut.startsWord_precededBy hs cut first.toList,
    ← startsWordAt_offset hwhole, Cut.offset_precededBy, byteLength_head]

end FacetSearch.Text
