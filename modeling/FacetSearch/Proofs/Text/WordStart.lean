import FacetSearch.Proofs.Character.Ascii
import FacetSearch.Proofs.Query.Position
import FacetSearch.Proofs.Text.Greedy
import FacetSearch.Text.Checked

/-!
# Where words start

Word starts are asked for by byte offsets, and decided by the characters before and after them.
There are two kinds of offsets at which there is nothing to decide: beyond the end of the text,
and inside a character of several bytes (`not_isValid_iff`).  Every other one is the offset of a
`Cut` of the text (`isValid_iff_exists_cut`), and at both ends of the text a word starts.

At an interior cut three characters decide, the one before it and two after it.  If all three
are in a part of a text, it makes no difference what the rest of the text is
(`startsWordAt_surrounded`).  The second one after it is only there for the change from capitals
to a word.  In a text without uppercase characters there is no such change, and the rules that
are left treat both neighbours alike, so that the text can be read from either end
(`Cut.wordStartsBetween_comm`, `startsWordAt_reversed`).

To find the two neighbours the text is sliced at the offset.  A slice is refused if an end of it
is inside a character or beyond the end of the text (`exists_byteSlice_eq_ok_iff`), and none is
refused here (`startsWordChecked_eq_ok`).
-/

namespace FacetSearch.Text

open Query (byteSlice byteSlice_append)

/-! ## Offsets of a text -/

/-- An offset is inside a character that starts before it and ends after it. -/
def IsInside (text : String) (offset : Nat) : Prop :=
  ∃ (before : String) (c : Char) (after : String), text = before ++ String.singleton c ++ after ∧
    before.utf8ByteSize < offset ∧ offset < before.utf8ByteSize + c.utf8Size

/-- An offset is interior to a text if a character starts there that is not the first one. -/
structure IsInterior (text : String) (offset : Nat) : Prop where
  isValid : (⟨offset⟩ : String.Pos.Raw).IsValid text
  pos : 0 < offset
  lt_size : offset < text.utf8ByteSize

variable {text : String} {offset later : Nat}

theorem IsInside.append (hinside : IsInside text offset) (more : String) :
    IsInside (text ++ more) offset := by
  obtain ⟨before, c, after, rfl, hstart, hend⟩ := hinside
  exact ⟨before, c, after ++ more, String.append_assoc, hstart, hend⟩

theorem IsInside.not_isValid (hinside : IsInside text offset) :
    ¬(⟨offset⟩ : String.Pos.Raw).IsValid text := by
  obtain ⟨before, c, after, rfl, hstart, hend⟩ := hinside
  rw [String.Pos.Raw.isValid_append, String.Pos.Raw.isValid_append,
    String.Pos.Raw.isValid_singleton, String.Pos.Raw.ext_iff]
  -- the offset would be in the text before, at an end of the character, or in the text after
  rintro ((hbefore | ⟨-, hzero | hsize⟩) | ⟨hafter, -⟩)
  · exact Nat.not_lt.mpr hbefore.le_utf8ByteSize hstart
  · replace hzero : offset - before.utf8ByteSize = 0 := hzero
    omega
  · replace hsize : offset - before.utf8ByteSize = c.utf8Size := hsize
    omega
  · replace hafter : (before ++ String.singleton c).utf8ByteSize ≤ offset := hafter
    rw [String.utf8ByteSize_append, String.utf8ByteSize_singleton] at hafter
    omega

/-- A text cannot be cut beyond its end or inside a character, and can be anywhere else. -/
theorem not_isValid_iff :
    ¬(⟨offset⟩ : String.Pos.Raw).IsValid text ↔
      text.utf8ByteSize < offset ∨ IsInside text offset := by
  constructor
  · induction text using String.push_induction with
    | empty =>
        intro hnot
        refine Or.inl (Nat.pos_of_ne_zero ?_)
        rintro rfl
        exact hnot String.Pos.Raw.isValid_zero
    | push start c ih =>
        intro hnot
        rw [String.Pos.Raw.isValid_push, not_or, String.Pos.Raw.ext_iff] at hnot
        obtain ⟨hstart, hend⟩ := hnot
        rw [String.push_eq_append, String.utf8ByteSize_append, String.utf8ByteSize_singleton]
        rcases ih hstart with hbeyond | hinside
        · rcases Nat.lt_or_gt_of_ne hend with hlt | hgt
          · exact Or.inr ⟨start, c, "", String.append_empty.symm, hbeyond, hlt⟩
          · exact Or.inl hgt
        · exact Or.inr (hinside.append _)
  · rintro (hbeyond | hinside)
    · exact fun hvalid => Nat.not_lt.mpr hvalid.le_utf8ByteSize hbeyond
    · exact hinside.not_isValid

/-! ## Offsets and cuts -/

namespace Cut

variable {cut : Cut}

theorem byteLength_text (cut : Cut) : byteLength cut.text = cut.offset + byteLength cut.after := by
  rw [text, byteLength_append, byteLength_reverse, offset]

theorem utf8ByteSize_of_text {text : String} (htext : cut.text = text.toList) :
    text.utf8ByteSize = cut.offset + byteLength cut.after := by
  rw [← byteLength_toList, ← htext, byteLength_text]

theorem of_ahead? {before after : List Char} {distance : Nat}
    (hfound : ahead? before after distance = some cut) :
    cut.text = before.reverse ++ after ∧ cut.offset = byteLength before + distance := by
  fun_induction ahead? before after distance with
  | case1 before after =>
      cases hfound
      exact ⟨rfl, rfl⟩
  | case2 => cases hfound
  | case3 before c rest distance _ hfits ih =>
      obtain ⟨htext, hoffset⟩ := ih hfound
      rw [htext, hoffset, byteLength, List.reverse_cons, List.append_assoc,
        List.singleton_append]
      exact ⟨rfl, by omega⟩
  | case4 => cases hfound

/-- What is found at an offset is the one cut of the text that has this offset. -/
theorem at?_eq_some_iff {text : List Char} {offset : Nat} :
    at? text offset = some cut ↔ cut.text = text ∧ cut.offset = offset := by
  constructor
  · intro hfound
    obtain ⟨htext, hoffset⟩ := of_ahead? hfound
    exact ⟨htext, by rw [hoffset, byteLength, Nat.zero_add]⟩
  · rintro ⟨rfl, rfl⟩
    exact at?_offset cut

end Cut

theorem isValid_iff_exists_cut :
    (⟨offset⟩ : String.Pos.Raw).IsValid text ↔
      ∃ cut : Cut, cut.text = text.toList ∧ cut.offset = offset := by
  rw [String.Pos.Raw.isValid_iff_exists_append]
  constructor
  · rintro ⟨before, after, rfl, hoffset⟩
    rw [String.Pos.Raw.ext_iff] at hoffset
    refine ⟨⟨before.toList.reverse, after.toList⟩, ?_, ?_⟩
    · rw [Cut.text, List.reverse_reverse, String.toList_append]
    · rw [Cut.offset, byteLength_reverse, byteLength_toList]
      exact hoffset.symm
  · rintro ⟨cut, htext, rfl⟩
    refine ⟨String.ofList cut.before.reverse, String.ofList cut.after, ?_, ?_⟩
    · rw [← String.ofList_append, ← Cut.text, htext, String.ofList_toList]
    · rw [String.Pos.Raw.ext_iff, String.rawEndPos, ← byteLength_toList, String.toList_ofList,
        byteLength_reverse, Cut.offset]

theorem isInside_of_cut {before after : List Char} {c : Char}
    (htext : (⟨before, c :: after⟩ : Cut).text = text.toList)
    (hstart : byteLength before < offset) (hend : offset < byteLength before + c.utf8Size) :
    IsInside text offset := by
  have hsize : (String.ofList before.reverse).utf8ByteSize = byteLength before := by
    rw [← byteLength_toList, String.toList_ofList, byteLength_reverse]
  refine ⟨String.ofList before.reverse, c, String.ofList after, ?_, ?_, ?_⟩
  · rw [← String.toList_inj, ← htext, Cut.text]
    simp
  · rwa [hsize]
  · rwa [hsize]

/-- An interior offset is that of a cut between two characters. -/
theorem isInterior_iff_exists_cut :
    IsInterior text offset ↔
      ∃ cut : Cut, cut.text = text.toList ∧ cut.offset = offset ∧
        cut.before ≠ [] ∧ cut.after ≠ [] := by
  constructor
  · rintro ⟨hvalid, hpos, hlt⟩
    obtain ⟨cut, htext, rfl⟩ := isValid_iff_exists_cut.mp hvalid
    have hsize := Cut.utf8ByteSize_of_text htext
    refine ⟨cut, htext, rfl, fun hbefore => ?_, fun hafter => ?_⟩
    · rw [Cut.offset, hbefore, byteLength] at hpos
      exact Nat.lt_irrefl _ hpos
    · rw [hafter, byteLength] at hsize
      omega
  · rintro ⟨cut, htext, rfl, hbefore, hafter⟩
    have hsize := Cut.utf8ByteSize_of_text htext
    have hpos := byteLength_pos hafter
    exact ⟨isValid_iff_exists_cut.mpr ⟨cut, htext, rfl⟩, byteLength_pos hbefore, by omega⟩

/-- If another character starts behind an interior offset, there are two characters after it. -/
theorem IsInterior.exists_cut_of_lt (hoffset : IsInterior text offset)
    (hlater : IsInterior text later) (hlt : offset < later) :
    ∃ previous before current next after,
      (⟨previous :: before, current :: next :: after⟩ : Cut).text = text.toList ∧
        byteLength (previous :: before) = offset := by
  obtain ⟨⟨before, after⟩, htext, rfl, hbefore, hafter⟩ := isInterior_iff_exists_cut.mp hoffset
  match before, after with
  | previous :: before, current :: next :: after =>
      exact ⟨previous, before, current, next, after, htext, rfl⟩
  | previous :: before, [current] =>
      -- the other character would start inside the last one
      have hsize := Cut.utf8ByteSize_of_text htext
      rw [byteLength, byteLength, Nat.add_zero] at hsize
      have hend : later < byteLength (previous :: before) + current.utf8Size :=
        hsize ▸ hlater.lt_size
      exact absurd hlater.isValid (isInside_of_cut htext hlt hend).not_isValid

/-! ## Ends of a text, and offsets where it cannot be cut -/

/-- Where the text cannot be cut no word starts. -/
theorem startsWordAt_eq_false (hnot : ¬(⟨offset⟩ : String.Pos.Raw).IsValid text) :
    startsWordAt text offset = false := by
  cases hfound : Cut.at? text.toList offset with
  | none => rw [startsWordAt, hfound, Option.any_none]
  | some cut =>
      exact absurd (isValid_iff_exists_cut.mpr ⟨cut, Cut.at?_eq_some_iff.mp hfound⟩) hnot

theorem startsWordAt_zero (text : String) : startsWordAt text 0 = true := by
  have hcut : (⟨[], text.toList⟩ : Cut).text = text.toList := rfl
  exact startsWordAt_offset hcut

theorem startsWordAt_size (text : String) : startsWordAt text text.utf8ByteSize = true := by
  have hcut : (⟨text.toList.reverse, []⟩ : Cut).text = text.toList := by simp [Cut.text]
  have hstarts := startsWordAt_offset hcut
  rw [Cut.offset, byteLength_reverse, byteLength_toList] at hstarts
  rw [hstarts]
  cases text.toList.reverse <;> rfl

/-! ## A part of a text -/

/-- Two characters after an interior offset are enough to say whether a word starts there. -/
theorem startsWordAt_surrounded (hoffset : IsInterior text offset)
    (hlater : IsInterior text later) (hlt : offset < later) (start rest : String) :
    startsWordAt (start ++ text ++ rest) (start.utf8ByteSize + offset) =
      startsWordAt text offset := by
  obtain ⟨previous, before, current, next, after, htext, rfl⟩ :=
    hoffset.exists_cut_of_lt hlater hlt
  have hwhole : ((Cut.precededBy ⟨previous :: before, current :: next :: after⟩
      start.toList).followedBy rest.toList).text = (start ++ text ++ rest).toList := by
    rw [Cut.text_followedBy, Cut.text_precededBy, htext, String.toList_append,
      String.toList_append]
  have hstarts := startsWordAt_offset hwhole
  rw [Cut.offset_followedBy, Cut.offset_precededBy, byteLength_toList] at hstarts
  exact hstarts.trans (startsWordAt_offset htext).symm

-- with one character only the one behind it can make a difference
example : startsWordAt "AB" 1 = false ∧ startsWordAt ("AB" ++ "c") 1 = true := by decide

/-! ## The reversed text -/

/-- A text with its characters in reverse order. -/
def reversed (text : String) : String :=
  String.ofList text.toList.reverse

namespace Cut

/-- The same place in the reversed text. -/
def mirrored (cut : Cut) : Cut :=
  ⟨cut.after, cut.before⟩

theorem text_mirrored (cut : Cut) : cut.mirrored.text = cut.text.reverse := by
  rw [text, text, List.reverse_append, List.reverse_reverse]
  rfl

theorem offset_mirrored {cut : Cut} (htext : cut.text = text.toList) :
    cut.mirrored.offset = text.utf8ByteSize - cut.offset := by
  rw [utf8ByteSize_of_text htext, Nat.add_sub_cancel_left]
  rfl

/-- Without uppercase characters the rules treat both neighbours alike. -/
theorem wordStartsBetween_comm {c d : Char} (hc : isUppercase c = false)
    (hd : isUppercase d = false) (next other : Option Char) :
    wordStartsBetween c d next = wordStartsBetween d c other := by
  have hcapitals : isCapital c = false ∧ isCapital d = false :=
    ⟨isCapital_eq_false_of_isUppercase hc, isCapital_eq_false_of_isUppercase hd⟩
  unfold wordStartsBetween
  simp only [hc, hd, hcapitals, Bool.false_and, Bool.or_false]
  rw [Bool.or_right_comm (isWordChar c != isWordChar d), bne_comm (a := isWordChar c),
    bne_comm (a := isAlphabetic c), bne_comm (a := isDigit c)]

theorem startsWord_mirrored {cut : Cut} (hupper : ∀ c ∈ cut.text, isUppercase c = false) :
    cut.mirrored.startsWord = cut.startsWord := by
  obtain ⟨before, after⟩ := cut
  match before, after with
  | [], [] => rfl
  | [], _ :: _ => rfl
  | _ :: _, [] => rfl
  | previous :: before, current :: after =>
      refine wordStartsBetween_comm (hupper current ?_) (hupper previous ?_) _ _
      · exact List.mem_append_right _ List.mem_cons_self
      · exact List.mem_append_left _ (List.mem_reverse.mpr List.mem_cons_self)

end Cut

theorem text_mirrored_of_text {cut : Cut} (htext : cut.text = text.toList) :
    cut.mirrored.text = (reversed text).toList := by
  rw [Cut.text_mirrored, htext, reversed, String.toList_ofList]

theorem IsInterior.reversed (hoffset : IsInterior text offset) :
    IsInterior (reversed text) (text.utf8ByteSize - offset) := by
  obtain ⟨cut, htext, rfl, hbefore, hafter⟩ := isInterior_iff_exists_cut.mp hoffset
  exact isInterior_iff_exists_cut.mpr
    ⟨cut.mirrored, text_mirrored_of_text htext, Cut.offset_mirrored htext, hafter, hbefore⟩

/-- In a text without uppercase characters words start at the same places from either end. -/
theorem startsWordAt_reversed (hupper : ∀ c ∈ text.toList, isUppercase c = false)
    (hvalid : (⟨offset⟩ : String.Pos.Raw).IsValid text) :
    startsWordAt (reversed text) (text.utf8ByteSize - offset) = startsWordAt text offset := by
  obtain ⟨cut, htext, rfl⟩ := isValid_iff_exists_cut.mp hvalid
  rw [← Cut.offset_mirrored htext, startsWordAt_offset (text_mirrored_of_text htext),
    startsWordAt_offset htext]
  rw [← htext] at hupper
  exact Cut.startsWord_mirrored hupper

-- read from the other end, the start of a capitalized word is none
example : startsWordAt "aBc" 1 = true ∧ startsWordAt (reversed "aBc") 2 = false := by decide

/-! ## Slices -/

/-- Where a text can be cut, so can each beginning of it that is long enough. -/
theorem isValid_of_append {start rest : String}
    (hvalid : (⟨offset⟩ : String.Pos.Raw).IsValid (start ++ rest))
    (hle : offset ≤ start.utf8ByteSize) : (⟨offset⟩ : String.Pos.Raw).IsValid start := by
  rcases String.Pos.Raw.isValid_append.mp hvalid with hstart | ⟨hend, -⟩
  · exact hstart
  · have hsame : offset = start.utf8ByteSize := Nat.le_antisymm hle hend
    rw [hsame]
    exact String.Pos.Raw.isValid_rawEndPos

/-- A slice is refused unless its ends are in order and the text can be cut at both. -/
theorem exists_byteSlice_eq_ok_iff {start stop : Nat} :
    (∃ part, byteSlice text.toList start stop = .ok part) ↔
      start ≤ stop ∧ (⟨start⟩ : String.Pos.Raw).IsValid text ∧
        (⟨stop⟩ : String.Pos.Raw).IsValid text := by
  constructor
  · rintro ⟨part, hslice⟩
    unfold byteSlice at hslice
    split at hslice
    case h_1 => cases hslice
    case h_2 upTo hupTo =>
      split at hslice
      case h_1 => cases hslice
      case h_2 onwards honwards =>
        obtain ⟨htext, rfl⟩ := Cut.at?_eq_some_iff.mp hupTo
        obtain ⟨hbefore, rfl⟩ := Cut.at?_eq_some_iff.mp honwards
        have hsize := onwards.byteLength_text
        rw [hbefore, byteLength_reverse] at hsize
        refine ⟨Nat.le.intro hsize.symm, isValid_iff_exists_cut.mpr ?_,
          isValid_iff_exists_cut.mpr ⟨upTo, htext, rfl⟩⟩
        refine ⟨onwards.followedBy upTo.after, ?_, Cut.offset_followedBy _ _⟩
        rw [Cut.text_followedBy, hbefore, ← htext, Cut.text]
  · rintro ⟨hle, hstart, hstop⟩
    obtain ⟨upTo, rest, rfl, hupTo⟩ := String.Pos.Raw.isValid_iff_exists_append.mp hstop
    have hstopSize : stop = upTo.utf8ByteSize := String.Pos.Raw.ext_iff.mp hupTo
    have hvalid := isValid_of_append hstart (hstopSize ▸ hle)
    obtain ⟨first, part, rfl, hfirst⟩ := String.Pos.Raw.isValid_iff_exists_append.mp hvalid
    have hstartSize : start = first.utf8ByteSize := String.Pos.Raw.ext_iff.mp hfirst
    refine ⟨part.toList, ?_⟩
    rw [hstartSize, hstopSize, String.utf8ByteSize_append, ← byteLength_toList,
      ← byteLength_toList, String.toList_append, String.toList_append]
    exact byteSlice_append first.toList part.toList rest.toList

theorem byteSlice_after {cut : Cut} (htext : cut.text = text.toList) :
    byteSlice text.toList cut.offset text.utf8ByteSize = .ok cut.after := by
  have hslice := byteSlice_append cut.before.reverse cut.after []
  rw [List.append_nil, byteLength_reverse] at hslice
  rw [Cut.utf8ByteSize_of_text htext, ← htext]
  exact hslice

theorem byteSlice_before {cut : Cut} (htext : cut.text = text.toList) :
    byteSlice text.toList 0 cut.offset = .ok cut.before.reverse := by
  have hslice := byteSlice_append [] cut.before.reverse cut.after
  rw [List.nil_append, byteLength, Nat.zero_add, byteLength_reverse] at hslice
  rw [← htext]
  exact hslice

/-- No slice is refused when a word start is looked for. -/
theorem startsWordChecked_eq_ok (text : String) (offset : Nat) :
    startsWordChecked text offset = .ok (startsWordAt text offset) := by
  unfold startsWordChecked
  split
  case isTrue hends =>
    rcases hends with rfl | rfl
    · rw [startsWordAt_zero]
      rfl
    · rw [startsWordAt_size]
      rfl
  case isFalse hbetween =>
    split
    case isTrue hrefused =>
      have hnot : ¬(⟨offset⟩ : String.Pos.Raw).IsValid text := by
        rcases hrefused with hbeyond | hinvalid
        · exact not_isValid_iff.mpr (Or.inl hbeyond)
        · exact String.Pos.Raw.isValid_eq_false_iff.mp hinvalid
      rw [startsWordAt_eq_false hnot]
      rfl
    case isFalse hplaced =>
      obtain ⟨hwithin, hvalid⟩ := not_or.mp hplaced
      obtain ⟨hzero, hend⟩ := not_or.mp hbetween
      have hinterior : IsInterior text offset :=
        ⟨String.Pos.Raw.isValid_eq_true_iff.mp (Bool.eq_true_of_not_eq_false hvalid),
          Nat.pos_of_ne_zero hzero, by omega⟩
      obtain ⟨⟨before, after⟩, htext, rfl, hbefore, hafter⟩ :=
        isInterior_iff_exists_cut.mp hinterior
      rw [byteSlice_after htext, byteSlice_before htext, startsWordAt_offset htext]
      match before, after with
      | previous :: before, current :: rest =>
          simp only [bind, Except.bind, List.reverse_cons, List.getLast?_concat]
          rfl

/-! ## Totality and locality -/

/-- **Whether a word starts is known at every offset, and from the characters around it.**  A
slice of a text is refused if its ends are out of order, inside a character or beyond the end.
At no offset is one refused when a word start is looked for.  Beyond the end and inside a
character there is none, and at 0 and at the end there is one.  At an interior offset with
another character behind the one there, the answer is the same for every longer text, at the same
place in it.  In a text without uppercase characters it is the same for the reversed text as
well, at the offset counted from the other end, which is interior too. -/
theorem startsWordAt_total_and_local (text : String) :
    (∀ start stop : Nat, (∃ part, byteSlice text.toList start stop = .ok part) ↔
        start ≤ stop ∧ (⟨start⟩ : String.Pos.Raw).IsValid text ∧
          (⟨stop⟩ : String.Pos.Raw).IsValid text) ∧
      (∀ offset, startsWordChecked text offset = .ok (startsWordAt text offset)) ∧
      (∀ offset, text.utf8ByteSize < offset ∨ IsInside text offset →
        startsWordAt text offset = false) ∧
      startsWordAt text 0 = true ∧
      startsWordAt text text.utf8ByteSize = true ∧
      (∀ offset later, IsInterior text offset → IsInterior text later → offset < later →
        ∀ start rest : String,
          startsWordAt (start ++ text ++ rest) (start.utf8ByteSize + offset) =
            startsWordAt text offset) ∧
      ((∀ c ∈ text.toList, isUppercase c = false) → ∀ offset, IsInterior text offset →
        IsInterior (reversed text) (text.utf8ByteSize - offset) ∧
          startsWordAt (reversed text) (text.utf8ByteSize - offset) =
            startsWordAt text offset) := by
  refine ⟨fun _ _ => exists_byteSlice_eq_ok_iff, startsWordChecked_eq_ok text, ?refused,
    startsWordAt_zero text, startsWordAt_size text, ?within, ?fromTheEnd⟩
  case refused =>
    intro offset hrefused
    exact startsWordAt_eq_false (not_isValid_iff.mpr hrefused)
  case within =>
    intro offset later hoffset hlater hlt
    exact startsWordAt_surrounded hoffset hlater hlt
  case fromTheEnd =>
    intro hupper offset hoffset
    exact ⟨hoffset.reversed, startsWordAt_reversed hupper hoffset.isValid⟩

/-- In `né4x` the offset 2 is inside the second character, and at 3, between the second one and
the digit, a word starts. -/
theorem startsWordAt_total_and_local_sample :
    "né4x".utf8ByteSize < 7 ∧ startsWordAt "né4x" 7 = false ∧
      IsInside "né4x" 2 ∧ startsWordAt "né4x" 2 = false ∧
      IsInterior "né4x" 3 ∧ IsInterior "né4x" 4 ∧ startsWordAt "né4x" 3 = true ∧
      startsWordAt ("V" ++ "né4x" ++ "2") ("V".utf8ByteSize + 3) = startsWordAt "né4x" 3 ∧
      (∀ c ∈ "né4x".toList, isUppercase c = false) ∧
      IsInterior (reversed "né4x") ("né4x".utf8ByteSize - 3) ∧
      startsWordAt (reversed "né4x") ("né4x".utf8ByteSize - 3) = startsWordAt "né4x" 3 := by
  obtain ⟨-, -, hrefused, -, -, hwithin, hfromTheEnd⟩ := startsWordAt_total_and_local "né4x"
  have hbeyond : "né4x".utf8ByteSize < 7 := by decide
  have hinside : IsInside "né4x" 2 := ⟨"n", 'é', "4x", by decide, by decide, by decide⟩
  have hthree : IsInterior "né4x" 3 := ⟨by decide, by decide, by decide⟩
  have hfour : IsInterior "né4x" 4 := ⟨by decide, by decide, by decide⟩
  have hupper : ∀ c ∈ "né4x".toList, isUppercase c = false := fun c hc =>
    Bool.eq_false_iff.mpr
      (List.any_eq_false.mp (by decide : "né4x".toList.any isUppercase = false) c hc)
  exact ⟨hbeyond, hrefused 7 (Or.inl hbeyond), hinside, hrefused 2 (Or.inr hinside), hthree, hfour,
    by decide, hwithin 3 4 hthree hfour (by decide) "V" "2", hupper, hfromTheEnd hupper 3 hthree⟩

end FacetSearch.Text
