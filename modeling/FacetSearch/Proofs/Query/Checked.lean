import FacetSearch.Proofs.Query.Notation
import FacetSearch.Proofs.Query.Position

/-!
# Finding the tokens by positions

The tokens of a query can be found with every access checked and the steps of both loops
counted, and they are the tokens of the query (`tokensChecked_eq_ok`).  The walk is that of
`Position.lean`.  The rest of the way is treated here.

* Format words are cut out at byte offsets.  These are the lengths of the characters before
  them, and so none is inside a character (`partsAround_formatRanges`).
* In the pass that puts notation together some tokens are settled and the others pending, and
  the position is that of the second pending one (`Repair.between`).  A `v` is only taken off a
  token that has more, and the last byte of this token is the `v` (`Repair.losesFinalV_iff`,
  `Repair.byteSlice_final`).

A `v` that is taken off leaves one token more, and the pass where it is.  It is counted twice
in the weight, besides the pending tokens, so that the weight goes down even then
(`Repair.exists_step`).  At most every second token loses a `v`, since a number comes after it
(`Repair.two_mul_finalVs_le`), so at the start the weight is at most twice the number of tokens.
-/

namespace FacetSearch.Query

/-! ## Format words -/

/-- The ranges behind a stretch of text that has been read give the parts that are still to
come. -/
theorem partsAround_formatRanges (before part cs : List Char) :
    partsAround (before ++ part.reverse ++ cs) (Text.byteLength before)
        (formatRanges (Text.byteLength (before ++ part.reverse)) cs) =
      .ok (splitFormatsAfter part cs) := by
  fun_induction splitFormatsAfter part cs generalizing before with
  | case1 part =>
      have hpart := byteSlice_append before part.reverse []
      rw [← Text.byteLength_append] at hpart
      rw [formatRanges, partsAround, List.append_nil]
      rw [List.append_nil] at hpart
      rw [hpart]
      rfl
  | case2 part c rest hnone ih =>
      have hnext : before ++ (c :: part).reverse = before ++ part.reverse ++ [c] := by
        rw [List.reverse_cons, List.append_assoc]
      have hlater := ih before
      rw [hnext, Text.byteLength_append _ [c], List.append_assoc, List.singleton_append] at hlater
      rw [formatRanges, hnone]
      exact hlater
  | case3 part c rest word hword ih =>
      have hsplit := append_drop_of_formatWordAt? hword
      have hlater := ih (before ++ part.reverse ++ word)
      have hpart := byteSlice_append before part.reverse (c :: rest)
      have hfound := byteSlice_append (before ++ part.reverse) word (rest.drop (word.length - 1))
      rw [← Text.byteLength_append] at hpart
      rw [List.append_assoc, hsplit] at hfound
      rw [List.reverse_nil, List.append_nil, List.append_assoc, hsplit,
        Text.byteLength_append _ word] at hlater
      rw [formatRanges, hword]
      simp only [partsAround, hpart, hfound, hlater]
      rfl

theorem splitFormatsChecked_eq_ok (word : List Char) :
    splitFormatsChecked word = .ok (splitFormats word) := by
  have hparts := partsAround_formatRanges [] [] word
  rw [List.reverse_nil, List.append_nil, List.nil_append, Text.byteLength] at hparts
  rw [splitFormatsChecked, hparts]
  rfl

theorem partsChecked_eq_ok (query : List Char) :
    partsChecked (pieces query) = .ok (parts query) := by
  have hpieces : ((pieces query).filter (· ≠ [])).mapM
      (fun piece => splitFormatsChecked (Text.lowerChars piece)) =
        .ok (((pieces query).filter (· ≠ [])).map
          fun piece => splitFormats (Text.lowerChars piece)) := by
    simp only [splitFormatsChecked_eq_ok]
    exact List.mapM_pure
  rw [partsChecked, hpieces, parts, List.flatMap_def]
  rfl

/-! ## Notation -/

namespace Repair

variable {settled rest : List (List Char)} {a b : List Char}

theorem byteLength_final (before : List Char) :
    Text.byteLength (before ++ ['v']) = Text.byteLength before + 1 := by
  rw [Text.byteLength_append]
  rfl

/-- The last byte of a token that ends in a `v` is this `v`. -/
theorem byteSlice_final (before : List Char) :
    byteSlice (before ++ ['v']) 0 (Text.byteLength (before ++ ['v']) - 1) = .ok before := by
  have hslice := byteSlice_append [] before ['v']
  rw [List.nil_append, Text.byteLength, Nat.zero_add] at hslice
  rw [byteLength_final, Nat.add_sub_cancel, hslice]

theorem losesFinalV_iff :
    losesFinalV a b ↔ (∃ before, before ≠ [] ∧ a = before ++ ['v']) ∧ isNumber b := by
  simp only [losesFinalV, Bool.and_eq_true, decide_eq_true_eq, beq_iff_eq,
    List.getLast?_eq_some_iff]
  refine and_congr_left fun _ => ?_
  constructor
  · rintro ⟨hlong, before, rfl⟩
    refine ⟨before, ?_, rfl⟩
    rintro rfl
    exact absurd hlong (by decide)
  · rintro ⟨before, hbefore, rfl⟩
    obtain ⟨c, rest, rfl⟩ := List.exists_cons_of_ne_nil hbefore
    have hpos := c.utf8Size_pos
    refine ⟨?_, _, rfl⟩
    rw [byteLength_final, Text.byteLength]
    omega

/-- A token that loses its `v` is open with the number after it. -/
theorem losesFinalV_eq_false_of_areOpen (hopen : areOpen a b = false) :
    losesFinalV a b = false := by
  refine Bool.eq_false_iff.mpr fun hloses => ?_
  obtain ⟨⟨before, -, rfl⟩, hb⟩ := losesFinalV_iff.mp hloses
  rw [areOpen_iff.mpr (Or.inl ⟨by simp, hb⟩)] at hopen
  cases hopen

/-- The `v` of a notation stands alone. -/
theorem losesFinalV_eq_false_of_areNotation (hjoins : areNotation a b) :
    losesFinalV a b = false := by
  rcases areNotation_iff.mp hjoins with ⟨rfl, -⟩ | ⟨-, rfl⟩
  · exact rfl
  · rw [losesFinalV, (by decide : isNumber ['x'] = false), Bool.and_false]

/-! ### Steps -/

/-- The place of the pass when some tokens are settled and others pending. -/
def between (settled pending : List (List Char)) : Repair :=
  ⟨settled.length + 1, settled ++ pending⟩

theorem step_between_finish {pending : List (List Char)} (hpending : pending.length < 2) :
    (between settled pending).step = .ok none := by
  have hend : ¬(between settled pending).position < (between settled pending).tokens.length := by
    simp only [between, List.length_append]
    omega
  rw [step, if_neg hend]
  rfl

/-- With two tokens pending, a step finds both and goes by what they are. -/
theorem step_between_cons (settled : List (List Char)) (a b : List Char)
    (rest : List (List Char)) :
    (between settled (a :: b :: rest)).step =
      if losesFinalV a b then
        (byteSlice a 0 (Text.byteLength a - 1)).map fun before =>
          some (between settled (before :: ['v'] :: b :: rest))
      else if areNotation a b then .ok (some (between (settled ++ [a ++ b]) rest))
      else .ok (some (between (settled ++ [a]) (b :: rest))) := by
  have hinside : (between settled (a :: b :: rest)).position <
      (between settled (a :: b :: rest)).tokens.length := by
    simp only [between, List.length_append, List.length_cons]
    omega
  have hfirst : itemAt (settled ++ a :: b :: rest) settled.length = .ok a :=
    itemAt_append settled a (b :: rest)
  have hsecond := itemAt_append (settled ++ [a]) b rest
  have hfinal (before : List Char) := splice_append settled [a] (b :: rest) [before, ['v']]
  have hjoin := splice_append settled [a, b] rest [a ++ b]
  simp only [List.append_assoc, List.cons_append, List.nil_append, List.length_append,
    List.length_cons, List.length_nil, Nat.zero_add] at hsecond hfinal hjoin
  rw [step, if_pos hinside]
  simp only [between, predecessor, hfirst, hsecond, bind, Except.bind]
  split
  case isTrue =>
    cases byteSlice a 0 (Text.byteLength a - 1) with
    | error fault => rfl
    | ok before => simp only [hfinal]; rfl
  split
  case isTrue =>
    simp only [hjoin, List.append_assoc, List.singleton_append, List.length_append,
      List.length_singleton]
    rfl
  case isFalse =>
    simp only [List.append_assoc, List.singleton_append, List.length_append, List.length_singleton]
    rfl

/-! ### The whole pass -/

/-- The number of tokens that lose a `v` to the number after them. -/
def finalVs : List (List Char) → Nat
  | a :: b :: rest => (if losesFinalV a b then 1 else 0) + finalVs (b :: rest)
  | _ => 0

theorem finalVs_le_cons (a : List Char) (rest : List (List Char)) :
    finalVs rest ≤ finalVs (a :: rest) := by
  cases rest with
  | nil => exact Nat.le_refl _
  | cons b more => exact Nat.le_add_left _ _

theorem finalVs_cons_of_isNumber (hb : isNumber b) : finalVs (b :: rest) = finalVs rest := by
  cases rest with
  | nil => rfl
  | cons c more =>
      have hkeeps : losesFinalV b c = false := by
        refine Bool.eq_false_iff.mpr fun hloses => ?_
        obtain ⟨⟨before, -, rfl⟩, -⟩ := losesFinalV_iff.mp hloses
        rw [isNumber_final] at hb
        cases hb
      rw [finalVs, hkeeps, if_neg Bool.false_ne_true, Nat.zero_add]

/-- A number comes after each of these tokens, and it is none of them. -/
theorem two_mul_finalVs_le : ∀ tokens : List (List Char), 2 * finalVs tokens ≤ tokens.length
  | [] | [_] => Nat.zero_le _
  | a :: b :: rest => by
      have hnext := two_mul_finalVs_le (b :: rest)
      have hrest := two_mul_finalVs_le rest
      rw [finalVs]
      split
      case isTrue hloses =>
        rw [finalVs_cons_of_isNumber (losesFinalV_iff.mp hloses).2]
        simp only [List.length_cons]
        omega
      case isFalse =>
        simp only [List.length_cons] at hnext ⊢
        omega

/-- A step leads on to less weight, and to a place from which the pass leaves the same. -/
theorem exists_step (settled : List (List Char)) (a b : List Char) (rest : List (List Char)) :
    ∃ later pending, (between settled (a :: b :: rest)).step = .ok (some (between later pending)) ∧
      later ++ fuse pending = settled ++ fuse (a :: b :: rest) ∧
      pending.length + 2 * finalVs pending <
        (a :: b :: rest).length + 2 * finalVs (a :: b :: rest) := by
  have hfewer := finalVs_le_cons b rest
  rw [step_between_cons]
  -- a `v` is taken off, the two tokens are put together, or the first one is settled
  rcases neighbour_cases a b with ⟨before, hbefore, rfl, hb⟩ | hjoins | hopen
  · have hloses := losesFinalV_iff.mpr ⟨⟨before, hbefore, rfl⟩, hb⟩
    have hhead : areOpen before ['v'] = false := areOpen_final before []
    have hversion : areNotation ['v'] b := areNotation_iff.mpr (Or.inl ⟨rfl, hb⟩)
    refine ⟨settled, before :: ['v'] :: b :: rest, ?_, ?_, ?_⟩
    · rw [if_pos hloses, byteSlice_final]
      rfl
    · rw [fuse_final hbefore hb, fuse_keep hhead, fuse_join hversion]
      rfl
    · have hnone : finalVs (before :: ['v'] :: b :: rest) = finalVs (b :: rest) := by
        simp [finalVs, losesFinalV_eq_false_of_areOpen hhead,
          losesFinalV_eq_false_of_areNotation hversion]
      have hone : finalVs ((before ++ ['v']) :: b :: rest) = 1 + finalVs (b :: rest) := by
        rw [finalVs, if_pos hloses]
      rw [hnone, hone]
      simp only [List.length_cons]
      omega
  · have hkeeps := losesFinalV_eq_false_of_areNotation hjoins
    refine ⟨settled ++ [a ++ b], rest, ?_, ?_, ?_⟩
    · rw [hkeeps, if_neg Bool.false_ne_true, if_pos hjoins]
    · rw [fuse_join hjoins, List.append_assoc, List.singleton_append]
    · simp only [finalVs, List.length_cons]
      omega
  · have hkeeps := losesFinalV_eq_false_of_areOpen hopen
    have hapart := areNotation_eq_false_of_areOpen hopen
    refine ⟨settled ++ [a], b :: rest, ?_, ?_, ?_⟩
    · rw [hkeeps, if_neg Bool.false_ne_true, hapart, if_neg Bool.false_ne_true]
    · rw [fuse_keep hopen, List.append_assoc, List.singleton_append]
    · simp only [finalVs, List.length_cons]
      omega

/-- A place of the pass over some tokens, from which it leaves what it does of all of them. -/
def Follows (tokens : List (List Char)) (weight : Nat) (repair : Repair) : Prop :=
  ∃ settled pending, repair = between settled pending ∧ settled ++ fuse pending = fuse tokens ∧
    pending.length + 2 * finalVs pending = weight

theorem follows_start (tokens : List (List Char)) :
    Follows tokens (tokens.length + 2 * finalVs tokens) (start tokens) :=
  ⟨[], tokens, rfl, rfl, rfl⟩

theorem progresses (tokens : List (List Char)) : Progresses step (Follows tokens) := by
  intro weight repair hfollows
  obtain ⟨settled, pending, rfl, hfuse, rfl⟩ := hfollows
  match pending with
  | [] | [_] => exact ⟨none, step_between_finish (by simp), nofun⟩
  | a :: b :: rest =>
      obtain ⟨later, next, hstep, hsame, hless⟩ := exists_step settled a b rest
      refine ⟨_, hstep, ?_⟩
      intro repair hrepair
      obtain rfl := Option.some.inj hrepair
      exact ⟨_, hless, later, next, rfl, hsame.trans hfuse, rfl⟩

theorem Follows.one_le_position {tokens : List (List Char)} {weight : Nat} {repair : Repair}
    (hfollows : Follows tokens weight repair) : 1 ≤ repair.position := by
  obtain ⟨settled, pending, rfl, -, -⟩ := hfollows
  exact Nat.le_add_left 1 settled.length

/-- At the end of the pass its tokens are those that it leaves. -/
theorem Follows.tokens_eq {tokens : List (List Char)} {weight : Nat} {repair : Repair}
    (hfollows : Follows tokens weight repair) (hend : repair.step = .ok none) :
    repair.tokens = fuse tokens := by
  obtain ⟨settled, pending, rfl, hfuse, -⟩ := hfollows
  match pending with
  | [] => rw [← hfuse, fuse_nil]; rfl
  | [a] => rw [← hfuse, fuse_singleton]; rfl
  | a :: b :: rest =>
      obtain ⟨later, next, hstep, -, -⟩ := exists_step settled a b rest
      rw [hstep] at hend
      cases hend

end Repair

/-- The pass by positions, which takes no more than twice as many steps as there are tokens,
leaves the same tokens. -/
theorem fuseWithin_eq_ok (tokens : List (List Char)) :
    fuseWithin (2 * tokens.length) tokens = .ok (fuse tokens) := by
  have hle : tokens.length + 2 * Repair.finalVs tokens ≤ 2 * tokens.length := by
    have hfinal := Repair.two_mul_finalVs_le tokens
    omega
  obtain ⟨last, less, hrun, hlast, hend⟩ :=
    (Repair.progresses tokens).runWithin_eq_ok hle (Repair.follows_start tokens)
  rw [fuseWithin, hrun, ← hlast.tokens_eq hend]
  rfl

/-! ## Tokens -/

theorem tokensChecked_eq_ok (query : String) : tokensChecked query = .ok (tokens query) := by
  simp only [tokensChecked, piecesWithin_eq_ok, partsChecked_eq_ok, fuseWithin_eq_ok, bind,
    Except.bind]
  rfl

/-- **The loops halt, and no access is out of range.**  In a walk through a query the open piece
starts where the walk is or before, and both are in the query.  So are the end of each break and
what it keeps.  In the pass over the tokens there is always a position before the one looked at,
and a token of which a `v` is cut off keeps something in front of it.  No step of either loop
fails.  The walk takes at most twice as many steps as the query has characters, the pass at most
twice as many as there are tokens, and what they find are the tokens of the query. -/
theorem loops_halt_in_range :
    (∀ (chars : List Char) (scan : Scan), Reaches (Scan.step chars) Scan.start scan →
      scan.opened ≤ scan.position ∧ scan.position ≤ chars.length ∧
        ∃ next, Scan.step chars scan = .ok next) ∧
      (∀ (chars : List Char) (position : Nat),
        ∃ found, breakAtPosition chars position = .ok found ∧ ∀ placed ∈ found,
          position ≤ placed.stop ∧ placed.stop ≤ chars.length ∧
            ∀ range ∈ placed.kept,
              position ≤ range.1 ∧ range.1 ≤ range.2 ∧ range.2 ≤ placed.stop) ∧
      (∀ chars : List Char, piecesWithin (2 * chars.length) chars = .ok (pieces chars)) ∧
      (∀ (tokens : List (List Char)) (repair : Repair),
        Reaches Repair.step (Repair.start tokens) repair →
          1 ≤ repair.position ∧ ∃ next, repair.step = .ok next) ∧
      (∀ a b : List Char, Repair.losesFinalV a b →
        ∃ before, before ≠ [] ∧ a = before ++ ['v'] ∧
          byteSlice a 0 (Text.byteLength a - 1) = .ok before) ∧
      (∀ tokens : List (List Char),
        fuseWithin (2 * tokens.length) tokens = .ok (fuse tokens)) ∧
      ∀ query : String, tokensChecked query = .ok (tokens query) := by
  refine ⟨?_, breakAtPosition_range, piecesWithin_eq_ok, ?_, ?_, fuseWithin_eq_ok,
    tokensChecked_eq_ok⟩
  · intro chars scan hreaches
    obtain ⟨weight, hfollows⟩ :=
      (Scan.progresses chars).exists_of_reaches (Scan.follows_start chars) hreaches
    obtain ⟨next, hstep, -⟩ := Scan.progresses chars weight scan hfollows
    exact ⟨hfollows.range.1, hfollows.range.2, next, hstep⟩
  · intro tokens repair hreaches
    obtain ⟨weight, hfollows⟩ :=
      (Repair.progresses tokens).exists_of_reaches (Repair.follows_start tokens) hreaches
    obtain ⟨next, hstep, -⟩ := Repair.progresses tokens weight repair hfollows
    exact ⟨hfollows.one_le_position, next, hstep⟩
  · intro a b hloses
    obtain ⟨⟨before, hbefore, rfl⟩, -⟩ := Repair.losesFinalV_iff.mp hloses
    exact ⟨before, hbefore, rfl, Repair.byteSlice_final before⟩

/-- The walk through `aBa` after its first step, the pass over `dev` and `2` after a `v` is taken
off, which leaves a token more, and the `v` that is cut off there. -/
theorem loops_halt_in_range_sample :
    (Reaches (Scan.step ['a', 'B', 'a']) Scan.start ⟨0, 1, []⟩ ∧
      ∃ next, Scan.step ['a', 'B', 'a'] ⟨0, 1, []⟩ = .ok next) ∧
      (Reaches Repair.step (Repair.start [['d', 'e', 'v'], ['2']])
          ⟨1, [['d', 'e'], ['v'], ['2']]⟩ ∧
        ∃ next, Repair.step ⟨1, [['d', 'e'], ['v'], ['2']]⟩ = .ok next) ∧
      Repair.losesFinalV ['d', 'e', 'v'] ['2'] ∧
        ∃ before, before ≠ [] ∧ ['d', 'e', 'v'] = before ++ ['v'] ∧
          byteSlice ['d', 'e', 'v'] 0 (Text.byteLength ['d', 'e', 'v'] - 1) = .ok before := by
  obtain ⟨hwalk, -, -, hpass, hfinal, -⟩ := loops_halt_in_range
  have hscan : Reaches (Scan.step ['a', 'B', 'a']) Scan.start ⟨0, 1, []⟩ :=
    Relation.ReflTransGen.single (by rfl)
  have hrepair : Reaches Repair.step (Repair.start [['d', 'e', 'v'], ['2']])
      ⟨1, [['d', 'e'], ['v'], ['2']]⟩ :=
    Relation.ReflTransGen.single (by rfl)
  have hloses : Repair.losesFinalV ['d', 'e', 'v'] ['2'] := by decide
  exact ⟨⟨hscan, (hwalk _ _ hscan).2.2⟩, ⟨hrepair, (hpass _ _ hrepair).2⟩, hloses,
    hfinal _ _ hloses⟩

end FacetSearch.Query
