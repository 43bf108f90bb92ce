import AnalysisPlan.Console.Wrap
import Mathlib.Data.List.Chain
import Mathlib.Data.List.DropRight

/-!
# Wrapping loses nothing but blanks

A line is broken into parts that are the line when put together, and no part is wider than
the room there is, blanks at its end apart. What is then dropped or cut off are such
blanks, with one exception: the place of a cut is looked for by halving, and a mark that
takes no room may be lost with the blanks behind it. Texts in which no such mark stands
before a blank are firm, and come out of wrapping with all that they hold but blanks
(`Wrap.squeeze_wrap`).
-/

namespace AnalysisPlan

namespace Text

/-- The text without its blanks. -/
def squeeze (s : List Char) : List Char := s.filter (!isBlank ·)

/-- No mark that takes no room stands right before a blank. -/
def Firm (s : List Char) : Prop :=
  s.IsChain fun c d => isBlank d = true → isBlank c = true ∨ 0 < charWidth c

instance (s : List Char) : Decidable (Firm s) := inferInstanceAs (Decidable (s.IsChain _))

variable {s t blanks : List Char}

@[simp] theorem squeeze_nil : squeeze [] = [] := rfl

@[simp] theorem squeeze_append (s t : List Char) : squeeze (s ++ t) = squeeze s ++ squeeze t :=
  List.filter_append s t

theorem squeeze_cons_of_blank {c : Char} (h : isBlank c = true) (s : List Char) :
    squeeze (c :: s) = squeeze s := by
  simp [squeeze, h]

theorem squeeze_eq_nil (h : ∀ c ∈ s, isBlank c = true) : squeeze s = [] := by
  simpa [squeeze] using h

theorem squeeze_isInfix (h : s <:+: t) : squeeze s <:+: squeeze t := by
  obtain ⟨before, behind, rfl⟩ := h
  exact ⟨squeeze before, squeeze behind, by simp⟩

theorem squeeze_flatten (lines : List (List Char)) :
    squeeze lines.flatten = (lines.map squeeze).flatten := List.filter_flatten

theorem Firm.of_isInfix (h : Firm t) (hs : s <:+: t) : Firm s := List.IsChain.infix h hs

theorem firm_of_forall (h : ∀ c ∈ s, isBlank c = false) : Firm s := by
  induction s with
  | nil => exact List.isChain_nil
  | cons c s ih =>
      refine List.isChain_cons.2
        ⟨fun d hd hblank => ?_, ih fun d hd => h d (List.mem_cons_of_mem c hd)⟩
      rw [h d (List.mem_cons_of_mem c (List.mem_of_mem_head? hd))] at hblank
      cases hblank

theorem Firm.append (hs : Firm s) (ht : Firm t)
    (hlast : ∀ c ∈ s.getLast?, isBlank c = true ∨ 0 < charWidth c) : Firm (s ++ t) :=
  List.isChain_append.2 ⟨hs, ht, fun c hc _ _ _ => hlast c hc⟩

theorem charWidth_le_two (c : Char) : charWidth c ≤ 2 := by
  unfold charWidth
  repeat' split
  all_goals decide

/-- A text is what is left of it without the blanks at its end, and these blanks. -/
theorem exists_trimRight_append (s : List Char) :
    ∃ blanks, s = trimRight s ++ blanks ∧ ∀ c ∈ blanks, isBlank c = true := by
  refine ⟨(s.reverse.takeWhile isBlank).reverse, ?_, fun c hc => ?_⟩
  · rw [trimRight, ← List.reverse_append, List.takeWhile_append_dropWhile, List.reverse_reverse]
  · exact List.mem_takeWhile_imp (List.mem_reverse.1 hc)

theorem trimRight_of_blanks (h : ∀ c ∈ s, isBlank c = true) : trimRight s = [] := by
  have hdrop : s.reverse.dropWhile isBlank = [] :=
    List.dropWhile_eq_nil_iff.2 fun c hc => h c (List.mem_reverse.1 hc)
  rw [trimRight, hdrop]
  rfl

theorem trimRight_append_of_blanks (h : ∀ c ∈ blanks, isBlank c = true) :
    trimRight (s ++ blanks) = trimRight s := by
  have hall : ∀ c ∈ blanks.reverse, isBlank c = true := fun c hc => h c (List.mem_reverse.1 hc)
  rw [trimRight, List.reverse_append, List.dropWhile_append_of_pos hall, trimRight]

theorem trimRight_concat {c : Char} (h : isBlank c = false) (s : List Char) :
    trimRight (s ++ [c]) = s ++ [c] := by
  simp [trimRight, h]

/-- A text without blanks at its end ends in something else, if in anything. -/
theorem exists_concat_of_trimRight_ne_nil (h : trimRight s ≠ []) :
    ∃ before c, trimRight s = before ++ [c] ∧ isBlank c = false := by
  have hhead := List.head?_dropWhile_not isBlank s.reverse
  unfold trimRight at h ⊢
  cases hrest : s.reverse.dropWhile isBlank with
  | nil => exact absurd (by rw [hrest]; rfl) h
  | cons c rest =>
      rw [hrest] at hhead
      exact ⟨rest.reverse, c, List.reverse_cons, by simpa using hhead⟩

/-- The blanks at the end of two texts put together are those of the second, if it has
anything else. -/
theorem trimRight_append (s t : List Char) :
    trimRight (s ++ t) = if trimRight t = [] then trimRight s else s ++ trimRight t := by
  obtain ⟨blanks, ht, hblanks⟩ := exists_trimRight_append t
  split
  · next h =>
      rw [h, List.nil_append] at ht
      rw [ht, trimRight_append_of_blanks hblanks]
  · next h =>
      obtain ⟨before, c, hbefore, hc⟩ := exists_concat_of_trimRight_ne_nil h
      nth_rewrite 1 [ht]
      rw [← List.append_assoc, trimRight_append_of_blanks hblanks, hbefore, ← List.append_assoc,
        trimRight_concat hc]

@[simp] theorem squeeze_trimRight (s : List Char) : squeeze (trimRight s) = squeeze s := by
  obtain ⟨blanks, hs, hblanks⟩ := exists_trimRight_append s
  nth_rewrite 2 [hs]
  rw [squeeze_append, squeeze_eq_nil hblanks, List.append_nil]

theorem width_trimRight_le (s : List Char) : width (trimRight s) ≤ width s := by
  obtain ⟨blanks, hs, -⟩ := exists_trimRight_append s
  nth_rewrite 2 [hs]
  rw [width_append]
  exact Nat.le_add_right _ _

theorem width_trimRight_append_le (s t : List Char) :
    width (trimRight (s ++ t)) ≤ max (width (trimRight s)) (width s + width (trimRight t)) := by
  rw [trimRight_append]
  split
  · exact Nat.le_max_left _ _
  · rw [width_append]
    exact Nat.le_max_right _ _

/-! ## Cutting a line -/

theorem width_take_succ (s : List Char) {k : Nat} (h : k < s.length) :
    width (s.take (k + 1)) = width (s.take k) + charWidth s[k] := by
  rw [List.take_succ_eq_append_getElem h, width_append, width_cons, width_nil, Nat.add_zero]

/-- A text cut to `room` cells: a beginning of it, with a blank in the place of a wide
character if only half of that would fit. -/
def IsCut (room : Nat) (s result : List Char) : Prop :=
  (∃ k, result = s.take k ∧ width result = room) ∨
    ∃ k, ∃ h : k < s.length, result = s.take k ++ [' '] ∧ width (s.take k) + 1 = room ∧
      charWidth s[k] = 2

/-- Halving finds a cut. What lies before the place looked for takes less than `room` cells,
what lies behind it no less. -/
theorem isCut_cutBetween {room : Nat} (hroom : 0 < room) {n low high : Nat}
    (hlow : low = 0 ∨ width (s.take (low + 1)) < room) (hhigh : room ≤ width (s.take high))
    (hlt : low < high) (hlength : high ≤ s.length) (hn : high - low ≤ n) :
    IsCut room s (cutBetween room s n low high) := by
  induction n generalizing low high with
  | zero => omega
  | succ n ih =>
      have hmiddle : (low + high) / 2 < s.length := by omega
      have hwidth := width_take_succ s hmiddle
      have hlast : (s.take ((low + high) / 2 + 1)).getLast? = some s[(low + high) / 2] := by
        rw [List.take_succ_eq_append_getElem hmiddle, List.getLast?_concat]
      have hdrop : (s.take ((low + high) / 2 + 1)).dropLast = s.take ((low + high) / 2) := by
        rw [List.take_succ_eq_append_getElem hmiddle, List.dropLast_concat]
      rw [cutBetween]
      simp only [hlast, hdrop, Option.map_some, Option.some.injEq]
      generalize hm : (low + high) / 2 = middle at *
      split
      · next hhalf =>
          refine .inr ⟨middle, hmiddle, rfl, ?_, hhalf.2⟩
          omega
      · next hhalf =>
          split
          · next hfull => exact .inl ⟨_, rfl, hfull⟩
          · next hfull =>
              have htwo := charWidth_le_two s[middle]
              split
              · next hover =>
                  -- what ends before the character at hand is not too short, since the
                  -- character is no wide one of which half would fit
                  have hmore : room ≤ width (s.take middle) := by
                    by_contra hless
                    exact hhalf ⟨by omega, by omega⟩
                  have hpos : low < middle := by
                    by_contra hle
                    have hzero : middle = low := by omega
                    subst hzero
                    rcases hlow with rfl | hlow
                    · rw [List.take_zero, width_nil] at hmore
                      omega
                    · omega
                  exact ih hlow hmore hpos (by omega) (by omega)
              · next hover =>
                  have hless : width (s.take (middle + 1)) < room := by omega
                  have hnext : middle + 1 < high ∨ middle + 1 = high := by omega
                  rcases hnext with hnext | hnext
                  · exact ih (.inr hless) hhigh (by omega) hlength (by omega)
                  · rw [hnext] at hless
                    omega

theorem isCut_cut {room : Nat} (hroom : 0 < room) (h : room < width s) :
    IsCut room s (cut room s) := by
  have hne : s ≠ [] := by
    rintro rfl
    cases h
  rw [cut, if_neg (by omega)]
  refine isCut_cutBetween hroom (.inl rfl) ?_ (List.length_pos_of_ne_nil hne) le_rfl (by omega)
  rw [List.take_length]
  omega

theorem width_take_le (s : List Char) (k : Nat) : width (s.take k) ≤ width s := by
  nth_rewrite 2 [← List.take_append_drop k s]
  rw [width_append]
  exact Nat.le_add_right _ _

/-- What stands before the blanks at the end of a firm text is wider than any beginning of
it. -/
theorem width_take_lt (hfirm : Firm s) (hne : trimRight s ≠ s) {k : Nat}
    (hk : k < (trimRight s).length) : width (s.take k) < width (trimRight s) := by
  obtain ⟨blanks, hs, hblanks⟩ := exists_trimRight_append s
  have hbody : trimRight s ≠ [] := List.ne_nil_of_length_pos (Nat.zero_lt_of_lt hk)
  obtain ⟨before, c, hbefore, hc⟩ := exists_concat_of_trimRight_ne_nil hbody
  have hwide : 0 < charWidth c := by
    cases blanks with
    | nil => exact absurd (hs.trans (List.append_nil _)).symm hne
    | cons d blanks =>
        rw [hs, hbefore, List.append_assoc] at hfirm
        have hpair := (List.isChain_append.1 hfirm).2.1
        have hor := (List.isChain_cons_cons.1 hpair).1 (hblanks d List.mem_cons_self)
        exact hor.resolve_left (by simp [hc])
  have htake : s.take k = before.take k := by
    rw [hbefore, List.length_append, List.length_singleton] at hk
    nth_rewrite 1 [hs]
    rw [hbefore, List.append_assoc, List.take_append_of_le_length (Nat.le_of_lt_succ hk)]
  have hle := width_take_le before k
  rw [htake, hbefore, width_append, width_cons, width_nil]
  omega

theorem squeeze_take {k : Nat} (hk : (trimRight s).length ≤ k) :
    squeeze (s.take k) = squeeze s := by
  obtain ⟨blanks, hs, hblanks⟩ := exists_trimRight_append s
  nth_rewrite 1 [hs]
  rw [List.take_append, List.take_of_length_le hk, squeeze_append, squeeze_trimRight,
    squeeze_eq_nil fun c hc => hblanks c (List.mem_of_mem_take hc), List.append_nil]

/-- A cut of a firm text takes nothing but blanks away if there are only blanks behind the
room. -/
theorem squeeze_cut {room : Nat} (hroom : 0 < room) (hfirm : Firm s)
    (htrim : width (trimRight s) ≤ room) (h : room < width s) :
    squeeze (cut room s) = squeeze s := by
  have hne : trimRight s ≠ s := by
    intro heq
    rw [heq] at htrim
    omega
  rcases isCut_cut hroom h with ⟨k, hcut, hwidth⟩ | ⟨k, hk, hcut, hwidth, hwide⟩
  · rw [hcut] at hwidth ⊢
    refine squeeze_take ?_
    by_contra hless
    have hlt := width_take_lt hfirm hne (Nat.lt_of_not_le hless)
    omega
  · rw [hcut, squeeze_append, squeeze_cons_of_blank (by decide), squeeze_nil, List.append_nil]
    refine squeeze_take ?_
    by_contra hless
    have hsucc := width_take_succ s hk
    have hbefore : s.take (k + 1) = (trimRight s).take (k + 1) := by
      obtain ⟨blanks, hs, -⟩ := exists_trimRight_append s
      nth_rewrite 1 [hs]
      exact List.take_append_of_le_length (Nat.lt_of_not_le hless)
    have hle := width_take_le (trimRight s) (k + 1)
    rw [← hbefore] at hle
    omega

end Text

namespace Console
namespace Wrap

open Text (squeeze Firm trimRight width isBlank charWidth)

variable {o : Overflow} {room : Nat} {s line : List Char}

/-! ## One line -/

/-- Of a line only blanks at its end are dropped. -/
theorem exists_dropExcess_eq (room : Nat) (line : List Char) :
    ∃ blanks, dropExcess room line = trimRight line ++ blanks ∧
      trimRight line ++ blanks <+: line ∧ ∀ c ∈ blanks, isBlank c = true := by
  obtain ⟨blanks, hline, hblanks⟩ := Text.exists_trimRight_append line
  have hlength := congrArg List.length hline
  rw [List.length_append] at hlength
  have hdrop : dropExcess room line = trimRight line ++
      blanks.take (blanks.length - min blanks.length (line.length - room)) := by
    have hsize : line.length - (trimRight line).length = blanks.length := by omega
    have htake : line.length - min blanks.length (line.length - room) =
        (trimRight line).length + (blanks.length - min blanks.length (line.length - room)) := by
      omega
    rw [dropExcess, hsize, htake]
    exact (congrArg (List.take _) hline).trans (List.take_length_add_append _)
  refine ⟨_, hdrop, ?_, fun c hc => hblanks c (List.mem_of_mem_take hc)⟩
  rw [← hdrop]
  exact List.take_prefix _ _

theorem trimRight_dropExcess (room : Nat) (line : List Char) :
    trimRight (dropExcess room line) = trimRight line := by
  obtain ⟨blanks, hdrop, -, hblanks⟩ := exists_dropExcess_eq room line
  obtain ⟨others, hline, hothers⟩ := Text.exists_trimRight_append line
  have hbody : trimRight (trimRight line) = trimRight line := by
    nth_rewrite 2 [hline]
    exact (Text.trimRight_append_of_blanks hothers).symm
  rw [hdrop, Text.trimRight_append_of_blanks hblanks, hbody]

theorem dropExcess_isPrefix (room : Nat) (line : List Char) : dropExcess room line <+: line := by
  obtain ⟨blanks, hdrop, hstart, -⟩ := exists_dropExcess_eq room line
  rw [hdrop]
  exact hstart

@[simp] theorem squeeze_dropExcess (room : Nat) (line : List Char) :
    squeeze (dropExcess room line) = squeeze line := by
  rw [← Text.squeeze_trimRight, trimRight_dropExcess, Text.squeeze_trimRight]

theorem width_fit_le (room : Nat) (line : List Char) : width (fit .fold room line) ≤ room := by
  unfold fit
  split
  · next h => exact h
  · next hwide =>
      rcases Nat.eq_zero_or_pos room with rfl | hroom
      · exact Nat.le_refl 0
      · rcases Text.isCut_cut hroom (Nat.lt_of_not_le hwide) with
          ⟨k, hcut, hwidth⟩ | ⟨k, -, hcut, hwidth, -⟩
        · exact Nat.le_of_eq hwidth
        · have hblank : width [' '] = 1 := rfl
          simp only [hcut, Text.width_append, hblank]
          exact Nat.le_of_eq hwidth

theorem squeeze_fit (hroom : 0 < room) (hfirm : Firm line) (h : width (trimRight line) ≤ room) :
    squeeze (fit .fold room line) = squeeze line := by
  unfold fit
  split
  · rfl
  · next hwide => exact Text.squeeze_cut hroom hfirm h (Nat.lt_of_not_le hwide)

@[simp] theorem squeeze_expandTabs (used : Nat) (s : List Char) :
    squeeze (expandTabs used s) = squeeze s := by
  induction s generalizing used with
  | nil => rfl
  | cons c s ih =>
      rw [expandTabs]
      split
      · next hc =>
          rw [Text.squeeze_append, ih, Text.squeeze_eq_nil, List.nil_append,
            Text.squeeze_cons_of_blank (by rw [hc]; decide)]
          intro d hd
          rw [List.eq_of_mem_replicate hd]
          decide
      · have hsplit : ∀ t, squeeze (c :: t) = squeeze [c] ++ squeeze t :=
          Text.squeeze_append [c]
        rw [hsplit, ih, ← hsplit]

theorem head?_expandTabs_blank {used : Nat} {d : Char} (hd : d ∈ (expandTabs used s).head?)
    (hblank : isBlank d = true) : ∃ c ∈ s.head?, isBlank c = true := by
  cases s with
  | nil => cases hd
  | cons c s =>
      refine ⟨c, rfl, ?_⟩
      rw [expandTabs] at hd
      split at hd
      · next hc => rw [hc]; decide
      · cases hd
        exact hblank

/-- The blanks for a tab stand where a blank stood. -/
theorem firm_expandTabs (h : Firm s) (used : Nat) : Firm (expandTabs used s) := by
  induction s generalizing used with
  | nil => exact h
  | cons c s ih =>
      have hs := ih (List.IsChain.tail h)
      rw [expandTabs]
      split
      · refine List.isChain_append.2
          ⟨List.isChain_replicate_of_rel _ fun _ => .inl (by decide), hs _, ?_⟩
        intro d hd e he hblank
        rw [List.eq_of_mem_replicate (List.mem_of_mem_getLast? hd)]
        exact .inl (by decide)
      · refine List.isChain_cons.2 ⟨fun d hd hblank => ?_, hs _⟩
        obtain ⟨e, he, hblank'⟩ := head?_expandTabs_blank hd hblank
        exact (List.isChain_cons.1 h).1 e he hblank'

/-! ## The parts of a line -/

theorem wordsFrom_lead (taken s : List Char) :
    (wordsFrom .lead taken s = [] ∧ ∀ c ∈ s, isBlank c = true) ∨
      (wordsFrom .lead taken s).flatten = taken.reverse ++ s := by
  induction s generalizing taken with
  | nil => exact .inl ⟨rfl, by simp⟩
  | cons c s ih =>
      rw [wordsFrom]
      split
      · next hc =>
          rw [if_pos rfl]
          rcases ih (c :: taken) with ⟨hnone, hblanks⟩ | hflatten
          · exact .inl ⟨hnone, List.forall_mem_cons.2 ⟨hc, hblanks⟩⟩
          · exact .inr (by rw [hflatten, List.reverse_cons, List.append_assoc]; rfl)
      · rw [if_neg (by decide), flatten_wordsFrom _ _ _ (by decide)]
        exact .inr (by simp)

theorem chop_ne_nil (room : Nat) (taken : List Char) (used : Nat) (s : List Char) :
    chop room taken used s ≠ [] := by
  induction s generalizing taken used with
  | nil => simp [chop]
  | cons c s ih =>
      rw [chop]
      split
      · exact ih _ _
      · exact List.cons_ne_nil _ _

theorem width_reverse (s : List Char) : width s.reverse = width s := by
  induction s with
  | nil => rfl
  | cons c s ih =>
      rw [List.reverse_cons, Text.width_append, ih, Text.width_cons, Text.width_cons,
        Text.width_nil, Nat.add_zero, Nat.add_comm]

/-- No part of a word that is cut is too wide, where there is room for every character. -/
theorem width_le_of_mem_chop (hroom : 2 ≤ room) (taken : List Char) (htaken : width taken ≤ room)
    (s : List Char) : ∀ part ∈ chop room taken (width taken) s, width part ≤ room := by
  induction s generalizing taken with
  | nil =>
      intro part hpart
      rw [List.mem_singleton.1 hpart, width_reverse]
      exact htaken
  | cons c s ih =>
      rw [chop]
      split
      · next hfits =>
          rw [Nat.add_comm, ← Text.width_cons] at hfits ⊢
          exact ih _ hfits
      · have hc : width [c] ≤ room := by
          rw [Text.width_cons, Text.width_nil]
          exact Nat.le_trans (Text.charWidth_le_two c) hroom
        refine List.forall_mem_cons.2 ⟨?_, ih _ hc⟩
        rw [width_reverse]
        exact htaken

theorem flatten_dropWhile_isEmpty (lines : List (List Char)) :
    (lines.dropWhile List.isEmpty).flatten = lines.flatten := by
  induction lines with
  | nil => rfl
  | cons line lines ih =>
      cases line with
      | nil => exact ih
      | cons c line => rfl

def cutWord (o : Overflow) (room : Nat) (word : List Char) : List (List Char) :=
  if o = .fold then chop room [] 0 word else [word]

theorem cutWord_eq (o : Overflow) (room : Nat) (word : List Char) :
    (cutWord o room word).dropLast ++ [(cutWord o room word).getLast?.getD []] =
        cutWord o room word ∧ (cutWord o room word).flatten = word := by
  have hne : cutWord o room word ≠ [] := by
    unfold cutWord
    split
    · exact chop_ne_nil room [] 0 word
    · exact List.cons_ne_nil _ _
  refine ⟨?_, ?_⟩
  · rw [List.getLast?_eq_some_getLast hne]
    exact List.dropLast_concat_getLast hne
  · unfold cutWord
    split
    · exact flatten_chop room [] 0 word
    · simp

/-- Putting words behind a line loses nothing. -/
theorem flatten_fill (o : Overflow) (room : Nat) (line : List Char) (used : Nat)
    (ws : List (List Char)) : (fill o room line used ws).flatten = line ++ ws.flatten := by
  induction ws generalizing line used with
  | nil => simp [fill]
  | cons word ws ih =>
      rw [fill]
      simp only
      split
      · rw [ih, List.flatten_cons, List.append_assoc]
      · split
        · rw [List.flatten_cons, ih, List.flatten_cons]
        · change ((if line.isEmpty then (cutWord o room word).dropLast.dropWhile List.isEmpty
            else line :: (cutWord o room word).dropLast) ++
              fill o room ((cutWord o room word).getLast?.getD []) _ ws).flatten = _
          obtain ⟨hparts, hword⟩ := cutWord_eq o room word
          have hjoin : (cutWord o room word).dropLast.flatten ++
              (cutWord o room word).getLast?.getD [] = word := by
            rw [← List.flatten_concat, hparts, hword]
          rw [List.flatten_append, ih, List.flatten_cons]
          split
          · next hempty =>
              rw [flatten_dropWhile_isEmpty, List.isEmpty_iff.1 hempty, ← List.append_assoc, hjoin,
                List.nil_append]
          · rw [List.flatten_cons, List.append_assoc, ← List.append_assoc _ _ ws.flatten, hjoin]

/-- No line that words are put on is too wide, blanks at its end apart. -/
theorem width_le_of_mem_fill (hroom : 2 ≤ room) {ws : List (List Char)}
    (hline : width (trimRight line) ≤ room) :
    ∀ part ∈ fill .fold room line (width line) ws, width (trimRight part) ≤ room := by
  induction ws generalizing line with
  | nil =>
      intro part hpart
      rw [List.mem_singleton.1 hpart]
      exact hline
  | cons word ws ih =>
      rw [fill]
      simp only
      split
      · next hfits =>
          rw [← Text.width_append]
          refine ih (Nat.le_trans (Text.width_trimRight_append_le line word) ?_)
          exact Nat.max_le.2 ⟨hline, hfits⟩
      · split
        · next hword => exact List.forall_mem_cons.2 ⟨hline, ih hword⟩
        · have hparts : ∀ part ∈ cutWord .fold room word, width (trimRight part) ≤ room := by
            intro part hpart
            refine Nat.le_trans (Text.width_trimRight_le part) ?_
            exact width_le_of_mem_chop hroom [] (Nat.zero_le room) word part hpart
          rw [← (cutWord_eq .fold room word).1] at hparts
          rw [List.forall_mem_append] at hparts
          refine List.forall_mem_append.2 ⟨?_, ih (hparts.2 _ (List.mem_singleton.2 rfl))⟩
          split
          · exact fun part hpart => hparts.1 part ((List.dropWhile_sublist _).subset hpart)
          · exact List.forall_mem_cons.2 ⟨hline, hparts.1⟩

/-- The parts of a line are the line. -/
theorem flatten_parts (o : Overflow) (room : Nat) (line : List Char) :
    (parts o room line).flatten = line := by
  unfold parts words
  split
  · simp
  · next hne =>
      rcases wordsFrom_lead [] line with ⟨hnone, -⟩ | hflatten
      · exact absurd hnone hne
      · rw [flatten_fill, hflatten]
        rfl

theorem width_le_of_mem_parts (hroom : 2 ≤ room) (line : List Char) :
    ∀ part ∈ parts .fold room line, width (trimRight part) ≤ room := by
  unfold parts words
  split
  · next hnone =>
      rcases wordsFrom_lead [] line with ⟨-, hblanks⟩ | hflatten
      · intro part hpart
        rw [List.mem_singleton.1 hpart, Text.trimRight_of_blanks hblanks]
        exact Nat.zero_le room
      · rw [hnone] at hflatten
        intro part hpart
        rw [List.mem_singleton.1 hpart, show line = [] from hflatten.symm]
        exact Nat.zero_le room
  · exact width_le_of_mem_fill hroom (Nat.zero_le room)

/-! ## Texts -/

/-- The lines of a text are the text, line breaks apart. -/
theorem squeeze_split (s : List Char) : squeeze (Text.split '\n' s).flatten = squeeze s := by
  induction s with
  | nil => rfl
  | cons c s ih =>
      rw [Text.split]
      split
      · next hc => rw [List.flatten_cons, List.nil_append, ih, hc,
          Text.squeeze_cons_of_blank (by decide)]
      · cases hsplit : Text.split '\n' s with
        | nil => exact absurd hsplit (Text.split_ne_nil '\n' s)
        | cons piece pieces =>
            rw [hsplit] at ih
            have hcons : ∀ t, squeeze (c :: t) = squeeze [c] ++ squeeze t :=
              Text.squeeze_append [c]
            rw [hcons s, ← ih, ← hcons]
            rfl

theorem infix_join_of_mem {sep : Char} {pieces : List (List Char)} (h : line ∈ pieces) :
    line <:+: Text.join sep pieces := by
  induction pieces with
  | nil => cases h
  | cons piece pieces ih =>
      cases pieces with
      | nil =>
          rw [List.mem_singleton.1 h]
          exact List.infix_rfl
      | cons next pieces =>
          rw [Text.join_cons sep piece (List.cons_ne_nil next pieces)]
          cases h with
          | head => exact List.infix_append' [] _ _
          | tail _ h =>
              refine (ih h).trans ?_
              exact (List.suffix_append_of_suffix (List.suffix_cons sep _)).isInfix

theorem infix_of_mem_split {sep : Char} (h : line ∈ Text.split sep s) : line <:+: s := by
  rw [← Text.join_split sep s]
  exact infix_join_of_mem h

/-- The lines that a firm text is broken into have all that it holds but blanks, if each of
them is finished in a way that takes nothing else from a line with enough room. -/
theorem squeeze_breakText (hroom : 2 ≤ room) (h : Firm s) {finish : List Char → List Char}
    (hfinish : ∀ line, Firm line → width (trimRight line) ≤ room →
      squeeze (finish line) = squeeze line) :
    squeeze ((breakText .fold room s).map finish).flatten = squeeze s := by
  have hline : ∀ line ∈ Text.split '\n' s,
      squeeze ((breakLine .fold room line).map finish).flatten = squeeze line := by
    intro line hline
    have hfirm := firm_expandTabs (h.of_isInfix (infix_of_mem_split hline)) 0
    have hpart : ∀ part ∈ parts .fold room (expandTabs 0 line),
        squeeze (finish (dropExcess room part)) = squeeze part := by
      intro part hpart
      have hwithin : part <:+: expandTabs 0 line := by
        rw [← flatten_parts .fold room (expandTabs 0 line)]
        exact List.infix_of_mem_flatten hpart
      have hwidth := width_le_of_mem_parts hroom _ part hpart
      rw [hfinish _ ((hfirm.of_isInfix hwithin).of_isInfix (dropExcess_isPrefix room part).isInfix)
        (by rwa [trimRight_dropExcess]), squeeze_dropExcess]
    rw [breakLine, List.map_map, Text.squeeze_flatten, List.map_map]
    refine (congrArg List.flatten (List.map_congr_left hpart)).trans ?_
    rw [← Text.squeeze_flatten, flatten_parts, squeeze_expandTabs]
  have hlines : ∀ lines ⊆ Text.split '\n' s,
      squeeze ((lines.flatMap (breakLine .fold room)).map finish).flatten =
        squeeze lines.flatten := by
    intro lines hsub
    induction lines with
    | nil => rfl
    | cons line lines ih =>
        obtain ⟨hmem, hsub⟩ := List.cons_subset.1 hsub
        rw [List.flatMap_cons, List.map_append, List.flatten_append, Text.squeeze_append,
          hline line hmem, ih hsub, List.flatten_cons, Text.squeeze_append]
  exact (hlines _ (List.Subset.refl _)).trans (squeeze_split s)

/-- Wrapping a firm text for a screen of at least two cells loses nothing but blanks. -/
theorem squeeze_wrap (hroom : 2 ≤ room) (h : Firm s) :
    squeeze (wrap room s).flatten = squeeze s :=
  squeeze_breakText hroom h fun _ hfirm hwidth => squeeze_fit (by omega) hfirm hwidth

/-! ## Texts that fit -/

theorem fill_of_width_le {ws : List (List Char)} (h : width (line ++ ws.flatten) ≤ room) :
    fill o room line (width line) ws = [line ++ ws.flatten] := by
  induction ws generalizing line with
  | nil => simp [fill]
  | cons word ws ih =>
      rw [List.flatten_cons, ← List.append_assoc] at h ⊢
      have hword : width line + width (trimRight word) ≤ room := by
        have hle := Text.width_trimRight_le word
        rw [Text.width_append, Text.width_append] at h
        omega
      rw [fill, if_pos hword, ← Text.width_append, ih h]

/-- A line that fits is not broken. -/
theorem parts_of_width_le (h : width line ≤ room) : parts o room line = [line] := by
  unfold parts words
  split
  · rfl
  · next hne =>
      rcases wordsFrom_lead [] line with ⟨hnone, -⟩ | hflatten
      · exact absurd hnone hne
      · have hline : [] ++ (wordsFrom .lead [] line).flatten = line := hflatten
        have hfill : fill o room [] (width []) (wordsFrom .lead [] line) =
            [[] ++ (wordsFrom .lead [] line).flatten] := fill_of_width_le (hline.symm ▸ h)
        rw [hline] at hfill
        exact hfill

/-- Whether a text has no tabs, and only those line breaks that it is broken at. -/
def Even (s : List Char) : Prop := ∀ c ∈ s, c ≠ '\t' ∧ (endsLine c = true → c = '\n')

instance (s : List Char) : Decidable (Even s) := List.decidableBAll _ s

theorem Even.of_isInfix (h : Even s) (hline : line <:+: s) : Even line :=
  fun c hc => h c (hline.subset hc)

theorem expandTabs_of_even (h : Even s) (used : Nat) : expandTabs used s = s := by
  induction s generalizing used with
  | nil => rfl
  | cons c s ih =>
      obtain ⟨hc, hs⟩ := List.forall_mem_cons.1 h
      rw [expandTabs, if_neg hc.1, ih hs]

/-- The lines of a text, the first of them behind what takes `used` cells, are no wider than
its widest one. -/
theorem width_le_widestFrom (h : Even s) (used : Nat) {first : List Char}
    {others : List (List Char)} (hsplit : Text.split '\n' s = first :: others) :
    used + width first ≤ widestFrom used s ∧ ∀ line ∈ others, width line ≤ widestFrom used s := by
  induction s generalizing used first others with
  | nil =>
      cases hsplit
      exact ⟨le_rfl, nofun⟩
  | cons c s ih =>
      obtain ⟨hc, hs⟩ := List.forall_mem_cons.1 h
      obtain ⟨next, rest, hnext⟩ := List.exists_cons_of_ne_nil (Text.split_ne_nil '\n' s)
      rw [Text.split, hnext] at hsplit
      rw [widestFrom]
      split at hsplit
      · next hbreak =>
          cases hsplit
          obtain ⟨hfirst, hrest⟩ := ih hs 0 hnext
          rw [hbreak, if_pos (by decide)]
          refine ⟨Nat.le_max_left _ _, List.forall_mem_cons.2 ⟨?_, fun line hline => ?_⟩⟩
          · rw [Nat.zero_add] at hfirst
            exact Nat.le_trans hfirst (Nat.le_max_right _ _)
          · exact Nat.le_trans (hrest line hline) (Nat.le_max_right _ _)
      · next hbreak =>
          cases hsplit
          rw [if_neg fun hends => hbreak (hc.2 hends), Text.width_cons, ← Nat.add_assoc]
          exact ih hs _ hnext

theorem width_le_widest (h : Even s) (hline : line ∈ Text.split '\n' s) :
    width line ≤ widest s := by
  obtain ⟨first, others, hsplit⟩ := List.exists_cons_of_ne_nil (Text.split_ne_nil '\n' s)
  obtain ⟨hfirst, hothers⟩ := width_le_widestFrom h 0 hsplit
  rw [hsplit] at hline
  rcases List.mem_cons.1 hline with rfl | hline
  · rwa [Nat.zero_add] at hfirst
  · exact hothers line hline

/-- The lines of a text that fits are its own. -/
theorem breakText_of_even (h : Even s) (hwide : widest s ≤ room) :
    breakText o room s = (Text.split '\n' s).map (dropExcess room) := by
  rw [breakText, List.map_eq_flatMap]
  refine List.flatMap_congr fun line hline => ?_
  have hfits := Nat.le_trans (width_le_widest h hline) hwide
  rw [breakLine, expandTabs_of_even (h.of_isInfix (infix_of_mem_split hline)),
    parts_of_width_le hfits]
  rfl

end Wrap
end Console

end AnalysisPlan
