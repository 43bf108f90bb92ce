import AnalysisPlan.Console.Rich
import AnalysisPlan.Proofs.WrittenJson

/-!
# Showing what was written

The text of a legible value is printable ASCII laid out in lines, and no line of it ends
in a blank (`Json.neat_writeAt`). So the rich console finds nothing to hide, to expand or to
cut off in it, and shows it as the plain console does, on every screen that has a cell at
all (`Console.Backend.write_raw`).
-/

namespace AnalysisPlan

/-- The printable characters of ASCII. -/
def IsPlain (c : Char) : Prop := 0x20 ≤ c.toNat ∧ c.toNat < 0x7F

instance (c : Char) : Decidable (IsPlain c) := inferInstanceAs (Decidable (_ ∧ _))

/-- A text of printable ASCII and line breaks, with no blank at its end or before a line
break. -/
def Neat : List Char → Prop
  | [] => True
  | c :: s => (c = '\n' ∨ IsPlain c) ∧ (c = ' ' → s ≠ [] ∧ s.head? ≠ some '\n') ∧ Neat s

instance decidableNeat : (s : List Char) → Decidable (Neat s)
  | [] => .isTrue trivial
  | c :: s =>
    have := decidableNeat s
    inferInstanceAs (Decidable ((c = '\n' ∨ IsPlain c) ∧ (c = ' ' → _) ∧ Neat s))

theorem Neat.append {s t : List Char} (hs : Neat s) (ht : Neat t) : Neat (s ++ t) := by
  induction s with
  | nil => exact ht
  | cons c s ih =>
      obtain ⟨hc, hblank, hs⟩ := hs
      refine ⟨hc, fun h => ?_, ih hs⟩
      obtain ⟨hne, hhead⟩ := hblank h
      cases s with
      | nil => exact absurd rfl hne
      | cons d s => exact ⟨List.cons_ne_nil _ _, hhead⟩

theorem Neat.of_mem {c : Char} {s : List Char} (h : Neat s) (hc : c ∈ s) :
    c = '\n' ∨ IsPlain c := by
  induction s with
  | nil => cases hc
  | cons d s ih =>
      rcases List.mem_cons.1 hc with rfl | hc
      · exact h.1
      · exact ih h.2.2 hc

theorem Neat.ascii {s : List Char} (h : Neat s) : ∀ c ∈ s, c.toNat < 128 := by
  intro c hc
  rcases h.of_mem hc with rfl | hplain
  · decide
  · exact Nat.lt_trans hplain.2 (by decide)

theorem Neat.cons {c : Char} {s : List Char} (hc : IsPlain c) (hne : c ≠ ' ') (h : Neat s) :
    Neat (c :: s) :=
  ⟨.inr hc, fun heq => absurd heq hne, h⟩

/-- Blanks may stand before what is no line break. -/
theorem Neat.behind_blanks {c : Char} {s : List Char} (hc : c ≠ '\n') (h : Neat (c :: s))
    (n : Nat) : Neat (List.replicate n ' ' ++ c :: s) := by
  induction n with
  | zero => exact h
  | succ n ih =>
      refine ⟨.inr (by decide), fun _ => ?_, ih⟩
      cases n with
      | zero => exact ⟨List.cons_ne_nil _ _, fun heq => hc (Option.some.inj heq)⟩
      | succ n => exact ⟨List.cons_ne_nil _ _, by simp [List.replicate_succ]⟩

/-- Printable ASCII is neat with a character behind it that is not blank. -/
theorem neat_closed {c : Char} {s : List Char} (hs : ∀ d ∈ s, IsPlain d) (hc : IsPlain c)
    (hne : c ≠ ' ') : Neat (s ++ [c]) := by
  have hbreak : ¬IsPlain '\n' := by decide
  induction s with
  | nil => exact ⟨.inr hc, fun h => absurd h hne, trivial⟩
  | cons d s ih =>
      have hrest := fun e he => hs e (List.mem_cons_of_mem d he)
      refine ⟨.inr (hs d List.mem_cons_self), fun _ => ⟨by simp, fun heq => ?_⟩, ih hrest⟩
      cases s with
      | nil => exact hbreak (Option.some.inj heq ▸ hc)
      | cons e s => exact hbreak (Option.some.inj heq ▸ hrest e List.mem_cons_self)

namespace Json

theorem isPlain_digitChar {d : Nat} (h : d < 16) : IsPlain (Nat.digitChar d) := by
  have hall : ∀ d : Fin 16, IsPlain (Nat.digitChar d) := by decide
  exact hall ⟨d, h⟩

theorem isPlain_escapeUnit {n : Nat} (h : n < 0x10000) : ∀ c ∈ escapeUnit n, IsPlain c := by
  rw [escapeUnit, hex_four h]
  simp only [List.forall_mem_cons]
  exact ⟨by decide, by decide, isPlain_digitChar (by omega), isPlain_digitChar (by omega),
    isPlain_digitChar (by omega), isPlain_digitChar (by omega), by simp⟩

theorem isPlain_pair {c d : Char} (hc : IsPlain c) (hd : IsPlain d) : ∀ e ∈ [c, d], IsPlain e := by
  simp [hc, hd]

theorem isPlain_escapeChar (c : Char) : ∀ d ∈ escapeChar c, IsPlain d := by
  unfold escapeChar
  split
  · next h => rcases h with rfl | rfl <;> exact isPlain_pair (by decide) (by decide)
  iterate 5
    split
    · exact isPlain_pair (by decide) (by decide)
  split
  · next h =>
      intro d hd
      rw [List.mem_singleton.1 hd]
      exact h
  split
  · next h => exact isPlain_escapeUnit h
  · next h =>
      intro d hd
      rcases List.mem_append.1 hd with hd | hd
      · exact isPlain_escapeUnit (highUnit_lt c) d hd
      · exact isPlain_escapeUnit (by omega) d hd

theorem neat_writeString (s : String) : Neat (writeString s) := by
  refine neat_closed (fun c hc => ?_) (by decide) (by decide)
  rcases List.mem_cons.1 hc with rfl | hc
  · decide
  · obtain ⟨d, -, hc⟩ := List.mem_flatMap.1 hc
    exact isPlain_escapeChar d c hc

section Layout

variable {n depth : Nat} {rest : List Char}

/-- A line break with an indentation may stand before what is no line break. -/
theorem neat_newLine {c : Char} {s : List Char} (hc : c ≠ '\n') (h : Neat (c :: s)) :
    Neat (newLine depth ++ c :: s) :=
  ⟨.inl rfl, fun h => absurd h (by decide), h.behind_blanks hc _⟩

theorem exists_writeAt_ne {v : Value} (h : v.Legible n) (depth : Nat) :
    ∃ c s, c ≠ '\n' ∧ writeAt depth v = c :: s := by
  have hall : ∀ c ∈ openers, c ≠ '\n' := forall_openers.2 (by decide)
  obtain ⟨c, hc, s, hs⟩ := exists_writeAt_cons h depth
  exact ⟨c, s, hall c hc, hs⟩

theorem neat_item {v : Value} (h : v.Legible n) (hv : Neat (writeAt depth v))
    (hrest : Neat rest) : Neat (newLine depth ++ (writeAt depth v ++ rest)) := by
  obtain ⟨c, s, hc, hs⟩ := exists_writeAt_ne h depth
  have hboth := hv.append hrest
  rw [hs, List.cons_append] at hboth ⊢
  exact neat_newLine hc hboth

theorem neat_field {v : Value} (key : String) (h : v.Legible n) (hv : Neat (writeAt depth v))
    (hrest : Neat rest) :
    Neat (newLine depth ++ (writeString key ++ (": ".toList ++ (writeAt depth v ++ rest)))) := by
  have hvalue : Neat (": ".toList ++ (writeAt depth v ++ rest)) := by
    obtain ⟨c, s, hc, hs⟩ := exists_writeAt_ne h depth
    have hboth := hv.append hrest
    rw [hs, List.cons_append] at hboth ⊢
    exact .cons (by decide) (by decide) (hboth.behind_blanks hc 1)
  have hboth := (neat_writeString key).append hvalue
  rw [writeString_append] at hboth ⊢
  exact neat_newLine (by decide) hboth

theorem neat_writeItems {vs : List Value}
    (h : ∀ v ∈ vs, v.Legible n ∧ Neat (writeAt depth v)) : Neat (writeItems depth vs) := by
  induction vs with
  | nil => trivial
  | cons v vs ih =>
      obtain ⟨hlegible, hv⟩ := h v List.mem_cons_self
      simp only [writeItems, List.append_assoc, List.cons_append]
      exact .cons (by decide) (by decide)
        (neat_item hlegible hv (ih fun w hw => h w (List.mem_cons_of_mem v hw)))

theorem neat_writeFields {fields : List (String × Value)}
    (h : ∀ f ∈ fields, f.2.Legible n ∧ Neat (writeAt depth f.2)) :
    Neat (writeFields depth fields) := by
  induction fields with
  | nil => trivial
  | cons f fields ih =>
      obtain ⟨k, v⟩ := f
      obtain ⟨hlegible, hv⟩ : v.Legible n ∧ Neat (writeAt depth v) := h (k, v) List.mem_cons_self
      simp only [writeFields, List.append_assoc, List.cons_append]
      exact .cons (by decide) (by decide)
        (neat_field k hlegible hv (ih fun g hg => h g (List.mem_cons_of_mem _ hg)))

theorem neat_closer {c : Char} (hbreak : c ≠ '\n') (hplain : IsPlain c) (hblank : c ≠ ' ') :
    Neat (newLine depth ++ [c]) :=
  neat_newLine hbreak (.cons hplain hblank trivial)

end Layout

/-- The text of a legible value is neat. -/
theorem neat_writeAt {n : Nat} {v : Value} (h : v.Legible n) (depth : Nat) :
    Neat (writeAt depth v) := by
  induction h generalizing depth with
  | null n => exact (by decide : Neat "null".toList)
  | bool n b =>
      cases b with
      | false => exact (by decide : Neat "false".toList)
      | true => exact (by decide : Neat "true".toList)
  | str n s => exact neat_writeString s
  | @list n vs h ih =>
      cases vs with
      | nil => exact (by decide : Neat "[]".toList)
      | cons v vs =>
          have hall := fun w hw => And.intro (h w hw) (ih w hw (depth + 1))
          have hrest := neat_writeItems fun w hw => hall w (List.mem_cons_of_mem v hw)
          simp only [writeAt, List.append_assoc, List.cons_append]
          refine .cons (by decide) (by decide) (neat_item (h v List.mem_cons_self)
            (ih v List.mem_cons_self (depth + 1)) (hrest.append ?_))
          exact neat_closer (by decide) (by decide) (by decide)
  | @object n fields keys h ih =>
      cases fields with
      | nil =>
          rw [writeAt]
          decide
      | cons f fields =>
          obtain ⟨k, v⟩ := f
          have hall := fun g hg => And.intro (h g hg) (ih g hg (depth + 1))
          have hv : v.Legible n ∧ Neat (writeAt (depth + 1) v) := hall (k, v) List.mem_cons_self
          have hrest := neat_writeFields fun g hg => hall g (List.mem_cons_of_mem (k, v) hg)
          simp only [writeAt, List.append_assoc, List.cons_append]
          refine .cons (by decide) (by decide) (neat_field k hv.1 hv.2 (hrest.append ?_))
          exact neat_closer (by decide) (by decide) (by decide)

end Json

/-! ## On a console -/

namespace Text

theorem head?_of_split_eq_nil_cons {sep : Char} {s : List Char} {pieces : List (List Char)}
    (h : split sep s = [] :: pieces) : s = [] ∨ s.head? = some sep := by
  cases s with
  | nil => exact .inl rfl
  | cons c s =>
      by_cases hc : c = sep
      · exact .inr (congrArg some hc)
      · obtain ⟨piece, pieces', -, hs⟩ := split_cons_of_ne hc s
        rw [hs] at h
        cases h

end Text

/-- The lines of a neat text are printable, and none of them ends in a blank. -/
theorem Neat.of_mem_split {s line : List Char} (h : Neat s) (hline : line ∈ Text.split '\n' s) :
    (∀ c ∈ line, IsPlain c) ∧ line.getLast? ≠ some ' ' := by
  induction s generalizing line with
  | nil =>
      rw [List.mem_singleton.1 hline]
      exact ⟨by simp, by simp⟩
  | cons c s ih =>
      obtain ⟨hc, hblank, hs⟩ := h
      by_cases hbreak : c = '\n'
      · rw [Text.split, if_pos hbreak] at hline
        rcases List.mem_cons.1 hline with rfl | hline
        · exact ⟨by simp, by simp⟩
        · exact ih hs hline
      · obtain ⟨first, others, hsplit, hcons⟩ := Text.split_cons_of_ne hbreak s
        rw [hcons] at hline
        rcases List.mem_cons.1 hline with rfl | hline
        · obtain ⟨hplain, hlast⟩ := ih hs (hsplit ▸ List.mem_cons_self)
          refine ⟨List.forall_mem_cons.2 ⟨hc.resolve_left hbreak, hplain⟩, ?_⟩
          cases first with
          | nil =>
              intro heq
              obtain ⟨hne, hhead⟩ := hblank (Option.some.inj heq)
              exact (Text.head?_of_split_eq_nil_cons hsplit).elim hne hhead
          | cons d first =>
              rw [List.getLast?_cons_cons]
              exact hlast
        · exact ih hs (hsplit ▸ List.mem_cons_of_mem first hline)

namespace Console

theorem not_isControl_of_isPlain {c : Char} (h : IsPlain c) : Wrap.isControl c = false := by
  unfold IsPlain at h
  simp only [Wrap.isControl, Bool.or_eq_false_iff, beq_eq_false_iff_ne]
  omega

theorem not_isControl_of_neat {s : List Char} (h : Neat s) : ∀ c ∈ s, (!Wrap.isControl c) = true := by
  intro c hc
  rcases h.of_mem hc with rfl | hplain
  · decide
  · rw [not_isControl_of_isPlain hplain]
    rfl

theorem isBlank_eq_false {c : Char} (h : IsPlain c) (hne : c ≠ ' ') :
    Text.isBlank c = false := by
  have hall : ∀ n : Fin 0x7F, 0x20 < n.val → Text.inRanges Text.blankRanges n.val = false := by
    decide
  have hnat : c.toNat ≠ 0x20 := fun heq => hne (Char.toNat_inj.1 heq)
  exact hall ⟨c.toNat, h.2⟩ (Nat.lt_of_le_of_ne h.1 (Ne.symm hnat))

theorem expandTabs_of_plain {s : List Char} (h : ∀ c ∈ s, IsPlain c) (used : Nat) :
    Wrap.expandTabs used s = s := by
  have htab : ¬IsPlain '\t' := by decide
  induction s generalizing used with
  | nil => rfl
  | cons c s ih =>
      have hc : c ≠ '\t' := fun heq => htab (heq ▸ h c List.mem_cons_self)
      rw [Wrap.expandTabs, if_neg hc, ih fun d hd => h d (List.mem_cons_of_mem c hd)]

theorem dropExcess_of_getLast? {s : List Char} (hs : ∀ c ∈ s, IsPlain c)
    (h : s.getLast? ≠ some ' ') (room : Nat) : Wrap.dropExcess room s = s := by
  have htrim : Text.trimRight s = s := by
    rcases List.eq_nil_or_concat s with rfl | ⟨before, c, rfl⟩
    · rfl
    · rw [List.concat_eq_append] at h hs ⊢
      rw [List.getLast?_concat] at h
      have hblank := isBlank_eq_false (hs c (by simp)) fun heq => h (congrArg some heq)
      simp [Text.trimRight, hblank]
  rw [Wrap.dropExcess, htrim]
  simp

/-- Nothing of a neat text is hidden, expanded or cut off. -/
theorem unbroken_of_neat {s : List Char} (h : Neat s) (room : Nat) :
    Wrap.unbroken room (Wrap.visible s) = Text.split '\n' s := by
  rw [Wrap.visible, List.filter_eq_self.2 (not_isControl_of_neat h), Wrap.unbroken]
  refine (List.map_congr_left fun line hline => ?_).trans (List.map_id _)
  obtain ⟨hplain, hlast⟩ := h.of_mem_split hline
  rw [expandTabs_of_plain hplain, dropExcess_of_getLast? hplain hlast]
  rfl

theorem block_split (s : List Char) : Rich.block (Text.split '\n' s) = s ++ ['\n'] := by
  induction s with
  | nil => rfl
  | cons c s ih =>
      by_cases hc : c = '\n'
      · rw [Text.split, if_pos hc, Rich.block, List.flatMap_cons, ← Rich.block, ih, hc]
        rfl
      · obtain ⟨piece, pieces, hsplit, hcons⟩ := Text.split_cons_of_ne hc s
        rw [hsplit, Rich.block, List.flatMap_cons] at ih
        rw [hcons, Rich.block, List.flatMap_cons, List.cons_append, List.cons_append, ih]
        rfl

/-- A neat text is shown as it is, with a line break behind it. The rich console shows
nothing on a screen without cells. -/
theorem Backend.write_raw {s : List Char} (h : Neat s) (backend : Backend) (columns : Nat) :
    backend.write columns (.raw (String.ofList s)) =
      .ok (if backend = .rich ∧ columns = 0 then "" else String.ofList (s ++ ['\n'])) := by
  cases backend with
  | plain =>
      have hline : Plain.write (.raw (String.ofList s)) = String.ofList (s ++ ['\n']) := by
        simp [Plain.write, Plain.lines, Plain.line]
      rw [if_neg fun hrich => Backend.noConfusion hrich.1, ← hline]
      rfl
  | rich =>
      by_cases hscreen : columns = 0
      · rw [if_pos ⟨rfl, hscreen⟩, hscreen]
        rfl
      · have hlines : Rich.lines columns (.raw (String.ofList s)) = .ok (Text.split '\n' s) := by
          rw [Rich.lines, String.toList_ofList, unbroken_of_neat h]
        have hnumber : (Message.raw (String.ofList s)).hasNumber = false := rfl
        have hcounts : (Message.raw (String.ofList s)).countsOverlong = false := rfl
        rw [if_neg fun hrich => hscreen hrich.2, Backend.write, Rich.write, hnumber, hcounts,
          if_neg Bool.false_ne_true, if_neg Bool.false_ne_true,
          if_neg fun hnone => hscreen hnone.1, hlines, ← block_split]

end Console

end AnalysisPlan
