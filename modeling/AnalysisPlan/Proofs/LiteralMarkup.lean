import AnalysisPlan.Console.Markup
import AnalysisPlan.Proofs.Wrapping

/-!
# Texts without markup

A text is literal if no tag begins in it, no backslash stands before a bracket, and a
terminal would act on none of its characters. Such a text is read as it stands, also behind
and inside a frame of tags, as long as it does not end in a backslash that takes the tag
behind it for its own (`Markup.read_framed`). The frames that messages put around texts
describe how they look by words that are always understood.
-/

namespace AnalysisPlan
namespace Console
namespace Markup

/-- Whether a text holds nothing that reading markup would change. -/
def Literal : List Char → Prop
  | [] => True
  | c :: s =>
    tagBody? (c :: s) = none ∧ ¬(c = '\\' ∧ s.head? = some '[') ∧ Wrap.isControl c = false ∧
      Literal s

/-- Whether a text holds markup can be looked up character by character. -/
def decideLiteral : (s : List Char) → Decidable (Literal s)
  | [] => .isTrue trivial
  | c :: s =>
    have := decideLiteral s
    inferInstanceAs (Decidable (tagBody? (c :: s) = none ∧ ¬(c = '\\' ∧ s.head? = some '[') ∧
      Wrap.isControl c = false ∧ Literal s))

instance (s : List Char) : Decidable (Literal s) := decideLiteral s

variable {s t frame body before after inner shown : List Char} {name : String} {offset : Nat}

theorem Literal.not_isControl (h : Literal s) : ∀ c ∈ s, Wrap.isControl c = false := by
  induction s with
  | nil => simp
  | cons c s ih => exact List.forall_mem_cons.2 ⟨h.2.2.1, ih h.2.2.2⟩

theorem tagBody?_of_ne {c : Char} (h : c ≠ '[') (s : List Char) : tagBody? (c :: s) = none := by
  rw [tagBody?]
  rintro _ _ ⟨⟩
  exact h rfl

/-- A text without brackets and backslashes is literal. -/
theorem literal_of_forall (h : ∀ c ∈ s, c ≠ '[' ∧ c ≠ '\\' ∧ Wrap.isControl c = false) :
    Literal s := by
  induction s with
  | nil => trivial
  | cons c s ih =>
      obtain ⟨⟨hbracket, hslash, hcontrol⟩, hs⟩ := List.forall_mem_cons.1 h
      exact ⟨tagBody?_of_ne hbracket s, fun hc => hslash hc.1, hcontrol, ih hs⟩

theorem Literal.append_of_forall
    (ht : ∀ c ∈ t, c ≠ '[' ∧ c ≠ '\\' ∧ Wrap.isControl c = false) (h : Literal s) :
    Literal (t ++ s) := by
  induction t with
  | nil => exact h
  | cons c t ih =>
      obtain ⟨⟨hbracket, hslash, hcontrol⟩, ht⟩ := List.forall_mem_cons.1 ht
      exact ⟨tagBody?_of_ne hbracket _, fun hc => hslash hc.1, hcontrol, ih ht⟩

/-! ## Reading literal texts -/

theorem untilBracket?_append_bracket (h : untilBracket? s = none) (t : List Char) :
    untilBracket? (s ++ '[' :: t) = none := by
  induction s with
  | nil => rfl
  | cons c s ih =>
      rw [untilBracket?] at h
      rw [List.cons_append, untilBracket?]
      split at h
      · cases h
      · next hclose =>
          rw [if_neg hclose]
          split at h
          · next hopen => rw [if_pos hopen]
          · next hopen => rw [if_neg hopen, ih (Option.map_eq_none_iff.1 h), Option.map_none]

/-- A bracket behind a text completes no tag in it. -/
theorem tagBody?_append_bracket {c : Char} (h : tagBody? (c :: s) = none) (t : List Char) :
    tagBody? (c :: s ++ '[' :: t) = none := by
  by_cases hc : c = '['
  · subst hc
    cases s with
    | nil => rfl
    | cons d s =>
        rw [tagBody?] at h
        rw [List.cons_append, List.cons_append, tagBody?]
        split at h
        · next hopens =>
            rw [if_pos hopens, untilBracket?_append_bracket (Option.map_eq_none_iff.1 h),
              Option.map_none]
        · next hopens => rw [if_neg hopens]
  · exact tagBody?_of_ne hc _

theorem untilBracket?_append {body : List Char} (h : untilBracket? s = some body)
    (t : List Char) : untilBracket? (s ++ t) = some body := by
  induction s generalizing body with
  | nil => cases h
  | cons c s ih =>
      rw [untilBracket?] at h
      rw [List.cons_append, untilBracket?]
      split at h
      · next hclose => rw [if_pos hclose, h]
      · next hclose =>
          rw [if_neg hclose]
          split at h
          · cases h
          · next hopen =>
              obtain ⟨inside, hinside, rfl⟩ := Option.map_eq_some_iff.1 h
              rw [if_neg hopen, ih hinside, Option.map_some]

/-- What a tag holds does not depend on what stands behind it. -/
theorem tagBody?_append {body : List Char} (h : tagBody? s = some body) (t : List Char) :
    tagBody? (s ++ t) = some body := by
  unfold tagBody? at h
  split at h
  · next c s =>
      split at h
      · next hopens =>
          obtain ⟨inside, hinside, rfl⟩ := Option.map_eq_some_iff.1 h
          rw [List.cons_append, List.cons_append, tagBody?, if_pos hopens,
            untilBracket?_append hinside, Option.map_some]
      · cases h
  · cases h

/-- Whether a text may stand before a frame: there is none, or it begins with a bracket that
the text does not escape. -/
def Precedes (s frame : List Char) : Prop :=
  frame = [] ∨ frame.head? = some '[' ∧ s.getLast? ≠ some '\\'

theorem Precedes.tail {c : Char} (h : Precedes (c :: s) frame) : Precedes s frame := by
  rcases h with hnone | ⟨hframe, hlast⟩
  · exact .inl hnone
  · refine .inr ⟨hframe, ?_⟩
    cases s with
    | nil => nofun
    | cons d s => rwa [List.getLast?_cons_cons] at hlast

theorem tagBody?_literal_append {c : Char} (h : Literal (c :: s)) (hframe : Precedes t frame) :
    tagBody? (c :: s ++ frame) = none := by
  rcases hframe with rfl | ⟨hframe, -⟩
  · rw [List.append_nil]
    exact h.1
  · obtain ⟨rest, rfl⟩ := List.head?_eq_some_iff.1 hframe
    exact tagBody?_append_bracket h.1 rest

/-- No tag begins behind the backslashes that a literal text begins with. -/
theorem tagBody?_dropWhile {c : Char} (h : Literal (c :: s)) (hframe : Precedes (c :: s) frame) :
    tagBody? ((c :: s ++ frame).dropWhile (· == '\\')) = none := by
  induction s generalizing c with
  | nil =>
      by_cases hc : c = '\\'
      · subst hc
        rcases hframe with rfl | ⟨-, hlast⟩
        · rfl
        · exact absurd rfl hlast
      · rw [List.cons_append, List.dropWhile_cons_of_neg (by simpa using hc)]
        exact tagBody?_literal_append h hframe
  | cons d s ih =>
      by_cases hc : c = '\\'
      · subst hc
        rw [List.cons_append, List.dropWhile_cons_of_pos (by simp)]
        exact ih h.2.2.2 hframe.tail
      · rw [List.cons_append, List.dropWhile_cons_of_neg (by simpa using hc)]
        exact tagBody?_literal_append h hframe

theorem drop_takeWhile_length {α : Type} (p : α → Bool) (l : List α) :
    l.drop (l.takeWhile p).length = l.dropWhile p := by
  calc
    l.drop (l.takeWhile p).length =
        (l.takeWhile p ++ l.dropWhile p).drop (l.takeWhile p).length := by
      rw [List.takeWhile_append_dropWhile]
    _ = l.dropWhile p := List.drop_left

/-- The parts of a literal text are its characters. -/
theorem tokens_append (h : Literal s) (hframe : Precedes s frame) (offset : Nat) :
    tokens offset 0 (s ++ frame) =
      s.map (.plain [·]) ++ tokens (offset + s.length) 0 frame := by
  induction s generalizing offset with
  | nil => rfl
  | cons c s ih =>
      have hnone := tagBody?_dropWhile h hframe
      have hslash : ¬(c = '\\' ∧ (s ++ frame).head? = some '[') := by
        rintro ⟨rfl, hhead⟩
        cases s with
        | nil =>
            rcases hframe with rfl | ⟨-, hlast⟩
            · cases hhead
            · exact hlast rfl
        | cons d s => exact h.2.1 ⟨rfl, hhead⟩
      rw [← drop_takeWhile_length, List.cons_append] at hnone
      rw [List.cons_append, tokens]
      simp only [hnone]
      rw [if_neg hslash, ih h.2.2.2 hframe.tail, List.length_cons, List.map_cons,
        List.cons_append, Nat.add_assoc, Nat.add_comm 1]

/-- The characters of a text that a terminal shows as they are are added in front. -/
theorem strip_plain (h : ∀ c ∈ s, Wrap.isControl c = false) (n : Nat) (opened : List OpenTag)
    (rest : List Token) :
    strip n opened (s.map (.plain [·]) ++ rest) =
      (strip (n + s.length) opened rest).map fun m => { m with chars := s ++ m.chars } := by
  induction s generalizing n with
  | nil =>
      change strip n opened rest = (strip n opened rest).map id
      cases strip n opened rest <;> rfl
  | cons c s ih =>
      obtain ⟨hc, hs⟩ := List.forall_mem_cons.1 h
      have hseen : Wrap.visible [c] = [c] := by simp [Wrap.visible, hc]
      rw [List.map_cons, List.cons_append, strip, hseen, ih hs, List.length_singleton,
        List.length_cons, Nat.add_assoc, Nat.add_comm 1]
      cases strip (n + (s.length + 1)) opened rest <;> rfl

@[simp] theorem inOrder_nil : inOrder [] = [] := by simp [inOrder]

@[simp] theorem inOrder_singleton (s : Stretch) : inOrder [s] = [s] := by simp [inOrder]

/-- A literal text is read as it stands. -/
theorem read_literal (h : Literal s) : read s = .ok ⟨s, []⟩ := by
  have htokens := tokens_append h (.inl rfl : Precedes s []) 0
  rw [List.append_nil] at htokens
  rw [read, htokens, strip_plain h.not_isControl]
  simp [tokens, strip, Except.map]

/-! ## Frames -/

/-- A name of a tag that can be put around a text: the tag has no other part, is about no
event, is closed by its name, and its look is understood. -/
structure Frames (name : String) : Prop where
  tag : tagBody? ('[' :: name.toList ++ [']']) = some name.toList
  noParameters : '=' ∉ name.toList
  notClosing : name.toList.head? ≠ some '/'
  noEvent : name.toList.head? ≠ some '@'
  normal : normalName name.toList = .ok name
  look : checkWords name = .ok ()

theorem frames_dim : Frames "dim" := by constructor <;> decide +kernel

theorem frames_task : Frames "task" := by constructor <;> decide +kernel

theorem frames_stepNumber : Frames "step.num" := by constructor <;> decide +kernel

theorem tokens_skip (s t : List Char) (offset : Nat) :
    tokens offset s.length (s ++ t) = tokens (offset + s.length) 0 t := by
  induction s generalizing offset with
  | nil => rfl
  | cons c s ih =>
      rw [List.cons_append, List.length_cons, tokens, ih, Nat.add_assoc, Nat.add_comm 1]

/-- A tag at the front is a part of its own. -/
theorem tokens_tag (body : List Char) (h : tagBody? ('[' :: body ++ [']']) = some body)
    (offset : Nat) (t : List Char) :
    tokens offset 0 ('[' :: body ++ ']' :: t) =
      .plain [] :: .tag (tagOf body offset) :: tokens (offset + (body.length + 2)) 0 t := by
  have htag : tagBody? ('[' :: (body ++ ']' :: t)) = some body := by
    have hbehind := tagBody?_append h t
    rwa [List.append_assoc] at hbehind
  have hskip := tokens_skip (body ++ [']']) t (offset + 1)
  rw [List.length_append, List.length_singleton, List.append_assoc, List.singleton_append] at hskip
  have hnone : ('[' :: (body ++ ']' :: t)).takeWhile (· == '\\') = [] :=
    List.takeWhile_cons_of_neg (by decide)
  rw [List.cons_append, tokens]
  simp only [hnone, List.length_nil, List.drop_zero, htag, escaped]
  rw [Nat.zero_add, hskip, Nat.add_assoc, Nat.add_comm 1, Nat.add_assoc]
  rfl

/-- What a text inside a frame stands for: the characters of another, read one by one up to
the tag behind it. -/
def StandsFor (inner shown : List Char) : Prop :=
  (∀ c ∈ shown, Wrap.isControl c = false) ∧ ∀ offset t, ∃ behind,
    tokens offset 0 (inner ++ '[' :: t) = shown.map (.plain [·]) ++ tokens behind 0 ('[' :: t)

theorem Literal.standsFor (h : Literal s) (hlast : s.getLast? ≠ some '\\') : StandsFor s s :=
  ⟨h.not_isControl, fun offset _ => ⟨_, tokens_append h (.inr ⟨rfl, hlast⟩) offset⟩⟩

/-- A backslash before a literal text that begins with a bracket is dropped. -/
theorem Literal.standsFor_escaped (h : Literal ('[' :: s))
    (hlast : ('[' :: s).getLast? ≠ some '\\') : StandsFor ('\\' :: '[' :: s) ('[' :: s) := by
  refine ⟨h.not_isControl, fun offset t => ⟨offset + 1 + ('[' :: s).length, ?_⟩⟩
  have hnone : tagBody? ('[' :: (s ++ '[' :: t)) = none :=
    tagBody?_literal_append h (.inr ⟨rfl, hlast⟩)
  rw [← tokens_append h (.inr ⟨rfl, hlast⟩ : Precedes _ ('[' :: t)) (offset + 1), List.cons_append,
    List.cons_append, tokens]
  simp [hnone]

theorem strip_nothing (n : Nat) (opened : List OpenTag) (rest : List Token) :
    strip n opened (.plain [] :: rest) = strip n opened rest := by
  change (strip n opened rest).map id = _
  cases strip n opened rest <;> rfl

theorem strip_opening (hname : Frames name) (n p : Nat) (opened : List OpenTag)
    (rest : List Token) :
    strip n opened (.plain [] :: .tag ⟨name.toList, none, p⟩ :: rest) =
      strip n (⟨name, none, n⟩ :: opened) rest := by
  have hopened : (Tag.mk name.toList none p).opened n = .ok ⟨name, none, n⟩ := by
    rw [Tag.opened, hname.normal]
    rfl
  rw [strip_nothing, strip, if_neg hname.notClosing, hopened]
  rfl

/-- The last opened tag describes what stands between it and the tag that closes it. -/
theorem strip_closing (hname : Frames name) (n k q : Nat) (opened : List OpenTag)
    (rest : List Token) :
    strip n (⟨name, none, k⟩ :: opened) (.plain [] :: .tag ⟨['/'], none, q⟩ :: rest) =
      (strip n opened rest).map fun m =>
        { m with stretches := ⟨k, n, name⟩ :: m.stretches } := by
  have hclosed : (OpenTag.mk name none k).closedAt n = .ok (some ⟨k, n, name⟩) := by
    rw [OpenTag.closedAt, if_neg hname.noEvent]
    rfl
  have hmatching : matching (⟨name, none, k⟩ :: opened) ⟨['/'], none, q⟩ =
      .ok (⟨name, none, k⟩, opened) := rfl
  rw [strip_nothing, strip, if_pos (by rfl), hmatching]
  change (do
    let stretch ← (OpenTag.mk name none k).closedAt n
    let text ← strip n opened rest
    return { text with stretches := stretch.toList ++ text.stretches }) = _
  rw [hclosed]
  cases strip n opened rest <;> rfl

/-- A frame around a text describes it, and literal texts before and behind it stay as they
are. -/
theorem read_framed (hname : Frames name) (hbefore : Literal before)
    (hlast : before.getLast? ≠ some '\\') (hinner : StandsFor inner shown)
    (hafter : Literal after) :
    read (before ++ ('[' :: name.toList ++ ']' :: (inner ++ '[' :: '/' :: ']' :: after))) =
      .ok ⟨before ++ (shown ++ after),
        [⟨before.length, before.length + shown.length, name⟩]⟩ := by
  have hplain := tokens_append hafter (.inl rfl : Precedes after [])
  simp only [List.append_nil, tokens] at hplain
  have htag : ∀ n, tagOf name.toList n = ⟨name.toList, none, n⟩ := fun n => by
    simp only [tagOf, hname.noParameters, if_false, Tag.mk.injEq, and_true]
    refine List.takeWhile_eq_self_iff.2 fun c hc => bne_iff_ne.2 ?_
    rintro rfl
    exact hname.noParameters hc
  have hclosing : ∀ n t, tokens n 0 ('[' :: '/' :: ']' :: t) =
      .plain [] :: .tag ⟨['/'], none, n⟩ :: tokens (n + 3) 0 t :=
    tokens_tag ['/'] (by decide)
  obtain ⟨behind, hinside⟩ := hinner.2 (0 + before.length + (name.toList.length + 2))
    ('/' :: ']' :: after)
  rw [read, tokens_append hbefore (.inr ⟨rfl, hlast⟩), tokens_tag _ hname.tag, htag, hinside,
    hclosing, hplain, strip_plain hbefore.not_isControl, Nat.zero_add,
    strip_opening hname, strip_plain hinner.1, strip_closing hname]
  have hend := strip_plain hafter.not_isControl (before.length + shown.length) [] []
  rw [List.append_nil] at hend
  rw [hend]
  simp [strip, Except.map]

/-! ## Looks -/

theorem checkLooks_of_forall {stretches : List Stretch}
    (h : ∀ s ∈ stretches, checkWords s.words = .ok ()) : checkLooks stretches = .ok () := by
  induction stretches with
  | nil => rfl
  | cons s stretches ih =>
      obtain ⟨hs, hstretches⟩ := List.forall_mem_cons.1 h
      rw [checkLooks, List.forM_eq_forM, List.forM_cons, hs]
      exact ih hstretches

end Markup

namespace Marked

variable {m : Marked} {word : String}

/-- Whether all stretches are described by the same words. -/
def Worded (word : String) (m : Marked) : Prop := ∀ s ∈ m.stretches, s.words = word

theorem Worded.append {n : Marked} (hm : m.Worded word) (hn : n.Worded word) :
    (m.append n).Worded word := by
  intro s hs
  rcases List.mem_append.1 hs with hs | hs
  · exact hm s hs
  · obtain ⟨t, ht, rfl⟩ := List.mem_map.1 hs
    exact hn t ht

theorem Worded.join {parts : List Marked} (h : ∀ part ∈ parts, part.Worded word) :
    (join parts).Worded word := by
  induction parts with
  | nil => nofun
  | cons part parts ih =>
      obtain ⟨hpart, hparts⟩ := List.forall_mem_cons.1 h
      exact hpart.append (ih hparts)

theorem Worded.partsFrom (h : m.Worded word) (sizes : List Nat) (offset : Nat) :
    ∀ part ∈ m.partsFrom offset sizes, part.Worded word := by
  induction sizes generalizing offset with
  | nil => nofun
  | cons size sizes ih =>
      refine List.forall_mem_cons.2 ⟨fun s hs => ?_, ih (offset + size)⟩
      obtain ⟨t, ht, hwithin⟩ := List.mem_filterMap.1 hs
      rw [Stretch.within?] at hwithin
      simp only [Option.ite_none_right_eq_some, Option.some.injEq] at hwithin
      rw [← hwithin.2]
      exact h t ht

theorem Worded.cut (h : m.Worded word) (sizes : List Nat) :
    ∀ part ∈ m.cut sizes, part.Worded word := by
  rw [Marked.cut]
  split
  · intro part hpart
    rw [List.mem_singleton.1 hpart]
    exact h
  · exact h.partsFrom sizes 0

theorem Worded.withoutTabs {parts : List Marked} (h : ∀ part ∈ parts, part.Worded word)
    (used : Nat) : ∀ part ∈ withoutTabs used parts, part.Worded word := by
  induction parts generalizing used with
  | nil => nofun
  | cons part parts ih =>
      obtain ⟨hpart, hparts⟩ := List.forall_mem_cons.1 h
      refine List.forall_mem_cons.2 ⟨fun s hs => ?_, ih hparts _⟩
      obtain ⟨t, ht, rfl⟩ := List.mem_map.1 hs
      have ht := hpart t ht
      split <;> exact ht

theorem Worded.expandTabs (h : m.Worded word) : m.expandTabs.Worded word := by
  rw [Marked.expandTabs]
  split
  · split
    · exact h
    · exact Worded.join (Worded.withoutTabs (h.cut _) 0)
  · exact h

/-- What is shown of a text is described as the text is. -/
theorem Worded.shown (h : m.Worded word) (o : Wrap.Overflow) (room : Nat)
    (finish : List Char → List Char) : ∀ s ∈ m.shown o room finish, s.words = word := by
  intro s hs
  obtain ⟨line, hline, hs⟩ := List.mem_flatMap.1 hs
  obtain ⟨part, hpart, hs⟩ := List.mem_flatMap.1 hs
  have hline : line.Worded word := h.cut _ line (List.mem_filter.1 hline).1
  refine hline.expandTabs.cut _ part hpart s ?_
  rw [keptBefore] at hs
  split at hs
  · exact (List.mem_filter.1 hs).1
  · exact hs

end Marked
end Console
end AnalysisPlan
