import AnalysisPlan.Json.Reader
import Mathlib.Data.List.TakeWhile

/-!
# The limits of reading JSON

Reading a text returns a value, complains about the text, or comes upon a limit. A limit
can be told from the text: a whole number with too many digits stands in it as a run of
that many digits, where containers are nested too deeply, more of them are opened than
may stand inside each other, and half of a pair is written as an escape by number
(`Json.read_accounts`). This holds because every reader leaves an end of the text that it
was given, and counts down what may still be opened only at a bracket that opens a
container (`Reader.Accounts`).

That the limits are met is shown on the texts that begin with what is too much for them
(`Json.read_digits`, `Json.read_brackets`).
-/

namespace AnalysisPlan
namespace Json
namespace Reader

def isOpening (c : Char) : Bool := c = '[' || c = '{'

/-- A run of `n` digits stands in a text, more than a whole number may have. -/
def TooLong (n : Nat) (s : List Char) : Prop :=
  Text.maxDigits < n ∧ ∃ run : List Char, run <:+: s ∧ run.length = n ∧ ∀ c ∈ run, c.isDigit

/-- An escape by number stands in a text for half of a pair. -/
def HasHalf (s : List Char) : Prop :=
  ∃ h₁ h₂ h₃ h₄ n, ['\\', 'u', h₁, h₂, h₃, h₄] <:+: s ∧ unit? h₁ h₂ h₃ h₄ = some n ∧
    (isHigh n || isLow n) = true

/-- How reading a text can end while `room` containers may still be opened: with an end of
the text that is left, with a complaint, or at a limit that the text can be blamed for. -/
def Accounts {α : Type} (room : Nat) (s : List Char) : Except Stop (α × List Char) → Prop
  | .ok (_, rest) => rest <:+ s
  | .error (.malformed ..) => True
  | .error (.integerTooLong n) => TooLong n s
  | .error (.nestedTooDeeply _) => room < s.countP isOpening
  | .error .halfPair => HasHalf s

variable {α β : Type} {room depth : Nat} {s t rest : List Char}

theorem TooLong.mono {n : Nat} (h : TooLong n t) (ht : t <:+: s) : TooLong n s := by
  obtain ⟨hlong, run, hrun, hlength, hdigits⟩ := h
  exact ⟨hlong, run, hrun.trans ht, hlength, hdigits⟩

theorem HasHalf.mono (h : HasHalf t) (ht : t <:+: s) : HasHalf s := by
  obtain ⟨h₁, h₂, h₃, h₄, n, hescape, hn⟩ := h
  exact ⟨h₁, h₂, h₃, h₄, n, hescape.trans ht, hn⟩

theorem Accounts.mono {result : Except Stop (α × List Char)} (h : Accounts room t result)
    (ht : t <:+ s) : Accounts room s result := by
  cases result with
  | ok r => exact List.IsSuffix.trans h ht
  | error stop =>
      cases stop with
      | malformed complaint left => trivial
      | integerTooLong n => exact TooLong.mono h ht.isInfix
      | nestedTooDeeply container =>
          exact Nat.lt_of_lt_of_le h ht.sublist.countP_le
      | halfPair => exact HasHalf.mono h ht.isInfix

theorem Accounts.bind {x : Except Stop (α × List Char)}
    {k : α × List Char → Except Stop (β × List Char)} (hx : Accounts room s x)
    (hk : ∀ a rest, rest <:+ s → Accounts room s (k (a, rest))) :
    Accounts room s (x >>= k) := by
  cases x with
  | ok r => exact hk r.1 r.2 hx
  | error stop => cases stop <;> exact hx

/-- A bracket that opens a container makes up for the room that it takes. -/
theorem Accounts.opened {c : Char} {result : Except Stop (α × List Char)}
    (hc : isOpening c = true) (h : Accounts (room - 1) rest result) :
    Accounts room (c :: rest) result := by
  cases result with
  | ok r => exact List.IsSuffix.trans h (List.suffix_cons c rest)
  | error stop =>
      cases stop with
      | malformed complaint left => trivial
      | integerTooLong n => exact TooLong.mono h (List.suffix_cons c rest).isInfix
      | nestedTooDeeply container =>
          change room < List.countP isOpening (c :: rest)
          have hmore : room - 1 < List.countP isOpening rest := h
          rw [List.countP_cons_of_pos hc]
          omega
      | halfPair => exact HasHalf.mono h (List.suffix_cons c rest).isInfix

theorem Accounts.map {x : Except Stop (α × List Char)} (h : Accounts room t x) (ht : t <:+ s)
    (f : α → β) : Accounts room s ((fun r => (f r.1, r.2)) <$> x) := by
  cases x with
  | ok r => exact List.IsSuffix.trans h ht
  | error stop =>
      have hmono := Accounts.mono h ht
      cases stop <;> exact hmono

/-! ## Words and strings -/

theorem skip_suffix (s : List Char) : skip s <:+ s := List.dropWhile_suffix isSpace

theorem after?_suffix {word : List Char} (h : after? word s = some rest) : rest <:+ s := by
  induction word generalizing s with
  | nil =>
      cases h
      exact List.suffix_refl _
  | cons w word ih =>
      cases s with
      | nil => cases h
      | cons c s =>
          rw [after?] at h
          split at h
          · exact (ih h).trans (List.suffix_cons c s)
          · cases h

theorem units_accounts (opened s : List Char) (room : Nat) :
    Accounts room s (units opened s) := by
  fun_induction units opened s with
  | case2 rest => exact List.suffix_cons _ _
  | case6 _ _ _ _ tail _ n _ _ ih =>
      exact ih.map (List.suffix_append ['\\', 'u', _, _, _, _] tail) _
  | case9 e more _ n _ _ ih => exact ih.map (List.suffix_append ['\\', e] more) _
  | case11 c rest _ _ _ ih => exact ih.map (List.suffix_cons c rest) _
  | _ => trivial

theorem not_half_of_letter? {c : Char} {n : Nat} (h : letter? c = some n) :
    (isHigh n || isLow n) = false := by
  unfold letter? at h
  iterate 6
    split at h
    · cases h
      first
        | rfl
        | exact not_half_of_toNat c
  cases h

theorem mem_units_of_map {n k : Nat} {ns : List Nat} {x : Except Stop (List Nat × List Char)}
    (h : (fun r => (k :: r.1, r.2)) <$> x = .ok (ns, rest)) (hn : n ∈ ns) :
    n = k ∨ ∃ ms, x = .ok (ms, rest) ∧ n ∈ ms := by
  cases x with
  | error stop => cases h
  | ok r =>
      cases h
      exact (List.mem_cons.1 hn).imp_right fun hn => ⟨r.1, rfl, hn⟩

/-- A unit that is half of a pair was written by its number, since no character is one and
an escape of one letter means none. -/
theorem hasHalf_of_mem_units {opened : List Char} {ns : List Nat} {n : Nat}
    (h : units opened s = .ok (ns, rest)) (hn : n ∈ ns) (hhalf : (isHigh n || isLow n) = true) :
    HasHalf s := by
  fun_induction units opened s generalizing ns with
  | case2 rest =>
      cases h
      cases hn
  | case6 h₁ h₂ h₃ h₄ tail _ k hk _ ih =>
      rcases mem_units_of_map h hn with rfl | ⟨ms, hms, hn⟩
      · exact ⟨h₁, h₂, h₃, h₄, n, (List.prefix_append _ tail).isInfix, hk, hhalf⟩
      · exact (ih hms hn).mono (List.suffix_append ['\\', 'u', _, _, _, _] tail).isInfix
  | case9 e more _ k hk _ ih =>
      rcases mem_units_of_map h hn with rfl | ⟨ms, hms, hn⟩
      · rw [not_half_of_letter? hk] at hhalf
        cases hhalf
      · exact (ih hms hn).mono (List.suffix_append ['\\', e] more).isInfix
  | case11 c rest _ _ _ ih =>
      rcases mem_units_of_map h hn with rfl | ⟨ms, hms, hn⟩
      · rw [not_half_of_toNat] at hhalf
        cases hhalf
      · exact (ih hms hn).mono (List.suffix_cons c rest).isInfix
  | _ => cases h

theorem exists_half_of_charsOfUnits? {ns : List Nat} (h : charsOfUnits? ns = none) :
    ∃ n ∈ ns, (isHigh n || isLow n) = true := by
  fun_induction charsOfUnits? ns with
  | case1 => cases h
  | case2 n hn => exact ⟨n, List.mem_singleton_self n, hn⟩
  | case3 n hn => cases h
  | case4 n m rest hpair ih =>
      rw [Bool.and_eq_true] at hpair
      exact ⟨n, List.mem_cons_self, by rw [hpair.1, Bool.true_or]⟩
  | case5 n m rest hpair hn => exact ⟨n, List.mem_cons_self, hn⟩
  | case6 n m rest hpair hn ih =>
      obtain ⟨k, hk, hhalf⟩ := ih (Option.map_eq_none_iff.1 h)
      exact ⟨k, List.mem_cons_of_mem n hk, hhalf⟩

theorem string_accounts (s : List Char) (room : Nat) : Accounts room s (string s) := by
  have haccounts := units_accounts s s room
  cases hunits : units s s with
  | error stop =>
      unfold string
      rw [hunits] at haccounts ⊢
      cases stop <;> exact haccounts
  | ok r =>
      rw [hunits] at haccounts
      rw [string_of_units hunits]
      cases hchars : charsOfUnits? r.1 with
      | some chars => exact haccounts
      | none =>
          obtain ⟨n, hn, hhalf⟩ := exists_half_of_charsOfUnits? hchars
          exact hasHalf_of_mem_units hunits hn hhalf

/-! ## Numbers -/

theorem wholeDigits?_eq {whole : List Char} (h : wholeDigits? s = some (whole, rest)) :
    s = whole ++ rest ∧ ∀ c ∈ whole, c.isDigit := by
  unfold wholeDigits? at h
  split at h
  · cases h
    exact ⟨rfl, List.forall_mem_singleton.2 rfl⟩
  · next s =>
      simp only at h
      split at h
      · cases h
      · cases h
        exact ⟨List.takeWhile_append_dropWhile.symm, fun c hc => List.mem_takeWhile_imp hc⟩

theorem fraction_suffix (s : List Char) : (fraction s).2 <:+ s := by
  unfold fraction
  split
  · next rest =>
      simp only
      split
      · exact List.suffix_refl _
      · exact (List.dropWhile_suffix _).trans (List.suffix_cons '.' rest)
  · exact List.suffix_refl _

theorem sign_suffix (s : List Char) : (sign s).2 <:+ s := by
  unfold sign
  split
  · exact List.suffix_cons _ _
  · exact List.suffix_cons _ _
  · exact List.suffix_refl _

theorem exponent?_suffix {n : Int} (h : exponent? s = some (n, rest)) : rest <:+ s := by
  unfold exponent? at h
  split at h
  · cases h
  · next e tail =>
      split at h
      · simp only at h
        split at h
        · cases h
        · cases h
          exact ((List.dropWhile_suffix _).trans (sign_suffix tail)).trans (List.suffix_cons e tail)
      · cases h

/-- A number comes upon a limit only behind its digits. -/
theorem number_accounts (s : List Char) (room : Nat) : Accounts room s (number s) := by
  unfold number
  have hsigned : (if s.head? = some '-' then (true, s.drop 1) else (false, s)).2 <:+ s := by
    split
    · exact List.drop_suffix 1 s
    · exact List.suffix_refl s
  generalize (if s.head? = some '-' then (true, s.drop 1) else (false, s)) = signed at hsigned
  obtain ⟨negative, unsigned⟩ := signed
  simp only at hsigned ⊢
  cases hwhole : wholeDigits? unsigned with
  | none => trivial
  | some r =>
      obtain ⟨whole, behind⟩ := r
      obtain ⟨rfl, hdigits⟩ := wholeDigits?_eq hwhole
      have hbehind : behind <:+ s := (List.suffix_append whole behind).trans hsigned
      have hfraction : (fraction behind).2 <:+ s := (fraction_suffix behind).trans hbehind
      simp only
      cases hexponent : exponent? (fraction behind).2 with
      | some r => exact (exponent?_suffix hexponent).trans hfraction
      | none =>
          simp only
          split
          · exact hfraction
          · split
            · next hlong =>
                exact ⟨hlong, whole, (List.infix_append [] whole behind).trans hsigned.isInfix,
                  rfl, hdigits⟩
            · exact hfraction

theorem atom_accounts (s : List Char) (room : Nat) : Accounts room s (atom s) := by
  unfold atom
  iterate 6
    split
    · next h => exact after?_suffix h
  exact number_accounts s room

/-! ## Values -/

/-- A container that is opened accounts for how reading it ends if what stands in it
does. -/
theorem container_accounts {c : Char} {container : Container} {close : List Char} {empty : α}
    {x : Except Stop (α × List Char)} (hc : isOpening c = true)
    (hx : Accounts (room - 1) (skip rest) x) :
    Accounts room (c :: rest)
      (if room = 0 then .error (.nestedTooDeeply container)
      else
        match after? close (skip rest) with
        | some rest => .ok (empty, rest)
        | none => x) := by
  split
  · next hroom =>
      change room < List.countP isOpening (c :: rest)
      rw [List.countP_cons_of_pos hc, hroom]
      exact Nat.succ_pos _
  · split
    · next h =>
        exact ((after?_suffix h).trans (skip_suffix rest)).trans (List.suffix_cons c rest)
    · exact (hx.mono (skip_suffix rest)).opened hc

section Step

variable (hvalue : ∀ room s, Accounts room s (value depth room s))
  (hmembers : ∀ room s, Accounts room s (members depth room s))
  (hitems : ∀ room s, Accounts room s (items depth room s))

include hmembers hitems in
theorem value_accounts (room : Nat) (s : List Char) :
    Accounts room s (value (depth + 1) room s) := by
  cases s with
  | nil => trivial
  | cons c rest =>
      unfold value
      split
      · exact ((string_accounts rest room).mono (List.suffix_cons c rest)).bind fun _ _ h => h
      · split
        · next hc =>
            refine container_accounts (by rw [hc]; rfl) ?_
            exact (hmembers (room - 1) (skip rest)).bind fun _ _ h => h
        · split
          · next hc =>
              refine container_accounts (by rw [hc]; rfl) ?_
              exact (hitems (room - 1) (skip rest)).bind fun _ _ h => h
          · exact atom_accounts (c :: rest) room

include hvalue hmembers in
theorem members_accounts (room : Nat) (s : List Char) :
    Accounts room s (members (depth + 1) room s) := by
  unfold members
  cases hquote : after? ['"'] s with
  | none => trivial
  | some rest =>
      refine ((string_accounts rest room).mono (after?_suffix hquote)).bind fun key rest hrest => ?_
      simp only
      cases hcolon : after? [':'] (skip rest) with
      | none => trivial
      | some behind =>
          have hbehind : skip behind <:+ s :=
            (skip_suffix behind).trans
              ((after?_suffix hcolon).trans ((skip_suffix rest).trans hrest))
          refine ((hvalue room (skip behind)).mono hbehind).bind fun v tail htail => ?_
          have hskip : skip tail <:+ s := (skip_suffix tail).trans htail
          simp only
          split
          · next h =>
              rw [h] at hskip
              exact (List.suffix_cons _ _).trans hskip
          · next more h =>
              rw [h] at hskip
              have hmore : skip more <:+ s :=
                (skip_suffix more).trans ((List.suffix_cons _ _).trans hskip)
              exact ((hmembers room (skip more)).mono hmore).bind fun _ _ h => h
          · trivial

include hvalue hitems in
theorem items_accounts (room : Nat) (s : List Char) :
    Accounts room s (items (depth + 1) room s) := by
  unfold items
  refine (hvalue room s).bind fun v tail htail => ?_
  simp only
  have hskip : skip tail <:+ s := (skip_suffix tail).trans htail
  split
  · next h =>
      rw [h] at hskip
      exact (List.suffix_cons _ _).trans hskip
  · next more h =>
      rw [h] at hskip
      have hmore : skip more <:+ s :=
        (skip_suffix more).trans ((List.suffix_cons _ _).trans hskip)
      exact ((hitems room (skip more)).mono hmore).bind fun _ _ h => h
  · trivial

end Step

/-- The three readers that call each other account for how they end. -/
theorem readers_account (depth : Nat) :
    (∀ room s, Accounts room s (value depth room s)) ∧
      (∀ room s, Accounts room s (members depth room s)) ∧
      ∀ room s, Accounts room s (items depth room s) := by
  induction depth with
  | zero => exact ⟨fun _ _ => trivial, fun _ _ => trivial, fun _ _ => trivial⟩
  | succ depth ih =>
      obtain ⟨hvalue, hmembers, hitems⟩ := ih
      exact ⟨value_accounts hmembers hitems, members_accounts hvalue hmembers,
        items_accounts hvalue hitems⟩

/-- Whatever stops the reading of a whole text, the text can be blamed for it. -/
theorem accounts_of_document {stop : Stop} (h : document room s = .error stop) :
    Accounts room s (.error stop : Except Stop (Value × List Char)) := by
  have hvalue := ((readers_account (2 * s.length + 2)).1 room (skip s)).mono (skip_suffix s)
  unfold document at h
  split at h
  · cases h
    trivial
  · split at h
    · next hstop =>
        cases h
        rw [hstop] at hvalue
        exact hvalue
    · split at h
      · cases h
      · cases h
        trivial

/-! ## Texts beyond the limits -/

/-- A text that begins with more opening brackets than there is room for is not read: they
use up the room, two steps down for each of them. -/
theorem value_brackets (room depth : Nat) (rest : List Char) (h : 2 * room < depth) :
    value depth room (List.replicate (room + 1) '[' ++ rest) = .error (.nestedTooDeeply .list) := by
  induction room generalizing depth with
  | zero =>
      obtain ⟨depth, rfl⟩ := Nat.exists_eq_add_of_lt h
      rw [Nat.zero_add, List.replicate_succ, List.cons_append, value]
      rfl
  | succ room ih =>
      obtain ⟨depth, rfl⟩ : ∃ d, depth = d + 1 + 1 := ⟨depth - 2, by omega⟩
      let behind := List.replicate (room + 1) '[' ++ rest
      have hbehind : behind = '[' :: (List.replicate room '[' ++ rest) := rfl
      have hskip : skip behind = behind := by
        rw [hbehind]
        rfl
      have hopen : after? [']'] behind = none := by
        rw [hbehind]
        rfl
      have hitems : items (depth + 1) room behind = .error (.nestedTooDeeply .list) := by
        rw [items, ih depth (by omega)]
        rfl
      change value (depth + 1 + 1) (room + 1) ('[' :: behind) = _
      rw [value]
      simp only [hskip, hopen, Nat.add_sub_cancel, hitems]
      rfl

/-- Whether a number ends in front of a text: no digit, fraction or exponent follows. -/
def EndsNumber (rest : List Char) : Prop :=
  ∀ c, rest.head? = some c → ¬ c.isDigit ∧ c ≠ '.' ∧ c ≠ 'e' ∧ c ≠ 'E'

theorem wholeDigits?_digits {ds : List Char} (hne : ds ≠ []) (hdigits : ∀ c ∈ ds, c.isDigit)
    (hlead : ds.head? ≠ some '0') (hrest : EndsNumber rest) :
    wholeDigits? (ds ++ rest) = some (ds, rest) := by
  have htake : (ds ++ rest).takeWhile Char.isDigit = ds := by
    rw [List.takeWhile_append_of_pos hdigits]
    cases rest with
    | nil => simp
    | cons c rest => simp [(hrest c rfl).1]
  have hdrop : (ds ++ rest).dropWhile Char.isDigit = rest := by
    rw [List.dropWhile_append_of_pos hdigits]
    cases rest with
    | nil => rfl
    | cons c rest => simp [(hrest c rfl).1]
  unfold wholeDigits?
  split
  · next h =>
      obtain ⟨d, ds, rfl⟩ := List.exists_cons_of_ne_nil hne
      cases h
      exact absurd rfl hlead
  · simp only [htake, hdrop, if_neg hne]

theorem number_digits {ds : List Char} (hlong : Text.maxDigits < ds.length)
    (hdigits : ∀ c ∈ ds, c.isDigit) (hlead : ds.head? ≠ some '0') (hrest : EndsNumber rest) :
    number (ds ++ rest) = .error (.integerTooLong ds.length) := by
  have hne : ds ≠ [] := by
    rintro rfl
    cases hlong
  have hsign : (ds ++ rest).head? ≠ some '-' := by
    obtain ⟨d, ds, rfl⟩ := List.exists_cons_of_ne_nil hne
    intro h
    cases h
    exact absurd (hdigits '-' List.mem_cons_self) (by decide)
  have hfraction : fraction rest = ([], rest) := by
    unfold fraction
    split
    · exact absurd rfl (hrest '.' rfl).2.1
    · rfl
  have hexponent : exponent? rest = none := by
    unfold exponent?
    split
    · rfl
    · next e behind => exact if_neg fun h => h.elim (hrest e rfl).2.2.1 (hrest e rfl).2.2.2
  unfold number
  rw [if_neg hsign]
  simp only [wholeDigits?_digits hne hdigits hlead hrest, hfraction, hexponent]
  rw [if_neg (by simp), if_pos hlong]

theorem value_digit {c : Char} {rest : List Char} (hc : c.isDigit) (depth room : Nat) :
    value (depth + 1) room (c :: rest) = number (c :: rest) := by
  have hne : ∀ {d : Char}, ¬ d.isDigit → c ≠ d := fun hd heq => hd (heq ▸ hc)
  have hword : ∀ {w : Char} (word : List Char), ¬ w.isDigit →
      after? (w :: word) (c :: rest) = none := fun word hw => if_neg fun h => hne hw h.symm
  have hnull : after? "null".toList (c :: rest) = none := hword "ull".toList (by decide)
  have htrue : after? "true".toList (c :: rest) = none := hword "rue".toList (by decide)
  have hfalse : after? "false".toList (c :: rest) = none := hword "alse".toList (by decide)
  have hnan : after? "NaN".toList (c :: rest) = none := hword "aN".toList (by decide)
  have hinf : after? "Infinity".toList (c :: rest) = none := hword "nfinity".toList (by decide)
  have hneg : after? "-Infinity".toList (c :: rest) = none :=
    hword "Infinity".toList (by decide)
  rw [value, if_neg (hne (by decide)), if_neg (hne (by decide)), if_neg (hne (by decide)), atom,
    hnull, htrue, hfalse, hnan, hinf, hneg]

/-- Where reading a value stops, the reading of the whole text stops. Blanks may stand in
front of the value. -/
theorem document_of_stop {stop : Stop} (hmark : s.head? ≠ some '\uFEFF')
    (h : value (2 * s.length + 2) room (skip s) = .error stop) :
    document room s = .error stop := by
  rw [document, if_neg hmark, h]

end Reader

variable {nesting : Nat} {rest : List Char}

/-- A text that begins with a number of too many digits is not read. -/
theorem read_digits {ds : List Char} (hlong : Text.maxDigits < ds.length)
    (hdigits : ∀ c ∈ ds, c.isDigit) (hlead : ds.head? ≠ some '0')
    (hrest : Reader.EndsNumber rest) :
    read (ds ++ rest) nesting = .error (.integerTooLong ds.length) := by
  cases ds with
  | nil => cases hlong
  | cons c ds =>
      have hc : c.isDigit := hdigits c List.mem_cons_self
      have hspace : ¬ Reader.isSpace c = true := by
        intro h
        simp only [Reader.isSpace, Bool.or_eq_true, decide_eq_true_eq] at h
        rcases h with ((rfl | rfl) | rfl) | rfl <;> exact absurd hc (by decide)
      have hmark : (c :: (ds ++ rest)).head? ≠ some '\uFEFF' := by
        intro h
        cases h
        exact absurd hc (by decide)
      have hdocument : Reader.document nesting (c :: (ds ++ rest)) =
          .error (.integerTooLong (c :: ds).length) := by
        refine Reader.document_of_stop hmark ?_
        rw [Reader.skip, List.dropWhile_cons_of_neg hspace, Reader.value_digit hc]
        exact Reader.number_digits hlong hdigits hlead hrest
      rw [read, List.cons_append, hdocument]

/-- A text that begins with too many opening brackets is not read. -/
theorem read_brackets (nesting : Nat) (rest : List Char) :
    read (List.replicate (nesting + 1) '[' ++ rest) nesting = .error (.nestedTooDeeply .list) := by
  let text := List.replicate (nesting + 1) '[' ++ rest
  have htext : text = '[' :: (List.replicate nesting '[' ++ rest) := rfl
  have hskip : Reader.skip text = text := by
    rw [htext]
    rfl
  have hmark : text.head? ≠ some '\uFEFF' := by
    rw [htext]
    exact fun h => absurd (Option.some.inj h) (by decide)
  have hdocument : Reader.document nesting text = .error (.nestedTooDeeply .list) := by
    refine Reader.document_of_stop hmark ?_
    rw [hskip]
    refine Reader.value_brackets nesting _ rest ?_
    rw [List.length_append, List.length_replicate]
    omega
  rw [read, hdocument]

/-- A text that could not be read is malformed, or reading came upon a limit that the text
can be blamed for. -/
theorem read_accounts (text : List Char) (nesting : Nat) :
    (∃ v, read text nesting = .ok v) ∨ (∃ m, read text nesting = .error (.malformed m)) ∨
      (∃ n, read text nesting = .error (.integerTooLong n) ∧ Reader.TooLong n text) ∨
      (∃ container, read text nesting = .error (.nestedTooDeeply container) ∧
        nesting < text.countP Reader.isOpening) ∨
      read text nesting = .error .halfPair ∧ Reader.HasHalf text := by
  unfold read
  split
  · next v _ => exact .inl ⟨v, rfl⟩
  · exact .inr (.inl ⟨_, rfl⟩)
  · next n h => exact .inr (.inr (.inl ⟨n, rfl, Reader.accounts_of_document h⟩))
  · next container h =>
      exact .inr (.inr (.inr (.inl ⟨container, rfl, Reader.accounts_of_document h⟩)))
  · next h => exact .inr (.inr (.inr (.inr ⟨rfl, Reader.accounts_of_document h⟩)))

end Json

end AnalysisPlan
