import AnalysisPlan.Json.Reader
import AnalysisPlan.Json.Writer

/-!
# Reading what was written

The reader gives back every value that the writer wrote, with whatever comes behind it
left over. A character is written as itself, by an escape of one letter, or by its
sixteen-bit units, of which a character outside the basic plane has two; in each case the
reader finds its units (`Reader.units_escapeChar`), and from the units of all characters
the text (`Reader.charsOfUnits_flatMap`). Values hold no numbers here, their objects no
name twice, and they stand no deeper inside each other than the reader goes
(`Value.Legible`).
-/

namespace AnalysisPlan
namespace Json

def charUnits (c : Char) : List Nat :=
  if c.toNat < 0x10000 then [c.toNat]
  else [0xD800 + (c.toNat - 0x10000) / 0x400, 0xDC00 + (c.toNat - 0x10000) % 0x400]

theorem highUnit_lt (c : Char) : 0xD800 + (c.toNat - 0x10000) / 0x400 < 0x10000 := by
  have hc : c.toNat < 0xD800 ∨ 0xDFFF < c.toNat ∧ c.toNat < 0x110000 := c.valid
  omega

/-- What comes of a read value once units stand before it. -/
def behindUnits (ns : List Nat) (r : List Nat × List Char) : List Nat × List Char :=
  (ns ++ r.1, r.2)

theorem behindUnits_behindUnits (ns ms : List Nat)
    (x : Except Reader.Stop (List Nat × List Char)) :
    behindUnits ns <$> behindUnits ms <$> x = behindUnits (ns ++ ms) <$> x := by
  cases x with
  | error stop => rfl
  | ok r => exact congrArg (fun ks => Except.ok (ks, r.2)) (List.append_assoc ns ms r.1).symm

theorem hex_four {n : Nat} (h : n < 0x10000) :
    Text.hex 4 n = [Nat.digitChar (n / 4096), Nat.digitChar (n / 256 % 16),
      Nat.digitChar (n / 16 % 16), Nat.digitChar (n % 16)] := by
  rw [Text.hex]
  by_cases h₁ : n < 16
  · rw [Nat.toDigits_of_lt_base h₁, show n / 4096 = 0 by omega, show n / 256 % 16 = 0 by omega,
      show n / 16 % 16 = 0 by omega, Nat.mod_eq_of_lt h₁]
    rfl
  rw [Nat.toDigits_of_base_le (by decide) (by omega : 16 ≤ n)]
  by_cases h₂ : n / 16 < 16
  · rw [Nat.toDigits_of_lt_base h₂, show n / 4096 = 0 by omega, show n / 256 % 16 = 0 by omega,
      Nat.mod_eq_of_lt h₂]
    rfl
  rw [Nat.toDigits_of_base_le (by decide) (by omega : 16 ≤ n / 16)]
  by_cases h₃ : n / 16 / 16 < 16
  · rw [Nat.toDigits_of_lt_base h₃, show n / 4096 = 0 by omega,
      show n / 16 / 16 = n / 256 % 16 by omega]
    rfl
  rw [Nat.toDigits_of_base_le (by decide) (by omega : 16 ≤ n / 16 / 16),
    Nat.toDigits_of_lt_base (by omega : n / 16 / 16 / 16 < 16),
    show n / 16 / 16 / 16 = n / 4096 by omega, show n / 16 / 16 = n / 256 by omega]
  rfl

namespace Reader

theorem hexDigit?_digitChar {d : Nat} (h : d < 16) : hexDigit? (Nat.digitChar d) = some d := by
  have hall : ∀ d : Fin 16, hexDigit? (Nat.digitChar d) = some d.val := by decide
  exact hall ⟨d, h⟩

theorem unit?_digitChars {n : Nat} (h : n < 0x10000) :
    unit? (Nat.digitChar (n / 4096)) (Nat.digitChar (n / 256 % 16))
      (Nat.digitChar (n / 16 % 16)) (Nat.digitChar (n % 16)) = some n := by
  have hsum : ((n / 4096 * 16 + n / 256 % 16) * 16 + n / 16 % 16) * 16 + n % 16 = n := by omega
  rw [unit?, hexDigit?_digitChar (by omega), hexDigit?_digitChar (by omega),
    hexDigit?_digitChar (by omega), hexDigit?_digitChar (by omega)]
  exact congrArg some hsum

/-! ## Strings -/

section Units

variable (opened : List Char) {tail : List Char}

theorem units_quote (rest : List Char) : units opened ('"' :: rest) = .ok ([], rest) := by
  rw [units.eq_def]
  rfl

theorem units_plain {c : Char} (hquote : c ≠ '"') (hslash : c ≠ '\\') (h : 0x20 ≤ c.toNat) :
    units opened (c :: tail) = behindUnits [c.toNat] <$> units opened tail := by
  rw [units.eq_def]
  simp only [hquote, hslash, if_false, Nat.not_lt.2 h]
  rfl

theorem units_letter {e : Char} {n : Nat} (he : e ≠ 'u') (hn : letter? e = some n) :
    units opened ('\\' :: e :: tail) = behindUnits [n] <$> units opened tail := by
  rw [units.eq_def]
  simp only [he, hn, if_true, if_false, Char.reduceEq]
  rfl

theorem units_escapeUnit {n : Nat} (h : n < 0x10000) (htail : tail ≠ []) :
    units opened (escapeUnit n ++ tail) = behindUnits [n] <$> units opened tail := by
  rw [escapeUnit, hex_four h]
  simp only [List.cons_append, List.nil_append]
  rw [units.eq_def]
  simp only [htail, unit?_digitChars h, if_true, if_false, Char.reduceEq]
  rfl

theorem units_escapePair {n m : Nat} (hn : n < 0x10000) (hm : m < 0x10000)
    (htail : tail ≠ []) :
    units opened (escapeUnit n ++ escapeUnit m ++ tail) =
      behindUnits [n, m] <$> units opened tail := by
  rw [List.append_assoc, units_escapeUnit opened hn (by simp [escapeUnit]),
    units_escapeUnit opened hm htail, behindUnits_behindUnits, List.singleton_append]

/-- An escape of one letter stands for the character that it is written for. -/
theorem units_escapeLetter {c e : Char} (he : e ≠ 'u') (hc : letter? e = some c.toNat)
    (h : c.toNat < 0x10000) :
    units opened (['\\', e] ++ tail) = behindUnits (charUnits c) <$> units opened tail := by
  rw [charUnits, if_pos h]
  exact units_letter opened he hc

theorem units_escapeChar (c : Char) (htail : tail ≠ []) :
    units opened (escapeChar c ++ tail) = behindUnits (charUnits c) <$> units opened tail := by
  unfold escapeChar
  split
  · next h =>
      rcases h with rfl | rfl <;> exact units_escapeLetter opened (by decide) rfl (by decide)
  split
  · next h => exact h ▸ units_escapeLetter opened (by decide) rfl (by decide)
  split
  · next h => exact h ▸ units_escapeLetter opened (by decide) rfl (by decide)
  split
  · next h => exact h ▸ units_escapeLetter opened (by decide) rfl (by decide)
  split
  · next h => exact h ▸ units_escapeLetter opened (by decide) rfl (by decide)
  split
  · next h => exact h ▸ units_escapeLetter opened (by decide) rfl (by decide)
  next hquote _ _ _ _ _ =>
  rw [not_or] at hquote
  split
  · next h =>
      rw [charUnits, if_pos (by omega)]
      exact units_plain opened hquote.1 hquote.2 h.1
  split
  · next h =>
      rw [charUnits, if_pos h]
      exact units_escapeUnit opened h htail
  · next h =>
      rw [charUnits, if_neg h]
      exact units_escapePair opened (highUnit_lt c) (by omega) htail

theorem units_flatMap (s rest : List Char) :
    units opened (s.flatMap escapeChar ++ '"' :: rest) = .ok (s.flatMap charUnits, rest) := by
  induction s with
  | nil => exact units_quote opened rest
  | cons c s ih =>
      rw [List.flatMap_cons, List.append_assoc, units_escapeChar opened c (by simp), ih]
      rfl

end Units

theorem charsOfUnits?_charUnits (c : Char) (ns : List Nat) :
    charsOfUnits? (charUnits c ++ ns) = (c :: ·) <$> charsOfUnits? ns := by
  by_cases h : c.toNat < 0x10000
  · have hc := not_half_of_toNat c
    have hhigh : isHigh c.toNat = false := (Bool.or_eq_false_iff.1 hc).1
    rw [charUnits, if_pos h, List.singleton_append]
    cases ns with
    | nil => simp [charsOfUnits?, hc]
    | cons m ns =>
        rw [charsOfUnits?, hc, hhigh, Bool.false_and, if_neg Bool.false_ne_true,
          if_neg Bool.false_ne_true, Char.ofNat_toNat]
  · have hc : c.toNat < 0xD800 ∨ 0xDFFF < c.toNat ∧ c.toNat < 0x110000 := c.valid
    have hhigh : isHigh (0xD800 + (c.toNat - 0x10000) / 0x400) = true := by
      simp [isHigh]
      omega
    have hlow : isLow (0xDC00 + (c.toNat - 0x10000) % 0x400) = true := by
      simp [isLow]
      omega
    have hsum : 0x10000 + (0xD800 + (c.toNat - 0x10000) / 0x400 - 0xD800) * 0x400 +
        (0xDC00 + (c.toNat - 0x10000) % 0x400 - 0xDC00) = c.toNat := by omega
    rw [charUnits, if_neg h, List.cons_append, List.singleton_append, charsOfUnits?, hhigh, hlow,
      hsum, Char.ofNat_toNat]
    rfl

theorem charsOfUnits?_flatMap (s : List Char) : charsOfUnits? (s.flatMap charUnits) = some s := by
  induction s with
  | nil => rfl
  | cons c s ih =>
      rw [List.flatMap_cons, charsOfUnits?_charUnits, ih]
      rfl

/-- Reading a written string gives back the string. -/
theorem string_written (s : String) (rest : List Char) :
    string (s.toList.flatMap escapeChar ++ '"' :: rest) = .ok (s, rest) := by
  rw [string_of_units (units_flatMap ..), charsOfUnits?_flatMap, Option.elim_some,
    String.ofList_toList]

end Reader

/-! ## Values -/

/-- A value without numbers, without a name that an object has twice, and with lists and
objects at most so deep inside each other. -/
inductive Value.Legible : Nat → Value → Prop
  | null (n : Nat) : Legible n .null
  | bool (n : Nat) (b : Bool) : Legible n (.bool b)
  | str (n : Nat) (s : String) : Legible n (.str s)
  | list {n : Nat} {vs : List Value} (h : ∀ v ∈ vs, Legible n v) : Legible (n + 1) (.list vs)
  | object {n : Nat} {fields : List (String × Value)} (keys : (fields.map Prod.fst).Nodup)
      (h : ∀ f ∈ fields, Legible n f.2) : Legible (n + 1) (.object fields)

theorem putField_of_not_mem {α : Type} {key : String} (value : α)
    {fields : List (String × α)} (h : key ∉ fields.map Prod.fst) :
    putField key value fields = fields ++ [(key, value)] := by
  induction fields with
  | nil => rfl
  | cons f fs ih =>
      obtain ⟨k, v⟩ := f
      rw [List.map_cons, List.mem_cons, not_or] at h
      rw [putField, if_neg fun heq => h.1 heq.symm, ih h.2, List.cons_append]

/-- Fields that are written under different names are kept as they are. -/
theorem fieldsOfPairs_of_nodup {α : Type} {fields : List (String × α)}
    (h : (fields.map Prod.fst).Nodup) : fieldsOfPairs fields = fields := by
  have hbehind : ∀ before : List (String × α), ((before ++ fields).map Prod.fst).Nodup →
      fields.foldl (fun fs p => putField p.1 p.2 fs) before = before ++ fields := by
    clear h
    induction fields with
    | nil => exact fun before _ => (List.append_nil before).symm
    | cons f fs ih =>
        intro before h
        have hnew : f.1 ∉ before.map Prod.fst := by
          intro hmem
          rw [List.map_append, List.nodup_append] at h
          exact h.2.2 f.1 hmem f.1 List.mem_cons_self rfl
        rw [List.append_cons] at h
        rw [List.foldl_cons, putField_of_not_mem f.2 hnew, ih _ h, ← List.append_cons]
  exact hbehind [] h

/-- The characters that the text of a legible value can begin with. -/
def openers : List Char := ['n', 't', 'f', '"', '[', '{']

theorem forall_openers {p : Char → Prop} :
    (∀ c ∈ openers, p c) ↔ p 'n' ∧ p 't' ∧ p 'f' ∧ p '"' ∧ p '[' ∧ p '{' := by
  simp [openers]

theorem exists_writeAt_cons {n : Nat} {v : Value} (h : v.Legible n) (depth : Nat) :
    ∃ c ∈ openers, ∃ s, writeAt depth v = c :: s := by
  cases h with
  | null => exact ⟨'n', by decide, _, rfl⟩
  | bool n b =>
      cases b with
      | false => exact ⟨'f', by decide, _, rfl⟩
      | true => exact ⟨'t', by decide, _, rfl⟩
  | str n s => exact ⟨'"', by decide, _, rfl⟩
  | @list n vs h =>
      cases vs with
      | nil => exact ⟨'[', by decide, _, rfl⟩
      | cons v vs => exact ⟨'[', by decide, _, by rw [writeAt]; rfl⟩
  | @object n fields keys h =>
      cases fields with
      | nil => exact ⟨'{', by decide, _, by rw [writeAt]⟩
      | cons f fs => exact ⟨'{', by decide, _, by rw [writeAt]; rfl⟩

theorem writeString_append (s : String) (rest : List Char) :
    writeString s ++ rest = '"' :: (s.toList.flatMap escapeChar ++ '"' :: rest) := by
  simp [writeString]

theorem colon_append (rest : List Char) : ": ".toList ++ rest = ':' :: ' ' :: rest := rfl

namespace Reader

theorem skip_cons {c : Char} (h : isSpace c = false) (s : List Char) :
    skip (c :: s) = c :: s := by
  rw [skip, List.dropWhile_cons, h]
  rfl

theorem skip_newLine (depth : Nat) (s : List Char) : skip (newLine depth ++ s) = skip s := by
  have hblanks : ∀ n, skip (List.replicate n ' ' ++ s) = skip s := by
    intro n
    induction n with
    | zero => rfl
    | succ n ih => exact ih
  exact hblanks (2 * depth)

theorem skip_writeAt {n : Nat} {v : Value} (h : v.Legible n) (depth : Nat) (rest : List Char) :
    skip (writeAt depth v ++ rest) = writeAt depth v ++ rest := by
  obtain ⟨c, hc, s, hs⟩ := exists_writeAt_cons h depth
  have hall : ∀ c ∈ openers, isSpace c = false := forall_openers.2 (by decide)
  rw [hs, List.cons_append, skip_cons (hall c hc)]

/-- The reader gives back a value from its text, which takes it no more steps than the text
has characters. -/
def Reads (n : Nat) (v : Value) : Prop :=
  ∀ depth fuel room rest, (writeAt depth v).length ≤ fuel → n ≤ room →
    value fuel room (writeAt depth v ++ rest) = .ok (v, rest)

section Steps

variable {fuel room : Nat} {s t u tail more rest : List Char} {v : Value} {vs : List Value}
  {key : String} {pairs : List (String × Value)}

theorem value_str (h : string s = .ok (key, rest)) :
    value (fuel + 1) room ('"' :: s) = .ok (.str key, rest) := by
  rw [value]
  change Except.bind (string s) _ = _
  rw [h]
  rfl

theorem value_list (hskip : skip s = t) (hmore : after? [']'] t = none)
    (h : items fuel room t = .ok (vs, rest)) :
    value (fuel + 1) (room + 1) ('[' :: s) = .ok (.list vs, rest) := by
  rw [value, hskip, hmore]
  change Except.bind (items fuel room t) _ = _
  rw [h]
  rfl

theorem value_object (hkeys : (pairs.map Prod.fst).Nodup) (hskip : skip s = t)
    (hmore : after? ['}'] t = none) (h : members fuel room t = .ok (pairs, rest)) :
    value (fuel + 1) (room + 1) ('{' :: s) = .ok (.object pairs, rest) := by
  rw [value, hskip, hmore]
  change Except.bind (members fuel room t) _ = _
  rw [h]
  exact congrArg (fun fields => Except.ok (Value.object fields, rest)) (fieldsOfPairs_of_nodup hkeys)

theorem items_last (h : value fuel room s = .ok (v, tail)) (htail : skip tail = ']' :: rest) :
    items (fuel + 1) room s = .ok ([v], rest) := by
  rw [items, h]
  dsimp only [bind, Except.bind]
  rw [htail]
  rfl

theorem items_more (h : value fuel room s = .ok (v, tail)) (htail : skip tail = ',' :: more)
    (hmore : items fuel room (skip more) = .ok (vs, rest)) :
    items (fuel + 1) room s = .ok (v :: vs, rest) := by
  rw [items, h]
  dsimp only [bind, Except.bind]
  rw [htail]
  change Except.bind (items fuel room (skip more)) _ = _
  rw [hmore]
  rfl

variable (hkey : string s = .ok (key, t)) (hcolon : skip t = ':' :: u)
  (h : value fuel room (skip u) = .ok (v, tail))

include hkey hcolon h

theorem members_last (htail : skip tail = '}' :: rest) :
    members (fuel + 1) room ('"' :: s) = .ok ([(key, v)], rest) := by
  rw [members]
  change Except.bind (string s) _ = _
  rw [hkey]
  dsimp only [bind, Except.bind]
  rw [hcolon]
  change Except.bind (value fuel room (skip u)) _ = _
  rw [h]
  dsimp only [Except.bind]
  rw [htail]
  rfl

theorem members_more (htail : skip tail = ',' :: more)
    (hmore : members fuel room (skip more) = .ok (pairs, rest)) :
    members (fuel + 1) room ('"' :: s) = .ok ((key, v) :: pairs, rest) := by
  rw [members]
  change Except.bind (string s) _ = _
  rw [hkey]
  dsimp only [bind, Except.bind]
  rw [hcolon]
  change Except.bind (value fuel room (skip u)) _ = _
  rw [h]
  dsimp only [Except.bind]
  rw [htail]
  change Except.bind (members fuel room (skip more)) _ = _
  rw [hmore]
  rfl

end Steps

theorem value_behind_blank {n : Nat} {v : Value} (hv : v.Legible n) (h : Reads n v)
    {depth fuel room : Nat} {tail : List Char} (hfuel : (writeAt depth v).length ≤ fuel)
    (hroom : n ≤ room) :
    value fuel room (skip (' ' :: (writeAt depth v ++ tail))) = .ok (v, tail) := by
  change value fuel room (skip (writeAt depth v ++ tail)) = _
  rw [skip_writeAt hv]
  exact h depth fuel room tail hfuel hroom

section Containers

variable {n : Nat} {outer room : Nat}

/-- The items of a list are given back, if each of them is. -/
theorem items_written {v : Value} {vs : List Value} (hv : Reads n v)
    (hvs : ∀ w ∈ vs, w.Legible n ∧ Reads n w) {depth fuel : Nat}
    (hfuel : (writeAt depth v ++ writeItems depth vs).length < fuel) (hroom : n ≤ room)
    (rest : List Char) :
    items fuel room (writeAt depth v ++ (writeItems depth vs ++ (newLine outer ++ ']' :: rest))) =
      .ok (v :: vs, rest) := by
  induction vs generalizing v fuel with
  | nil =>
      obtain ⟨fuel, rfl⟩ := Nat.exists_eq_add_one_of_ne_zero (Nat.ne_zero_of_lt hfuel)
      rw [writeItems, List.append_nil] at hfuel
      refine items_last (hv depth fuel room _ (by omega) hroom) ?_
      rw [writeItems, List.nil_append, skip_newLine]
      exact skip_cons (by decide) rest
  | cons w vs ih =>
      obtain ⟨fuel, rfl⟩ := Nat.exists_eq_add_one_of_ne_zero (Nat.ne_zero_of_lt hfuel)
      obtain ⟨hw, hreads⟩ := hvs w List.mem_cons_self
      simp only [writeItems, List.length_append, List.length_cons] at hfuel
      simp only [writeItems, List.append_assoc, List.cons_append]
      refine items_more (hv depth fuel room _ (by omega) hroom) (skip_cons (by decide) _) ?_
      rw [skip_newLine, skip_writeAt hw]
      refine ih hreads (fun x hx => hvs x (List.mem_cons_of_mem w hx)) ?_
      rw [List.length_append]
      omega

/-- The fields of an object are given back, if the value of each is. -/
theorem members_written {key : String} {v : Value} {fields : List (String × Value)}
    (hv : v.Legible n ∧ Reads n v) (hfields : ∀ f ∈ fields, f.2.Legible n ∧ Reads n f.2)
    {depth fuel : Nat}
    (hfuel : (writeAt depth v ++ writeFields depth fields).length < fuel) (hroom : n ≤ room)
    (rest : List Char) :
    members fuel room (writeString key ++ (": ".toList ++ (writeAt depth v ++
        (writeFields depth fields ++ (newLine outer ++ '}' :: rest))))) =
      .ok ((key, v) :: fields, rest) := by
  induction fields generalizing key v fuel with
  | nil =>
      obtain ⟨fuel, rfl⟩ := Nat.exists_eq_add_one_of_ne_zero (Nat.ne_zero_of_lt hfuel)
      rw [List.length_append] at hfuel
      rw [writeString_append, colon_append, writeFields, List.nil_append]
      refine members_last (string_written key _) (skip_cons (by decide) _)
        (value_behind_blank hv.1 hv.2 (by omega) hroom) ?_
      rw [skip_newLine]
      exact skip_cons (by decide) rest
  | cons f fields ih =>
      obtain ⟨fuel, rfl⟩ := Nat.exists_eq_add_one_of_ne_zero (Nat.ne_zero_of_lt hfuel)
      obtain ⟨k, w⟩ := f
      simp only [writeFields, List.length_append, List.length_cons] at hfuel
      rw [writeString_append, colon_append]
      simp only [writeFields, List.append_assoc, List.cons_append]
      refine members_more (string_written key _) (skip_cons (by decide) _)
        (value_behind_blank hv.1 hv.2 (by omega) hroom) (skip_cons (by decide) _) ?_
      rw [skip_newLine, writeString_append, skip_cons (by decide), ← writeString_append]
      have hw : w.Legible n ∧ Reads n w := hfields (k, w) List.mem_cons_self
      refine ih hw (fun g hg => hfields g (List.mem_cons_of_mem _ hg)) ?_
      rw [List.length_append]
      omega

end Containers

theorem exists_eq_add_one {n : Nat} {v : Value} (h : v.Legible n) {depth fuel : Nat}
    (hfuel : (writeAt depth v).length ≤ fuel) : ∃ k, fuel = k + 1 := by
  obtain ⟨c, -, s, hs⟩ := exists_writeAt_cons h depth
  rw [hs] at hfuel
  exact Nat.exists_eq_add_one_of_ne_zero (Nat.ne_zero_of_lt hfuel)

/-- Every legible value is given back. -/
theorem reads_of_legible {n : Nat} {v : Value} (h : v.Legible n) : Reads n v := by
  induction h with
  | null n =>
      intro depth fuel room rest hfuel _
      obtain ⟨fuel, rfl⟩ := exists_eq_add_one (.null n) hfuel
      rfl
  | bool n b =>
      intro depth fuel room rest hfuel _
      obtain ⟨fuel, rfl⟩ := exists_eq_add_one (.bool n b) hfuel
      cases b <;> rfl
  | str n s =>
      intro depth fuel room rest hfuel _
      obtain ⟨fuel, rfl⟩ := exists_eq_add_one (.str n s) hfuel
      rw [writeAt, writeString_append]
      exact value_str (string_written s rest)
  | @list n vs h ih =>
      intro depth fuel room rest hfuel hroom
      obtain ⟨fuel, rfl⟩ := exists_eq_add_one (.list h) hfuel
      obtain ⟨room, rfl⟩ := Nat.exists_eq_add_one_of_ne_zero (Nat.ne_zero_of_lt hroom)
      cases vs with
      | nil => rfl
      | cons v vs =>
          have hv := h v List.mem_cons_self
          obtain ⟨c, hc, s, hs⟩ := exists_writeAt_cons hv (depth + 1)
          have hcloser : ∀ c ∈ openers, ∀ s, after? [']'] (c :: s) = none := by
            intro c hc s
            have hne : ∀ c ∈ openers, ']' ≠ c := forall_openers.2 (by decide)
            rw [after?, if_neg (hne c hc)]
          simp only [writeAt, List.length_append, List.length_cons] at hfuel
          simp only [writeAt, List.append_assoc, List.cons_append, List.nil_append]
          refine value_list ((skip_newLine _ _).trans (skip_writeAt hv _ _)) ?_ ?_
          · rw [hs, List.cons_append]
            exact hcloser c hc _
          · refine items_written (ih v List.mem_cons_self) (fun w hw => ?_) ?_ (by omega) rest
            · exact ⟨h w (List.mem_cons_of_mem v hw), ih w (List.mem_cons_of_mem v hw)⟩
            · rw [List.length_append]
              omega
  | @object n fields keys h ih =>
      intro depth fuel room rest hfuel hroom
      obtain ⟨fuel, rfl⟩ := exists_eq_add_one (.object keys h) hfuel
      obtain ⟨room, rfl⟩ := Nat.exists_eq_add_one_of_ne_zero (Nat.ne_zero_of_lt hroom)
      cases fields with
      | nil =>
          rw [writeAt]
          rfl
      | cons f fields =>
          obtain ⟨k, v⟩ := f
          have hv : v.Legible n ∧ Reads n v :=
            ⟨h (k, v) List.mem_cons_self, ih (k, v) List.mem_cons_self⟩
          simp only [writeAt, List.length_append, List.length_cons] at hfuel
          simp only [writeAt, List.append_assoc, List.cons_append, List.nil_append]
          have hskip : ∀ s, skip (newLine (depth + 1) ++ (writeString k ++ s)) =
              writeString k ++ s := by
            intro s
            rw [skip_newLine, writeString_append]
            exact skip_cons (by decide) _
          refine value_object keys (hskip _) ?_ (members_written hv (fun f hf => ?_) ?_ (by omega) rest)
          · rw [writeString_append]
            rfl
          · exact ⟨h f (List.mem_cons_of_mem _ hf), ih f (List.mem_cons_of_mem _ hf)⟩
          · rw [List.length_append]
            omega

/-- The text of a legible value, with nothing but blanks behind it, is read back as the
value that it was written for. -/
theorem document_written {v : Value} {n room : Nat} {rest : List Char} (h : v.Legible n)
    (hn : n ≤ room) (hrest : skip rest = []) : document room (writeAt 0 v ++ rest) = .ok v := by
  obtain ⟨c, hc, s, hs⟩ := exists_writeAt_cons h 0
  have hmark : ∀ c ∈ openers, c ≠ '\uFEFF' := forall_openers.2 (by decide)
  have hread := reads_of_legible h 0 (2 * (writeAt 0 v ++ rest).length + 2) room rest
    (by rw [List.length_append]; omega) hn
  rw [document, skip_writeAt h, hread, if_neg]
  · exact if_pos hrest
  · rw [hs, List.cons_append, List.head?_cons]
    exact fun heq => hmark c hc (Option.some.inj heq)

end Reader

/-- The text of a legible value is read as that value. -/
theorem read_write {v : Value} {n nesting : Nat} {rest : List Char} (h : v.Legible n)
    (hn : n ≤ nesting) (hrest : Reader.skip rest = []) :
    read ((write v).toList ++ rest) nesting = .ok v := by
  rw [write, String.toList_ofList, read, Reader.document_written h hn hrest]

end Json
end AnalysisPlan
