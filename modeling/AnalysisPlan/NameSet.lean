/-!
# Sets of names

A finite set of names, held as a list in strictly increasing order of code
points. The order is part of the type, so two sets with the same members are
equal, whatever order the members were added in, and listing a set is reading
its field.
-/

namespace AnalysisPlan

/-- A finite set of names. -/
structure NameSet where
  names : List String
  increasing : names.Pairwise (· < ·)

namespace NameSet

instance : DecidableEq NameSet := fun a b =>
  if h : a.names = b.names then
    isTrue (by cases a; cases b; cases h; rfl)
  else isFalse (fun e => h (e ▸ rfl))

def empty : NameSet := ⟨[], .nil⟩

instance : EmptyCollection NameSet := ⟨empty⟩

instance : Inhabited NameSet := ⟨∅⟩

instance : Membership String NameSet := ⟨fun s n => n ∈ s.names⟩

instance (n : String) (s : NameSet) : Decidable (n ∈ s) :=
  inferInstanceAs (Decidable (n ∈ s.names))

@[simp] theorem mem_names {n : String} {s : NameSet} : n ∈ s.names ↔ n ∈ s := Iff.rfl

@[simp] theorem not_mem_empty (n : String) : n ∉ (∅ : NameSet) := List.not_mem_nil

/-- Puts a name in its place in an increasing list. -/
def place (n : String) : List String → List String
  | [] => [n]
  | m :: ms => if n < m then n :: m :: ms else if n = m then m :: ms else m :: place n ms

theorem mem_place {k n : String} {ms : List String} :
    k ∈ place n ms ↔ k = n ∨ k ∈ ms := by
  induction ms with
  | nil => simp [place]
  | cons m ms ih =>
    unfold place
    split
    · simp
    · split
      · next h => subst h; simp
      · simp only [List.mem_cons, ih]
        constructor
        · rintro (h | h | h) <;> simp [h]
        · rintro (h | h | h) <;> simp [h]

theorem increasing_place {n : String} {ms : List String} (h : ms.Pairwise (· < ·)) :
    (place n ms).Pairwise (· < ·) := by
  induction ms with
  | nil => simp [place]
  | cons m ms ih =>
    rw [List.pairwise_cons] at h
    unfold place
    split
    · next hlt =>
      refine List.pairwise_cons.2 ⟨fun k hk => ?_, List.pairwise_cons.2 h⟩
      rcases List.mem_cons.1 hk with rfl | hk
      · exact hlt
      · exact String.lt_trans hlt (h.1 k hk)
    · next hlt =>
      split
      · exact List.pairwise_cons.2 h
      · next hne =>
        refine List.pairwise_cons.2 ⟨fun k hk => ?_, ih h.2⟩
        rcases mem_place.1 hk with rfl | hk
        · apply Classical.byContradiction
          intro hge
          exact hne (String.le_antisymm (String.not_lt.1 hge) (String.not_lt.1 hlt))
        · exact h.1 k hk

def insert (n : String) (s : NameSet) : NameSet := ⟨place n s.names, increasing_place s.increasing⟩

@[simp] theorem mem_insert {k n : String} {s : NameSet} :
    k ∈ s.insert n ↔ k = n ∨ k ∈ s := mem_place

def ofList (ns : List String) : NameSet := ns.foldl (fun s n => s.insert n) ∅

def union (s t : NameSet) : NameSet := t.names.foldl (fun s n => s.insert n) s

theorem mem_foldl_insert {k : String} {ns : List String} {s : NameSet} :
    k ∈ ns.foldl (fun s n => s.insert n) s ↔ k ∈ ns ∨ k ∈ s := by
  induction ns generalizing s with
  | nil => simp
  | cons n ns ih =>
    simp only [List.foldl_cons, ih, mem_insert, List.mem_cons]
    constructor
    · rintro (h | h | h) <;> simp [h]
    · rintro ((h | h) | h) <;> simp [h]

@[simp] theorem mem_ofList {k : String} {ns : List String} : k ∈ ofList ns ↔ k ∈ ns := by
  simp [ofList, mem_foldl_insert]

@[simp] theorem mem_union {k : String} {s t : NameSet} : k ∈ s.union t ↔ k ∈ s ∨ k ∈ t := by
  simp [union, mem_foldl_insert, Or.comm]

/-- An increasing list is determined by its members. -/
theorem eq_of_mem_iff {xs ys : List String} (hx : xs.Pairwise (· < ·))
    (hy : ys.Pairwise (· < ·)) (h : ∀ k, k ∈ xs ↔ k ∈ ys) : xs = ys := by
  induction xs generalizing ys with
  | nil =>
    cases ys with
    | nil => rfl
    | cons y ys => exact absurd ((h y).2 (by simp)) (by simp)
  | cons x xs ih =>
    cases ys with
    | nil => exact absurd ((h x).1 (by simp)) (by simp)
    | cons y ys =>
      rw [List.pairwise_cons] at hx hy
      have hxy : x = y := by
        rcases List.mem_cons.1 ((h x).1 (by simp)) with e | hin
        · exact e
        · rcases List.mem_cons.1 ((h y).2 (by simp)) with e | hin'
          · exact e.symm
          · exact absurd (String.lt_trans (hy.1 x hin) (hx.1 y hin')) (String.lt_irrefl y)
      subst hxy
      rw [ih hx.2 hy.2]
      intro k
      have hk := h k
      simp only [List.mem_cons] at hk
      constructor
      · intro hkx
        rcases hk.1 (Or.inr hkx) with e | hky
        · exact absurd (e ▸ hx.1 k hkx) (String.lt_irrefl x)
        · exact hky
      · intro hky
        rcases hk.2 (Or.inr hky) with e | hkx
        · exact absurd (e ▸ hy.1 k hky) (String.lt_irrefl x)
        · exact hkx

theorem ext_mem {s t : NameSet} (h : ∀ k, k ∈ s ↔ k ∈ t) : s = t := by
  obtain ⟨xs, hx⟩ := s
  obtain ⟨ys, hy⟩ := t
  have := eq_of_mem_iff hx hy h
  subst this
  rfl

end NameSet

end AnalysisPlan
