/-!
# Class paths

A class path is put together from three lists. The leading entries are taken as
they are. Of the ordinary entries those count that are there now, each once and
none that leads already; whether an entry is there is asked in order, and never
again for one that was found. The extra entries follow as they are, without those
that stand before them.
-/

namespace AnalysisPlan

/-- A path that was asked for, and whether it was there. -/
structure Probe where
  path : String
  found : Bool
deriving Repr, DecidableEq

namespace Classpath

/-- The questions asked about paths when the paths in `found` are known to be
there. -/
def probes (present : String → Bool) (found : List String) : List String → List Probe
  | [] => []
  | path :: paths =>
    if path ∈ found then probes present found paths
    else if present path then ⟨path, true⟩ :: probes present (path :: found) paths
    else ⟨path, false⟩ :: probes present found paths

def asked (present : String → Bool) (paths : List String) : List String :=
  (probes present [] paths).map (·.path)

/-- The paths that are there, in order and each once. -/
def existing (present : String → Bool) (paths : List String) : List String :=
  ((probes present [] paths).filter (·.found)).map (·.path)

def missing (present : String → Bool) (paths : List String) : List String :=
  ((probes present [] paths).filter (!·.found)).map (·.path)

def assemble (present : String → Bool) (leading ordinary extra : List String) : List String :=
  let front := leading ++ (existing present ordinary).filter (· ∉ leading)
  front ++ extra.filter (· ∉ front)

@[simp] theorem probes_nil (present : String → Bool) (found : List String) :
    probes present found [] = [] := rfl

theorem mem_existing_probes {present : String → Bool} {found paths : List String} {p : String} :
    ⟨p, true⟩ ∈ probes present found paths ↔ p ∈ paths ∧ p ∉ found ∧ present p = true := by
  induction paths generalizing found with
  | nil => simp
  | cons q qs ih =>
    unfold probes
    split
    · next hq =>
      rw [ih, List.mem_cons]
      constructor
      · rintro ⟨h, hf⟩
        exact ⟨.inr h, hf⟩
      · rintro ⟨rfl | h, hf⟩
        · exact absurd hq hf.1
        · exact ⟨h, hf⟩
    · next hq =>
      split
      · next hp =>
        simp only [List.mem_cons, Probe.mk.injEq, and_true, ih, not_or]
        constructor
        · rintro (rfl | ⟨h, ⟨_, hf⟩, hpp⟩)
          · exact ⟨.inl rfl, hq, hp⟩
          · exact ⟨.inr h, hf, hpp⟩
        · rintro ⟨h | h, hf, hpp⟩
          · exact .inl h
          · by_cases e : p = q
            · exact .inl e
            · exact .inr ⟨h, ⟨e, hf⟩, hpp⟩
      · next hp =>
        simp only [List.mem_cons, Probe.mk.injEq, Bool.true_eq_false, and_false, false_or, ih]
        constructor
        · rintro ⟨h, hf⟩
          exact ⟨.inr h, hf⟩
        · rintro ⟨rfl | h, hf, hpp⟩
          · exact absurd hpp hp
          · exact ⟨h, hf, hpp⟩

theorem mem_existing {present : String → Bool} {paths : List String} {p : String} :
    p ∈ existing present paths ↔ p ∈ paths ∧ present p = true := by
  have h := @mem_existing_probes present [] paths p
  simp only [List.not_mem_nil, not_false_eq_true, true_and] at h
  rw [← h]
  simp only [existing, List.mem_map, List.mem_filter]
  constructor
  · rintro ⟨⟨q, b⟩, ⟨hm, hb⟩, rfl⟩
    simp only at hb
    exact hb ▸ hm
  · intro hm
    exact ⟨⟨p, true⟩, ⟨hm, rfl⟩, rfl⟩

end Classpath

end AnalysisPlan
