import AnalysisPlan.Proofs.Applying
import Mathlib.Data.List.Nodup

/-!
# Requests that are made while a request is answered

Answering a request may bring requests along, which are answered before the request
counts as answered. `Project.Calls` is this nesting as a relation: it holds of finitely
many calls only. A queue in which the brought requests go to the front does the same
steps in the same order (`Calls.answerQueue_eq`), so what is shown of nested calls is
what `Configuring.apply` does.

The calls end although plugins may bring each other along in a circle, because a plugin
brings requests only when it is recorded, and a recorded identifier brings nothing any
more: what is outstanding pays for every request that is brought
(`Answers.outstanding_le`). What they have done in the end is described by the plugins
that became recorded (`Gains`).
-/

namespace AnalysisPlan

namespace Configuring

/-- Answers requests one after the other, each with all that it brings along. -/
def applyEach : List Request → Configuring Unit
  | [] => return ()
  | request :: requests => do
    apply request
    applyEach requests

end Configuring

namespace Project

/-- The requests, answered one after the other with what each brings along, take `p`
to `q`. -/
inductive Calls : List Request → Project → Project → Prop
  | nil (p : Project) : Calls [] p p
  | cons {r : Request} {rest brought : List Request} {p made q s : Project}
      (answered : Configuring.answer r p = .ok brought made) (inner : Calls brought made q)
      (outer : Calls rest q s) : Calls (r :: rest) p s

/-! ## What is outstanding -/

/-- How many requests the addons on a shelf can still bring, those left out whose
identifier is done. -/
def awaited (done : String → Bool) (shelf : List (Plugin × Addon)) : Nat :=
  (shelf.map fun a => if done a.1.id then 0 else a.2.brings.length).foldr (· + ·) 0

/-- How many requests the plugins of a project can still bring along. -/
def outstanding (p : Project) : Nat :=
  awaited p.hasApplied p.shelf + if p.hasApplied (Plugin.variantAnalysis 0).id then 0 else 1

theorem awaited_cons (done : String → Bool) (a : Plugin × Addon)
    (shelf : List (Plugin × Addon)) :
    awaited done (a :: shelf) =
      (if done a.1.id then 0 else a.2.brings.length) + awaited done shelf := by
  rw [awaited, List.map_cons, List.foldr_cons, awaited]

theorem awaited_le_queueBound (p : Project) :
    awaited p.hasApplied p.shelf + 2 ≤ Configuring.queueBound p := by
  unfold Configuring.queueBound
  induction p.shelf with
  | nil => exact Nat.le_refl 2
  | cons a shelf ih =>
      rw [awaited_cons, List.map_cons, List.foldr_cons]
      split <;> omega

section Awaited

variable {done done' : String → Bool} (hmono : ∀ id, done id = true → done' id = true)

include hmono

theorem awaited_mono (shelf : List (Plugin × Addon)) :
    awaited done' shelf ≤ awaited done shelf := by
  induction shelf with
  | nil => exact Nat.le_refl 0
  | cons a shelf ih =>
      rw [awaited_cons, awaited_cons]
      cases h : done a.1.id with
      | true =>
          rw [hmono _ h]
          simpa using ih
      | false => split <;> simp <;> omega

/-- An addon whose identifier becomes done pays for the requests that it brings. -/
theorem awaited_add_brings {plugin : Plugin} (hnew : done plugin.id = false)
    (hdone : done' plugin.id = true) (shelf : List (Plugin × Addon)) :
    ((shelf.lookup plugin).getD {}).brings.length + awaited done' shelf ≤
      awaited done shelf := by
  induction shelf with
  | nil => exact Nat.le_refl 0
  | cons a shelf ih =>
      rw [awaited_cons, awaited_cons, List.lookup_cons]
      split
      · next heq =>
          rw [← eq_of_beq heq, hnew, hdone]
          have := awaited_mono hmono shelf
          simp only [Option.getD_some, if_true, Bool.false_eq_true, if_false]
          omega
      · cases h : done a.1.id with
        | true =>
            rw [hmono _ h]
            simpa using ih
        | false => split <;> simp <;> omega

end Awaited

variable {r : Request} {rs brought : List Request} {p q : Project}

theorem Answers.shelf (h : p.Answers r brought q) : q.shelf = p.shelf := by
  rw [h.kept]

/-- A request that is brought along is paid for by what is not outstanding any more. -/
theorem Answers.outstanding_le (h : p.Answers r brought q) :
    brought.length + q.outstanding ≤ p.outstanding := by
  rcases h.recorded with ⟨rfl, happlied, -⟩ | ⟨plugin, -, hnew, rfl, happlied, -⟩
  · have hsame : q.hasApplied = p.hasApplied := by
      funext id
      rw [hasApplied, happlied, hasApplied]
    refine Nat.le_of_eq ?_
    rw [outstanding, outstanding, hsame, h.shelf, List.length_nil, Nat.zero_add]
  · have hadds : ∀ id, q.hasApplied id = (p.hasApplied id || plugin.id == id) := by
      intro id
      rw [← hasApplied_recording, hasApplied, happlied]
      rfl
    have hmono : ∀ id, p.hasApplied id = true → q.hasApplied id = true := by
      intro id hid
      rw [hadds, hid, Bool.true_or]
    have hvariant : (if q.hasApplied (Plugin.variantAnalysis 0).id then 0 else 1) ≤
        if p.hasApplied (Plugin.variantAnalysis 0).id then 0 else 1 := by
      cases hp : p.hasApplied (Plugin.variantAnalysis 0).id with
      | true => exact Nat.le_of_eq (by rw [hmono _ hp])
      | false => split <;> simp
    have hdone : q.hasApplied plugin.id = true := by
      rw [hadds, beq_self_eq_true, Bool.or_true]
    rw [outstanding, outstanding, h.shelf]
    cases plugin with
    | analysis =>
        have := awaited_mono hmono p.shelf
        rw [brings, List.length_nil]
        omega
    | variantAnalysis serial =>
        have := awaited_mono hmono p.shelf
        have hnew : p.hasApplied (Plugin.variantAnalysis 0).id = false := hnew
        have hdone : q.hasApplied (Plugin.variantAnalysis 0).id = true := hdone
        rw [hnew, hdone, brings, List.length_singleton, if_pos rfl, if_neg Bool.false_ne_true]
        omega
    | addon id key =>
        have := awaited_add_brings hmono hnew hdone p.shelf
        rw [brings, addonOf]
        omega

/-! ## The calls end -/

/-- The queue does what the nested calls do, in as many steps as they are paid for. -/
theorem Calls.answerQueue_eq (h : Calls rs p q) :
    ∃ k, k + q.outstanding ≤ rs.length + p.outstanding ∧ ∀ n waiting,
      Configuring.answerQueue (n + k) (rs ++ waiting) p =
        Configuring.answerQueue n waiting q := by
  induction h with
  | nil p => exact ⟨0, by simp, fun _ _ => rfl⟩
  | @cons r rest brought p made q s answered _ _ hinner houter =>
      obtain ⟨k, hk, hrun⟩ := hinner
      obtain ⟨k', hk', hrun'⟩ := houter
      have hpaid := (Configuring.answer_answered answered).outstanding_le
      refine ⟨k' + k + 1, ?_, fun n waiting => ?_⟩
      · rw [List.length_cons]
        omega
      · rw [← Nat.add_assoc, List.cons_append, Configuring.answerQueue_succ_cons]
        refine (bind_of_ok answered _).trans ?_
        rw [← Nat.add_assoc, hrun, hrun']

theorem Calls.outstanding_le (h : Calls rs p q) :
    q.outstanding ≤ rs.length + p.outstanding := by
  obtain ⟨k, hk, -⟩ := h.answerQueue_eq
  exact Nat.le_trans (Nat.le_add_left _ k) hk

/-- Whatever is asked of a project that is ready, the calls end, and it is ready
afterwards. -/
theorem Ready.exists_calls (h : p.Ready) (rs : List Request) :
    ∃ q, Calls rs p q ∧ q.Ready := by
  have hall : ∀ n rs, ∀ p : Project, p.Ready → rs.length + p.outstanding ≤ n →
      ∃ q, Calls rs p q ∧ q.Ready := by
    intro n
    induction n with
    | zero =>
        intro rs p h hn
        have hnil : rs = [] := List.eq_nil_of_length_eq_zero (by omega)
        rw [hnil]
        exact ⟨p, .nil p, h⟩
    | succ n ih =>
        intro rs p h hn
        cases rs with
        | nil => exact ⟨p, .nil p, h⟩
        | cons r rest =>
            rw [List.length_cons] at hn
            obtain ⟨brought, made, hanswer, hmade⟩ := Configuring.answer_returns h r
            have hpaid := (Configuring.answer_answered hanswer).outstanding_le
            obtain ⟨q, hinner, hq⟩ := ih brought made hmade (by omega)
            have hless := hinner.outstanding_le
            obtain ⟨s, houter, hs⟩ := ih rest q hq (by omega)
            exact ⟨s, .cons hanswer hinner houter, hs⟩
  exact hall _ rs p h (Nat.le_refl _)

/-- Applying is calling. -/
theorem Calls.apply_eq (h : Calls [r] p q) : Configuring.apply r p = .ok () q := by
  obtain ⟨k, hk, hrun⟩ := h.answerQueue_eq
  have hbound := p.awaited_le_queueBound
  have hone : p.outstanding ≤ awaited p.hasApplied p.shelf + 1 := by
    rw [outstanding]
    split <;> omega
  rw [List.length_singleton] at hk
  obtain ⟨n, hn⟩ : ∃ n, Configuring.queueBound p = n + k :=
    ⟨Configuring.queueBound p - k, by omega⟩
  change Configuring.answerQueue (Configuring.queueBound p) ([r] ++ []) p = _
  rw [hn, hrun, Configuring.answerQueue_nil]
  rfl

theorem Calls.applyEach_eq (h : Calls rs p q) : Configuring.applyEach rs p = .ok () q := by
  induction h with
  | nil p => rfl
  | cons answered inner _ _ houter =>
      exact (bind_of_ok (Calls.cons answered inner (.nil _)).apply_eq _).trans houter

/-! ## What the calls have done -/

/-- What became of a project of which requests were made while plugins were recorded. -/
structure Gains (p : Project) (asked : List Request) (recorded : List Plugin) (q : Project) :
    Prop where
  evaluated : q.evaluated = p.evaluated
  shelf : q.shelf = p.shelf
  applied : q.applied = p.applied ++ recorded
  history : q.history = p.history ++ recorded.map .applied
  mem_ids : ∀ id, id ∈ q.pluginIds ↔ id ∈ p.pluginIds ∨ ∃ r ∈ asked, r.id = id
  hasApplied : ∀ id, q.hasApplied id = true ↔
    p.hasApplied id = true ∨ ∃ a, .apply a ∈ asked ∧ a.id = id
  nodup_ids : p.pluginIds.Nodup → q.pluginIds.Nodup
  nodup_applied : (p.applied.map (·.id)).Nodup → (q.applied.map (·.id)).Nodup

/-- The calls that a plugin made when it was applied: it was the last that was recorded
when they began, and what they recorded stands behind it. -/
def Nested (p : Project) (a : Plugin) (q : Project) : Prop :=
  ∃ before first last, Calls (p.brings a) first last ∧ first.applied = before ++ [a] ∧
    first.applied <+: last.applied ∧ last.applied <+: q.applied

theorem brings_of_shelf (h : q.shelf = p.shelf) : q.brings = p.brings := by
  funext a
  cases a with
  | analysis => rfl
  | variantAnalysis serial => rfl
  | addon id key => rw [brings, addonOf, h, brings, addonOf]

namespace Gains

variable {xs ys : List Request} {as bs : List Plugin} {s : Project}

theorem refl (p : Project) : p.Gains [] [] p where
  evaluated := rfl
  shelf := rfl
  applied := (List.append_nil _).symm
  history := (List.append_nil _).symm
  mem_ids id := by simp
  hasApplied id := by simp
  nodup_ids h := h
  nodup_applied h := h

theorem trans (h : p.Gains xs as q) (h' : q.Gains ys bs s) :
    p.Gains (xs ++ ys) (as ++ bs) s where
  evaluated := h'.evaluated.trans h.evaluated
  shelf := h'.shelf.trans h.shelf
  applied := by rw [h'.applied, h.applied, List.append_assoc]
  history := by rw [h'.history, h.history, List.append_assoc, List.map_append]
  mem_ids id := by
    rw [h'.mem_ids, h.mem_ids, or_assoc]
    simp only [List.mem_append, or_and_right, exists_or]
  hasApplied id := by
    rw [h'.hasApplied, h.hasApplied, or_assoc]
    simp only [List.mem_append, or_and_right, exists_or]
  nodup_ids hp := h'.nodup_ids (h.nodup_ids hp)
  nodup_applied hp := h'.nodup_applied (h.nodup_applied hp)

theorem of_mem (h : p.Gains xs as q) (hsame : ∀ r, r ∈ ys ↔ r ∈ xs) : p.Gains ys as q where
  evaluated := h.evaluated
  shelf := h.shelf
  applied := h.applied
  history := h.history
  mem_ids id := by simp only [h.mem_ids, hsame]
  hasApplied id := by simp only [h.hasApplied, hsame]
  nodup_ids := h.nodup_ids
  nodup_applied := h.nodup_applied

end Gains

/-- One request records one plugin or none, and brings along what that plugin brings. -/
theorem Answers.gains (h : p.Answers r brought q) :
    ∃ recorded, p.Gains [r] recorded q ∧ brought = recorded.flatMap p.brings ∧
      ∀ a ∈ recorded, recorded = [a] := by
  have hevaluated : q.evaluated = p.evaluated := by rw [h.kept]
  have hids : ∀ id, id ∈ q.pluginIds ↔ id ∈ p.pluginIds ∨ ∃ r' ∈ [r], r'.id = id := by
    intro id
    rw [h.ids]
    split
    · next hold =>
        simp only [List.mem_singleton, exists_eq_left]
        exact ⟨.inl, fun hid => hid.elim (fun hid => hid) fun heq => heq ▸ hold⟩
    · simp [eq_comm]
  have hnodup : p.pluginIds.Nodup → q.pluginIds.Nodup := by
    intro hp
    rw [h.ids]
    split
    · exact hp
    · next hnew => simpa using hp.concat hnew
  rcases h.recorded with ⟨rfl, happlied, hhistory, -, hold⟩ |
    ⟨a, rfl, hnew, rfl, happlied, hhistory, -⟩
  · refine ⟨[], ⟨hevaluated, h.shelf, ?_, ?_, hids, ?_, hnodup, ?_⟩, rfl, by simp⟩
    · rw [happlied, List.append_nil]
    · rw [hhistory, List.map_nil, List.append_nil]
    · intro id
      rw [hasApplied, happlied, ← hasApplied]
      refine ⟨.inl, fun hid => hid.elim (fun hid => hid) ?_⟩
      rintro ⟨a, ha, rfl⟩
      exact hold a (List.mem_singleton.1 ha).symm
    · rw [happlied]
      exact fun hp => hp
  · refine ⟨[a], ⟨hevaluated, h.shelf, happlied, hhistory, hids, ?_, hnodup, ?_⟩, ?_, ?_⟩
    · intro id
      rw [hasApplied, happlied, List.any_append, ← hasApplied]
      simp
    · intro hp
      have hfresh : a.id ∉ p.applied.map (·.id) := by
        rw [List.mem_map, ← hasApplied_iff, hnew]
        exact Bool.false_ne_true
      simpa [happlied] using hp.concat hfresh
    · rw [List.flatMap_singleton]
    · intro b hb
      rw [List.mem_singleton.1 hb]

theorem Nested.mono {a : Plugin} {s : Project} (h : Nested p a q)
    (hlonger : q.applied <+: s.applied) : Nested p a s := by
  obtain ⟨before, first, last, hcalls, hfirst, hgrows, hlast⟩ := h
  exact ⟨before, first, last, hcalls, hfirst, hgrows, hlast.trans hlonger⟩

/-- What calls have done is told by the plugins that became recorded: these brought the
requests that were made besides those that were asked for, and each made its calls right
when it had been recorded. -/
theorem Calls.gains (h : Calls rs p q) :
    ∃ recorded, p.Gains (rs ++ recorded.flatMap p.brings) recorded q ∧
      ∀ a ∈ recorded, Nested p a q := by
  induction h with
  | nil p => exact ⟨[], .refl p, by simp⟩
  | @cons r rest brought p made q s answered inner outer hinner houter =>
      obtain ⟨new, hnew, rfl, hsingle⟩ := (Configuring.answer_answered answered).gains
      obtain ⟨within, hwithin, hnested⟩ := hinner
      obtain ⟨behind, hbehind, hnested'⟩ := houter
      have hmade : made.brings = p.brings := brings_of_shelf hnew.shelf
      have hq : q.brings = p.brings := brings_of_shelf (hwithin.shelf.trans hnew.shelf)
      rw [hmade] at hwithin
      rw [hq] at hbehind
      have hgrows : made.applied <+: q.applied := ⟨within, hwithin.applied.symm⟩
      have hgrows' : q.applied <+: s.applied := ⟨behind, hbehind.applied.symm⟩
      refine ⟨new ++ (within ++ behind), (hnew.trans (hwithin.trans hbehind)).of_mem ?_, ?_⟩
      · intro r'
        simp only [List.flatMap_append, List.mem_append, List.mem_cons, List.not_mem_nil,
          or_false]
        tauto
      · intro a ha
        rcases List.mem_append.1 ha with ha | ha
        · have hone : new = [a] := hsingle a ha
          rw [hone, List.flatMap_singleton] at inner
          exact ⟨p.applied, made, q, inner, hone ▸ hnew.applied, hgrows, hgrows'⟩
        · rcases List.mem_append.1 ha with ha | ha
          · have := (hnested a ha).mono hgrows'
            rw [Nested, hmade] at this
            exact this
          · have := hnested' a ha
            rw [Nested, hq] at this
            exact this

end Project

end AnalysisPlan
