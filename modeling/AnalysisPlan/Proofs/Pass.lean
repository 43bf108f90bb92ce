import AnalysisPlan.Proofs.Enlistment
import AnalysisPlan.Proofs.Following

/-!
# A pass follows its course

A pass keeps three books: the task names that are claimed, the umbrellas that are
there, and the tasks that were enlisted. Each of them is what the enlistments so
far make of it (`Pass.Tracks`), so a pass decides at every step what the course of
enlistments decides, and leaves the graph that the course leads to.
-/

namespace AnalysisPlan

/-- What a step says about enlisting: nothing, a variant, or that enumeration
failed. -/
def PassStep.asEntry : PassStep → Option (Except Fault Enlistment)
  | openSource => none
  | note _ => none
  | enlist umbrella variant boot => some (.ok ⟨umbrella, variant, boot⟩)
  | stop f => some (.error f)

namespace Pass

variable {α : Type} {r : Registrar} {before : List Enlistment}

def graph (p : Pass) : TaskGraph := p.registry.graph

/-- Every task name is claimed by the first variant that leads to it. -/
def Claims (before : List Enlistment) (p : Pass) : Prop :=
  ∀ key, p.claimed.lookup key = (before.find? (·.key == key)).map (·.variant.name)

/-- The umbrellas are those of the enlistments, and they are in the graph. -/
structure Shelters (before : List Enlistment) (p : Pass) : Prop where
  umbrellas : ∀ u, u ∈ p.umbrellas ↔ u ∈ before.map (·.umbrella)
  there : ∀ u ∈ p.umbrellas, u.name ∈ p.graph.names

/-- The books of a pass are those of its enlistments. -/
structure Tracks (r : Registrar) (before : List Enlistment) (p : Pass) : Prop where
  claims : Claims before p
  shelters : Shelters before p
  enlisted : p.enlisted = before.map fun e => (e.umbrella, e.task r)

theorem registering_follows {x : Registration α} {p : Pass} {moves : List Move}
    {done : α → Registry → Prop}
    (h : Follows Registry.graph p.graph moves done (x p.registry)) :
    Follows graph p.graph moves
      (fun a q => done a q.registry ∧ q = { p with registry := q.registry })
      (registering x p) := by
  unfold registering
  cases hx : x p.registry with
  | ok a s =>
      rw [hx] at h
      exact ⟨h.1, h.2, rfl⟩
  | error f s =>
      rw [hx] at h
      exact h

theorem Claims.add {e : Enlistment} {p : Pass} (h : Claims before p)
    (hnone : before.find? (·.key == e.key) = none) :
    Claims (before ++ [e]) { p with claimed := (e.key, e.variant.name) :: p.claimed } := by
  intro key
  rw [List.find?_append, List.lookup_cons]
  by_cases hk : key = e.key
  · subst hk
    simp [hnone]
  · have hne : (e.key == key) = false := by simpa using Ne.symm hk
    have hne' : (key == e.key) = false := by simpa using hk
    simp [hne, hne', h key]

theorem Claims.again {e earlier : Enlistment} {p : Pass} (h : Claims before p)
    (hsome : before.find? (·.key == e.key) = some earlier) : Claims (before ++ [e]) p := by
  intro key
  rw [List.find?_append, h key]
  by_cases hk : e.key = key
  · rw [← hk, hsome]
    rfl
  · have hne : (e.key == key) = false := by simpa using hk
    simp [hne]

theorem claim_follows {e : Enlistment} {p : Pass} (h : Claims before p) :
    Follows graph p.graph ((e.refusal? before).toList.map .refuse)
      (fun _ q => e.variant.name ≠ "" ∧ Claims (before ++ [e]) q ∧
        q = { p with registry := q.registry, claimed := q.claimed })
      (claim e.variant.name p) := by
  have hname := registering_follows (Registration.unnamed_follows e.variant.name p.registry)
  unfold claim Enlistment.refusal?
  by_cases hempty : e.variant.name = ""
  · rw [Registration.unnamed, if_pos hempty] at hname
    rw [if_pos hempty]
    exact hname.refuse_bind
  · rw [Registration.unnamed, if_neg hempty] at hname
    rw [if_neg hempty]
    refine hname.quiet_bind fun name q hq hn => Follows.get_bind ?_
    obtain ⟨⟨-, rfl⟩, hqp⟩ := hn
    have hclaims : Claims before q := by
      rw [hqp]
      exact h
    have hlookup : q.claimed.lookup (Text.foldCase (Task.nameFor e.variant.name)) =
        (before.find? (·.key == e.key)).map (·.variant.name) := hclaims e.key
    rw [← hq]
    cases hfind : before.find? (·.key == e.key) with
    | none =>
        rw [hlookup, hfind]
        refine (Follows.modify rfl).mono fun _ t ht => ⟨hempty, ?_, ?_⟩
        · rw [ht]
          exact hclaims.add hfind
        · rw [ht, hqp]
    | some earlier =>
        rw [hlookup, hfind]
        by_cases hsame : earlier.variant.name = e.variant.name
        · simp only [Option.map_some, if_pos hsame]
          refine (Follows.pure () q).mono fun _ t ht => ⟨hempty, ?_, ?_⟩
          · rw [ht.2]
            exact hclaims.again hfind
          · rw [ht.2, hqp]
        · simp only [Option.map_some, if_neg hsame]
          exact Follows.throw _ q

theorem Shelters.add {e : Enlistment} {p q : Pass} (h : Shelters before p)
    (hu : ∀ u, u ∈ q.umbrellas ↔ u = e.umbrella ∨ u ∈ p.umbrellas)
    (hn : ∀ name ∈ p.graph.names, name ∈ q.graph.names)
    (he : e.umbrella.name ∈ q.graph.names) : Shelters (before ++ [e]) q := by
  constructor
  · intro u
    rw [hu u, h.umbrellas u, or_comm]
    simp
  · intro u hmem
    rcases (hu u).1 hmem with rfl | hmem
    · exact he
    · exact hn _ (h.there u hmem)

/-- An umbrella that is not there yet is founded on the task that needs it. -/
theorem found_follows {e : Enlistment} {p : Pass} (h : Shelters before p)
    (htask : e.taskName ∈ p.graph.names) :
    Follows graph p.graph [.add (e.foundation e.umbrella)]
      (fun _ q => Shelters (before ++ [e]) q ∧
        q = { p with registry := q.registry, umbrellas := q.umbrellas })
      ((do
        registering (Registration.add e.umbrella.task)
        modify fun p => { p with umbrellas := e.umbrella :: p.umbrellas }
        registering (Registration.report [.umbrellaCreated e.umbrella.name])
        registering (Registration.connect e.umbrella.name e.taskName) : Passing Unit) p) := by
  refine Follows.congr ?_ (p.graph.follow_add_connect e.umbrella.task e.taskName)
  have hadd := registering_follows (Registration.add_follows e.umbrella.task p.registry)
  refine (hadd.bind fun _ q₁ hf₁ hq₁ => ?_ :
    Follows graph p.graph ([.add ⟨e.umbrella.task, ∅⟩] ++ _) _ _)
  have hnames₁ : q₁.graph.names = p.graph.names ++ [e.umbrella.name] := by
    simpa using TaskGraph.names_of_completed hf₁
  refine (Follows.modify rfl).quiet_bind fun _ q₂ hg₂ hq₂ => ?_
  rw [← hg₂]
  refine (registering_follows (Registration.report_follows _ q₂.registry)).quiet_bind
    fun _ q₃ hg₃ hq₃ => ?_
  rw [← hg₃]
  have hnames₃ : q₃.graph.names = p.graph.names ++ [e.umbrella.name] := by
    rw [hg₃, hg₂, hnames₁]
  have hthere : e.umbrella.name ∈ q₃.graph.names := by simp [hnames₃]
  have htask₃ : e.taskName ∈ q₃.graph.names := by simp [hnames₃, htask]
  refine (registering_follows (Registration.connect_follows hthere htask₃)).and_follows.mono
    fun _ q hq => ?_
  obtain ⟨hf, -, hqp⟩ := hq
  have hnames : q.graph.names = q₃.graph.names := by
    simpa using TaskGraph.names_of_completed hf
  refine ⟨h.add (fun u => ?_) (fun name hname => ?_) (hnames ▸ hthere), ?_⟩
  · rw [hqp, hq₃.2, hq₂, hq₁.2]
    exact List.mem_cons
  · rw [hnames, hnames₃]
    exact List.mem_append_left _ hname
  · rw [hqp, hq₃.2, hq₂, hq₁.2]

theorem gather_follows {e : Enlistment} {p : Pass} (h : Shelters before p)
    (htask : e.taskName ∈ p.graph.names) :
    Follows graph p.graph [e.gathering before]
      (fun _ q => Shelters (before ++ [e]) q ∧
        q = { p with registry := q.registry, umbrellas := q.umbrellas })
      (gather e.umbrella e.taskName p) := by
  unfold gather Enlistment.gathering
  refine Follows.get_bind ?_
  by_cases hu : e.umbrella ∈ p.umbrellas
  · rw [if_pos ((h.umbrellas _).1 hu)]
    simp only [hu, not_true, if_false]
    have hthere := h.there _ hu
    refine (registering_follows (Registration.connect_follows hthere htask)).and_follows.mono
      fun _ q hq => ?_
    obtain ⟨hf, -, hqp⟩ := hq
    have hnames : q.graph.names = p.graph.names := by
      simpa using TaskGraph.names_of_completed hf
    refine ⟨h.add (fun u => ?_) (fun name hname => hnames ▸ hname) (hnames ▸ hthere),
      by rw [hqp]⟩
    rw [hqp]
    exact ⟨.inr, fun hu' => hu'.elim (fun he => he ▸ hu) id⟩
  · rw [if_neg fun hb => hu ((h.umbrellas _).2 hb)]
    simp only [hu, not_false_eq_true, if_true]
    exact found_follows h htask

theorem enlist_follows {e : Enlistment} {p : Pass} (h : Tracks r before p) :
    Follows graph p.graph (e.moves r before) (fun _ q => Tracks r (before ++ [e]) q)
      (enlist r e.umbrella e.variant e.boot p) := by
  unfold enlist Enlistment.moves
  refine (claim_follows h.claims).bind fun _ q₁ hf₁ hq₁ => ?_
  obtain ⟨hname, hclaims, hqp₁⟩ := hq₁
  have hnames₁ : q₁.graph.names = p.graph.names := by
    rw [TaskGraph.names_of_completed hf₁]
    cases e.refusal? before <;> simp
  have hregister := registering_follows
    (r.register_follows (unitOf e.variant e.boot) q₁.registry)
  rw [Registrar.moves, Registration.unnamed,
    if_neg (show (unitOf e.variant e.boot).name ≠ "" from hname)] at hregister
  refine (hregister.bind fun task q₂ hf₂ hq₂ => ?_ :
    Follows graph q₁.graph ([.add ⟨e.task r, ∅⟩] ++ [_]) _ _)
  obtain ⟨rfl, hqp₂⟩ := hq₂
  have hnames₂ : q₂.graph.names = p.graph.names ++ [e.taskName] := by
    rw [TaskGraph.names_of_completed hf₂, hnames₁]
    rfl
  have hshelters : Shelters before q₂ := by
    constructor
    · intro u
      rw [hqp₂, hqp₁]
      exact h.shelters.umbrellas u
    · intro u hu
      rw [hqp₂, hqp₁] at hu
      rw [hnames₂]
      exact List.mem_append_left _ (h.shelters.there u hu)
  have hgather := gather_follows (e := e) hshelters (by simp [hnames₂])
  refine hgather.bind_quiet fun _ q₃ _ hq₃ => ?_
  obtain ⟨hshelters₃, hqp₃⟩ := hq₃
  refine (Follows.modify rfl).mono fun _ q hq => ?_
  rw [hq]
  refine ⟨?_, ⟨hshelters₃.umbrellas, hshelters₃.there⟩, ?_⟩
  · intro key
    rw [hqp₃, hqp₂]
    exact hclaims key
  · rw [hqp₃, hqp₂, hqp₁, List.map_append, h.enlisted]
    rfl

/-- A pass makes the moves of its entries, and its books end up with what was
enlisted. -/
theorem run_follows (steps : List PassStep) {p : Pass} (h : Tracks r before p) :
    Follows graph p.graph (Enlistment.course r before (steps.filterMap PassStep.asEntry))
      (fun _ q => Tracks r
        (before ++ Enlistment.ofEntries (steps.filterMap PassStep.asEntry)) q)
      (run r steps p) := by
  induction steps generalizing before p with
  | nil => 
      refine (Follows.pure () p).mono fun _ q hq => ?_
      simpa [hq.2] using h
  | cons s steps ih =>
      rw [run_cons]
      cases s with
      | openSource =>
          refine (Follows.modify rfl).quiet_bind fun _ q hg hq => ?_
          rw [← hg]
          refine ih ?_
          rw [hq]
          exact ⟨h.claims, ⟨h.shelters.umbrellas, h.shelters.there⟩, h.enlisted⟩
      | note event =>
          refine (registering_follows
            (Registration.report_follows [event] p.registry)).quiet_bind fun _ q hg hq => ?_
          rw [← hg]
          refine ih ⟨?_, ⟨?_, ?_⟩, ?_⟩
          · rw [hq.2]
            exact h.claims
          · rw [hq.2]
            exact h.shelters.umbrellas
          · rw [hg, hq.2]
            exact h.shelters.there
          · rw [hq.2]
            exact h.enlisted
      | enlist u v boot =>
          have henlist := enlist_follows (e := ⟨u, v, boot⟩) h
          refine henlist.bind fun _ q _ hq => ?_
          have hrest := ih hq
          rwa [List.append_assoc] at hrest
      | stop f =>
          have hstop : Follows graph p.graph [.refuse f] (fun _ _ => True)
              (step r (.stop f) p) := Follows.throw f p
          exact hstop.refuse_bind

end Pass
end AnalysisPlan
