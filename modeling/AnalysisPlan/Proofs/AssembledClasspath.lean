import AnalysisPlan.Proofs.Applying
import AnalysisPlan.Proofs.Following
import Mathlib.Data.List.Nodup

/-!
# Class paths as they are registered

The task of a unit has a class path of three stretches: the leading entries, of the
ordinary ones those that are there (`Classpath.Takes`), and of the extra ones those that do
not stand before. Ordinary entries are taken at their first occurrence: a path that was
found is skipped from then on, and one that is not there is never taken, so the entries
taken behind a path are told apart from it (`Classpath.pairwise_hits`).

Registering adds this task and nothing else, or fails and adds nothing; either way only
ordinary entries were asked for (`Registrar.register_assembles`).
-/

namespace AnalysisPlan

namespace Classpath

variable {present : String → Bool} {leading ordinary extra kept found paths : List String}
  {path : String}

/-- What a class path takes of its ordinary entries: those that are there and do not lead,
each once, in the order in which they come first. -/
structure Takes (present : String → Bool) (leading ordinary kept : List String) : Prop where
  mem_iff : ∀ path, path ∈ kept ↔ path ∈ ordinary ∧ present path = true ∧ path ∉ leading
  ordered : kept.Pairwise fun a b => ordinary.idxOf a < ordinary.idxOf b

/-- The paths that were found when they were asked for. -/
def hits (probes : List Probe) : List String := (probes.filter (·.found)).map (·.path)

@[simp] theorem hits_found (path : String) (probes : List Probe) :
    hits (⟨path, true⟩ :: probes) = path :: hits probes := rfl

@[simp] theorem hits_missed (path : String) (probes : List Probe) :
    hits (⟨path, false⟩ :: probes) = hits probes := rfl

theorem mem_hits {ps : List Probe} : path ∈ hits ps ↔ ⟨path, true⟩ ∈ ps := by
  unfold hits
  simp only [List.mem_map, List.mem_filter]
  constructor
  · rintro ⟨⟨path, found⟩, ⟨hmem, rfl⟩, rfl⟩
    exact hmem
  · intro hmem
    exact ⟨_, ⟨hmem, rfl⟩, rfl⟩

theorem mem_hits_probes :
    path ∈ hits (probes present found paths) ↔
      path ∈ paths ∧ path ∉ found ∧ present path = true :=
  mem_hits.trans mem_existing_probes

/-- Paths keep the order of their first occurrences when another one is put in front. -/
theorem pairwise_idxOf_cons {others : List String} (h : path ∉ others)
    (hothers : others.Pairwise fun a b => paths.idxOf a < paths.idxOf b) :
    others.Pairwise fun a b => (path :: paths).idxOf a < (path :: paths).idxOf b := by
  have hne : ∀ a ∈ others, path ≠ a := by
    rintro a ha rfl
    exact h ha
  refine hothers.imp_of_mem fun {a b} ha hb hlt => ?_
  rw [List.idxOf_cons_ne _ (hne a ha), List.idxOf_cons_ne _ (hne b hb)]
  exact Nat.succ_lt_succ hlt

/-- Paths are found in the order of their first occurrences. -/
theorem pairwise_hits (present : String → Bool) (found paths : List String) :
    (hits (probes present found paths)).Pairwise
      fun a b => paths.idxOf a < paths.idxOf b := by
  -- in each case the path in front is not found again behind: it was known, it becomes known,
  -- or it is not there
  induction paths generalizing found with
  | nil => exact .nil
  | cons path paths ih =>
      unfold probes
      split
      · next hfound =>
          exact pairwise_idxOf_cons (fun hmem => (mem_hits_probes.1 hmem).2.1 hfound) (ih found)
      · split
        · have hnew : path ∉ hits (probes present (path :: found) paths) := fun hmem =>
            (mem_hits_probes.1 hmem).2.1 List.mem_cons_self
          rw [hits_found, List.pairwise_cons]
          refine ⟨fun other hother => ?_, pairwise_idxOf_cons hnew (ih _)⟩
          have hne : path ≠ other := fun heq => hnew (heq ▸ hother)
          rw [List.idxOf_cons_self, List.idxOf_cons_ne _ hne]
          exact Nat.succ_pos _
        · next hmissing =>
          rw [hits_missed]
          exact pairwise_idxOf_cons (fun hmem => hmissing (mem_hits_probes.1 hmem).2.2) (ih found)

theorem path_mem_of_mem_probes {probe : Probe} (h : probe ∈ probes present found paths) :
    probe.path ∈ paths := by
  induction paths generalizing found with
  | nil => cases h
  | cons other paths ih =>
      unfold probes at h
      split at h
      · exact List.mem_cons_of_mem _ (ih h)
      · split at h <;> rcases List.mem_cons.1 h with rfl | h
        · exact List.mem_cons_self
        · exact List.mem_cons_of_mem _ (ih h)
        · exact List.mem_cons_self
        · exact List.mem_cons_of_mem _ (ih h)

/-- Only what is listed is asked for. -/
theorem mem_of_mem_asked (h : path ∈ asked present paths) : path ∈ paths := by
  obtain ⟨probe, hprobe, rfl⟩ := List.mem_map.1 h
  exact path_mem_of_mem_probes hprobe

theorem takes_existing (present : String → Bool) (leading ordinary : List String) :
    Takes present leading ordinary ((existing present ordinary).filter (· ∉ leading)) := by
  constructor
  · intro path
    rw [List.mem_filter, mem_existing, decide_eq_true_iff, and_assoc]
  · exact (pairwise_hits present [] ordinary).filter _

theorem Takes.nodup (h : Takes present leading ordinary kept) : kept.Nodup := by
  refine h.ordered.imp fun hlt => ?_
  rintro rfl
  exact Nat.lt_irrefl _ hlt

/-- The extra entries that do not stand before. -/
def rest (leading kept extra : List String) : List String :=
  extra.filter fun path => path ∉ leading ∧ path ∉ kept

theorem assemble_eq (present : String → Bool) (leading ordinary extra : List String) :
    ∃ kept, Takes present leading ordinary kept ∧
      assemble present leading ordinary extra = leading ++ kept ++ rest leading kept extra := by
  refine ⟨_, takes_existing present leading ordinary, ?_⟩
  simp only [assemble, rest, List.mem_append, not_or]

theorem count_rest (h : path ∉ leading ∧ path ∉ kept) :
    (rest leading kept extra).count path = extra.count path :=
  List.count_filter (by simpa using h)

/-- A leading path occurs as often as it leads, an ordinary one that is there once, and any
other as often as it is extra. -/
theorem Takes.count_append (h : Takes present leading ordinary kept) (path : String) :
    (leading ++ kept ++ rest leading kept extra).count path =
      if path ∈ leading then leading.count path
      else if path ∈ ordinary ∧ present path = true then 1
      else extra.count path := by
  rw [List.count_append, List.count_append]
  by_cases hleads : path ∈ leading
  · have hkept : path ∉ kept := fun hmem => ((h.mem_iff path).1 hmem).2.2 hleads
    have hrest : path ∉ rest leading kept extra := by simp [rest, hleads]
    rw [if_pos hleads, List.count_eq_zero_of_not_mem hkept, List.count_eq_zero_of_not_mem hrest]
    rfl
  · rw [if_neg hleads, List.count_eq_zero_of_not_mem hleads, Nat.zero_add]
    have hiff : path ∈ kept ↔ path ∈ ordinary ∧ present path = true := by
      rw [h.mem_iff, and_iff_left hleads]
    by_cases hkept : path ∈ kept
    · have hrest : path ∉ rest leading kept extra := by simp [rest, hkept]
      rw [if_pos (hiff.1 hkept), List.count_eq_one_of_mem h.nodup hkept,
        List.count_eq_zero_of_not_mem hrest]
    · rw [if_neg (hkept ∘ hiff.2), List.count_eq_zero_of_not_mem hkept, Nat.zero_add,
        count_rest ⟨hleads, hkept⟩]

end Classpath

namespace Registration

variable {task : Task} {registry : Registry}

theorem add_of_taken (h : task.name ∈ registry.graph.names) :
    add task registry = .error (.taskExists task.name) registry := by
  have hadd : registry.graph.register task = .error (.taskExists task.name) :=
    TaskGraph.register_eq_error_iff.2 ⟨h, rfl⟩
  simp only [add, change, hadd]

theorem add_of_free (h : task.name ∉ registry.graph.names) :
    add task registry = .ok () { registry with graph := registry.graph.append ⟨task, ∅⟩ } := by
  have hadd : registry.graph.register task = .ok (registry.graph.append ⟨task, ∅⟩) :=
    TaskGraph.register_eq_ok_iff.2 ⟨h, rfl⟩
  simp only [add, change, hadd]

end Registration

namespace Registrar

variable {r : Registrar} {u : AnalysisUnit} {registry : Registry}

/-- A registry in which the ordinary entries of a unit were asked for. -/
def inspected (r : Registrar) (u : AnalysisUnit) (registry : Registry) : Registry :=
  { registry with
    asked := registry.asked ++ Classpath.asked r.present u.classpath
    log := registry.log ++
      (Classpath.missing r.present u.classpath).map .missingEntryDropped }

theorem register_of_unnamed (h : u.name = "") :
    r.register u registry = .error .unnamedUnit registry := by
  have hrequire : Registration.require (Task.nameFor? u.name) registry =
      .error .unnamedUnit registry := by
    rw [h, Task.nameFor?_empty]
    rfl
  exact bind_of_error hrequire _

/-- With a name, a unit is inspected before its task is added. -/
theorem register_of_named (h : u.name ≠ "") :
    r.register u registry =
      (do
        Registration.add (r.taskFor u)
        Registration.report [.taskRegistered (Task.nameFor u.name) u.sources.length]
        return r.taskFor u : Registration Task) (r.inspected u registry) := by
  have hrequire : Registration.require (Task.nameFor? u.name) registry =
      .ok (Task.nameFor u.name) registry := by
    rw [Task.nameFor?_of_ne h]
    rfl
  have hinspect : Registration.inspect r.present u.classpath registry =
      .ok () (r.inspected u registry) := rfl
  exact (bind_of_ok hrequire _).trans (bind_of_ok hinspect _)

theorem register_of_taken (hname : u.name ≠ "")
    (h : Task.nameFor u.name ∈ registry.graph.names) :
    r.register u registry =
      .error (.taskExists (Task.nameFor u.name)) (r.inspected u registry) := by
  have hadd : Registration.add (r.taskFor u) (r.inspected u registry) =
      .error (.taskExists (Task.nameFor u.name)) (r.inspected u registry) :=
    Registration.add_of_taken h
  exact (register_of_named hname).trans (bind_of_error hadd _)

theorem register_of_free (hname : u.name ≠ "")
    (h : Task.nameFor u.name ∉ registry.graph.names) :
    ∃ log, r.register u registry =
      .ok (r.taskFor u) { r.inspected u registry with
        graph := registry.graph.append ⟨r.taskFor u, ∅⟩
        log } := by
  have hadd : Registration.add (r.taskFor u) (r.inspected u registry) =
      .ok () { r.inspected u registry with
        graph := registry.graph.append ⟨r.taskFor u, ∅⟩ } :=
    Registration.add_of_free h
  exact ⟨_, (register_of_named hname).trans (bind_of_ok hadd _)⟩

/-- Registering a unit fails exactly if the unit has no name or its task's name is taken,
and then the graph stays as it was. Otherwise the graph has the unit's task behind the
others and is the same apart from that. The task's class path begins with the leading
entries; the ordinary ones that are there and do not lead follow, each once in the order
in which they come first, and behind them the extra ones that do not stand before, as often
and in the order in which they are given. However it ends, no path was asked for that is
not an ordinary entry. -/
theorem register_assembles (r : Registrar) (u : AnalysisUnit) (registry : Registry) :
    ((∃ fault after, r.register u registry = .error fault after) ↔
      u.name = "" ∨ Task.nameFor u.name ∈ registry.graph.names) ∧
    (∀ fault after, r.register u registry = .error fault after →
      after.graph = registry.graph) ∧
    (∀ task after, r.register u registry = .ok task after →
      after.graph.nodes = registry.graph.nodes ++ [⟨task, ∅⟩] ∧
      task.name = Task.nameFor u.name ∧
      (∃ kept, Classpath.Takes r.present u.leading u.classpath kept ∧
        task.classpath = u.leading ++ kept ++
          u.extra.filter fun path => path ∉ u.leading ∧ path ∉ kept) ∧
      ∀ path, task.classpath.count path =
        if path ∈ u.leading then u.leading.count path
        else if path ∈ u.classpath ∧ r.present path = true then 1
        else u.extra.count path) ∧
    ∃ asked, (ended (r.register u registry)).2.asked = registry.asked ++ asked ∧
      ∀ path ∈ asked, path ∈ u.classpath := by
  obtain ⟨kept, hkept, hclasspath⟩ :=
    Classpath.assemble_eq r.present u.leading u.classpath u.extra
  have hasked : ∀ path ∈ Classpath.asked r.present u.classpath, path ∈ u.classpath :=
    fun _ => Classpath.mem_of_mem_asked
  by_cases hname : u.name = ""
  · rw [register_of_unnamed hname]
    refine ⟨by simp [hname], ?_, by simp, [], by simp [ended], by simp⟩
    rintro _ _ ⟨⟩
    rfl
  by_cases htaken : Task.nameFor u.name ∈ registry.graph.names
  · rw [register_of_taken hname htaken]
    refine ⟨by simp [htaken], ?_, by simp, _, rfl, hasked⟩
    rintro _ _ ⟨⟩
    rfl
  · obtain ⟨log, hregister⟩ := register_of_free (r := r) hname htaken
    rw [hregister]
    refine ⟨by simp [hname, htaken], by simp, ?_, _, rfl, hasked⟩
    rintro _ _ ⟨⟩
    refine ⟨rfl, rfl, ⟨kept, hkept, hclasspath⟩, fun path => ?_⟩
    rw [show (r.taskFor u).classpath = _ from hclasspath]
    exact hkept.count_append path

end Registrar

end AnalysisPlan
