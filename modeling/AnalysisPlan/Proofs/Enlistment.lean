import AnalysisPlan.Proofs.Course
import AnalysisPlan.Resolver
import Mathlib.Data.List.Nodup
import Mathlib.Data.List.Pairwise

/-!
# Enlistments

A variant that survives the ignore rules is enlisted under an umbrella. What a
pass does is told by its enlistments and by where an enumeration fails
(`VariantSource.entries`); the course that they make carries the enlistments
before along, since these decide which task names are claimed and which umbrellas
are there (`Enlistment.course`).

A course of enlistments is completed exactly if no enumeration fails, every
variant has a name, the task names differ also when case is ignored, and the
names on the roll, which are those of the tasks and of their umbrellas, are
different and new (`Enlistment.course_completes_iff`).
-/

namespace AnalysisPlan

@[simp] theorem Umbrella.task_name (u : Umbrella) : u.task.name = u.name := rfl

@[simp] theorem Umbrella.task_kind (u : Umbrella) : u.task.kind = .lifecycle := rfl

/-- A variant that is put under an umbrella, with what stands behind its class
path. -/
structure Enlistment where
  umbrella : Umbrella
  variant : Variant
  boot : List String
deriving Repr, DecidableEq

namespace Enlistment

def taskName (e : Enlistment) : String := Task.nameFor e.variant.name

/-- The name of the task with case ignored. -/
def key (e : Enlistment) : String := Text.foldCase e.taskName

def task (r : Registrar) (e : Enlistment) : Task := r.taskFor (Pass.unitOf e.variant e.boot)

/-- Variants whose task names differ only by case have the same name. -/
def Agree (a b : Enlistment) : Prop := a.key = b.key → a.variant.name = b.variant.name

/-- Why a variant is refused behind those that were enlisted before. -/
def refusal? (before : List Enlistment) (e : Enlistment) : Option Fault :=
  if e.variant.name = "" then some .unnamedUnit
  else
    match before.find? (·.key == e.key) with
    | none => none
    | some earlier =>
      if earlier.variant.name = e.variant.name then none
      else some (.namesDifferOnlyByCase earlier.variant.name e.variant.name)

/-- The umbrella that an enlistment needs and that is not there yet. -/
def founds (before : List Enlistment) (e : Enlistment) : List Umbrella :=
  if e.umbrella ∈ before.map (·.umbrella) then [] else [e.umbrella]

/-- The node of an umbrella when its first task comes. -/
def foundation (e : Enlistment) (u : Umbrella) : TaskNode :=
  ⟨u.task, (∅ : NameSet).insert e.taskName⟩

/-- Puts a task under its umbrella, which is added if it is not there yet. -/
def gathering (before : List Enlistment) (e : Enlistment) : Move :=
  if e.umbrella ∈ before.map (·.umbrella) then .connect e.umbrella.name e.taskName
  else .add (e.foundation e.umbrella)

def moves (r : Registrar) (before : List Enlistment) (e : Enlistment) : List Move :=
  (e.refusal? before).toList.map .refuse ++ [.add ⟨e.task r, ∅⟩, e.gathering before]

/-- What enlistments do to the graph. A fault in their place breaks the course
off. -/
def course (r : Registrar) :
    List Enlistment → List (Except Fault Enlistment) → List Move
  | _, [] => []
  | before, .ok e :: entries => e.moves r before ++ course r (before ++ [e]) entries
  | before, .error f :: entries => .refuse f :: course r before entries

def ofEntries (entries : List (Except Fault Enlistment)) : List Enlistment :=
  entries.filterMap Except.toOption

/-- The names that enlistments give to tasks: each its own, and behind it that of
the umbrella it is the first one under. -/
def roll : List Enlistment → List Enlistment → List String
  | _, [] => []
  | before, e :: es =>
    e.taskName :: ((e.founds before).map Umbrella.name ++ roll (before ++ [e]) es)

def tasks (r : Registrar) : List Enlistment → List Enlistment → List Task
  | _, [] => []
  | before, e :: es =>
    e.task r :: ((e.founds before).map Umbrella.task ++ tasks r (before ++ [e]) es)

def founded : List Enlistment → List Enlistment → List Umbrella
  | _, [] => []
  | before, e :: es => e.founds before ++ founded (before ++ [e]) es

/-- The names of the tasks that are put under the umbrella of a name. -/
def gathered (es : List Enlistment) (umbrella : String) : NameSet :=
  .ofList ((es.filter (·.umbrella.name == umbrella)).map taskName)

@[simp] theorem task_name (r : Registrar) (e : Enlistment) :
    (e.task r).name = e.taskName := rfl

@[simp] theorem task_kind (r : Registrar) (e : Enlistment) :
    (e.task r).kind = .analysis := rfl

@[simp] theorem ofEntries_nil : ofEntries [] = [] := rfl

@[simp] theorem ofEntries_ok (e : Enlistment) (entries : List (Except Fault Enlistment)) :
    ofEntries (.ok e :: entries) = e :: ofEntries entries := rfl

@[simp] theorem ofEntries_error (f : Fault) (entries : List (Except Fault Enlistment)) :
    ofEntries (.error f :: entries) = ofEntries entries := rfl

@[simp] theorem ofEntries_append (xs ys : List (Except Fault Enlistment)) :
    ofEntries (xs ++ ys) = ofEntries xs ++ ofEntries ys := by
  simp [ofEntries]

@[simp] theorem ofEntries_map_ok (es : List Enlistment) : ofEntries (es.map .ok) = es := by
  induction es with
  | nil => rfl
  | cons e es ih => rw [List.map_cons, ofEntries_ok, ih]

@[simp] theorem mem_gathered {k umbrella : String} {es : List Enlistment} :
    k ∈ gathered es umbrella ↔
      ∃ e ∈ es, e.umbrella.name = umbrella ∧ e.taskName = k := by
  simp [gathered, and_assoc]

theorem gathered_eq_empty {es : List Enlistment} {name : String}
    (h : ∀ e ∈ es, e.umbrella.name ≠ name) : gathered es name = ∅ := by
  apply NameSet.ext_mem
  intro k
  simp only [mem_gathered, NameSet.not_mem_empty, iff_false, not_exists, not_and]
  exact fun e he hname => absurd hname (h e he)

/-! ## What a course adds -/

theorem nodes_moves (r : Registrar) (before : List Enlistment) (e : Enlistment) :
    Move.nodes (e.moves r before) =
      ⟨e.task r, ∅⟩ :: (e.founds before).map e.foundation := by
  have hrefuse : ∀ o : Option Fault, Move.nodes (o.toList.map .refuse) = [] := by
    intro o
    cases o <;> rfl
  rw [moves, Move.nodes_append, hrefuse, gathering, founds]
  split <;> rfl

theorem tasks_course (r : Registrar) (before : List Enlistment)
    (entries : List (Except Fault Enlistment)) :
    (Move.nodes (course r before entries)).map (·.task) =
      tasks r before (ofEntries entries) := by
  induction entries generalizing before with
  | nil => rfl
  | cons entry entries ih =>
      cases entry with
      | error f => exact ih before
      | ok e =>
          rw [course, Move.nodes_append, List.map_append, ih, nodes_moves, ofEntries_ok,
            tasks, List.map_cons, List.map_map, List.cons_append]
          rfl

theorem names_tasks (r : Registrar) (before es : List Enlistment) :
    (tasks r before es).map (·.name) = roll before es := by
  induction es generalizing before with
  | nil => rfl
  | cons e es ih =>
      rw [tasks, roll, List.map_cons, List.map_append, List.map_map, ih]
      rfl

theorem names_course (r : Registrar) (before : List Enlistment)
    (entries : List (Except Fault Enlistment)) :
    Move.names (course r before entries) = roll before (ofEntries entries) := by
  rw [← names_tasks r, ← tasks_course, Move.names, List.map_map]
  rfl

theorem mem_founds {before : List Enlistment} {e : Enlistment} {u : Umbrella} :
    u ∈ e.founds before ↔ u = e.umbrella ∧ u ∉ before.map (·.umbrella) := by
  unfold founds
  split
  · next h =>
      constructor
      · intro hu
        cases hu
      · rintro ⟨rfl, hu⟩
        exact absurd h hu
  · next h =>
      rw [List.mem_singleton]
      exact ⟨fun hu => ⟨hu, hu ▸ h⟩, fun hu => hu.1⟩

theorem mem_founded {before es : List Enlistment} {u : Umbrella} :
    u ∈ founded before es ↔ u ∈ es.map (·.umbrella) ∧ u ∉ before.map (·.umbrella) := by
  induction es generalizing before with
  | nil => simp [founded]
  | cons e es ih =>
      rw [founded, List.mem_append, mem_founds, ih]
      simp only [List.map_cons, List.mem_cons, List.map_append, List.map_nil,
        List.mem_append, List.mem_nil_iff, or_false, not_or]
      constructor
      · rintro (⟨h, hb⟩ | ⟨h, hb, -⟩)
        · exact ⟨.inl h, hb⟩
        · exact ⟨.inr h, hb⟩
      · rintro ⟨h | h, hb⟩
        · exact .inl ⟨h, hb⟩
        · by_cases hu : u = e.umbrella
          · exact .inl ⟨hu, hb⟩
          · exact .inr ⟨h, hb, hu⟩

theorem nodup_founded (before es : List Enlistment) : (founded before es).Nodup := by
  induction es generalizing before with
  | nil => exact List.nodup_nil
  | cons e es ih =>
      rw [founded, List.nodup_append]
      refine ⟨?_, ih _, ?_⟩
      · unfold founds
        split <;> simp
      · rintro u hu _ hu' rfl
        have hnew := (mem_founded.1 hu').2
        exact hnew (by simp [(mem_founds.1 hu).1])

theorem tasks_perm (r : Registrar) (before es : List Enlistment) :
    (tasks r before es).Perm
      (es.map (task r) ++ (founded before es).map Umbrella.task) := by
  induction es generalizing before with
  | nil => exact .refl _
  | cons e es ih =>
      rw [tasks, founded, List.map_cons, List.cons_append, List.map_append]
      refine .cons _ (((ih (before ++ [e])).append_left _).trans ?_)
      rw [← List.append_assoc, ← List.append_assoc]
      exact List.perm_append_comm.append_right _

theorem task_mem_tasks (r : Registrar) {es : List Enlistment} {e : Enlistment}
    (h : e ∈ es) : e.task r ∈ tasks r [] es :=
  (tasks_perm r [] es).mem_iff.2 (List.mem_append_left _ (List.mem_map_of_mem h))

theorem umbrella_mem_tasks (r : Registrar) {es : List Enlistment} {u : Umbrella}
    (h : ∃ e ∈ es, e.umbrella = u) : u.task ∈ tasks r [] es := by
  have hu : u ∈ founded [] es := by simpa [mem_founded] using h
  exact (tasks_perm r [] es).mem_iff.2 (List.mem_append_right _ (List.mem_map_of_mem hu))

theorem roll_perm (before es : List Enlistment) :
    (roll before es).Perm (es.map taskName ++ (founded before es).map Umbrella.name) := by
  induction es generalizing before with
  | nil => exact .refl _
  | cons e es ih =>
      rw [roll, founded, List.map_cons, List.cons_append, List.map_append]
      refine .cons _ (((ih (before ++ [e])).append_left _).trans ?_)
      rw [← List.append_assoc, ← List.append_assoc]
      exact List.perm_append_comm.append_right _

theorem mem_roll {es : List Enlistment} {name : String} :
    name ∈ roll [] es ↔ (∃ e ∈ es, e.taskName = name) ∨ ∃ e ∈ es, e.umbrella.name = name := by
  rw [(roll_perm [] es).mem_iff, List.mem_append, List.mem_map, List.mem_map]
  simp only [mem_founded, List.map_nil, List.not_mem_nil, not_false_eq_true, and_true,
    List.mem_map]
  constructor
  · rintro (h | ⟨u, ⟨e, he, rfl⟩, hu⟩)
    · exact .inl h
    · exact .inr ⟨e, he, hu⟩
  · rintro (h | ⟨e, he, hu⟩)
    · exact .inl h
    · exact .inr ⟨e.umbrella, ⟨e, he, rfl⟩, hu⟩

/-! ## The moves of a course -/

/-- A move of a course is a refusal or comes from one of the enlistments. -/
theorem mem_course {r : Registrar} {before : List Enlistment}
    {entries : List (Except Fault Enlistment)} {m : Move}
    (h : m ∈ course r before entries) :
    (∃ f, m = .refuse f) ∨ ∃ e ∈ ofEntries entries,
      m = .add ⟨e.task r, ∅⟩ ∨ m = .connect e.umbrella.name e.taskName ∨
        m = .add (e.foundation e.umbrella) := by
  induction entries generalizing before with
  | nil => cases h
  | cons entry entries ih =>
      cases entry with
      | error f =>
          rcases List.mem_cons.1 h with rfl | h
          · exact .inl ⟨f, rfl⟩
          · exact ih h
      | ok e =>
          rw [course, List.mem_append, moves, List.mem_append] at h
          rcases h with (h | h) | h
          · obtain ⟨f, -, rfl⟩ := List.mem_map.1 h
            exact .inl ⟨f, rfl⟩
          · refine .inr ⟨e, List.mem_cons_self, ?_⟩
            unfold gathering at h
            split at h <;> simp only [List.mem_cons, List.mem_nil_iff, or_false] at h <;>
              rcases h with h | h <;> simp [h]
          · rcases ih h with hf | ⟨e', he', hm⟩
            · exact .inl hf
            · exact .inr ⟨e', List.mem_cons_of_mem _ he', hm⟩

/-- Every task is connected to its umbrella, or the umbrella is founded on it. -/
theorem gathering_mem_course (r : Registrar) (before : List Enlistment)
    {entries : List (Except Fault Enlistment)} {e : Enlistment}
    (h : e ∈ ofEntries entries) :
    .connect e.umbrella.name e.taskName ∈ course r before entries ∨
      .add (e.foundation e.umbrella) ∈ course r before entries := by
  induction entries generalizing before with
  | nil => cases h
  | cons entry entries ih =>
      cases entry with
      | error f =>
          rcases ih before h with hc | hc
          · exact .inl (List.mem_cons_of_mem _ hc)
          · exact .inr (List.mem_cons_of_mem _ hc)
      | ok e' =>
          rw [course]
          rcases List.mem_cons.1 h with rfl | h
          · have hg : e.gathering before ∈ e.moves r before := by simp [moves]
            unfold gathering at hg
            split at hg
            · exact .inl (List.mem_append_left _ hg)
            · exact .inr (List.mem_append_left _ hg)
          · rcases ih (before ++ [e']) h with hc | hc
            · exact .inl (List.mem_append_right _ hc)
            · exact .inr (List.mem_append_right _ hc)

/-- A course connects only umbrellas that are there. -/
theorem grounded_course {r : Registrar} {before : List Enlistment}
    {entries : List (Except Fault Enlistment)} {known : List String}
    (hk : ∀ e ∈ before, e.umbrella.name ∈ known) :
    Move.Grounded known (course r before entries) := by
  induction entries generalizing before known with
  | nil => trivial
  | cons entry entries ih =>
      cases entry with
      | error f => exact Move.grounded_refuse.2 (ih hk)
      | ok e =>
          refine Move.Grounded.append ?_ (ih fun e' he' => ?_)
          · unfold moves gathering
            cases e.refusal? before <;> split
            · next hu =>
                obtain ⟨e', he', heq⟩ := List.mem_map.1 hu
                exact ⟨List.mem_cons_of_mem _ (heq ▸ hk e' he'), trivial⟩
            · trivial
            · next hu =>
                obtain ⟨e', he', heq⟩ := List.mem_map.1 hu
                exact ⟨List.mem_cons_of_mem _ (heq ▸ hk e' he'), trivial⟩
            · trivial
          · have hnames : Move.names (e.moves r before) =
                e.taskName :: (e.founds before).map Umbrella.name := by
              rw [Move.names, nodes_moves, List.map_cons, List.map_map]
              rfl
            rw [hnames]
            rcases List.mem_append.1 he' with he' | he'
            · exact List.mem_append_right _ (hk e' he')
            · obtain rfl := List.mem_singleton.1 he'
              by_cases hu : e'.umbrella ∈ before.map (·.umbrella)
              · obtain ⟨e₀, he₀, heq⟩ := List.mem_map.1 hu
                exact List.mem_append_right _ (heq ▸ hk e₀ he₀)
              · exact List.mem_append_left _ (by simp [founds, hu])

/-! ## When a course is completed -/

instance : Std.Symm Agree := ⟨fun _ _ h hk => (h hk.symm).symm⟩

theorem refusal?_eq_none_iff {before : List Enlistment} {e : Enlistment}
    (hb : before.Pairwise Agree) :
    e.refusal? before = none ↔ e.variant.name ≠ "" ∧ ∀ b ∈ before, b.Agree e := by
  unfold refusal?
  by_cases hname : e.variant.name = ""
  · simp [hname]
  · simp only [hname, if_false, ne_eq, not_false_eq_true, true_and]
    cases hf : before.find? (·.key == e.key) with
    | none =>
        simp only [true_iff]
        intro b hbm hk
        exact absurd (by simpa using hk) (List.find?_eq_none.1 hf b hbm)
    | some earlier =>
        have hmem : earlier ∈ before := List.mem_of_find?_eq_some hf
        have hkey : earlier.key = e.key := by simpa using List.find?_some hf
        by_cases hsame : earlier.variant.name = e.variant.name
        · simp only [hsame, if_true, true_iff]
          intro b hbm hk
          have hagree : earlier.Agree b :=
            List.Pairwise.forall_of_forall (fun _ _ _ => rfl) hb hmem hbm
          rw [← hagree (hkey.trans hk.symm), hsame]
        · simp only [hsame, if_false, reduceCtorEq, false_iff]
          exact fun h => hsame (h earlier hmem hkey)

theorem refuse_not_mem_course_iff {r : Registrar} {before : List Enlistment}
    {entries : List (Except Fault Enlistment)} (hb : before.Pairwise Agree) :
    (∀ f, .refuse f ∉ course r before entries) ↔
      (∀ f, .error f ∉ entries) ∧ (∀ e ∈ ofEntries entries, e.variant.name ≠ "") ∧
        (before ++ ofEntries entries).Pairwise Agree := by
  induction entries generalizing before with
  | nil => simpa [course] using hb
  | cons entry entries ih =>
      cases entry with
      | error f =>
          constructor
          · intro h
            exact absurd List.mem_cons_self (h f)
          · rintro ⟨h, -⟩
            exact absurd List.mem_cons_self (h f)
      | ok e =>
          have hmoves : (∀ f, .refuse f ∉ e.moves r before) ↔ e.refusal? before = none := by
            unfold moves gathering
            cases e.refusal? before <;> split <;> simp
          have hsplit : (∀ f, .refuse f ∉ course r before (.ok e :: entries)) ↔
              e.refusal? before = none ∧
                ∀ f, .refuse f ∉ course r (before ++ [e]) entries := by
            rw [← hmoves, ← forall_and]
            simp [course]
          rw [hsplit, refusal?_eq_none_iff hb]
          have happend : before ++ ofEntries (.ok e :: entries) =
              before ++ [e] ++ ofEntries entries := by simp
          rw [happend]
          constructor
          · rintro ⟨⟨hname, hagree⟩, h⟩
            have hb' : (before ++ [e]).Pairwise Agree :=
              List.pairwise_append.2 ⟨hb, List.pairwise_singleton _ e, by simpa using hagree⟩
            obtain ⟨herr, hnames, hall⟩ := (ih hb').1 h
            exact ⟨by simpa using herr, by simpa using ⟨hname, hnames⟩, hall⟩
          · rintro ⟨herr, hnames, hall⟩
            have hb' : (before ++ [e]).Pairwise Agree := (List.pairwise_append.1 hall).1
            refine ⟨⟨hnames e List.mem_cons_self, ?_⟩, (ih hb').2 ⟨?_, ?_, hall⟩⟩
            · simpa using (List.pairwise_append.1 hb').2.2
            · exact fun f hf => herr f (List.mem_cons_of_mem _ hf)
            · exact fun e' he' => hnames e' (List.mem_cons_of_mem _ he')

/-- Where task names are different, they differ also with case ignored exactly if
variants whose names differ only by case are the same. -/
theorem nodup_key_iff {es : List Enlistment} (h : (es.map taskName).Nodup) :
    (es.map key).Nodup ↔ es.Pairwise Agree := by
  unfold List.Nodup at h ⊢
  rw [List.pairwise_map] at h ⊢
  constructor
  · intro hk
    exact hk.imp fun hne heq => absurd heq hne
  · intro ha
    exact h.imp₂ (fun a b hne hagree hkey => hne (congrArg Task.nameFor (hagree hkey))) ha

/-- A course of enlistments is completed exactly if nothing is refused and the
names on the roll are different and new. -/
theorem course_completes_iff {g : TaskGraph} {r : Registrar}
    {entries : List (Except Fault Enlistment)} :
    (g.follow (course r [] entries)).2 = none ↔
      (∀ f, .error f ∉ entries) ∧ (∀ e ∈ ofEntries entries, e.variant.name ≠ "") ∧
        ((ofEntries entries).map key).Nodup ∧ (roll [] (ofEntries entries)).Nodup ∧
          ∀ name ∈ roll [] (ofEntries entries), name ∉ g.names := by
  rw [TaskGraph.follow_completes_iff, refuse_not_mem_course_iff .nil, names_course,
    List.nil_append, and_assoc, and_assoc]
  refine and_congr_right fun _ => and_congr_right fun _ => ?_
  constructor
  · rintro ⟨hagree, hnodup, hnew⟩
    have htask := ((roll_perm [] _).nodup_iff.1 hnodup).of_append_left
    exact ⟨(nodup_key_iff htask).2 hagree, hnodup, hnew⟩
  · rintro ⟨hkey, hnodup, hnew⟩
    have htask := ((roll_perm [] _).nodup_iff.1 hnodup).of_append_left
    exact ⟨(nodup_key_iff htask).1 hkey, hnodup, hnew⟩

/-! ## The graph after a course -/

/-- A task that a course adds depends in the end on the tasks that the course puts
under the umbrella of its name. -/
theorem settle_course {r : Registrar} {entries : List (Except Fault Enlistment)}
    {n : TaskNode} (hnodup : (Move.names (course r [] entries)).Nodup)
    (hn : n ∈ Move.nodes (course r [] entries)) :
    Move.settle (course r [] entries) n =
      ⟨n.task, gathered (ofEntries entries) n.task.name⟩ := by
  have hneeds : (Move.settle (course r [] entries) n).needs =
      gathered (ofEntries entries) n.task.name := by
    apply NameSet.ext_mem
    intro k
    rw [Move.mem_needs_settle, mem_gathered]
    constructor
    · rintro (hk | hk)
      · rcases mem_course (Move.mem_nodes.1 hn) with ⟨f, hm⟩ | ⟨e, he, hm | hm | hm⟩
        · cases hm
        · cases hm
          simp at hk
        · cases hm
        · cases hm
          refine ⟨e, he, rfl, ?_⟩
          simpa [foundation, eq_comm] using hk
      · rcases mem_course hk with ⟨f, hm⟩ | ⟨e, he, hm | hm | hm⟩
        · cases hm
        · cases hm
        · obtain ⟨hname, hdep⟩ := Move.connect.inj hm
          exact ⟨e, he, hname.symm, hdep.symm⟩
        · cases hm
    · rintro ⟨e, he, hname, rfl⟩
      rcases gathering_mem_course r [] he with hm | hm
      · exact .inr (hname ▸ hm)
      · have hsame : e.foundation e.umbrella = n :=
          List.inj_on_of_nodup_map hnodup (Move.mem_nodes.2 hm) hn hname
        exact .inl (by simp [← hsame, foundation])
  have htask := Move.settle_task (course r [] entries) n
  cases hs : Move.settle (course r [] entries) n
  simp_all

/-- A completed course of enlistments leaves what was there and adds the tasks on
the roll, of which the umbrellas depend on what they gather. -/
theorem nodes_of_completed {g g' : TaskGraph} {r : Registrar}
    {entries : List (Except Fault Enlistment)}
    (h : g.follow (course r [] entries) = (g', none)) :
    g'.nodes = g.nodes ++
      (tasks r [] (ofEntries entries)).map fun t =>
        ⟨t, gathered (ofEntries entries) t.name⟩ := by
  have hgrounded : Move.Grounded [] (course r [] entries) := grounded_course (by simp)
  obtain ⟨taken, -, hnodes, htaken⟩ := TaskGraph.nodes_follow (g := g) hgrounded
  rw [htaken (congrArg Prod.snd h), h] at hnodes
  have hnodup := (TaskGraph.follow_completes_iff.1 (congrArg Prod.snd h)).2.1
  rw [hnodes, ← tasks_course r [], List.map_map,
    List.map_congr_left fun n hn => settle_course hnodup hn]
  rfl

/-- Behind a completed course, every task of the roll depends on what is gathered
under its name. -/
theorem node?_of_mem_tasks {g g' : TaskGraph} {r : Registrar}
    {entries : List (Except Fault Enlistment)} {t : Task}
    (h : g.follow (course r [] entries) = (g', none))
    (ht : t ∈ tasks r [] (ofEntries entries)) :
    g'.node? t.name = some ⟨t, gathered (ofEntries entries) t.name⟩ := by
  obtain ⟨-, hnodup, hnew⟩ := TaskGraph.follow_completes_iff.1 (congrArg Prod.snd h)
  rw [names_course] at hnodup hnew
  have hname : t.name ∈ roll [] (ofEntries entries) := by
    rw [← names_tasks r]
    exact List.mem_map_of_mem ht
  refine TaskGraph.node?_of_added (n := ⟨t, _⟩) (nodes_of_completed h) ?_ (hnew _ hname)
    (List.mem_map_of_mem ht)
  rwa [List.map_map, show ((fun n : TaskNode => n.task.name) ∘ fun t =>
    ⟨t, gathered (ofEntries entries) t.name⟩) = Task.name from rfl, names_tasks]

/-- Behind a completed course, what is not on the roll is as it was. -/
theorem node?_of_not_mem_roll {g g' : TaskGraph} {r : Registrar}
    {entries : List (Except Fault Enlistment)} {name : String}
    (h : g.follow (course r [] entries) = (g', none))
    (hname : name ∉ roll [] (ofEntries entries)) : g'.node? name = g.node? name := by
  refine TaskGraph.node?_of_old (nodes_of_completed h) ?_
  rwa [List.map_map, show ((fun n : TaskNode => n.task.name) ∘ fun t =>
    ⟨t, gathered (ofEntries entries) t.name⟩) = Task.name from rfl, names_tasks]

/-- However a course of enlistments ends, it leaves what was there and has added
no umbrella without a task under it. -/
theorem nodes_follow_course (g : TaskGraph) (r : Registrar)
    (entries : List (Except Fault Enlistment)) :
    ∃ added, (g.follow (course r [] entries)).1.nodes = g.nodes ++ added ∧
      ∀ n ∈ added, n.task.kind = .lifecycle →
        (∃ u : Umbrella, n.task = u.task) ∧ n.needs.names ≠ [] := by
  have hgrounded : Move.Grounded [] (course r [] entries) := grounded_course (by simp)
  obtain ⟨taken, htaken, hnodes, -⟩ := TaskGraph.nodes_follow (g := g) hgrounded
  refine ⟨_, hnodes, fun n hn hkind => ?_⟩
  obtain ⟨n₀, hn₀, rfl⟩ := List.mem_map.1 hn
  rw [Move.settle_task] at hkind ⊢
  have hm : .add n₀ ∈ course r [] entries := htaken.subset (Move.mem_nodes.1 hn₀)
  rcases mem_course hm with ⟨f, hm⟩ | ⟨e, he, hm | hm | hm⟩
  · cases hm
  · cases hm
    cases hkind
  · cases hm
  · cases hm
    refine ⟨⟨e.umbrella, rfl⟩, ?_⟩
    have hk : e.taskName ∈ (Move.settle taken (e.foundation e.umbrella)).needs := by
      rw [Move.mem_needs_settle]
      exact .inl (by simp [foundation])
    exact List.ne_nil_of_mem hk

end Enlistment

end AnalysisPlan
