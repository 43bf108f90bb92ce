import AnalysisPlan.Proofs.ShownUmbrellas
import Mathlib.Data.List.Infix

/-!
# Names that are suggested

A task that is asked for under a name that is not there is answered for by an error and by
the names that could have been meant: those that hold the text when both are in lower case.

A name that holds the text as it is written need not be among them. Lower case is taken of the
text and of the name apart from each other, and a capital sigma looks at what stands around it:
it ends a word in the text, and in the name it may not. Where every capital sigma is the same
in both, the name is suggested (`CommandLine.describe_suggests`).
-/

namespace AnalysisPlan

namespace Text

/-- Whether a text occurs inside another is told by `List.IsInfix`. -/
theorem occursIn_iff_infix {needle s : List Char} :
    occursIn needle s = true ↔ needle <:+: s := by
  induction s with
  | nil => rw [occursIn, List.isEmpty_iff, List.infix_nil]
  | cons c s ih =>
      rw [occursIn, Bool.or_eq_true, ih, List.isPrefixOf_iff_prefix, List.infix_cons_iff]

/-- Whether a capital sigma between two texts ends a word. The first of them is held in reverse
order. -/
def endsWord (before after : List Char) : Bool := meetsCased before && !meetsCased after

/-- Each capital sigma of a text that stands between two others ends a word there exactly if it
does in the text alone. -/
def KeepsSigmas (before text after : List Char) : Prop :=
  ∀ front rest, text = front ++ 'Σ' :: rest →
    endsWord (before ++ front).reverse (rest ++ after) = endsWord front.reverse rest

theorem keepsSigmas_of_not_mem {before text after : List Char} (h : 'Σ' ∉ text) :
    KeepsSigmas before text after := by
  rintro front rest rfl
  exact absurd (List.mem_append_right front List.mem_cons_self) h

/-- Lower case of what follows a text is behind something that the text gives. -/
theorem exists_lowerAfter_append (before text after : List Char) :
    ∃ lowered, lowerAfter before (text ++ after) =
      lowered ++ lowerAfter (text.reverse ++ before) after := by
  induction text generalizing before with
  | nil => exact ⟨[], rfl⟩
  | cons c text ih =>
      obtain ⟨lowered, hlowered⟩ := ih (c :: before)
      rw [List.cons_append, lowerAfter, hlowered, List.reverse_cons, List.append_assoc,
        List.singleton_append]
      exact ⟨_, (List.append_assoc _ _ _).symm⟩

/-- Lower case of a text is the same wherever it stands if each of its capital sigmas ends a
word here exactly if it does there. -/
theorem lowerAfter_append_of_sigmas {before before' text after : List Char}
    (h : ∀ front rest, text = front ++ 'Σ' :: rest →
      endsWord (front.reverse ++ before) (rest ++ after) =
        endsWord (front.reverse ++ before') rest) :
    lowerAfter before (text ++ after) =
      lowerAfter before' text ++ lowerAfter (text.reverse ++ before) after := by
  induction text generalizing before before' with
  | nil => rfl
  | cons c text ih =>
      have hrest : lowerAfter (c :: before) (text ++ after) =
          lowerAfter (c :: before') text ++
            lowerAfter (text.reverse ++ c :: before) after := by
        refine ih fun front rest htext => ?_
        have hsame := h (c :: front) rest (congrArg (c :: ·) htext)
        rwa [List.reverse_cons, List.append_assoc, List.append_assoc] at hsame
      rw [List.cons_append, lowerAfter, lowerAfter, hrest, List.reverse_cons, List.append_assoc,
        List.append_assoc, List.singleton_append]
      congr 1
      split
      · next hc =>
          have hsame : endsWord before (text ++ after) = endsWord before' text :=
            h [] text (congrArg (· :: text) hc)
          rw [← endsWord, ← endsWord, hsame]
      · rfl

/-- A text that occurs in a name occurs there in lower case as well, unless one of its capital
sigmas ends a word in only one of the two. -/
theorem lowerCase_infix {text name : String} {before after : List Char}
    (hname : name.toList = before ++ text.toList ++ after)
    (h : KeepsSigmas before text.toList after) :
    (lowerCase text).toList <:+: (lowerCase name).toList := by
  obtain ⟨lowered, hlowered⟩ := exists_lowerAfter_append [] before (text.toList ++ after)
  have htext : lowerAfter before.reverse (text.toList ++ after) =
      lowerAfter [] text.toList ++ lowerAfter (text.toList.reverse ++ before.reverse) after := by
    refine lowerAfter_append_of_sigmas fun front rest hsplit => ?_
    rw [← List.reverse_append, List.append_nil]
    exact h front rest hsplit
  rw [lowerCase, lowerCase, String.toList_ofList, String.toList_ofList, hname, List.append_assoc,
    hlowered, List.append_nil, htext, ← List.append_assoc]
  exact List.infix_append _ _ _

end Text

namespace CommandLine

open Console (Message)
open Text (lowerCase KeepsSigmas)

theorem similarNames_eq (g : TaskGraph) (text : String) :
    similarNames g text =
      g.names.filter fun name => (lowerCase text).toList <:+: (lowerCase name).toList := by
  refine List.filter_congr fun name _ => ?_
  rw [Bool.eq_iff_iff, Text.occursIn_iff_infix, decide_eq_true_eq]

variable {tree : FileTree} {current : Location} {target : Target} {p : Project} {text : String}

theorem describeTask_of_not_mem (h : text ∉ p.graph.names) :
    describeTask p text = (unknownTask p text, .exit 1) := by
  have hnone : p.graph.get? text = none := by
    have hdeps := TaskGraph.dependencies?_eq_none_iff.2 h
    rw [TaskGraph.dependencies?, TaskGraph.needs?, Option.map_eq_none_iff,
      Option.map_eq_none_iff] at hdeps
    rw [TaskGraph.get?, hdeps, Option.map_none]
  rw [describeTask, hnone]

theorem unknownTask_eq (p : Project) (text : String) :
    unknownTask p text = .error s!"No task named '{text}' in project {p.name}" ::
      if similarNames p.graph text = [] then []
      else [.info ("Did you mean: " ++ String.intercalate ", " (similarNames p.graph text))] := by
  rw [unknownTask]
  cases similarNames p.graph text <;> rfl

/-- Nothing else is said where a task is asked for under a name that is not there. -/
theorem report_describe_of_not_mem
    (hp : (prepare tree current target false).outcome = .ok p) (htext : text ∉ p.graph.names) :
    let report := (Command.describe target (some text)).report tree current
    report.ending = .exit 1 ∧ report.messages = unknownTask p text := by
  intro report
  obtain ⟨-, hquiet⟩ := (prepare_yields tree current target false).returned p hp
  have hsilent : (prepare tree current target false).entries.filterMap Entry.message? = [] :=
    List.eq_nil_iff_forall_not_mem.2 fun m hm => by cases (hquiet m hm).1
  have hreport : report =
      ⟨(prepare tree current target false).entries ++ (unknownTask p text).map .say, .exit 1⟩ := by
    change conclude _ (describeTask · text) = _
    rw [conclude, hp]
    simp only [describeTask_of_not_mem htext]
  rw [hreport]
  refine ⟨rfl, ?_⟩
  rw [Report.messages, List.filterMap_append, hsilent, List.nil_append, List.filterMap_map]
  exact List.filterMap_some

/-- A task that is asked for under a name that is not there ends the report by status 1. What
is said is an error and, if there are any, the names that hold the text when both are in lower
case, in the order of registration. Among these is every name that holds the text as it is
written, unless a capital sigma of the text ends a word in only one of the two. -/
theorem describe_suggests (hp : (prepare tree current target false).outcome = .ok p)
    (htext : text ∉ p.graph.names) :
    let report := (Command.describe target (some text)).report tree current
    let similar := p.graph.names.filter fun name =>
      (lowerCase text).toList <:+: (lowerCase name).toList
    report.ending = .exit 1 ∧
      report.messages = .error s!"No task named '{text}' in project {p.name}" ::
        (if similar = [] then []
          else [.info ("Did you mean: " ++ String.intercalate ", " similar)]) ∧
      ∀ name ∈ p.graph.names, ∀ before after, name.toList = before ++ text.toList ++ after →
        KeepsSigmas before text.toList after → name ∈ similar := by
  intro report similar
  obtain ⟨hending, hmessages⟩ := report_describe_of_not_mem hp htext
  refine ⟨hending, ?_, fun name hname before after hoccurs hkeeps => ?_⟩
  · rw [hmessages, unknownTask_eq, similarNames_eq]
  · exact List.mem_filter.2 ⟨hname, decide_eq_true (Text.lowerCase_infix hoccurs hkeeps)⟩

theorem exists_of_prepared_names {names : List String}
    (h : (prepare tree current target false).outcome.toOption.any (·.graph.names == names) = true) :
    ∃ p, (prepare tree current target false).outcome = .ok p ∧ p.graph.names = names := by
  cases hp : (prepare tree current target false).outcome with
  | error ending =>
      rw [hp] at h
      cases h
  | ok p =>
      rw [hp] at h
      exact ⟨p, rfl, by simpa [Except.toOption] using h⟩

theorem describe_suggests_debug :
    ∃ tree target p, (prepare tree [] target false).outcome = .ok p ∧ "Debug" ∉ p.graph.names ∧
      ((Command.describe target (some "Debug")).report tree []).messages =
        [.error s!"No task named 'Debug' in project {p.name}", .info "Did you mean: detektDebug"] ∧
      ((Command.describe target (some "Debug")).report tree []).ending = .exit 1 ∧
      Text.KeepsSigmas "detekt".toList "Debug".toList [] := by
  have hnames : ∀ tree, (prepare tree [] { file := "p.json" } false).outcome.toOption.any
      (·.graph.names ==
        ["detektDebug", "detektMain", "detekt", "detektBaseline", "detektGenerateConfig"]) = true →
      ∃ target p, (prepare tree [] target false).outcome = .ok p ∧ "Debug" ∉ p.graph.names ∧
        ((Command.describe target (some "Debug")).report tree []).messages =
          [.error s!"No task named 'Debug' in project {p.name}",
            .info "Did you mean: detektDebug"] ∧
        ((Command.describe target (some "Debug")).report tree []).ending = .exit 1 := by
    intro tree htree
    obtain ⟨p, hp, hall⟩ := exists_of_prepared_names htree
    have hnew : "Debug" ∉ p.graph.names := by
      rw [hall]
      decide
    obtain ⟨hending, hmessages, -⟩ := describe_suggests hp hnew
    have hsimilar : (p.graph.names.filter fun name =>
        (lowerCase "Debug").toList <:+: (lowerCase name).toList) = ["detektDebug"] := by
      rw [hall]
      decide +kernel
    rw [hsimilar] at hmessages
    exact ⟨_, p, hp, hnew, hmessages, hending⟩
  obtain ⟨target, p, hp, hnew, hmessages, hending⟩ := hnames (describedBy
    "\x7b\"plugins\": [\"com.android.test\", \"kotlin-android\"]\x7d").tree (by decide +kernel)
  exact ⟨_, target, p, hp, hnew, hmessages, hending, Text.keepsSigmas_of_not_mem (by decide)⟩

/-- The name `detektΑΣΑ` holds `ΑΣ`, but the sigma ends a word in the text alone, so in lower
case it is another letter, and nothing is suggested. -/
theorem not_forall_suggests_occurring :
    ¬ ∀ (tree : FileTree) (current : Location) (target : Target) (p : Project) (text : String),
      (prepare tree current target false).outcome = .ok p → text ∉ p.graph.names →
      ∀ name ∈ p.graph.names, text.toList <:+: name.toList →
        ∃ similar, name ∈ similar ∧
          .info ("Did you mean: " ++ String.intercalate ", " similar) ∈
            ((Command.describe target (some text)).report tree current).messages := by
  intro hall
  have hno : ∀ tree, (prepare tree [] { file := "p.json" } false).outcome.toOption.any
      (·.graph.names ==
        ["detekt", "detektBaseline", "detektGenerateConfig", "detektΑΣΑ"]) = true → False := by
    intro tree htree
    obtain ⟨p, hp, hnames⟩ := exists_of_prepared_names htree
    have hnew : "ΑΣ" ∉ p.graph.names := by
      rw [hnames]
      decide
    have hsimilar : similarNames p.graph "ΑΣ" = [] := by
      rw [similarNames_eq, hnames]
      decide +kernel
    obtain ⟨similar, -, hshown⟩ := hall tree [] { file := "p.json" } p "ΑΣ" hp hnew "detektΑΣΑ"
      (by simp [hnames]) ⟨"detekt".toList, "Α".toList, by decide⟩
    rw [(report_describe_of_not_mem hp hnew).2, unknownTask_eq, if_pos hsimilar] at hshown
    cases List.mem_singleton.1 hshown
  exact hno (describedBy ("\x7b\"plugins\": [\"org.jetbrains.kotlin.jvm\"], " ++
    "\"sourceSets\": [\x7b\"name\": \"\\u0391\\u03a3\\u0391\", \"kotlin\": []\x7d]\x7d")).tree
    (by decide +kernel)

end CommandLine

end AnalysisPlan
