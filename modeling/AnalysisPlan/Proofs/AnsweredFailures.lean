import AnalysisPlan.CommandLine.Launch
import AnalysisPlan.Proofs.ReportMessages

/-!
# Failures that are answered by a message

On the plain console every message can be shown, so a run ends as its report does. When
the description is not there, or loading or evaluating it ends with a fault, the report
says so in one error behind the steps, and ends by status 1. What is left are the ends
that nothing answers for: a log that is refused, an interruption of loading or evaluating,
and a name that was left out on the command line (`CommandLine.launch_answers`).
-/

namespace AnalysisPlan

open Console (Message Backend)

namespace CommandLine

/-- Messages as the plain console shows them where their numbers can be printed. -/
def plainText (messages : List Message) : String :=
  (messages.map Console.Plain.write).foldr (· ++ ·) ""

theorem writeAll_plain (columns : Nat) {messages : List Message}
    (h : ∀ m ∈ messages, m.Regular) :
    writeAll .plain columns messages = .ok (plainText messages) := by
  induction messages with
  | nil => rfl
  | cons m messages ih =>
      obtain ⟨hm, hmessages⟩ := List.forall_mem_cons.1 h
      rw [writeAll, ih hmessages, Backend.write,
        if_pos (Console.Plain.printable_of_regular hm)]
      rfl

/-- A run that ended by status 1 and said one thing that is not about a step: an error. -/
structure Output.Complains (o : Output) (complaint : String) : Prop where
  status : o.status = 1
  out : ∃ steps : List Message, (∀ m ∈ steps, IsStep m) ∧
    o.out = plainText (steps ++ [.error complaint])

def answer? : LoadFailure → Option String
  | .missingFile path => some s!"Project description not found: {path}"
  | .fault f => some f.message
  | .interrupted _ => none

/-- A target whose description cannot be loaded, or be evaluated with what the command
line says about ignoring; evaluation may also be cut off by a question that is denied an
answer. A name that was left out there ends a run before its variants are planned. -/
inductive Fails (tree : FileTree) (current : Location) (target : Target) : LoadFailure → Prop
  | loading {failure : LoadFailure}
      (h : (Description.load tree current (Path.ofText target.file)).outcome = .error failure) :
      Fails tree current target failure
  | evaluating {p q : Project} {f : Fault}
      (hload : (Description.load tree current (Path.ofText target.file)).outcome = .ok p)
      (hnames : (target.ignored.nameMissing &&
        (ignoring target.ignored p).asksWhatToIgnore) = false)
      (h : Configuring.attempt Configuring.evaluate (ignoring target.ignored p) =
        .ok (.error f q)) :
      Fails tree current target (.fault f)
  | denied {p : Project} {d : Denial}
      (hload : (Description.load tree current (Path.ofText target.file)).outcome = .ok p)
      (hnames : (target.ignored.nameMissing &&
        (ignoring target.ignored p).asksWhatToIgnore) = false)
      (h : Configuring.attempt Configuring.evaluate (ignoring target.ignored p) = .error d) :
      Fails tree current target (.interrupted (.denied d))

/-! ## Reports about failures -/

/-- Entries that say one thing besides steps: an error. -/
def OneError (entries : List Entry) (complaint : String) : Prop :=
  ∃ steps : List Message, (∀ m ∈ steps, IsStep m) ∧
    entries.filterMap Entry.message? = steps ++ [.error complaint]

theorem Quiet.oneError {showSteps : Bool} {xs ys : List Entry} {complaint : String}
    (hx : Quiet showSteps xs) (hy : OneError ys complaint) : OneError (xs ++ ys) complaint := by
  obtain ⟨steps, hsteps, hys⟩ := hy
  refine ⟨xs.filterMap Entry.message? ++ steps, fun m hm => ?_, ?_⟩
  · exact (List.mem_append.1 hm).elim (fun hm => (hx m hm).2) (hsteps m)
  · rw [List.filterMap_append, hys, List.append_assoc]

theorem oneError_complaint {failure : LoadFailure} {text : String}
    (h : answer? failure = some text) : OneError (complaint failure) text := by
  cases failure with
  | missingFile path =>
      cases h
      exact ⟨[], by simp, rfl⟩
  | fault f =>
      cases h
      exact ⟨[], by simp, rfl⟩
  | interrupted i => cases h

theorem endingOf_of_answer {failure : LoadFailure} {text : String}
    (h : answer? failure = some text) : endingOf failure = .exit 1 := by
  cases failure with
  | interrupted i => cases h
  | _ => rfl

/-- What comes before the description is loaded, and what loading logs, is quiet. -/
theorem quiet_loading (tree : FileTree) (current : Location) (target : Target)
    (showSteps : Bool) :
    Quiet showSteps
      (announced showSteps [.step 1 2 s!"Configuring project from {target.file}"] ++
        (Description.load tree current (Path.ofText target.file)).log.map .note) := by
  refine Quiet.append (quiet_announced showSteps ?_) (quiet_notes _ _)
  simp only [List.mem_singleton]
  rintro m rfl
  exact .step _ _ _

/-- A failure of evaluation ends a preparation, with one error behind the steps. -/
theorem evaluated_of_error {p q : Project} {f : Fault} {nameMissing : Bool}
    (showSteps : Bool) (hnames : (nameMissing && p.asksWhatToIgnore) = false)
    (h : Configuring.attempt Configuring.evaluate p = .ok (.error f q)) :
    (evaluated showSteps nameMissing p).outcome = .error (.exit 1) ∧
      OneError (evaluated showSteps nameMissing p).entries f.message := by
  have hsteps : Quiet showSteps (announced showSteps
      [.stepDetail ("plugins: " ++ String.intercalate ", " p.pluginIds),
       .step 2 2 "Evaluating project"]) := by
    apply quiet_announced
    simp only [List.mem_cons, List.not_mem_nil, or_false]
    rintro m (rfl | rfl)
    · exact .detail _
    · exact .step _ _ _
  unfold evaluated
  rw [hnames, if_neg Bool.false_ne_true, h]
  exact ⟨rfl, (hsteps.append (quiet_notes _ _)).oneError
    (oneError_complaint (rfl : answer? (.fault f) = some f.message))⟩

/-- A failure ends a preparation; one that has an answer is reported by one error. -/
theorem prepare_of_fails {tree : FileTree} {current : Location} {target : Target}
    {failure : LoadFailure} (showSteps : Bool) (h : Fails tree current target failure) :
    (prepare tree current target showSteps).outcome = .error (endingOf failure) ∧
      ∀ text, answer? failure = some text →
        OneError (prepare tree current target showSteps).entries text := by
  have hquiet := quiet_loading tree current target showSteps
  unfold prepare
  cases h with
  | loading h =>
      simp only [h]
      exact ⟨trivial, fun text htext => hquiet.oneError (oneError_complaint htext)⟩
  | evaluating hload hnames h =>
      obtain ⟨houtcome, herror⟩ := evaluated_of_error showSteps hnames h
      simp only [hload]
      refine ⟨houtcome, fun text htext => ?_⟩
      cases htext
      exact hquiet.oneError herror
  | denied hload hnames h =>
      simp only [hload]
      refine ⟨?_, nofun⟩
      rw [evaluated, hnames, if_neg Bool.false_ne_true, h]
      rfl

/-- Nothing but an interruption and a name that was left out ends a preparation without a
status. -/
theorem prepare_outcome {tree : FileTree} {current : Location} {target : Target}
    {showSteps : Bool} {ending : Ending}
    (h : (prepare tree current target showSteps).outcome = .error ending) :
    ending = .exit 1 ∨ ending = .nameMissing ∨
      ∃ j, ending = .interrupted j ∧ Fails tree current target (.interrupted j) := by
  unfold prepare at h
  cases hload : (Description.load tree current (Path.ofText target.file)).outcome with
  | error failure =>
      simp only [hload] at h
      cases failure with
      | interrupted j =>
          cases h
          exact .inr (.inr ⟨j, rfl, .loading hload⟩)
      | missingFile path =>
          cases h
          exact .inl rfl
      | fault f =>
          cases h
          exact .inl rfl
  | ok p =>
      simp only [hload, evaluated] at h
      split at h
      · cases h
        exact .inr (.inl rfl)
      · next hnames =>
          split at h
          · next d hd =>
              cases h
              exact .inr (.inr ⟨_, rfl, .denied hload (Bool.eq_false_iff.2 hnames) hd⟩)
          · cases h
            exact .inl rfl
          · cases h

theorem exists_status_describeTask (p : Project) (name : String) :
    ∃ status, (describeTask p name).2 = .exit status := by
  unfold describeTask
  cases p.graph.get? name with
  | none => exact ⟨1, rfl⟩
  | some t => exact ⟨0, rfl⟩

/-- Every command prepares the project of its target and says something about it. -/
theorem exists_report_eq (command : Command) :
    ∃ showSteps say, (∀ p, (∃ status, (say p).2 = .exit status) ∨ (say p).2 = .nameMissing) ∧
      ∀ tree current, command.report tree current =
        conclude (prepare tree current command.target showSteps) say := by
  cases command with
  | plan target asDocument =>
      cases asDocument with
      | true => exact ⟨_, _, fun p => .inl ⟨0, rfl⟩, fun _ _ => rfl⟩
      | false => exact ⟨_, _, fun p => .inl ⟨0, rfl⟩, fun _ _ => rfl⟩
  | configurations target => exact ⟨_, _, fun p => .inl ⟨0, rfl⟩, fun _ _ => rfl⟩
  | describe target task =>
      cases task with
      | none => exact ⟨_, _, fun p => .inr rfl, fun _ _ => rfl⟩
      | some name =>
          exact ⟨_, fun p => describeTask p name, fun p => .inl (exists_status_describeTask p name),
            fun _ _ => rfl⟩

/-- How a report ends that has no status. -/
theorem ending_of_report (tree : FileTree) (current : Location) (command : Command) :
    (∃ status, (command.report tree current).ending = .exit status) ∨
      (command.report tree current).ending = .nameMissing ∨
      ∃ j, (command.report tree current).ending = .interrupted j ∧
        Fails tree current command.target (.interrupted j) := by
  obtain ⟨showSteps, say, hsay, hreport⟩ := exists_report_eq command
  rw [hreport, conclude]
  cases hprepared : (prepare tree current command.target showSteps).outcome with
  | error ending =>
      rcases prepare_outcome hprepared with rfl | rfl | ⟨j, rfl, hfails⟩
      · exact .inl ⟨1, rfl⟩
      · exact .inr (.inl rfl)
      · exact .inr (.inr ⟨j, rfl, hfails⟩)
  | ok p => exact (hsay p).imp_right .inl

theorem report_of_fails {tree : FileTree} {current : Location} {command : Command}
    {failure : LoadFailure} (h : Fails tree current command.target failure) :
    (command.report tree current).ending = endingOf failure ∧
      ∀ text, answer? failure = some text →
        OneError (command.report tree current).entries text := by
  obtain ⟨showSteps, say, -, hreport⟩ := exists_report_eq command
  obtain ⟨houtcome, herror⟩ := prepare_of_fails showSteps h
  rw [hreport, conclude, houtcome]
  exact ⟨rfl, herror⟩

/-! ## Runs on the plain console -/

section Plain

variable {refused : String → Option Refusal} {s : Surroundings} {args : List String}
  {i : Invocation} {command : Command}

theorem ofName_of_plain (hplain : s.console = "plain") :
    Backend.ofName s.console = .ok .plain := by
  rw [hplain]
  rfl

theorem launch_of_logEscape (hargs : invocation args = .ok i) (hplain : s.console = "plain")
    {escape : Escape} (hrefused : i.logEscape refused s.current = some escape) :
    launch refused s args = .error escape := by
  simp only [launch, hargs, ofName_of_plain hplain, hrefused]

def Invocation.report (s : Surroundings) (i : Invocation) (command : Command) : Report :=
  command.report (i.opened s.current s.tree) s.current

/-- How a program ends that has written `out` for a report. -/
def Report.ends (r : Report) (current : Location) (i : Invocation) (out : String) :
    Except Escape Output :=
  match r.ending with
  | .exit status => .ok (withLog current i r.log { status, out })
  | .interrupted j => .error (.breakdown (.interrupted j))
  | .nameMissing => .error (.breakdown .nameMissing)

/-- Where the log is opened and all messages can be written, a program ends as its report
does. -/
theorem launch_of_written {backend : Backend} {out : String} (hargs : invocation args = .ok i)
    (hcommand : i.command = some command) (hbackend : Backend.ofName s.console = .ok backend)
    (hopened : i.logEscape refused s.current = none)
    (hwritten : writeAll backend s.columns (i.report s command).messages = .ok out) :
    launch refused s args = (i.report s command).ends s.current i out := by
  rw [launch_eq_run hargs hopened]
  unfold Invocation.report at hwritten ⊢
  simp only [run, hargs, hbackend, Invocation.run, hcommand, hwritten, Report.ends]
  cases (command.report (i.opened s.current s.tree) s.current).ending <;> rfl

theorem launch_of_opened (hargs : invocation args = .ok i) (hcommand : i.command = some command)
    (hplain : s.console = "plain") (hopened : i.logEscape refused s.current = none) :
    launch refused s args = (i.report s command).ends s.current i
      (plainText (i.report s command).messages) :=
  launch_of_written hargs hcommand (ofName_of_plain hplain) hopened
    (writeAll_plain _ (regular_of_report _ _ _))

end Plain

def emptySurroundings : Surroundings where
  tree := {}
  current := []
  console := "plain"
  columns := 80

end CommandLine

end AnalysisPlan
