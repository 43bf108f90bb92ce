import AnalysisPlan.Proofs.Applying
import AnalysisPlan.Proofs.LoadFailures
import AnalysisPlan.Proofs.WrittenLines

/-!
# The directory of a loaded project

Putting path texts together and putting the paths together that are read from them come to
the same (`Path.ofText_joinPath`): the names of a path are what stands between the slashes,
so they are found on either side of a slash apart from each other (`Path.namesOf_append`),
and where the path starts is told by the first of the two texts unless the second is
absolute.

A project is loaded into a place that is told by names alone, none of which leads to the
parent. Its directory is the text of that place, so resolving the text again leads back
there, and the project sees the files that there are from this place. Whether a path is read
from there as it is or put behind the directory first makes no difference
(`Description.loaded_from_directory`).
-/

namespace AnalysisPlan

namespace Text

variable {sep : Char}

theorem not_mem_of_mem_split {s piece : List Char} (h : piece ∈ split sep s) : sep ∉ piece := by
  induction s generalizing piece with
  | nil =>
      rw [List.mem_singleton.1 h]
      exact List.not_mem_nil
  | cons c s ih =>
      by_cases hc : c = sep
      · rw [split, if_pos hc] at h
        rcases List.mem_cons.1 h with rfl | h
        · exact List.not_mem_nil
        · exact ih h
      · obtain ⟨first, others, hs, hsplit⟩ := split_cons_of_ne hc s
        rw [hs] at ih
        rw [hsplit] at h
        rcases List.mem_cons.1 h with rfl | h
        · exact fun hmem => (List.mem_cons.1 hmem).elim (Ne.symm hc) (ih List.mem_cons_self)
        · exact ih (List.mem_cons_of_mem _ h)

end Text

namespace Path

variable {p q : Path} {l current : Location}

/-- A name that can stand along a path. -/
structure IsName (name : String) : Prop where
  ne_empty : name ≠ ""
  ne_dot : name ≠ "."
  slash_not_mem : '/' ∉ name.toList

/-- A place that is told by names alone, none of which leads to the parent. -/
def IsPlace (l : Location) : Prop := ∀ name ∈ l, IsName name ∧ name ≠ ".."

def startOf : List Char → PathStart
  | '/' :: '/' :: '/' :: _ => .root
  | '/' :: '/' :: _ => .doubleRoot
  | '/' :: _ => .root
  | _ => .current

/-! ## The names in a text -/

theorem namesOf_append (a b : List Char) : namesOf (a ++ '/' :: b) = namesOf a ++ namesOf b := by
  rw [namesOf, Text.split_append, List.map_append, List.filter_append]
  rfl

theorem namesOf_cons (b : List Char) : namesOf ('/' :: b) = namesOf b := namesOf_append [] b

theorem namesOf_of_isName {name : String} (h : IsName name) : namesOf name.toList = [name] := by
  rw [namesOf, Text.split_of_not_mem h.slash_not_mem]
  simp [h.ne_empty, h.ne_dot]

theorem namesOf_intercalate {names : List String} (h : ∀ name ∈ names, IsName name) :
    namesOf (['/'].intercalate (names.map String.toList)) = names := by
  induction names with
  | nil => rfl
  | cons first others ih =>
      obtain ⟨hfirst, hothers⟩ := List.forall_mem_cons.1 h
      cases others with
      | nil => simpa using namesOf_of_isName hfirst
      | cons second others =>
          rw [List.map_cons, List.map_cons, List.intercalate_cons_cons, List.append_assoc,
            List.singleton_append, namesOf_append, namesOf_of_isName hfirst, ← List.map_cons,
            ih hothers]
          rfl

/-- Names with slashes between them do not begin with a slash. -/
theorem head?_intercalate_ne {names : List String} (h : ∀ name ∈ names, IsName name) :
    (['/'].intercalate (names.map String.toList)).head? ≠ some '/' := by
  cases names with
  | nil => simp
  | cons first others =>
      have hname := h first List.mem_cons_self
      obtain ⟨c, chars, hfirst⟩ :=
        List.exists_cons_of_ne_nil (mt String.toList_eq_nil_iff.1 hname.ne_empty)
      have hc : c ≠ '/' := by
        rintro rfl
        exact hname.slash_not_mem (hfirst ▸ List.mem_cons_self)
      cases others with
      | nil => simpa [hfirst] using hc
      | cons second others => simpa [hfirst, List.intercalate_cons_cons] using hc

theorem isName_of_mem_namesOf {text : List Char} {name : String} (h : name ∈ namesOf text) :
    IsName name := by
  obtain ⟨hmem, hkept⟩ := List.mem_filter.1 h
  obtain ⟨piece, hpiece, rfl⟩ := List.mem_map.1 hmem
  rw [Bool.and_eq_true, bne_iff_ne, bne_iff_ne] at hkept
  refine ⟨hkept.1, hkept.2, ?_⟩
  rw [String.toList_ofList]
  exact Text.not_mem_of_mem_split hpiece

/-! ## Reading a text -/

theorem startOf_slash {chars : List Char} (h : chars.head? ≠ some '/') :
    startOf ('/' :: chars) = .root := by
  unfold startOf
  split
  · next heq => simp_all
  · next heq => simp_all
  · rfl
  · next hno => exact absurd rfl (hno chars)

theorem startOf_eq_current_iff {chars : List Char} :
    startOf chars = .current ↔ chars.head? ≠ some '/' := by
  unfold startOf
  split
  · simp
  · simp
  · simp
  · next hno =>
      refine iff_of_true rfl fun hslash => ?_
      obtain ⟨rest, rfl⟩ := List.head?_eq_some_iff.1 hslash
      exact hno rest rfl

/-- A path starts where the beginning of its text says, unless the text behind that lengthens
a run of slashes. -/
theorem startOf_append {dir rest : List Char} (hdir : dir ≠ [])
    (h : dir.getLast? ≠ some '/' ∨ rest.head? ≠ some '/') :
    startOf (dir ++ rest) = startOf dir := by
  -- Only the first three characters are looked at.
  match dir with
  | [a] =>
      by_cases ha : a = '/'
      · subst ha
        cases rest with
        | nil => rfl
        | cons b rest =>
            have hb : b ≠ '/' := by simpa using h
            simp [startOf, hb]
      · simp [startOf, ha]
  | [a, b] =>
      by_cases ha : a = '/'
      · subst ha
        by_cases hb : b = '/'
        · subst hb
          cases rest with
          | nil => rfl
          | cons c rest =>
              have hc : c ≠ '/' := by simpa using h
              simp [startOf, hc]
        · simp [startOf, hb]
      · simp [startOf, ha]
  | a :: b :: c :: dir =>
      by_cases ha : a = '/'
      · subst ha
        by_cases hb : b = '/'
        · subst hb
          by_cases hc : c = '/'
          · subst hc
            rfl
          · simp [startOf, hc]
        · simp [startOf, hb]
      · simp [startOf, ha]

theorem ofText_eq (text : String) : ofText text = ⟨startOf text.toList, namesOf text.toList⟩ := by
  unfold ofText startOf
  generalize text.toList = chars
  split
  · simp only [namesOf_cons]
  · simp only [namesOf_cons]
  · simp only [namesOf_cons]
  · simp_all

/-- Reading two texts that were put together comes to the path of the first, followed by that
of the second. -/
theorem ofText_joinPath (dir path : String) :
    ofText (joinPath dir path) = (ofText dir).append (ofText path) := by
  unfold joinPath append
  simp only [ofText_eq, startOf_eq_current_iff]
  by_cases habsolute : path.toList.head? = some '/'
  · rw [if_pos habsolute, if_neg (not_not_intro habsolute)]
  · rw [if_neg habsolute, if_pos habsolute]
    by_cases hempty : dir.toList = []
    · rw [if_pos (.inl hempty), String.toList_append, hempty, List.nil_append,
        startOf_eq_current_iff.2 habsolute]
      rfl
    · by_cases hslash : dir.toList.getLast? = some '/'
      · obtain ⟨front, hfront⟩ := List.getLast?_eq_some_iff.1 hslash
        have hnames : namesOf dir.toList = namesOf front := by
          rw [hfront, namesOf_append]
          exact List.append_nil _
        rw [if_pos (.inr hslash), String.toList_append, startOf_append hempty (.inr habsolute),
          hnames, ← namesOf_append, hfront, List.append_assoc, List.singleton_append]
      · rw [if_neg (not_or.2 ⟨hempty, hslash⟩), String.toList_append, String.toList_append,
          List.append_assoc, startOf_append hempty (.inl hslash)]
        exact congrArg _ (namesOf_append _ _)

/-! ## Places -/

theorem isName_of_mem_names {text name : String} (h : name ∈ (ofText text).names) :
    IsName name := by
  rw [ofText_eq] at h
  exact isName_of_mem_namesOf h

theorem IsPlace.dropLast (hl : IsPlace l) : IsPlace l.dropLast :=
  fun name hname => hl name (List.dropLast_subset l hname)

theorem IsPlace.step {name : String} (hl : IsPlace l) (hname : IsName name) :
    IsPlace (step l name) := by
  unfold Path.step
  split
  · exact hl.dropLast
  · next hparent =>
      intro other hmem
      rcases List.mem_append.1 hmem with hmem | hmem
      · exact hl other hmem
      · rw [List.mem_singleton.1 hmem]
        exact ⟨hname, hparent⟩

theorem IsPlace.foldl {names : List String} (hl : IsPlace l) (h : ∀ name ∈ names, IsName name) :
    IsPlace (names.foldl Path.step l) := by
  induction names generalizing l with
  | nil => exact hl
  | cons first others ih =>
      obtain ⟨hfirst, hothers⟩ := List.forall_mem_cons.1 h
      exact ih (hl.step hfirst) hothers

/-- Resolving a path from a place leads to a place. -/
theorem IsPlace.resolve (hcurrent : IsPlace current) (h : ∀ name ∈ p.names, IsName name) :
    IsPlace (p.resolve current) := by
  unfold Path.resolve
  split
  · exact hcurrent.foldl h
  · exact IsPlace.foldl (fun _ hname => absurd hname List.not_mem_nil) h

theorem foldl_step_of_isPlace {names : List String} (h : IsPlace names) (l : Location) :
    names.foldl step l = l ++ names := by
  induction names generalizing l with
  | nil => exact (List.append_nil l).symm
  | cons first others ih =>
      obtain ⟨hfirst, hothers⟩ := List.forall_mem_cons.1 h
      rw [List.foldl_cons, step, if_neg hfirst.2, ih hothers, List.append_assoc,
        List.singleton_append]

/-- Resolving the path of a place leads to the place. -/
theorem resolve_ofLocation (hl : IsPlace l) (current : Location) :
    (ofLocation l).resolve current = l :=
  foldl_step_of_isPlace hl []

/-- The text of a place tells it. -/
theorem ofText_locationText (hl : IsPlace l) : ofText (locationText l) = ofLocation l := by
  have hnames : ∀ name ∈ l, IsName name := fun name hname => (hl name hname).1
  have htext : (locationText l).toList = '/' :: ['/'].intercalate (l.map String.toList) := by
    rw [locationText, text, if_neg (by simp [ofLocation]), String.toList_append,
      String.toList_intercalate]
    simp [ofLocation, startText]
  rw [ofText_eq, htext, startOf_slash (head?_intercalate_ne hnames), namesOf_cons,
    namesOf_intercalate hnames]
  rfl

/-- From a place, a path leads to the same whether it is read as it is or behind the text of
the place. -/
theorem append_joinPath_locationText (hl : IsPlace l) (path : String) :
    (ofLocation l).append (ofText (joinPath (locationText l) path)) =
      (ofLocation l).append (ofText path) := by
  rw [ofText_joinPath, ofText_locationText hl]
  unfold append
  by_cases hpath : (ofText path).start = .current
  · rw [if_pos hpath, if_neg (by simp [ofLocation])]
  · rw [if_neg hpath, if_neg hpath]

end Path

/-! ## What configuring leaves where it is -/

/-- `q` has the directories of `p` and sees the same files. -/
structure Project.Stays (p q : Project) : Prop where
  directories : q.directories = p.directories
  present : q.present = p.present

variable {p q : Project}

theorem Project.Stays.refl (p : Project) : p.Stays p := ⟨rfl, rfl⟩

theorem Project.Stays.trans {r : Project} (h : p.Stays q) (h' : q.Stays r) : p.Stays r :=
  ⟨h'.directories.trans h.directories, h'.present.trans h.present⟩

/-- Steps that stay, one after the other. -/
theorem Leaves.stays_bind {α β : Type} {x : Configuring α} {k : α → Configuring β}
    (hx : Leaves (fun _ q => p.Stays q) (x p))
    (hk : ∀ a q, Leaves (fun _ r => q.Stays r) (k a q)) :
    Leaves (fun _ q => p.Stays q) ((x >>= k) p) := by
  refine hx.bind fun a q hq => ?_
  have hrest := hk a q
  cases hkq : k a q with
  | ok b r =>
      rw [hkq] at hrest
      exact hq.trans hrest
  | error f r => trivial

namespace Configuring

theorem answer_stays (request : Request) (p : Project) :
    Leaves (fun _ q => p.Stays q) (answer request p) := by
  cases h : answer request p with
  | ok brought q =>
      have hkept := (answer_answered h).kept
      exact ⟨by rw [hkept], by rw [hkept]⟩
  | error f q => trivial

theorem applyId_stays (id : String) (p : Project) :
    Leaves (fun _ q => p.Stays q) (applyId id p) := by
  cases h : applyId id p with
  | ok _ q =>
      have hmark : answer (.mark id) p = .ok [] q := bind_of_ok h _
      have hstays := answer_stays (.mark id) p
      rw [hmark] at hstays
      exact hstays
  | error f q => trivial

theorem answerQueue_stays (n : Nat) (requests : List Request) (p : Project) :
    Leaves (fun _ q => p.Stays q) (answerQueue n requests p) := by
  induction n generalizing requests p with
  | zero => cases requests <;> exact .refl p
  | succ n ih =>
      cases requests with
      | nil => exact .refl p
      | cons request rest =>
          exact (answer_stays request p).stays_bind fun brought q => ih (brought ++ rest) q

theorem declareDependencies_stays (name : String) (coordinates : List String) (p : Project) :
    Leaves (fun _ q => p.Stays q) (change (·.declareDependencies name coordinates) p) := by
  unfold change
  simp only
  cases hq : p.declareDependencies name coordinates with
  | ok q =>
      obtain ⟨_, -, hq⟩ := exists_of_bind_eq_ok hq
      cases hq
      exact Project.Stays.mk rfl rfl
  | error f => trivial

end Configuring

namespace Description

theorem applyIds_stays (ids : List String) (p : Project) :
    Leaves (fun _ q => p.Stays q) (applyIds ids p) := by
  induction ids generalizing p with
  | nil => exact .refl p
  | cons id ids ih => exact (Configuring.applyId_stays id p).stays_bind fun _ q => ih q

theorem declareField_stays (configuration : String) (v : Json.Value) (p : Project) :
    Leaves (fun _ q => p.Stays q) (declareField configuration v p) := by
  unfold declareField
  split
  · next items =>
      cases texts ("dependencies." ++ configuration) items with
      | ok coordinates => exact Configuring.declareDependencies_stays configuration _ p
      | error f => trivial
  · trivial

theorem declareEach_stays (fields : Fields) (p : Project) :
    Leaves (fun _ q => p.Stays q) (declareEach fields p) := by
  induction fields generalizing p with
  | nil => exact .refl p
  | cons field fields ih =>
      exact (declareField_stays field.1 field.2 p).stays_bind fun _ q => ih q

/-- Configuring a project leaves it in its directory. -/
theorem configure_stays (ids : List String) (fields : Fields) (p : Project) :
    Leaves (fun _ q => p.Stays q) (configure ids fields p) := by
  unfold configure
  refine (applyIds_stays ids p).stays_bind fun _ q => ?_
  refine (Configuring.answerQueue_stays _ _ q).stays_bind fun _ q => ?_
  have hreport : ∀ q : Project, Leaves (fun _ r => q.Stays r)
      ((do
        let p ← get
        Configuring.report (.projectLoaded p.name p.directories.project) :
          Configuring Unit) q) := fun _ => ⟨rfl, rfl⟩
  cases withDefault Shape.object fields "dependencies" [] with
  | error f => trivial
  | ok dependencies => exact (declareEach_stays dependencies q).stays_bind fun _ q => hreport q

/-! ## Loading into a directory -/

variable {tree : FileTree} {current l : Location} {fields : Fields}

/-- A project that was loaded into a place has it for its directory, and sees the files that
there are from it. -/
theorem directory_of_loadIn (h : (loadIn tree l fields).outcome = .ok p) :
    p.directories.project = locationText l ∧ p.present = tree.present l := by
  unfold loadIn at h
  split at h
  · cases h
  · next draft hdraft =>
      have hstays := configure_stays draft.plugins fields (draft.project tree)
      split at h
      · cases h
      · next q hconfigure =>
          cases h
          rw [(Configuring.attempt_eq_ok_iff.1 hconfigure).1] at hstays
          rw [← directory_of_ofFields hdraft]
          exact ⟨congrArg Directories.project hstays.directories, hstays.present⟩
      · cases h

/-- The directory that a project is loaded into is a place. -/
theorem isPlace_of_directory {base : Path} (hcurrent : Path.IsPlace current)
    (hbase : ∀ name ∈ base.names, Path.IsName name)
    (h : directory tree current base fields = .ok l) : Path.IsPlace l := by
  unfold directory at h
  split at h
  · cases h
  · next path hpath =>
      obtain ⟨text, rfl, -⟩ := directoryPath_eq_ok hpath
      split at h
      · cases h
      · dsimp only at h
        split at h <;> cases h
        refine hcurrent.resolve fun name hname => ?_
        unfold Path.append at hname
        split at hname
        · rcases List.mem_append.1 hname with hname | hname
          · exact hbase name hname
          · exact Path.isName_of_mem_names hname
        · exact Path.isName_of_mem_names hname

/-- A project that loading returned, from the file of a path or from a description that was
already read and the path that it belongs to. -/
inductive LoadedFrom (tree : FileTree) (current : Location) (p : Project) : Prop where
  | file (path : String) (h : (load tree current (Path.ofText path)).outcome = .ok p)
  | fields (base : String) (fields : Fields)
      (h : (loadFields tree current (Path.ofText base) fields).outcome = .ok p)

/-- Every project is loaded into a place. -/
theorem LoadedFrom.exists_place (hcurrent : Path.IsPlace current) (h : LoadedFrom tree current p) :
    ∃ l fields, Path.IsPlace l ∧ (loadIn tree l fields).outcome = .ok p := by
  have hfields : ∀ {base : Path} {fields : Fields}, (∀ name ∈ base.names, Path.IsName name) →
      (loadFields tree current base fields).outcome = .ok p →
      ∃ l fields, Path.IsPlace l ∧ (loadIn tree l fields).outcome = .ok p := by
    intro base fields hbase hload
    unfold loadFields at hload
    split at hload
    · cases hload
    · next l hl => exact ⟨l, fields, isPlace_of_directory hcurrent hbase hl, hload⟩
  cases h with
  | fields base fields hload => exact hfields (fun _ => Path.isName_of_mem_names) hload
  | file path hload =>
      unfold load at hload
      split at hload
      · cases hload
      · refine hfields (fun name hname => ?_) hload
        exact ((hcurrent.resolve fun _ => Path.isName_of_mem_names).dropLast name hname).1

/-- A loaded project has a place. Its directory is the text of that place: it is read as the
names from the root to there, and resolving it leads there from anywhere. The project sees the
files that there are from its place, and from there a path leads to the same, whatever files
there are, if it is put behind the directory first. -/
theorem loaded_from_directory (hcurrent : Path.IsPlace current) (h : LoadedFrom tree current p) :
    ∃ l, Path.IsPlace l ∧ p.directories.project = locationText l ∧
      Path.ofText p.directories.project = Path.ofLocation l ∧
      (∀ anywhere, (Path.ofText p.directories.project).resolve anywhere = l) ∧
      p.present = tree.present l ∧
      ∀ path,
        (Path.ofLocation l).append (Path.ofText (joinPath p.directories.project path)) =
            (Path.ofLocation l).append (Path.ofText path) ∧
          ∀ files : FileTree,
            files.present l (joinPath p.directories.project path) = files.present l path := by
  obtain ⟨l, fields, hl, hload⟩ := h.exists_place hcurrent
  obtain ⟨hdirectory, hpresent⟩ := directory_of_loadIn hload
  have htext : Path.ofText p.directories.project = Path.ofLocation l := by
    rw [hdirectory, Path.ofText_locationText hl]
  refine ⟨l, hl, hdirectory, htext, fun anywhere => ?_, hpresent, fun path => ?_⟩
  · rw [htext, Path.resolve_ofLocation hl]
  · have hpath := Path.append_joinPath_locationText hl path
    rw [hdirectory]
    refine ⟨hpath, fun files => ?_⟩
    rw [FileTree.present, hpath]
    rfl

/-- A directory that is told in a roundabout way. -/
theorem loaded_from_directory_roundabout :
    ∃ tree p, Path.IsPlace [] ∧ LoadedFrom tree [] p ∧ p.directories.project = "/x/z" ∧
      p.present = tree.present ["x", "z"] ∧
      ∀ path, p.present (joinPath "/x/z" path) = p.present path := by
  have hplace : Path.IsPlace [] := fun _ hname => absurd hname List.not_mem_nil
  have hloads : ∀ tree, (load tree [] (Path.ofText "p.json")).outcome.toOption.any
      (·.directories.project == "/x/z") = true →
      ∃ p, LoadedFrom tree [] p ∧ p.directories.project = "/x/z" ∧
        p.present = tree.present ["x", "z"] ∧
        ∀ path, p.present (joinPath "/x/z" path) = p.present path := by
    intro tree htree
    cases hload : (load tree [] (Path.ofText "p.json")).outcome with
    | error failure =>
        rw [hload] at htree
        cases htree
    | ok p =>
        rw [hload] at htree
        have hproject : p.directories.project = "/x/z" := by
          simpa [Except.toOption] using htree
        have hloaded : LoadedFrom tree [] p := .file "p.json" hload
        obtain ⟨l, -, -, -, hresolve, hpresent, hpath⟩ := loaded_from_directory hplace hloaded
        have hl : ["x", "z"] = l := by
          rw [← hresolve [], hproject]
          decide +kernel
        refine ⟨p, hloaded, hproject, hl ▸ hpresent, fun path => ?_⟩
        rw [hpresent, ← hproject]
        exact (hpath path).2 tree
  obtain ⟨p, hp⟩ := hloads (CommandLine.describedBy
    "\x7b\"projectDir\": \"x/./y/../z//\"\x7d").tree (by decide +kernel)
  exact ⟨_, p, hplace, hp⟩

end Description

end AnalysisPlan
