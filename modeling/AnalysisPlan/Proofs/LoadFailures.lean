import AnalysisPlan.Proofs.AskedPaths
import AnalysisPlan.Proofs.ReadingLimits
import AnalysisPlan.Proofs.ShownUmbrellas

/-!
# How loading a description can end

Loading returns a project, does not find the file, or ends with a fault of the
configuration. Besides, it is interrupted: by a null character in the path of the file or of
the project directory, by a path of the project directory into a loop of links, by a
question about the conventional configuration file that is denied an answer, and by what a
text holds that is beyond the limits of reading. Each of these is told from the path, the
files and the text (`Description.Interrupts`), and nothing else interrupts loading
(`Description.load_outcome`). Half of a pair in a text counts among these limits: reading
stops there and says so, and what the text would come to is left open.
-/

namespace AnalysisPlan

namespace Text

theorem mem_join {sep c : Char} {pieces : List (List Char)} (hc : c ≠ sep) :
    c ∈ join sep pieces ↔ ∃ piece ∈ pieces, c ∈ piece := by
  induction pieces with
  | nil => simp
  | cons piece pieces ih =>
      by_cases hne : pieces = []
      · simp [hne, join]
      · rw [join_cons sep piece hne, List.mem_append, List.mem_cons, ih]
        simp [hc]

theorem mem_iff_exists_mem_split {sep c : Char} (hc : c ≠ sep) (s : List Char) :
    c ∈ s ↔ ∃ piece ∈ split sep s, c ∈ piece := by
  rw [← mem_join hc, join_split]

end Text

namespace Path

theorem exists_mem_namesOf_iff (text : List Char) :
    (∃ name ∈ namesOf text, '\x00' ∈ name.toList) ↔ '\x00' ∈ text := by
  rw [Text.mem_iff_exists_mem_split (show '\x00' ≠ '/' by decide)]
  constructor
  · rintro ⟨name, hname, hnull⟩
    obtain ⟨piece, hpiece, rfl⟩ := List.mem_map.1 (List.mem_filter.1 hname).1
    exact ⟨piece, hpiece, by simpa using hnull⟩
  · rintro ⟨piece, hpiece, hnull⟩
    refine ⟨String.ofList piece, List.mem_filter.2 ⟨List.mem_map_of_mem hpiece, ?_⟩, by simpa⟩
    have hne : ∀ s : String, '\x00' ∉ s.toList → String.ofList piece ≠ s := by
      rintro s hs rfl
      exact hs (by simpa using hnull)
    simp [hne "" (by decide), hne "." (by decide)]

theorem hasNull_iff {p : Path} :
    p.hasNull = true ↔ ∃ name ∈ p.names, '\x00' ∈ name.toList := by
  simp [hasNull]

theorem hasNull_append {p q : Path} (h : (p.append q).hasNull = true) :
    p.hasNull = true ∨ q.hasNull = true := by
  unfold append at h
  split at h
  · simpa [hasNull] using h
  · exact .inr h

/-- A path has a null character exactly if its text has one. -/
theorem hasNull_ofText (text : String) : (ofText text).hasNull = true ↔ '\x00' ∈ text.toList := by
  rw [hasNull_iff]
  unfold ofText
  split
  · next rest h => rw [exists_mem_namesOf_iff, h]; simp
  · next rest h => rw [exists_mem_namesOf_iff, h]; simp
  · next rest h => rw [exists_mem_namesOf_iff, h]; simp
  · exact exists_mem_namesOf_iff _

theorem mem_resolve {current : Location} {p : Path} {name : String}
    (h : name ∈ p.resolve current) : name ∈ current ∨ name ∈ p.names := by
  have hsteps : ∀ (names : List String) (l : Location), name ∈ names.foldl step l →
      name ∈ l ∨ name ∈ names := by
    intro names
    induction names with
    | nil => exact fun l hl => .inl hl
    | cons first names ih =>
        intro l hl
        rcases ih _ hl with hmem | hmem
        · unfold step at hmem
          split at hmem
          · exact .inl (List.dropLast_subset l hmem)
          · rcases List.mem_append.1 hmem with hmem | hmem
            · exact .inl hmem
            · exact .inr (by rw [List.mem_singleton.1 hmem]; exact List.mem_cons_self)
        · exact .inr (List.mem_cons_of_mem _ hmem)
  rcases hsteps _ _ h with hmem | hmem
  · split at hmem
    · exact .inl hmem
    · cases hmem
  · exact .inr hmem

end Path

namespace Description

/-- What the file of a path holds, as text. -/
def Holds (tree : FileTree) (current : Location) (path : Path) (text : List Char) : Prop :=
  ∃ bytes chars, tree.read current path = .ok bytes ∧ Text.decodeUtf8 bytes = .ok chars ∧
    text = Text.unifyNewlines chars

def Describes (tree : FileTree) (current : Location) (path : Path) (fields : Fields) : Prop :=
  ∃ text, Holds tree current path text ∧ Json.read text tree.nesting = .ok (.object fields)

/-- The directory that a description belongs to. -/
def base (current : Location) (path : Path) : Path := .ofLocation (path.resolve current).dropLast

/-- When loading is interrupted, and what it can be blamed on. -/
inductive Interrupts (tree : FileTree) (current : Location) (path : Path) : Interruption → Prop
  | path (h : path.hasNull = true) : Interrupts tree current path .nullCharacter
  | digits {text : List Char} {n : Nat} (hfile : Holds tree current path text)
      (hread : Json.read text tree.nesting = .error (.integerTooLong n))
      (hblame : Json.Reader.TooLong n text) : Interrupts tree current path (.integerTooLong n)
  | nesting {text : List Char} {container : Json.Container} (hfile : Holds tree current path text)
      (hread : Json.read text tree.nesting = .error (.nestedTooDeeply container))
      (hblame : tree.nesting < text.countP Json.Reader.isOpening) :
      Interrupts tree current path (.nestedTooDeeply container)
  | half {text : List Char} (hfile : Holds tree current path text)
      (hread : Json.read text tree.nesting = .error .halfPair)
      (hblame : Json.Reader.HasHalf text) : Interrupts tree current path .halfPair
  | directory {fields : Fields} {p : Path} (hfile : Describes tree current path fields)
      (hpath : directoryPath (base current path) fields = .ok p) (h : p.hasNull = true)
      (hblame : (∃ name ∈ current, '\x00' ∈ name.toList) ∨
        ∃ said, fields.lookup "projectDir" = some (.str said) ∧ '\x00' ∈ said.toList) :
      Interrupts tree current path .nullCharacter
  | loop {fields : Fields} {p : Path} (hfile : Describes tree current path fields)
      (hpath : directoryPath (base current path) fields = .ok p) (hnull : p.hasNull = false)
      (h : tree.refuses [] (.ofLocation (p.resolve current)) = some .linkLoop) :
      Interrupts tree current path (.linkLoop (locationText (p.resolve current)))
  | denied {fields : Fields} {l : Location} {draft : Draft} {d : Denial}
      (hfile : Describes tree current path fields)
      (hdirectory : directory tree current (base current path) fields = .ok l)
      (hdraft : Draft.ofFields l fields = .ok draft) (hconfig : draft.options.config = [])
      (h : tree.denial l (draft.project tree).defaultConfig = some d) :
      Interrupts tree current path (.denied d)

variable {tree : FileTree} {current : Location} {path : Path} {fields : Fields}
  {text : List Char} {i : Interruption}

/-- Nothing is held by a path with a null character. -/
theorem Holds.hasNull_eq (h : Holds tree current path text) : path.hasNull = false := by
  obtain ⟨bytes, -, hread, -⟩ := h
  cases hnull : path.hasNull with
  | false => rfl
  | true =>
      rw [FileTree.read, FileTree.find, if_pos hnull] at hread
      cases hread

/-- What a path holds is all that reading its file depends on. -/
theorem readFile_of_holds (h : Holds tree current path text) :
    readFile tree current path = document tree.nesting path.text text := by
  have hnull := h.hasNull_eq
  obtain ⟨bytes, chars, hread, hchars, rfl⟩ := h
  simp only [readFile, hnull, hread, hchars, Bool.false_eq_true, if_false]

theorem readFile_of_describes (h : Describes tree current path fields) :
    readFile tree current path = .ok fields := by
  obtain ⟨text, hfile, hread⟩ := h
  rw [readFile_of_holds hfile, document, hread]

theorem outcome_of_readFile {failure : LoadFailure}
    (h : readFile tree current path = .error failure) :
    (load tree current path).outcome = .error failure := by
  rw [load, h]

theorem outcome_of_describes (h : Describes tree current path fields) :
    (load tree current path).outcome =
      (loadFields tree current (base current path) fields).outcome := by
  rw [load, readFile_of_describes h]
  rfl

/-! ## What reading the file ends with -/

theorem find_of_read_missing (h : tree.read current path = .error .missing) :
    tree.find current path = .error .missing := by
  unfold FileTree.read at h
  split at h
  · cases h
  · cases h
  · next hfind =>
      cases h
      exact hfind

/-- A text that is no object is at fault, or it is beyond a limit of reading. -/
theorem document_ends (hfile : Holds tree current path text) :
    (∃ fields, document tree.nesting path.text text = .ok fields ∧
        Describes tree current path fields) ∨
      (∃ f, document tree.nesting path.text text = .error (.fault f)) ∨
      ∃ i, document tree.nesting path.text text = .error (.interrupted i) ∧
        Interrupts tree current path i := by
  unfold document
  rcases Json.read_accounts text tree.nesting with
    ⟨v, hv⟩ | ⟨m, hm⟩ | ⟨n, hn, hlong⟩ | ⟨container, hcontainer, hdeep⟩ | ⟨hhalf, hblame⟩
  · rw [hv]
    cases v with
    | object fields => exact .inl ⟨fields, rfl, text, hfile, hv⟩
    | _ => exact .inr (.inl ⟨_, rfl⟩)
  · rw [hm]
    exact .inr (.inl ⟨_, rfl⟩)
  · rw [hn]
    exact .inr (.inr ⟨_, rfl, .digits hfile hn hlong⟩)
  · rw [hcontainer]
    exact .inr (.inr ⟨_, rfl, .nesting hfile hcontainer hdeep⟩)
  · rw [hhalf]
    exact .inr (.inr ⟨_, rfl, .half hfile hhalf hblame⟩)

theorem readFile_ends (tree : FileTree) (current : Location) (path : Path) :
    (∃ fields, readFile tree current path = .ok fields ∧ Describes tree current path fields) ∨
      (readFile tree current path = .error (.missingFile path.text) ∧ path.hasNull = false ∧
        tree.find current path = .error .missing) ∨
      (∃ f, readFile tree current path = .error (.fault f)) ∨
      ∃ i, readFile tree current path = .error (.interrupted i) ∧
        Interrupts tree current path i := by
  cases hnull : path.hasNull with
  | true => exact .inr (.inr (.inr ⟨_, if_pos hnull, .path hnull⟩))
  | false =>
      cases hread : tree.read current path with
      | error refusal =>
          by_cases hmissing : refusal = .missing
          · subst hmissing
            refine .inr (.inl ⟨?_, rfl, find_of_read_missing hread⟩)
            simp [readFile, hnull, hread]
          · refine .inr (.inr (.inl ⟨.unreadable path.text refusal, ?_⟩))
            cases refusal <;> first
              | exact absurd rfl hmissing
              | simp [readFile, hnull, hread]
      | ok bytes =>
          cases hchars : Text.decodeUtf8 bytes with
          | error fault =>
              refine .inr (.inr (.inl ⟨.notUtf8 path.text fault, ?_⟩))
              simp [readFile, hnull, hread, hchars]
          | ok chars =>
              have hfile : Holds tree current path (Text.unifyNewlines chars) :=
                ⟨bytes, chars, hread, hchars, rfl⟩
              rw [readFile_of_holds hfile]
              exact (document_ends hfile).imp_right .inr

/-! ## What the description ends with -/

theorem directoryPath_eq_ok {base p : Path} (h : directoryPath base fields = .ok p) :
    ∃ text, p = base.append (Path.ofText text) ∧
      (fields.lookup "projectDir" = some (.str text) ∨ text = ".") := by
  obtain ⟨text, htext, hp⟩ := exists_of_bind_eq_ok h
  refine ⟨text, (Except.ok.inj hp).symm, ?_⟩
  unfold withDefault optional at htext
  cases hlookup : fields.lookup "projectDir" with
  | none =>
      rw [hlookup] at htext
      cases htext
      exact .inr rfl
  | some v =>
      rw [hlookup] at htext
      cases v with
      | str s =>
          cases htext
          exact .inl rfl
      | _ => cases htext

/-- A null character in the path of the project directory stands in what is said about it or
in the directory that it is read from. -/
theorem hasNull_of_directoryPath {p : Path} (hfile : path.hasNull = false)
    (hp : directoryPath (base current path) fields = .ok p) (h : p.hasNull = true) :
    (∃ name ∈ current, '\x00' ∈ name.toList) ∨
      ∃ said, fields.lookup "projectDir" = some (.str said) ∧ '\x00' ∈ said.toList := by
  obtain ⟨said, rfl, hsaid⟩ := directoryPath_eq_ok hp
  rcases Path.hasNull_append h with hbase | htext
  · obtain ⟨name, hname, hin⟩ := Path.hasNull_iff.1 hbase
    rcases Path.mem_resolve (List.dropLast_subset _ hname) with hmem | hmem
    · exact .inl ⟨name, hmem, hin⟩
    · rw [Path.hasNull_iff.2 ⟨name, hmem, hin⟩] at hfile
      cases hfile
  · rw [Path.hasNull_ofText] at htext
    rcases hsaid with hsaid | rfl
    · exact .inr ⟨said, hsaid, htext⟩
    · exact absurd htext (by decide)

theorem directory_ends (hfile : Describes tree current path fields) :
    (∃ l, directory tree current (base current path) fields = .ok l) ∨
      (∃ f, directory tree current (base current path) fields = .error (.fault f)) ∨
      ∃ i, directory tree current (base current path) fields = .error (.interrupted i) ∧
        Interrupts tree current path i := by
  have hnull : path.hasNull = false := by
    obtain ⟨text, hholds, -⟩ := hfile
    exact hholds.hasNull_eq
  unfold directory
  cases hp : directoryPath (base current path) fields with
  | error f => exact .inr (.inl ⟨f, rfl⟩)
  | ok p =>
      simp only
      split
      · next h =>
          exact .inr (.inr ⟨_, rfl, .directory hfile hp h (hasNull_of_directoryPath hnull hp h)⟩)
      · next h =>
          split
          · next hloop =>
              exact .inr (.inr ⟨_, rfl, .loop hfile hp (Bool.eq_false_iff.2 h) hloop⟩)
          · exact .inl ⟨_, rfl⟩

/-- Whether loading asks about the conventional configuration file at all. -/
theorem findSome?_configQuestions {draft : Draft} {d : Denial} :
    (draft.project tree).configQuestions.findSome? (draft.project tree).denial = some d ↔
      draft.options.config = [] ∧
        tree.denial draft.directory (draft.project tree).defaultConfig = some d := by
  have hoptions : (draft.project tree).options = draft.options := rfl
  have hdenial : (draft.project tree).denial = tree.denial draft.directory := rfl
  rw [Project.configQuestions, hoptions, hdenial]
  by_cases hconfig : draft.options.config = []
  · simp only [hconfig, List.isEmpty_nil, if_true, true_and]
    cases hd : tree.denial draft.directory (draft.project tree).defaultConfig <;> simp [hd]
  · simp [hconfig]

theorem loadIn_ends {l : Location} (hfile : Describes tree current path fields)
    (hl : directory tree current (base current path) fields = .ok l) :
    (∃ p, (loadIn tree l fields).outcome = .ok p) ∨
      (∃ f, (loadIn tree l fields).outcome = .error (.fault f)) ∨
      ∃ i, (loadIn tree l fields).outcome = .error (.interrupted i) ∧
        Interrupts tree current path i := by
  unfold loadIn
  cases hdraft : Draft.ofFields l fields with
  | error f => exact .inr (.inl ⟨f, rfl⟩)
  | ok draft =>
      have hfresh : (draft.project tree).Configured [] :=
        ⟨rfl, rfl, rfl, android_of_ofFields hdraft⟩
      simp only
      rw [attempt_configure draft.plugins fields hfresh rfl]
      cases hd : (draft.project tree).configQuestions.findSome? (draft.project tree).denial with
      | some d =>
          obtain ⟨hconfig, hdenied⟩ := findSome?_configQuestions.1 hd
          rw [directory_of_ofFields hdraft] at hdenied
          exact .inr (.inr ⟨_, rfl, .denied hfile hl hdraft hconfig hdenied⟩)
      | none =>
          cases configure draft.plugins fields (draft.project tree) with
          | ok a p => exact .inl ⟨p, rfl⟩
          | error f p => exact .inr (.inl ⟨f, rfl⟩)

theorem load_ends (tree : FileTree) (current : Location) (path : Path) :
    (∃ p, (load tree current path).outcome = .ok p) ∨
      ((load tree current path).outcome = .error (.missingFile path.text) ∧
        path.hasNull = false ∧ tree.find current path = .error .missing) ∨
      (∃ f, (load tree current path).outcome = .error (.fault f)) ∨
      ∃ i, (load tree current path).outcome = .error (.interrupted i) ∧
        Interrupts tree current path i := by
  rcases readFile_ends tree current path with
    ⟨fields, -, hfile⟩ | ⟨hread, hmissing⟩ | ⟨f, hread⟩ | ⟨i, hread, hi⟩
  · rw [outcome_of_describes hfile, loadFields]
    rcases directory_ends hfile with ⟨l, hl⟩ | ⟨f, hf⟩ | ⟨i, hi, hinterrupts⟩
    · rw [hl]
      exact (loadIn_ends hfile hl).imp_right .inr
    · rw [hf]
      exact .inr (.inr (.inl ⟨f, rfl⟩))
    · rw [hi]
      exact .inr (.inr (.inr ⟨i, rfl, hinterrupts⟩))
  · exact .inr (.inl ⟨outcome_of_readFile hread, hmissing⟩)
  · exact .inr (.inr (.inl ⟨f, outcome_of_readFile hread⟩))
  · exact .inr (.inr (.inr ⟨i, outcome_of_readFile hread, hi⟩))

/-- What loading can be blamed for does interrupt it. -/
theorem Interrupts.interrupts (h : Interrupts tree current path i) :
    (load tree current path).outcome = .error (.interrupted i) := by
  cases h with
  | path h => exact outcome_of_readFile (if_pos h)
  | digits hfile hread =>
      exact outcome_of_readFile ((readFile_of_holds hfile).trans (by rw [document, hread]))
  | nesting hfile hread =>
      exact outcome_of_readFile ((readFile_of_holds hfile).trans (by rw [document, hread]))
  | half hfile hread =>
      exact outcome_of_readFile ((readFile_of_holds hfile).trans (by rw [document, hread]))
  | directory hfile hpath h =>
      rw [outcome_of_describes hfile, loadFields]
      simp only [Description.directory, hpath, h, if_true]
  | loop hfile hpath hnull h =>
      rw [outcome_of_describes hfile, loadFields]
      simp only [Description.directory, hpath, hnull, h, if_true, Bool.false_eq_true, if_false]
  | denied hfile hdirectory hdraft hconfig h =>
      rename_i fields l draft d
      have hfresh : (draft.project tree).Configured [] :=
        ⟨rfl, rfl, rfl, android_of_ofFields hdraft⟩
      rw [← directory_of_ofFields hdraft] at h
      rw [outcome_of_describes hfile, loadFields, hdirectory]
      simp only [loadIn, hdraft]
      rw [attempt_configure draft.plugins fields hfresh rfl,
        findSome?_configQuestions.2 ⟨hconfig, h⟩]

def Loading.failure? (loading : Loading) : Option LoadFailure :=
  match loading.outcome with
  | .ok _ => none
  | .error failure => some failure

theorem outcome_of_failure? {loading : Loading} {failure : LoadFailure}
    (h : loading.failure? = some failure) : loading.outcome = .error failure := by
  unfold Loading.failure? at h
  split at h
  · cases h
  · next hfails =>
      cases h
      exact hfails

end Description

end AnalysisPlan
