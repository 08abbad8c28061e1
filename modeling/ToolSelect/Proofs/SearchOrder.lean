import ToolSelect.Proofs.ListedDirectories

/-!
# The order of a search

A search asks about no candidate behind the first that is a file.  Its questions
are told here together with its result, for machines that answer every question
in one way.
-/

namespace ToolSelect

variable {m : Type → Type}

/-- A traced machine answers as the machine does, and writes the question
down. -/
theorem Machine.replies_traced (machine : Machine Id) :
    machine.traced.Replies machine.view fun call => modify (· ++ [call]) where
  pathVariable := rfl
  isPresent _ := rfl
  isDirectory _ := rfl

namespace MachineView

theorem looks_append {view : MachineView} {paths : List Path}
    (missed : ∀ path ∈ paths, view.isFile path = false) (more : List Path) :
    view.looks (paths ++ more) = paths.flatMap view.look ++ view.looks more := by
  induction paths with
  | nil => rfl
  | cons path paths induction =>
      obtain ⟨first, rest⟩ := List.forall_mem_cons.mp missed
      rw [List.cons_append, looks, first, if_neg Bool.false_ne_true,
        induction rest, List.flatMap_cons, List.append_assoc]

theorem looks_of_missed {view : MachineView} {paths : List Path}
    (missed : ∀ path ∈ paths, view.isFile path = false) :
    view.looks paths = paths.flatMap view.look := by
  have asked := looks_append missed []
  rw [List.append_nil, looks, List.append_nil] at asked
  exact asked

theorem looks_of_found {view : MachineView} {earlier later : List Path}
    {path : Path} (missed : ∀ other ∈ earlier, view.isFile other = false)
    (found : view.isFile path = true) :
    view.looks (earlier ++ path :: later) =
      (earlier ++ [path]).flatMap view.look := by
  rw [looks_append missed, looks, found, if_pos rfl, List.append_nil,
    List.flatMap_append, List.flatMap_singleton]

theorem variableValue_not_mem_looks (view : MachineView) (name : String)
    (paths : List Path) : .variableValue name ∉ view.looks paths := by
  induction paths with
  | nil => exact List.not_mem_nil
  | cons path paths induction =>
      rw [looks, List.mem_append, look]
      rintro (asked | asked)
      · split at asked <;> simp at asked
      · split at asked
        · exact List.not_mem_nil asked
        · exact induction asked

end MachineView

/-- The file of an executable has the executable in its name. -/
theorem Host.isInfix_executableName (host : Host) (name : String) :
    name.toList <:+: (host.executableName name).toList := by
  rw [executableName]
  split
  next =>
    rw [String.toList_append]
    exact (List.prefix_append _ _).isInfix
  next => exact List.infix_rfl

private theorem infix_of_eq {text start middle stop first second : String}
    (parts : text = start ++ first ++ middle ++ second ++ stop) :
    first.toList <:+: text.toList ∧ second.toList <:+: text.toList := by
  subst parts
  constructor
  · exact ⟨start.toList, (middle ++ second ++ stop).toList, by simp⟩
  · exact ⟨(start ++ first ++ middle).toList, stop.toList, by simp⟩

namespace SearchPath

/-- The path variable matters only where nothing else says where to search. -/
theorem variableValue_mem_questions_iff (search : SearchPath m)
    (view : MachineView) (executable : String) :
    MachineCall.variableValue "PATH" ∈ search.questions view executable ↔
      search.directories = [] ∧
        (Path.mk (search.host.executableName executable)).isAbsolute =
          false := by
  rw [questions]
  split
  next absolute =>
    have look : view.look ⟨search.host.executableName executable⟩ =
        view.looks [⟨search.host.executableName executable⟩] := by
      rw [MachineView.looks]
      split <;> simp [MachineView.looks]
    rw [look, absolute]
    have missing := MachineView.variableValue_not_mem_looks view "PATH"
      [⟨search.host.executableName executable⟩]
    simp [missing]
  next relative =>
    rw [Bool.not_eq_true] at relative
    have missing := MachineView.variableValue_not_mem_looks view "PATH"
      ((search.searched view).map
        (·.join (search.host.executableName executable)))
    rw [relative, List.mem_append, or_iff_left missing]
    cases search.directories <;> simp

theorem infix_refusal (search : SearchPath m) (kind : ToolKind)
    (executable : String) :
    kind.displayName.toList <:+: (search.refusal kind executable).toList ∧
      executable.toList <:+: (search.refusal kind executable).toList := by
  rw [refusal]
  split
  next =>
    have parts : absentReason kind (search.host.executableName executable) =
        "" ++ kind.displayName ++ " '" ++
          search.host.executableName executable ++ "' does not exist." := by
      rw [absentReason, String.empty_append]
    obtain ⟨named, file⟩ := infix_of_eq parts
    exact ⟨named,
      (search.host.isInfix_executableName executable).trans file⟩
  next =>
    split
    next =>
      have parts : unlistedReason kind executable =
          "Could not find " ++ kind.displayName ++ " '" ++ executable ++
            "' in system path." := rfl
      exact infix_of_eq parts
    next =>
      have parts : missingReason kind executable search.directories =
          "Could not find " ++ kind.displayName ++ " '" ++ executable ++
            ("'. Searched in:" ++ String.join (search.directories.map
              fun directory => "\n  - " ++ directory.text)) :=
        String.append_assoc ..
      exact infix_of_eq parts

/-- The directories are listed at the end of a reason, unless it is about a
file that was named by its whole path. -/
theorem refusal_of_directories {search : SearchPath m} {executable : String}
    (relative : (Path.mk (search.host.executableName executable)).isAbsolute =
      false)
    (some : search.directories ≠ []) (kind : ToolKind) :
    ∃ start, search.refusal kind executable =
      start ++ String.join
        (search.directories.map fun directory => "\n  - " ++ directory.text) := by
  have listed : search.refusal kind executable =
      missingReason kind executable search.directories := by
    have own : ¬search.directories.isEmpty = true := by
      simpa using some
    rw [refusal, relative, if_neg Bool.false_ne_true, if_neg own]
  exact ⟨_, listed⟩

def file (search : SearchPath m) (executable : String) : Path :=
  ⟨search.host.executableName executable⟩

def candidate (search : SearchPath m) (executable : String)
    (directory : Path) : Path :=
  directory.join (search.host.executableName executable)

/-- The question for the path variable, where nothing else says what to
search. -/
def lookUp (search : SearchPath m) : List MachineCall :=
  if search.directories = [] then [.variableValue "PATH"] else []

/-- What a search asks, and what it comes to. -/
structure InOrder (search : SearchPath m) (view : MachineView)
    (kind : ToolKind) (executable : String) (questions : List MachineCall)
    (result : SearchResult) : Prop where
  /-- A file that is named by its whole path is only looked at there. -/
  whole : (search.file executable).isAbsolute = true →
    questions = view.look (search.file executable) ∧
      if view.isFile (search.file executable) then
        result = .found (search.file executable)
      else
        ∃ reason, result = .notFound reason
  /-- The first directory with the file is the last one to be asked about. -/
  first : (search.file executable).isAbsolute = false →
    ∀ earlier directory later,
      search.searched view = earlier ++ directory :: later →
      (∀ other ∈ earlier,
        view.isFile (search.candidate executable other) = false) →
      view.isFile (search.candidate executable directory) = true →
      questions = search.lookUp ++ (earlier ++ [directory]).flatMap
          (fun asked => view.look (search.candidate executable asked)) ∧
        result = .found (search.candidate executable directory)
  /-- Without any such directory all are asked about. -/
  none : (search.file executable).isAbsolute = false →
    (∀ directory ∈ search.searched view,
      view.isFile (search.candidate executable directory) = false) →
    questions = search.lookUp ++ (search.searched view).flatMap
        (fun asked => view.look (search.candidate executable asked)) ∧
      ∃ reason, result = .notFound reason
  pathVariable : .variableValue "PATH" ∈ questions ↔
    search.directories = [] ∧ (search.file executable).isAbsolute = false
  named : ∀ reason, result = .notFound reason →
    kind.displayName.toList <:+: reason.toList ∧
      executable.toList <:+: reason.toList
  listed : ∀ reason, result = .notFound reason →
    search.directories ≠ [] → (search.file executable).isAbsolute = false →
    ∃ start, reason = start ++ String.join
      (search.directories.map fun directory => "\n  - " ++ directory.text)

section Outcomes

variable {search : SearchPath m} {view : MachineView} {executable : String}

theorem outcome_of_found {earlier later : List Path} {path : Path}
    (parts : search.candidates view executable = earlier ++ path :: later)
    (missed : ∀ other ∈ earlier, view.isFile other = false)
    (found : view.isFile path = true) (kind : ToolKind) :
    search.outcome view kind executable = .found path := by
  have first : (search.candidates view executable).find? view.isFile =
      some path := by
    apply List.find?_eq_some_iff_append.mpr
    refine ⟨found, earlier, later, parts, fun other member => ?_⟩
    rw [missed other member]
    rfl
  rw [outcome, first]

theorem outcome_of_missed
    (missed : ∀ path ∈ search.candidates view executable,
      view.isFile path = false) (kind : ToolKind) :
    search.outcome view kind executable =
      .notFound (search.refusal kind executable) := by
  have none : (search.candidates view executable).find? view.isFile = none := by
    apply List.find?_eq_none.mpr
    intro path member
    rw [missed path member]
    exact Bool.false_ne_true
  rw [outcome, none]

/-- A search is only ever refused for one reason. -/
theorem eq_refusal_of_outcome {kind : ToolKind} {reason : String}
    (missing : search.outcome view kind executable = .notFound reason) :
    reason = search.refusal kind executable := by
  rw [outcome] at missing
  split at missing
  next => cases missing
  next =>
    cases missing
    rfl

theorem inOrder_of_absolute
    (absolute : (search.file executable).isAbsolute = true)
    (kind : ToolKind) :
    search.questions view executable = view.look (search.file executable) ∧
      if view.isFile (search.file executable) then
        search.outcome view kind executable =
          .found (search.file executable)
      else
        ∃ reason, search.outcome view kind executable = .notFound reason := by
  have only : search.candidates view executable =
      [] ++ [search.file executable] := if_pos absolute
  refine ⟨if_pos absolute, ?_⟩
  cases found : view.isFile (search.file executable) with
  | true => exact outcome_of_found only nofun found kind
  | false =>
      refine ⟨_, outcome_of_missed ?_ kind⟩
      rw [only]
      simpa using found

theorem candidates_of_relative
    (relative : (search.file executable).isAbsolute = false) :
    search.candidates view executable =
      (search.searched view).map (search.candidate executable) :=
  if_neg (Bool.eq_false_iff.mp relative)

theorem questions_of_relative
    (relative : (search.file executable).isAbsolute = false) :
    search.questions view executable = search.lookUp ++
      view.looks ((search.searched view).map (search.candidate executable)) := by
  rw [questions, lookUp]
  refine (if_neg (Bool.eq_false_iff.mp relative)).trans ?_
  cases search.directories <;> rfl

theorem inOrder_of_found
    (relative : (search.file executable).isAbsolute = false)
    {earlier later : List Path} {directory : Path}
    (parts : search.searched view = earlier ++ directory :: later)
    (missed : ∀ other ∈ earlier,
      view.isFile (search.candidate executable other) = false)
    (found : view.isFile (search.candidate executable directory) = true)
    (kind : ToolKind) :
    search.questions view executable =
        search.lookUp ++ (earlier ++ [directory]).flatMap
          (fun asked => view.look (search.candidate executable asked)) ∧
      search.outcome view kind executable =
        .found (search.candidate executable directory) := by
  have missedFiles : ∀ path ∈ earlier.map (search.candidate executable),
      view.isFile path = false := by
    simpa using missed
  have candidates : search.candidates view executable =
      (search.searched view).map (search.candidate executable) :=
    candidates_of_relative relative
  rw [parts, List.map_append, List.map_cons] at candidates
  refine ⟨?_, outcome_of_found candidates missedFiles found kind⟩
  rw [questions_of_relative relative, parts, List.map_append, List.map_cons,
    MachineView.looks_of_found missedFiles found, ← List.map_singleton,
    ← List.map_append, List.flatMap_map]

theorem inOrder_of_missed
    (relative : (search.file executable).isAbsolute = false)
    (missed : ∀ directory ∈ search.searched view,
      view.isFile (search.candidate executable directory) = false)
    (kind : ToolKind) :
    search.questions view executable =
        search.lookUp ++ (search.searched view).flatMap
          (fun asked => view.look (search.candidate executable asked)) ∧
      ∃ reason, search.outcome view kind executable = .notFound reason := by
  have missedFiles : ∀ path ∈
      (search.searched view).map (search.candidate executable),
      view.isFile path = false := by
    simpa using missed
  constructor
  · rw [questions_of_relative relative,
      MachineView.looks_of_missed missedFiles, List.flatMap_map]
  · refine ⟨_, outcome_of_missed ?_ kind⟩
    rw [candidates_of_relative relative]
    exact missedFiles

end Outcomes

variable [Monad m] [LawfulMonad m] {machine : Machine m} {view : MachineView}
  {call : MachineCall → m Unit}

/-- A search asks and finds in the order of its directories.  These are its own
if any have ever been added, and else those of the path variable. -/
theorem locate_inOrder (replies : machine.Replies view call) (host : Host)
    (directories : List Path) (kind : ToolKind) (executable : String) :
    let search : SearchPath m := ⟨machine, host, directories⟩
    (∃ (questions : List MachineCall) (result : SearchResult),
      search.locate kind executable =
          (do questions.forM call; return result) ∧
        search.InOrder view kind executable questions result) ∧
    ∀ added : List Path,
      (added.foldl addDirectory (ofMachine machine host)).directories = [] ↔
        added = [] := by
  intro search
  have located : search.locate kind executable = (do
      (search.questions view executable).forM call
      return search.outcome view kind executable) :=
    locate_of_replies replies kind executable
  refine ⟨⟨_, _, located, ?_⟩, ?_⟩
  · exact {
      whole := fun absolute => inOrder_of_absolute absolute kind
      first := fun relative _ _ _ parts missed found =>
        inOrder_of_found relative parts missed found kind
      none := fun relative missed => inOrder_of_missed relative missed kind
      pathVariable := search.variableValue_mem_questions_iff view executable
      named := fun reason missing => by
        rw [eq_refusal_of_outcome missing]
        exact search.infix_refusal kind executable
      listed := fun reason missing some relative => by
        rw [eq_refusal_of_outcome missing]
        exact refusal_of_directories relative some kind }
  · intro added
    rw [foldl_addDirectory]
    constructor
    · intro empty
      cases added with
      | nil => rfl
      | cons directory added =>
          exact absurd empty (foldl_insertLast_ne_nil (List.cons_ne_nil _ _))
    · rintro rfl
      rfl

/-- The assembler is found in the second of three directories, behind a
directory of its name in the first one, and the third one is left alone. -/
theorem locate_inOrder_second :
    let machine : Machine Id :=
      ⟨fun _ => none, fun path => .error (.ofFile path ""), fun _ => true,
        fun path => decide (path = ⟨"/a/as"⟩), none⟩
    let search : SearchPath (StateM (List MachineCall)) :=
      ⟨machine.traced, ⟨.linux⟩, [⟨"/a"⟩, ⟨"/b"⟩, ⟨"/c"⟩]⟩
    (search.locate .assembler "as").run [] =
      (.found ⟨"/b/as"⟩,
        [.isPresent ⟨"/a/as"⟩, .isDirectory ⟨"/a/as"⟩, .isPresent ⟨"/b/as"⟩,
          .isDirectory ⟨"/b/as"⟩]) := by
  intro machine search
  obtain ⟨⟨questions, result, located, inOrder⟩, -⟩ :=
    locate_inOrder machine.replies_traced ⟨.linux⟩
      [⟨"/a"⟩, ⟨"/b"⟩, ⟨"/c"⟩] .assembler "as"
  obtain ⟨asked, found⟩ := inOrder.first (by decide) [⟨"/a"⟩] ⟨"/b"⟩ [⟨"/c"⟩]
    rfl (by decide) (by decide)
  have answer : result = .found ⟨"/b/as"⟩ := found.trans (by decide)
  have trace : questions = [.isPresent ⟨"/a/as"⟩, .isDirectory ⟨"/a/as"⟩,
      .isPresent ⟨"/b/as"⟩, .isDirectory ⟨"/b/as"⟩] := asked.trans (by decide)
  rw [located, answer, trace]
  rfl

/-- A file that is named by its whole path is refused without a word on the
directories of the search path. -/
theorem locate_absolute_unlisted :
    let machine : Machine Id := FileTree.machine ⟨[], [], [], []⟩
    let search := (ofMachine machine ⟨.linux⟩).addDirectory ⟨"/work"⟩
    search.directories = [⟨"/work"⟩] ∧
      ∃ reason,
        Id.run (search.locate .cCompiler "/usr/bin/gcc") = .notFound reason ∧
          ¬"/work".toList <:+: reason.toList := by
  refine ⟨by decide, "C compiler '/usr/bin/gcc' does not exist.", by decide, ?_⟩
  intro listed
  have letter : 'w' ∈ "C compiler '/usr/bin/gcc' does not exist.".toList :=
    listed.subset (by decide)
  exact absurd letter (by decide)

end SearchPath

end ToolSelect
