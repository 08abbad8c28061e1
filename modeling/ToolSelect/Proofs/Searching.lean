import Mathlib.Tactic.Choose
import ToolSelect.Machine.Trace
import ToolSelect.Proofs.Probing
import ToolSelect.Search.SearchPath

/-!
# Searches on machines with steady answers

A machine may have effects when it is asked, and still answer every question of
a search in one way.  A search on such a machine asks about one candidate after
the other, and comes to the first one that is a file.
-/

namespace ToolSelect

variable {m : Type → Type}

section Yields

variable [Monad m] {α β : Type}

/-- The action always comes to the result, whatever its effects. -/
def Yields (action : m α) (result : α) : Prop :=
  ∃ effects : m Unit, action = do effects; return result

variable [LawfulMonad m]

theorem Yields.pure (result : α) : Yields (Pure.pure result : m α) result :=
  ⟨Pure.pure (), by simp⟩

theorem Yields.bind {first : m α} {next : α → m β} {value : α} {result : β}
    (yields : Yields first value) (yieldsNext : Yields (next value) result) :
    Yields (first >>= next) result := by
  obtain ⟨effects, rfl⟩ := yields
  obtain ⟨effectsNext, same⟩ := yieldsNext
  refine ⟨do effects; effectsNext, ?_⟩
  simp only [bind_assoc, pure_bind, same]

end Yields

/-- What a machine shows to a search: its path variable, and what is found
under each path. -/
structure MachineView where
  pathVariable : Option String
  isPresent : Path → Bool
  isDirectory : Path → Bool

def MachineView.isFile (view : MachineView) (path : Path) : Bool :=
  view.isPresent path && !view.isDirectory path

/-- Whenever a search asks the machine, it answers as the view says. -/
structure Machine.Shows [Monad m] (machine : Machine m) (view : MachineView) :
    Prop where
  pathVariable : Yields (machine.variableValue "PATH") view.pathVariable
  isPresent : ∀ path, Yields (machine.isPresent path) (view.isPresent path)
  isDirectory : ∀ path,
    Yields (machine.isDirectory path) (view.isDirectory path)

/-- Whenever a search asks the machine, it answers as the view says, and the
question has the effect of a call. -/
structure Machine.Replies [Monad m] (machine : Machine m) (view : MachineView)
    (call : MachineCall → m Unit) : Prop where
  pathVariable : machine.variableValue "PATH" = do
    call (.variableValue "PATH")
    return view.pathVariable
  isPresent : ∀ path, machine.isPresent path = do
    call (.isPresent path)
    return view.isPresent path
  isDirectory : ∀ path, machine.isDirectory path = do
    call (.isDirectory path)
    return view.isDirectory path

theorem Machine.Shows.exists_replies [Monad m] {machine : Machine m}
    {view : MachineView} (shows : machine.Shows view) :
    ∃ call, machine.Replies view call := by
  obtain ⟨listing, pathVariable⟩ := shows.pathVariable
  choose present isPresent using shows.isPresent
  choose directory isDirectory using shows.isDirectory
  let call : MachineCall → m Unit
    | .isPresent path => present path
    | .isDirectory path => directory path
    | _ => listing
  exact ⟨call, pathVariable, isPresent, isDirectory⟩

def Machine.view (machine : Machine Id) : MachineView :=
  ⟨machine.variableValue "PATH", machine.isPresent, machine.isDirectory⟩

theorem Machine.shows_view (machine : Machine Id) :
    machine.Shows machine.view where
  pathVariable := ⟨pure (), rfl⟩
  isPresent _ := ⟨pure (), rfl⟩
  isDirectory _ := ⟨pure (), rfl⟩

namespace MachineView

/-- The questions about one path: whether it is a directory only matters where
something is found. -/
def look (view : MachineView) (path : Path) : List MachineCall :=
  if view.isPresent path then [.isPresent path, .isDirectory path]
  else [.isPresent path]

/-- The questions about paths one after the other, up to the first file. -/
def looks (view : MachineView) : List Path → List MachineCall
  | [] => []
  | path :: paths =>
    view.look path ++ if view.isFile path then [] else view.looks paths

end MachineView

namespace SearchPath

/-- The directories that are searched: those of the search path, or else those
that the machine lists. -/
def searched (search : SearchPath m) (view : MachineView) : List Path :=
  if search.directories.isEmpty then
    (view.pathVariable.map (listed search.host)).getD []
  else
    search.directories

/-- The files that are looked at for an executable, in order. -/
def candidates (search : SearchPath m) (view : MachineView)
    (executable : String) : List Path :=
  let file := search.host.executableName executable
  if (Path.mk file).isAbsolute then [⟨file⟩]
  else (search.searched view).map (·.join file)

def refusal (search : SearchPath m) (kind : ToolKind) (executable : String) :
    String :=
  let file := search.host.executableName executable
  if (Path.mk file).isAbsolute then absentReason kind file
  else if search.directories.isEmpty then unlistedReason kind executable
  else missingReason kind executable search.directories

/-- The questions of a search: those about its candidates, behind the one for
the path variable where the search path has no directories of its own. -/
def questions (search : SearchPath m) (view : MachineView)
    (executable : String) : List MachineCall :=
  let file := search.host.executableName executable
  if (Path.mk file).isAbsolute then view.look ⟨file⟩
  else
    (if search.directories.isEmpty then [.variableValue "PATH"] else []) ++
      view.looks ((search.searched view).map (·.join file))

/-- What a search comes to: the first candidate that is a file. -/
def outcome (search : SearchPath m) (view : MachineView) (kind : ToolKind)
    (executable : String) : SearchResult :=
  match (search.candidates view executable).find? view.isFile with
  | some path => .found path
  | none => .notFound (search.refusal kind executable)

theorem path?_outcome (search : SearchPath m) (view : MachineView)
    (kind : ToolKind) (executable : String) :
    (search.outcome view kind executable).path? =
      (search.candidates view executable).find? view.isFile := by
  rw [outcome]
  cases (search.candidates view executable).find? view.isFile <;> rfl

variable [Monad m] [LawfulMonad m] {machine : Machine m} {view : MachineView}
  {call : MachineCall → m Unit}

theorem isFile_of_replies (replies : machine.Replies view call) (path : Path) :
    machine.isFile path = do
      (view.look path).forM call
      return view.isFile path := by
  rw [Machine.isFile, replies.isPresent, MachineView.look, MachineView.isFile]
  cases view.isPresent path with
  | true => simp [replies.isDirectory]
  | false => simp

theorem firstFile_of_replies (replies : machine.Replies view call)
    (file : String) (directories : List Path) :
    firstFile machine file directories = do
      (view.looks (directories.map (·.join file))).forM call
      return (directories.map (·.join file)).find? view.isFile := by
  induction directories with
  | nil => simp [firstFile, MachineView.looks]
  | cons directory directories induction =>
      rw [firstFile, isFile_of_replies replies, induction, List.map_cons,
        MachineView.looks, List.find?_cons]
      cases view.isFile (directory.join file) <;> simp

theorem systemDirectories_of_replies {search : SearchPath m}
    (replies : search.machine.Replies view call) :
    search.systemDirectories = do
      call (.variableValue "PATH")
      return (view.pathVariable.map (listed search.host)).getD [] := by
  rw [systemDirectories, replies.pathVariable]
  cases view.pathVariable <;> simp

theorem locate_of_replies {search : SearchPath m}
    (replies : search.machine.Replies view call) (kind : ToolKind)
    (executable : String) :
    search.locate kind executable = do
      (search.questions view executable).forM call
      return search.outcome view kind executable := by
  rw [locate, questions, outcome, candidates, refusal, searched]
  split
  next =>
    rw [isFile_of_replies replies, List.find?_singleton]
    cases view.isFile _ <;> simp
  next =>
    split
    next =>
      have opened (questions : List MachineCall) :
          ([MachineCall.variableValue "PATH"] ++ questions).forM call = (do
            call (.variableValue "PATH")
            questions.forM call) := rfl
      rw [systemDirectories_of_replies replies, opened]
      simp only [bind_assoc, pure_bind, firstFile_of_replies replies]
      refine bind_congr fun _ => bind_congr fun _ => ?_
      cases (List.map _ _).find? view.isFile <;> rfl
    next =>
      rw [firstFile_of_replies replies]
      simp only [bind_assoc, pure_bind, List.nil_append]
      refine bind_congr fun _ => ?_
      cases (List.map _ _).find? view.isFile <;> rfl

/-- A search on a machine with steady answers comes to its outcome. -/
theorem locate_yields {search : SearchPath m}
    (shows : search.machine.Shows view) (kind : ToolKind)
    (executable : String) :
    Yields (search.locate kind executable)
      (search.outcome view kind executable) := by
  obtain ⟨call, replies⟩ := shows.exists_replies
  exact ⟨_, locate_of_replies replies kind executable⟩

end SearchPath

end ToolSelect
