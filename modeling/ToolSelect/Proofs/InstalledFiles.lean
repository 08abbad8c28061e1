import ToolSelect.Proofs.ListedDirectories
import ToolSelect.Proofs.Selection

/-!
# Selections on two machines

A tool chain is asked for a platform on two machines.  What is installed on
them decides whether the request is granted, and more files never turn it
down, but the tools are those of the tool chain on both.
-/

namespace ToolSelect

namespace SearchPath

variable {m : Type → Type}

theorem isFound_outcome (search : SearchPath m) (view : MachineView)
    (kind : ToolKind) (executable : String) :
    (search.outcome view kind executable).isFound =
      (search.candidates view executable).any view.isFile := by
  rw [outcome, ← List.isSome_find?]
  cases (search.candidates view executable).find? view.isFile <;> rfl

theorem candidates_congr {search other : SearchPath m}
    {view otherView : MachineView} (sameHost : search.host = other.host)
    (sameDirectories : search.directories = other.directories)
    (sameVariable : view.pathVariable = otherView.pathVariable)
    (executable : String) :
    search.candidates view executable =
      other.candidates otherView executable := by
  rw [candidates, candidates, searched, searched, sameHost, sameDirectories,
    sameVariable]

theorem isFound_outcome_mono {search other : SearchPath m}
    {view otherView : MachineView} (sameHost : search.host = other.host)
    (sameDirectories : search.directories = other.directories)
    (sameVariable : view.pathVariable = otherView.pathVariable)
    (more : ∀ path, view.isFile path = true → otherView.isFile path = true)
    {kind : ToolKind} {executable : String}
    (found : (search.outcome view kind executable).isFound = true) :
    (other.outcome otherView kind executable).isFound = true := by
  rw [isFound_outcome, List.any_eq_true] at found ⊢
  obtain ⟨path, candidate, file⟩ := found
  rw [candidates_congr sameHost sameDirectories sameVariable] at candidate
  exact ⟨path, candidate, more path file⟩

variable [Monad m] [LawfulMonad m]

theorem answers_of_shows {search : SearchPath m} {view : MachineView}
    (shows : search.machine.Shows view) :
    ∃ call, Answers search call (search.outcome view) := by
  obtain ⟨call, replies⟩ := shows.exists_replies
  exact ⟨_, locate_of_replies replies⟩

end SearchPath

theorem ToolChain.isAvailable_answered (platform : Platform) (tools : ToolSet)
    (commandFile : Bool) (answer : ToolKind → String → SearchResult) :
    (answered platform tools commandFile answer).isAvailable =
      tools.anyFound answer := by
  cases any : tools.anyFound answer with
  | true =>
      rw [answered_of_anyFound any]
      rfl
  | false =>
      obtain ⟨reason, refused, -⟩ :=
        answered_of_not_anyFound any platform commandFile
      rw [refused]
      rfl

theorem ToolSet.anyFound_mono {tools : ToolSet}
    {answer more : ToolKind → String → SearchResult}
    (found : ∀ kind executable, (answer kind executable).isFound = true →
      (more kind executable).isFound = true)
    (any : tools.anyFound answer = true) : tools.anyFound more = true := by
  rw [anyFound_eq_true_iff] at any ⊢
  obtain ⟨kind, tool, present, foundHere⟩ := any
  exact ⟨kind, tool, present, found kind tool.executable foundHere⟩

namespace History

def searchPath {m : Type → Type} (history : History) (machine : Machine m)
    (host : Host) : SearchPath m :=
  ⟨machine, host,
    (history.flatMap Registration.directories).foldl SearchPath.insertLast []⟩

/-- The answer to a request, given what the search for each tool comes to. -/
def response (history : History) (family : Family) (host : Host)
    (platform : Platform) (answer : ToolKind → String → SearchResult) :
    ToolProvider :=
  match history.strategies.find? (·.buildsFor platform host) with
  | none => .unavailable [ToolChain.unsupportedReason platform]
  | some strategy =>
    ToolChain.answered platform (history.toolsFor family host strategy platform)
      (history.canUseCommandFile family) answer

variable {history : History} {family : Family} {host : Host}
  {platform : Platform}
  {answer otherAnswer : ToolKind → String → SearchResult}

theorem response_of_granted
    (granted :
      (history.response family host platform answer).isAvailable = true)
    (otherGranted :
      (history.response family host platform otherAnswer).isAvailable = true) :
    history.response family host platform answer =
      history.response family host platform otherAnswer := by
  rw [response] at granted otherGranted ⊢
  rw [response]
  cases supported : history.strategies.find? (·.buildsFor platform host) with
  | none => rfl
  | some strategy =>
      rw [supported] at granted otherGranted
      dsimp only at granted otherGranted ⊢
      rw [ToolChain.isAvailable_answered] at granted otherGranted
      rw [ToolChain.answered_of_anyFound granted,
        ToolChain.answered_of_anyFound otherGranted]

theorem isAvailable_response_mono
    (more : ∀ kind executable, (answer kind executable).isFound = true →
      (otherAnswer kind executable).isFound = true)
    (granted :
      (history.response family host platform answer).isAvailable = true) :
    (history.response family host platform otherAnswer).isAvailable =
      true := by
  rw [response] at granted ⊢
  cases supported : history.strategies.find? (·.buildsFor platform host) with
  | none =>
      rw [supported] at granted
      cases granted
  | some strategy =>
      rw [supported] at granted
      dsimp only at granted ⊢
      rw [ToolChain.isAvailable_answered] at granted ⊢
      exact ToolSet.anyFound_mono more granted

end History

namespace ToolChain

variable {m : Type → Type} [Monad m]

theorem locator_ofHistory_ofMachine (name : String) (family : Family)
    (host : Host) (machine : Machine m) (history : History) :
    (ofHistory name family host (SearchPath.ofMachine machine host)
      history).locator = history.searchPath machine host := by
  rw [locator_ofHistory]
  exact SearchPath.foldl_addDirectory _ _

variable [LawfulMonad m]

theorem select_yields_answered {chain : ToolChain (SearchPath m)}
    {view : MachineView} (shows : chain.locator.machine.Shows view)
    {platform : Platform} {strategy : Strategy}
    (supported : chain.strategyFor? platform = some strategy) :
    Yields (chain.select platform)
      (answered platform (chain.configuredTools strategy platform)
        chain.canUseCommandFile (chain.locator.outcome view)) := by
  obtain ⟨call, answers⟩ := SearchPath.answers_of_shows shows
  exact ⟨_, select_of_answers supported answers⟩

/-- On a machine with steady answers, a request comes to the response that the
outcomes of the searches decide. -/
theorem select_yields (name : String) (family : Family) (host : Host)
    (history : History) {machine : Machine m} {view : MachineView}
    (shows : machine.Shows view) (platform : Platform) :
    Yields ((ofHistory name family host (SearchPath.ofMachine machine host)
        history).select platform)
      (history.response family host platform
        ((history.searchPath machine host).outcome view)) := by
  have decided := strategyFor?_ofHistory name family host
    (SearchPath.ofMachine machine host) history platform
  rw [History.response]
  cases supported : history.strategies.find? (·.buildsFor platform host) with
  | none =>
      rw [supported] at decided
      rw [select_of_unsupported decided]
      exact .pure _
  | some strategy =>
      rw [supported] at decided
      have located := locator_ofHistory_ofMachine name family host machine
        history
      have locatedShows : (ofHistory name family host
          (SearchPath.ofMachine machine host)
            history).locator.machine.Shows view := by
        rw [located]
        exact shows
      have selected := select_yields_answered locatedShows decided
      rw [configuredTools_ofHistory, canUseCommandFile_ofHistory,
        located] at selected
      exact selected

/-- A request to tool chains with one history on two machines.  If it is
granted on both, then with the same tools; and if the machines list the same
directories and every file of the first is there on the second, then it is
granted on the second if it is granted on the first. -/
theorem select_on_two_machines (name : String) (family : Family) (host : Host)
    (history : History) {machine other : Machine m}
    {view otherView : MachineView} (shows : machine.Shows view)
    (otherShows : other.Shows otherView) (platform : Platform) :
    let chain := fun machine : Machine m =>
      ofHistory name family host (SearchPath.ofMachine machine host) history
    ∃ provider otherProvider : ToolProvider,
      Yields ((chain machine).select platform) provider ∧
      Yields ((chain other).select platform) otherProvider ∧
      (provider.isAvailable = true → otherProvider.isAvailable = true →
        provider = otherProvider) ∧
      (view.pathVariable = otherView.pathVariable →
        (∀ path, view.isFile path = true → otherView.isFile path = true) →
        provider.isAvailable = true →
          otherProvider.isAvailable = true ∧ provider = otherProvider) := by
  intro chain
  refine ⟨_, _, select_yields name family host history shows platform,
    select_yields name family host history otherShows platform,
    History.response_of_granted, ?_⟩
  intro sameVariable more granted
  have found : ∀ kind executable,
      ((history.searchPath machine host).outcome view kind
        executable).isFound = true →
      ((history.searchPath other host).outcome otherView kind
        executable).isFound = true :=
    fun kind executable => SearchPath.isFound_outcome_mono rfl rfl sameVariable
      more
  have otherGranted := History.isAvailable_response_mono found granted
  exact ⟨otherGranted, History.response_of_granted granted otherGranted⟩

/-- A second compiler in an earlier directory is found in place of the first,
and the tools stay as they are. -/
theorem select_on_two_machines_shadowed :
    let machine (files : List Path) : Machine Id :=
      ⟨fun _ => some "/a:/b", fun path => .error (.ofFile path ""),
        fun path => decide (path ∈ files), fun _ => false, none⟩
    let search := SearchPath.ofMachine (machine [⟨"/b/gcc"⟩]) ⟨.linux⟩
    let otherSearch :=
      SearchPath.ofMachine (machine [⟨"/a/gcc"⟩, ⟨"/b/gcc"⟩]) ⟨.linux⟩
    let history : History := [.eachPlatform fun platform tools =>
      tools.editArguments .cCompiler (· ++ [platform.name])]
    let platform : Platform := ⟨"host", .linux, .i386⟩
    let answer (search : SearchPath Id) := Id.run
      ((ofHistory "native" .gcc ⟨.linux⟩ search history).select platform)
    Id.run (search.locate .cCompiler "gcc") = .found ⟨"/b/gcc"⟩ ∧
      Id.run (otherSearch.locate .cCompiler "gcc") = .found ⟨"/a/gcc"⟩ ∧
      (answer search).isAvailable = true ∧
      answer search = answer otherSearch := by
  intro machine search otherSearch history platform answer
  obtain ⟨provider, otherProvider, ⟨_, given⟩, ⟨_, otherGiven⟩, -, kept⟩ :=
    select_on_two_machines "native" .gcc ⟨.linux⟩ history
      (Machine.shows_view (machine [⟨"/b/gcc"⟩]))
      (Machine.shows_view (machine [⟨"/a/gcc"⟩, ⟨"/b/gcc"⟩])) platform
  have more : ∀ path,
      (machine [⟨"/b/gcc"⟩]).view.isFile path = true →
        (machine [⟨"/a/gcc"⟩, ⟨"/b/gcc"⟩]).view.isFile path = true := by
    intro path file
    simp only [MachineView.isFile, Machine.view, machine, Bool.and_eq_true,
      decide_eq_true_eq, List.mem_singleton] at file ⊢
    exact ⟨by simp [file.1], file.2⟩
  have granted : (answer search).isAvailable = true := by
    decide
  have same : answer search = provider := given
  have otherSame : answer otherSearch = otherProvider := otherGiven
  rw [same] at granted ⊢
  rw [otherSame]
  exact ⟨by decide, by decide, granted, (kept rfl more granted).2⟩

end ToolChain

end ToolSelect
