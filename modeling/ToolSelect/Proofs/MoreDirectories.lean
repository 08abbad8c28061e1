import ToolSelect.Proofs.InstalledFiles

/-!
# More directories to search

Directories that are added to a search path with directories of its own are
searched behind them.  What has been found before is found as before, and a
request that has been granted is granted again with the same tools.
-/

namespace ToolSelect

variable {m : Type → Type}

namespace SearchPath

theorem prefix_insertLast (directories : List Path) (directory : Path) :
    directories <+: insertLast directories directory := by
  rw [insertLast]
  split
  next => exact List.prefix_rfl
  next => exact List.prefix_append directories [directory]

theorem prefix_foldl_insertLast (directories added : List Path) :
    directories <+: added.foldl insertLast directories := by
  induction added generalizing directories with
  | nil => exact List.prefix_rfl
  | cons directory added induction =>
      exact (prefix_insertLast directories directory).trans (induction _)

section Found

variable {search : SearchPath m} {view : MachineView} {kind : ToolKind}
  {executable : String}

theorem outcome_eq_found_iff {path : Path} :
    search.outcome view kind executable = .found path ↔
      (search.candidates view executable).find? view.isFile = some path := by
  rw [outcome]
  cases (search.candidates view executable).find? view.isFile <;> simp

/-- With directories of its own, a search path looks at the same candidates
first when more directories are added. -/
theorem prefix_candidates (own : search.directories ≠ []) (added : List Path) :
    search.candidates view executable <+:
      (added.foldl addDirectory search).candidates view executable := by
  obtain ⟨more, extended⟩ := prefix_foldl_insertLast search.directories added
  have searched : search.searched view = search.directories :=
    if_neg (by simpa using own)
  have searchedMore : (added.foldl addDirectory search).searched view =
      search.directories ++ more := by
    rw [foldl_addDirectory, ← extended]
    exact if_neg (by simp [own])
  rw [candidates, candidates, searched, searchedMore, foldl_addDirectory,
    List.map_append]
  dsimp only
  split
  next => exact List.prefix_rfl
  next => exact List.prefix_append _ _

theorem outcome_of_more (own : search.directories ≠ []) {path : Path}
    (found : search.outcome view kind executable = .found path)
    (added : List Path) :
    (added.foldl addDirectory search).outcome view kind executable =
      .found path := by
  rw [outcome_eq_found_iff] at found ⊢
  exact (prefix_candidates own added).find?_eq_some found

end Found

end SearchPath

variable [Monad m]

/-- The longer search does what the shorter one does, and comes to whatever that
finds.  It goes on only where the shorter one finds nothing. -/
def Prolongs (longer shorter : m SearchResult) : Prop :=
  ∃ next : String → m SearchResult, longer = do
    match ← shorter with
    | .found path => return .found path
    | .notFound reason => next reason

theorem Prolongs.yields_found [LawfulMonad m] {longer shorter : m SearchResult}
    (prolongs : Prolongs longer shorter) {path : Path}
    (found : Yields shorter (.found path)) : Yields longer (.found path) := by
  obtain ⟨next, rfl⟩ := prolongs
  exact found.bind (.pure _)

namespace SearchPath

variable [LawfulMonad m]

/-- The first file in two lists of directories is the first one in the first
list, or else the first one in the second. -/
theorem firstFile_append (machine : Machine m) (file : String)
    (directories more : List Path) :
    firstFile machine file (directories ++ more) = (do
      match ← firstFile machine file directories with
      | some path => return some path
      | none => firstFile machine file more) := by
  induction directories with
  | nil => simp [firstFile]
  | cons directory directories induction =>
      rw [List.cons_append, firstFile, firstFile, induction, bind_assoc]
      refine bind_congr fun isFile => ?_
      cases isFile with
      | true => simp
      | false => rfl

/-- Whatever the machine answers, a search that finds the executable does not
get to the directories that were added. -/
theorem locate_prolongs {search : SearchPath m}
    (own : search.directories ≠ []) (added : List Path) (kind : ToolKind)
    (executable : String) :
    Prolongs ((added.foldl addDirectory search).locate kind executable)
      (search.locate kind executable) := by
  obtain ⟨more, extended⟩ := prefix_foldl_insertLast search.directories added
  have nonempty : ¬search.directories.isEmpty = true := by simpa using own
  have nonemptyMore : ¬(search.directories ++ more).isEmpty = true := by
    simp [own]
  let file := search.host.executableName executable
  let missing := missingReason kind executable (search.directories ++ more)
  rw [foldl_addDirectory, ← extended]
  by_cases absolute : (Path.mk file).isAbsolute = true
  · refine ⟨fun reason => pure (.notFound reason), ?_⟩
    rw [locate, locate, if_pos absolute, if_pos absolute, bind_assoc]
    refine bind_congr fun isFile => ?_
    cases isFile <;> simp
  · refine ⟨fun _ => do
      match ← firstFile search.machine file more with
      | some path => return .found path
      | none => return .notFound missing, ?_⟩
    rw [locate, locate, if_neg absolute, if_neg absolute, if_neg nonempty,
      if_neg nonemptyMore, firstFile_append, bind_assoc, bind_assoc]
    refine bind_congr fun found => ?_
    cases found with
    | some path => simp
    | none =>
        simp only [pure_bind]
        rfl

end SearchPath

namespace ToolChain

variable [LawfulMonad m] {chain : ToolChain (SearchPath m)}
  {view : MachineView}

theorem select_more_directories (shows : chain.locator.machine.Shows view)
    (own : chain.locator.directories ≠ []) (added : List Path)
    (platform : Platform) :
    ∃ before after : ToolProvider,
      Yields (chain.select platform) before ∧
      Yields ((chain.searchIn added).select platform) after ∧
      (before.isAvailable = true → after = before) := by
  let longer := added.foldl SearchPath.addDirectory chain.locator
  have longerShows : (chain.searchIn added).locator.machine.Shows view := by
    show longer.machine.Shows view
    rw [show longer = _ from SearchPath.foldl_addDirectory chain.locator added]
    exact shows
  cases supported : chain.strategyFor? platform with
  | none =>
      have unsupported : (chain.searchIn added).strategyFor? platform = none :=
        supported
      rw [select_of_unsupported supported, select_of_unsupported unsupported]
      exact ⟨_, _, .pure _, .pure _, fun _ => rfl⟩
  | some strategy =>
      have stillSupported : (chain.searchIn added).strategyFor? platform =
          some strategy := supported
      refine ⟨_, _, select_yields_answered shows supported,
        select_yields_answered longerShows stillSupported, fun granted => ?_⟩
      rw [isAvailable_answered] at granted
      -- The tools are those of before, and each is found where it was found.
      have found : ∀ kind executable,
          (chain.locator.outcome view kind executable).isFound = true →
            (longer.outcome view kind executable).isFound = true := by
        intro kind executable foundBefore
        cases outcome : chain.locator.outcome view kind executable with
        | notFound reason =>
            rw [outcome] at foundBefore
            cases foundBefore
        | found path =>
            rw [show longer.outcome view kind executable = .found path from
              SearchPath.outcome_of_more own outcome added]
            rfl
      have stillGranted := ToolSet.anyFound_mono found granted
      rw [answered_of_anyFound granted]
      exact answered_of_anyFound stillGranted ..

end ToolChain

namespace SearchPath

variable [LawfulMonad m]

/-- Directories that are added to a search path with directories of its own
change nothing about a search that has succeeded: it is not even continued, and
it finds the same file.  A request that has been granted is granted with the
same tools. -/
theorem locate_more_directories {search : SearchPath m}
    (own : search.directories ≠ []) (added : List Path) :
    let longer := added.foldl addDirectory search
    (∀ kind executable,
      Prolongs (longer.locate kind executable)
        (search.locate kind executable)) ∧
    (∀ kind executable path,
      Yields (search.locate kind executable) (.found path) →
        Yields (longer.locate kind executable) (.found path)) ∧
    ∀ view, search.machine.Shows view →
      ∀ chain : ToolChain (SearchPath m), chain.locator = search →
        ∀ platform, ∃ before after : ToolProvider,
          Yields (chain.select platform) before ∧
          Yields ((chain.searchIn added).select platform) after ∧
          (before.isAvailable = true → after = before) := by
  intro longer
  refine ⟨locate_prolongs own added, ?_, ?_⟩
  · intro kind executable path found
    exact (locate_prolongs own added kind executable).yields_found found
  · rintro view shows chain rfl platform
    exact chain.select_more_directories shows own added platform

/-- A compiler in a directory that is added does not replace the one that has
been found, nor does another spelling of its own directory. -/
theorem locate_more_directories_shadowed :
    let machine : Machine Id :=
      ⟨fun _ => some "/a", fun path => .error (.ofFile path ""),
        fun path => decide (path ∈ [⟨"/a/gcc"⟩, ⟨"/b/gcc"⟩, ⟨"/a/as"⟩]),
        fun _ => false, none⟩
    let search := (ofMachine machine ⟨.linux⟩).addDirectory ⟨"/b"⟩
    let added : List Path := [⟨"/a"⟩, ⟨"/b/"⟩]
    let chain := ToolChain.new "native" .gcc ⟨.linux⟩ search
    let platform : Platform := ⟨"host", .linux, .amd64⟩
    (added.foldl addDirectory search).directories = [⟨"/b"⟩, ⟨"/a"⟩] ∧
      Id.run ((added.foldl addDirectory search).locate .cCompiler "gcc") =
        .found ⟨"/b/gcc"⟩ ∧
      (Id.run (chain.select platform)).isAvailable = true ∧
      Id.run ((chain.searchIn added).select platform) =
        Id.run (chain.select platform) := by
  intro machine search added chain platform
  obtain ⟨-, located, selected⟩ :=
    locate_more_directories (show search.directories ≠ [] by decide) added
  have found : Yields (search.locate .cCompiler "gcc") (.found ⟨"/b/gcc"⟩) :=
    ⟨pure (), show Id.run _ = SearchResult.found _ by decide⟩
  obtain ⟨_, stillFound⟩ := located .cCompiler "gcc" ⟨"/b/gcc"⟩ found
  obtain ⟨before, after, ⟨_, given⟩, ⟨_, stillGiven⟩, kept⟩ :=
    selected machine.view machine.shows_view chain rfl platform
  have granted : (Id.run (chain.select platform)).isAvailable = true := by
    decide
  have same : Id.run (chain.select platform) = before := given
  have sameAfter : Id.run ((chain.searchIn added).select platform) = after :=
    stillGiven
  rw [same] at granted
  rw [same, sameAfter]
  exact ⟨by decide, stillFound, granted, kept granted⟩

end SearchPath

end ToolSelect
