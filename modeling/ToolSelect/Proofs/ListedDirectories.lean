import ToolSelect.Machine.FileTree
import ToolSelect.Proofs.Paths
import ToolSelect.Proofs.Searching

/-!
# Directories added and directories listed

Directories can be added to a search path one by one, or listed in the
machine's path variable.  Added ones are kept only in their first spelling and
listed ones all, but a search finds the same file in both.
-/

namespace ToolSelect

theorem SearchResult.found_or_notFound_of_path? {left right : SearchResult}
    (same : left.path? = right.path?) :
    (∃ path, left = .found path ∧ right = .found path) ∨
      ∃ leftReason rightReason,
        left = .notFound leftReason ∧ right = .notFound rightReason := by
  cases left with
  | found path =>
      cases right with
      | found other =>
          cases same
          exact .inl ⟨path, rfl, rfl⟩
      | notFound reason => cases same
  | notFound leftReason =>
      cases right with
      | found path => cases same
      | notFound rightReason =>
          exact .inr ⟨leftReason, rightReason, rfl, rfl⟩

namespace SearchPath

variable {m : Type → Type}

private theorem find?_insertLast {test : Path → Bool}
    (steady : ∀ left right, Path.Same left right → test left = test right)
    (directories : List Path) (directory : Path) :
    (insertLast directories directory).find? test =
      (directories ++ [directory]).find? test := by
  rw [insertLast]
  split
  next known =>
    obtain ⟨earlier, member, same⟩ := List.any_eq_true.mp known
    have agree := steady earlier directory (of_decide_eq_true same)
    rw [List.find?_append, List.find?_singleton, ← agree]
    cases found : directories.find? test with
    | some path => rfl
    | none =>
        have missed := List.find?_eq_none.mp found earlier member
        rw [if_neg missed]
        rfl
  next => rfl

theorem find?_foldl_insertLast {test : Path → Bool}
    (steady : ∀ left right, Path.Same left right → test left = test right)
    (directories more : List Path) :
    (more.foldl insertLast directories).find? test =
      (directories ++ more).find? test := by
  induction more generalizing directories with
  | nil => rw [List.foldl_nil, List.append_nil]
  | cons directory more induction =>
      rw [List.foldl_cons, induction, List.find?_append,
        find?_insertLast steady, ← List.find?_append, List.append_assoc]
      rfl

theorem foldl_addDirectory (search : SearchPath m) (more : List Path) :
    more.foldl addDirectory search =
      { search with
        directories := more.foldl insertLast search.directories } := by
  induction more generalizing search with
  | nil => rfl
  | cons directory more induction => rw [List.foldl_cons, induction]; rfl

theorem insertLast_ne_nil (directories : List Path) (directory : Path) :
    insertLast directories directory ≠ [] := by
  rw [insertLast]
  split
  next known =>
    rintro rfl
    simp at known
  next => simp

theorem foldl_insertLast_ne_nil {directories more : List Path}
    (nonempty : more ≠ []) : more.foldl insertLast directories ≠ [] := by
  obtain ⟨earlier, last, rfl⟩ :=
    (List.eq_nil_or_concat more).resolve_left nonempty
  rw [List.concat_eq_append, List.foldl_append]
  exact insertLast_ne_nil _ last

/-- The entries of a path variable are its directories, but for the empty
ones. -/
theorem listed_joinFields {host : Host} {entries : List String}
    (nonempty : entries ≠ [])
    (clean : ∀ entry ∈ entries, host.pathSeparator ∉ entry.toList) :
    listed host (String.ofList (Text.joinFields host.pathSeparator
        (entries.map String.toList))) =
      (entries.filter (· ≠ "")).map Path.mk := by
  have cut : Text.fields host.pathSeparator (Text.joinFields
      host.pathSeparator (entries.map String.toList)) =
        entries.map String.toList := by
    refine Text.fields_joinFields (by simpa using nonempty) ?_
    intro entry member
    obtain ⟨text, given, rfl⟩ := List.mem_map.mp member
    exact clean text given
  rw [listed, String.toList_ofList, cut, List.filter_map, List.map_map]
  have kept : ((fun entry : List Char => !entry.isEmpty) ∘ String.toList) =
      fun entry => decide (entry ≠ "") := by
    funext entry
    by_cases empty : entry = ""
    · subst empty
      rfl
    · simp [empty]
  have spelled : ((fun entry : List Char => (⟨String.ofList entry⟩ : Path)) ∘
      String.toList) = Path.mk := by
    funext entry
    exact congrArg Path.mk String.ofList_toList
  rw [kept, spelled]

variable [Monad m] [LawfulMonad m]

/-- A search finds an executable in directories that were added one by one at
the same path as in a path variable that lists them, with empty entries or
without, and it finds it in neither or in both. -/
theorem locate_added_or_listed {machine : Machine m} {view : MachineView}
    (shows : machine.Shows view)
    (steady : ∀ left right, Path.Same left right →
      view.isPresent left = view.isPresent right ∧
        view.isDirectory left = view.isDirectory right)
    {host : Host} {names entries : List String} (nonempty : names ≠ [])
    (clean : ∀ name ∈ names,
      name ≠ "" ∧ host.pathSeparator ∉ name.toList)
    (given : entries.filter (· ≠ "") = names)
    (joined : view.pathVariable = some (String.ofList
      (Text.joinFields host.pathSeparator (entries.map String.toList))))
    (kind : ToolKind) (executable : String) :
    ∃ added listed : SearchResult,
      Yields ((names.foldl (fun search name => search.addDirectory ⟨name⟩)
        (ofMachine machine host)).locate kind executable) added ∧
      Yields ((ofMachine machine host).locate kind executable) listed ∧
      ((∃ path, added = .found path ∧ listed = .found path) ∨
        ∃ addedReason listedReason,
          added = .notFound addedReason ∧
            listed = .notFound listedReason) := by
  have folded : names.foldl (fun search name => search.addDirectory ⟨name⟩)
      (ofMachine machine host) =
        ⟨machine, host, (names.map Path.mk).foldl insertLast []⟩ := by
    rw [← List.foldl_map, foldl_addDirectory]
    rfl
  have some : entries ≠ [] := by
    rintro rfl
    exact nonempty given.symm
  have cleanEntries : ∀ entry ∈ entries,
      host.pathSeparator ∉ entry.toList := by
    intro entry member
    by_cases empty : entry = ""
    · simp [empty]
    · have kept : entry ∈ entries.filter (· ≠ "") :=
        List.mem_filter.mpr ⟨member, decide_eq_true empty⟩
      rw [given] at kept
      exact (clean entry kept).2
  let added : SearchPath m :=
    ⟨machine, host, (names.map Path.mk).foldl insertLast []⟩
  have searchedAdded : added.searched view = added.directories := by
    have kept : added.directories ≠ [] :=
      foldl_insertLast_ne_nil (by simpa using nonempty)
    exact if_neg (by simpa using kept)
  have searchedListed : (ofMachine machine host).searched view =
      names.map Path.mk := by
    rw [← given, ← listed_joinFields some cleanEntries]
    simp [searched, ofMachine, joined]
  -- Only other spellings of earlier directories are left out on the one side,
  -- and these lead to the same files.
  have found : ∀ file : String,
      ((added.searched view).map (·.join file)).find? view.isFile =
        (((ofMachine machine host).searched view).map (·.join file)).find?
          view.isFile := by
    intro file
    rw [searchedAdded, searchedListed, List.find?_map, List.find?_map,
      find?_foldl_insertLast]
    · rfl
    · intro left right same
      obtain ⟨present, directory⟩ := steady _ _ (same.join file)
      simp only [Function.comp, MachineView.isFile, present, directory]
  rw [folded]
  refine ⟨_, _, locate_yields shows kind executable,
    locate_yields shows kind executable, ?_⟩
  apply SearchResult.found_or_notFound_of_path?
  rw [path?_outcome, path?_outcome]
  let file := host.executableName executable
  change (if (Path.mk file).isAbsolute then _ else _ : List Path).find? _ =
    (if (Path.mk file).isAbsolute then _ else _ : List Path).find? _
  split
  next => rfl
  next => exact found file

/-- Two spellings of a directory are listed between empty entries, and only the
first one is kept when they are added. -/
theorem locate_added_or_listed_respelled :
    let machine : Machine Id :=
      ⟨fun _ => some "::/opt:/opt/./:", fun path => .error (.ofFile path ""),
        fun path => decide (path.Same ⟨"//opt/as"⟩), fun _ => false, none⟩
    let added := ((ofMachine machine ⟨.linux⟩).addDirectory ⟨"/opt"⟩)
      |>.addDirectory ⟨"/opt/./"⟩
    added.directories = [⟨"/opt"⟩] ∧
      Id.run (added.locate .assembler "as") = .found ⟨"/opt/as"⟩ ∧
      Id.run ((ofMachine machine ⟨.linux⟩).locate .assembler "as") =
        .found ⟨"/opt/as"⟩ := by
  intro machine added
  have steady : ∀ left right, Path.Same left right →
      machine.view.isPresent left = machine.view.isPresent right ∧
        machine.view.isDirectory left = machine.view.isDirectory right := by
    intro left right same
    have components : left.components = right.components := same
    refine ⟨decide_eq_decide.mpr ?_, rfl⟩
    rw [Path.Same, Path.Same, components]
  have listed : Id.run ((ofMachine machine ⟨.linux⟩).locate .assembler "as") =
      .found ⟨"/opt/as"⟩ := by
    decide
  obtain ⟨viaAdded, viaListed, ⟨_, givenAdded⟩, ⟨_, givenListed⟩, alike⟩ :=
    @locate_added_or_listed Id _ _ machine machine.view machine.shows_view
      steady ⟨.linux⟩ ["/opt", "/opt/./"] ["", "", "/opt", "/opt/./", ""]
      (by decide) (by decide) (by decide) (by decide) .assembler "as"
  have same : viaListed = .found ⟨"/opt/as"⟩ := by
    rw [← listed, givenListed]
    rfl
  refine ⟨by decide, ?_, listed⟩
  rcases alike with ⟨path, rfl, found⟩ | ⟨_, _, -, missing⟩
  · rw [found] at same
    cases same
    exact givenAdded
  · rw [missing] at same
    cases same

end SearchPath

end ToolSelect
