import ToolSelect.Proofs.Paths
import ToolSelect.Search.SearchPath

/-!
# File names of executables

Windows runs files with certain extensions, so a name without any of these gets
one.  A name that has been given one is not given another, and a search finds
the same file under the name and under that of its file.
-/

namespace ToolSelect

namespace Text

/-- What is put behind a text goes to its last field, if no separator is put
there.  This field is empty only where the text ends. -/
theorem exists_last_field (separator : Char) (text : List Char) :
    ∃ others field,
      (field = [] → text = [] ∨ text.getLast? = some separator) ∧
      ∀ more, separator ∉ more →
        fields separator (text ++ more) = others ++ [field ++ more] := by
  induction text with
  | nil =>
      refine ⟨[], [], fun _ => .inl rfl, fun more clean => ?_⟩
      exact fields_of_not_mem clean
  | cons c text induction =>
      obtain ⟨others, field, ending, cut⟩ := induction
      by_cases same : c = separator
      · subst same
        refine ⟨[] :: others, field, fun empty => ?_, fun more clean => ?_⟩
        · right
          rcases ending empty with rfl | last
          · rfl
          · rw [List.getLast?_cons, last]
            rfl
        · rw [List.cons_append, fields, if_pos rfl, cut more clean]
          rfl
      · cases others with
        | nil =>
            refine ⟨[], c :: field,
              fun empty => absurd empty (List.cons_ne_nil c field),
              fun more clean => ?_⟩
            rw [List.cons_append, fields, if_neg same, cut more clean]
            rfl
        | cons first others =>
            refine ⟨(c :: first) :: others, field, fun empty => ?_,
              fun more clean => ?_⟩
            · right
              rcases ending empty with rfl | last
              · -- A text without characters has no more than one field.
                have whole := cut [] List.not_mem_nil
                simp [fields] at whole
              · rw [List.getLast?_cons, last]
                rfl
            · rw [List.cons_append, fields, if_neg same, cut more clean]
              rfl

end Text

namespace Path

theorem extensionOf?_append {name extension : List Char} (nonempty : name ≠ [])
    (undotted : '.' ∉ extension) :
    extensionOf? (name ++ '.' :: extension) = some extension := by
  have reversed : (name ++ '.' :: extension).reverse =
      extension.reverse ++ '.' :: name.reverse := by
    simp
  have kept : ∀ c ∈ extension.reverse, (c != '.') = true := by
    intro c member
    have other : c ≠ '.' :=
      ne_of_mem_of_not_mem (List.mem_reverse.mp member) undotted
    simpa using other
  have behind : (extension.reverse ++ '.' :: name.reverse).takeWhile
      (· != '.') = extension.reverse := by
    rw [List.takeWhile_append_of_pos kept]
    exact List.append_nil _
  rw [extensionOf?, reversed, behind]
  simp [List.drop_append, nonempty]

theorem getLast?_components {path : Path} {others : List (List Char)}
    {field : List Char} {component : Component}
    (cut : Text.fields '/' path.text.toList = others ++ [field])
    (read : componentOf? field = some component) :
    path.components.getLast? = some component := by
  simp only [components, componentsOf]
  rw [cut, List.filterMap_append, ← List.append_assoc]
  simp [read]

/-- An extension may be put behind every name but one that ends with a slash. -/
theorem extension?_append {name ending : String} {extension : List Char}
    (nonempty : name ≠ "") (unended : name.toList.getLast? ≠ some '/')
    (dotted : ending.toList = '.' :: extension) (some : extension ≠ [])
    (undotted : '.' ∉ extension) (whole : '/' ∉ extension) :
    (Path.mk (name ++ ending)).extension? = .some extension := by
  obtain ⟨others, field, ends, cut⟩ :=
    Text.exists_last_field '/' name.toList
  have full : field ≠ [] := by
    intro empty
    rcases ends empty with none | last
    · exact nonempty (String.toList_eq_nil_iff.mp none)
    · exact unended last
  have clean : '/' ∉ ending.toList := by
    rw [dotted]
    exact List.not_mem_cons_of_ne_of_not_mem (by decide) whole
  have fields : Text.fields '/' (name ++ ending).toList =
      others ++ [field ++ ending.toList] := by
    rw [String.toList_append]
    exact cut _ clean
  -- With a dot and an extension, a field is longer than the dots that mean
  -- something else.
  have long : 2 < (field ++ ending.toList).length := by
    have first := List.length_pos_iff.mpr full
    have last := List.length_pos_iff.mpr some
    rw [List.length_append, dotted, List.length_cons]
    omega
  have read : componentOf? (field ++ ending.toList) =
      .some (.named (field ++ ending.toList)) := by
    rw [componentOf?, if_neg, if_neg]
    · intro same
      rw [same] at long
      exact absurd long (by decide)
    · rintro (same | same) <;>
      · rw [same] at long
        exact absurd long (by decide)
  rw [extension?, getLast?_components fields read, dotted]
  exact extensionOf?_append full undotted

end Path

namespace Host

theorem isRunnable_eq_true_iff {name : String} :
    isRunnable name = true ↔
      ∃ extension, (Path.mk name).extension? = some extension ∧
        ∃ known ∈ runnableExtensions,
          Text.asciiLower extension = known.toList := by
  have small : ∀ known ∈ runnableExtensions,
      Text.asciiLower known.toList = known.toList := by
    decide
  rw [isRunnable]
  cases (Path.mk name).extension? with
  | none => simp
  | some extension =>
      simp only [List.any_eq_true, Text.sameAsciiFold_eq_true_iff,
        Option.some.injEq, exists_eq_left']
      refine exists_congr fun known => and_congr_right fun member => ?_
      rw [small known member, eq_comm]

/-- With the extension that is given to names, a name can be run. -/
theorem isRunnable_append {name : String} (nonempty : name ≠ "")
    (unended : name.toList.getLast? ≠ some '/') :
    isRunnable (name ++ ".exe") = true := by
  have extension : (Path.mk (name ++ ".exe")).extension? =
      some ['e', 'x', 'e'] :=
    Path.extension?_append nonempty unended rfl (by decide) (by decide)
      (by decide)
  exact isRunnable_eq_true_iff.mpr ⟨_, extension, "exe", by decide, by decide⟩

section Names

variable {host : Host} {name : String}

theorem executableName_of_runnable (runnable : isRunnable name = true) :
    host.executableName name = name := by
  simp [executableName, runnable]

theorem executableName_of_unrunnable
    (windows : host.operatingSystem = .windows)
    (unrunnable : isRunnable name = false) :
    host.executableName name = name ++ ".exe" := by
  simp [executableName, OperatingSystem.isWindows, windows, unrunnable]

theorem executableName_of_ne_windows
    (other : host.operatingSystem ≠ .windows) :
    host.executableName name = name := by
  simp [executableName, OperatingSystem.isWindows, other]

/-- On Windows a name stands for a file that can be run, and it is changed only
if it has to be. -/
theorem executableName_cases (windows : host.operatingSystem = .windows)
    (nonempty : name ≠ "") (unended : name.toList.getLast? ≠ some '/') :
    isRunnable (host.executableName name) = true ∧
      (host.executableName name = name ∨
        host.executableName name = name ++ ".exe") := by
  cases runnable : isRunnable name with
  | true =>
      rw [executableName_of_runnable runnable]
      exact ⟨runnable, .inl rfl⟩
  | false =>
      rw [executableName_of_unrunnable windows runnable]
      exact ⟨isRunnable_append nonempty unended, .inr rfl⟩

theorem executableName_idem (nonempty : name ≠ "")
    (unended : name.toList.getLast? ≠ some '/') :
    host.executableName (host.executableName name) =
      host.executableName name := by
  by_cases windows : host.operatingSystem = .windows
  · exact executableName_of_runnable
      (executableName_cases windows nonempty unended).1
  · exact executableName_of_ne_windows windows

end Names

end Host

/-- A search looks for the file that a name stands for.  Only the reason why it
is not found tells the name. -/
theorem SearchPath.path?_locate_congr {m : Type → Type} [Monad m]
    [LawfulMonad m] {search : SearchPath m} {name other : String}
    (same : search.host.executableName name =
      search.host.executableName other) (kind : ToolKind) :
    SearchResult.path? <$> search.locate kind name =
      SearchResult.path? <$> search.locate kind other := by
  simp only [locate, same]
  split
  next => rfl
  next =>
    split
    next =>
      simp only [map_bind]
      refine bind_congr fun directories => bind_congr fun found => ?_
      cases found <;> simp [SearchResult.path?]
    next =>
      simp only [map_bind]
      refine bind_congr fun found => ?_
      cases found <;> simp [SearchResult.path?]

namespace Host

/-- The name of the file of an executable stands for itself.  On Windows it has
the extension of a file that can be run, and is the name of the executable with
no more than that extension behind it; elsewhere it is that name.  A search for
it does and finds what a search for the executable does. -/
theorem executableName_settles (host : Host) {name : String}
    (nonempty : name ≠ "") (unended : name.toList.getLast? ≠ some '/') :
    let file := host.executableName name
    host.executableName file = file ∧
    (host.operatingSystem = .windows →
      (file = name ∨ file = name ++ ".exe") ∧
      ∃ extension, (Path.mk file).extension? = some extension ∧
        ∃ known ∈ ["exe", "com", "bat", "cmd"],
          Text.asciiLower extension = known.toList) ∧
    (host.operatingSystem ≠ .windows → file = name) ∧
    ∀ {m : Type → Type} [Monad m] [LawfulMonad m] (search : SearchPath m),
      search.host = host → ∀ kind,
        SearchResult.path? <$> search.locate kind file =
          SearchResult.path? <$> search.locate kind name := by
  intro file
  have settled : host.executableName file = file :=
    executableName_idem nonempty unended
  refine ⟨settled, fun windows => ?_, executableName_of_ne_windows, ?_⟩
  · obtain ⟨runnable, spelled⟩ :=
      executableName_cases windows nonempty unended
    exact ⟨spelled, isRunnable_eq_true_iff.mp runnable⟩
  · rintro m _ _ search rfl kind
    exact SearchPath.path?_locate_congr settled kind

/-- A name whose only dot comes first has no extension, also with a dot for a
directory behind it. -/
theorem executableName_settles_hidden :
    let machine : Machine Id :=
      ⟨fun _ => none, fun path => .error (.ofFile path ""),
        fun path => decide (path = ⟨"/opt/bin/.exe/..exe"⟩), fun _ => false,
        none⟩
    let search : SearchPath Id := ⟨machine, ⟨.windows⟩, [⟨"/opt"⟩]⟩
    let file := search.host.executableName "bin/.exe/."
    file = "bin/.exe/..exe" ∧ search.host.executableName file = file ∧
      (search.locate .linker file).run.path? =
        some ⟨"/opt/bin/.exe/..exe"⟩ ∧
      (search.locate .linker "bin/.exe/.").run.path? =
        some ⟨"/opt/bin/.exe/..exe"⟩ := by
  intro machine search file
  obtain ⟨settled, -, -, located⟩ :=
    executableName_settles ⟨.windows⟩ (show "bin/.exe/." ≠ "" by decide)
      (by decide)
  have same : (search.locate .linker file).run.path? =
      (search.locate .linker "bin/.exe/.").run.path? :=
    located search rfl .linker
  have found : (search.locate .linker "bin/.exe/.").run.path? =
      some ⟨"/opt/bin/.exe/..exe"⟩ := by
    decide
  exact ⟨by decide, settled, same.trans found, found⟩

end Host

end ToolSelect
