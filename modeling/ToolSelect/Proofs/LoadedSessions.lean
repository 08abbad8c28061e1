import ToolSelect.Config.Session
import ToolSelect.Machine.FileTree
import ToolSelect.Proofs.Recording

/-!
# Loaded sessions

What is given on top of a configuration makes no difference to where it is
looked for, nor to whether it is found.  A machine is asked for the one file that
is wanted, or else for the user's own file; which it is, and what comes of it, is
told by a log of the machine's replies.
-/

namespace ToolSelect

/-- What a machine replied to a question. -/
inductive Reply where
  | variableValue (name : String) (value : Option String)
  | readText (path : Path) (text : Except ReadFailure String)
  | isPresent (path : Path) (present : Bool)
  | isDirectory (path : Path) (directory : Bool)
  | configDirectory (directory : Option Path)

variable {m : Type → Type} [Monad m]

namespace Machine

def logged (machine : Machine m) : Machine (StateT (List Reply) m) where
  variableValue name :=
    noted (.variableValue name) (machine.variableValue name)
  readText path := noted (.readText path) (machine.readText path)
  isPresent path := noted (.isPresent path) (machine.isPresent path)
  isDirectory path := noted (.isDirectory path) (machine.isDirectory path)
  configDirectory := noted .configDirectory machine.configDirectory

end Machine

variable [LawfulMonad m]

namespace Config

/-- The user's own file in the directory of the user's configurations. -/
def standardFile (directory : Path) : Path :=
  (directory.join "ntc").join "toolchain.json"

def ofRead (path : Path) :
    Except ReadFailure String → Except LoadProblem Config
  | .error failure => .error (.unreadable failure)
  | .ok text => (parse text).mapError (.invalid path)

theorem load_eq (machine : Machine m) (path : Path) :
    load machine path = ofRead path <$> machine.readText path := by
  rw [load, ← bind_pure_comp]
  refine bind_congr fun read => ?_
  cases read with
  | error failure => rfl
  | ok text =>
      dsimp only [ofRead]
      cases parse text <;> rfl

theorem find_requested (machine : Machine m) (path : Path) :
    find machine (some path) =
      (fun read => (ofRead path read).mapError (.requested path)) <$>
        machine.readText path := by
  rw [find, load_eq, bind_map_left, ← bind_pure_comp]
  refine bind_congr fun read => ?_
  cases ofRead path read <;> rfl

/-- Where a configuration is looked for, by the replies of a machine, and what
comes of it. -/
inductive Found : Option Path → List Reply → Except SessionProblem Config → Prop
  | requested (path : Path) (read : Except ReadFailure String) :
      Found (some path) [.readText path read]
        ((ofRead path read).mapError (.requested path))
  | homeless : Found none [.configDirectory none] (.ok .empty)
  | absent (directory : Path) :
      Found none
        [.configDirectory (some directory),
          .isPresent (standardFile directory) false]
        (.ok .empty)
  | standard (directory : Path) (read : Except ReadFailure String) :
      Found none
        [.configDirectory (some directory),
          .isPresent (standardFile directory) true,
          .readText (standardFile directory) read]
        ((ofRead (standardFile directory) read).mapError .standard)

theorem logs_load (machine : Machine m) (path : Path) :
    Logs (load machine.logged path) (load machine path)
      fun outcome replies => ∃ read, replies = [.readText path read] ∧
        outcome = ofRead path read := by
  rw [load_eq, load_eq, ← bind_pure_comp, ← bind_pure_comp]
  refine (Logs.noted (Reply.readText path) (machine.readText path)).bind ?_
  rintro read _ rfl
  exact .pure ⟨read, rfl, rfl⟩

theorem logs_load_reported (machine : Machine m) (path : Path)
    (problem : LoadProblem → SessionProblem) :
    Logs
      (do
        match ← load machine.logged path with
        | .ok config => return .ok config
        | .error cause => return .error (problem cause))
      (do
        match ← load machine path with
        | .ok config => return .ok config
        | .error cause => return .error (problem cause))
      fun outcome replies => ∃ read, replies = [.readText path read] ∧
        outcome = (ofRead path read).mapError problem := by
  refine (logs_load machine path).bind ?_
  rintro _ _ ⟨read, rfl, rfl⟩
  cases loaded : ofRead path read with
  | error cause => exact .pure ⟨read, rfl, by rw [loaded]; rfl⟩
  | ok config => exact .pure ⟨read, rfl, by rw [loaded]; rfl⟩

theorem logs_standardPath (machine : Machine m) :
    Logs (standardPath machine.logged) (standardPath machine)
      fun place replies => ∃ directory,
        replies = [.configDirectory directory] ∧
          place = directory.map standardFile := by
  refine (Logs.noted Reply.configDirectory machine.configDirectory).bind ?_
  rintro directory _ rfl
  cases directory with
  | none => exact .pure ⟨none, rfl, rfl⟩
  | some directory => exact .pure ⟨some directory, rfl, rfl⟩

/-- A machine is asked for nothing else. -/
theorem logs_find (machine : Machine m) (requested : Option Path) :
    Logs (find machine.logged requested) (find machine requested)
      fun outcome replies => Found requested replies outcome := by
  cases requested with
  | some path =>
      refine (logs_load_reported machine path (.requested path)).imp ?_
      rintro _ _ ⟨read, rfl, rfl⟩
      exact .requested path read
  | none =>
      refine (logs_standardPath machine).bind ?_
      rintro _ _ ⟨directory, rfl, rfl⟩
      cases directory with
      | none => exact .pure .homeless
      | some directory =>
          refine (Logs.noted (Reply.isPresent (standardFile directory))
            (machine.isPresent (standardFile directory))).bind ?_
          rintro present _ rfl
          cases present with
          | false => exact .pure (.absent directory)
          | true =>
              refine (logs_load_reported machine (standardFile directory)
                .standard).imp ?_
              rintro _ _ ⟨read, rfl, rfl⟩
              exact .standard directory read

end Config

namespace Session

/-- What comes of reading a file to which more is added. -/
structure FromFile (host : Host) (family : Option Family)
    (directories : List Path) (path : Path)
    (problem : LoadProblem → SessionProblem) (read : Except ReadFailure String)
    (outcome : Except SessionProblem Session) : Prop where
  unreadable : ∀ failure, read = .error failure →
    outcome = .error (problem (.unreadable failure))
  invalid : ∀ text cause, read = .ok text → Config.parse text = .error cause →
    outcome = .error (problem (.invalid path cause))
  valid : ∀ text config, read = .ok text → Config.parse text = .ok config →
    outcome = .ok ⟨host, config.override family directories⟩

/-- What is asked to load a session, and what comes of it. -/
structure Settled (host : Host) (requested : Option Path)
    (family : Option Family) (directories : List Path)
    (outcome : Except SessionProblem Session) (replies : List Reply) :
    Prop where
  wanted : ∀ path, requested = some path → ∃ read,
    replies = [.readText path read] ∧
      FromFile host family directories path (.requested path) read outcome
  searched : requested = none → ∃ directory,
    .configDirectory directory ∈ replies ∧
      ∀ known, directory = some known → ∃ present,
        .isPresent (Config.standardFile known) present ∈ replies
  /-- No file is read, and the empty configuration is used, if and only if the
  user has no directory for configurations or no file there. -/
  missing : requested = none →
    ((outcome = .ok ⟨host, Config.empty.override family directories⟩ ∧
        ∀ path read, Reply.readText path read ∉ replies) ↔
      .configDirectory none ∈ replies ∨
        ∃ directory, .configDirectory (some directory) ∈ replies ∧
          .isPresent (Config.standardFile directory) false ∈ replies)
  present : requested = none → ∀ directory,
    .configDirectory (some directory) ∈ replies →
    .isPresent (Config.standardFile directory) true ∈ replies →
    ∃ read, .readText (Config.standardFile directory) read ∈ replies ∧
      FromFile host family directories (Config.standardFile directory)
        .standard read outcome

def ofFound (host : Host) (family : Option Family) (directories : List Path) :
    Except SessionProblem Config → Except SessionProblem Session :=
  Except.map fun config => ⟨host, config.override family directories⟩

theorem load_eq_find (machine : Machine m) (host : Host)
    (requested : Option Path) (family : Option Family)
    (directories : List Path) :
    load machine host requested family directories =
      ofFound host family directories <$> Config.find machine requested := by
  rw [load, ← bind_pure_comp]
  refine bind_congr fun found => ?_
  cases found <;> rfl

theorem fromFile_ofRead (host : Host) (family : Option Family)
    (directories : List Path) (path : Path)
    (problem : LoadProblem → SessionProblem)
    (read : Except ReadFailure String) :
    FromFile host family directories path problem read
      (ofFound host family directories
        ((Config.ofRead path read).mapError problem)) where
  unreadable failure := by
    rintro rfl
    rfl
  invalid text cause := by
    rintro rfl refused
    rw [Config.ofRead, refused]
    rfl
  valid text config := by
    rintro rfl accepted
    rw [Config.ofRead, accepted]
    rfl

theorem settled_of_found {requested : Option Path} {replies : List Reply}
    {found : Except SessionProblem Config}
    (asked : Config.Found requested replies found) (host : Host)
    (family : Option Family) (directories : List Path) :
    Settled host requested family directories
      (ofFound host family directories found) replies := by
  cases asked with
  | requested path read =>
      refine ⟨?_, nofun, nofun, nofun⟩
      rintro _ ⟨⟩
      exact ⟨read, rfl, fromFile_ofRead ..⟩
  | homeless =>
      refine ⟨nofun, fun _ => ⟨none, by simp, nofun⟩, fun _ => ?_,
        fun _ _ => by simp⟩
      exact iff_of_true ⟨rfl, by simp⟩ (by simp)
  | absent directory =>
      refine ⟨nofun, fun _ => ⟨some directory, by simp, ?_⟩, fun _ => ?_,
        fun _ _ => by simp⟩
      · rintro _ ⟨⟩
        exact ⟨false, by simp⟩
      · exact iff_of_true ⟨rfl, by simp⟩ (by simp)
  | standard directory read =>
      refine ⟨nofun, fun _ => ⟨some directory, by simp, ?_⟩,
        fun _ => iff_of_false ?_ (by simp), fun _ other => ?_⟩
      · rintro _ ⟨⟩
        exact ⟨true, by simp⟩
      · rintro ⟨-, unread⟩
        exact unread (Config.standardFile directory) read (by simp)
      · intro known _
        obtain rfl : other = directory := by simpa using known
        exact ⟨read, by simp, fromFile_ofRead ..⟩

theorem logs_load (machine : Machine m) (host : Host)
    (requested : Option Path) (family : Option Family)
    (directories : List Path) :
    Logs (load machine.logged host requested family directories)
      (load machine host requested family directories)
      (Settled host requested family directories) := by
  rw [load_eq_find, load_eq_find, ← bind_pure_comp, ← bind_pure_comp]
  refine (Config.logs_find machine requested).bind ?_
  intro found replies asked
  have settled := settled_of_found asked host family directories
  rw [← List.append_nil replies] at settled
  exact .pure settled

/-- What is given on top of a configuration is added to a session that is there
without it, and changes nothing else.  Of a machine only the file that is asked
for matters, if there is one. -/
theorem load_with_overrides (machine : Machine m) (host : Host)
    (requested : Option Path) (family : Option Family)
    (directories : List Path) :
    load machine host requested family directories =
        (Except.map fun session => { session with
          config := { session.config with
            family := family.getD session.config.family
            directories := session.config.directories ++ directories } }) <$>
          load machine host requested none [] ∧
      (∀ path, requested = some path → ∀ other : Machine m,
        other.readText path = machine.readText path →
        load other host requested family directories =
          load machine host requested family directories) ∧
      Logs (load machine.logged host requested family directories)
        (load machine host requested family directories)
        (Settled host requested family directories) := by
  refine ⟨?_, ?_, logs_load machine host requested family directories⟩
  · rw [load_eq_find, load_eq_find, ← comp_map]
    congr 1
    funext found
    cases found with
    | error problem => rfl
    | ok config => simp [ofFound, Except.map, Config.override]
  · rintro path rfl other same
    rw [load_eq_find, load_eq_find, Config.find_requested,
      Config.find_requested, same]

/-- The user's own file is no configuration, which is a problem whatever is given
on top of it.  It makes no difference where another file is asked for. -/
theorem load_with_overrides_unparsable :
    let machine : Machine Id := FileTree.machine
      ⟨[([['c'], "ntc".toList, "toolchain.json".toList], "["),
        ([['o']], "\x7b\x7d")], [], [("XDG_CONFIG_HOME", "/c")], []⟩
    let without : Machine Id :=
      { machine with configDirectory := pure none, isPresent _ := pure false }
    (∃ problem,
      load machine ⟨.linux⟩ none (some .clang) [⟨"/opt"⟩] =
          pure (.error (.standard problem)) ∧
        load machine ⟨.linux⟩ none none [] =
          pure (.error (.standard problem))) ∧
      load without ⟨.linux⟩ none (some .clang) [⟨"/opt"⟩] =
        pure (.ok ⟨⟨.linux⟩, Config.empty.override (some .clang) [⟨"/opt"⟩]⟩) ∧
      load without ⟨.linux⟩ (some ⟨"/o"⟩) (some .clang) [⟨"/opt"⟩] =
        load machine ⟨.linux⟩ (some ⟨"/o"⟩) (some .clang) [⟨"/opt"⟩] := by
  intro machine without
  refine ⟨?_, ?_, ?_⟩
  · obtain ⟨extended, -, logs⟩ :=
      load_with_overrides machine ⟨.linux⟩ none (some .clang) [⟨"/opt"⟩]
    obtain ⟨replies, log, settled⟩ := (logs.adds []).of_id
    obtain rfl : replies =
        [.configDirectory (some ⟨"/c"⟩),
          .isPresent ⟨"/c/ntc/toolchain.json"⟩ true,
          .readText ⟨"/c/ntc/toolchain.json"⟩ (.ok "[")] := log.symm
    have place : Config.standardFile ⟨"/c"⟩ = ⟨"/c/ntc/toolchain.json"⟩ := by
      decide
    obtain ⟨read, given, fromFile⟩ :=
      settled.present rfl ⟨"/c"⟩ (by simp) (by simp [place])
    obtain rfl : read = .ok "[" := by simpa [place] using given
    obtain ⟨cause, refused⟩ : ∃ cause, Config.parse "[" = .error cause :=
      ⟨_, rfl⟩
    have fails : load machine ⟨.linux⟩ none (some .clang) [⟨"/opt"⟩] =
        pure (.error (.standard (.invalid (Config.standardFile ⟨"/c"⟩) cause))) :=
      fromFile.invalid "[" cause rfl refused
    refine ⟨_, fails, ?_⟩
    rw [extended] at fails
    cases plain : (load machine ⟨.linux⟩ none none []).run with
    | error problem =>
        rw [show load machine ⟨.linux⟩ none none [] = pure (.error problem)
          from plain] at fails
        cases fails
        exact plain
    | ok session =>
        rw [show load machine ⟨.linux⟩ none none [] = pure (.ok session)
          from plain] at fails
        cases fails
  · obtain ⟨-, -, logs⟩ :=
      load_with_overrides without ⟨.linux⟩ none (some .clang) [⟨"/opt"⟩]
    obtain ⟨replies, log, settled⟩ := (logs.adds []).of_id
    obtain rfl : replies = [.configDirectory none] := log.symm
    exact ((settled.missing rfl).mpr (.inl (by simp))).1
  · exact (load_with_overrides machine ⟨.linux⟩ (some ⟨"/o"⟩) (some .clang)
      [⟨"/opt"⟩]).2.1 _ rfl without rfl

end Session

end ToolSelect
