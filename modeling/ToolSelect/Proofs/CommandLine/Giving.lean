import ToolSelect.CommandLine.Parse

/-!
# Giving options

What an option changes that is given on one side of a command's name, and what
follows for options that are given one after the other.  No option depends on a
platform, and one that may be given only once depends on earlier ones of its own
kind alone.
-/

namespace ToolSelect

/-- The directories among options with their values, in order. -/
def directoriesOf (options : List (Setting × String)) : List Path :=
  options.filterMap fun
    | (.directory, value) => some ⟨value⟩
    | _ => none

namespace Given

/-- What giving an option changes, where the option can be given. -/
inductive Gives (given : Given) (value : String) : Setting → Given → Prop
  | config : value ≠ "" → given.config = none →
      Gives given value .config { given with config := some ⟨value⟩ }
  | directory : value ≠ "" → Gives given value .directory
      { given with directories := given.directories ++ [⟨value⟩] }
  | family {family : Family} : Family.ofName? value = some family →
      given.family = none →
      Gives given value .family { given with family := some family }
  | system {system : OperatingSystem} :
      OperatingSystem.ofName? value = some system → given.system = none →
      Gives given value .system { given with system := some system }
  | architecture : given.architecture = none →
      Gives given value .architecture
        { given with architecture := some (.ofName value) }

/-- The options are given one after the other. -/
inductive GivesAll : Given → List (Setting × String) → Given → Prop
  | nothing (given : Given) : GivesAll given [] given
  | more {given next after : Given} {setting : Setting} {value : String}
      {options : List (Setting × String)} :
      given.Gives value setting next → GivesAll next options after →
      GivesAll given ((setting, value) :: options) after

/-- What has been given behind a command's name, and for the rest what has been
given before it. -/
def following (given before : Given) : Given where
  config := given.config.or before.config
  family := given.family.or before.family
  directories := before.directories ++ given.directories
  system := given.system.or before.system
  architecture := given.architecture.or before.architecture
  platform := given.platform.or before.platform

theorem nothing_following (before : Given) :
    nothing.following before = before := by
  simp [following, nothing]

theorem isTaken_nothing (setting : Setting) :
    nothing.isTaken setting = false := by
  cases setting <;> rfl

theorem checkEnvironment_none (given : Given) :
    given.checkEnvironment none = .ok () := by
  unfold checkEnvironment
  cases given.config <;> rfl

theorem checkEnvironment_of_ne (given : Given) {environment : Option String}
    (nonempty : environment ≠ some "") :
    given.checkEnvironment environment = .ok () := by
  cases environment with
  | none => exact given.checkEnvironment_none
  | some file =>
      have full : ¬file.isEmpty = true := by
        simpa using nonempty
      have read : given.set .config file =
          .ok { given with config := some ⟨file⟩ } := if_neg full
      unfold checkEnvironment
      cases given.config with
      | none =>
          dsimp only
          rw [read]
          rfl
      | some path => rfl

section One

variable {given after : Given} {setting : Setting} {value : String}

theorem gives_of_settle
    (settled : given.settle (some ⟨setting, some value⟩) = .ok after) :
    given.Gives value setting after := by
  rw [settle] at settled
  split at settled
  next => cases settled
  next free =>
    cases setting with
    | config =>
        simp only [set] at settled
        split at settled
        next => cases settled
        next full =>
          cases settled
          exact .config (by simpa using full) (by simpa [isTaken] using free)
    | directory =>
        simp only [set] at settled
        split at settled
        next => cases settled
        next full =>
          cases settled
          exact .directory (by simpa using full)
    | family =>
        simp only [set] at settled
        split at settled
        next known =>
          cases settled
          exact .family known (by simpa [isTaken] using free)
        next => cases settled
    | system =>
        simp only [set] at settled
        split at settled
        next known =>
          cases settled
          exact .system known (by simpa [isTaken] using free)
        next => cases settled
    | architecture =>
        cases settled
        exact .architecture (by simpa [isTaken] using free)

theorem settle_eq_ok_iff :
    given.settle (some ⟨setting, some value⟩) = .ok after ↔
      given.Gives value setting after := by
  constructor
  · exact gives_of_settle
  · intro gives
    cases gives with
    | config nonempty free => simp [settle, set, isTaken, nonempty, free]
    | directory nonempty => simp [settle, set, isTaken, nonempty]
    | family known free => simp [settle, set, isTaken, known, free]
    | system known free => simp [settle, set, isTaken, known, free]
    | architecture free => simp [settle, set, isTaken, free]

namespace Gives

theorem platform_eq (gives : given.Gives value setting after) :
    after.platform = given.platform := by
  cases gives <;> rfl

theorem setPlatform (gives : given.Gives value setting after)
    (platform : Option String) :
    Gives { given with platform := platform } value setting
      { after with platform := platform } := by
  cases gives with
  | config nonempty free => exact .config nonempty free
  | directory nonempty => exact .directory nonempty
  | family known free => exact .family known free
  | system known free => exact .system known free
  | architecture free => exact .architecture free

theorem isTaken_iff {other : Setting} (gives : given.Gives value setting after) :
    after.isTaken other = true ↔
      given.isTaken other = true ∨ (other = setting ∧ other ≠ .directory) := by
  cases gives <;> cases other <;> simp_all [Given.isTaken]

theorem directories_eq (gives : given.Gives value setting after) :
    after.directories =
      given.directories ++ directoriesOf [(setting, value)] := by
  cases gives <;> simp [directoriesOf]

theorem following {before : Given} (gives : given.Gives value setting after)
    (untaken : before.isTaken setting = false) :
    (given.following before).Gives value setting (after.following before) := by
  cases gives with
  | config nonempty free =>
      apply Gives.config nonempty
      simpa [Given.following, free, Given.isTaken] using untaken
  | directory nonempty =>
      have further : (given.following before).Gives value .directory _ :=
        .directory nonempty
      simpa [Given.following] using further
  | family known free =>
      apply Gives.family known
      simpa [Given.following, free, Given.isTaken] using untaken
  | system known free =>
      apply Gives.system known
      simpa [Given.following, free, Given.isTaken] using untaken
  | architecture free =>
      apply Gives.architecture
      simpa [Given.following, free, Given.isTaken] using untaken

end Gives

theorem exists_givesAll_cons {options : List (Setting × String)}
    {property : Given → Prop} :
    (∃ after, given.GivesAll ((setting, value) :: options) after ∧
        property after) ↔
      ∃ next, given.Gives value setting next ∧
        ∃ after, next.GivesAll options after ∧ property after := by
  constructor
  · rintro ⟨after, _ | ⟨first, rest⟩, holds⟩
    exact ⟨_, first, after, rest, holds⟩
  · rintro ⟨next, first, after, rest, holds⟩
    exact ⟨after, .more first rest, holds⟩

end One

namespace GivesAll

variable {given after : Given} {options : List (Setting × String)}

theorem platform_eq (gives : given.GivesAll options after) :
    after.platform = given.platform := by
  induction gives with
  | nothing => rfl
  | more first _ induction => rw [induction, first.platform_eq]

theorem setPlatform (gives : given.GivesAll options after)
    (platform : Option String) :
    GivesAll { given with platform := platform } options
      { after with platform := platform } := by
  induction gives with
  | nothing => exact .nothing _
  | more first _ induction => exact .more (first.setPlatform platform) induction

theorem isTaken_iff {other : Setting} (gives : given.GivesAll options after) :
    after.isTaken other = true ↔
      given.isTaken other = true ∨
        (other ∈ options.map Prod.fst ∧ other ≠ .directory) := by
  induction gives with
  | nothing => simp
  | more first _ induction =>
      rw [induction, first.isTaken_iff, or_assoc, ← or_and_right,
        List.map_cons, List.mem_cons]

theorem append {next : Given} {others : List (Setting × String)}
    (gives : given.GivesAll options next) (more : next.GivesAll others after) :
    given.GivesAll (options ++ others) after := by
  induction gives with
  | nothing => exact more
  | more first _ induction => exact .more first (induction more)

theorem directories_eq (gives : given.GivesAll options after) :
    after.directories = given.directories ++ directoriesOf options := by
  induction gives with
  | nothing => exact (List.append_nil _).symm
  | more first _ induction =>
      rw [induction, first.directories_eq, List.append_assoc, directoriesOf,
        directoriesOf, ← List.filterMap_append]
      rfl

theorem following {before : Given} (gives : given.GivesAll options after)
    (untaken : ∀ option ∈ options, before.isTaken option.1 = false) :
    (given.following before).GivesAll options (after.following before) := by
  induction gives with
  | nothing => exact .nothing _
  | more first _ induction =>
      obtain ⟨free, rest⟩ := List.forall_mem_cons.mp untaken
      exact .more (first.following free) (induction rest)

end GivesAll

end Given

end ToolSelect
