import ToolSelect.Config.Json
import ToolSelect.Config.Registrations
import ToolSelect.Machine.FileTree
import ToolSelect.Proofs.History

/-!
# Configurations applied in place

A configuration can be applied to a tool chain that is changed step by step.  A
step that fails then leaves behind what the steps before it have done.  Whatever
the configuration, this comes to its registrations if it has any, and fails for
the same problem if it has none.
-/

namespace ToolSelect

/-- Actions on a tool chain, which keeps what they have changed when one of
them fails. -/
abbrev InPlace (L : Type) :=
  ExceptT ConfigProblem (StateM (ToolChain L))

variable {L : Type} {m : Type → Type}

namespace InPlace

variable {α β : Type}

def on (action : InPlace L α) (chain : ToolChain L) :
    Except ConfigProblem α × ToolChain L :=
  action.run.run chain

theorem on_bind (action : InPlace L α) (next : α → InPlace L β)
    (chain : ToolChain L) :
    (action >>= next).on chain =
      match action.on chain with
      | (.ok value, after) => (next value).on after
      | (.error problem, after) => (.error problem, after) := by
  simp only [on, ExceptT.run_bind, StateT.run_bind]
  cases action.run.run chain with
  | mk outcome after => cases outcome <;> rfl

theorem on_get_bind (next : ToolChain L → InPlace L α) (chain : ToolChain L) :
    (get >>= next).on chain = (next chain).on chain :=
  rfl

variable [Locator L m]

def register (registration : Registration) : InPlace L Unit :=
  modify (·.register registration)

/-- The action makes the registrations, in their order.  With a problem in
their place it fails for it, wherever it leaves the tool chain. -/
def Performs (action : InPlace L Unit) (chain : ToolChain L) :
    Except ConfigProblem History → Prop
  | .ok history =>
    action.on chain = (.ok (), history.foldl ToolChain.register chain)
  | .error problem => (action.on chain).1 = .error problem

theorem performs_register (registration : Registration)
    (chain : ToolChain L) :
    (register registration).Performs chain (.ok [registration]) :=
  rfl

/-- One action after another makes the registrations of both.  The second one
starts from what the first one has registered. -/
theorem Performs.andThen {first next : InPlace L Unit} {chain : ToolChain L}
    {before after : Except ConfigProblem History}
    (performed : first.Performs chain before)
    (continued : ∀ history : History,
      next.Performs (history.foldl ToolChain.register chain) after) :
    Performs (do first; next) chain (do return (← before) ++ (← after)) := by
  have opened := on_bind first (fun _ => next) chain
  cases before with
  | error problem =>
      have failed : first.on chain = (.error problem, (first.on chain).2) :=
        Prod.ext performed rfl
      rw [failed] at opened
      exact congrArg Prod.fst opened
  | ok history =>
      have done : first.on chain =
          (.ok (), history.foldl ToolChain.register chain) := performed
      rw [done] at opened
      have followed := continued history
      cases after with
      | error problem => exact (congrArg Prod.fst opened).trans followed
      | ok later =>
          refine (opened.trans followed).trans ?_
          rw [← List.foldl_append]

theorem performs_forM_register (history : History) (chain : ToolChain L) :
    (history.forM register).Performs chain (.ok history) := by
  induction history generalizing chain with
  | nil => rfl
  | cons registration history induction =>
      exact (performs_register registration chain).andThen
        fun _ => induction _

end InPlace

variable [Locator L m]

def Target.addInPlace (target : Target) : InPlace L Unit := do
  let registration ← MonadExcept.ofExcept (target.registration (← get).host)
  InPlace.register registration

namespace Config

/-- The registrations of the default executables. -/
def defaultRegistrations (config : Config) : Except ConfigProblem History := do
  let executables ← KindMap.ofTable config.executables
  return executables.entries.map fun entry =>
    .defaultExecutable entry.1 entry.2

def setDefaultsInPlace (config : Config) : InPlace L Unit := do
  let registrations ← MonadExcept.ofExcept config.defaultRegistrations
  registrations.forM InPlace.register

/-- The directories come first, then the targets one by one, and the default
executables at the end. -/
def applyInPlace (config : Config) : InPlace L Unit := do
  InPlace.register (.searchIn config.directories)
  config.targets.forM Target.addInPlace
  config.setDefaultsInPlace

def loadInPlace (text : String) : InPlace L Unit := do
  let config ← MonadExcept.ofExcept (parse text)
  config.applyInPlace

end Config

theorem ToolChain.host_foldl_register (chain : ToolChain L)
    (history : History) :
    (history.foldl register chain).host = chain.host := by
  rw [foldl_register]

namespace InPlace

theorem performs_addInPlace (target : Target) (chain : ToolChain L) :
    target.addInPlace.Performs chain
      (do return [← target.registration chain.host]) := by
  cases read : target.registration chain.host with
  | error problem =>
      show (target.addInPlace.on chain).1 = .error problem
      rw [Target.addInPlace, on_get_bind, read]
      rfl
  | ok registration =>
      show target.addInPlace.on chain = (.ok (), chain.register registration)
      rw [Target.addInPlace, on_get_bind, read]
      rfl

theorem performs_forM_addInPlace (targets : List Target)
    (chain : ToolChain L) :
    (targets.forM Target.addInPlace).Performs chain
      (targets.mapM (·.registration chain.host)) := by
  induction targets generalizing chain with
  | nil => rfl
  | cons target targets induction =>
      have rest : ∀ history : History,
          (targets.forM Target.addInPlace).Performs
            (history.foldl ToolChain.register chain)
            (targets.mapM (·.registration chain.host)) := by
        intro history
        rw [← ToolChain.host_foldl_register chain history]
        exact induction _
      have performed := (performs_addInPlace target chain).andThen rest
      -- Both sides stop at the first target whose tables cannot be read.
      rw [List.mapM_cons]
      cases first : target.registration chain.host with
      | error problem =>
          rw [first] at performed
          exact performed
      | ok registration =>
          cases others : targets.mapM (·.registration chain.host) <;>
            rw [first, others] at performed <;> exact performed

theorem performs_setDefaultsInPlace (config : Config)
    (chain : ToolChain L) :
    config.setDefaultsInPlace.Performs chain config.defaultRegistrations := by
  rw [Config.setDefaultsInPlace]
  cases config.defaultRegistrations with
  | error problem => rfl
  | ok history => exact performs_forM_register history chain

/-- A configuration makes its registrations, and fails if it has none. -/
theorem performs_applyInPlace (config : Config) (chain : ToolChain L) :
    config.applyInPlace.Performs chain (config.registrations chain.host) := by
  have rest : ∀ history : History,
      Performs (do config.targets.forM Target.addInPlace
                   config.setDefaultsInPlace)
        (history.foldl ToolChain.register chain)
        (do return (← config.targets.mapM (·.registration chain.host)) ++
          (← config.defaultRegistrations)) := by
    intro history
    rw [← ToolChain.host_foldl_register chain history]
    exact (performs_forM_addInPlace config.targets _).andThen
      fun _ => performs_setDefaultsInPlace config _
  have performed := (performs_register (.searchIn config.directories)
    chain).andThen rest
  rw [Config.defaultRegistrations] at performed
  rw [Config.registrations]
  cases targets : config.targets.mapM (·.registration chain.host) with
  | error problem =>
      rw [targets] at performed
      exact performed
  | ok registrations =>
      cases executables : KindMap.ofTable config.executables <;>
        rw [targets, executables] at performed <;> exact performed

end InPlace

namespace Config

/-- Applied in place, a configuration comes to what it comes to otherwise. -/
theorem applyInPlace_of_apply (config : Config) (chain : ToolChain L) :
    match config.apply chain with
    | .ok applied => config.applyInPlace.on chain = (.ok (), applied)
    | .error problem =>
      (config.applyInPlace.on chain).1 = .error problem := by
  have performed := InPlace.performs_applyInPlace config chain
  rw [apply]
  cases registered : config.registrations chain.host with
  | error problem =>
      rw [registered] at performed
      exact performed
  | ok history =>
      rw [registered] at performed
      exact performed

/-- A configuration that has not been checked can stop half way: it adds the
directory and the first target, and fails for the second one. -/
example :
    let config : Config :=
      ⟨"", .gcc, [⟨"/opt"⟩], .empty,
        [⟨["pi"], .empty, .empty⟩,
          ⟨["tv"], .ofList [("fortran", ["-g"])], .empty⟩]⟩
    let machine : Machine Id := FileTree.machine ⟨[], [], [], []⟩
    let left := config.applyInPlace.on (.onMachine "" .gcc machine ⟨.linux⟩)
    left.1 = .error (.unknownKind "fortran") ∧
      left.2.directories = [⟨"/opt"⟩] ∧
      left.2.strategies.map Strategy.display =
        "platforms named [pi]" :: Strategy.builtIns.map Strategy.display :=
  ⟨rfl, rfl, rfl⟩

theorem loadInPlace_of_error {text : String} {problem : ConfigProblem}
    (refused : parse text = .error problem) (chain : ToolChain L) :
    (loadInPlace text).on chain = (.error problem, chain) := by
  rw [loadInPlace, refused]
  rfl

theorem loadInPlace_of_ok {text : String} {config : Config}
    (accepted : parse text = .ok config) (chain : ToolChain L) :
    (loadInPlace text).on chain = config.applyInPlace.on chain := by
  rw [loadInPlace, accepted]
  rfl

end Config

end ToolSelect
