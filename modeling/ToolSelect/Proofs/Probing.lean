import ToolSelect.Search.Availability

/-!
# Probes of a locator whose answers are known

A locator may have effects when it is asked, and still answer by the kind and
the executable alone.  A probe of such a locator then comes to the effects of
its questions and to a result that the answers decide.
-/

namespace ToolSelect

variable {L : Type} {m : Type → Type}

/-- Asking the locator has the effect of a call, and gives the answer of a
function of the kind and the executable. -/
def Answers [Monad m] [Locator L m] (locator : L)
    (call : ToolKind → String → m Unit)
    (answer : ToolKind → String → SearchResult) : Prop :=
  ∀ kind executable,
    Locator.locate locator kind executable = do
      call kind executable
      return answer kind executable

namespace ToolSet

theorem mem_entries (set : ToolSet) (kind : ToolKind) (tool : Tool) :
    (kind, tool) ∈ set.entries ↔ set.get kind = some tool := by
  simp [entries, KindMap.entries_eq, get]

def anyFound (set : ToolSet) (answer : ToolKind → String → SearchResult) :
    Bool :=
  set.entries.any fun entry => (answer entry.1 entry.2.executable).isFound

theorem anyFound_eq_true_iff (set : ToolSet)
    (answer : ToolKind → String → SearchResult) :
    set.anyFound answer = true ↔
      ∃ kind tool, set.get kind = some tool ∧
        (answer kind tool.executable).isFound = true := by
  simp only [anyFound, List.any_eq_true, Prod.exists, mem_entries]

end ToolSet

namespace Availability

variable [Monad m] [LawfulMonad m] [Locator L m]

private theorem mapM_eq_forM {α β : Type} {ask : α → m β} {call : α → m Unit}
    {answer : α → β}
    (answered : ∀ item, ask item = do call item; return answer item)
    (items : List α) :
    items.mapM ask = do
      items.forM call
      return items.map answer := by
  induction items with
  | nil => simp
  | cons item items induction => simp [induction, answered]

def judged (availability : Availability) (tools : ToolSet)
    (answer : ToolKind → String → SearchResult) : Availability :=
  if tools.anyFound answer then
    availability
  else
    match tools.get .cCompiler with
    | some tool =>
      availability.mustBeFound (answer .cCompiler tool.executable)
    | none => availability.unavailable unconfiguredReason

/-- The questions of a probe, given the answers: one for every tool, and one
more for the C compiler if nothing is found. -/
def questions (tools : ToolSet) (call : ToolKind → String → m Unit)
    (answer : ToolKind → String → SearchResult) : m Unit := do
  tools.entries.forM fun entry => call entry.1 entry.2.executable
  if tools.anyFound answer then
    return ()
  else
    match tools.get .cCompiler with
    | some tool => call .cCompiler tool.executable
    | none => return ()

theorem probe_of_answers {locator : L} {call : ToolKind → String → m Unit}
    {answer : ToolKind → String → SearchResult}
    (answers : Answers locator call answer) (availability : Availability)
    (tools : ToolSet) :
    availability.probe tools locator = do
      questions tools call answer
      return availability.judged tools answer := by
  have lookups := mapM_eq_forM
    (fun entry : ToolKind × Tool => answers entry.1 entry.2.executable)
    tools.entries
  have seen : ((tools.entries.map fun entry =>
      answer entry.1 entry.2.executable).any SearchResult.isFound) =
        tools.anyFound answer := by
    rw [List.any_map]
    rfl
  rw [probe, lookups, questions, judged]
  simp only [bind_assoc, pure_bind, seen]
  cases tools.anyFound answer with
  | true => simp
  | false =>
      cases tools.get .cCompiler with
      | none => simp
      | some tool => simp [answers .cCompiler tool.executable]

/-- Where no tool is found, the C compiler is to blame: it is not found, or
there is none. -/
theorem judged_of_not_anyFound {tools : ToolSet}
    {answer : ToolKind → String → SearchResult}
    (missing : tools.anyFound answer = false) (availability : Availability) :
    ∃ reason,
      availability.judged tools answer = availability.unavailable reason ∧
        match tools.get .cCompiler with
        | some tool => answer .cCompiler tool.executable = .notFound reason
        | none => reason = unconfiguredReason := by
  rw [judged, missing, if_neg Bool.false_ne_true]
  cases compiler : tools.get .cCompiler with
  | none => exact ⟨unconfiguredReason, rfl, rfl⟩
  | some tool =>
      cases answered : answer .cCompiler tool.executable with
      | found path =>
          have found : tools.anyFound answer = true :=
            (tools.anyFound_eq_true_iff answer).mpr
              ⟨.cCompiler, tool, compiler, by rw [answered]; rfl⟩
          rw [missing] at found
          cases found
      | notFound reason =>
          exact ⟨reason, by simp [mustBeFound, SearchResult.reason?, answered],
            answered⟩

end Availability

end ToolSelect
