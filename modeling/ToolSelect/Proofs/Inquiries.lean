import ToolSelect.Proofs.Recording
import ToolSelect.Search.Availability
import ToolSelect.Search.SearchPath

/-!
# What a probe asks

A locator may answer one question differently from one time to the next.  What
a probe of it asks, and the reasons that it ends with, are therefore told by a
record of the inquiries and their results.  The reasons only ever grow, so an
availability that is lost does not come back.
-/

namespace ToolSelect

/-- A search that a locator was asked for, with its result. -/
structure Inquiry where
  kind : ToolKind
  executable : String
  result : SearchResult
deriving DecidableEq, Repr

namespace Inquiry

def subject (inquiry : Inquiry) : ToolKind × String :=
  (inquiry.kind, inquiry.executable)

def isFound (inquiry : Inquiry) : Bool :=
  inquiry.result.isFound

end Inquiry

/-- A locator whose inquiries are recorded. -/
structure Recorded (L : Type) where
  locator : L

variable {L : Type} {m : Type → Type}

def Recorded.locate [Monad m] [Locator L m] (recorded : Recorded L)
    (kind : ToolKind) (executable : String) :
    StateT (List Inquiry) m SearchResult :=
  noted (⟨kind, executable, ·⟩)
    (Locator.locate recorded.locator kind executable)

instance [Monad m] [Locator L m] :
    Locator (Recorded L) (StateT (List Inquiry) m) where
  locate := Recorded.locate
  addDirectory recorded directory :=
    ⟨Locator.addDirectory recorded.locator directory⟩
  directories recorded := Locator.directories recorded.locator

variable [Monad m] [LawfulMonad m] [Locator L m]

namespace Recorded

theorem logs_locate (locator : L) (kind : ToolKind) (executable : String) :
    Logs (Locator.locate (Recorded.mk locator) kind executable)
      (Locator.locate locator kind executable : m _)
      fun result asked => asked = [⟨kind, executable, result⟩] :=
  .noted _ _

theorem logs_mapM (locator : L) (entries : List (ToolKind × Tool)) :
    Logs
      (entries.mapM fun entry =>
        Locator.locate (Recorded.mk locator) entry.1 entry.2.executable)
      (entries.mapM fun entry =>
        (Locator.locate locator entry.1 entry.2.executable : m _))
      fun results asked =>
        asked.map Inquiry.subject =
            entries.map (fun entry => (entry.1, entry.2.executable)) ∧
          results = asked.map Inquiry.result := by
  induction entries with
  | nil => exact .pure ⟨rfl, rfl⟩
  | cons entry entries induction =>
      rw [List.mapM_cons, List.mapM_cons]
      apply (logs_locate locator _ _).bind
      rintro result _ rfl
      apply induction.bind
      rintro results asked ⟨subjects, rfl⟩
      apply Logs.pure
      rw [List.append_nil, List.singleton_append, List.map_cons, List.map_cons,
        List.map_cons, subjects]
      exact ⟨rfl, rfl⟩

end Recorded

namespace Availability

/-- What a probe of the tools is answered: every tool is searched for once, in
the order of the kinds, and if none is found the C compiler once again.  The
probe fails if nothing is found at all, for the reason of the last search or
for the want of a C compiler. -/
structure Probed (tools : ToolSet) (first again : List Inquiry)
    (failures : List String) : Prop where
  searched : first.map Inquiry.subject =
    ToolKind.all.filterMap fun kind =>
      (tools.get kind).map fun tool => (kind, tool.executable)
  retried : again.map Inquiry.subject =
    if first.any Inquiry.isFound then []
    else
      match tools.get .cCompiler with
      | some tool => [(.cCompiler, tool.executable)]
      | none => []
  failed : failures =
    if first.any Inquiry.isFound then []
    else
      match tools.get .cCompiler with
      | some _ => again.filterMap (·.result.reason?)
      | none => [unconfiguredReason]

theorem reasons_mustBeFound (availability : Availability)
    (result : SearchResult) :
    (availability.mustBeFound result).reasons =
      availability.reasons ++ result.reason?.toList := by
  cases result with
  | found path => exact (List.append_nil _).symm
  | notFound reason => rfl

theorem logs_probe (availability : Availability) (tools : ToolSet)
    (locator : L) :
    Logs (availability.probe tools (Recorded.mk locator))
      (availability.probe tools locator : m _)
      fun after asked =>
        ∃ first again failures, asked = first ++ again ∧
          after.reasons = availability.reasons ++ failures ∧
          Probed tools first again failures := by
  rw [probe, probe]
  apply (Recorded.logs_mapM locator tools.entries).bind
  rintro results first ⟨subjects, rfl⟩
  have searched : first.map Inquiry.subject =
      ToolKind.all.filterMap fun kind =>
        (tools.get kind).map fun tool => (kind, tool.executable) := by
    rw [subjects, ToolSet.entries, KindMap.entries_eq, List.map_filterMap]
    simp only [Option.map_map]
    rfl
  have seen : (first.map Inquiry.result).any SearchResult.isFound =
      first.any Inquiry.isFound := List.any_map
  rw [seen]
  -- The cases are the ways in which the probe can go on.
  cases found : first.any Inquiry.isFound with
  | true =>
      apply Logs.pure
      refine ⟨first, [], [], rfl, (List.append_nil _).symm, searched, ?_, ?_⟩
      · rw [found]
        rfl
      · rw [found]
        rfl
  | false =>
      cases compiler : tools.get .cCompiler with
      | none =>
          apply Logs.pure
          refine ⟨first, [], [unconfiguredReason], rfl, rfl, searched, ?_, ?_⟩
          · rw [found, compiler]
            rfl
          · rw [found, compiler]
            rfl
      | some tool =>
          apply (Recorded.logs_locate locator _ _).bind
          rintro result _ rfl
          apply Logs.pure
          refine ⟨first, [⟨.cCompiler, tool.executable, result⟩],
            result.reason?.toList, rfl, reasons_mustBeFound .., searched, ?_, ?_⟩
          · rw [found, compiler]
            rfl
          · rw [found, compiler]
            cases result <;> rfl

theorem Probed.length_failures {tools : ToolSet} {first again : List Inquiry}
    {failures : List String} (probed : Probed tools first again failures) :
    failures.length =
      if (first ++ again).any Inquiry.isFound then 0 else 1 := by
  obtain ⟨-, retried, failed⟩ := probed
  rw [failed, List.any_append]
  cases found : first.any Inquiry.isFound with
  | true => rfl
  | false =>
      rw [found] at retried
      cases compiler : tools.get .cCompiler with
      | none =>
          rw [compiler] at retried
          rw [List.map_eq_nil_iff.mp retried]
          rfl
      | some tool =>
          rw [compiler] at retried
          obtain ⟨inquiry, rfl, -⟩ := List.map_eq_singleton_iff.mp retried
          cases inquiry with
          | mk kind executable result => cases result <;> rfl

/-- A step in the search for reasons against a tool chain. -/
inductive Step (L : Type) where
  | unavailable (reason : String)
  | mustBeFound (result : SearchResult)
  | probe (tools : ToolSet) (locator : L)

namespace Step

def recorded : Step L → Step (Recorded L)
  | .unavailable reason => .unavailable reason
  | .mustBeFound result => .mustBeFound result
  | .probe tools locator => .probe tools ⟨locator⟩

/-- The failures that a step comes upon, given what it asks. -/
def Meets : Step L → List Inquiry → List String → Prop
  | .unavailable reason, asked, failures =>
    asked = [] ∧ failures = [reason]
  | .mustBeFound result, asked, failures =>
    asked = [] ∧ failures = result.reason?.toList
  | .probe tools _, asked, failures =>
    ∃ first again, asked = first ++ again ∧ Probed tools first again failures

end Step

/-- The failures that steps come upon one after the other, given what they
ask. -/
inductive Course : List (Step L) → List Inquiry → List String → Prop where
  | nil : Course [] [] []
  | cons {step : Step L} {steps : List (Step L)} {asked more : List Inquiry}
      {failures later : List String} :
      step.Meets asked failures →
      Course steps more later →
      Course (step :: steps) (asked ++ more) (failures ++ later)

def take (availability : Availability) : Step L → m Availability
  | .unavailable reason => return availability.unavailable reason
  | .mustBeFound result => return availability.mustBeFound result
  | .probe tools locator => availability.probe tools locator

theorem logs_take (availability : Availability) (step : Step L) :
    Logs (availability.take step.recorded) (availability.take step : m _)
      fun after asked =>
        ∃ failures, after.reasons = availability.reasons ++ failures ∧
          step.Meets asked failures := by
  cases step with
  | unavailable reason => exact .pure ⟨[reason], rfl, rfl, rfl⟩
  | mustBeFound result =>
      exact .pure ⟨_, reasons_mustBeFound availability result, rfl, rfl⟩
  | probe tools locator =>
      apply (logs_probe availability tools locator).imp
      rintro after asked ⟨first, again, failures, same, reasons, probed⟩
      exact ⟨failures, reasons, first, again, same, probed⟩

theorem logs_foldlM (availability : Availability) (steps : List (Step L)) :
    Logs ((steps.map Step.recorded).foldlM take availability)
      (steps.foldlM take availability : m _)
      fun after asked =>
        ∃ failures, after.reasons = availability.reasons ++ failures ∧
          Course steps asked failures := by
  induction steps generalizing availability with
  | nil => exact .pure ⟨[], (List.append_nil _).symm, .nil⟩
  | cons step steps induction =>
      rw [List.map_cons, List.foldlM_cons, List.foldlM_cons]
      apply (logs_take availability step).bind
      rintro between asked ⟨failures, reasons, meets⟩
      apply (induction between).imp
      rintro after more ⟨later, laterReasons, course⟩
      refine ⟨failures ++ later, ?_, .cons meets course⟩
      rw [laterReasons, reasons, List.append_assoc]

/-- A probe asks for every tool once, and for the C compiler once more if it
finds none.  It adds one reason if it finds nothing at all, and none otherwise.
The reasons after any course of steps are those before it with the failures of
the steps in their order, and an availability that is lost does not come
back. -/
theorem asks_of_course :
    (∀ (availability : Availability) (tools : ToolSet) (locator : L),
      Forgets (m := m) (availability.probe tools (Recorded.mk locator))
        (availability.probe tools locator) ∧
      Adds (m := m) (availability.probe tools (Recorded.mk locator))
        fun after asked =>
          ∃ first again failures, asked = first ++ again ∧
            after.reasons = availability.reasons ++ failures ∧
            failures.length = (if asked.any Inquiry.isFound then 0 else 1) ∧
            Probed tools first again failures) ∧
    ∀ (availability : Availability) (steps : List (Step L)),
      Forgets (m := m) ((steps.map Step.recorded).foldlM take availability)
        (steps.foldlM take availability) ∧
      Adds (m := m) ((steps.map Step.recorded).foldlM take availability)
        fun after asked =>
          ∃ failures, after.reasons = availability.reasons ++ failures ∧
            Course steps asked failures ∧
            (availability.isAvailable = false → after.isAvailable = false) := by
  constructor
  · intro availability tools locator
    have logs := logs_probe (m := m) availability tools locator
    refine ⟨logs.forgets, (logs.imp ?_).adds⟩
    rintro after asked ⟨first, again, failures, parts, reasons, probed⟩
    refine ⟨first, again, failures, parts, reasons, ?_, probed⟩
    rw [parts]
    exact probed.length_failures
  · intro availability steps
    have logs := logs_foldlM (m := m) availability steps
    refine ⟨logs.forgets, (logs.imp ?_).adds⟩
    rintro after asked ⟨failures, reasons, course⟩
    refine ⟨failures, reasons, course, fun lost => ?_⟩
    rw [isAvailable, List.isEmpty_eq_false_iff] at lost ⊢
    rw [reasons]
    exact List.append_ne_nil_of_left_ne_nil lost failures

/-- A compiler that is not there at first is found when it is looked up again.
The probe then adds no reason to the one there is. -/
theorem asks_of_course_late_compiler :
    let machine : Machine (StateM Nat) :=
      ⟨fun _ => return none, fun path => return .error (.ofFile path ""),
        fun _ => modifyGet fun asked => (decide (0 < asked), asked + 1),
        fun _ => return false, return none⟩
    let locator : SearchPath (StateM Nat) :=
      ⟨machine, ⟨.linux⟩, [⟨"/opt"⟩]⟩
    let tools := ToolSet.empty.setExecutable .cCompiler "gcc"
    let start : Availability := ⟨["off"]⟩
    let last := ((start.probe tools (Recorded.mk locator)).run []).run 0
    last.1.2.map Inquiry.subject = [(.cCompiler, "gcc"), (.cCompiler, "gcc")] ∧
      last.1.2.map Inquiry.isFound = [false, true] ∧
      last.1.1.reasons = ["off"] := by
  intro machine locator tools start last
  have found : last.1.2.map Inquiry.isFound = [false, true] := by
    decide
  refine ⟨by decide, found, ?_⟩
  obtain ⟨asked, record, first, again, failures, -, reasons, count, -⟩ :=
    ((asks_of_course.1 start tools locator).2 []).of_state 0
  have recorded : last.1.2 = asked := record
  have any : asked.any Inquiry.isFound = true := by
    rw [← recorded]
    decide
  rw [any] at count
  rw [show last.1.1.reasons = _ from reasons, List.eq_nil_of_length_eq_zero count]
  rfl

end Availability

end ToolSelect
