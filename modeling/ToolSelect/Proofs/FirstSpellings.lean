import Mathlib.Data.List.Sort
import ToolSelect.Config.Session
import ToolSelect.Proofs.ConfiguredSelection
import ToolSelect.Proofs.ListedDirectories

/-!
# First spellings of directories

A search path keeps a directory in the spelling and at the place in which it was
first added, and never keeps a second spelling of it.  It makes no difference
whether the directories are added one by one, by the registrations of a tool
chain, or by a configuration and a command line.
-/

namespace ToolSelect

/-- Where a path was first added, in whatever spelling. -/
def firstPlace (added : List Path) (path : Path) : Nat :=
  added.findIdx (Path.Same · path)

/-- The entries are the first spellings of the directories that were added. -/
structure FirstSpellings (added entries : List Path) : Prop where
  /-- No two entries are the same path. -/
  distinct : entries.Pairwise fun left right => ¬left.Same right
  /-- Every directory is the same path as exactly one entry. -/
  kept : ∀ directory ∈ added, entries.countP (Path.Same directory ·) = 1
  /-- Every entry is spelled like the first directory that is the same path. -/
  spelled : ∀ entry ∈ entries, added.find? (Path.Same · entry) = some entry
  /-- The entries stand in the order in which they were first added. -/
  ordered : entries.Pairwise fun left right =>
    firstPlace added left < firstPlace added right

namespace FirstSpellings

variable {added entries : List Path}

theorem nil : FirstSpellings [] [] :=
  ⟨.nil, nofun, nofun, .nil⟩

theorem mem_added (first : FirstSpellings added entries) {entry : Path}
    (member : entry ∈ entries) : entry ∈ added :=
  List.mem_of_find?_eq_some (first.spelled entry member)

theorem exists_entry_iff (first : FirstSpellings added entries)
    (directory : Path) :
    (∃ entry ∈ entries, entry.Same directory) ↔
      ∃ earlier ∈ added, earlier.Same directory := by
  constructor
  · rintro ⟨entry, member, same⟩
    exact ⟨entry, first.mem_added member, same⟩
  · rintro ⟨earlier, member, same⟩
    have counted : 0 < entries.countP (Path.Same earlier ·) := by
      rw [first.kept earlier member]
      exact Nat.one_pos
    obtain ⟨entry, entryMember, entrySame⟩ := List.countP_pos_iff.mp counted
    exact ⟨entry, entryMember, (of_decide_eq_true entrySame).symm.trans same⟩

theorem firstPlace_append {path : Path}
    (known : ∃ earlier ∈ added, earlier.Same path) (more : List Path) :
    firstPlace (added ++ more) path = firstPlace added path ∧
      firstPlace added path < added.length := by
  have found : added.findIdx (Path.Same · path) < added.length := by
    rw [List.findIdx_lt_length]
    obtain ⟨earlier, member, same⟩ := known
    exact ⟨earlier, member, decide_eq_true same⟩
  exact ⟨by rw [firstPlace, List.findIdx_append, if_pos found]; rfl, found⟩

theorem ordered_append (first : FirstSpellings added entries)
    (more : List Path) :
    entries.Pairwise fun left right =>
      firstPlace (added ++ more) left < firstPlace (added ++ more) right := by
  refine first.ordered.imp_of_mem fun leftMember rightMember before => ?_
  have place := fun {entry : Path} (member : entry ∈ entries) =>
    (firstPlace_append ⟨entry, first.mem_added member, .refl entry⟩ more).1
  rw [place leftMember, place rightMember]
  exact before

theorem spelled_append (first : FirstSpellings added entries)
    (more : List Path) :
    ∀ entry ∈ entries,
      (added ++ more).find? (Path.Same · entry) = some entry := by
  intro entry member
  rw [List.find?_append, first.spelled entry member]
  rfl

theorem known (first : FirstSpellings added entries) {directory : Path}
    (known : ∃ entry ∈ entries, entry.Same directory) :
    FirstSpellings (added ++ [directory]) entries where
  distinct := first.distinct
  kept := by
    rw [List.forall_mem_append, List.forall_mem_singleton]
    refine ⟨first.kept, ?_⟩
    obtain ⟨entry, member, same⟩ := known
    rw [← first.kept entry (first.mem_added member)]
    refine List.countP_congr fun other _ => ?_
    rw [decide_eq_true_iff, decide_eq_true_iff]
    exact ⟨same.trans, same.symm.trans⟩
  spelled := first.spelled_append [directory]
  ordered := first.ordered_append [directory]

theorem new (first : FirstSpellings added entries) {directory : Path}
    (new : ¬∃ entry ∈ entries, entry.Same directory) :
    FirstSpellings (added ++ [directory]) (entries ++ [directory]) := by
  have notAdded : ∀ earlier ∈ added, ¬earlier.Same directory := by
    intro earlier member same
    exact new ((first.exists_entry_iff directory).mpr ⟨earlier, member, same⟩)
  have noEntry : ∀ entry ∈ entries, ¬entry.Same directory :=
    fun entry member same => new ⟨entry, member, same⟩
  have place : firstPlace (added ++ [directory]) directory = added.length := by
    have missed : added.findIdx (Path.Same · directory) = added.length := by
      rw [List.findIdx_eq_length]
      exact fun earlier member => decide_eq_false (notAdded earlier member)
    rw [firstPlace, List.findIdx_append, missed, if_neg (Nat.lt_irrefl _),
      List.findIdx_singleton, if_pos (decide_eq_true (.refl directory)),
      Nat.zero_add]
  -- What is new comes last, both among what was added and among the entries.
  refine ⟨?_, ?_, ?_, ?_⟩
  · refine List.pairwise_append.mpr ⟨first.distinct, List.pairwise_singleton _ _, ?_⟩
    intro entry member other otherMember
    rw [List.mem_singleton.mp otherMember]
    exact noEntry entry member
  · rw [List.forall_mem_append, List.forall_mem_singleton]
    constructor
    · intro earlier member
      rw [List.countP_append, first.kept earlier member,
        List.countP_singleton,
        if_neg (by simpa using notAdded earlier member)]
    · have none : entries.countP (Path.Same directory ·) = 0 := by
        rw [List.countP_eq_zero]
        intro entry member same
        exact noEntry entry member (of_decide_eq_true same).symm
      rw [List.countP_append, none, List.countP_singleton,
        if_pos (decide_eq_true (.refl directory))]
  · rw [List.forall_mem_append, List.forall_mem_singleton]
    refine ⟨first.spelled_append [directory], ?_⟩
    have missed : added.find? (Path.Same · directory) = none := by
      rw [List.find?_eq_none]
      intro earlier member same
      exact notAdded earlier member (of_decide_eq_true same)
    rw [List.find?_append, missed, List.find?_singleton,
      if_pos (decide_eq_true (.refl directory))]
    rfl
  · refine List.pairwise_append.mpr
      ⟨first.ordered_append [directory], List.pairwise_singleton _ _, ?_⟩
    intro entry member other otherMember
    rw [List.mem_singleton.mp otherMember, place]
    have earlier := firstPlace_append
      ⟨entry, first.mem_added member, .refl entry⟩ [directory]
    rw [earlier.1]
    exact earlier.2

/-- The directories that were added determine the entries. -/
theorem unique {others : List Path} (first : FirstSpellings added entries)
    (other : FirstSpellings added others) : entries = others := by
  have subset : ∀ {left right : List Path}, FirstSpellings added left →
      FirstSpellings added right → ∀ entry ∈ left, entry ∈ right := by
    intro left right firstLeft firstRight entry member
    obtain ⟨same, sameMember, spelling⟩ :=
      (firstRight.exists_entry_iff entry).mpr
        ⟨entry, firstLeft.mem_added member, .refl entry⟩
    have components : same.components = entry.components := spelling
    have spelledLeft := firstLeft.spelled entry member
    have spelledRight := firstRight.spelled same sameMember
    simp only [Path.Same, components] at spelledLeft spelledRight
    cases spelledLeft.symm.trans spelledRight
    exact sameMember
  let before := fun left right => firstPlace added left < firstPlace added right
  have irrefl : Std.Irrefl before := ⟨fun _ => Nat.lt_irrefl _⟩
  have antisymm : Std.Antisymm before :=
    ⟨fun _ _ less more => absurd less (Nat.lt_asymm more)⟩
  exact List.Pairwise.eq_of_mem_iff first.ordered other.ordered fun entry =>
    ⟨subset first other entry, subset other first entry⟩

/-- One more directory keeps the entries the first spellings. -/
theorem insertLast (first : FirstSpellings added entries) (directory : Path) :
    FirstSpellings (added ++ [directory])
      (SearchPath.insertLast entries directory) := by
  have any : entries.any (Path.Same · directory) = true ↔
      ∃ entry ∈ entries, entry.Same directory := by
    simp
  rw [SearchPath.insertLast]
  split
  next present => exact first.known (any.mp present)
  next absent => exact first.new (mt any.mpr absent)

theorem foldl_insertLast (first : FirstSpellings added entries)
    (more : List Path) :
    FirstSpellings (added ++ more)
      (more.foldl SearchPath.insertLast entries) := by
  induction more generalizing added entries with
  | nil =>
      rw [List.append_nil]
      exact first
  | cons directory more induction =>
      have inserted := induction (first.insertLast directory)
      rwa [List.append_assoc] at inserted

end FirstSpellings

variable {m : Type → Type}

namespace SearchPath

theorem directories_foldl_addDirectory (machine : Machine m) (host : Host)
    (added : List Path) :
    (added.foldl addDirectory (ofMachine machine host)).directories =
      added.foldl insertLast [] := by
  rw [foldl_addDirectory]
  rfl

theorem firstSpellings (machine : Machine m) (host : Host)
    (added : List Path) :
    FirstSpellings added
      (added.foldl addDirectory (ofMachine machine host)).directories := by
  rw [directories_foldl_addDirectory]
  exact FirstSpellings.nil.foldl_insertLast added

end SearchPath

theorem ToolChain.firstSpellings [Monad m] (name : String) (family : Family)
    (host : Host) (machine : Machine m) (history : History) :
    FirstSpellings (history.flatMap Registration.directories)
      (ofHistory name family host (SearchPath.ofMachine machine host)
        history).directories := by
  have searched := SearchPath.firstSpellings machine host
    (history.flatMap Registration.directories)
  rw [directories, locator_ofHistory]
  exact searched

theorem Config.firstSpellings [Monad m] {config : Config}
    (valid : config.validate = .ok ()) (machine : Machine m) (host : Host) :
    ∃ chain, config.build machine host = .ok chain ∧
      FirstSpellings config.directories chain.directories := by
  refine ⟨_, build_of_valid valid machine host, ?_⟩
  have registered := ToolChain.firstSpellings config.toolChainName
    config.family host machine config.history
  rwa [directories_history] at registered

/-- Whichever way directories are added, a search path keeps the first
spellings: one by one, by the registrations of a tool chain among others, or
from a configuration with more directories on top of it. -/
theorem SearchPath.keeps_firstSpellings [Monad m] (machine : Machine m)
    (host : Host) :
    (∀ added : List Path,
      FirstSpellings added
        (added.foldl addDirectory (ofMachine machine host)).directories) ∧
    (∀ (name : String) (family : Family) (history : History),
      FirstSpellings (history.flatMap Registration.directories)
        (ToolChain.ofHistory name family host (ofMachine machine host)
          history).directories) ∧
    ∀ (config : Config) (family : Option Family) (more : List Path),
      config.validate = .ok () →
      ∃ chain,
        (Session.mk host (config.override family more)).build machine =
            .ok chain ∧
          FirstSpellings (config.directories ++ more) chain.directories := by
  refine ⟨firstSpellings machine host, fun name family history =>
    ToolChain.firstSpellings name family host machine history, ?_⟩
  intro config family more valid
  -- The check does not look at what is given on top.
  have overridden : (config.override family more).validate = .ok () := valid
  exact Config.firstSpellings overridden machine host

/-- A dot in front and a way back make another path, and slashes and other dots
do not. -/
theorem SearchPath.keeps_firstSpellings_respelled :
    let machine : Machine Id := FileTree.machine ⟨[], [], [], []⟩
    let config : Config :=
      { Config.empty with directories := [⟨"opt"⟩, ⟨"opt/./"⟩, ⟨"./opt"⟩] }
    let more : List Path := [⟨"opt//"⟩, ⟨"opt/../opt"⟩, ⟨"./opt/."⟩]
    ∃ chain,
      (Session.mk ⟨.linux⟩ (config.override none more)).build machine =
          .ok chain ∧
        chain.directories = [⟨"opt"⟩, ⟨"./opt"⟩, ⟨"opt/../opt"⟩] ∧
        FirstSpellings (config.directories ++ more) chain.directories := by
  intro machine config more
  obtain ⟨-, -, configured⟩ := keeps_firstSpellings machine ⟨.linux⟩
  obtain ⟨chain, built, first⟩ := configured config none more (by decide)
  have entries : FirstSpellings (config.directories ++ more)
      [⟨"opt"⟩, ⟨"./opt"⟩, ⟨"opt/../opt"⟩] :=
    ⟨by decide, by decide, by decide, by decide⟩
  exact ⟨chain, built, first.unique entries, first⟩

end ToolSelect
