import ToolSelect.Platform.Basic
import ToolSelect.Proofs.AsciiCase
import ToolSelect.Proofs.Tables
import ToolSelect.Tool.Family

/-!
# Names and aliases

Operating systems, architectures and families of tool chains are known by ASCII
names.  A text is lowered by the rules of all alphabets before it is looked up,
and still it stands for one of these names only if it is the name up to the
case of ASCII letters.
-/

namespace ToolSelect

namespace Text

/-- The text is one of the names, up to the case of ASCII letters. -/
def IsOneOf (names : List String) (text : List Char) : Prop :=
  ∃ name ∈ names, sameAsciiFold name.toList text = true

instance (names : List String) (text : List Char) :
    Decidable (IsOneOf names text) :=
  inferInstanceAs (Decidable
    (∃ name ∈ names, sameAsciiFold name.toList text = true))

theorem isOneOf_singleton {name : String} {text : List Char} :
    IsOneOf [name] text ↔ sameAsciiFold name.toList text = true := by
  simp [IsOneOf]

/-- The name is plain and has no capitals. -/
def IsPlainName (name : String) : Prop :=
  asciiLower name.toList = name.toList ∧ ∀ c ∈ name.toList, IsPlain c

-- The characters of the name are tried, and not all characters there are.
instance (name : String) : Decidable (IsPlainName name) :=
  @instDecidableAnd _ _ inferInstance (List.decidableBAll IsPlain name.toList)

theorem lower_eq_toList_iff {name : String} (plain : IsPlainName name)
    (text : List Char) :
    lower text = name.toList ↔ sameAsciiFold name.toList text = true := by
  rw [lower_eq_iff_of_isPlain plain.2, sameAsciiFold_eq_true_iff, plain.1,
    eq_comm]

theorem isAscii_of_isOneOf {names : List String}
    (plain : ∀ name ∈ names, IsPlainName name) {text : List Char}
    (known : IsOneOf names text) : ∀ c ∈ text, IsAscii c := by
  obtain ⟨name, member, same⟩ := known
  obtain ⟨small, characters⟩ := plain name member
  rw [sameAsciiFold_eq_true_iff, small] at same
  apply isAscii_of_asciiLower
  rw [← same]
  exact fun c member => (characters c member).1

theorem not_isOneOf_of_foreign {text : List Char} {c : Char}
    (member : c ∈ text) (foreign : ¬IsAscii c) {names : List String}
    (plain : ∀ name ∈ names, IsPlainName name) : ¬IsOneOf names text :=
  fun known => foreign (isAscii_of_isOneOf plain known c member)

theorem trim_eq_nil_iff {text : List Char} :
    trim text = [] ↔ ∀ c ∈ text, isBlank c = true := by
  rw [trim, trimEnd_eq_nil_iff, trimStart]
  induction text with
  | nil => simp
  | cons c text induction =>
      cases blank : isBlank c <;> simp_all

theorem trim_ne_nil_iff {text : List Char} :
    trim text ≠ [] ↔ ∃ c ∈ text, isBlank c = false := by
  simp [trim_eq_nil_iff]

end Text

/-- A table of names, which are plain and told apart. -/
structure IsAliasTable {α : Type} (aliases : List (String × α)) : Prop where
  plain : ∀ name ∈ aliases.map Prod.fst, Text.IsPlainName name
  distinct : (aliases.map Prod.fst).Nodup

namespace IsAliasTable

variable {α : Type} {aliases : List (String × α)}

/-- A lowered text is looked up under the names that it is up to the case of
ASCII letters. -/
theorem lookup_lower (table : IsAliasTable aliases) (text : List Char)
    (value : α) :
    aliases.lookup (String.ofList (Text.lower text)) = some value ↔
      ∃ entry ∈ aliases, entry.2 = value ∧
        Text.sameAsciiFold entry.1.toList text = true := by
  rw [lookup_eq_some_iff_mem table.distinct]
  constructor
  · intro listed
    refine ⟨_, listed, rfl, ?_⟩
    rw [← Text.lower_eq_toList_iff (table.plain _
      (List.mem_map_of_mem (f := Prod.fst) listed))]
    exact String.toList_ofList.symm
  · rintro ⟨⟨name, _⟩, listed, rfl, same⟩
    have lowered := (Text.lower_eq_toList_iff (table.plain _
      (List.mem_map_of_mem (f := Prod.fst) listed)) text).mpr same
    rw [lowered, String.ofList_toList]
    exact listed

theorem lookup_lower_eq_none_iff (table : IsAliasTable aliases)
    (text : List Char) :
    aliases.lookup (String.ofList (Text.lower text)) = none ↔
      ¬Text.IsOneOf (aliases.map Prod.fst) text := by
  rw [Option.eq_none_iff_forall_ne_some]
  constructor
  · rintro unknown ⟨name, listed, same⟩
    obtain ⟨entry, member, rfl⟩ := List.mem_map.mp listed
    exact unknown entry.2
      ((table.lookup_lower text entry.2).mpr ⟨entry, member, rfl, same⟩)
  · intro unknown value found
    obtain ⟨entry, member, -, same⟩ := (table.lookup_lower text value).mp found
    exact unknown ⟨entry.1, List.mem_map_of_mem member, same⟩

end IsAliasTable

namespace OperatingSystem

theorem isAliasTable_aliases : IsAliasTable aliases :=
  ⟨by decide, by decide⟩

/-- The trimmed name stands for the system. -/
def IsNamedBy (name : List Char) : OperatingSystem → Prop
  | .macOs => Text.IsOneOf ["macos", "mac os x", "osx", "darwin"] name
  | .linux => Text.IsOneOf ["linux"] name
  | .freeBsd => Text.IsOneOf ["freebsd"] name
  | .solaris => Text.IsOneOf ["solaris", "sunos"] name
  | .windows => Text.IsOneOf ["win"] (name.take 3)
  | .other lowered =>
    ¬Text.IsOneOf ["macos", "mac os x", "osx", "darwin", "linux", "freebsd",
        "solaris", "sunos"] name ∧
      ¬Text.IsOneOf ["win"] (name.take 3) ∧
      lowered = String.ofList (Text.lower name)

instance (name : List Char) :
    (system : OperatingSystem) → Decidable (system.IsNamedBy name)
  | .macOs | .linux | .freeBsd | .solaris =>
    inferInstanceAs (Decidable (Text.IsOneOf _ name))
  | .windows => inferInstanceAs (Decidable (Text.IsOneOf _ (name.take 3)))
  | .other lowered =>
    inferInstanceAs (Decidable (¬Text.IsOneOf _ name ∧
      ¬Text.IsOneOf _ (name.take 3) ∧
      lowered = String.ofList (Text.lower name)))

theorem isPrefix_win_iff (name : List Char) :
    ['w', 'i', 'n'].isPrefixOf (Text.lower name) = true ↔
      Text.IsOneOf ["win"] (name.take 3) := by
  have plain : Text.IsPlainName "win" := by decide
  have prefixed := Text.isPrefix_lower_iff_of_isPlain plain.2 (by decide) name
  rw [Text.isOneOf_singleton, Text.sameAsciiFold_eq_true_iff, plain.1]
  exact List.isPrefixOf_iff_prefix.trans (prefixed.trans eq_comm)

theorem lookup_of_isPrefix_win {name : List Char}
    (prefixed : ['w', 'i', 'n'].isPrefixOf name = true) :
    aliases.lookup (String.ofList name) = none := by
  have others : ∀ entry ∈ aliases,
      ['w', 'i', 'n'].isPrefixOf entry.1.toList = false := by
    decide
  cases found : aliases.lookup (String.ofList name) with
  | none => rfl
  | some system =>
      have unprefixed := others _ (mem_of_lookup found)
      rw [String.toList_ofList, prefixed] at unprefixed
      cases unprefixed

theorem ofLowerName_eq_windows_iff (name : List Char) :
    ofLowerName name = .windows ↔ ['w', 'i', 'n'].isPrefixOf name = true := by
  constructor
  · intro named
    rw [ofLowerName] at named
    cases found : aliases.lookup (String.ofList name) with
    | some system =>
        have notWindows : ∀ entry ∈ aliases, entry.2 ≠ .windows := by
          decide
        rw [found] at named
        exact absurd named (notWindows _ (mem_of_lookup found))
    | none =>
        rw [found] at named
        dsimp only at named
        split at named
        next prefixed => exact prefixed
        next => cases named
  · intro prefixed
    rw [ofLowerName, lookup_of_isPrefix_win prefixed]
    exact if_pos prefixed

theorem ofLowerName_eq_other_iff (name : List Char) (lowered : String) :
    ofLowerName name = .other lowered ↔
      aliases.lookup (String.ofList name) = none ∧
        ¬['w', 'i', 'n'].isPrefixOf name = true ∧
        lowered = String.ofList name := by
  rw [ofLowerName]
  cases found : aliases.lookup (String.ofList name) with
  | some system =>
      have notOther : ∀ entry ∈ aliases, entry.2 ≠ .other lowered := by
        simp [aliases]
      simp [notOther _ (mem_of_lookup found)]
  | none =>
      cases ['w', 'i', 'n'].isPrefixOf name <;> simp [eq_comm]

theorem ofLowerName_eq_iff_lookup (name : List Char) {system : OperatingSystem}
    (notWindows : system ≠ .windows)
    (notOther : ∀ lowered, system ≠ .other lowered) :
    ofLowerName name = system ↔
      aliases.lookup (String.ofList name) = some system := by
  rw [ofLowerName]
  cases aliases.lookup (String.ofList name) with
  | some known => simp
  | none =>
      dsimp only
      split
      next => simp [notWindows.symm]
      next => simp [(notOther _).symm]

theorem ofLowerName_lower_iff (name : List Char) (system : OperatingSystem) :
    ofLowerName (Text.lower name) = system ↔ system.IsNamedBy name := by
  have listed := isAliasTable_aliases.lookup_lower name
  cases system with
  | windows => rw [ofLowerName_eq_windows_iff, isPrefix_win_iff, IsNamedBy]
  | other lowered =>
      rw [ofLowerName_eq_other_iff, isPrefix_win_iff,
        isAliasTable_aliases.lookup_lower_eq_none_iff]
      rfl
  | macOs | linux | freeBsd | solaris =>
      rw [ofLowerName_eq_iff_lookup _ (by simp) (by simp), listed]
      simp [aliases, IsNamedBy, Text.IsOneOf]

theorem ofName?_eq_some_iff (text : String) (system : OperatingSystem) :
    ofName? text = some system ↔
      (∃ c ∈ text.toList, Text.isBlank c = false) ∧
        system.IsNamedBy (Text.trim text.toList) := by
  rw [← Text.trim_ne_nil_iff, ← ofLowerName_lower_iff, ofName?]
  simp [Text.lower, Text.lowerAfter_eq_nil_iff]

theorem ofName?_eq_none_iff_blank (text : String) :
    ofName? text = none ↔ ∀ c ∈ text.toList, Text.isBlank c = true := by
  rw [← Text.trim_eq_nil_iff, ofName?]
  simp [Text.lower, Text.lowerAfter_eq_nil_iff]

/-- A name with a character beyond ASCII is the name of another system, or
starts like those of Windows. -/
theorem ofName?_of_foreign {text : String} {c : Char}
    (member : c ∈ Text.trim text.toList) (foreign : ¬Text.IsAscii c) :
    ofName? text = some .windows ∨ ofName? text =
      some (.other (String.ofList (Text.lower (Text.trim text.toList)))) := by
  have solid := Text.trim_ne_nil_iff.mp (List.ne_nil_of_mem member)
  by_cases windows : Text.IsOneOf ["win"] ((Text.trim text.toList).take 3)
  · exact .inl ((ofName?_eq_some_iff text _).mpr ⟨solid, windows⟩)
  · have unknown := Text.not_isOneOf_of_foreign member foreign
      isAliasTable_aliases.plain
    exact .inr ((ofName?_eq_some_iff text _).mpr
      ⟨solid, unknown, windows, rfl⟩)

theorem isAscii_of_windows {text : String}
    (named : ofName? text = some .windows) :
    ∀ c ∈ (Text.trim text.toList).take 3, Text.IsAscii c :=
  Text.isAscii_of_isOneOf (by decide) ((ofName?_eq_some_iff text _).mp named).2

end OperatingSystem

namespace Architecture

theorem isAliasTable_aliases : IsAliasTable aliases :=
  ⟨by decide, by decide⟩

/-- The trimmed name stands for the architecture. -/
def IsNamedBy (name : List Char) : Architecture → Prop
  | .toolChainDefault => Text.IsOneOf ["", "default"] name
  | .i386 => Text.IsOneOf ["x86", "i386", "ia-32", "i686"] name
  | .amd64 => Text.IsOneOf ["x86-64", "x86_64", "amd64", "x64"] name
  | .other lowered =>
    ¬Text.IsOneOf ["", "default", "x86", "i386", "ia-32", "i686", "x86-64",
        "x86_64", "amd64", "x64"] name ∧
      lowered = String.ofList (Text.lower name)

theorem ofLowerName_eq_other_iff (name : List Char) (lowered : String) :
    ofLowerName name = .other lowered ↔
      aliases.lookup (String.ofList name) = none ∧
        lowered = String.ofList name := by
  rw [ofLowerName]
  cases found : aliases.lookup (String.ofList name) with
  | some architecture =>
      have notOther : ∀ entry ∈ aliases, entry.2 ≠ .other lowered := by
        simp [aliases]
      simp [notOther _ (mem_of_lookup found)]
  | none => simp [eq_comm]

theorem ofLowerName_eq_iff_lookup (name : List Char)
    {architecture : Architecture}
    (notOther : ∀ lowered, architecture ≠ .other lowered) :
    ofLowerName name = architecture ↔
      aliases.lookup (String.ofList name) = some architecture := by
  rw [ofLowerName]
  cases aliases.lookup (String.ofList name) with
  | some known => simp
  | none => simp [(notOther _).symm]

theorem ofName_eq_iff (text : String) (architecture : Architecture) :
    ofName text = architecture ↔
      architecture.IsNamedBy (Text.trim text.toList) := by
  have listed := isAliasTable_aliases.lookup_lower (Text.trim text.toList)
  rw [ofName]
  cases architecture with
  | other lowered =>
      rw [ofLowerName_eq_other_iff,
        isAliasTable_aliases.lookup_lower_eq_none_iff]
      rfl
  | toolChainDefault | i386 | amd64 =>
      rw [ofLowerName_eq_iff_lookup _ (by simp), listed]
      simp [aliases, IsNamedBy, Text.IsOneOf]

theorem ofName_of_foreign {text : String} {c : Char}
    (member : c ∈ Text.trim text.toList) (foreign : ¬Text.IsAscii c) :
    ofName text =
      .other (String.ofList (Text.lower (Text.trim text.toList))) :=
  (ofName_eq_iff text _).mpr ⟨Text.not_isOneOf_of_foreign member foreign
    isAliasTable_aliases.plain, rfl⟩

end Architecture

theorem Family.isPlainName_id : ∀ family : Family, Text.IsPlainName family.id
  | .gcc => by decide
  | .clang => by decide

theorem Family.ofName?_eq_some_iff (text : String) (family : Family) :
    ofName? text = some family ↔
      Text.sameAsciiFold family.id.toList text.toList = true := by
  rw [← Text.lower_eq_toList_iff family.isPlainName_id]
  constructor
  · intro found
    have same := List.find?_some found
    exact (beq_iff_eq.mp same).symm
  · intro same
    rw [ofName?, same]
    cases family <;> rfl

theorem Family.ofName?_of_foreign {text : String} {c : Char}
    (member : c ∈ text.toList) (foreign : ¬Text.IsAscii c) :
    ofName? text = none := by
  refine Option.eq_none_iff_forall_ne_some.mpr fun family known => ?_
  have same := (ofName?_eq_some_iff text family).mp known
  have named : Text.IsOneOf [family.id] text.toList :=
    Text.isOneOf_singleton.mpr same
  exact Text.not_isOneOf_of_foreign member foreign
    (List.forall_mem_singleton.mpr family.isPlainName_id) named

/-- Only a blank name stands for no operating system.  Any other name stands
for what it is called up to the case of ASCII letters, or for something else
that keeps the name in lower case, and so do the names of architectures and of
families of tool chains.  No character beyond ASCII takes the place of a letter
of these names. -/
theorem named_up_to_asciiCase (text : String) :
    let name := Text.trim text.toList
    (OperatingSystem.ofName? text = none ↔
      ∀ c ∈ text.toList, Text.isBlank c = true) ∧
    (∀ system, OperatingSystem.ofName? text = some system ↔
      (∃ c ∈ text.toList, Text.isBlank c = false) ∧ system.IsNamedBy name) ∧
    (∀ architecture, Architecture.ofName text = architecture ↔
      architecture.IsNamedBy name) ∧
    (∀ family, Family.ofName? text = some family ↔
      Text.sameAsciiFold family.id.toList text.toList = true) ∧
    (∀ c ∈ name, ¬Text.IsAscii c →
      let other := String.ofList (Text.lower name)
      (OperatingSystem.ofName? text = some .windows ∨
        OperatingSystem.ofName? text = some (.other other)) ∧
      Architecture.ofName text = .other other) ∧
    (OperatingSystem.ofName? text = some .windows →
      ∀ c ∈ name.take 3, Text.IsAscii c) ∧
    (∀ c ∈ text.toList, ¬Text.IsAscii c → Family.ofName? text = none) := by
  intro name
  refine ⟨OperatingSystem.ofName?_eq_none_iff_blank text,
    OperatingSystem.ofName?_eq_some_iff text, Architecture.ofName_eq_iff text,
    Family.ofName?_eq_some_iff text, ?_, OperatingSystem.isAscii_of_windows,
    fun _ => Family.ofName?_of_foreign⟩
  intro c member foreign other
  exact ⟨OperatingSystem.ofName?_of_foreign member foreign,
    Architecture.ofName_of_foreign member foreign⟩

/-- Blanks and capitals hide no name, but an `i` with a dot is another letter,
and families are not trimmed. -/
theorem named_up_to_asciiCase_dotted :
    OperatingSystem.ofName? "\u2003MAC os X\n" = some .macOs ∧
      OperatingSystem.ofName? "WIN\u212a" = some .windows ∧
      OperatingSystem.ofName? "DARWİN" = some (.other "darwi\u0307n") ∧
      Architecture.ofName "İ386" = .other "i\u0307386" ∧
      Family.ofName? "gcc " = none := by
  obtain ⟨-, mac, -⟩ := named_up_to_asciiCase "\u2003MAC os X\n"
  obtain ⟨-, windows, -⟩ := named_up_to_asciiCase "WIN\u212a"
  obtain ⟨-, -, -, -, foreign, -⟩ := named_up_to_asciiCase "DARWİN"
  obtain ⟨-, -, -, -, foreignArchitecture, -⟩ := named_up_to_asciiCase "İ386"
  obtain ⟨-, -, -, family, -⟩ := named_up_to_asciiCase "gcc "
  refine ⟨(mac .macOs).mpr ⟨⟨'M', by decide, by decide⟩, by decide⟩,
    (windows .windows).mpr ⟨⟨'W', by decide, by decide⟩, by decide⟩, ?_, ?_, ?_⟩
  · have darwin := (foreign 'İ' (by decide) (by decide)).1
    exact darwin.resolve_left (by decide)
  · exact (foreignArchitecture 'İ' (by decide) (by decide)).2
  · refine Option.eq_none_iff_forall_ne_some.mpr fun known named => ?_
    have same := (family known).mp named
    cases known <;> exact absurd same (by decide)

end ToolSelect
