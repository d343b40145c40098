import PipelineAdvisor.Proofs.Rules.OrbMatching
import PipelineAdvisor.Proofs.Text.Occurrences
import PipelineAdvisor.Rules.DependencyCache

/-!
Which install command a report quotes. The table is searched in its order, and one of its entries holds
another: `npm install`, the first entry, stands in `pnpm install`. So a text that installs with the
longer one is reported with the shorter one, and all other entries are told apart.
-/

namespace PipelineAdvisor.DependencyCache

open Text (StandsAt StandsFree lowerAscii occursIn)

def commandWords : List (List Char) :=
  installCommands.map (·.1.toList)

/-- Whether a command stands in a text, in any case, where no longer command of the table covers
it. -/
def Invokes (text : List Char) (command : String) : Prop :=
  StandsFree commandWords command.toList (lowerAscii text)

/-- One entry of the table stands inside a longer one, and only in one place. -/
theorem command_inside : ∀ entry ∈ installCommands, ∀ longer ∈ installCommands,
    entry.1.toList.length < longer.1.toList.length → ∀ place ≤ longer.1.toList.length,
      StandsAt entry.1.toList longer.1.toList place →
        entry.1 = "npm install" ∧ longer.1 = "pnpm install" ∧ place = 1 := by
  decide +kernel

theorem invokes_iff {text : List Char} {entry : String × Ecosystem}
    (known : entry ∈ installCommands) : Invokes text entry.1 ↔
      ∃ place, StandsAt entry.1.toList (lowerAscii text) place ∧
        (entry.1 = "npm install" →
          ∀ start, StandsAt "pnpm install".toList (lowerAscii text) start → place ≠ start + 1) := by
  refine exists_congr fun place => and_congr_right fun stands => ?_
  constructor
  · rintro free named start covers rfl
    have listed : "pnpm install".toList ∈ commandWords := by decide
    have length : entry.1.toList.length = 11 := by rw [named]; rfl
    have longer : "pnpm install".toList.length = 12 := rfl
    exact free _ listed (by omega) start covers (by omega)
  · rintro free _ listed shorter start covers ⟨behind, inside⟩
    obtain ⟨longer, longerKnown, rfl⟩ := List.mem_map.mp listed
    have held := stands.of_covered covers behind inside
    obtain ⟨named, longerNamed, one⟩ :=
      command_inside entry known longer longerKnown shorter (place - start) (by omega) held
    exact free named start (longerNamed ▸ covers) (by omega)

theorem standsAt_of_detectInstall? {text : List Char} {entry : String × Ecosystem}
    (found : detectInstall? text = some entry) :
    entry ∈ installCommands ∧ ∃ place, StandsAt entry.1.toList (lowerAscii text) place := by
  rw [detectInstall?] at found
  have occurs := List.find?_some found
  rw [Text.occursIn_iff_infix, Text.infix_iff_standsAt] at occurs
  exact ⟨List.mem_of_find?_eq_some found, occurs⟩

theorem detectInstall?_ne_pnpm (text : List Char) (ecosystem : Ecosystem) :
    detectInstall? text ≠ some ("pnpm install", ecosystem) := by
  intro found
  obtain ⟨_, occurs⟩ := standsAt_of_detectInstall? found
  have held : "npm install".toList <:+: "pnpm install".toList := by decide
  have first : occursIn "npm install".toList (lowerAscii text) = true := by
    rw [Text.occursIn_iff_infix]
    exact held.trans (Text.infix_iff_standsAt.mpr occurs)
  rw [detectInstall?, installCommands, List.find?_cons, first] at found
  have same : "npm install" = "pnpm install" := congrArg Prod.fst (Option.some.inj found)
  exact absurd same (by decide)

theorem invokes_of_detectInstall? {text : List Char} {entry : String × Ecosystem}
    (found : detectInstall? text = some entry) :
    Invokes text entry.1 ∨ Invokes text "pnpm install" := by
  obtain ⟨known, place, stands⟩ := standsAt_of_detectInstall? found
  have listed : ("pnpm install", Ecosystem.nodeJs) ∈ installCommands := by decide
  rw [or_iff_not_imp_left, invokes_iff known, invokes_iff listed]
  intro covered
  have behind : ∃ start, StandsAt "pnpm install".toList (lowerAscii text) start := by
    by_contra none
    exact covered ⟨place, stands, fun _ start covers => absurd ⟨start, covers⟩ none⟩
  obtain ⟨start, covers⟩ := behind
  exact ⟨start, covers, fun named => absurd named (by decide)⟩

theorem detectInstall?_of_only {text : List Char} {entry : String × Ecosystem}
    (known : entry ∈ installCommands)
    (only : ∀ other ∈ installCommands, Invokes text other.1 ↔ other = entry)
    (distinct : entry.1 ≠ "pnpm install") : detectInstall? text = some entry := by
  obtain ⟨place, stands, _⟩ := (invokes_iff known).mp ((only entry known).mpr rfl)
  have occurs : occursIn entry.1.toList (lowerAscii text) = true := by
    rw [Text.occursIn_iff_infix, Text.infix_iff_standsAt]
    exact ⟨place, stands⟩
  cases found : detectInstall? text with
  | none =>
      rw [detectInstall?, List.find?_eq_none] at found
      exact absurd occurs (found entry known)
  | some first =>
      rcases invokes_of_detectInstall? found with free | pnpm
      · rw [(only first (standsAt_of_detectInstall? found).1).mp free]
      · have same := (only ("pnpm install", .nodeJs) (by decide)).mp pnpm
        exact absurd (congrArg Prod.fst same).symm distinct

theorem detectInstall?_self : ∀ entry ∈ installCommands, entry.1 ≠ "pnpm install" →
    detectInstall? entry.1.toList = some entry := by
  decide +kernel

/-- The command that is found stands free unless it is `npm install` and stands only inside
`pnpm install`. A text whose only free command is an entry of the table is reported with this entry,
unless it is `pnpm install`, the one entry that is found in no text. -/
theorem detectInstall?_invokes_iff (text : List Char) :
    (∀ entry, detectInstall? text = some entry →
      (Invokes text entry.1 ↔ (entry.1 = "npm install" →
        ∃ place, StandsAt "npm install".toList (lowerAscii text) place ∧
          ∀ start, StandsAt "pnpm install".toList (lowerAscii text) start → place ≠ start + 1))) ∧
      (∀ entry ∈ installCommands,
        (∀ other ∈ installCommands, Invokes text other.1 ↔ other = entry) →
          (detectInstall? text = some entry ↔ entry.1 ≠ "pnpm install")) ∧
      ∀ entry ∈ installCommands,
        (∃ other, detectInstall? other = some entry) ↔ entry.1 ≠ "pnpm install" := by
  have missed : ∀ {other : List Char} {entry : String × Ecosystem},
      detectInstall? other = some entry → entry.1 ≠ "pnpm install" := by
    rintro other ⟨command, ecosystem⟩ found rfl
    exact detectInstall?_ne_pnpm other ecosystem found
  refine ⟨?_, ?_, ?_⟩
  · intro entry found
    obtain ⟨known, place, stands⟩ := standsAt_of_detectInstall? found
    rw [invokes_iff known]
    constructor
    · rintro ⟨place, stands, free⟩ named
      exact ⟨place, named ▸ stands, free named⟩
    · intro free
      by_cases named : entry.1 = "npm install"
      · obtain ⟨place, stands, apart⟩ := free named
        exact ⟨place, named ▸ stands, fun _ => apart⟩
      · exact ⟨place, stands, fun same => absurd same named⟩
  · intro entry known only
    exact ⟨missed, detectInstall?_of_only known only⟩
  · intro entry known
    constructor
    · rintro ⟨other, found⟩
      exact missed found
    · intro distinct
      exact ⟨entry.1.toList, detectInstall?_self entry known distinct⟩

theorem detectInstall?_invokes_iff_afterPnpm :
    detectInstall? "pnpm install; NPM install".toList = some ("npm install", .nodeJs) ∧
      Invokes "pnpm install; NPM install".toList "npm install" := by
  have found : detectInstall? "pnpm install; NPM install".toList =
      some ("npm install", .nodeJs) := by
    decide +kernel
  refine ⟨found, ((detectInstall?_invokes_iff _).1 _ found).mpr fun _ => ⟨14, by decide +kernel, ?_⟩⟩
  rintro start covers same
  obtain rfl : start = 13 := by omega
  revert covers
  decide +kernel

/-- A job that installs with `pnpm install` and nothing else is reported to run `npm install`. -/
theorem inspect_quotes_npm_for_pnpm :
    detectInstall? "pnpm install".toList = some ("npm install", .nodeJs) ∧
      ¬Invokes "pnpm install".toList "npm install" ∧
      (inspect ⟨[OrbReuse.buildJob "pnpm install"], [], []⟩).map (·.currentState) =
        ["Job 'build' runs `npm install` without restore_cache or save_cache steps."] := by
  refine ⟨by decide +kernel, ?_, by decide +kernel⟩
  have known : ("npm install", Ecosystem.nodeJs) ∈ installCommands := List.mem_cons_self
  have listed : ("pnpm install", Ecosystem.nodeJs) ∈ installCommands := by decide
  have lowered : lowerAscii "pnpm install".toList = "pnpm install".toList := by decide
  rw [invokes_iff known, lowered]
  rintro ⟨place, stands, free⟩
  have near : place ≤ "pnpm install".toList.length := by
    by_contra far
    rw [StandsAt, List.drop_eq_nil_of_le (Nat.le_of_not_le far), List.prefix_nil] at stands
    exact absurd stands (by decide)
  obtain ⟨_, _, one⟩ := command_inside _ known _ listed (by decide) place near stands
  exact free rfl 0 (List.prefix_refl _) one

end PipelineAdvisor.DependencyCache
