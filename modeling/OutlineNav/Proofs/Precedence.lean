import OutlineNav.Configuration.Load
import OutlineNav.Document.FileTree
import OutlineNav.Proofs.Readings
import OutlineNav.Proofs.WrittenTables

/-!
# Precedence of settings

Where a setting comes from: its variable of the environment if that is set, else the file of the
project, else the file of the user, else its default (`Setting.chosen`). Each setting is chosen for
itself, whatever is written about the others (`settings_chosen`).

Between the files and the configuration lie three steps: the tables are merged, the merged table is
read section by section, and the environment overrides what was read. The first is the theory of
merged tables, applied to the paths of settings, which no table in which the sections are tables
blocks. Of the second it remains to say that reading a value gives this value (`value_ofTable`).
-/

namespace OutlineNav

open Toml (Entries)

/-! ## Settings -/

/-- What can be configured. -/
inductive Setting where
  | timeout
  | maxFileSize
  | server (language : Language)
  | fallback
  | format
  deriving DecidableEq, Repr

namespace Setting

/-- The keys that lead to a setting in a file. -/
def path : Setting → List String
  | timeout => ["lsp", "timeout_secs"]
  | maxFileSize => ["lsp", "max_file_size_mb"]
  | server language => ["lsp", "servers", language.name]
  | fallback => ["navigation", "fallback_to_current"]
  | format => ["output", "format"]

/-- The tables that settings lie in. -/
def sections : List (List String) := [["lsp"], ["lsp", "servers"], ["navigation"], ["output"]]

/-- What a configuration has for a setting. -/
def value (c : Config) : Setting → Option Toml
  | timeout => some (.integer c.servers.timeoutSecs.toNat)
  | maxFileSize => some (.integer c.servers.maxFileSizeMb.toNat)
  | server language => (c.servers.commands.get? language).map .string
  | fallback => some (.boolean c.fallbackToCurrent)
  | format => some (.string c.format)

/-- What a setting is if nobody sets it. -/
def default : Setting → Option Toml
  | timeout => some (.integer 30)
  | maxFileSize => some (.integer 10)
  | server _ => none
  | fallback => some (.boolean true)
  | format => some (.string "json")

/-- What a file writes for a setting, if there is a file. -/
def writtenIn (table : Option Entries) (setting : Setting) : Option Toml :=
  table.bind fun entries => (Toml.table entries).at? setting.path

/-- What the variable of a setting says, if the setting has a variable and that is set; it may say
nothing that the setting can be. -/
def said? (env : Environment) : Setting → Option (Option Toml)
  | timeout => (env "SYMNAV_LSP_TIMEOUT").map fun s =>
    (Text.unsigned64 s.toList).toOption.map fun n => .integer n.toNat
  | fallback => (env "SYMNAV_FALLBACK_TO_CURRENT").map fun s =>
    (Config.parseBool? s).map .boolean
  | format => (env "SYMNAV_OUTPUT_FORMAT").map fun s => some (.string s)
  | maxFileSize | server _ => none

end Setting

/-- Dates and times stand for their texts where a text is expected. -/
def Toml.spelled : Toml → Toml
  | .dateTime t => .string t.text
  | v => v

/-- What a setting is: what its variable says, else what the project writes, else what the user
writes, else its default. -/
def Setting.chosen (env : Environment) (user project : Option Entries) (setting : Setting) :
    Option Toml :=
  match setting.said? env with
  | some v? => v?
  | none =>
    let written := (setting.writtenIn project).or (setting.writtenIn user)
    (written.map (·.spelled)).or setting.default

/-- Where a table has a section, that is a table. -/
def Toml.HasSections (entries : Entries) : Prop :=
  ∀ path ∈ Setting.sections, ∀ v, (Toml.table entries).at? path = some v → ¬v.IsPlain

/-! ## Merged files -/

namespace Toml

open Named (lookup?)

theorem not_isPlain_table (entries : Entries) : ¬(table entries).IsPlain := fun h => h entries rfl

theorem not_isPlain_mergeValue {v : Toml} (h : ¬v.IsPlain) (base? : Option Toml) :
    ¬(mergeValue base? v).IsPlain := by
  obtain ⟨overlay, rfl⟩ := (isPlain_or_table v).resolve_left h
  by_cases hbase : ∃ base, base? = some (table base)
  · obtain ⟨base, rfl⟩ := hbase
    rw [mergeValue_table]
    exact not_isPlain_table _
  · rw [mergeValue_of_ne (not_exists.mp hbase)]
    exact h

/-- A path at which the merged table has no table is looked up above and then below. -/
theorem at?_merge_of_isPlain {base overlay : Entries} {path : List String}
    (h : (table overlay).KeysOnce) (hblocks : ¬(table overlay).Blocks path)
    (hplain : ∀ v, (table (merge base overlay)).at? path = some v → v.IsPlain) :
    (table (merge base overlay)).at? path =
      ((table overlay).at? path).or ((table base).at? path) := by
  rw [← mergeValue_table] at hplain ⊢
  cases hat : (table overlay).at? path with
  | none => exact at?_mergeValue_of_none h hat hblocks
  | some v =>
    have hmerged : (mergeValue (some (table base)) (table overlay)).at? path = _ :=
      at?_mergeValue_of_some h hat
    have hv : v.IsPlain := not_not.mp fun hv => not_isPlain_mergeValue hv _ (hplain _ hmerged)
    rw [hmerged, mergeValue_of_isPlain _ hv]
    rfl

theorem HasSections.merge {base overlay : Entries} (hbase : HasSections base)
    (hoverlay : HasSections overlay) (h : (table overlay).KeysOnce) :
    HasSections (merge base overlay) := by
  intro path hpath v hat
  rw [← mergeValue_table] at hat
  cases hover : (table overlay).at? path with
  | some w =>
    rw [at?_mergeValue_of_some h hover, Option.some_inj] at hat
    exact hat ▸ not_isPlain_mergeValue (hoverlay path hpath w hover) _
  | none =>
    by_cases hblocks : (table overlay).Blocks path
    · rw [at?_mergeValue_of_blocks h hblocks] at hat
      cases hat
    · rw [at?_mergeValue_of_none h hover hblocks] at hat
      exact hbase path hpath v hat

/-- What leads to a setting is a section. -/
theorem mem_sections_of_path {setting : Setting} {before after : List String}
    (h : setting.path = before ++ after) (hbefore : before ≠ []) (hafter : after ≠ []) :
    before ∈ Setting.sections := by
  cases setting <;>
  · rcases before with _ | ⟨a, _ | ⟨b, _ | ⟨c, before⟩⟩⟩ <;>
      simp_all [Setting.path, Setting.sections]

theorem HasSections.not_blocks {entries : Entries} (h : HasSections entries) (setting : Setting) :
    ¬(table entries).Blocks setting.path := by
  rintro ⟨_ | ⟨key, before⟩, after, u, hpath, hafter, hat, hu⟩
  · cases hat
    exact not_isPlain_table entries hu
  · exact h _ (mem_sections_of_path hpath (List.cons_ne_nil _ _) hafter) u hat hu

end Toml

/-! ## What is read -/

theorem Language.ofName?_eq_some_iff {name : String} {language : Language} :
    Language.ofName? name = some language ↔ name = language.name := by
  constructor
  · intro h
    rw [Language.ofName?] at h
    have hname := List.find?_some h
    exact (beq_iff_eq.mp hname).symm
  · rintro rfl
    cases language <;> rfl

theorem Language.name_injective : Function.Injective Language.name := by
  intro a b h
  have ha := Language.ofName?_eq_some_iff.mpr h
  rw [Language.ofName?_eq_some_iff.mpr rfl, Option.some_inj] at ha
  exact ha

namespace Config

open Named (lookup?)
open Toml (KeysOnce HasSections)

section

variable {α : Type}

/-- A reader takes values that are no tables, and what it reads is the value, written by `write`. -/
structure Reads (read : Reader α) (write : α → Toml) : Prop where
  isPlain : ∀ {v a}, read v = .ok a → v.IsPlain
  spelled : ∀ {v a}, read v = .ok a → write a = v.spelled

theorem reads_readString : Reads readString .string where
  isPlain {v a} h := by
    cases v with
    | string | dateTime => exact nofun
    | _ => cases h
  spelled {v a} h := by
    cases v with
    | string | dateTime => cases h; rfl
    | _ => cases h

theorem reads_readBool : Reads readBool .boolean where
  isPlain {v a} h := by
    cases v with
    | boolean => exact nofun
    | _ => cases h
  spelled {v a} h := by
    cases v with
    | boolean => cases h; rfl
    | _ => cases h

theorem readNat_eq_ok_iff {limit : Nat} {v : Toml} {n : Nat} :
    readNat limit v = .ok n ↔ v = .integer n ∧ n < limit := by
  cases v
  case integer i =>
    rw [readNat]
    split
    · next h =>
      rw [Except.ok.injEq, Toml.integer.injEq]
      omega
    · next h =>
      rw [Toml.integer.injEq]
      constructor
      · nofun
      · omega
  all_goals exact ⟨nofun, nofun⟩

theorem reads_readNat (limit : Nat) : Reads (readNat limit) fun n => .integer n where
  isPlain h := by
    obtain ⟨rfl, -⟩ := readNat_eq_ok_iff.mp h
    exact nofun
  spelled h := by
    obtain ⟨rfl, -⟩ := readNat_eq_ok_iff.mp h
    rfl

/-- What is read of a table under a key is what the table has there, or else the default. -/
theorem Reads.setting {read : Reader α} {write : α → Toml} (h : Reads read write) {key : String}
    {default a : α} {entries : Entries} (hread : setting key read default entries = .ok a) :
    some (write a) = ((lookup? key entries).map (·.spelled)).or (some (write default)) ∧
      ∀ v, lookup? key entries = some v → v.IsPlain := by
  rw [Config.setting] at hread
  cases hlookup : lookup? key entries with
  | none =>
    rw [hlookup] at hread
    cases hread
    exact ⟨rfl, nofun⟩
  | some v =>
    rw [hlookup] at hread
    refine ⟨?_, fun _ heq => ?_⟩
    · rw [h.spelled hread]
      rfl
    · cases heq
      exact h.isPlain hread

/-- The entries of a table under a key, if there is one. -/
def inner (key : String) (entries : Entries) : Entries :=
  match lookup? key entries with
  | some (.table below) => below
  | _ => []

theorem lookup?_of_sections {entries : Entries} (h : HasSections entries) {key : String}
    (hkey : [key] ∈ Setting.sections) :
    lookup? key entries = none ∧ inner key entries = [] ∨
      lookup? key entries = some (.table (inner key entries)) := by
  cases hlookup : lookup? key entries with
  | none =>
    left
    rw [inner, hlookup]
    exact ⟨rfl, rfl⟩
  | some v =>
    right
    have hat : (Toml.table entries).at? [key] = some v := by
      rw [Toml.at?_table_cons, hlookup, Option.bind_some, Toml.at?_nil]
    obtain ⟨below, rfl⟩ := (Toml.isPlain_or_table v).resolve_left (h _ hkey v hat)
    rw [inner, hlookup]

/-- A section is read from the table under its key; without it, the defaults are what is read of
nothing. -/
theorem setting_readSection {entries : Entries} (h : HasSections entries) {key : String}
    (hkey : [key] ∈ Setting.sections) (keys : List String)
    {read : Entries → Except ConfigError α} {default : α} (hdefault : read [] = .ok default) :
    setting key (readSection keys read) default entries = read (inner key entries) := by
  rw [setting]
  rcases lookup?_of_sections h hkey with ⟨hlookup, hinner⟩ | hlookup
  · rw [hlookup, hinner, hdefault]
  · rw [hlookup]
    rfl

theorem at?_section {entries : Entries} (h : HasSections entries) {key : String}
    (hkey : [key] ∈ Setting.sections) (next : String) (path : List String) :
    (Toml.table entries).at? (key :: next :: path) =
      (lookup? next (inner key entries)).bind (·.at? path) := by
  rw [Toml.at?_table_cons]
  rcases lookup?_of_sections h hkey with ⟨hlookup, hinner⟩ | hlookup
  · rw [hlookup, hinner]
    rfl
  · rw [hlookup]
    rfl

end

theorem keysOnce_inner {entries : Entries} (h : (Toml.table entries).KeysOnce) (key : String) :
    (Toml.table (inner key entries)).KeysOnce := by
  rw [inner]
  split
  · next below hlookup => exact (Toml.keysOnce_table_iff.mp h).2 key _ hlookup
  · exact Toml.keysOnce_nil

/-! ### Sections -/

theorem ofTable_eq_ok {entries : Entries} (h : HasSections entries) {c : Config}
    (hread : ofTable entries = .ok c) :
    readServers (inner "lsp" entries) = .ok c.servers ∧
      setting "fallback_to_current" readBool true (inner "navigation" entries) =
        .ok c.fallbackToCurrent ∧
      setting "format" readString "json" (inner "output" entries) = .ok c.format := by
  obtain ⟨servers, hservers, hread⟩ := Except.bind_eq_ok_iff.mp hread
  obtain ⟨fallback, hfallback, hread⟩ := Except.bind_eq_ok_iff.mp hread
  obtain ⟨format, hformat, hread⟩ := Except.bind_eq_ok_iff.mp hread
  cases hread
  have hlsp : readServers [] = .ok initial.servers := rfl
  have hnavigation :
      setting "fallback_to_current" readBool true [] = .ok initial.fallbackToCurrent := rfl
  have houtput : setting "format" readString "json" [] = .ok initial.format := rfl
  exact ⟨(setting_readSection h (by decide) _ hlsp).symm.trans hservers,
    (setting_readSection h (by decide) _ hnavigation).symm.trans hfallback,
    (setting_readSection h (by decide) _ houtput).symm.trans hformat⟩

theorem readServers_eq_ok {entries : Entries} {s : ServerSettings}
    (h : readServers entries = .ok s) :
    ∃ seconds size, s.timeoutSecs = .ofNat seconds ∧ s.maxFileSizeMb = .ofNat size ∧
      setting "timeout_secs" (readNat UInt64.size) 30 entries = .ok seconds ∧
      setting "max_file_size_mb" (readNat UInt32.size) 10 entries = .ok size ∧
      setting "servers" readCommands .empty entries = .ok s.commands := by
  obtain ⟨seconds, hseconds, h⟩ := Except.bind_eq_ok_iff.mp h
  obtain ⟨size, hsize, h⟩ := Except.bind_eq_ok_iff.mp h
  obtain ⟨commands, hcommands, h⟩ := Except.bind_eq_ok_iff.mp h
  cases h
  exact ⟨seconds, size, rfl, rfl, hseconds, hsize, hcommands⟩

/-- A number that was read lies below the limit, if the default does. -/
theorem lt_of_setting_readNat {key : String} {limit default n : Nat} {entries : Entries}
    (h : setting key (readNat limit) default entries = .ok n) (hdefault : default < limit) :
    n < limit := by
  rw [setting] at h
  split at h
  · exact (readNat_eq_ok_iff.mp h).2
  · cases h
    exact hdefault

/-! ### Commands of servers -/

/-- Reading commands gives each language the command under its name. -/
theorem get?_of_foldlM_readCommand {entries : Entries} {before after : Table Language String}
    (hnodup : (entries.map (·.1)).Nodup) (h : entries.foldlM readCommand before = .ok after)
    (language : Language) :
    (after.get? language).map Toml.string =
        ((lookup? language.name entries).map (·.spelled)).or
          ((before.get? language).map Toml.string) ∧
      ∀ v, lookup? language.name entries = some v → v.IsPlain := by
  induction entries generalizing before with
  | nil =>
    cases h
    exact ⟨rfl, nofun⟩
  | cons entry entries ih =>
    obtain ⟨name, v⟩ := entry
    obtain ⟨hname, hrest⟩ := List.nodup_cons.mp hnodup
    rw [List.foldlM_cons] at h
    obtain ⟨between, hfirst, h⟩ := Except.bind_eq_ok_iff.mp h
    obtain ⟨hlater, hplain⟩ := ih hrest h
    rw [readCommand] at hfirst
    split at hfirst
    · next named hnamed =>
      obtain rfl := Language.ofName?_eq_some_iff.mp hnamed
      obtain ⟨line, hline, heq⟩ := Except.bind_eq_ok_iff.mp hfirst
      cases heq
      rw [lookup?]
      by_cases hsame : named = language
      · subst hsame
        rw [Named.lookup?_eq_none_iff.mpr hname, Table.get?_insert_self] at hlater
        rw [if_pos rfl]
        refine ⟨?_, fun _ heq => ?_⟩
        · rw [hlater]
          exact congrArg some (reads_readString.spelled hline)
        · cases heq
          exact reads_readString.isPlain hline
      · rw [if_neg (fun heq => hsame (Language.name_injective heq))]
        rw [Table.get?_insert_ne _ (Ne.symm hsame)] at hlater
        exact ⟨hlater, hplain⟩
    · cases hfirst

/-- The commands that are read of a table are those that it has under the names of languages. -/
theorem get?_of_setting_readCommands {entries : Entries} {commands : Table Language String}
    (honce : (Toml.table entries).KeysOnce)
    (h : setting "servers" readCommands .empty entries = .ok commands) (language : Language) :
    let written := (lookup? "servers" entries).bind (·.at? [language.name])
    (commands.get? language).map Toml.string = written.map (·.spelled) ∧
      ∀ v, written = some v → v.IsPlain := by
  rw [setting] at h
  cases hlookup : lookup? "servers" entries with
  | none =>
    rw [hlookup] at h
    cases h
    exact ⟨rfl, nofun⟩
  | some v =>
    rw [hlookup] at h
    rcases Toml.isPlain_or_table v with hplain | ⟨below, rfl⟩
    · cases v
      case table below => exact absurd rfl (hplain below)
      all_goals cases h
    · have hnodup := ((Toml.keysOnce_table_iff.mp honce).2 _ _ hlookup) [] below (Toml.at?_nil _)
      have hcommands := get?_of_foldlM_readCommand hnodup h language
      simpa [Toml.at?_table_cons, Option.bind_some] using hcommands

/-! ### All settings -/

/-- What is read of a table is, for each setting, what the table has there, or else the default. -/
theorem value_ofTable {entries : Entries} (hsections : HasSections entries)
    (honce : (Toml.table entries).KeysOnce) {c : Config} (h : ofTable entries = .ok c)
    (setting : Setting) :
    setting.value c = (((Toml.table entries).at? setting.path).map (·.spelled)).or setting.default ∧
      ∀ v, (Toml.table entries).at? setting.path = some v → v.IsPlain := by
  obtain ⟨hservers, hfallback, hformat⟩ := ofTable_eq_ok hsections h
  obtain ⟨seconds, size, htimeout, hfile, hseconds, hsize, hcommands⟩ := readServers_eq_ok hservers
  have hat : ∀ {key}, [key] ∈ Setting.sections → ∀ next, (Toml.table entries).at? [key, next] =
      lookup? next (inner key entries) := by
    intro key hkey next
    rw [at?_section hsections hkey]
    simp
  cases setting with
  | timeout =>
    have hlt : seconds < UInt64.size := lt_of_setting_readNat hseconds (by decide)
    have hread := (reads_readNat UInt64.size).setting hseconds
    rw [Setting.path, hat (by decide), Setting.value, htimeout, UInt64.toNat_ofNat_of_lt' hlt]
    exact hread
  | maxFileSize =>
    have hlt : size < UInt32.size := lt_of_setting_readNat hsize (by decide)
    have hread := (reads_readNat UInt32.size).setting hsize
    rw [Setting.path, hat (by decide), Setting.value, hfile, UInt32.toNat_ofNat_of_lt' hlt]
    exact hread
  | server language =>
    have hread := get?_of_setting_readCommands (keysOnce_inner honce "lsp") hcommands language
    rw [Setting.path, at?_section hsections (by decide), Setting.value, Setting.default,
      Option.or_none]
    exact hread
  | fallback =>
    rw [Setting.path, hat (by decide)]
    exact reads_readBool.setting hfallback
  | format =>
    rw [Setting.path, hat (by decide)]
    exact reads_readString.setting hformat

/-! ## The environment -/

theorem some_of_overrideBy {α : Type} {env : Environment} {name expected : String}
    {parse? : String → Option α} {current a : α}
    (h : overrideBy env name expected parse? current = .ok a) (write : α → Toml) :
    some (write a) =
      ((env name).map fun s => (parse? s).map write).getD (some (write current)) := by
  rw [overrideBy] at h
  cases henv : env name with
  | none =>
    rw [henv] at h
    cases h
    rfl
  | some s =>
    rw [henv] at h
    dsimp only at h
    cases hparse : parse? s with
    | none =>
      rw [hparse] at h
      cases h
    | some b =>
      rw [hparse] at h
      cases h
      rw [Option.map_some, Option.getD_some, hparse, Option.map_some]

/-- Under an environment every setting is what its variable says, or else what it was before. -/
theorem value_override {env : Environment} {c c' : Config} (h : override env c = .ok c')
    (setting : Setting) :
    setting.value c' = (setting.said? env).getD (setting.value c) := by
  obtain ⟨format, hformat, h⟩ := Except.bind_eq_ok_iff.mp h
  obtain ⟨seconds, hseconds, h⟩ := Except.bind_eq_ok_iff.mp h
  obtain ⟨fallback, hfallback, h⟩ := Except.bind_eq_ok_iff.mp h
  cases h
  cases setting with
  | timeout => exact some_of_overrideBy hseconds fun n => .integer n.toNat
  | maxFileSize => rfl
  | server language => rfl
  | fallback => exact some_of_overrideBy hfallback .boolean
  | format => exact some_of_overrideBy hformat .string

/-! ## Loading -/

/-- The table of a file gives each key once. -/
def WrittenOnce (table : Option Entries) : Prop := ∀ entries ∈ table, (Toml.table entries).KeysOnce

/-- The sections of a file are tables. -/
def WithSections (table : Option Entries) : Prop := ∀ entries ∈ table, HasSections entries

theorem hasSections_nil : HasSections [] := by
  rintro (_ | ⟨key, path⟩) hpath v hat
  · cases hat
    exact Toml.not_isPlain_table []
  · cases hat

theorem WrittenOnce.getD {table : Option Entries} (h : WrittenOnce table) :
    (Toml.table (table.getD [])).KeysOnce := by
  cases table with
  | none => exact Toml.keysOnce_nil
  | some entries => exact h entries rfl

theorem WithSections.getD {table : Option Entries} (h : WithSections table) :
    HasSections (table.getD []) := by
  cases table with
  | none => exact hasSections_nil
  | some entries => exact h entries rfl

theorem ofTables_eq (user project : Option Entries) :
    ofTables user project =
      ofTable (Toml.merge (Toml.merge [] (user.getD [])) (project.getD [])) := by
  cases user <;> cases project <;> simp [ofTables, Toml.merge]

theorem writtenIn_eq (table : Option Entries) (setting : Setting) :
    setting.writtenIn table = (Toml.table (table.getD [])).at? setting.path := by
  cases table with
  | none => cases setting <;> rfl
  | some entries => rfl

/-- Laid over nothing, a table has the settings that it has. -/
theorem at?_merge_nil {entries : Entries} (h : (Toml.table entries).KeysOnce)
    (hsections : HasSections entries) (setting : Setting) :
    (Toml.table (Toml.merge [] entries)).at? setting.path =
      (Toml.table entries).at? setting.path := by
  have hnil : (Toml.table []).at? setting.path = none := by cases setting <;> rfl
  rw [← Toml.mergeValue_table]
  cases hat : (Toml.table entries).at? setting.path with
  | none =>
    rw [Toml.at?_mergeValue_of_none h hat (hsections.not_blocks setting), Option.bind_some, hnil]
  | some v =>
    rw [Toml.at?_mergeValue_of_some h hat, Option.bind_some, hnil,
      Toml.mergeValue_of_ne (fun _ => (Option.some_ne_none _).symm)]

/-- What the files of a user and of a project write, under an environment. -/
theorem value_ofTables {env : Environment} {user project : Option Entries} {c : Config}
    (huser : WrittenOnce user) (hproject : WrittenOnce project) (huser' : WithSections user)
    (hproject' : WithSections project) (h : (ofTables user project).bind (override env) = .ok c)
    (setting : Setting) : setting.value c = setting.chosen env user project := by
  obtain ⟨c₀, htable, hover⟩ := Except.bind_eq_ok_iff.mp h
  rw [ofTables_eq] at htable
  have hbelow : HasSections (Toml.merge [] (user.getD [])) :=
    hasSections_nil.merge huser'.getD huser.getD
  have hkeys := (Toml.keysOnce_nil.merge huser.getD).merge hproject.getD
  obtain ⟨hvalue, hplain⟩ :=
    value_ofTable (hbelow.merge hproject'.getD hproject.getD) hkeys htable setting
  rw [value_override hover setting, hvalue,
    Toml.at?_merge_of_isPlain hproject.getD (hproject'.getD.not_blocks setting) hplain,
    at?_merge_nil huser.getD huser'.getD, ← writtenIn_eq, ← writtenIn_eq, Setting.chosen]
  cases setting.said? env <;> rfl

section

variable {ω : Type} {files : Files (StateM ω)} {w w' : ω}

theorem run_loadTable (files : Files (StateM ω)) (path : String) (w : ω) :
    (loadTable files path).run w =
      match (files.present path).run w with
      | (false, w) => (.ok none, w)
      | (true, w) =>
        match (files.readText path).run w with
        | (.error e, w) => (.error (.file e), w)
        | (.ok text, w) =>
          match Toml.parse? text.toList with
          | some table => (.ok (some table), w)
          | none => (.error (.grammar path), w) := by
  rw [loadTable, StateT.run_bind]
  rcases (files.present path).run w with ⟨_ | _, w₁⟩
  · rfl
  · change (files.readText path >>= _).run w₁ = _
    dsimp only
    rw [StateT.run_bind]
    rcases (files.readText path).run w₁ with ⟨_ | text, w₂⟩
    · rfl
    · dsimp only [bind]
      cases Toml.parse? text.toList <;> rfl

theorem run_load (files : Files (StateM ω)) (env : Environment) (folders : Folders) (w : ω) :
    (load files env folders).run w =
      match (loadTable files (folders.path .user)).run w with
      | (.error e, w) => (.error e, w)
      | (.ok user, w) =>
        match (loadTable files (folders.path .project)).run w with
        | (.error e, w) => (.error e, w)
        | (.ok project, w) => ((ofTables user project).bind (override env), w) := by
  rw [load, StateT.run_bind]
  rcases (loadTable files (folders.path .user)).run w with ⟨_ | user, w₁⟩
  · rfl
  · change (loadTable files (folders.path .project) >>= _).run w₁ = _
    dsimp only
    rw [StateT.run_bind]
    rcases (loadTable files (folders.path .project)).run w₁ with ⟨_ | project, w₂⟩ <;> rfl

theorem writtenOnce_of_loadTable {path : String} {table : Option Entries}
    (h : (loadTable files path).run w = (.ok table, w')) : WrittenOnce table := by
  rintro entries rfl
  rw [run_loadTable] at h
  split at h
  · cases h
  split at h
  · cases h
  split at h
  · next hparse =>
    cases h
    exact Toml.keysOnce_of_parse? hparse
  · cases h

/-- A configuration that is loaded is made from the tables of two files. -/
theorem of_load {env : Environment} {folders : Folders} {c : Config}
    (h : (load files env folders).run w = (.ok c, w')) :
    ∃ user project w₁, (loadTable files (folders.path .user)).run w = (.ok user, w₁) ∧
      (loadTable files (folders.path .project)).run w₁ = (.ok project, w') ∧
      (ofTables user project).bind (override env) = .ok c := by
  rw [run_load] at h
  split at h
  · cases h
  next user w₁ huser =>
  split at h
  · cases h
  next project w₂ hproject =>
  obtain ⟨hc, rfl⟩ := Prod.mk.inj h
  exact ⟨user, project, w₁, huser, hproject, hc⟩

end

end Config

/-- **Precedence.** Laying one table over another gives at every path what is above if that is no
table, the merged tables if both are tables, the table above if there is none below, nothing below
what is no table, and else what is below. So if a configuration can be loaded, from files whose
sections are tables, then every setting in it is what its variable says, else what the file of the
project writes, else what the file of the user writes, else its default. -/
theorem settings_precedence :
    (∀ base overlay : Entries, (Toml.table overlay).KeysOnce → ∀ path,
      Toml.LaidOver overlay base (Toml.merge base overlay) path) ∧
    ∀ {ω : Type} (files : Files (StateM ω)) (env : Environment) (folders : Config.Folders)
        (w w' : ω) (c : Config), (Config.load files env folders).run w = (.ok c, w') →
      ∃ user project w₁,
        (Config.loadTable files (folders.path .user)).run w = (.ok user, w₁) ∧
        (Config.loadTable files (folders.path .project)).run w₁ = (.ok project, w') ∧
        (Config.WithSections user → Config.WithSections project →
          ∀ setting : Setting, setting.value c = setting.chosen env user project) := by
  refine ⟨fun base overlay h path => Toml.laidOver_merge base h path, ?_⟩
  intro ω files env folders w w' c hload
  obtain ⟨user, project, w₁, huser, hproject, h⟩ := Config.of_load hload
  refine ⟨user, project, w₁, huser, hproject, fun huser' hproject' setting => ?_⟩
  exact Config.value_ofTables (Config.writtenOnce_of_loadTable huser)
    (Config.writtenOnce_of_loadTable hproject) huser' hproject' h setting

/-! ### Two files and an environment -/

instance (v : Toml) : Decidable v.IsPlain :=
  match v with
  | .table entries => isFalse (Toml.not_isPlain_table entries)
  | .boolean _ | .integer _ | .float _ | .string _ | .dateTime _ | .array _ => isTrue nofun

instance (entries : Entries) : Decidable (Toml.HasSections entries) :=
  inferInstanceAs (Decidable (∀ path ∈ Setting.sections,
    ∀ v ∈ (Toml.table entries).at? path, ¬v.IsPlain))

instance (table : Option Entries) : Decidable (Config.WithSections table) :=
  inferInstanceAs (Decidable (∀ entries ∈ table, Toml.HasSections entries))

namespace Config

/-- The files of a user and of a project, each with a command of its own. -/
def twoFiles : FileTree :=
  let file (text : String) : FileTree := .file (Text.encodeUtf8 text.toList)
  .folder [
    ("user", .folder [("config.toml",
      file "[lsp]\nmax_file_size_mb=2\n[lsp.servers]\ncpp=\"clangd\"\n")]),
    ("project", .folder [("config.toml",
      file "[lsp.servers]\nrust=\"ra\"\n[output]\nformat=\"text\"\n")])]

def twoFolders : Folders := ⟨"/user", "/project"⟩

def shortTimeout : Environment := fun name => if name = timeoutVariable then some "5" else none

def twoFilesLoad : Except ConfigError Config × FileTree :=
  (load (FileTree.files "/") shortTimeout twoFolders).run twoFiles

def twoFilesTable (level : Level) (w : FileTree) :
    Except ConfigError (Option Entries) × FileTree :=
  (loadTable (FileTree.files "/") (twoFolders.path level)).run w

end Config

theorem settings_precedence_two_files :
    Toml.LaidOver [("t", .table [("y", .integer 3)])]
        [("t", .table [("x", .integer 1), ("y", .integer 2)])]
        [("t", .table [("x", .integer 1), ("y", .integer 3)])] ["t", "x"] ∧
      ∃ user project c, Config.twoFilesLoad.1 = .ok c ∧
        (∀ setting : Setting, setting.value c = setting.chosen Config.shortTimeout user project) ∧
        c.servers.timeoutSecs = 5 ∧ c.servers.maxFileSizeMb = 2 ∧
        c.servers.commands.get? .cpp = some "clangd" ∧
        c.servers.commands.get? .rust = some "ra" ∧ c.format = "text" := by
  obtain ⟨hmerge, hload⟩ := settings_precedence
  constructor
  · have honce : (Toml.table [("t", .table [("y", .integer 3)])]).KeysOnce :=
      Toml.keysOnce_nil.insert
        (Toml.keysOnce_nil.insert (show (Toml.integer 3).IsPlain from nofun).keysOnce "y") "t"
    exact hmerge [("t", .table [("x", .integer 1), ("y", .integer 2)])] _ honce ["t", "x"]
  · obtain ⟨hsections, hsections', hok, hvalues⟩ :
        Config.WithSections (Config.twoFilesTable .user Config.twoFiles).1.toOption.join ∧
        Config.WithSections (Config.twoFilesTable .project
          (Config.twoFilesTable .user Config.twoFiles).2).1.toOption.join ∧
        Config.twoFilesLoad.1.isOk = true ∧
        (let c := Config.twoFilesLoad.1.toOption.getD .initial;
          c.servers.timeoutSecs = 5 ∧ c.servers.maxFileSizeMb = 2 ∧
          c.servers.commands.get? .cpp = some "clangd" ∧
          c.servers.commands.get? .rust = some "ra" ∧ c.format = "text") := by
      decide +kernel
    obtain ⟨c, hc⟩ : ∃ c, Config.twoFilesLoad.1 = .ok c := by
      cases h : Config.twoFilesLoad.1 with
      | ok c => exact ⟨c, rfl⟩
      | error e =>
        rw [h] at hok
        cases hok
    rw [hc] at hvalues
    obtain ⟨user, project, w₁, huser, hproject, hsettings⟩ :=
      hload (FileTree.files "/") Config.shortTimeout Config.twoFolders Config.twoFiles
        Config.twoFilesLoad.2 c (Prod.ext hc rfl)
    change Config.twoFilesTable .user Config.twoFiles = _ at huser
    change Config.twoFilesTable .project w₁ = _ at hproject
    rw [huser] at hsections hsections'
    rw [hproject] at hsections'
    exact ⟨user, project, c, hc, hsettings hsections hsections', hvalues⟩

end OutlineNav
