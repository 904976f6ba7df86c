import OutlineNav.Proofs.MergedTables
import OutlineNav.Toml.Parser

/-!
# Written tables

The tables that a configuration file writes give each key once (`keysOnce_of_parse?`): wherever a
line gives a key a value, the key is looked up first or takes the place of its own table. That holds
for the lines of a file, for settings in braces, and so for every value that is read.
-/

namespace OutlineNav.Toml

open Named (lookup?)

theorem isPlain_string (value : String) : (string value).IsPlain := nofun

theorem isPlain_array (items : List Toml) : (array items).IsPlain := nofun

/-! ## Tables that are built -/

namespace Nodes

theorem lookup?_values (key : String) (nodes : Nodes) :
    lookup? key (values nodes) = (lookup? key nodes).map Node.value := by
  induction nodes with
  | nil =>
    rw [values]
    rfl
  | cons e nodes ih =>
    obtain ⟨k, node⟩ := e
    rw [values, lookup?, lookup?, ih]
    split <;> rfl

theorem values_insert (key : String) (node : Node) (nodes : Nodes) :
    values (Named.insert key node nodes) = Named.insert key node.value (values nodes) := by
  induction nodes with
  | nil => simp only [Named.insert, values]
  | cons e nodes ih =>
    obtain ⟨k, other⟩ := e
    rw [values, Named.insert, Named.insert]
    split
    · rw [values]
    · rw [values, ih]

/-- The finished table gives each key once. -/
def KeysOnce (nodes : Nodes) : Prop := (table (values nodes)).KeysOnce

theorem KeysOnce.nil : KeysOnce [] := by
  rw [KeysOnce, values]
  exact keysOnce_nil

theorem KeysOnce.insert {nodes : Nodes} (h : nodes.KeysOnce) {node : Node}
    (hnode : node.value.KeysOnce) (key : String) : KeysOnce (Named.insert key node nodes) := by
  rw [KeysOnce, values_insert]
  exact Toml.KeysOnce.insert h hnode key

/-- A table below another one. -/
theorem KeysOnce.inner {nodes inner : Nodes} (h : nodes.KeysOnce) {key : String} {origin : Origin}
    (hlookup : lookup? key nodes = some (.table origin inner)) : inner.KeysOnce := by
  refine (keysOnce_table_iff.mp h).2 key (.table (values inner)) ?_
  rw [lookup?_values, hlookup, Option.map_some, Node.value]

theorem keysOnce_value_table {origin : Origin} {nodes : Nodes} (h : nodes.KeysOnce) :
    (Node.table origin nodes).value.KeysOnce := by
  rw [Node.value]
  exact h

theorem keysOnce_value_elements (tables : List Nodes) : (Node.elements tables).value.KeysOnce := by
  rw [Node.value]
  exact (isPlain_array _).keysOnce

theorem KeysOnce.within {dotted : Bool} {f : Origin → Nodes → Option Nodes} {path : List String}
    {origin : Origin} {nodes nodes' : Nodes}
    (hf : ∀ {origin nodes nodes'}, KeysOnce nodes → f origin nodes = some nodes' → KeysOnce nodes')
    (h : nodes.KeysOnce) (hwithin : within dotted f path origin nodes = some nodes') :
    nodes'.KeysOnce := by
  induction path generalizing origin nodes nodes' with
  | nil => exact hf h hwithin
  | cons key path ih =>
    rw [Nodes.within] at hwithin
    split at hwithin
    · obtain ⟨inner, hinner, heq⟩ := Option.bind_eq_some_iff.mp hwithin
      cases heq
      exact h.insert (keysOnce_value_table (ih .nil hinner)) key
    · next origin inner hlookup =>
      split at hwithin
      · cases hwithin
      · obtain ⟨inner', hinner, heq⟩ := Option.bind_eq_some_iff.mp hwithin
        cases heq
        exact h.insert (keysOnce_value_table (ih (h.inner hlookup) hinner)) key
    · split at hwithin
      · cases hwithin
      · obtain ⟨last, -, heq⟩ := Option.bind_eq_some_iff.mp hwithin
        cases heq
        exact h.insert (keysOnce_value_elements _) key
    · cases hwithin

theorem KeysOnce.set {key : Key} {v : Toml} {nodes nodes' : Nodes} (h : nodes.KeysOnce)
    (hv : v.KeysOnce) (hset : nodes.set key v = some nodes') : nodes'.KeysOnce := by
  refine h.within ?_ hset
  intro origin nodes nodes' h hadd
  split at hadd
  · cases hadd
  · split at hadd
    · cases hadd
      refine h.insert ?_ key.name
      rw [Node.value]
      exact hv
    · cases hadd

theorem KeysOnce.openTable {key : Key} {nodes nodes' : Nodes} (h : nodes.KeysOnce)
    (hopen : nodes.openTable key = some nodes') : nodes'.KeysOnce := by
  refine h.within ?_ hopen
  intro origin nodes nodes' h hadd
  split at hadd
  · cases hadd
    exact h.insert (keysOnce_value_table .nil) key.name
  · next inner hlookup =>
    cases hadd
    exact h.insert (keysOnce_value_table (h.inner hlookup)) key.name
  · cases hadd

theorem KeysOnce.openElement {key : Key} {nodes nodes' : Nodes} (h : nodes.KeysOnce)
    (hopen : nodes.openElement key = some nodes') : nodes'.KeysOnce := by
  refine h.within ?_ hopen
  intro origin nodes nodes' h hadd
  split at hadd
  · cases hadd
    exact h.insert (keysOnce_value_elements _) key.name
  · cases hadd
    exact h.insert (keysOnce_value_elements _) key.name
  · cases hadd

/-- The values that lines give to keys have keys given once themselves. -/
theorem KeysOnce.addLines {current : List String} {nodes nodes' : Nodes} {lines : List Line}
    (h : nodes.KeysOnce) (hlines : ∀ key v, Line.setting key v ∈ lines → v.KeysOnce)
    (hadd : nodes.addLines current lines = some nodes') : nodes'.KeysOnce := by
  induction lines generalizing current nodes with
  | nil =>
    cases hadd
    exact h
  | cons line lines ih =>
    have hrest : ∀ key v, Line.setting key v ∈ lines → v.KeysOnce := fun key v hmem =>
      hlines key v (List.mem_cons_of_mem _ hmem)
    cases line with
    | setting key v =>
      obtain ⟨nodes₁, hfirst, hadd⟩ := Option.bind_eq_some_iff.mp hadd
      have hv : v.KeysOnce := hlines key v List.mem_cons_self
      exact ih (h.within (fun h hset => h.set hv hset) hfirst) hrest hadd
    | table key =>
      obtain ⟨nodes₁, hfirst, hadd⟩ := Option.bind_eq_some_iff.mp hadd
      exact ih (h.openTable hfirst) hrest hadd
    | element key =>
      obtain ⟨nodes₁, hfirst, hadd⟩ := Option.bind_eq_some_iff.mp hadd
      exact ih (h.openElement hfirst) hrest hadd

/-- The same of the settings that stand between braces. -/
theorem KeysOnce.addSettings {settings : List (Key × Toml)} {nodes nodes' : Nodes}
    (h : nodes.KeysOnce) (hsettings : ∀ setting ∈ settings, setting.2.KeysOnce)
    (hadd : settings.foldlM (fun nodes (key, value) => Nodes.set key value nodes) nodes =
      some nodes') : nodes'.KeysOnce := by
  induction settings generalizing nodes with
  | nil =>
    cases hadd
    exact h
  | cons setting settings ih =>
    obtain ⟨hfirst, hrest⟩ := List.forall_mem_cons.mp hsettings
    obtain ⟨between, hset, hadd⟩ := Option.bind_eq_some_iff.mp hadd
    exact ih (h.set hfirst hset) hrest hadd

end Nodes

theorem keysOnce_of_ofLines {lines : List Line} {entries : Entries}
    (hlines : ∀ key v, Line.setting key v ∈ lines → v.KeysOnce)
    (h : ofLines lines = some entries) : (table entries).KeysOnce := by
  obtain ⟨nodes, hadd, rfl⟩ := Option.map_eq_some_iff.mp h
  exact Nodes.KeysOnce.nil.addLines hlines hadd

theorem keysOnce_of_ofSettings {settings : List (Key × Toml)} {v : Toml}
    (hsettings : ∀ setting ∈ settings, setting.2.KeysOnce) (h : ofSettings settings = some v) :
    v.KeysOnce := by
  obtain ⟨nodes, hadd, rfl⟩ := Option.map_eq_some_iff.mp h
  exact Nodes.KeysOnce.nil.addSettings hsettings hadd

/-! ## Values that are read -/

theorem isPlain_of_plain? {cs : List Char} {v : Toml} (h : plain? cs = some v) : v.IsPlain := by
  rw [plain?] at h
  split at h
  · cases h
    exact nofun
  split at h
  · cases h
    exact nofun
  simp only [Option.orElse_eq_or, Option.or_eq_some_iff, Option.map_eq_some_iff] at h
  rcases h with ⟨_, -, rfl⟩ | ⟨-, ⟨_, -, rfl⟩ | ⟨-, _, -, rfl⟩⟩ <;> exact nofun

theorem isPlain_of_readRun {c : Char} {rest : List Char} {p : Text.Parsed Toml (rest.length + 1)}
    (h : readRun c rest = some p) : p.value.IsPlain := by
  have hplain : ∀ cs (rest' : List Char) lt,
      ((plain? cs).bind fun v => Reader.done v rest' lt) = some p → p.value.IsPlain := by
    intro cs rest' lt hbind
    obtain ⟨v, hv, hdone⟩ := Option.bind_eq_some_iff.mp hbind
    cases hdone
    exact isPlain_of_plain? hv
  unfold readRun at h
  split at h
  · dsimp only at h
    split at h
    · exact hplain _ _ _ h
    · exact hplain _ _ _ h
  · exact hplain _ _ _ h

/-- What readers of values give has keys given once, on texts shorter than `n`. -/
structure ReadsOnce (n : Nat) : Prop where
  value : ∀ {depth : Nat} {s : List Char} {p : Text.Parsed Toml s.length}, s.length < n →
    readValue depth s = some p → p.value.KeysOnce
  setting : ∀ {depth : Nat} {s : List Char} {p : Text.Parsed (Key × Toml) s.length}, s.length < n →
    readSetting depth s = some p → p.value.2.KeysOnce
  settings : ∀ {depth : Nat} {first : Bool} {s : List Char}
    {p : Text.Parsed (List (Key × Toml)) s.length}, s.length < n →
    readSettings depth first s = some p → ∀ setting ∈ p.value, setting.2.KeysOnce

theorem keysOnce_of_readValue {depth : Nat} {s : List Char} (ih : ReadsOnce s.length)
    {p : Text.Parsed Toml s.length} (h : readValue depth s = some p) : p.value.KeysOnce := by
  unfold readValue at h
  split at h
  · cases h
  next c rest =>
  split at h
  · split at h
    · cases h
      exact (isPlain_string _).keysOnce
    · cases h
  split at h
  · split at h
    · cases h
    · split at h
      · cases h
        exact (isPlain_array _).keysOnce
      · cases h
  split at h
  · split at h
    · cases h
    · split at h
      · next settings hsettings =>
        obtain ⟨v, hv, hdone⟩ := Option.bind_eq_some_iff.mp h
        cases hdone
        exact keysOnce_of_ofSettings (ih.settings (Text.lt_behind rest) hsettings) hv
      · cases h
  split at h
  · exact (isPlain_of_readRun h).keysOnce
  · cases h

theorem keysOnce_of_readSetting {depth : Nat} {s : List Char} (ih : ReadsOnce s.length)
    {p : Text.Parsed (Key × Toml) s.length} (h : readSetting depth s = some p) :
    p.value.2.KeysOnce := by
  unfold readSetting at h
  split at h
  · cases h
  next key hkey =>
  split at h
  · next rest hrest =>
    split at h
    · next v hv =>
      cases h
      have hlt : (skipBlanks rest).length < s.length := by
        have := key.lt
        have := length_skipBlanks_le rest
        simp_all
        omega
      exact ih.value hlt hv
    · cases h
  · cases h

theorem keysOnce_of_readSettings {depth : Nat} {first : Bool} {s : List Char}
    (ih : ReadsOnce s.length) {p : Text.Parsed (List (Key × Toml)) s.length}
    (h : readSettings depth first s = some p) : ∀ setting ∈ p.value, setting.2.KeysOnce := by
  unfold readSettings at h
  split at h
  · split at h
    · cases h
      exact List.forall_mem_nil _
    · cases h
  · split at h
    · cases h
    next setting hsetting =>
    have hfirst := keysOnce_of_readSetting ih hsetting
    dsimp only at h
    split at h
    · next rest hrest =>
      split at h
      · next settings hsettings =>
        cases h
        have hlt := Nat.lt_trans (length_lt_of_skipBlanks hrest) setting.lt
        exact List.forall_mem_cons.mpr ⟨hfirst, ih.settings hlt hsettings⟩
      · cases h
    · cases h
      exact List.forall_mem_singleton.mpr hfirst
    · cases h

theorem readsOnce (n : Nat) : ReadsOnce n := by
  induction n with
  | zero => exact ⟨nofun, nofun, nofun⟩
  | succ n ih =>
    -- Each reader hands the others shorter texts only, so they read within the bound of its text.
    have hshorter : ∀ {s : List Char}, s.length < n + 1 → ReadsOnce s.length := fun hs =>
      ⟨fun hlt => ih.value (by omega), fun hlt => ih.setting (by omega),
        fun hlt => ih.settings (by omega)⟩
    exact ⟨fun hs => keysOnce_of_readValue (hshorter hs),
      fun hs => keysOnce_of_readSetting (hshorter hs),
      fun hs => keysOnce_of_readSettings (hshorter hs)⟩

/-! ## Files -/

/-- A header gives no key a value. -/
theorem ne_setting_of_readTable {start : List Char} {p : Text.Parsed Line (start.length + 1)}
    (h : readTable start = some p) (key : Key) (v : Toml) : p.value ≠ .setting key v := by
  unfold readTable at h
  split at h <;>
  · obtain ⟨header, -, hdone⟩ := Option.bind_eq_some_iff.mp h
    cases hdone
    exact nofun

theorem keysOnce_of_readLines {s : List Char} {lines : List Line} (h : readLines s = some lines) :
    ∀ key v, Line.setting key v ∈ lines → v.KeysOnce := by
  induction hn : s.length using Nat.strongRecOn generalizing s lines with
  | _ n ih =>
  subst hn
  unfold readLines at h
  split at h
  · cases h
    exact fun _ _ hmem => absurd hmem List.not_mem_nil
  next c start hstart =>
  have hlt := length_lt_of_skipBlanks hstart
  dsimp only at h
  -- a comment, an empty line, a header, and else a setting
  split at h
  · split at h
    · next p hp =>
      have := p.lt
      have := (List.dropWhile_sublist isPlainChar (l := start)).length_le
      exact ih p.rest.length (by omega) h rfl
    · cases h
  split at h
  · split at h
    · next p hp =>
      have : p.rest.length < start.length + 1 := p.lt
      exact ih p.rest.length (by omega) h rfl
    · cases h
  split at h
  · split at h
    · next p hp =>
      have := p.lt
      obtain ⟨rest, hrest, rfl⟩ := Option.map_eq_some_iff.mp h
      intro key v hmem
      rcases List.mem_cons.mp hmem with heq | hmem
      · exact absurd heq.symm (ne_setting_of_readTable hp key v)
      · exact ih p.rest.length (by omega) hrest rfl key v hmem
    · cases h
  split at h
  · cases h
  · next p hp =>
    split at h
    · next e he =>
      have : p.rest.length < start.length + 1 := p.lt
      have := e.lt
      obtain ⟨rest, hrest, rfl⟩ := Option.map_eq_some_iff.mp h
      intro key v hmem
      rcases List.mem_cons.mp hmem with heq | hmem
      · cases heq
        exact keysOnce_of_readSetting (readsOnce _) hp
      · exact ih e.rest.length (by omega) hrest rfl key v hmem
    · cases h

/-- The table that a text writes gives each key once. -/
theorem keysOnce_of_parse? {text : List Char} {entries : Entries} (h : parse? text = some entries) :
    (table entries).KeysOnce := by
  unfold parse? at h
  split at h <;>
  · obtain ⟨lines, hlines, hentries⟩ := Option.bind_eq_some_iff.mp h
    exact keysOnce_of_ofLines (keysOnce_of_readLines hlines) hentries

end OutlineNav.Toml
