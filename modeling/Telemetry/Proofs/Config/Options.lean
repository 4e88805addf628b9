import Mathlib.Data.List.Pairwise
import Telemetry.Config.Options

/-!
What the options are after a configuration was read. Each entry sets the one option that its key
names, in whatever spelling, so that the last entry for an option counts; the first entry that sets
none is why a configuration is refused. A file is read on top of the entries that name it, by the
same rules but for the path to a file, which it may not set.
-/

namespace Telemetry.MeasureOptions

open Config (Result within foldEntries)

/-! ### Keys -/

namespace Field

/-- The keys that name an option, as they are normally spelled. -/
def names : Field → List String
  | .enabled => ["enabled", "enable"]
  | .registryName => ["registry_name", "registry"]
  | .jmxEnabled => ["jmx_enabled"]
  | .jmxDomain => ["jmx_domain"]
  | .configPath => ["config_path", "config_file"]
  | .baseName => ["base_name"]
  | .eventBusHandlers => ["monitored_event_bus_handlers", "monitored_handlers"]
  | .httpServerUris => ["monitored_http_server_uris", "monitored_server_uris"]
  | .httpClientUris => ["monitored_http_client_uris", "monitored_client_uris"]
  | .httpClientEndpoints => ["monitored_http_client_endpoints", "monitored_endpoints"]

theorem ofKey?_eq_some_iff {key : String} {f : Field} :
    ofKey? key = some f ↔ Config.Key.normalize key ∈ f.names := by
  constructor
  · intro h
    unfold ofKey? at h
    split at h <;> cases h <;> simp [names, *]
  · intro h
    cases f <;> simp only [names, List.mem_cons, List.not_mem_nil] at h <;>
      rcases h with h | h | h <;> simp_all [ofKey?]

/-- What is said to be expected of the value of an option. -/
def kindText : Field → String
  | .enabled | .jmxEnabled => "bool"
  | .registryName | .jmxDomain => "string"
  | .configPath => "file path"
  | .baseName => "metric name"
  | .eventBusHandlers | .httpServerUris | .httpClientUris | .httpClientEndpoints => "match rules"

end Field

/-- An entry of a map. -/
abbrev Entry := Yaml × Yaml

/-- The key of the entry is one of the option's in some spelling. -/
def Field.Names (f : Field) (e : Entry) : Prop :=
  ∃ key, e.1 = .string key ∧ Config.Key.normalize key ∈ f.names

theorem Field.Names.unique {f g : Field} {e : Entry} (hf : f.Names e) (hg : g.Names e) : f = g := by
  obtain ⟨key, hk, hf⟩ := hf
  obtain ⟨key', hk', hg⟩ := hg
  cases hk.symm.trans hk'
  rw [← ofKey?_eq_some_iff] at hf hg
  exact Option.some.inj (hf.symm.trans hg)

theorem toOption_within {α : Type} (place : ConfigError → ConfigError) (x : Result α) :
    (within place x).toOption = x.toOption := by
  cases x <;> rfl

variable [Pattern.Engine]

/-! ### The options one by one -/

namespace Field

/-- What an option holds. -/
def Value : Field → Type
  | .enabled | .jmxEnabled => Bool
  | .registryName | .jmxDomain | .configPath => Option String
  | .baseName => MetricName
  | .eventBusHandlers | .httpServerUris | .httpClientUris | .httpClientEndpoints => RuleList

def get : (f : Field) → MeasureOptions → f.Value
  | .enabled, o => o.enabled
  | .registryName, o => o.registryName
  | .jmxEnabled, o => o.jmxEnabled
  | .jmxDomain, o => o.jmxDomain
  | .configPath, o => o.configPath
  | .baseName, o => o.baseName
  | .eventBusHandlers, o => o.eventBusHandlers
  | .httpServerUris, o => o.httpServerUris
  | .httpClientUris, o => o.httpClientUris
  | .httpClientEndpoints, o => o.httpClientEndpoints

def put : (f : Field) → f.Value → MeasureOptions → MeasureOptions
  | .enabled, b, o => { o with enabled := b }
  | .registryName, s, o => { o with registryName := s }
  | .jmxEnabled, b, o => { o with jmxEnabled := b }
  | .jmxDomain, s, o => { o with jmxDomain := s }
  | .configPath, s, o => { o with configPath := s }
  | .baseName, n, o => { o with baseName := n }
  | .eventBusHandlers, rs, o => { o with eventBusHandlers := rs }
  | .httpServerUris, rs, o => { o with httpServerUris := rs }
  | .httpClientUris, rs, o => { o with httpClientUris := rs }
  | .httpClientEndpoints, rs, o => { o with httpClientEndpoints := rs }

@[simp] theorem get_put_self (f : Field) (a : f.Value) (o : MeasureOptions) :
    f.get (f.put a o) = a := by
  cases f <;> rfl

theorem get_put_of_ne {f g : Field} (h : f ≠ g) (a : g.Value) (o : MeasureOptions) :
    f.get (g.put a o) = f.get o := by
  cases f <;> cases g <;> first | rfl | exact absurd rfl h

theorem ext_get {o o' : MeasureOptions} (h : ∀ f : Field, f.get o = f.get o') : o = o' := by
  obtain ⟨⟩ := o
  obtain ⟨⟩ := o'
  rw [mk.injEq]
  exact ⟨h .enabled, h .registryName, h .jmxEnabled, h .jmxDomain, h .configPath, h .baseName,
    h .eventBusHandlers, h .httpServerUris, h .httpClientUris, h .httpClientEndpoints⟩

/-- What a value stands for as the value of an option. -/
def convert (fs : Files) (lookup : Option String) : (f : Field) → Yaml → Result f.Value
  | .enabled, v | .jmxEnabled, v => Config.bool v
  | .registryName, v | .jmxDomain, v => (Config.text v).map some
  | .configPath, v => (Config.filePath fs lookup v).map some
  | .baseName, v => Config.name v
  | .eventBusHandlers, v | .httpServerUris, v | .httpClientUris, v | .httpClientEndpoints, v =>
    Config.rules v

/-- Only a path depends on what files there are. -/
theorem convert_congr {f : Field} (h : f ≠ .configPath) (fs fs' : Files) (l l' : Option String)
    (v : Yaml) : f.convert fs l v = f.convert fs' l' v := by
  cases f <;> first | rfl | exact absurd rfl h

end Field

theorem setField_eq (fs : Files) (lookup : Option String) (o : MeasureOptions) (f : Field)
    (key : String) (v : Yaml) :
    o.setField fs lookup f key v =
      (within (.inValue f.kindText key) (f.convert fs lookup v)).map (f.put · o) := by
  cases f with
  | registryName | jmxDomain =>
    simp only [setField, Field.convert]
    cases Config.text v <;> rfl
  | configPath =>
    simp only [setField, Field.convert]
    cases Config.filePath fs lookup v <;> rfl
  | _ => rfl

/-! ### Entries -/

/-- Where entries stand: beside what names the file, or in the file. -/
inductive Layer
  | inline (lookup : Option String)
  | file

/-- An option with its new value. -/
structure Setting where
  field : Field
  value : field.Value

def Setting.apply (s : Setting) (o : MeasureOptions) : MeasureOptions := s.field.put s.value o

namespace Layer

def lookup : Layer → Option String
  | .inline lookup => lookup
  | .file => none

/-- The file may not name another one. -/
def Allows : Layer → Field → Prop
  | .inline _, _ => True
  | .file, f => f ≠ .configPath

def set (fs : Files) : Layer → MeasureOptions → String → Yaml → Result MeasureOptions
  | .inline lookup => setKey fs lookup
  | .file => setFileKey fs

/-- The entry sets an option to what its value stands for. -/
def Reads (fs : Files) (layer : Layer) (e : Entry) (s : Setting) : Prop :=
  s.field.Names e ∧ layer.Allows s.field ∧ s.field.convert fs layer.lookup e.2 = .ok s.value

/-- Why an entry sets no option. -/
inductive Fault (fs : Files) (layer : Layer) : Entry → ConfigError → Prop
  | keyNotText {e : Entry} (h : ∀ key, e.1 ≠ .string key) : Fault fs layer e .keyNotText
  | unknownKey {key : String} {v : Yaml}
    (h : ∀ f : Field, Config.Key.normalize key ∉ f.names) :
    Fault fs layer (.string key, v) (.inKey key (.unknownKey key))
  | nestedFile {key : String} {v : Yaml} {f : Field} (h : Config.Key.normalize key ∈ f.names)
    (refused : ¬layer.Allows f) : Fault fs layer (.string key, v) (.inKey key (.nestedFile key))
  | value {key : String} {v : Yaml} {f : Field} {err : ConfigError}
    (h : Config.Key.normalize key ∈ f.names) (allowed : layer.Allows f)
    (bad : f.convert fs layer.lookup v = .error err) :
    Fault fs layer (.string key, v) (.inKey key (.inValue f.kindText key err))

/-- Every entry sets an option. -/
def Valid (fs : Files) (layer : Layer) (entries : List Entry) : Prop :=
  ∀ e ∈ entries, ∃ s, layer.Reads fs e s

/-- The error is that of the first entry that sets no option. -/
def FirstFault (fs : Files) (layer : Layer) (entries : List Entry) (err : ConfigError) : Prop :=
  ∃ before e after, entries = before ++ e :: after ∧ layer.Valid fs before ∧ layer.Fault fs e err

/-- The new value of an option is that of the last entry for it, or the old one if there is none. -/
def Settles (fs : Files) (layer : Layer) (f : Field) (entries : List Entry)
    (old new : f.Value) : Prop :=
  (∃ before e after, entries = before ++ e :: after ∧ layer.Reads fs e ⟨f, new⟩ ∧
    ∀ x ∈ after, ¬f.Names x) ∨
  (∀ e ∈ entries, ¬f.Names e) ∧ new = old

end Layer

namespace Layer

variable {fs fs' : Files} {layer : Layer} {e : Entry} {entries : List Entry} {s : Setting}
  {err : ConfigError}

theorem Reads.set_eq (h : layer.Reads fs e s) {key : String} (hk : e.1 = .string key)
    (o : MeasureOptions) : layer.set fs o key e.2 = .ok (s.apply o) := by
  obtain ⟨⟨key', hk', hn⟩, allowed, converted⟩ := h
  cases hk.symm.trans hk'
  have named := Field.ofKey?_eq_some_iff.mpr hn
  have set : o.setKey fs layer.lookup key e.2 = .ok (s.apply o) := by
    rw [setKey, named]
    change o.setField fs layer.lookup s.field key e.2 = _
    rw [setField_eq, converted]
    rfl
  cases layer with
  | inline lookup => exact set
  | file =>
    have other : Field.ofKey? key ≠ some .configPath := by
      rw [named]
      exact fun h => allowed (Option.some.inj h)
    rw [Layer.set, setFileKey, if_neg other]
    exact set

theorem foldEntries_of_reads (h : layer.Reads fs e s) (o : MeasureOptions) (rest : List Entry) :
    foldEntries (layer.set fs) o (e :: rest) = foldEntries (layer.set fs) (s.apply o) rest := by
  obtain ⟨key, hk, -⟩ := h.1
  obtain ⟨k, v⟩ := e
  obtain rfl : k = .string key := hk
  have set : layer.set fs o key v = .ok (s.apply o) := h.set_eq rfl o
  simp only [foldEntries, Config.forEntries, set]

theorem foldEntries_of_fault (h : layer.Fault fs e err) (o : MeasureOptions) (rest : List Entry) :
    foldEntries (layer.set fs) o (e :: rest) = .error err := by
  have refused {key : String} {v : Yaml} {cause : ConfigError}
      (set : layer.set fs o key v = .error cause) :
      foldEntries (layer.set fs) o ((.string key, v) :: rest) = .error (.inKey key cause) := by
    simp only [foldEntries, Config.forEntries, set]
  cases h with
  | keyNotText h =>
    obtain ⟨k, v⟩ := e
    cases k with
    | string key => exact absurd rfl (h key)
    | _ => rfl
  | @unknownKey key v h =>
    have unnamed : Field.ofKey? key = none :=
      Option.eq_none_iff_forall_ne_some.mpr fun f hf => h f (Field.ofKey?_eq_some_iff.mp hf)
    apply refused
    cases layer <;> simp [Layer.set, setFileKey, setKey, unnamed]
  | @nestedFile key v f h forbidden =>
    apply refused
    cases layer with
    | inline lookup => exact absurd trivial forbidden
    | file =>
      obtain rfl : f = .configPath := not_not.mp forbidden
      rw [Layer.set, setFileKey, if_pos (Field.ofKey?_eq_some_iff.mpr h)]
  | @value key v f cause h allowed bad =>
    have named := Field.ofKey?_eq_some_iff.mpr h
    have set : o.setKey fs layer.lookup key v = .error (.inValue f.kindText key cause) := by
      rw [setKey, named]
      change o.setField fs layer.lookup f key v = _
      rw [setField_eq, bad]
      rfl
    apply refused
    cases layer with
    | inline lookup => exact set
    | file =>
      have other : Field.ofKey? key ≠ some .configPath := by
        rw [named]
        exact fun h => allowed (Option.some.inj h)
      rw [Layer.set, setFileKey, if_neg other]
      exact set

theorem reads_or_fault (fs : Files) (layer : Layer) (e : Entry) :
    (∃ s, layer.Reads fs e s) ∨ ∃ err, layer.Fault fs e err := by
  obtain ⟨k, v⟩ := e
  by_cases text : ∃ key, k = .string key
  · obtain ⟨key, rfl⟩ := text
    by_cases named : ∃ f : Field, Config.Key.normalize key ∈ f.names
    · obtain ⟨f, hf⟩ := named
      by_cases allowed : layer.Allows f
      · cases converted : f.convert fs layer.lookup v with
        | ok a => exact .inl ⟨⟨f, a⟩, ⟨key, rfl, hf⟩, allowed, converted⟩
        | error err => exact .inr ⟨_, .value hf allowed converted⟩
      · exact .inr ⟨_, .nestedFile hf allowed⟩
    · exact .inr ⟨_, .unknownKey (not_exists.mp named)⟩
  · exact .inr ⟨_, .keyNotText (not_exists.mp text)⟩

/-! ### Maps -/

theorem foldEntries_of_valid (h : layer.Valid fs entries) (o : MeasureOptions) :
    ∃ o', foldEntries (layer.set fs) o entries = .ok o' ∧
      ∀ f, layer.Settles fs f entries (f.get o) (f.get o') := by
  induction entries generalizing o with
  | nil => exact ⟨o, rfl, fun f => .inr ⟨by simp, rfl⟩⟩
  | cons e rest ih =>
    obtain ⟨⟨s, hs⟩, hrest⟩ := List.forall_mem_cons.mp h
    obtain ⟨o', ho', settled⟩ := ih hrest (s.apply o)
    refine ⟨o', (foldEntries_of_reads hs o rest).trans ho', fun f => ?_⟩
    rcases settled f with ⟨before, x, after, rfl, hx, last⟩ | ⟨absent, kept⟩
    · exact .inl ⟨e :: before, x, after, rfl, hx, last⟩
    by_cases hf : f = s.field
    · subst hf
      rw [Setting.apply, Field.get_put_self] at kept
      exact .inl ⟨[], e, rest, rfl, kept ▸ hs, absent⟩
    · rw [Setting.apply, Field.get_put_of_ne hf] at kept
      have other : ¬f.Names e := fun hn => hf (hn.unique hs.1)
      exact .inr ⟨List.forall_mem_cons.mpr ⟨other, absent⟩, kept⟩

theorem foldEntries_of_firstFault (h : layer.FirstFault fs entries err) (o : MeasureOptions) :
    foldEntries (layer.set fs) o entries = .error err := by
  obtain ⟨before, x, after, rfl, valid, bad⟩ := h
  induction before generalizing o with
  | nil => exact foldEntries_of_fault bad o after
  | cons e before ih =>
    obtain ⟨⟨s, hs⟩, hbefore⟩ := List.forall_mem_cons.mp valid
    exact (foldEntries_of_reads hs o _).trans (ih (s.apply o) hbefore)

theorem valid_or_firstFault (fs : Files) (layer : Layer) (entries : List Entry) :
    layer.Valid fs entries ∨ ∃ err, layer.FirstFault fs entries err := by
  induction entries with
  | nil => exact .inl (by simp [Valid])
  | cons e rest ih =>
    rcases layer.reads_or_fault fs e with read | ⟨err, bad⟩
    · rcases ih with valid | ⟨err, before, x, after, rfl, valid, bad⟩
      · exact .inl (List.forall_mem_cons.mpr ⟨read, valid⟩)
      · exact .inr ⟨err, e :: before, x, after, rfl, List.forall_mem_cons.mpr ⟨read, valid⟩, bad⟩
    · exact .inr ⟨err, [], e, rest, rfl, by simp [Valid], bad⟩

theorem foldEntries_ok_iff (o : MeasureOptions) :
    (∃ o', foldEntries (layer.set fs) o entries = .ok o') ↔ layer.Valid fs entries := by
  constructor
  · rintro ⟨o', h⟩
    refine (valid_or_firstFault fs layer entries).resolve_right ?_
    rintro ⟨err, bad⟩
    cases (foldEntries_of_firstFault bad o).symm.trans h
  · intro valid
    obtain ⟨o', h, -⟩ := foldEntries_of_valid valid o
    exact ⟨o', h⟩

theorem foldEntries_error_iff (o : MeasureOptions) :
    foldEntries (layer.set fs) o entries = .error err ↔ layer.FirstFault fs entries err := by
  refine ⟨fun h => ?_, fun bad => foldEntries_of_firstFault bad o⟩
  rcases valid_or_firstFault fs layer entries with valid | ⟨err', bad⟩
  · obtain ⟨o', ho, -⟩ := foldEntries_of_valid valid o
    cases ho.symm.trans h
  · cases (foldEntries_of_firstFault bad o).symm.trans h
    exact bad

theorem settles_of_ok {o o' : MeasureOptions} (h : foldEntries (layer.set fs) o entries = .ok o')
    (f : Field) : layer.Settles fs f entries (f.get o) (f.get o') := by
  obtain ⟨o'', ho, settled⟩ := foldEntries_of_valid ((foldEntries_ok_iff o).mp ⟨o', h⟩) o
  cases ho.symm.trans h
  exact settled f

/-! ### The order of the entries -/

/-- The entries name no option in common. -/
def Apart (x y : Entry) : Prop := ∀ f : Field, ¬(f.Names x ∧ f.Names y)

instance : Std.Symm Apart where
  symm _ _ h f hf := h f hf.symm

/-- No two entries name the same option. -/
def NamesOnce (entries : List Entry) : Prop := entries.Pairwise Apart

theorem Valid.perm {entries' : List Entry} (h : layer.Valid fs entries)
    (hp : entries.Perm entries') : layer.Valid fs entries' :=
  fun e he => h e (hp.mem_iff.mpr he)

theorem Settles.eq_of_perm {f : Field} {entries' : List Entry} {old new new' : f.Value}
    (h : layer.Settles fs f entries old new) (h' : layer.Settles fs f entries' old new')
    (hp : entries.Perm entries') (once : NamesOnce entries) : new = new' := by
  rcases h with ⟨before, e, after, hes, ⟨named, -, value⟩, -⟩ | ⟨absent, rfl⟩ <;>
    rcases h' with ⟨before', e', after', hes', ⟨named', -, value'⟩, -⟩ | ⟨absent', rfl⟩
  · have he : e ∈ entries := hes ▸ List.mem_append_cons_self
    have he' : e' ∈ entries := hp.mem_iff.mpr (hes' ▸ List.mem_append_cons_self)
    by_cases same : e = e'
    · subst same
      exact Except.ok.inj (value.symm.trans value')
    · exact absurd ⟨named, named'⟩ (List.Pairwise.forall once he he' same f)
  · exact absurd named (absent' e (hp.mem_iff.mp (hes ▸ List.mem_append_cons_self)))
  · exact absurd named' (absent e' (hp.mem_iff.mpr (hes' ▸ List.mem_append_cons_self)))
  · rfl

theorem toOption_foldEntries_of_perm (fs : Files) (layer : Layer) {entries' : List Entry}
    (hp : entries.Perm entries') (once : NamesOnce entries) (o : MeasureOptions) :
    (foldEntries (layer.set fs) o entries).toOption =
      (foldEntries (layer.set fs) o entries').toOption := by
  cases h : foldEntries (layer.set fs) o entries with
  | ok a =>
    have valid := ((foldEntries_ok_iff o).mp ⟨a, h⟩).perm hp
    obtain ⟨b, hb⟩ := (foldEntries_ok_iff o).mpr valid
    rw [hb, Field.ext_get fun f => (settles_of_ok h f).eq_of_perm (settles_of_ok hb f) hp once]
  | error err =>
    cases h' : foldEntries (layer.set fs) o entries' with
    | ok b =>
      obtain ⟨a, ha⟩ := (foldEntries_ok_iff o).mpr
        (((foldEntries_ok_iff o).mp ⟨b, h'⟩).perm hp.symm)
      cases ha.symm.trans h
    | error err' => rfl

/-- What a file sets does not depend on other files. -/
theorem file_set_congr (fs fs' : Files) : Layer.file.set fs = Layer.file.set fs' := by
  funext o key v
  simp only [Layer.set, setFileKey, setKey]
  split
  · rfl
  · next other =>
    cases named : Field.ofKey? key with
    | none => rfl
    | some f =>
      have hf : f ≠ .configPath := fun h => other (h ▸ named)
      simp only [setField_eq, f.convert_congr hf fs fs' none none]

end Layer

/-! ### Options and their file -/

variable {fs : Files} {lookup : Option String} {m : List Entry} {o : MeasureOptions}
  {path : String}

open Layer (NamesOnce)

theorem load_of_error {err : ConfigError} (h : parse fs lookup (.map m) = .error err) :
    load fs lookup (.map m) = .error err := by
  rw [load, h]

theorem load_of_no_path (h : parse fs lookup (.map m) = .ok o) (hp : o.configPath = none) :
    load fs lookup (.map m) = .ok o := by
  simp only [load, h, hp, Option.elim]

theorem load_eq_mergeFile (h : parse fs lookup (.map m) = .ok o) (hp : o.configPath = some path) :
    load fs lookup (.map m) = o.mergeFile fs path := by
  simp only [load, h, hp, Option.elim]

theorem mergeFile_of_map {n : List Entry} (h : fs.load path = .ok (.map n)) :
    o.mergeFile fs path = within (.inConfigFile path) (foldEntries (Layer.file.set fs) o n) := by
  rw [mergeFile, h]
  rfl

theorem mergeFile_ok_iff : (∃ o', o.mergeFile fs path = .ok o') ↔
    fs.load path = .ok .null ∨ ∃ n, fs.load path = .ok (.map n) ∧ Layer.file.Valid fs n := by
  cases h : fs.load path with
  | error err => simp [mergeFile, h]
  | ok doc =>
    cases doc with
    | null => simp [mergeFile, h]
    | map n =>
      have merged : (∃ o', o.mergeFile fs path = .ok o') ↔ Layer.file.Valid fs n := by
        rw [mergeFile_of_map h, ← Layer.foldEntries_ok_iff o]
        cases foldEntries (Layer.file.set fs) o n <;> simp [within]
      simp [merged]
    | _ => simp [mergeFile, h]

/-- Where the file is a map, it is read on top of the options that name it. -/
theorem load_of_file {n : List Entry} (h : parse fs lookup (.map m) = .ok o)
    (hp : o.configPath = some path) (hn : fs.load path = .ok (.map n)) :
    load fs lookup (.map m) =
      within (.inConfigFile path) (foldEntries (Layer.file.set fs) o n) := by
  rw [load_eq_mergeFile h hp, mergeFile_of_map hn]

theorem settles_of_load {n : List Entry} {o' : MeasureOptions}
    (h : parse fs lookup (.map m) = .ok o) (hp : o.configPath = some path)
    (hn : fs.load path = .ok (.map n)) (ho : load fs lookup (.map m) = .ok o') :
    o'.configPath = some path ∧ ∀ f : Field, Layer.file.Settles fs f n (f.get o) (f.get o') := by
  rw [load_of_file h hp hn] at ho
  have merged : foldEntries (Layer.file.set fs) o n = .ok o' := by
    cases hf : foldEntries (Layer.file.set fs) o n with
    | ok a => simpa [hf, within] using ho
    | error err => simp [hf, within] at ho
  have settled := Layer.settles_of_ok merged
  refine ⟨?_, settled⟩
  rcases settled .configPath with ⟨_, _, _, -, ⟨-, allowed, -⟩, -⟩ | ⟨-, kept⟩
  · exact absurd rfl allowed
  · exact kept.trans hp

theorem load_error_iff {n : List Entry} {err : ConfigError}
    (h : parse fs lookup (.map m) = .ok o) (hp : o.configPath = some path)
    (hn : fs.load path = .ok (.map n)) :
    load fs lookup (.map m) = .error err ↔
      ∃ cause, err = .inConfigFile path cause ∧ Layer.file.FirstFault fs n cause := by
  rw [load_of_file h hp hn]
  simp only [← Layer.foldEntries_error_iff o]
  cases foldEntries (Layer.file.set fs) o n <;> simp [within, eq_comm]

theorem toOption_load_of_perm {m' : List Entry} (hp : m.Perm m') (once : NamesOnce m) :
    (parse fs lookup (.map m)).toOption = (parse fs lookup (.map m')).toOption ∧
      (load fs lookup (.map m)).toOption = (load fs lookup (.map m')).toOption := by
  have parsed : (parse fs lookup (.map m)).toOption = (parse fs lookup (.map m')).toOption :=
    Layer.toOption_foldEntries_of_perm fs (.inline lookup) hp once default
  refine ⟨parsed, ?_⟩
  rw [load, load]
  cases h : parse fs lookup (.map m) <;> cases h' : parse fs lookup (.map m') <;>
    rw [h, h'] at parsed <;> cases parsed <;> rfl

/-- A map of options is taken if each of its entries sets one, and then the last entry for an option
counts. A file that it names is read on top of it: it may be empty, and may set anything but the
path to a file. A refusal is that of the first entry that sets nothing. Where each option is named
at most once, the order of the entries does not matter. -/
theorem load_law (fs : Files) (lookup : Option String) (m : List Entry) :
    -- The map by itself
    ((∃ o, parse fs lookup (.map m) = .ok o) ↔ (Layer.inline lookup).Valid fs m) ∧
    (∀ o, parse fs lookup (.map m) = .ok o →
      ∀ f : Field, (Layer.inline lookup).Settles fs f m (f.get default) (f.get o)) ∧
    (∀ err, parse fs lookup (.map m) = .error err ↔ (Layer.inline lookup).FirstFault fs m err) ∧
    -- The map and the file that it names
    (∀ err, parse fs lookup (.map m) = .error err → load fs lookup (.map m) = .error err) ∧
    (∀ o, parse fs lookup (.map m) = .ok o →
      (o.configPath = none → load fs lookup (.map m) = .ok o) ∧
      ∀ path, o.configPath = some path →
        ((∃ o', load fs lookup (.map m) = .ok o') ↔
          fs.load path = .ok .null ∨ ∃ n, fs.load path = .ok (.map n) ∧ Layer.file.Valid fs n) ∧
        (fs.load path = .ok .null → load fs lookup (.map m) = .ok o) ∧
        (∀ err, fs.load path = .error err → load fs lookup (.map m) = .error err) ∧
        ∀ n, fs.load path = .ok (.map n) →
          (∀ o', load fs lookup (.map m) = .ok o' → o'.configPath = some path ∧
            ∀ f : Field, Layer.file.Settles fs f n (f.get o) (f.get o')) ∧
          ∀ err, load fs lookup (.map m) = .error err ↔
            ∃ cause, err = .inConfigFile path cause ∧ Layer.file.FirstFault fs n cause) ∧
    -- Other orders of the map and of the file
    (∀ m', m.Perm m' → NamesOnce m →
      (parse fs lookup (.map m)).toOption = (parse fs lookup (.map m')).toOption ∧
        (load fs lookup (.map m)).toOption = (load fs lookup (.map m')).toOption) ∧
    ∀ fs' o path n n', parse fs lookup (.map m) = .ok o → parse fs' lookup (.map m) = .ok o →
      o.configPath = some path → fs.load path = .ok (.map n) → fs'.load path = .ok (.map n') →
      n.Perm n' → NamesOnce n →
      (load fs lookup (.map m)).toOption = (load fs' lookup (.map m)).toOption := by
  have inline : parse fs lookup (.map m) =
      foldEntries ((Layer.inline lookup).set fs) default m := rfl
  refine ⟨?_, fun o ho f => ?_, fun err => ?_, fun err => load_of_error, fun o ho =>
    ⟨load_of_no_path ho, fun path hp => ⟨?_, fun hn => ?_, fun err hn => ?_, fun n hn =>
      ⟨fun o' => settles_of_load ho hp hn, fun err => load_error_iff ho hp hn⟩⟩⟩,
    fun m' => toOption_load_of_perm, ?_⟩
  · rw [inline, Layer.foldEntries_ok_iff]
  · exact Layer.settles_of_ok (inline ▸ ho) f
  · rw [inline, Layer.foldEntries_error_iff]
  · rw [load_eq_mergeFile ho hp, mergeFile_ok_iff]
  · rw [load_eq_mergeFile ho hp, mergeFile, hn]
  · rw [load_eq_mergeFile ho hp, mergeFile, hn]
  · intro fs' o path n n' ho ho' hp hn hn' perm once
    rw [load_of_file ho hp hn, load_of_file ho' hp hn', toOption_within, toOption_within,
      Layer.file_set_congr fs' fs]
    exact Layer.toOption_foldEntries_of_perm fs .file perm once o

end Telemetry.MeasureOptions
