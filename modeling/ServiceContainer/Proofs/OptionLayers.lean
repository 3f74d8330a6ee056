import ServiceContainer.Proofs.VariableNames

/-!
# Layers of options

Each option is decided on its own: by the variable for it, else by the last entry of the option file about it, else by
the base. A table without entries in a file says nothing, since tables are merged entry by entry. What a layer says of
an option that a later one decides has no influence, and the options are loaded just when the five values that are left
fit and are valid together.

The last entry of a file is the last in the order of its text. Where no two entries of the file are about the same
option, as is assumed of option files (see `ServiceContainer.Options.Layer`), it is the only one.

## Main definitions

* `Settings.setBy`, `Settings.lastSet?` — what an entry sets, and what the entries of a file set in the end
* `Options.Layered` — the value of an option in all layers
* `Options.ReadFrom` — options that are read from values

## Main statements

* `Options.value?_ofLayers` — the merged values are those of the layers
* `Options.load_layered` — what is loaded, and that nothing else decides it
-/

namespace ServiceContainer

namespace Settings

variable {s : Settings} {layer : List (String × Document)} {key : String} {d : Document}

/-! ### One entry -/

theorem value?_cons (k : String) (old : Document) (s : Settings) :
    value? ((k, old) :: s) key = if k = key then some old else s.value? key := by
  by_cases h : k = key <;> simp [value?, h]

/-- Another value under a key is found there, and what is under other keys stays. -/
theorem value?_put (k : String) (d : Document) :
    (s.put k d).value? key = if k = key then some d else s.value? key := by
  induction s with
  | nil => exact value?_cons k d []
  | cons entry s ih =>
    obtain ⟨other, old⟩ := entry
    rw [put]
    by_cases hother : other = k
    · subst hother
      rw [if_pos (beq_self_eq_true _), value?_cons, value?_cons]
      by_cases hkey : other = key <;> simp [hkey]
    · rw [if_neg (by simpa using hother), value?_cons, value?_cons, ih]
      by_cases hkey : k = key
      · subst hkey
        simp [hother]
      · simp [hkey]

/-- What an entry is about, and the value that it gives there. A list, a table and whatever stands inside a value count
as a value that no option can have. -/
def setBy (entry : String × Document) : String × Document :=
  match Target.ofKey entry.1, entry.2 with
  | .inside key, _ => (key, composite)
  | .whole key, .table _ _ => (key, composite)
  | .whole key, d => (key, d)

/-- The entry is a table without entries. -/
def isIdle (entry : String × Document) : Bool :=
  match Target.ofKey entry.1, entry.2 with
  | .whole _, .table [] _ => true
  | _, _ => false

theorem merge_eq (s : Settings) (entry : String × Document) :
    merge s entry = if isIdle entry ∧ (s.value? (setBy entry).1).isSome then s
      else s.put (setBy entry).1 (setBy entry).2 := by
  unfold merge isIdle setBy
  split <;> simp_all

/-- An entry sets what it is about, unless it is idle. -/
theorem value?_merge (hkey : (s.value? key).isSome = true) (entry : String × Document) :
    (merge s entry).value? key =
      if !isIdle entry ∧ (setBy entry).1 = key then some (setBy entry).2 else s.value? key := by
  rw [merge_eq]
  by_cases hidle : isIdle entry = true
  · by_cases hsome : (s.value? (setBy entry).1).isSome = true
    · simp [hidle, hsome]
    · have hne : (setBy entry).1 ≠ key := fun heq => hsome (heq ▸ hkey)
      simp [hidle, hsome, value?_put, hne]
  · simp [hidle, value?_put]

/-! ### Whole layers -/

/-- What the entries set a key to in the end: what the last of those about it sets it to. In an option file whose
entries are about different options there is one of those at most, and their order is nothing. -/
def lastSet? (layer : List (String × Document)) (key : String) : Option Document :=
  ((layer.map setBy).filter (·.1 == key)).getLast?.map (·.2)

@[simp] theorem lastSet?_nil : lastSet? [] key = none := rfl

theorem lastSet?_concat (entry : String × Document) :
    lastSet? (layer ++ [entry]) key = if (setBy entry).1 = key then some (setBy entry).2 else lastSet? layer key := by
  by_cases h : (setBy entry).1 = key <;> simp [lastSet?, h]

/-- The entries that say something. -/
def telling (layer : List (String × Document)) : List (String × Document) := layer.filter fun entry => !isIdle entry

theorem telling_concat (entry : String × Document) :
    telling (layer ++ [entry]) = telling layer ++ if isIdle entry then [] else [entry] := by
  cases h : isIdle entry <;> simp [telling, h]

/-- A layer decides the keys that its telling entries are about, and leaves the others. -/
theorem value?_mergeAll (hkey : (s.value? key).isSome = true) (layer : List (String × Document)) :
    (mergeAll s layer).value? key = (lastSet? (telling layer) key).or (s.value? key) := by
  induction layer using List.reverseRecOn with
  | nil => rfl
  | append_singleton layer entry ih =>
    have hsome : ((mergeAll s layer).value? key).isSome = true := by simp [ih, hkey]
    rw [mergeAll, List.foldl_append, List.foldl_cons, List.foldl_nil, ← mergeAll, value?_merge hsome, telling_concat]
    cases hidle : isIdle entry with
    | true => simp [ih]
    | false => by_cases habout : (setBy entry).1 = key <;> simp [lastSet?_concat, habout, ih]

/-! ### The environment -/

/-- Without a point and a bracket, a key is no path. -/
theorem ofKey_eq_whole {k : String} (hk : ∀ c ∈ (lower k).toList, c ≠ '.' ∧ c ≠ '[') :
    Target.ofKey k = .whole (lower k) := by
  have hinside (fuel : Nat) {rest : List Char} (hne : rest ≠ []) (hrest : ∀ c ∈ rest, c ≠ '.' ∧ c ≠ '[') :
      leadsInside fuel rest = false := by
    obtain ⟨c, rest, rfl⟩ := List.exists_cons_of_ne_nil hne
    obtain ⟨hpoint, hbracket⟩ := hrest c List.mem_cons_self
    unfold leadsInside
    split <;> simp_all
  rw [Target.ofKey]
  refine if_neg ?_
  simp only [Bool.and_eq_true, Bool.not_eq_true', List.isEmpty_eq_false_iff, not_and, Bool.not_eq_true]
  rintro ⟨-, hne⟩
  exact hinside _ hne fun c hc => hk c ((List.dropWhile_suffix _).subset hc)

/-- The name has none of the marks that lead into a value. -/
def IsPlainName (name : String) : Prop := ∀ c ∈ name.toList, c ≠ '.' ∧ c ≠ '[' ∧ c ≠ ']'

theorem variableValue_ne_table (text : String) (fields : List (String × Document)) (whole : Bool) :
    variableValue text ≠ .table fields whole := by
  unfold variableValue
  repeat' split
  all_goals exact nofun

/-- A variable sets what its name says, and is never idle. -/
theorem setBy_variableSetting {v : String × String} (hplain : IsPlainName v.1) {entry : String × Document}
    (hentry : variableSetting? v = some entry) : setBy entry = (lower entry.1, entry.2) ∧ isIdle entry = false := by
  simp only [variableSetting?, Option.ite_none_right_eq_some, Option.some.injEq] at hentry
  obtain ⟨-, rfl⟩ := hentry
  have hwhole : ∀ k, k = lower (String.ofList (v.1.toList.drop variableMark.length)) →
      Target.ofKey k = .whole (lower k) := by
    rintro k rfl
    refine ofKey_eq_whole fun c hc => ?_
    -- A mark in the lowered name would stand in the name itself.
    have hmem (hmark : c = '.' ∨ c = '[') : c ∈ v.1.toList := by
      rw [lower, String.toList_ofList] at hc
      have hc := mem_of_mem_lowerAfter hc hmark
      rw [lower, String.toList_ofList] at hc
      have hc := mem_of_mem_lowerAfter hc hmark
      rw [String.toList_ofList] at hc
      exact List.mem_of_mem_drop hc
    constructor
    · rintro rfl
      exact (hplain _ (hmem (.inl rfl))).1 rfl
    · rintro rfl
      exact (hplain _ (hmem (.inr rfl))).2.1 rfl
  have hvalue := variableValue_ne_table v.2
  unfold setBy isIdle
  rw [hwhole _ rfl]
  constructor
  · dsimp only
    split <;> simp_all
  · dsimp only
    split <;> simp_all

/-- The environment sets an option to the value of the last variable for it. -/
theorem lastSet?_environmentEntries {environment : List (String × String)}
    (hplain : ∀ v ∈ environment, IsPlainName v.1) (hkey : IsAsciiText key) :
    lastSet? (telling (environmentEntries environment)) key =
      ((environment.filter fun v => lower v.1 == variableName key).getLast?).map fun v => variableValue v.2 := by
  rw [environmentEntries_eq]
  induction environment using List.reverseRecOn with
  | nil => rfl
  | append_singleton environment v ih =>
    rw [List.forall_mem_append, List.forall_mem_singleton] at hplain
    have ih := ih hplain.1
    have hiff (d : Document) : (∃ k, variableSetting? v = some (k, d) ∧ lower k = key) ↔
        lower v.1 = variableName key ∧ d = variableValue v.2 := variableSetting?_iff hkey
    rw [List.filterMap_append, List.filterMap_cons, List.filterMap_nil, List.filter_append, List.filter_cons,
      List.filter_nil]
    cases hentry : variableSetting? v with
    | none =>
      have hne : lower v.1 ≠ variableName key := by
        intro heq
        obtain ⟨k, hsome, -⟩ := (hiff _).mpr ⟨heq, rfl⟩
        exact nomatch hentry.symm.trans hsome
      simpa [hne] using ih
    | some entry =>
      obtain ⟨hset, hidle⟩ := setBy_variableSetting hplain.2 hentry
      obtain ⟨k, d⟩ := entry
      rw [telling_concat, hidle, if_neg Bool.false_ne_true, lastSet?_concat, hset]
      by_cases hk : lower k = key
      · obtain ⟨hname, rfl⟩ := (hiff d).mp ⟨k, hentry, hk⟩
        simp [hk, hname]
      · have hne : lower v.1 ≠ variableName key := by
          intro heq
          obtain ⟨k', hsome, hk'⟩ := (hiff _).mpr ⟨heq, rfl⟩
          cases hentry.symm.trans hsome
          exact hk hk'
        simpa [hk, hne] using ih

end Settings

/-! ### The value of an option -/

/-- The entries of the option file, if there is one. -/
def OptionLayer (t : FileTree) (file? : Option String) (file : List (String × Document)) : Prop :=
  match file? with
  | some path => t.optionEntries path = .ok file
  | none => file = []

namespace Options

/-- The keys of the options. -/
def keys : List String := (entries {}).map (·.1)

/-- The value of an option in all layers: the environment comes before the file, and the file before the base. -/
inductive Layered (base : Options) (file : List (String × Document)) (environment : List (String × String))
    (key : String) : Document → Prop
  | environment {v : String × String} (hv : v ∈ environment) (hname : lower v.1 = variableName key) :
      Layered base file environment key (variableValue v.2)
  | file {d : Document} (hunset : ∀ v ∈ environment, lower v.1 ≠ variableName key)
      (hset : Settings.lastSet? file key = some d) : Layered base file environment key d
  | base {d : Document} (hunset : ∀ v ∈ environment, lower v.1 ≠ variableName key)
      (hsilent : Settings.lastSet? file key = none) (hd : (key, d) ∈ base.entries) :
      Layered base file environment key d

/-- The options are read from these values: names and the path are texts, strictness is a truth value. -/
structure ReadFrom (o : Options) (value : String → Document → Prop) : Prop where
  moduleName : ∃ d, value "namespace" d ∧ d.asText? = some o.moduleName
  rootName : ∃ d, value "provider_name" d ∧ d.asText? = some o.rootName
  scopedName : ∃ d, value "scoped_provider_name" d ∧ d.asText? = some o.scopedName
  runtimePath : ∃ d, value "runtime_path" d ∧ d.asText? = some o.runtimePath
  strictMarkers : ∃ d, value "strict_markers" d ∧ d.asFlag? = some o.strictMarkers

section

variable {base : Options} {file : List (String × Document)} {environment : List (String × String)} {key : String}
  {d : Document} {o : Options}

theorem isAsciiText_of_mem_keys (hkey : key ∈ keys) : IsAsciiText key := by
  have hall : keys.all (fun key => key.toList.all Text.isAscii) = true := by decide
  exact List.all_eq_true.mp (List.all_eq_true.mp hall key hkey)

/-- The base has a value for each key. -/
theorem value?_entries (hkey : key ∈ keys) : Settings.value? base.entries key = some d ↔ (key, d) ∈ base.entries := by
  simp only [keys, entries, List.map_cons, List.map_nil, List.mem_cons, List.not_mem_nil, or_false] at hkey
  rcases hkey with rfl | rfl | rfl | rfl | rfl <;> simp [entries, Settings.value?, eq_comm]

theorem isSome_value?_entries (hkey : key ∈ keys) : (Settings.value? base.entries key).isSome = true := by
  simp only [keys, entries, List.map_cons, List.map_nil, List.mem_cons, List.not_mem_nil, or_false] at hkey
  rcases hkey with rfl | rfl | rfl | rfl | rfl <;> rfl

/-- The merged value of an option is that of the last layer which says something about it. -/
theorem value?_ofLayers (hkey : key ∈ keys) (base : Options) (file environment : List (String × Document)) :
    (Settings.ofLayers base file environment).value? key =
      (Settings.lastSet? (Settings.telling environment) key).or
        ((Settings.lastSet? (Settings.telling file) key).or (Settings.value? base.entries key)) := by
  have hbase : (Settings.value? base.entries key).isSome = true := isSome_value?_entries hkey
  have hfile := Settings.value?_mergeAll hbase file
  rw [Settings.ofLayers, Settings.value?_mergeAll (by simp [hfile, hbase]), hfile]

/-- At most one variable is for an option when no two names differ in capitals only. -/
theorem getLast?_filter_eq_some (hdistinct : (environment.map fun v => lower v.1).Nodup) {v : String × String}
    {name : String} : (environment.filter fun v => lower v.1 == name).getLast? = some v ↔
      v ∈ environment ∧ lower v.1 = name := by
  constructor
  · intro h
    have hmem := List.mem_filter.mp (List.mem_of_getLast? h)
    exact ⟨hmem.1, beq_iff_eq.mp hmem.2⟩
  · rintro ⟨hv, hname⟩
    have hmem : v ∈ environment.filter fun v => lower v.1 == name := List.mem_filter.mpr ⟨hv, beq_iff_eq.mpr hname⟩
    have hw := List.getLast?_eq_some_getLast (List.ne_nil_of_mem hmem)
    obtain ⟨hmemw, hnamew⟩ := List.mem_filter.mp (List.mem_of_getLast? hw)
    have heq := List.inj_on_of_nodup_map hdistinct hmemw hv ((beq_iff_eq.mp hnamew).trans hname.symm)
    exact heq ▸ hw

/-- The merged value of an option is the one of the layers, without the entries of the file that say nothing. -/
theorem layered_iff (hdistinct : (environment.map fun v => lower v.1).Nodup)
    (hplain : ∀ v ∈ environment, Settings.IsPlainName v.1) (hkey : key ∈ keys) :
    Layered base (Settings.telling file) environment key d ↔
      (Settings.ofLayers base file (environmentEntries environment)).value? key = some d := by
  rw [value?_ofLayers hkey, Settings.lastSet?_environmentEntries hplain (isAsciiText_of_mem_keys hkey)]
  cases hlast : (environment.filter fun v => lower v.1 == variableName key).getLast? with
  | some v =>
    obtain ⟨hv, hname⟩ := (getLast?_filter_eq_some hdistinct).mp hlast
    rw [Option.map_some, Option.some_or, Option.some.injEq]
    constructor
    · intro h
      cases h with
      | environment hw hwname =>
        have heq := ((getLast?_filter_eq_some hdistinct).mpr ⟨hw, hwname⟩).symm.trans hlast
        rw [Option.some.inj heq]
      | file hunset => exact absurd hname (hunset v hv)
      | base hunset => exact absurd hname (hunset v hv)
    · rintro rfl
      exact .environment hv hname
  | none =>
    have hunset : ∀ v ∈ environment, lower v.1 ≠ variableName key := by
      intro v hv hname
      exact nomatch hlast.symm.trans ((getLast?_filter_eq_some hdistinct).mpr ⟨hv, hname⟩)
    rw [Option.map_none, Option.none_or]
    cases hset : Settings.lastSet? (Settings.telling file) key with
    | some e =>
      rw [Option.some_or, Option.some.injEq]
      constructor
      · intro h
        cases h with
        | environment hv hname => exact absurd hname (hunset _ hv)
        | file _ hd => exact Option.some.inj (hset.symm.trans hd)
        | base _ hsilent => exact nomatch hset.symm.trans hsilent
      · rintro rfl
        exact .file hunset hset
    | none =>
      rw [Option.none_or, value?_entries hkey]
      constructor
      · intro h
        cases h with
        | environment hv hname => exact absurd hname (hunset _ hv)
        | file _ hd => exact nomatch hset.symm.trans hd
        | base _ _ hd => exact hd
      · exact .base hunset hset

/-! ### Loading -/

theorem ReadFrom.congr {value value' : String → Document → Prop} (h : ∀ key ∈ keys, ∀ d, value key d ↔ value' key d) :
    o.ReadFrom value ↔ o.ReadFrom value' := by
  suffices hone : ∀ {v w : String → Document → Prop}, (∀ key ∈ keys, ∀ d, v key d ↔ w key d) →
      o.ReadFrom v → o.ReadFrom w from ⟨hone h, hone fun key hkey d => (h key hkey d).symm⟩
  intro v w h hread
  have hat {key : String} (hkey : key ∈ keys) {p : Document → Prop} (hex : ∃ d, v key d ∧ p d) : ∃ d, w key d ∧ p d := by
    obtain ⟨d, hd, hp⟩ := hex
    exact ⟨d, (h key hkey d).mp hd, hp⟩
  exact ⟨hat (by decide) hread.moduleName, hat (by decide) hread.rootName, hat (by decide) hread.scopedName,
    hat (by decide) hread.runtimePath, hat (by decide) hread.strictMarkers⟩

theorem ofSettings?_eq_some {s : Settings} :
    ofSettings? s = some o ↔ o.ReadFrom fun key d => s.value? key = some d := by
  rw [ofSettings?]
  simp only [Option.bind_eq_bind, Option.pure_def, Option.bind_eq_some_iff, Option.some.injEq]
  constructor
  · rintro ⟨d, hd, x, hx, e, he, y, hy, f, hf, z, hz, g, hg, u, hu, k, hk, w, hw, rfl⟩
    exact ⟨⟨d, hd, hx⟩, ⟨e, he, hy⟩, ⟨f, hf, hz⟩, ⟨g, hg, hu⟩, ⟨k, hk, hw⟩⟩
  · rintro ⟨⟨d, hd, hx⟩, ⟨e, he, hy⟩, ⟨f, hf, hz⟩, ⟨g, hg, hu⟩, ⟨k, hk, hw⟩⟩
    exact ⟨d, hd, _, hx, e, he, _, hy, f, hf, _, hz, g, hg, _, hu, k, hk, _, hw, rfl⟩

theorem load_eq {t : FileTree} {file? : Option String} (hfile : OptionLayer t file? file) :
    load base file? environment t =
      match ofSettings? (Settings.ofLayers base file (environmentEntries environment)) with
      | some o => o.validate >>= fun _ => .ok o
      | none => .error (.unparsable .optionValue) := by
  unfold load
  cases file? with
  | none =>
    obtain rfl : file = [] := hfile
    rfl
  | some path =>
    have hread : t.optionEntries path = .ok file := hfile
    simp only [hread]
    rfl

theorem load_eq_ok {t : FileTree} {file? : Option String} (hfile : OptionLayer t file? file) :
    load base file? environment t = .ok o ↔
      ofSettings? (Settings.ofLayers base file (environmentEntries environment)) = some o ∧ o.validate = .ok () := by
  rw [load_eq hfile]
  cases ofSettings? (Settings.ofLayers base file (environmentEntries environment)) with
  | none => simp
  | some p =>
    rw [bind_eq_ok, Option.some.injEq]
    constructor
    · rintro ⟨⟨⟩, hvalid, hp⟩
      obtain rfl := Except.ok.inj hp
      exact ⟨rfl, hvalid⟩
    · rintro ⟨rfl, hvalid⟩
      exact ⟨(), hvalid, rfl⟩

/-- **Each option is decided on its own, and nothing but the five values decides what is loaded.** -/
theorem load_layered (base : Options) {t : FileTree} {file? : Option String} {file : List (String × Document)}
    {environment : List (String × String)} (hfile : OptionLayer t file? file)
    (hdistinct : (environment.map fun v => lower v.1).Nodup)
    (hplain : ∀ v ∈ environment, Settings.IsPlainName v.1) :
    -- Every option has one value in the layers;
    (∀ key ∈ keys, ∃! d, Layered base (Settings.telling file) environment key d) ∧
    -- options are loaded just when they are read from these values, and are valid;
    (∀ o, load base file? environment t = .ok o ↔
      o.ReadFrom (Layered base (Settings.telling file) environment) ∧ o.validate = .ok ()) ∧
    -- and layers with the same values load the same options, or fail alike, whatever they say beside that.
    (∀ (base' : Options) (t' : FileTree) (file?' : Option String) (file' : List (String × Document))
      (environment' : List (String × String)), OptionLayer t' file?' file' →
      (environment'.map fun v => lower v.1).Nodup → (∀ v ∈ environment', Settings.IsPlainName v.1) →
      (∀ key ∈ keys, ∀ d, Layered base (Settings.telling file) environment key d ↔
        Layered base' (Settings.telling file') environment' key d) →
      load base file? environment t = load base' file?' environment' t') := by
  have hvalue : ∀ key ∈ keys, ∀ d, Layered base (Settings.telling file) environment key d ↔
      (Settings.ofLayers base file (environmentEntries environment)).value? key = some d :=
    fun key hkey d => layered_iff hdistinct hplain hkey
  refine ⟨fun key hkey => ?_, fun o => ?_, ?_⟩
  · have hbase : (Settings.value? base.entries key).isSome = true := isSome_value?_entries hkey
    have hsome : ((Settings.ofLayers base file (environmentEntries environment)).value? key).isSome = true := by
      simp [value?_ofLayers hkey, hbase]
    obtain ⟨d, hd⟩ := Option.isSome_iff_exists.mp hsome
    refine ⟨d, (hvalue key hkey d).mpr hd, fun e he => ?_⟩
    exact Option.some.inj (((hvalue key hkey e).mp he).symm.trans hd)
  · rw [load_eq_ok hfile, ofSettings?_eq_some, ReadFrom.congr hvalue]
  · intro base' t' file?' file' environment' hfile' hdistinct' hplain' hsame
    have hsettings : ofSettings? (Settings.ofLayers base file (environmentEntries environment)) =
        ofSettings? (Settings.ofLayers base' file' (environmentEntries environment')) := by
      ext o
      rw [ofSettings?_eq_some, ofSettings?_eq_some, ← ReadFrom.congr hvalue, ReadFrom.congr hsame,
        ReadFrom.congr fun key hkey d => layered_iff hdistinct' hplain' hkey]
    rw [load_eq hfile, load_eq hfile', hsettings]

/-- An option file in capitals, with a value that fits no option and a table without entries. -/
def Sample.bench : FileTree where
  files := [(["o.toml"], "NAMESPACE = \"services\"\nscoped_provider_name = [1]\nruntime_path = \x7b\x7d\n")]

/-- Variables in mixed letters, one of which is for no option. -/
def Sample.benchVariables : List (String × String) :=
  [("DI_CODEGEN_SCOPED_PROVIDER_NAME", "Desk"), ("di_codegen_strict_mar\u212aers", "Yes"), ("DI_CODEGEN_X", "1")]

theorem load_layered_bench : ∃ file, OptionLayer Sample.bench (some "o.toml") file ∧
    (Sample.benchVariables.map fun v => lower v.1).Nodup ∧
    (∀ v ∈ Sample.benchVariables, Settings.IsPlainName v.1) ∧
    ({ moduleName := "services", scopedName := "Desk", strictMarkers := true } : Options).ReadFrom
      (Layered {} (Settings.telling file) Sample.benchVariables) := by
  have hread : (Sample.bench.optionEntries "o.toml").toOption.isSome = true := by decide +kernel
  cases hfile : Sample.bench.optionEntries "o.toml" with
  | error e => simp [hfile, Except.toOption] at hread
  | ok file =>
    have hlayer : OptionLayer Sample.bench (some "o.toml") file := hfile
    have hdistinct : (Sample.benchVariables.map fun v => lower v.1).Nodup := by decide +kernel
    have hplain : ∀ v ∈ Sample.benchVariables, Settings.IsPlainName v.1 := by
      have hall : Sample.benchVariables.all (fun v => v.1.toList.all fun c => c != '.' && c != '[' && c != ']') = true := by
        decide +kernel
      intro v hv c hc
      simpa [and_assoc] using List.all_eq_true.mp (List.all_eq_true.mp hall v hv) c hc
    have hload : load {} (some "o.toml") Sample.benchVariables Sample.bench =
        .ok { moduleName := "services", scopedName := "Desk", strictMarkers := true } := by decide +kernel
    exact ⟨file, hlayer, hdistinct, hplain, (((load_layered {} hlayer hdistinct hplain).2.1 _).mp hload).1⟩

/-- An option file that sets an option to a table without entries. -/
def Sample.idleFile : FileTree where
  files := [(["o.toml"], "namespace = \x7b\x7d\n")]

/-- A table without entries is a value that fits no option, and yet it is passed over. -/
theorem not_load_layered : ¬ ∀ (base : Options) (t : FileTree) (file? : Option String)
    (file : List (String × Document)) (environment : List (String × String)), OptionLayer t file? file →
    (environment.map fun v => lower v.1).Nodup → (∀ v ∈ environment, Settings.IsPlainName v.1) →
    ∀ o, load base file? environment t = .ok o ↔ o.ReadFrom (Layered base file environment) ∧ o.validate = .ok () := by
  intro hall
  have hset : ((Sample.idleFile.optionEntries "o.toml").toOption.bind
      (Settings.lastSet? · "namespace")).map Document.asText? = some none := by decide +kernel
  cases hfile : Sample.idleFile.optionEntries "o.toml" with
  | error e => simp [hfile, Except.toOption] at hset
  | ok file =>
    rw [hfile] at hset
    obtain ⟨d, hd, htext⟩ := Option.map_eq_some_iff.mp hset
    have hload : load {} (some "o.toml") [] Sample.idleFile = .ok {} := by decide +kernel
    obtain ⟨⟨e, he, hname⟩, -⟩ := ((hall {} Sample.idleFile (some "o.toml") file [] hfile (by simp) (by simp) {}).mp hload).1
    cases he with
    | environment hv => cases hv
    | file _ hset =>
      cases hset.symm.trans hd
      cases hname.symm.trans htext
    | base _ hsilent => cases hsilent.symm.trans hd

end

end Options

end ServiceContainer
