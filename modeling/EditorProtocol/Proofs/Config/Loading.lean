import Mathlib
import EditorProtocol.Proofs.Config.Merging

/-!
What loading files makes of a configuration. Its dictionary always holds options that make the
settings in force; so whatever a file gives goes in, and a file that gives none changes nothing.
-/

namespace EditorProtocol

/-! ### Options by name -/

inductive OptionName where
  | catalog
  | encoding
  | contentType
  | maxContentLength
  | debug

/-- What an option is. -/
def OptionName.Kind : OptionName → Type
  | .catalog => CatalogName
  | .encoding => String
  | .contentType => String
  | .maxContentLength => Size
  | .debug => Bool

/-- What is given for an option. -/
def Options.get? (o : Options) : (n : OptionName) → Option n.Kind
  | .catalog => o.catalog
  | .encoding => o.transport.bind (·.encoding)
  | .contentType => o.transport.bind (·.contentType)
  | .maxContentLength => o.transport.bind (·.maxContentLength)
  | .debug => o.logging.bind (·.debug)

/-- The value of an option. -/
def Settings.get (s : Settings) : (n : OptionName) → n.Kind
  | .catalog => s.catalog
  | .encoding => s.transport.encoding
  | .contentType => s.transport.contentType
  | .maxContentLength => s.transport.maxContentLength
  | .debug => s.logging.debug

theorem Settings.ext_get {s t : Settings} (h : ∀ n, s.get n = t.get n) : s = t := by
  obtain ⟨c, ⟨e, ty, m⟩, ⟨d⟩⟩ := s
  obtain ⟨c', ⟨e', ty', m'⟩, ⟨d'⟩⟩ := t
  have hc : c = c' := h .catalog
  have he : e = e' := h .encoding
  have hty : ty = ty' := h .contentType
  have hm : m = m' := h .maxContentLength
  have hd : d = d' := h .debug
  subst hc he hty hm hd
  rfl

theorem Options.get_settings (o : Options) (n : OptionName) :
    o.settings.get n = (o.get? n).getD (({} : Settings).get n) := by
  cases n
  case catalog => rfl
  case debug => cases h : o.logging <;> simp [settings, h, get?] <;> rfl
  all_goals cases h : o.transport <;> simp [settings, h, get?] <;> rfl

theorem laterSection_bind {α β : Type} {join : α → α → α} {get : α → Option β}
    (h : ∀ new old, get (join new old) = (get new).or (get old)) (new old : Option α) :
    (laterSection join new old).bind get = (new.bind get).or (old.bind get) := by
  cases new with
  | none => cases old <;> rfl
  | some a =>
      cases old with
      | none => exact (Option.or_none).symm
      | some b => exact h a b

theorem Options.get?_onto (new old : Options) (n : OptionName) :
    (new.onto old).get? n = (new.get? n).or (old.get? n) := by
  cases n
  case catalog => rfl
  all_goals exact laterSection_bind (fun _ _ => rfl) _ _

theorem Options.settings_onto (new old : Options) (n : OptionName) :
    (new.onto old).settings.get n = (new.get? n).getD (old.settings.get n) := by
  rw [get_settings, get?_onto, get_settings old]
  cases new.get? n <;> rfl

/-! ### Loading a file -/

/-- A file that is loaded, with the files that are there then. -/
structure Loading where
  files : Files
  file : String

namespace Loading

/-- The options that are loaded, if there is such a file and it gives options. -/
def options? (l : Loading) : Option Options :=
  match l.files.locate l.file with
  | .file text => (Configuration.readFile text).toOption
  | _ => none

/-- What is loaded for an option. -/
def given? (l : Loading) (n : OptionName) : Option n.Kind := l.options?.bind (·.get? n)

variable {l : Loading} {text : String}

theorem options?_file (h : l.files.locate l.file = .file text) :
    l.options? = (Configuration.readFile text).toOption := by
  rw [options?, h]

theorem options?_missing (h : ∀ text, l.files.locate l.file ≠ .file text) : l.options? = none := by
  unfold options?
  split
  · next text htext => exact absurd htext (h text)
  · rfl

end Loading

namespace Configuration

variable {c c' c₀ : Configuration} {l : Loading} {r : Except ConfigError (List LogEntry)}

/-- How loading a file ends. -/
def outcomeOf (c : Configuration) (l : Loading) : Except ConfigError (List LogEntry) :=
  ((load l.files l.file).run c).1

/-- A configuration after a file was loaded, or was not. -/
def after (c : Configuration) (l : Loading) : Configuration := ((load l.files l.file).run c).2

def afterAll (c : Configuration) (ls : List Loading) : Configuration := ls.foldl after c

@[simp] theorem afterAll_nil (c : Configuration) : c.afterAll [] = c := rfl

@[simp] theorem afterAll_cons (c : Configuration) (l : Loading) (rest : List Loading) :
    c.afterAll (l :: rest) = (c.after l).afterAll rest := rfl

/-- The dictionary is read as options that make the settings in force. -/
def Sound (c : Configuration) : Prop := ∃ o : Options, o.IsHeldBy c.raw ∧ o.settings = c.settings

/-- A configuration that no file was loaded into: the defaults, or what a dictionary gives. -/
inductive Initial : Configuration → Prop where
  | fresh (localFile : String) : Initial (.fresh localFile)
  | given {g : Given} {c : Configuration} (h : ofGiven g = .ok c) : Initial c

theorem Initial.cases (h : c₀.Initial) : c₀.Sound ∧ c₀.loaded = [] := by
  cases h with
  | fresh localFile => exact ⟨⟨_, Options.isHeldBy_entries _, rfl⟩, rfl⟩
  | given h =>
      obtain ⟨o, _, hc⟩ := bind_eq_ok.1 h
      cases hc
      exact ⟨⟨o, o.isHeldBy_entries, rfl⟩, rfl⟩

/-- What loading a file does: it is refused as it is read, or it is not there, or its options count
before those that the dictionary held. -/
inductive Loads (c : Configuration) (l : Loading) :
    Except ConfigError (List LogEntry) → Configuration → Prop where
  | refused {text : String} {e : ConfigError} (located : l.files.locate l.file = .file text)
      (read : readFile text = .error e) : Loads c l (.error e) c
  | missing (located : ∀ text, l.files.locate l.file ≠ .file text) :
      Loads c l (.ok [missingEntry l.file]) c
  | taken {text : String} {old new : Options} {merged : Dictionary}
      (located : l.files.locate l.file = .file text) (read : readFile text = .ok new)
      (settings : old.settings = c.settings) (held : (new.onto old).IsHeldBy merged) :
      Loads c l (.ok []) { c with
        chosen := new.onto old, raw := merged,
        loaded := withLoaded c.loaded (Files.plain l.file) }

theorem run_bind_ok {α β : Type} {x : Except ConfigError α} {a : α} (h : x = .ok a)
    (f : α → ConfigAction β) (c : Configuration) :
    ((x : ConfigAction α) >>= f).run c = (f a).run c := by
  rw [h]
  rfl

theorem run_bind_get {β : Type} (f : Configuration → ConfigAction β) (c : Configuration) :
    ((get : ConfigAction Configuration) >>= f).run c = (f c).run c := rfl

theorem Sound.loads (h : c.Sound) (l : Loading) : c.Loads l (c.outcomeOf l) (c.after l) := by
  obtain ⟨o, ho, hsettings⟩ := h
  unfold outcomeOf after load
  cases hlocate : l.files.locate l.file with
  | directory => exact .missing (by simp [hlocate])
  | absent => exact .missing (by simp [hlocate])
  | file text =>
      dsimp only
      cases hread : readFile text with
      | error e => exact .refused hlocate hread
      | ok new =>
          obtain ⟨merged, hmerged, hheld⟩ := ho.readMerged new
          rw [run_bind_ok rfl, run_bind_get, run_bind_ok hmerged]
          exact .taken hlocate hread hsettings hheld

theorem Loads.sound (hl : c.Loads l r c') (h : c.Sound) : c'.Sound := by
  cases hl with
  | refused _ _ => exact h
  | missing _ => exact h
  | taken _ _ _ held => exact ⟨_, held, rfl⟩

/-- A load fails as the file does that it reads, and changes nothing then. -/
theorem Loads.of_error {e : ConfigError} (hl : c.Loads l (.error e) c') :
    c' = c ∧ ∃ text, l.files.locate l.file = .file text ∧ readFile text = .error e := by
  cases hl with
  | refused located read => exact ⟨rfl, _, located, read⟩

/-- An option of a file that is loaded counts before the one in force. -/
theorem Loads.get (hl : c.Loads l r c') (n : OptionName) :
    c'.settings.get n = (l.given? n).getD (c.settings.get n) := by
  unfold Loading.given?
  cases hl with
  | refused located read => rw [Loading.options?_file located, read]; rfl
  | missing located => rw [Loading.options?_missing located]; rfl
  | taken located read settings _ =>
      rw [Loading.options?_file located, read, ← settings]
      exact Options.settings_onto ..

theorem mem_withLoaded {loaded : List String} {file path : String} :
    path ∈ withLoaded loaded file ↔ path ∈ loaded ∨ path = file := by
  unfold withLoaded
  split
  · next h =>
    rw [List.contains_iff_mem] at h
    exact ⟨.inl, fun hpath => hpath.elim id fun heq => heq ▸ h⟩
  · rw [List.mem_append, List.mem_singleton]

theorem nodup_withLoaded {loaded : List String} (h : loaded.Nodup) (file : String) :
    (withLoaded loaded file).Nodup := by
  unfold withLoaded
  split
  · exact h
  · next hfile =>
    rw [List.contains_iff_mem] at hfile
    refine List.nodup_append.2 ⟨h, by simp, fun a ha b hb heq => hfile ?_⟩
    rwa [← List.mem_singleton.1 hb, ← heq]

theorem Loads.mem_loaded (hl : c.Loads l r c') {path : String} :
    path ∈ c'.loaded ↔ path ∈ c.loaded ∨ l.options?.isSome ∧ path = Files.plain l.file := by
  cases hl with
  | refused located read => simp [Loading.options?_file located, read, Except.toOption]
  | missing located => simp [Loading.options?_missing located]
  | taken located read _ _ =>
      simp [Loading.options?_file located, read, Except.toOption, mem_withLoaded]

theorem Loads.nodup_loaded (hl : c.Loads l r c') (h : c.loaded.Nodup) : c'.loaded.Nodup := by
  cases hl with
  | refused _ _ => exact h
  | missing _ => exact h
  | taken _ _ _ _ => exact nodup_withLoaded h _

/-! ### Loading one file after the other -/

theorem Sound.after (h : c.Sound) (l : Loading) : (c.after l).Sound := (h.loads l).sound h

theorem Sound.afterAll (h : c.Sound) (ls : List Loading) : (c.afterAll ls).Sound := by
  induction ls generalizing c with
  | nil => exact h
  | cons l rest ih => exact ih (h.after l)

/-- The value that the last of some files gives for an option. -/
def lastGiven? (ls : List Loading) (n : OptionName) : Option n.Kind :=
  ls.reverse.findSome? (·.given? n)

theorem lastGiven?_cons (l : Loading) (rest : List Loading) (n : OptionName) :
    lastGiven? (l :: rest) n = (lastGiven? rest n).or (l.given? n) := by
  rw [lastGiven?, List.reverse_cons, List.findSome?_append, List.findSome?_singleton]
  rfl

theorem Sound.get_afterAll (h : c.Sound) (ls : List Loading) (n : OptionName) :
    (c.afterAll ls).settings.get n = (lastGiven? ls n).getD (c.settings.get n) := by
  induction ls generalizing c with
  | nil => rfl
  | cons l rest ih =>
      calc (c.afterAll (l :: rest)).settings.get n
          = (lastGiven? rest n).getD ((c.after l).settings.get n) := ih (h.after l)
        _ = (lastGiven? rest n).getD ((l.given? n).getD (c.settings.get n)) := by
            rw [(h.loads l).get n]
        _ = (lastGiven? (l :: rest) n).getD (c.settings.get n) := by
            rw [lastGiven?_cons]
            cases lastGiven? rest n <;> rfl

theorem Sound.mem_loaded_afterAll (h : c.Sound) (ls : List Loading) {path : String} :
    path ∈ (c.afterAll ls).loaded ↔
      path ∈ c.loaded ∨ ∃ l ∈ ls, l.options?.isSome ∧ path = Files.plain l.file := by
  induction ls generalizing c with
  | nil => simp
  | cons l rest ih =>
      rw [afterAll_cons, ih (h.after l), (h.loads l).mem_loaded, or_assoc]
      simp

theorem Sound.nodup_loaded_afterAll (h : c.Sound) (hnodup : c.loaded.Nodup) (ls : List Loading) :
    (c.afterAll ls).loaded.Nodup := by
  induction ls generalizing c with
  | nil => exact hnodup
  | cons l rest ih => exact ih (h.after l) ((h.loads l).nodup_loaded hnodup)

/-- A sound configuration takes any options in. -/
theorem Sound.readMerged (h : c.Sound) (new : Options) :
    ∃ r, Configuration.readMerged c.raw new = .ok r :=
  let ⟨_, ho, _⟩ := h
  let ⟨_, hmerged, _⟩ := ho.readMerged new
  ⟨_, hmerged⟩

/-- A sound configuration can be made again of its dictionary. -/
theorem Sound.ofGiven (h : c.Sound) :
    ∃ again, Configuration.ofGiven (.ofValue (.object c.raw)) = .ok again ∧
      again.settings = c.settings := by
  obtain ⟨o, ho, hsettings⟩ := h
  refine ⟨⟨o.entries, o, [], defaultFile⟩, ?_, hsettings⟩
  rw [Configuration.ofGiven, ho.ofGiven]
  rfl

/-- After any files were loaded into the defaults or into the options of a dictionary, each option
is as the last file has it that gives it, or else as it was. The files that were loaded are those
that give options. Where a file cannot be loaded, the reason lies in the file alone, and nothing
changes. The dictionary takes any options in, and a configuration that is made of it has the same
settings. -/
theorem last_load_wins (h₀ : c₀.Initial) (ls : List Loading) :
    let c := c₀.afterAll ls
    (∀ n, c.settings.get n = (lastGiven? ls n).getD (c₀.settings.get n)) ∧
      c.loaded.Nodup ∧
      (∀ path, path ∈ c.loaded ↔ ∃ l ∈ ls, l.options?.isSome ∧ path = Files.plain l.file) ∧
      (∀ l e, c.outcomeOf l = .error e → c.after l = c ∧
        ∃ text, l.files.locate l.file = .file text ∧ readFile text = .error e) ∧
      (∀ new, ∃ r, Configuration.readMerged c.raw new = .ok r) ∧
      ∃ again, Configuration.ofGiven (.ofValue (.object c.raw)) = .ok again ∧
        again.settings = c.settings := by
  obtain ⟨hsound, hloaded⟩ := h₀.cases
  have h : (c₀.afterAll ls).Sound := hsound.afterAll ls
  refine ⟨hsound.get_afterAll ls, hsound.nodup_loaded_afterAll (hloaded ▸ List.nodup_nil) ls,
    fun path => ?_, fun l e he => ?_, h.readMerged, h.ofGiven⟩
  · rw [hsound.mem_loaded_afterAll ls, hloaded]
    simp
  · have hl := h.loads l
    rw [he] at hl
    exact hl.of_error

/-- A file of which the text is loaded. -/
def onlyFile (text : String) : Loading := ⟨[("a", text)], "a"⟩

theorem steps?_onlyFile : Files.steps? "a" = some ["a"] := by
  have habsolute : "a".startsWith "/" = false := by cbv
  have hsplit : "a".splitOn "/" = ["a"] := by cbv
  unfold Files.steps?
  rw [habsolute, hsplit]
  decide

theorem plain_onlyFile (text : String) : Files.plain (onlyFile text).file = "a" := by
  show Files.plain "a" = "a"
  rw [Files.plain, steps?_onlyFile]
  decide

theorem options?_onlyFile (text : String) :
    (onlyFile text).options? = (readFile text).toOption := by
  apply Loading.options?_file
  simp [onlyFile, Files.locate, Files.reached, steps?_onlyFile]

/-- A file is loaded, loaded once more with other options in it, and then with a fault in it. -/
theorem last_load_wins_changed :
    let c := (fresh "a").afterAll
      [onlyFile "logging.debug=true", onlyFile "catalog='legacy'", onlyFile "catalog=1"]
    (fresh "a").Initial ∧ c.settings = { catalog := .legacy, logging := { debug := true } } ∧
      ∀ path, path ∈ c.loaded ↔ path = "a" := by
  have hfirst : (onlyFile "logging.debug=true").options? =
      some { logging := some { debug := some true } } := by
    rw [options?_onlyFile]
    cbv
  have hsecond : (onlyFile "catalog='legacy'").options? = some { catalog := some .legacy } := by
    rw [options?_onlyFile]
    cbv
  have hthird : (onlyFile "catalog=1").options? = none := by
    rw [options?_onlyFile]
    cbv
  obtain ⟨hget, hnodup, hmem, -⟩ := last_load_wins (.fresh "a")
    [onlyFile "logging.debug=true", onlyFile "catalog='legacy'", onlyFile "catalog=1"]
  refine ⟨.fresh _, Settings.ext_get fun n => (hget n).trans ?_, fun path => ?_⟩
  · cases n <;> simp only [lastGiven?_cons, Loading.given?, hfirst, hsecond, hthird] <;> rfl
  · refine (hmem path).trans ?_
    simp [hfirst, hsecond, hthird, plain_onlyFile]

end Configuration

end EditorProtocol
