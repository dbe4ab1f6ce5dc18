import EditorProtocol.Config.Configuration
import EditorProtocol.Proofs.Codec.Outcome

/-!
Options that are merged as dictionaries. A dictionary holds options if it has just their entries, in
any order; it is read as these options then. Where newer options come into it, it holds the newer
ones joined with the older ones, section by section.
-/

namespace EditorProtocol

variable {α : Type} {d : Dictionary} {name key : String} {v : Value} {g : Option Value}

/-! ### Entries of dictionaries -/

namespace Value

theorem lookup_insertEntry (d : Dictionary) (name : String) (v : Value) (key : String) :
    lookup (insertEntry d name v) key = if name = key then some v else lookup d key := by
  induction d with
  | nil => rfl
  | cons e rest ih =>
      obtain ⟨k, u⟩ := e
      rw [insertEntry]
      by_cases hk : k = name
      · rw [if_pos hk, hk, lookup, lookup]
        split <;> rfl
      · rw [if_neg hk, lookup, lookup, ih]
        by_cases hkey : k = key
        · have hname : ¬name = key := fun h => hk (hkey.trans h.symm)
          rw [if_pos hkey, if_neg hname, if_pos hkey]
        · rw [if_neg hkey, if_neg hkey]

theorem mem_insertEntry {e : String × Value} (h : e ∈ insertEntry d name v) :
    e.1 = name ∨ ∃ u, (e.1, u) ∈ d := by
  induction d with
  | nil =>
      cases List.mem_singleton.1 h
      exact .inl rfl
  | cons first rest ih =>
      rw [insertEntry] at h
      split at h
      · next hname =>
        rcases List.mem_cons.1 h with rfl | h
        · exact .inl hname
        · exact .inr ⟨e.2, .tail _ h⟩
      · rcases List.mem_cons.1 h with rfl | h
        · exact .inr ⟨first.2, .head _⟩
        · exact (ih h).imp_right fun ⟨u, hu⟩ => ⟨u, .tail _ hu⟩

theorem lookup_append (d e : Dictionary) (key : String) :
    lookup (d ++ e) key = (lookup d key).or (lookup e key) := by
  induction d with
  | nil => rfl
  | cons first rest ih =>
      rw [List.cons_append, lookup, lookup]
      split
      · rfl
      · exact ih

theorem lookup_optionEntry (name : String) (g : Option Value) (key : String) :
    lookup (optionEntry name g) key = if name = key then g else none := by
  cases g with
  | none => exact (ite_self none).symm
  | some v => rfl

end Value

theorem mem_optionEntry {e : String × Value} (h : e ∈ optionEntry name g) : e.1 = name := by
  obtain ⟨v, _, rfl⟩ := Option.map_eq_some_iff.1 (Option.mem_toList.1 h)
  rfl

theorem Given.lookup_ofEntries (d : Dictionary) (name : String) :
    (ofEntries d).lookup name = (Value.lookup d name).map ofValue := by
  induction d with
  | nil => rfl
  | cons e rest ih =>
      rw [ofEntries, List.lookup_cons, Value.lookup, ih]
      by_cases hname : e.1 = name
      · rw [hname, if_pos rfl, beq_self_eq_true]
        rfl
      · rw [if_neg hname, beq_false_of_ne (Ne.symm hname)]

/-! ### Options and sections of a dictionary -/

/-- A dictionary with an entry, if there is one. -/
def Dictionary.update (d : Dictionary) (name : String) (g : Option Value) : Dictionary :=
  match g with
  | none => d
  | some v => Value.insertEntry d name v

theorem Dictionary.lookup_update (d : Dictionary) (name : String) (g : Option Value)
    (key : String) :
    Value.lookup (d.update name g) key =
      (if name = key then g else none).or (Value.lookup d key) := by
  cases g with
  | none =>
      rw [ite_self]
      rfl
  | some v =>
      rw [update, Value.lookup_insertEntry]
      split <;> rfl

/-- All entries of a dictionary are of some names. -/
def Dictionary.Within (d : Dictionary) (names : List String) : Prop := ∀ e ∈ d, e.1 ∈ names

theorem Dictionary.Within.insert {names : List String} (h : d.Within names) (hname : name ∈ names)
    (v : Value) : Dictionary.Within (Value.insertEntry d name v) names := by
  intro e he
  rcases Value.mem_insertEntry he with heq | ⟨u, hu⟩
  · exact heq ▸ hname
  · exact h ⟨_, u⟩ hu

theorem Dictionary.Within.update {names : List String} (h : d.Within names) (hname : name ∈ names)
    (g : Option Value) : (d.update name g).Within names := by
  cases g with
  | none => exact h
  | some v => exact h.insert hname v

/-- Options that are no sections are replaced. -/
theorem Dictionary.merge_option (d rest : Dictionary) (name : String) {write : α → Value}
    (flat : ∀ a es, write a ≠ .object es) (o : Option α) :
    d.merge (optionEntry name (o.map write) ++ rest) =
      (d.update name (o.map write)).merge rest := by
  cases o with
  | none => rfl
  | some a => exact merge.eq_3 d name (write a) rest (flat a)

/-- A section is held by an entry, or both are missing. -/
def SectionHeld (held : α → Dictionary → Prop) (o : Option α) (entry : Option Value) : Prop :=
  Option.Rel (fun a v => ∃ d, v = .object d ∧ held a d) o entry

/-- The later of two sections, whose options are joined where both are given. -/
def laterSection (join : α → α → α) : Option α → Option α → Option α
  | some new, some old => some (join new old)
  | some new, none => some new
  | none, old => old

/-- A newer section is joined with the one that is there. -/
theorem Dictionary.merge_section {held : α → Dictionary → Prop} {entries : α → Dictionary}
    {join : α → α → α} (hentries : ∀ a, held a (entries a))
    (hmerge : ∀ new old d, held old d →
      ∃ merged, d.merge (entries new) = .ok merged ∧ held (join new old) merged)
    (rest : Dictionary) (new : Option α) {old : Option α}
    (h : SectionHeld held old (Value.lookup d name)) :
    ∃ g, d.merge (optionEntry name (new.map fun a => .object (entries a)) ++ rest) =
        (d.update name g).merge rest ∧
      SectionHeld held (laterSection join new old) (g.or (Value.lookup d name)) := by
  cases new with
  | none => exact ⟨none, rfl, h⟩
  | some a =>
      show ∃ g, d.merge ((name, .object (entries a)) :: rest) = _ ∧ _
      rw [merge]
      generalize Value.lookup d name = entry at h
      cases h with
      | none => exact ⟨some (.object (entries a)), rfl, .some ⟨_, rfl, hentries a⟩⟩
      | some hheld =>
          obtain ⟨known, rfl, hknown⟩ := hheld
          obtain ⟨merged, hmerged, hjoined⟩ := hmerge a _ known hknown
          refine ⟨some (.object merged), ?_, .some ⟨_, rfl, hjoined⟩⟩
          dsimp only
          rw [hmerged]
          rfl

/-! ### Reading what a dictionary holds -/

namespace Reading

/-- An option that is written is read. -/
theorem option_written {read : Given → Except Breach α} {write : α → Value}
    (reads : ∀ a, read (.ofValue (write a)) = .ok a) {o : Option α}
    (h : Value.lookup d name = o.map write) :
    option (Given.ofEntries d) name read = ⟨[], o⟩ := by
  rw [option, Given.lookup_ofEntries, h]
  cases o with
  | none => rfl
  | some a =>
      simp only [Option.map_some, reads]
      rfl

/-- A section that is held is read. -/
theorem inner_held {held : α → Dictionary → Prop} {read : List (String × Given) → Reading α}
    (reads : ∀ a d, held a d → read (Given.ofEntries d) = ⟨[], a⟩) {o : Option α}
    (h : SectionHeld held o (Value.lookup d name)) :
    inner (Given.ofEntries d) name read = ⟨[], o⟩ := by
  rw [inner, Given.lookup_ofEntries]
  generalize Value.lookup d name = entry at h
  cases h with
  | none => rfl
  | some hheld =>
      obtain ⟨known, rfl, hknown⟩ := hheld
      simp only [Option.map_some, Given.ofValue, reads _ known hknown]
      rfl

/-- Where all entries are of known names, nothing is unknown. -/
theorem noOthers_within {names : List String} (h : d.Within names) :
    noOthers (Given.ofEntries d) names = ⟨[], ()⟩ := by
  have hnone : (Given.ofEntries d).filter (fun e => !names.contains e.1) = [] := by
    induction d with
    | nil => rfl
    | cons e rest ih =>
        rw [Given.ofEntries, List.filter_cons_of_neg]
        · exact ih fun e he => h e (.tail _ he)
        · simpa using h e (.head _)
  rw [noOthers, hnone]
  rfl

end Reading

theorem Given.readSize_int (n : Size) : (Given.int n.val).readSize = .ok n := by
  show (if h : 0 < (n.val : Int).toNat then (.ok ⟨(n.val : Int).toNat, h⟩ : Except Breach Size)
    else .error (.belowOrEqual 0)) = .ok n
  rw [dif_pos (by simpa using n.property)]
  rfl

theorem Given.readCatalog_text (c : CatalogName) : (Given.text c.name).readCatalog = .ok c := by
  have hname : (Given.text c.name).text?.bind CatalogName.ofName? = some c :=
    CatalogName.ofName?_name c
  rw [readCatalog, hname]

/-! ### Transport options -/

namespace TransportOptions

variable {o new old : TransportOptions}

/-- Transport options that count before others. -/
def onto (new old : TransportOptions) : TransportOptions where
  encoding := new.encoding.or old.encoding
  contentType := new.contentType.or old.contentType
  maxContentLength := new.maxContentLength.or old.maxContentLength

/-- A dictionary has the entries of transport options, and no others. -/
structure IsHeldBy (o : TransportOptions) (d : Dictionary) : Prop where
  encoding : Value.lookup d "encoding" = o.encoding.map .text
  contentType : Value.lookup d "content_type" = o.contentType.map .text
  maxContentLength : Value.lookup d "max_content_length" =
    o.maxContentLength.map fun n => .int n.val
  within : d.Within ["encoding", "content_type", "max_content_length"]

theorem isHeldBy_entries (o : TransportOptions) : o.IsHeldBy o.entries := by
  refine ⟨?_, ?_, ?_, fun e he => ?_⟩
  · simp [entries, Value.lookup_append, Value.lookup_optionEntry]
  · simp [entries, Value.lookup_append, Value.lookup_optionEntry]
  · simp [entries, Value.lookup_append, Value.lookup_optionEntry]
  · simp only [entries, List.mem_append] at he
    rcases he with (he | he) | he <;> simp [mem_optionEntry he]

theorem IsHeldBy.read (h : o.IsHeldBy d) : TransportOptions.read (Given.ofEntries d) = ⟨[], o⟩ := by
  unfold TransportOptions.read
  rw [Reading.option_written (fun _ => rfl) h.encoding,
    Reading.option_written (fun _ => rfl) h.contentType,
    Reading.option_written Given.readSize_int h.maxContentLength, Reading.noOthers_within h.within]
  rfl

theorem IsHeldBy.merge (new : TransportOptions) (h : old.IsHeldBy d) :
    ∃ merged, d.merge new.entries = .ok merged ∧ (new.onto old).IsHeldBy merged := by
  have hmerge : d.merge new.entries = .ok
      (((d.update "encoding" (new.encoding.map .text)).update "content_type"
        (new.contentType.map .text)).update "max_content_length"
          (new.maxContentLength.map fun n => .int n.val)) := by
    rw [entries, List.append_assoc, Dictionary.merge_option _ _ _ (by rintro _ _ ⟨⟩),
      Dictionary.merge_option _ _ _ (by rintro _ _ ⟨⟩), ← List.append_nil (optionEntry _ _),
      Dictionary.merge_option _ _ _ (by rintro _ _ ⟨⟩), Dictionary.merge]
  refine ⟨_, hmerge, ?_, ?_, ?_, ?_⟩
  · simp [Dictionary.lookup_update, h.encoding, onto, Option.map_or]
  · simp [Dictionary.lookup_update, h.contentType, onto, Option.map_or]
  · simp [Dictionary.lookup_update, h.maxContentLength, onto, Option.map_or]
  · exact ((h.within.update (by simp) _).update (by simp) _).update (by simp) _

end TransportOptions

/-! ### Logging options -/

namespace LoggingOptions

variable {o old : LoggingOptions}

/-- Logging options that count before others. -/
def onto (new old : LoggingOptions) : LoggingOptions where
  debug := new.debug.or old.debug

/-- A dictionary has the entries of logging options, and no others. -/
structure IsHeldBy (o : LoggingOptions) (d : Dictionary) : Prop where
  debug : Value.lookup d "debug" = o.debug.map .bool
  within : d.Within ["debug"]

theorem isHeldBy_entries (o : LoggingOptions) : o.IsHeldBy o.entries where
  debug := by simp [entries, Value.lookup_optionEntry]
  within e he := by simp [mem_optionEntry he]

theorem IsHeldBy.read (h : o.IsHeldBy d) : LoggingOptions.read (Given.ofEntries d) = ⟨[], o⟩ := by
  unfold LoggingOptions.read
  rw [Reading.option_written (fun _ => rfl) h.debug, Reading.noOthers_within h.within]
  rfl

theorem IsHeldBy.merge (new : LoggingOptions) (h : old.IsHeldBy d) :
    ∃ merged, d.merge new.entries = .ok merged ∧ (new.onto old).IsHeldBy merged := by
  have hmerge : d.merge new.entries = .ok (d.update "debug" (new.debug.map .bool)) := by
    rw [entries, ← List.append_nil (optionEntry _ _),
      Dictionary.merge_option _ _ _ (by rintro _ _ ⟨⟩), Dictionary.merge]
  refine ⟨_, hmerge, ?_, h.within.update (by simp) _⟩
  simp [Dictionary.lookup_update, h.debug, onto, Option.map_or]

end LoggingOptions

/-! ### All options -/

namespace Options

variable {o old : Options}

/-- Options that count before others. -/
def onto (new old : Options) : Options where
  catalog := new.catalog.or old.catalog
  transport := laterSection TransportOptions.onto new.transport old.transport
  logging := laterSection LoggingOptions.onto new.logging old.logging

/-- A dictionary has the entries of options, and no others. -/
structure IsHeldBy (o : Options) (d : Dictionary) : Prop where
  catalog : Value.lookup d "catalog" = o.catalog.map fun c => .text c.name
  transport : SectionHeld TransportOptions.IsHeldBy o.transport (Value.lookup d "transport")
  logging : SectionHeld LoggingOptions.IsHeldBy o.logging (Value.lookup d "logging")
  within : d.Within ["catalog", "transport", "logging"]

theorem isHeldBy_entries (o : Options) : o.IsHeldBy o.entries := by
  refine ⟨?_, ?_, ?_, fun e he => ?_⟩
  · simp [entries, Value.lookup_append, Value.lookup_optionEntry]
  · simp only [entries, Value.lookup_append, Value.lookup_optionEntry]
    cases o.transport with
    | none => exact .none
    | some t => exact .some ⟨_, rfl, t.isHeldBy_entries⟩
  · simp only [entries, Value.lookup_append, Value.lookup_optionEntry]
    cases o.logging with
    | none => exact .none
    | some l => exact .some ⟨_, rfl, l.isHeldBy_entries⟩
  · simp only [entries, List.mem_append] at he
    rcases he with (he | he) | he <;> simp [mem_optionEntry he]

/-- Options that a dictionary holds are read from it. -/
theorem IsHeldBy.ofGiven (h : o.IsHeldBy d) :
    Options.ofGiven (.ofValue (.object d)) = .ok o := by
  have hread : Options.read (Given.ofEntries d) = ⟨[], o⟩ := by
    unfold Options.read
    rw [Reading.option_written Given.readCatalog_text h.catalog,
      Reading.inner_held (fun _ _ => TransportOptions.IsHeldBy.read) h.transport,
      Reading.inner_held (fun _ _ => LoggingOptions.IsHeldBy.read) h.logging,
      Reading.noOthers_within h.within]
    rfl
  show (Options.read (Given.ofEntries d)).result = .ok o
  rw [hread]
  rfl

theorem IsHeldBy.merge (new : Options) (h : old.IsHeldBy d) :
    ∃ merged, d.merge new.entries = .ok merged ∧ (new.onto old).IsHeldBy merged := by
  let d₁ := d.update "catalog" (new.catalog.map fun c => .text c.name)
  have htransport : SectionHeld TransportOptions.IsHeldBy old.transport
      (Value.lookup d₁ "transport") := by
    rw [Dictionary.lookup_update, if_neg (by decide)]
    exact h.transport
  obtain ⟨g, hg, ht⟩ := Dictionary.merge_section TransportOptions.isHeldBy_entries
    (fun new _ _ => TransportOptions.IsHeldBy.merge new)
    (optionEntry "logging" (new.logging.map LoggingOptions.toValue)) new.transport htransport
  let d₂ := d₁.update "transport" g
  have hlogging : SectionHeld LoggingOptions.IsHeldBy old.logging
      (Value.lookup d₂ "logging") := by
    rw [Dictionary.lookup_update, if_neg (by decide), Dictionary.lookup_update,
      if_neg (by decide)]
    exact h.logging
  obtain ⟨k, hk, hl⟩ := Dictionary.merge_section LoggingOptions.isHeldBy_entries
    (fun new _ _ => LoggingOptions.IsHeldBy.merge new) [] new.logging hlogging
  refine ⟨d₂.update "logging" k, ?_, ?_, ?_, ?_, ?_⟩
  · rw [List.append_nil] at hk
    calc d.merge new.entries
        = d₁.merge (optionEntry "transport" (new.transport.map TransportOptions.toValue) ++
            optionEntry "logging" (new.logging.map LoggingOptions.toValue)) := by
          rw [entries, List.append_assoc, Dictionary.merge_option _ _ _ (by rintro _ _ ⟨⟩)]
      _ = d₂.merge (optionEntry "logging" (new.logging.map LoggingOptions.toValue)) := hg
      _ = (d₂.update "logging" k).merge [] := hk
      _ = .ok (d₂.update "logging" k) := Dictionary.merge.eq_1 _
  · rw [Dictionary.lookup_update, if_neg (by decide), Dictionary.lookup_update,
      if_neg (by decide), Dictionary.lookup_update, if_pos rfl, h.catalog]
    simp [onto, Option.map_or]
  · rw [Dictionary.lookup_update, if_neg (by decide), Dictionary.lookup_update, if_pos rfl]
    exact ht
  · rw [Dictionary.lookup_update, if_pos rfl]
    exact hl
  · exact ((h.within.update (by simp) _).update (by simp) _).update (by simp) _

/-- Newer options go into a dictionary that holds options, and are read from it with these. -/
theorem IsHeldBy.readMerged (new : Options) (h : old.IsHeldBy d) :
    ∃ merged, Configuration.readMerged d new = .ok (merged, new.onto old) ∧
      (new.onto old).IsHeldBy merged := by
  obtain ⟨merged, hmerged, hheld⟩ := h.merge new
  refine ⟨merged, ?_, hheld⟩
  rw [Configuration.readMerged, hmerged, mapError_ok, ok_bind, hheld.ofGiven]
  rfl

end Options

end EditorProtocol
