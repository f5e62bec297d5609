import EndpointHooks.Config.File
import EndpointHooks.Proofs.Toml.Lines
import Mathlib.Data.List.Nodup
import Mathlib.Data.List.Perm.Basic

/-! Settings that are written as lines below the header of their table. In whatever order they stand
and whatever other names stand between them, the settings are those that are written, and the
defaults for the others. A strictness of another name or a negative width is refused. -/

namespace EndpointHooks.Config

open Toml

/-- A line of the table of settings: one of the settings, or another name with an integer. -/
inductive Written where
  | exportHook (b : Bool)
  | validation (name : String)
  | indentWidth (i : Int)
  | parallel (b : Bool)
  | other (name : String) (i : Int)
  deriving DecidableEq

def settingNames : List String := ["export_hook", "validation", "indent_width", "parallel"]

namespace Written

def line : Written → Line
  | exportHook b => ⟨"export_hook", .bool b⟩
  | validation name => ⟨"validation", .word name⟩
  | indentWidth i => ⟨"indent_width", .int i⟩
  | parallel b => ⟨"parallel", .bool b⟩
  | other name i => ⟨name, .int i⟩

/-- Whether the name of a line is the name of a setting only if it has to be. -/
def IsNamed : Written → Prop
  | other name _ => name ∉ settingNames
  | _ => True

/-- Whether the value of a line is one that its setting can have. -/
def IsValid : Written → Prop
  | validation name => name = "strict" ∨ name = "lenient"
  | indentWidth i => 0 ≤ i
  | _ => True

/-- The settings with that of a line. -/
def set (config : Config) : Written → Config
  | exportHook b => { config with exportHook := b }
  | validation name =>
    { config with strictness := if name = "lenient" then .lenient else .strict }
  | indentWidth i => { config with indentWidth := i.toNat }
  | parallel b => { config with parallel := b }
  | other _ _ => config

end Written

variable {w : Written} {ws : List Written} {entry : Key × Node} {entries : Entries}

/-! ### One line -/

theorem ofName?_eq_none {name : String} (h : name ∉ settingNames) :
    Setting.ofName? name = none := by
  rw [Setting.ofName?, List.find?_eq_none]
  intro setting _ hname
  obtain rfl : setting.name = name := by simpa using hname
  cases setting <;> exact h (by decide)

section

variable {config next : Config} {complaint : Complaint}

theorem decodeEntry_of_ok (setting : Setting)
    (hname : Setting.ofName? entry.1.name = some setting)
    (h : decodeSetting config entry.2 setting = .ok next) :
    decodeEntry config entry = .ok next := by
  simp only [decodeEntry, hname, h]

theorem decodeEntry_of_error (setting : Setting)
    (hname : Setting.ofName? entry.1.name = some setting)
    (h : decodeSetting config entry.2 setting = .error complaint) :
    decodeEntry config entry = .error (complaint.orSpan (some entry.1.span)) := by
  simp only [decodeEntry, hname, h]

end

theorem decodeEntry_of_isValid (hentry : IsEntryOf entry w.line) (hnamed : w.IsNamed)
    (hvalid : w.IsValid) (config : Config) : decodeEntry config entry = .ok (w.set config) := by
  obtain ⟨key, node⟩ := entry
  obtain ⟨hname, span, rfl⟩ := hentry
  cases w with
  | exportHook b => exact decodeEntry_of_ok .exportHook (by rw [hname]; rfl) rfl
  | validation name =>
    refine decodeEntry_of_ok .strictness (by rw [hname]; rfl) ?_
    rcases hvalid with rfl | rfl <;> rfl
  | indentWidth i =>
    have hwidth : decodeWidth (.scalar span (.int i)) = .ok i.toNat := if_pos hvalid
    refine decodeEntry_of_ok .indentWidth (by rw [hname]; rfl) ?_
    simp only [decodeSetting, Written.line, LineValue.scalar, hwidth]
    rfl
  | parallel b => exact decodeEntry_of_ok .parallel (by rw [hname]; rfl) rfl
  | other name i =>
    have hnone : Setting.ofName? key.name = none := by
      rw [hname]
      exact ofName?_eq_none hnamed
    simp only [decodeEntry, hnone]
    rfl

/-- A value that its setting cannot have is refused, whatever was read before. -/
theorem decodeEntry_of_not_isValid (hentry : IsEntryOf entry w.line) (hvalid : ¬w.IsValid)
    (config : Config) : ∃ complaint, decodeEntry config entry = .error complaint := by
  obtain ⟨key, node⟩ := entry
  obtain ⟨hname, span, rfl⟩ := hentry
  cases w with
  | exportHook b => exact absurd trivial hvalid
  | validation name =>
    obtain ⟨hstrict, hlenient⟩ : name ≠ "strict" ∧ name ≠ "lenient" := not_or.mp hvalid
    obtain ⟨message, hmessage⟩ : ∃ message, strictnessOfName name = .error message :=
      ⟨_, by rw [strictnessOfName, if_neg hstrict, if_neg hlenient]⟩
    have hrefused : decodeStrictness (.scalar span (.str name)) = .error ⟨message, some span⟩ := by
      simp only [decodeStrictness, hmessage]
      rfl
    exact ⟨_, decodeEntry_of_error .strictness (by rw [hname]; rfl)
      (congrArg (Except.map _) hrefused)⟩
  | indentWidth i =>
    obtain ⟨complaint, hrefused⟩ :
        ∃ complaint, decodeWidth (.scalar span (.int i)) = .error complaint :=
      ⟨_, if_neg hvalid⟩
    exact ⟨_, decodeEntry_of_error .indentWidth (by rw [hname]; rfl)
      (congrArg (Except.map _) hrefused)⟩
  | parallel b => exact absurd trivial hvalid
  | other name i => exact absurd trivial hvalid

/-! ### All lines -/

theorem decodeEntries_of_isValid (h : AreEntriesOf entries (ws.map Written.line))
    (hnamed : ∀ w ∈ ws, w.IsNamed) (hvalid : ∀ w ∈ ws, w.IsValid) (config : Config) :
    entries.foldlM decodeEntry config = .ok (ws.foldl Written.set config) := by
  induction ws generalizing entries config with
  | nil =>
    cases h
    rfl
  | cons w ws ih =>
    obtain ⟨hw, hws⟩ := List.forall_mem_cons.mp hvalid
    obtain ⟨hw', hws'⟩ := List.forall_mem_cons.mp hnamed
    cases h with
    | cons hentry hentries =>
      rw [List.foldlM_cons, decodeEntry_of_isValid hentry hw' hw]
      exact ih hentries hws' hws _

theorem decodeEntries_of_not_isValid (h : AreEntriesOf entries (ws.map Written.line))
    (hw : w ∈ ws) (hvalid : ¬w.IsValid) (config : Config) :
    ∃ complaint, entries.foldlM decodeEntry config = .error complaint := by
  induction ws generalizing entries config with
  | nil => cases hw
  | cons first ws ih =>
    cases h with
    | @cons entry _ entries _ hentry hentries =>
      rw [List.foldlM_cons]
      cases hread : decodeEntry config entry with
      | error complaint => exact ⟨complaint, rfl⟩
      | ok next =>
        rcases List.mem_cons.mp hw with rfl | hw
        · obtain ⟨complaint, hrefused⟩ := decodeEntry_of_not_isValid hentry hvalid config
          rw [hrefused] at hread
          cases hread
        · exact ih hentries hw next

/-- Lines of different names can change places. -/
theorem set_comm {v w : Written} (h : v.line.name ≠ w.line.name) (config : Config) :
    w.set (v.set config) = v.set (w.set config) := by
  cases v <;> cases w <;> first | rfl | exact absurd rfl h

theorem foldl_set_perm {vs : List Written} (h : vs.Perm ws)
    (hnames : (vs.map (·.line.name)).Nodup) (config : Config) :
    vs.foldl Written.set config = ws.foldl Written.set config := by
  refine h.foldl_eq' (fun v hv w hw config => ?_) config
  by_cases hne : v.line.name = w.line.name
  · rw [List.inj_on_of_nodup_map hnames hv hw hne]
  · exact set_comm hne config

/-! ### Tables of settings -/

/-- The settings that are written, each with its value, and those that are left out. -/
structure Choices where
  exportHook : Option Bool
  validation : Option String
  indentWidth : Option Int
  parallel : Option Bool

namespace Choices

def written (choices : Choices) : List Written :=
  choices.exportHook.toList.map .exportHook ++ choices.validation.toList.map .validation ++
    choices.indentWidth.toList.map .indentWidth ++ choices.parallel.toList.map .parallel

/-- Whether the strictness is written in letters and the width fits 64 bits. -/
structure IsPlain (choices : Choices) : Prop where
  validation : ∀ name ∈ choices.validation, ∀ c ∈ name.toList, c.isAlpha = true
  indentWidth : ∀ i ∈ choices.indentWidth, -0x8000000000000000 ≤ i ∧ i ≤ 0x7fffffffffffffff

/-- Whether the strictness is one of the two there are and the width is not negative. -/
structure IsValid (choices : Choices) : Prop where
  validation : ∀ name ∈ choices.validation, name = "strict" ∨ name = "lenient"
  indentWidth : ∀ i ∈ choices.indentWidth, 0 ≤ i

/-- The settings with the written values, and with the defaults for what is left out. -/
def config (choices : Choices) : Config where
  exportHook := choices.exportHook.getD true
  strictness := if choices.validation = some "lenient" then .lenient else .strict
  indentWidth := (choices.indentWidth.getD 4).toNat
  parallel := choices.parallel.getD true

end Choices

/-- Names and integers beside the settings. -/
structure AreOthers (others : List (String × Int)) : Prop where
  bare : ∀ p ∈ others, IsBareName p.1
  other : ∀ p ∈ others, p.1 ∉ settingNames
  nodup : (others.map Prod.fst).Nodup
  range : ∀ p ∈ others, -0x8000000000000000 ≤ p.2 ∧ p.2 ≤ 0x7fffffffffffffff

variable {choices : Choices} {others : List (String × Int)}

def otherLines (others : List (String × Int)) : List Written := others.map fun p => .other p.1 p.2

theorem mem_written : w ∈ choices.written ↔
    (∃ b ∈ choices.exportHook, .exportHook b = w) ∨
      (∃ name ∈ choices.validation, .validation name = w) ∨
      (∃ i ∈ choices.indentWidth, .indentWidth i = w) ∨
      ∃ b ∈ choices.parallel, .parallel b = w := by
  simp [Choices.written, or_assoc]

theorem isValid_iff : choices.IsValid ↔ ∀ w ∈ choices.written, w.IsValid := by
  constructor
  · intro h w hw
    rcases mem_written.mp hw with ⟨b, -, rfl⟩ | ⟨name, hname, rfl⟩ | ⟨i, hi, rfl⟩ | ⟨b, -, rfl⟩
    · trivial
    · exact h.validation name hname
    · exact h.indentWidth i hi
    · trivial
  · intro h
    exact ⟨fun name hname => h _ (mem_written.mpr (.inr (.inl ⟨name, hname, rfl⟩))),
      fun i hi => h _ (mem_written.mpr (.inr (.inr (.inl ⟨i, hi, rfl⟩))))⟩

theorem isBareName_of_mem_settingNames : ∀ name ∈ settingNames, IsBareName name := by decide

theorem name_mem_settingNames (hw : w ∈ choices.written) : w.line.name ∈ settingNames := by
  rcases mem_written.mp hw with ⟨b, -, rfl⟩ | ⟨name, -, rfl⟩ | ⟨i, -, rfl⟩ | ⟨b, -, rfl⟩ <;>
    simp [Written.line, settingNames]

theorem value_isPlain (h : choices.IsPlain) (hw : w ∈ choices.written) :
    w.line.value.IsPlain ∧ w.IsNamed := by
  rcases mem_written.mp hw with ⟨b, -, rfl⟩ | ⟨name, hname, rfl⟩ | ⟨i, hi, rfl⟩ | ⟨b, -, rfl⟩
  · exact ⟨trivial, trivial⟩
  · exact ⟨h.validation name hname, trivial⟩
  · exact ⟨h.indentWidth i hi, trivial⟩
  · exact ⟨trivial, trivial⟩

/-- Every line of the table is read on its own. -/
theorem isPlain_of_mem (h : choices.IsPlain) (hothers : AreOthers others)
    (hw : w ∈ choices.written ++ otherLines others) : w.line.IsPlain ∧ w.IsNamed := by
  rcases List.mem_append.mp hw with hw | hw
  · have hname := isBareName_of_mem_settingNames _ (name_mem_settingNames hw)
    exact ⟨⟨hname, (value_isPlain h hw).1⟩, (value_isPlain h hw).2⟩
  · obtain ⟨p, hp, rfl⟩ := List.mem_map.mp hw
    exact ⟨⟨hothers.bare p hp, hothers.range p hp⟩, hothers.other p hp⟩

theorem nodup_written (choices : Choices) : (choices.written.map (·.line.name)).Nodup := by
  obtain ⟨exportHook, validation, indentWidth, parallel⟩ := choices
  cases exportHook <;> cases validation <;> cases indentWidth <;> cases parallel <;>
    simp [Choices.written, Written.line]

/-- No two lines of the table have one name. -/
theorem nodup_names (choices : Choices) (hothers : AreOthers others) :
    ((choices.written ++ otherLines others).map (·.line.name)).Nodup := by
  have hmap : (otherLines others).map (·.line.name) = others.map Prod.fst := by
    rw [otherLines, List.map_map]
    rfl
  rw [List.map_append, hmap, List.nodup_append]
  refine ⟨nodup_written choices, hothers.nodup, ?_⟩
  rintro name hname other hother rfl
  obtain ⟨w, hw, rfl⟩ := List.mem_map.mp hname
  obtain ⟨p, hp, hpname⟩ := List.mem_map.mp hother
  exact hothers.other p hp (hpname ▸ name_mem_settingNames hw)

/-- The written values and the defaults are what the lines make of the default settings. -/
theorem foldl_written (choices : Choices) :
    choices.written.foldl Written.set {} = choices.config := by
  obtain ⟨exportHook, validation, indentWidth, parallel⟩ := choices
  cases exportHook <;> cases validation <;> cases indentWidth <;> cases parallel <;>
    simp [Choices.written, Choices.config, Written.set]

theorem foldl_otherLines (config : Config) :
    (otherLines others).foldl Written.set config = config := by
  induction others with
  | nil => rfl
  | cons p others ih => exact ih

/-- What is decoded from a table is what its entries say, and a wrong entry comes with a report. -/
theorem ofText_tableText (lines : List Line) (hplain : ∀ line ∈ lines, line.IsPlain)
    (hnames : (lines.map Line.name).Nodup) (ended : Bool) :
    ∃ entries, AreEntriesOf entries lines ∧
      (∀ config, decodeEntries entries = .ok config →
        ofText (tableText "codegen" lines ended) = .ok config) ∧
      (∀ complaint, decodeEntries entries = .error complaint →
        ∃ report, ofText (tableText "codegen" lines ended) = .error (.configInvalid report)) := by
  have hheader : IsBareName "codegen" := by decide
  obtain ⟨key, span, entries, hdocument, hkey, hentries⟩ :=
    document?_tableText hheader hplain hnames ended
  have hdecode : decode [(key, .table .header span entries)] =
      ((decodeEntries entries).mapError (·.orSpan span)).mapError (·.orSpan (some key.span)) := by
    simp [decode, decodeNode, hkey]
  refine ⟨entries, hentries, fun config h => ?_, fun complaint h => ?_⟩
  · rw [h] at hdecode
    simp only [ofText, hdocument, hdecode]
    rfl
  · rw [h] at hdecode
    simp only [ofText, hdocument, hdecode]
    exact ⟨_, rfl⟩

/-- Settings in any order, with other names anywhere between them, are read with the values that
are written and the defaults for the others, unless a value is wrong, which is always told. -/
theorem settings_read {lines : List Written} (hplain : choices.IsPlain) (hothers : AreOthers others)
    (hlines : lines.Perm (choices.written ++ otherLines others)) (ended : Bool) :
    (choices.IsValid → ofText (tableText "codegen" (lines.map Written.line) ended) =
      .ok choices.config) ∧
    (¬choices.IsValid → ∃ report,
      ofText (tableText "codegen" (lines.map Written.line) ended) =
        .error (.configInvalid report)) := by
  have hmem (w : Written) (hw : w ∈ lines) : w.line.IsPlain ∧ w.IsNamed :=
    isPlain_of_mem hplain hothers (hlines.mem_iff.mp hw)
  have hnames : (lines.map (·.line.name)).Nodup :=
    (hlines.map _).nodup_iff.mpr (nodup_names choices hothers)
  obtain ⟨entries, hentries, hok, herror⟩ := ofText_tableText (lines.map Written.line)
    (List.forall_mem_map.mpr fun w hw => (hmem w hw).1) (by rw [List.map_map]; exact hnames) ended
  constructor
  · intro hvalid
    have hvalid' (w : Written) (hw : w ∈ lines) : w.IsValid := by
      rcases List.mem_append.mp (hlines.mem_iff.mp hw) with hw | hw
      · exact isValid_iff.mp hvalid w hw
      · obtain ⟨p, -, rfl⟩ := List.mem_map.mp hw
        trivial
    apply hok
    calc decodeEntries entries
        = .ok (lines.foldl Written.set {}) :=
          decodeEntries_of_isValid hentries (fun w hw => (hmem w hw).2) hvalid' {}
      _ = .ok ((choices.written ++ otherLines others).foldl Written.set {}) := by
          rw [foldl_set_perm hlines hnames]
      _ = .ok choices.config := by
          rw [List.foldl_append, foldl_written, foldl_otherLines]
  · intro hvalid
    obtain ⟨w, hw, hwrong⟩ : ∃ w ∈ choices.written, ¬w.IsValid := by
      simpa [isValid_iff] using hvalid
    have hwlines : w ∈ lines := hlines.mem_iff.mpr (List.mem_append_left _ hw)
    obtain ⟨complaint, hcomplaint⟩ := decodeEntries_of_not_isValid hentries hwlines hwrong {}
    exact herror complaint hcomplaint

/-- The greatest width between two other names, and a strictness that there is not. -/
theorem settings_read_shuffled :
    ofText ("[codegen]\nretries = -5\nindent_width = 9223372036854775807\nx-1 = 0\n" ++
        "export_hook = false") =
      .ok { exportHook := false, indentWidth := 9223372036854775807 } ∧
    ∃ report, ofText "[codegen]\nvalidation = \"loose\"\nparallel = true\n" =
      .error (.configInvalid report) := by
  have hwidth : Choices.IsPlain ⟨some false, none, some 9223372036854775807, none⟩ :=
    ⟨by simp, by simp⟩
  have hothers : AreOthers [("retries", -5), ("x-1", 0)] :=
    ⟨by decide, by decide, by decide, by decide⟩
  have hloose : Choices.IsPlain ⟨none, some "loose", none, some true⟩ := ⟨by simp, by simp⟩
  have hnone : AreOthers [] := ⟨by simp, by simp, by simp, by simp⟩
  have hmixed : List.Perm
      [.other "retries" (-5), .indentWidth 9223372036854775807, .other "x-1" 0, .exportHook false]
      (Choices.written ⟨some false, none, some 9223372036854775807, none⟩ ++
        otherLines [("retries", -5), ("x-1", 0)]) := by decide
  have hread := (settings_read hwidth hothers hmixed false).1 ⟨by simp, by simp⟩
  have hrefused := (settings_read hloose hnone (.refl _) true).2
    fun h => absurd (h.validation "loose" rfl) (by decide)
  exact ⟨hread, hrefused⟩

end EndpointHooks.Config
