import VizSession.Proofs.RoundTrips
import VizSession.Proofs.TomlDocuments

/-!
# Configurations and their written forms

A configuration is read back from its TOML document and from its JSON text
(`config_round_trips`), whatever its texts are. Validation comes after reading, and so both forms
of one that is not valid are refused for the same reason, which is that of `validate`.

The document is one of single lines with distinct names (`Toml.parse?_lines`), the JSON value is
plain and written over several lines (`Json.Plain.parse?_pretty`). What is left here is that either
holds each field under its name.
-/

namespace VizSession.Config

/-! ## TOML -/

theorem bare_of_mem_fieldNames {name : String} (h : name ∈ fieldNames) :
    name.toList ≠ [] ∧ ∀ c ∈ name.toList, Toml.isBare c = true := by
  have hall : fieldNames.all fun name => name.toList ≠ [] && name.toList.all Toml.isBare := by
    decide
  simpa [and_comm] using List.all_eq_true.mp hall name h

/-- The entry of a field in a document. -/
def tomlEntry (name : String) (chars : List Char) (value : Toml.Node)
    (hname : name ∈ fieldNames) (hscans : Toml.Scans chars value) : Toml.Entry where
  name := name
  chars := chars
  value := value
  name_ne := (bare_of_mem_fieldNames hname).1
  bare := (bare_of_mem_fieldNames hname).2
  scans := hscans

/-- The entries of the document that a configuration is written as. -/
def tomlEntries (c : Config) : List Toml.Entry :=
  [tomlEntry "connection_url" (Toml.quoted c.url) (.text c.url) (by decide) (Toml.scans_quoted _),
    tomlEntry "auto_create_view" (flagChars c.autoCreateView) (.bool c.autoCreateView) (by decide)
      (Toml.scans_flag _),
    tomlEntry "default_view" (Toml.quoted c.defaultView) (.text c.defaultView) (by decide)
      (Toml.scans_quoted _),
    tomlEntry "satellite" (flagChars c.satellite) (.bool c.satellite) (by decide)
      (Toml.scans_flag _)]

theorem toTomlText_eq (c : Config) :
    c.toTomlText = String.ofList (c.tomlEntries.flatMap Toml.Entry.line) := by
  simp [toTomlText, fieldNames, tomlEntries, tomlEntry, Toml.Entry.line]

/-- The document of a configuration is understood as the configuration. -/
theorem ofTable?_parse?_toTomlText (c : Config) :
    (Toml.parse? c.toTomlText).bind ofTable? = some c := by
  have hnodup : (c.tomlEntries.map Toml.Entry.name).Nodup := by
    show fieldNames.Nodup
    decide
  rw [toTomlText_eq, Toml.parse?_lines hnodup]
  rfl

/-! ## JSON -/

theorem plain_toJson (c : Config) : c.toJson.Plain :=
  .record (by simp [fieldNames, Json.Plain.bool])

/-- The JSON text of a configuration is understood as the configuration. -/
theorem decode?_toJsonText (c : Config) : Json.decode? ofJson? c.toJsonText = some c := by
  have hfields : c.toJson.fields? fieldNames fieldNames.length Json.depthLimit =
      some (126, [some (.text c.url), some (.bool c.autoCreateView), some (.text c.defaultView),
        some (.bool c.satellite)]) :=
    Json.fields?_record ..
  rw [Json.decode?, toJsonText, (plain_toJson c).parse?_pretty, Option.bind_some, ofJson?, hfields]
  rfl

/-! ## Round trips -/

/-- What becomes of a configuration that is written and read again. -/
structure RoundTrips (c : Config) : Prop where
  /-- The document says all of the configuration, valid or not. -/
  document : (Toml.parse? c.toTomlText).bind ofTable? = some c
  /-- The JSON text does, too. -/
  text : Json.decode? ofJson? c.toJsonText = some c
  /-- A valid configuration comes back from either form. -/
  valid : c.validate = .ok c → ofTomlText c.toTomlText = .ok c ∧ ofJsonText c.toJsonText = .ok c
  /-- One that is not valid is refused in either form, for the reason of its validation. -/
  invalid : ∀ fault, c.validate = .error fault →
    ofTomlText c.toTomlText = .error fault ∧ ofJsonText c.toJsonText = .error fault
  /-- Validation gives the configuration itself or a reason against it. -/
  decided : c.validate = .ok c ∨ ∃ fault, c.validate = .error fault

/-- Every configuration is read back from both of its forms, or refused in both as it is by
validation. -/
theorem config_round_trips (c : Config) : c.RoundTrips := by
  have htoml : ofTomlText c.toTomlText = c.validate := by
    rw [ofTomlText, ofTable?_parse?_toTomlText]
  have hjson : ofJsonText c.toJsonText = c.validate := by
    rw [ofJsonText, decode?_toJsonText]
  refine ⟨ofTable?_parse?_toTomlText c, decode?_toJsonText c, fun h => ?_, fun fault h => ?_, ?_⟩
  · rw [htoml, hjson]
    exact ⟨h, h⟩
  · rw [htoml, hjson]
    exact ⟨h, h⟩
  · unfold validate
    cases c.fault? with
    | none => exact .inl rfl
    | some fault => exact .inr ⟨fault, rfl⟩

end VizSession.Config
