import SqlGateway.Config.Save
import SqlGateway.Proofs.Config.Loaded
import SqlGateway.Proofs.Yaml.Decoded
import SqlGateway.Proofs.Yaml.Document

namespace SqlGateway

open Yaml

theorem gives_text_of_shows {s : String} {n : Node} (h : Shows (.text s) n) :
    Decoder.Gives (Decoder.text n) s := by
  cases h with
  | text h => exact Decoder.gives_text h

theorem OutputFormat.gives_decode (f : OutputFormat) {n : Node} (h : Shows (.text f.name) n) :
    Decoder.Gives (OutputFormat.decode n) f := by
  cases h with
  | text h => cases f <;> cases h <;> exact fun _ _ ↦ rfl

theorem OutputStyle.gives_decode (o : OutputStyle) {n : Node} (h : Shows (.fields o.written) n) :
    Decoder.Gives (OutputStyle.decode n) o := by
  refine Decoder.gives_fields h (by simp [written]) (by simp [written]) fun found hfound ↦ ?_
  refine (Decoder.gives_field _ hfound rfl fun _ ↦ gives_text_of_shows).bind ?_
  refine (Decoder.gives_field _ hfound rfl fun _ ↦ o.format.gives_decode).bind ?_
  refine (Decoder.gives_field _ hfound rfl fun _ ↦ gives_text_of_shows).bind ?_
  exact Decoder.gives_pure o

section Missing

variable {fs : List (String × Outline)} {found : List (String × Node)} {name : String}

theorem gives_optionalField {value : Option String} (h : Decoder.Found fs found)
    (hname : fs.lookup name = value.map .text) :
    Decoder.Gives (Decoder.field found name none Decoder.optionalText) value := by
  cases value with
  | none => exact Decoder.gives_missing none _ h hname
  | some s =>
    refine Decoder.gives_field none h hname fun n hn ↦ ?_
    cases hn with
    | text hn => exact Decoder.gives_optionalText hn

theorem gives_init {init : List String} (h : Decoder.Found fs found)
    (hname : fs.lookup name = if init.isEmpty then none else some (.items init)) :
    Decoder.Gives (Decoder.field found name [] fun n => do (← Decoder.items n).mapM Decoder.text)
      init := by
  cases init with
  | nil => exact Decoder.gives_missing [] _ h hname
  | cons s init => exact Decoder.gives_field [] h hname fun _ ↦ Decoder.gives_texts

end Missing

theorem Profile.gives_decode (p : Profile) {n : Node} (h : Shows (.fields p.written) n) :
    Decoder.Gives (Profile.decode n) p := by
  have hnames : ∀ key ∈ p.written.map Prod.fst, key ∈ ["url", "init", "description"] := by
    rw [written]
    cases p.init <;> cases p.description <;> simp [optionalField]
  have hdistinct : (p.written.map Prod.fst).Nodup := by
    rw [written]
    cases p.init <;> cases p.description <;> simp [optionalField]
  have hinit : p.written.lookup "init" = if p.init.isEmpty then none else some (.items p.init) := by
    rw [written]
    cases p.init <;> cases p.description <;> rfl
  have hdescription : p.written.lookup "description" = p.description.map .text := by
    rw [written]
    cases p.init <;> cases p.description <;> rfl
  refine Decoder.gives_fields h hnames hdistinct fun found hfound ↦ ?_
  obtain ⟨u, hu, hurl⟩ := hfound.lookup_some (show p.written.lookup "url" = some (.text p.url) from rfl)
  simp only [hu]
  refine (gives_text_of_shows hurl).bind ?_
  refine (gives_init hfound hinit).bind ?_
  refine (gives_optionalField hfound hdescription).bind ?_
  exact Decoder.gives_pure p

namespace Config

theorem gives_profiles {profiles : List (String × Profile)} {entries : List (Node × Node)}
    (h : Shows (.fields (profiles.map fun (name, p) => (name, .fields p.written)))
      (.mapping {} entries)) :
    Decoder.Gives
      (entries.mapM fun (k, v) => do return (← Decoder.text k, ← Profile.decode v)) profiles := by
  induction profiles generalizing entries with
  | nil =>
    cases h
    exact Decoder.gives_pure []
  | cons np profiles ih =>
    cases h with
    | @field _ _ k n _ entries hkey hvalue hrest =>
      have hfirst : Decoder.Gives (do return (← Decoder.text k, ← Profile.decode n)) np :=
        (Decoder.gives_text hkey).bind ((np.2.gives_decode hvalue).bind (Decoder.gives_pure np))
      rw [List.mapM_cons]
      exact hfirst.bind ((ih hrest).bind (Decoder.gives_pure (np :: profiles)))

theorem gives_decodeProfiles {profiles : List (String × Profile)} {n : Node}
    (hsorted : Keyed.Sorted profiles)
    (h : Shows (.fields (profiles.map fun (name, p) => (name, .fields p.written))) n) :
    Decoder.Gives (decodeProfiles n) profiles := by
  obtain ⟨entries, rfl⟩ := h.exists_mapping
  refine Decoder.gives_entries.bind ((gives_profiles h).bind ?_)
  rw [hsorted.ofList_eq]
  exact Decoder.gives_pure profiles

theorem lookup_default (c : Config) :
    c.written.lookup "default_connection" = c.defaultConnection.map .text := by
  rw [written]
  cases c.defaultConnection <;> rfl

theorem lookup_written (c : Config) {name : String} (hname : name ≠ "default_connection") :
    c.written.lookup name =
      [("connections", .fields (c.connections.map fun (name, p) => (name, .fields p.written))),
        ("output", Outline.fields c.output.written)].lookup name := by
  rw [written]
  cases c.defaultConnection with
  | none => rfl
  | some s => simp [optionalField, List.lookup_cons, beq_false_of_ne hname]

theorem gives_decode {c : Config} {n : Node} (hsorted : Keyed.Sorted c.connections)
    (h : Shows (.fields c.written) n) : Decoder.Gives (decode n) c := by
  have hnames : ∀ key ∈ c.written.map Prod.fst,
      key ∈ ["default_connection", "connections", "output"] := by
    rw [written]
    cases c.defaultConnection <;> simp [optionalField]
  have hdistinct : (c.written.map Prod.fst).Nodup := by
    rw [written]
    cases c.defaultConnection <;> simp [optionalField]
  refine Decoder.gives_fields h hnames hdistinct fun found hfound ↦ ?_
  refine (gives_optionalField hfound c.lookup_default).bind ?_
  refine (Decoder.gives_field _ hfound (c.lookup_written (by decide)) fun _ ↦
    gives_decodeProfiles hsorted).bind ?_
  refine (Decoder.gives_field _ hfound (c.lookup_written (by decide)) fun _ ↦
    c.output.gives_decode).bind ?_
  exact Decoder.gives_pure c

theorem parseBy_toYamlBy {C : Codec} (hC : C.Lawful) {c : Config}
    (hsorted : Keyed.Sorted c.connections) : parseBy C (c.toYamlBy C) = .ok c := by
  have hfs : c.written ≠ [] := List.append_ne_nil_of_right_ne_nil _ (List.cons_ne_nil _ _)
  obtain ⟨d, hd⟩ := hC.readable c.written hfs
  rw [parseBy, toYamlBy, hd]
  exact (gives_decode hsorted (hC.faithful c.written d hfs hd)).run_eq d

/-- A configuration that can be used is written as a text that gives it back, whatever library keeps
what is written; the one that is used does. The profiles are sorted by name, as in all that are
read. -/
theorem ofYaml_toYaml {c : Config} (hsorted : Keyed.Sorted c.connections)
    (hvalid : c.validate = .ok ()) :
    (∀ C : Codec, C.Lawful → ofYamlBy C (c.toYamlBy C) = .ok c) ∧ ofYaml c.toYaml = .ok c := by
  have hall : ∀ C : Codec, C.Lawful → ofYamlBy C (c.toYamlBy C) = .ok c := fun C hC ↦
    ofYamlBy_ok_iff.mpr ⟨parseBy_toYamlBy hC hsorted, validate_ok_iff.mp hvalid⟩
  exact ⟨hall, hall .libyaml Codec.libyaml_lawful⟩

def awkward : Config where
  defaultConnection := some "null"
  connections := [
    ("- a: b\n", { url := "x:'\t\x00" }),
    ("null", {
      url := "x:\u2028 "
      init := ["", "~", " a\nb\n\n", "# c"]
      description := some "" })]
  output := { nullText := "", format := .json, separator := " \n" }

theorem ofYaml_toYaml_awkward :
    Keyed.Sorted awkward.connections ∧ awkward.validate = .ok () ∧
      ofYaml awkward.toYaml = .ok awkward := by
  have hsorted : Keyed.Sorted awkward.connections := by
    simp only [Keyed.Sorted, awkward, List.map_cons, List.map_nil, String.lt_iff_toList_lt]
    decide
  have hvalid : awkward.validate = .ok () := by decide
  exact ⟨hsorted, hvalid, (ofYaml_toYaml hsorted hvalid).2⟩

end Config
end SqlGateway
