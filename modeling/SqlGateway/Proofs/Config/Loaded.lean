import SqlGateway.Config.Load
import SqlGateway.Proofs.Catalog.Routing
import SqlGateway.Proofs.Success
import SqlGateway.Proofs.Text.Number

namespace SqlGateway

namespace Config

/-- Every profile has a name that is not blank and a URL with a scheme, the default is one of them,
and there is something between columns. -/
structure Usable (c : Config) : Prop where
  named : ∀ name p, (name, p) ∈ c.connections → ∃ ch ∈ name.toList, Text.isBlank ch = false
  routed : ∀ name p, (name, p) ∈ c.connections → (Catalog.splitScheme p.url).isSome
  default : ∀ name, c.defaultConnection = some name → name ∈ c.connections.map Prod.fst
  separated : c.output.separator ≠ ""

theorem isBlankText_eq_false_iff {s : String} :
    Text.isBlankText s = false ↔ ∃ ch ∈ s.toList, Text.isBlank ch = false := by
  simp [Text.isBlankText]

theorem isBlank_of_isLetter {ch : Char} (h : Catalog.isLetter ch) : Text.isBlank ch = false := by
  simp only [Catalog.isLetter, Bool.or_eq_true, Bool.and_eq_true, decide_eq_true_eq,
    Char.le_def, UInt32.le_iff_toNat_le] at h
  simp at h
  exact Text.isBlank_of_ascii (by omega) (by omega)

theorem not_blank_of_splitScheme {url : String} (h : (Catalog.splitScheme url).isSome) :
    Text.isBlankText url = false := by
  obtain ⟨⟨low, target⟩, hsplit⟩ := Option.isSome_iff_exists.mp h
  obtain ⟨scheme, ⟨hscheme, rfl⟩, -⟩ := Catalog.exists_splits hsplit
  rw [isBlankText_eq_false_iff]
  cases hcs : scheme.toList with
  | nil => simp [hcs, Catalog.isScheme] at hscheme
  | cons first cs =>
    simp only [hcs, Catalog.isScheme, Bool.and_eq_true] at hscheme
    exact ⟨first, by simp [hcs], isBlank_of_isLetter hscheme.1⟩

theorem checkProfile_ok_iff {name : String} {p : Profile} :
    checkProfile name p = .ok () ↔
      Text.isBlankText name = false ∧ (Catalog.splitScheme p.url).isSome := by
  unfold checkProfile
  by_cases hname : Text.isBlankText name
  · simp [hname]
  · by_cases hscheme : (Catalog.splitScheme p.url).isSome
    · have hurl := not_blank_of_splitScheme hscheme
      simp [hname, hurl, hscheme, Option.isSome_iff_ne_none.mp hscheme]
    · by_cases hurl : Text.isBlankText p.url <;> simp_all

theorem separated_of_check {separator : String} {e : Error}
    (h : (if separator.isEmpty then throw e else pure ()) = (.ok () : Result Unit)) :
    separator ≠ "" := by
  rintro rfl
  cases h

theorem checkProfiles_ok_iff {profiles : List (String × Profile)} :
    profiles.forM (fun (name, p) ↦ checkProfile name p) = .ok () ↔
      ∀ name p, (name, p) ∈ profiles →
        (∃ ch ∈ name.toList, Text.isBlank ch = false) ∧ (Catalog.splitScheme p.url).isSome := by
  rw [forM_eq_ok_iff]
  simp only [Prod.forall, checkProfile_ok_iff, isBlankText_eq_false_iff]

theorem validate_ok_iff {c : Config} : c.validate = .ok () ↔ c.Usable := by
  have hprofiles := @checkProfiles_ok_iff c.connections
  unfold validate
  rw [bind_eq_ok_iff]
  simp only [exists_const_iff, hprofiles]
  constructor
  · -- the default is looked up only if there is one, the separator is checked last
    rintro ⟨-, hall, hrest⟩
    have hnamed := fun name p hp ↦ (hall name p hp).1
    have hrouted := fun name p hp ↦ (hall name p hp).2
    cases hdefault : c.defaultConnection with
    | none =>
      rw [hdefault] at hrest
      refine ⟨hnamed, hrouted, fun name hname ↦ ?_, separated_of_check hrest⟩
      cases hdefault.symm.trans hname
    | some default =>
      rw [hdefault] at hrest
      dsimp only at hrest
      by_cases hknown : (c.connections.lookup default).isNone
      · rw [if_pos hknown] at hrest
        cases hrest
      · rw [if_neg hknown] at hrest
        refine ⟨hnamed, hrouted, fun name hname ↦ ?_, separated_of_check hrest⟩
        cases hdefault.symm.trans hname
        rw [Keyed.mem_keys_iff]
        simpa using hknown
  · intro h
    refine ⟨⟨()⟩, fun name p hp ↦ ⟨h.named name p hp, h.routed name p hp⟩, ?_⟩
    have hseparator : c.output.separator.isEmpty = false := by
      simpa using h.separated
    split
    · rename_i name hname
      have hdefault := Keyed.mem_keys_iff.mp (h.default name hname)
      rw [if_neg (by simpa using hdefault), hseparator]
      rfl
    · rw [hseparator]
      rfl

theorem ofYamlBy_ok_iff {C : Yaml.Codec} {text : String} {c : Config} :
    ofYamlBy C text = .ok c ↔ parseBy C text = .ok c ∧ c.Usable := by
  rw [ofYamlBy, bind_eq_ok_iff]
  simp only [mapError_eq_ok_iff, bind_eq_ok_iff]
  constructor
  · rintro ⟨c', hparse, ⟨⟩, hvalid, hc⟩
    cases hc
    exact ⟨hparse, validate_ok_iff.mp hvalid⟩
  · rintro ⟨hparse, h⟩
    exact ⟨c, hparse, (), validate_ok_iff.mpr h, rfl⟩

theorem run_bind {α β : Type} {x : Yaml.Decoder α} {f : α → Yaml.Decoder β} {d : Yaml.Document}
    {left left' : ℕ} {b : β} :
    (x >>= f) d left = .ok (b, left') ↔
      ∃ a between, x d left = .ok (a, between) ∧ f a d between = .ok (b, left') := by
  rw [show (x >>= f) d left = x d left >>= fun r ↦ f r.1 d r.2 from rfl, bind_eq_ok_iff]
  simp [Prod.exists]

theorem sorted_decodeProfiles {n : Yaml.Node} {d : Yaml.Document} {left left' : ℕ}
    {profiles : List (String × Profile)} (h : decodeProfiles n d left = .ok (profiles, left')) :
    Keyed.Sorted profiles := by
  obtain ⟨entries, _, -, h⟩ := run_bind.mp h
  obtain ⟨decoded, _, -, h⟩ := run_bind.mp h
  cases h
  exact Keyed.sorted_ofList decoded

theorem sorted_connections {text : String} {c : Config} (h : parse text = .ok c) :
    Keyed.Sorted c.connections := by
  obtain ⟨d, -, h⟩ := bind_eq_ok_iff.mp h
  obtain ⟨⟨_, _⟩, h, hc⟩ := bind_eq_ok_iff.mp h
  cases hc
  obtain ⟨found, _, -, h⟩ := run_bind.mp h
  obtain ⟨default, _, -, h⟩ := run_bind.mp h
  obtain ⟨connections, _, hfield, h⟩ := run_bind.mp h
  obtain ⟨output, _, -, h⟩ := run_bind.mp h
  cases h
  rw [Yaml.Decoder.field] at hfield
  cases hfound : found.lookup "connections" with
  | some n =>
    rw [hfound] at hfield
    exact sorted_decodeProfiles hfield
  | none =>
    rw [hfound] at hfield
    cases hfield
    exact List.Pairwise.nil

theorem profile_some_iff {c : Config} (h : Keyed.Sorted c.connections) {name : String}
    {p : Profile} : c.profile (some name) = .ok p ↔ (name, p) ∈ c.connections := by
  rw [← h.lookup_eq_some_iff]
  unfold profile
  cases hlookup : c.connections.lookup name <;> simp [hlookup]

theorem profile_unknown {c : Config} {name : String} (h : name ∉ c.connections.map Prod.fst) :
    c.profile (some name) = .error (.notFound ("connection profile '" ++ name ++ "'")) := by
  have hnone : c.connections.lookup name = none := by
    rwa [Keyed.mem_keys_iff, Option.not_isSome_iff_eq_none] at h
  unfold profile
  simp [hnone]

theorem profile_default {c : Config} {name : String} (h : c.defaultConnection = some name) :
    c.profile none = c.profile (some name) := by
  simp [profile, h]

theorem profile_none {c : Config} (h : c.defaultConnection = none) :
    c.profile none =
      .error (.config "no connection named and no default_connection configured") := by
  simp [profile, h]

theorem Usable.profile_default_iff {c : Config} (h : c.Usable) :
    (∃ p, c.profile none = .ok p) ↔ c.defaultConnection.isSome := by
  cases hdefault : c.defaultConnection with
  | none => simp [profile_none hdefault]
  | some name =>
    obtain ⟨p, hp⟩ := Option.isSome_iff_exists.mp (Keyed.mem_keys_iff.mp (h.default name hdefault))
    rw [profile_default hdefault]
    simp [profile, hp]

end Config

namespace Catalog

variable {σ κ : Type}

/-- The URL has a scheme, and a catalog asks the driver of this scheme once, or there is none and it
asks nobody. -/
def ChoosesByScheme (c : Catalog σ κ) (url : String) : Prop :=
  ∃ scheme target, Splits url scheme target ∧ ∀ w calls,
    (∃ d, c.driver? scheme = some d ∧
      (c.noted.create url (w, calls)).2.2 = calls ++ [⟨d, Text.lowerText scheme, target⟩]) ∨
    (c.driver? scheme = none ∧ c.noted.create url (w, calls) = (.ok none, w, calls))

theorem choosesByScheme (c : Catalog σ κ) {url : String} (h : (splitScheme url).isSome) :
    c.ChoosesByScheme url := by
  obtain ⟨⟨low, target⟩, hsplit⟩ := Option.isSome_iff_exists.mp h
  obtain ⟨scheme, hurl, rfl⟩ := exists_splits hsplit
  refine ⟨scheme, target, hurl, fun w calls ↦ ?_⟩
  cases hd : c.driver? scheme with
  | some d =>
    refine .inl ⟨d, rfl, ?_⟩
    rw [noted_create_of_served hurl hd]
  | none =>
    refine .inr ⟨rfl, create_of_unserved (unserved_noted.mpr ?_) _⟩
    intro scheme' target' hurl'
    have hlow := hurl.splitScheme_eq.symm.trans hurl'.splitScheme_eq
    rw [driver?, ← (Prod.mk.inj (Option.some.inj hlow)).1]
    exact hd

end Catalog

namespace Config

/-- The profiles that a configuration gives by name and without one. -/
structure Resolves (c : Config) : Prop where
  stored : ∀ name p, c.profile (some name) = .ok p ↔ (name, p) ∈ c.connections
  unknown : ∀ name, name ∉ c.connections.map Prod.fst →
    c.profile (some name) = .error (.notFound ("connection profile '" ++ name ++ "'"))
  default : ∀ name, c.defaultConnection = some name → c.profile none = c.profile (some name)
  defaultFound : (∃ p, c.profile none = .ok p) ↔ c.defaultConnection.isSome
  absent : c.defaultConnection = none →
    c.profile none = .error (.config "no connection named and no default_connection configured")

theorem Usable.resolves {c : Config} (h : c.Usable) (hsorted : Keyed.Sorted c.connections) :
    c.Resolves where
  stored _ _ := profile_some_iff hsorted
  unknown _ := profile_unknown
  default _ := profile_default
  defaultFound := h.profile_default_iff
  absent := profile_none

/-- A text gives a configuration exactly where it parses to it and what is asked of it holds. Then
its profiles are found by name, and a catalog that opens the URL of one asks the driver of its
scheme or knows none. -/
theorem loaded_usable {σ κ : Type} (text : String) :
    (∀ c, ofYaml text = .ok c ↔ parse text = .ok c ∧ c.Usable) ∧
      ∀ c, ofYaml text = .ok c → c.Resolves ∧
        ∀ name p, (name, p) ∈ c.connections →
          ∀ catalog : Catalog σ κ, catalog.ChoosesByScheme p.url := by
  refine ⟨fun c ↦ ofYamlBy_ok_iff, fun c hc ↦ ?_⟩
  obtain ⟨hparse, h⟩ := ofYamlBy_ok_iff.mp hc
  refine ⟨h.resolves (sorted_connections hparse), fun name p hp catalog ↦ ?_⟩
  exact catalog.choosesByScheme (h.routed name p hp)

def twoProfiles : Config where
  defaultConnection := some "b"
  connections := [("a", { url := "DB:x:y" }), ("b", { url := "none:z" })]

theorem loaded_usable_twoProfiles :
    let text := "default_connection: b\nconnections:\n  b: \x7burl: 'none:z'\x7d\n  a: \x7burl: 'DB:x:y'\x7d\n"
    let catalog := Catalog.register {} (Catalog.named "db" ["db"])
    ofYaml text = .ok twoProfiles ∧ twoProfiles.profile none = .ok { url := "none:z" } ∧
      ("a", { url := "DB:x:y" }) ∈ twoProfiles.connections ∧
      catalog.ChoosesByScheme "DB:x:y" ∧ catalog.ChoosesByScheme "none:z" := by
  intro text catalog
  have hread : (ofYaml text).toOption = some twoProfiles := by decide +kernel
  have hok : ofYaml text = .ok twoProfiles := by
    cases hresult : ofYaml text with
    | error e => rw [hresult] at hread; cases hread
    | ok c => rw [hresult] at hread; cases hread; rfl
  obtain ⟨hresolves, hopens⟩ := (loaded_usable text).2 twoProfiles hok
  have hdefault := hresolves.default "b" rfl
  refine ⟨hok, ?_, by simp [twoProfiles], ?_, ?_⟩
  · rw [hdefault, hresolves.stored]
    simp [twoProfiles]
  · exact hopens "a" { url := "DB:x:y" } (by simp [twoProfiles]) catalog
  · exact hopens "b" { url := "none:z" } (by simp [twoProfiles]) catalog

end Config
end SqlGateway
