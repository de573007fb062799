import Mathlib.Data.List.Forall2
import SqlGateway.Yaml.Codec

namespace SqlGateway.Yaml

/-- A scalar that reads as a text and not as null. -/
inductive IsText (s : String) : Node → Prop where
  | quoted : IsText s (.scalar {} s false)
  | plain (hempty : s ≠ "") (hnull : Decoder.isNullWord s = false) : IsText s (.scalar {} s true)

/-- A tree with the texts of an outline in their places. -/
inductive Shows : Outline → Node → Prop where
  | text {s : String} {n : Node} (h : IsText s n) : Shows (.text s) n
  | items {texts : List String} {ns : List Node} (h : List.Forall₂ IsText texts ns) :
      Shows (.items texts) (.sequence {} ns)
  | nothing : Shows (.fields []) (.mapping {} [])
  | field {key : String} {v : Outline} {k n : Node} {fs : List (String × Outline)}
      {entries : List (Node × Node)} (hkey : IsText key k) (hvalue : Shows v n)
      (hrest : Shows (.fields fs) (.mapping {} entries)) :
      Shows (.fields ((key, v) :: fs)) (.mapping {} ((k, n) :: entries))

theorem Shows.exists_mapping {fs : List (String × Outline)} {n : Node} (h : Shows (.fields fs) n) :
    ∃ entries, n = .mapping {} entries := by
  cases fs with
  | nil =>
    cases h
    exact ⟨_, rfl⟩
  | cons f fs =>
    cases h
    exact ⟨_, rfl⟩

/-- What is asked of a library: written fields can be read, and are read as what they are. -/
structure Codec.Lawful (C : Codec) : Prop where
  readable : ∀ fs, fs ≠ [] → ∃ d, C.read (C.write fs) = .ok d
  faithful : ∀ fs d, fs ≠ [] → C.read (C.write fs) = .ok d → Shows (.fields fs) d.root

namespace Decoder

/-- A decoder gives a value whatever the document, and spends nothing. -/
def Gives {α : Type} (x : Decoder α) (a : α) : Prop := ∀ d left, x d left = .ok (a, left)

section Gives

variable {α β γ : Type} {a : α} {b : β} {x : Decoder α}

theorem gives_pure (a : α) : Gives (pure a) a := fun _ _ ↦ rfl

theorem Gives.bind {f : α → Decoder β} (h : Gives x a) (hf : Gives (f a) b) :
    Gives (x >>= f) b := by
  intro d left
  change x d left >>= (fun r ↦ f r.1 d r.2) = .ok (b, left)
  rw [h d left]
  exact hf d left

theorem gives_mapM {f : β → Decoder α} {ys : List γ} {xs : List β} {g : γ → α}
    (h : List.Forall₂ (fun y x ↦ Gives (f x) (g y)) ys xs) : Gives (xs.mapM f) (ys.map g) := by
  induction h with
  | nil => exact gives_pure []
  | cons hx _ ih =>
    rw [List.map_cons, List.mapM_cons]
    exact hx.bind (ih.bind (gives_pure _))

theorem Gives.run_eq (h : Gives x a) (d : Document) : x.run d = .ok a := by
  rw [run]
  change (x d d.budget >>= fun r ↦ pure r.1) = .ok a
  rw [h]
  rfl

end Gives

variable {s : String} {n : Node}

theorem gives_text (h : IsText s n) : Gives (text n) s := by
  cases h <;> exact fun _ _ ↦ rfl

theorem gives_optionalText (h : IsText s n) : Gives (optionalText n) (some s) := by
  cases h with
  | quoted => exact fun _ _ ↦ rfl
  | plain hempty hnull =>
    have hfollow : Gives (follow (.scalar {} s true)) (.scalar {} s true) := fun _ _ ↦ rfl
    have hnone : (s.isEmpty || isNullWord s) = false := by simp [hempty, hnull]
    refine hfollow.bind ?_
    simp only [Bool.not_true, Bool.false_eq_true, if_false, Option.isNone_none, Bool.true_and,
      hnone]
    exact gives_pure _

theorem gives_texts {texts : List String} (h : Shows (.items texts) n) :
    Gives (do (← items n).mapM text) texts := by
  cases h with
  | @items _ ns h =>
    have hitems : Gives (items (.sequence {} ns)) ns := fun _ _ ↦ rfl
    have hall : Gives (ns.mapM text) (texts.map id) := gives_mapM (h.imp fun _ _ ↦ gives_text)
    rw [List.map_id] at hall
    exact hitems.bind hall

theorem gives_entries {entries : List (Node × Node)} :
    Gives (Decoder.entries (.mapping {} entries)) entries := fun _ _ ↦ rfl

/-- Named fields with the trees that show them. -/
def Found (fs : List (String × Outline)) (found : List (String × Node)) : Prop :=
  List.Forall₂ (fun f e ↦ f.1 = e.1 ∧ Shows f.2 e.2) fs found

theorem Found.lookup_none {fs : List (String × Outline)} {found : List (String × Node)}
    {name : String} (h : Found fs found) (hname : fs.lookup name = none) :
    found.lookup name = none := by
  induction h with
  | nil => rfl
  | @cons f e fs found hfirst _ ih =>
    rw [List.lookup_cons] at hname ⊢
    rw [← hfirst.1]
    split at hname
    · cases hname
    · exact ih hname

theorem Found.lookup_some {fs : List (String × Outline)} {found : List (String × Node)}
    {name : String} {v : Outline} (h : Found fs found) (hname : fs.lookup name = some v) :
    ∃ n, found.lookup name = some n ∧ Shows v n := by
  induction h with
  | nil => cases hname
  | @cons f e fs found hfirst _ ih =>
    rw [List.lookup_cons] at hname ⊢
    rw [← hfirst.1]
    split at hname
    · cases hname
      exact ⟨e.2, rfl, hfirst.2⟩
    · exact ih hname

theorem Found.append {fs gs : List (String × Outline)} {found later : List (String × Node)}
    (h : Found fs found) (h' : Found gs later) : Found (fs ++ gs) (found ++ later) :=
  List.rel_append h h'

theorem gives_findFields {names : List String} {before fs : List (String × Outline)}
    {entries : List (Node × Node)} {found : List (String × Node)}
    (h : Shows (.fields fs) (.mapping {} entries)) (hnames : ∀ key ∈ fs.map Prod.fst, key ∈ names)
    (hdistinct : (fs.map Prod.fst).Nodup) (hfound : Found before found)
    (hnew : ∀ key ∈ fs.map Prod.fst, before.lookup key = none) :
    ∃ all, Found (before ++ fs) all ∧ Gives (entries.foldlM (findField names) found) all := by
  induction fs generalizing before entries found with
  | nil =>
    cases h
    rw [List.append_nil]
    exact ⟨found, hfound, gives_pure found⟩
  | cons f fs ih =>
    cases h with
    | @field key v k n _ entries hkey hvalue hrest =>
      simp only [List.map_cons, List.forall_mem_cons, List.nodup_cons] at hnames hdistinct hnew
      -- no later field is named like this one, so none is found twice
      have hothers : ∀ other ∈ fs.map Prod.fst, (before ++ [(key, v)]).lookup other = none := by
        intro other hother
        have hne : other ≠ key := fun heq ↦ hdistinct.1 (heq ▸ hother)
        rw [List.lookup_append, hnew.2 other hother, List.lookup_cons, beq_false_of_ne hne]
        rfl
      have hnamed : (!names.contains key) = false := by simpa using hnames.1
      have hfirst : Gives (findField names found (k, n)) (found ++ [(key, n)]) := by
        refine (gives_text hkey).bind ?_
        rw [hnamed, hfound.lookup_none hnew.1]
        exact gives_pure _
      have hfound' : Found (before ++ [(key, v)]) (found ++ [(key, n)]) :=
        hfound.append (.cons ⟨rfl, hvalue⟩ .nil)
      obtain ⟨all, hall, hgives⟩ := ih hrest hnames.2 hdistinct.2 hfound' hothers
      rw [List.append_assoc, List.singleton_append] at hall
      exact ⟨all, hall, by rw [List.foldlM_cons]; exact hfirst.bind hgives⟩

theorem gives_fields {α : Type} {names : List String} {fs : List (String × Outline)} {a : α}
    {f : List (String × Node) → Decoder α} (h : Shows (.fields fs) n)
    (hnames : ∀ key ∈ fs.map Prod.fst, key ∈ names) (hdistinct : (fs.map Prod.fst).Nodup)
    (hf : ∀ found, Found fs found → Gives (f found) a) : Gives (fields names n >>= f) a := by
  obtain ⟨entries, rfl⟩ := h.exists_mapping
  obtain ⟨found, hfound, hgives⟩ := gives_findFields h hnames hdistinct .nil fun _ _ ↦ rfl
  exact (gives_entries.bind hgives).bind (hf found hfound)

theorem gives_field {α : Type} {fs : List (String × Outline)} {found : List (String × Node)}
    {name : String} {v : Outline} {a : α} {decode : Node → Decoder α} (missing : α)
    (h : Found fs found) (hname : fs.lookup name = some v)
    (hdecode : ∀ n, Shows v n → Gives (decode n) a) :
    Gives (field found name missing decode) a := by
  obtain ⟨n, hn, hv⟩ := h.lookup_some hname
  rw [field, hn]
  exact hdecode n hv

theorem gives_missing {α : Type} {fs : List (String × Outline)} {found : List (String × Node)}
    {name : String} (missing : α) (decode : Node → Decoder α) (h : Found fs found)
    (hname : fs.lookup name = none) : Gives (field found name missing decode) missing := by
  rw [field, h.lookup_none hname]
  exact gives_pure missing

end Decoder
end SqlGateway.Yaml
