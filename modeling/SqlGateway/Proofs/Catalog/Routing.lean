import SqlGateway.Catalog.Basic
import SqlGateway.Proofs.Keyed
import SqlGateway.Proofs.Text.LetterCase

namespace SqlGateway

open Text (lowerText)

variable {σ κ : Type}

/-- One of its schemes is `scheme`, letter case aside. -/
def Driver.serves (d : Driver σ κ) (scheme : String) : Bool :=
  d.schemes.any fun own ↦ lowerText own = lowerText scheme

namespace Catalog

/-- Of drivers in the order of their registration, the last that serves a scheme. -/
def lastFor (ds : List (Driver σ κ)) (scheme : String) : Option (Driver σ κ) :=
  ds.reverse.find? (·.serves scheme)

theorem lookup_routes (d : Driver σ κ) (schemes : List String)
    (routes : List (String × Driver σ κ)) (key : String) :
    (schemes.foldl (fun routes scheme ↦ Keyed.insert (lowerText scheme) d routes) routes).lookup
        key = if schemes.any (lowerText · = key) then some d else routes.lookup key := by
  induction schemes generalizing routes with
  | nil => rfl
  | cons scheme schemes ih =>
    rw [List.foldl_cons, ih, Keyed.lookup_insert, List.any_cons]
    by_cases hrest : schemes.any (lowerText · = key)
    · simp [hrest]
    · by_cases h : lowerText scheme = key
      · simp [h]
      · simp [hrest, h, Ne.symm h]

theorem driver?_register (c : Catalog σ κ) (d : Driver σ κ) (s : String) :
    (c.register d).driver? s = if d.serves s then some d else c.driver? s :=
  lookup_routes d d.schemes c.routes (lowerText s)

theorem driver?_foldl_register (ds : List (Driver σ κ)) (c : Catalog σ κ) (s : String) :
    (ds.foldl register c).driver? s = (lastFor ds s).or (c.driver? s) := by
  induction ds generalizing c with
  | nil => rfl
  | cons d ds ih =>
    rw [List.foldl_cons, ih, driver?_register, lastFor, lastFor, List.reverse_cons,
      List.find?_append, Option.or_assoc]
    by_cases h : d.serves s <;> simp [h]

structure Ordered (c : Catalog σ κ) : Prop where
  sorted : Keyed.Sorted c.routes
  lower : ∀ p ∈ c.routes, lowerText p.1 = p.1

theorem ordered_empty : ({} : Catalog σ κ).Ordered where
  sorted := List.Pairwise.nil
  lower _ hp := nomatch hp

theorem Ordered.register {c : Catalog σ κ} (h : c.Ordered) (d : Driver σ κ) :
    (c.register d).Ordered := by
  obtain ⟨routes⟩ := c
  unfold Catalog.register
  generalize d.schemes = schemes
  induction schemes generalizing routes with
  | nil => exact h
  | cons scheme schemes ih =>
    apply ih
    refine ⟨Keyed.sorted_insert h.sorted, fun p hp ↦ ?_⟩
    rcases Keyed.mem_insert hp with rfl | hp
    · exact Text.lowerText_lowerText scheme
    · exact h.lower p hp

theorem Ordered.foldl_register {c : Catalog σ κ} (h : c.Ordered) (ds : List (Driver σ κ)) :
    (ds.foldl Catalog.register c).Ordered := by
  induction ds generalizing c with
  | nil => exact h
  | cons d ds ih => exact ih (h.register d)

theorem hasScheme_iff (c : Catalog σ κ) (s : String) : c.hasScheme s ↔ lowerText s ∈ c.schemes := by
  rw [schemes, Keyed.mem_keys_iff]
  rfl

/-- What a program does with the catalogs it holds. -/
inductive Move (σ κ : Type) where
  | register (catalog : Nat) (d : Driver σ κ)
  | clone (catalog : Nat)

section Held

variable {α β : Type} {add : α → Driver σ κ → α}

/-- One move on what is held for every catalog, where `add` registers. A clone comes last. -/
def Move.apply (add : α → Driver σ κ → α) (held : List α) : Move σ κ → List α
  | .register i d => held.modify i (add · d)
  | .clone i => held ++ held[i]?.toList

def held (add : α → Driver σ κ → α) (start : List α) (moves : List (Move σ κ)) : List α :=
  moves.foldl (Move.apply add) start

theorem Move.apply_map {add' : β → Driver σ κ → β} {f : α → β}
    (hf : ∀ a d, f (add a d) = add' (f a) d) (start : List α) (m : Move σ κ) :
    m.apply add' (start.map f) = (m.apply add start).map f := by
  cases m with
  | register i d =>
    apply List.ext_getElem?
    intro j
    simp only [Move.apply, List.getElem?_modify, List.getElem?_map]
    cases start[j]? with
    | none => rfl
    | some a => by_cases h : i = j <;> simp [h, hf]
  | clone i =>
    simp only [Move.apply, List.map_append, List.getElem?_map]
    cases start[i]? <;> rfl

theorem held_map {add' : β → Driver σ κ → β} {f : α → β}
    (hf : ∀ a d, f (add a d) = add' (f a) d) (start : List α) (moves : List (Move σ κ)) :
    held add' (start.map f) moves = (held add start moves).map f := by
  induction moves generalizing start with
  | nil => rfl
  | cons m moves ih =>
    calc held add' (start.map f) (m :: moves)
        = held add' ((m.apply add start).map f) moves := by
          rw [← Move.apply_map hf]
          rfl
      _ = (held add (m.apply add start) moves).map f := ih _

theorem Move.getElem?_apply {m : Move σ κ} {k : Nat} {start : List α} {a : α}
    (hm : ∀ d, m ≠ .register k d) (ha : start[k]? = some a) :
    (m.apply add start)[k]? = some a := by
  cases m with
  | register i d =>
    have hne : i ≠ k := fun h ↦ hm d (h ▸ rfl)
    rw [Move.apply, List.getElem?_modify_ne _ _ hne, ha]
  | clone i =>
    obtain ⟨hk, -⟩ := List.getElem?_eq_some_iff.mp ha
    rw [Move.apply, List.getElem?_append_left hk, ha]

theorem getElem?_held {k : Nat} {moves : List (Move σ κ)} {start : List α} {a : α}
    (hm : ∀ d, .register k d ∉ moves) (ha : start[k]? = some a) :
    (held add start moves)[k]? = some a := by
  induction moves generalizing start with
  | nil => exact ha
  | cons m moves ih =>
    have hfirst : ∀ d, m ≠ .register k d := fun d h ↦ hm d (h ▸ List.mem_cons_self)
    have hrest : ∀ d, .register k d ∉ moves := fun d h ↦ hm d (List.mem_cons_of_mem _ h)
    exact ih hrest (Move.getElem?_apply hfirst ha)

end Held

def catalogs (moves : List (Move σ κ)) : List (Catalog σ κ) := held register [{}] moves

/-- For every catalog the drivers registered in it, first to last, before cloning in its
original. -/
def histories (moves : List (Move σ κ)) : List (List (Driver σ κ)) :=
  held (fun ds d ↦ ds ++ [d]) [[]] moves

theorem catalogs_eq (moves : List (Move σ κ)) :
    catalogs moves = (histories moves).map (·.foldl register {}) := by
  have hstep (ds : List (Driver σ κ)) (d : Driver σ κ) :
      (ds ++ [d]).foldl register {} = (ds.foldl register {}).register d := List.foldl_append
  exact held_map hstep [[]] moves

/-- A URL with a scheme, as spelled in it, and a target. -/
def Splits (url scheme target : String) : Prop :=
  isScheme scheme.toList ∧ url = scheme ++ ":" ++ target

theorem ne_colon_of_isScheme {cs : List Char} (h : isScheme cs) : ∀ c ∈ cs, c ≠ ':' := by
  have hcolon : isSchemeChar ':' = false := by decide
  cases cs with
  | nil => cases h
  | cons first cs =>
    simp only [isScheme, Bool.and_eq_true, List.all_eq_true] at h
    rintro c hc rfl
    rcases List.mem_cons.mp hc with rfl | hc
    · exact absurd h.1 (by decide)
    · exact absurd (h.2 _ hc) (by simp [hcolon])

theorem takeWhile_append_colon {scheme : String} (h : ':' ∉ scheme.toList) (target : String) :
    (scheme ++ ":" ++ target).toList.takeWhile (· ≠ ':') = scheme.toList ∧
      (scheme ++ ":" ++ target).toList.dropWhile (· ≠ ':') = ':' :: target.toList := by
  have hne : ∀ c ∈ scheme.toList, decide (c ≠ ':') := by
    intro c hc
    apply decide_eq_true
    rintro rfl
    exact h hc
  have hurl : (scheme ++ ":" ++ target).toList = scheme.toList ++ ':' :: target.toList := by simp
  rw [hurl, List.takeWhile_append_of_pos hne, List.dropWhile_append_of_pos hne]
  simp

theorem splitScheme_append {scheme : String} (h : ':' ∉ scheme.toList) (target : String) :
    splitScheme (scheme ++ ":" ++ target) =
      if isScheme scheme.toList then some (lowerText scheme, target) else none := by
  obtain ⟨htake, hdrop⟩ := takeWhile_append_colon h target
  rw [splitScheme, splitSchemeChars]
  simp only [htake, hdrop]
  split <;> simp [lowerText]

theorem Splits.splitScheme_eq {url scheme target : String} (h : Splits url scheme target) :
    splitScheme url = some (lowerText scheme, target) := by
  obtain ⟨hscheme, rfl⟩ := h
  have hcolon : ':' ∉ scheme.toList := fun hc ↦ ne_colon_of_isScheme hscheme ':' hc rfl
  rw [splitScheme_append hcolon, if_pos hscheme]

theorem splitSchemeChars_eq_some {cs low rest : List Char}
    (h : splitSchemeChars cs = some (low, rest)) :
    ∃ scheme, isScheme scheme ∧ cs = scheme ++ ':' :: rest ∧
      low = scheme.map Text.lowerAscii := by
  refine ⟨cs.takeWhile (· ≠ ':'), ?_⟩
  unfold splitSchemeChars at h
  split at h
  · cases h
  · rename_i c after hdrop
    have hcolon : c = ':' := by
      have hne : cs.dropWhile (· ≠ ':') ≠ [] := hdrop ▸ List.cons_ne_nil _ _
      have hhead := List.head_dropWhile_not (· ≠ ':') hne
      simpa only [hdrop, List.head_cons, decide_eq_false_iff_not, not_not] using hhead
    have hcs : cs = cs.takeWhile (· ≠ ':') ++ ':' :: after := by
      calc cs = cs.takeWhile (· ≠ ':') ++ cs.dropWhile (· ≠ ':') :=
            List.takeWhile_append_dropWhile.symm
        _ = cs.takeWhile (· ≠ ':') ++ ':' :: after := by rw [hdrop, hcolon]
    dsimp only at h
    split at h
    · rename_i hscheme
      cases h
      exact ⟨hscheme, hcs, rfl⟩
    · cases h

theorem exists_splits {url low target : String} (h : splitScheme url = some (low, target)) :
    ∃ scheme, Splits url scheme target ∧ low = lowerText scheme := by
  obtain ⟨⟨s, rest⟩, hchars, hpair⟩ := Option.map_eq_some_iff.mp h
  cases hpair
  obtain ⟨scheme, hscheme, hurl, rfl⟩ := splitSchemeChars_eq_some hchars
  refine ⟨String.ofList scheme, ⟨by rwa [String.toList_ofList], ?_⟩, ?_⟩
  · apply String.toList_injective
    simp [hurl]
  · simp [lowerText]

/-- A driver asked for a connection, with the scheme and the target that it was given. -/
structure Call (σ κ : Type) where
  driver : Driver σ κ
  scheme : String
  target : String

end Catalog

def Driver.noted (d : Driver σ κ) : Driver (σ × List (Catalog.Call σ κ)) κ where
  name := d.name
  schemes := d.schemes
  connect scheme target := fun (w, calls) ↦
    let (r, w) := d.connect scheme target w
    (r, w, calls ++ [⟨d, scheme, target⟩])

namespace Catalog

def noted (c : Catalog σ κ) : Catalog (σ × List (Call σ κ)) κ :=
  ⟨c.routes.map fun (scheme, d) ↦ (scheme, d.noted)⟩

/-- No driver is there for the URL. -/
def Unserved (c : Catalog σ κ) (url : String) : Prop :=
  ∀ scheme target, Splits url scheme target → c.driver? scheme = none

/-- How a catalog opens a URL in a world where `calls` are noted. -/
structure Opens (c : Catalog σ κ) (url : String) (w : σ) (calls : List (Call σ κ)) : Prop where
  plain : ∃ calls', c.noted.create url (w, calls) = ((c.create url w).1, (c.create url w).2, calls')
  unserved : c.Unserved url → c.noted.create url (w, calls) = (.ok none, w, calls)
  served : ∀ scheme target d, Splits url scheme target → c.driver? scheme = some d →
    c.noted.create url (w, calls) =
      ((d.connect (lowerText scheme) target w).1.map some, (d.connect (lowerText scheme) target w).2,
        calls ++ [⟨d, lowerText scheme, target⟩])
  absent : (c.noted.create url (w, calls)).1 = .ok none ↔ c.Unserved url
  required : ∃ message, c.noted.require url (w, calls) =
    match c.noted.create url (w, calls) with
    | (.ok none, s) => (.error (.config message), s)
    | (.ok (some conn), s) => (.ok conn, s)
    | (.error e, s) => (.error e, s)

theorem lookup_map_routes {τ : Type} (f : Driver σ κ → Driver τ κ)
    (routes : List (String × Driver σ κ)) (key : String) :
    (routes.map fun (scheme, d) ↦ (scheme, f d)).lookup key = (routes.lookup key).map f := by
  induction routes with
  | nil => rfl
  | cons p routes ih =>
    obtain ⟨scheme, d⟩ := p
    rw [List.map_cons, Keyed.lookup_cons, Keyed.lookup_cons, ih]
    split <;> rfl

theorem driver?_noted (c : Catalog σ κ) (s : String) :
    c.noted.driver? s = (c.driver? s).map Driver.noted :=
  lookup_map_routes Driver.noted c.routes (lowerText s)

theorem create_of_unserved {c : Catalog σ κ} {url : String} (h : c.Unserved url) (w : σ) :
    c.create url w = (.ok none, w) := by
  unfold create
  split
  · rfl
  · rename_i low target hsplit
    obtain ⟨scheme, hurl, rfl⟩ := exists_splits hsplit
    have hnone : c.driver? (lowerText scheme) = none := by
      rw [driver?, Text.lowerText_lowerText]
      exact h scheme target hurl
    rw [hnone]

theorem create_of_served {c : Catalog σ κ} {url scheme target : String} {d : Driver σ κ}
    (hurl : Splits url scheme target) (hd : c.driver? scheme = some d) (w : σ) :
    c.create url w = ((d.connect (lowerText scheme) target w).1.map some,
      (d.connect (lowerText scheme) target w).2) := by
  have hlow : c.driver? (lowerText scheme) = some d := by
    rw [driver?, Text.lowerText_lowerText]
    exact hd
  simp only [create, hurl.splitScheme_eq, hlow]

theorem unserved_noted {c : Catalog σ κ} {url : String} :
    c.noted.Unserved url ↔ c.Unserved url := by
  simp only [Unserved, driver?_noted, Option.map_eq_none_iff]

theorem unserved_or_served (c : Catalog σ κ) (url : String) :
    c.Unserved url ∨ ∃ scheme target d, Splits url scheme target ∧ c.driver? scheme = some d := by
  by_cases h : c.Unserved url
  · exact .inl h
  · simp only [Unserved, not_forall] at h
    obtain ⟨scheme, target, hurl, hne⟩ := h
    obtain ⟨d, hd⟩ := Option.ne_none_iff_exists'.mp hne
    exact .inr ⟨scheme, target, d, hurl, hd⟩

theorem noted_create_of_served {c : Catalog σ κ} {url scheme target : String} {d : Driver σ κ}
    (hurl : Splits url scheme target) (hd : c.driver? scheme = some d) (w : σ)
    (calls : List (Call σ κ)) :
    c.noted.create url (w, calls) =
      ((d.connect (lowerText scheme) target w).1.map some,
        (d.connect (lowerText scheme) target w).2, calls ++ [⟨d, lowerText scheme, target⟩]) := by
  have hnoted : c.noted.driver? scheme = some d.noted := by rw [driver?_noted, hd, Option.map_some]
  exact create_of_served hurl hnoted (w, calls)

theorem opens (c : Catalog σ κ) (url : String) (w : σ) (calls : List (Call σ κ)) :
    c.Opens url w calls where
  plain := by
    rcases unserved_or_served c url with h | ⟨scheme, target, d, hurl, hd⟩
    · rw [create_of_unserved h, create_of_unserved (unserved_noted.mpr h)]
      exact ⟨calls, rfl⟩
    · rw [create_of_served hurl hd, noted_create_of_served hurl hd]
      exact ⟨_, rfl⟩
  unserved h := create_of_unserved (unserved_noted.mpr h) (w, calls)
  served _ _ _ hurl hd := noted_create_of_served hurl hd w calls
  absent := by
    refine ⟨fun hnone ↦ ?_, fun h ↦ by rw [create_of_unserved (unserved_noted.mpr h)]⟩
    rcases unserved_or_served c url with h | ⟨scheme, target, d, hurl, hd⟩
    · exact h
    · rw [noted_create_of_served hurl hd] at hnone
      cases hr : (d.connect (lowerText scheme) target w).1 <;> rw [hr] at hnone <;> cases hnone
  required := by
    obtain ⟨message, hmessage⟩ : ∃ message, c.noted.noDriver url = .config message := ⟨_, rfl⟩
    refine ⟨message, ?_⟩
    rw [require, hmessage]
    rcases c.noted.create url (w, calls) with ⟨_ | _ | _, s⟩ <;> rfl

/-- A catalog and the drivers registered in it, first to last. -/
structure Routes (c : Catalog σ κ) (ds : List (Driver σ κ)) : Prop where
  found : ∀ s, c.driver? s = lastFor ds s
  known : ∀ s, c.hasScheme s = (c.driver? s).isSome
  spelled : ∀ s t, lowerText s = lowerText t →
    c.driver? s = c.driver? t ∧ c.hasScheme s = c.hasScheme t
  sorted : c.schemes.Pairwise (· < ·)
  lower : ∀ s ∈ c.schemes, lowerText s = s
  listed : ∀ s, c.hasScheme s ↔ lowerText s ∈ c.schemes

theorem routes_foldl_register (ds : List (Driver σ κ)) : Routes (ds.foldl register {}) ds where
  found s := by rw [driver?_foldl_register, show driver? {} s = none from rfl, Option.or_none]
  known _ := rfl
  spelled s t h := by simp only [hasScheme, driver?, h, and_self]
  sorted := (ordered_empty.foldl_register ds).sorted
  lower := by
    intro s hs
    obtain ⟨p, hp, rfl⟩ := List.mem_map.mp hs
    exact (ordered_empty.foldl_register ds).lower p hp
  listed := hasScheme_iff _

/-- After any registrations and clonings every catalog finds for a scheme, in any letter case, the
driver that was registered last for it in the catalog or, before cloning, in its original; what is
registered elsewhere later does not change that. It opens a URL by asking that driver once, and
nobody where there is none. -/
theorem routing_kept (moves : List (Move σ κ)) {k : Nat} {c : Catalog σ κ}
    (hc : (catalogs moves)[k]? = some c) :
    ∃ ds, (histories moves)[k]? = some ds ∧ Routes c ds ∧
      (∀ later, (∀ d, .register k d ∉ later) → (catalogs (moves ++ later))[k]? = some c) ∧
      ∀ url w calls, c.Opens url w calls := by
  have hmap := hc
  rw [catalogs_eq, List.getElem?_map, Option.map_eq_some_iff] at hmap
  obtain ⟨ds, hds, rfl⟩ := hmap
  refine ⟨ds, hds, routes_foldl_register ds, fun later hlater ↦ ?_, opens _⟩
  rw [catalogs, held, List.foldl_append]
  exact getElem?_held hlater hc

def named (name : String) (schemes : List String) : Driver Unit String :=
  ⟨name, schemes, fun _ _ w ↦ (.ok name, w)⟩

def overridden : List (Move Unit String) :=
  [.register 0 (named "a" ["DB", "file"]), .clone 0, .register 1 (named "b" ["Db"])]

theorem routing_kept_overridden :
    ∃ original clone, (catalogs overridden)[0]? = some original ∧
      (catalogs overridden)[1]? = some clone ∧
      original.driver? "dB" = some (named "a" ["DB", "file"]) ∧
      clone.driver? "dB" = some (named "b" ["Db"]) ∧
      clone.driver? "FILE" = some (named "a" ["DB", "file"]) ∧
      clone.noted.create "dB:x:y" ((), []) =
        (.ok (some "b"), (), [⟨named "b" ["Db"], "db", "x:y"⟩]) := by
  refine ⟨_, _, rfl, rfl, ?_⟩
  obtain ⟨ds, hds, hroutes, -, -⟩ := routing_kept overridden (k := 0) rfl
  obtain ⟨ds', hds', hroutes', -, hopens⟩ := routing_kept overridden (k := 1) rfl
  cases hds
  cases hds'
  have hdb := (hroutes'.found "dB").trans rfl
  refine ⟨(hroutes.found "dB").trans rfl, hdb, (hroutes'.found "FILE").trans rfl, ?_⟩
  exact (hopens "dB:x:y" () []).served "dB" "x:y" _ ⟨by decide, by decide⟩ hdb

end Catalog
end SqlGateway
