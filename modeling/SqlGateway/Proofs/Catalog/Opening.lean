import SqlGateway.Config.Basic
import SqlGateway.Proofs.Catalog.Routing

namespace SqlGateway

open Text (lowerText)

variable {σ κ : Type}

namespace Catalog

inductive Event (σ κ : Type) where
  | asked (call : Call σ κ)
  | executed (conn : κ) (sql : String)

end Catalog

def Driver.traced (d : Driver σ κ) : Driver (σ × List (Catalog.Event σ κ)) κ where
  name := d.name
  schemes := d.schemes
  connect scheme target := fun (w, trace) ↦
    let (r, w) := d.connect scheme target w
    (r, w, trace ++ [.asked ⟨d, scheme, target⟩])

namespace Catalog

def traced (c : Catalog σ κ) : Catalog (σ × List (Event σ κ)) κ :=
  ⟨c.routes.map fun (scheme, d) ↦ (scheme, d.traced)⟩

def noting (execute : κ → String → σ → Result Stats × σ) (conn : κ) (sql : String) :
    σ × List (Event σ κ) → Result Stats × σ × List (Event σ κ) := fun (w, trace) ↦
  let (r, w) := execute conn sql w
  (r, w, trace ++ [.executed conn sql])

/-- Who is asked for a URL: one driver, or nobody where none is there for it. -/
inductive Asks (c : Catalog σ κ) (url : String) : List (Call σ κ) → Prop
  | nobody (h : c.Unserved url) : Asks c url []
  | driver {scheme target : String} {d : Driver σ κ} (hurl : Splits url scheme target)
      (hd : c.driver? scheme = some d) : Asks c url [⟨d, lowerText scheme, target⟩]

/-- Statements that succeed one after the other, and the worlds before and behind them. -/
inductive Succeed (execute : String → σ → Result Stats × σ) : List String → σ → σ → Prop
  | nil {w : σ} : Succeed execute [] w w
  | cons {sql : String} {rest : List String} {stats : Stats} {w w' w'' : σ} :
      execute sql w = (.ok stats, w') → Succeed execute rest w' w'' →
      Succeed execute (sql :: rest) w w''

/-- Which statements of a list are executed, and how that ends: all of them where none fails, else
those up to the first that does. -/
inductive Ends (execute : String → σ → Result Stats × σ) (init : List String) (w : σ) :
    List String → Result Unit → σ → Prop
  | all {w' : σ} (h : Succeed execute init w w') : Ends execute init w init (.ok ()) w'
  | failed {before after : List String} {sql : String} {e : Error} {w' w'' : σ}
      (hinit : init = before ++ sql :: after) (h : Succeed execute before w w')
      (hfailed : execute sql w' = (.error e, w'')) :
      Ends execute init w (before ++ [sql]) (.error e) w''

theorem driver?_traced (c : Catalog σ κ) (s : String) :
    c.traced.driver? s = (c.driver? s).map Driver.traced :=
  lookup_map_routes Driver.traced c.routes (lowerText s)

theorem schemes_traced (c : Catalog σ κ) : c.traced.schemes = c.schemes := by
  rw [traced, schemes, schemes, List.map_map]
  rfl

theorem require_traced (c : Catalog σ κ) (url : String) (w : σ) (trace : List (Event σ κ)) :
    ∃ calls, c.Asks url calls ∧ c.traced.require url (w, trace) =
      ((c.require url w).1, (c.require url w).2, trace ++ calls.map .asked) := by
  rcases unserved_or_served c url with h | ⟨scheme, target, d, hurl, hd⟩
  · have htraced : c.traced.Unserved url := by
      intro scheme target hurl
      rw [driver?_traced, h scheme target hurl, Option.map_none]
    refine ⟨[], .nobody h, ?_⟩
    rw [require, require, create_of_unserved h, create_of_unserved htraced]
    simp only [noDriver, schemes_traced, List.map_nil, List.append_nil]
  · have htraced : c.traced.driver? scheme = some d.traced := by
      rw [driver?_traced, hd, Option.map_some]
    have hconnect : d.traced.connect (lowerText scheme) target (w, trace) =
        ((d.connect (lowerText scheme) target w).1, (d.connect (lowerText scheme) target w).2,
          trace ++ [.asked ⟨d, lowerText scheme, target⟩]) := rfl
    refine ⟨_, .driver hurl hd, ?_⟩
    rw [require, require, create_of_served hurl hd, create_of_served hurl htraced, hconnect]
    rcases d.connect (lowerText scheme) target w with ⟨_ | _, w'⟩ <;> rfl

theorem executeAll_noting (execute : κ → String → σ → Result Stats × σ) (conn : κ)
    (init : List String) (w : σ) (trace : List (Event σ κ)) :
    ∃ ran r w', Ends (execute conn) init w ran r w' ∧
      executeAll (execute conn) init w = (r, w') ∧
      executeAll (noting execute conn) init (w, trace) =
        (r, w', trace ++ ran.map (.executed conn)) := by
  induction init generalizing w trace with
  | nil => exact ⟨[], .ok (), w, .all .nil, rfl, by simp [executeAll]⟩
  | cons sql rest ih =>
    rcases hrun : execute conn sql w with ⟨_ | stats, w'⟩
    · rename_i e
      have hinit : sql :: rest = [] ++ sql :: rest := rfl
      refine ⟨[sql], .error e, w', .failed hinit .nil hrun, ?_, ?_⟩
      · simp only [executeAll, hrun]
      · simp only [executeAll, noting, hrun, List.map_cons, List.map_nil]
    · obtain ⟨ran, r, w'', hends, hplain, hnoted⟩ := ih w' (trace ++ [.executed conn sql])
      refine ⟨sql :: ran, r, w'', ?_, ?_, ?_⟩
      · cases hends with
        | all h => exact .all (.cons hrun h)
        | failed hinit h hfailed =>
          exact .failed (congrArg (sql :: ·) hinit) (.cons hrun h) hfailed
      · simp only [executeAll, hrun, hplain]
      · simp only [executeAll, noting, hrun]
        rw [hnoted, List.append_assoc]
        rfl

/-- How a profile is opened behind what `trace` notes. -/
structure OpensProfile (c : Catalog σ κ) (execute : κ → String → σ → Result Stats × σ)
    (p : Profile) (w : σ) (trace : List (Event σ κ)) : Prop where
  refused : ∀ e w', c.require p.url w = (.error e, w') → ∃ calls, c.Asks p.url calls ∧
    c.openWith execute p.url p.init w = (.error e, w') ∧
    c.traced.openWith (noting execute) p.url p.init (w, trace) =
      (.error e, w', trace ++ calls.map .asked)
  connected : ∀ conn w', c.require p.url w = (.ok conn, w') → ∃ calls ran r w'',
    c.Asks p.url calls ∧ Ends (execute conn) p.init w' ran r w'' ∧
    c.openWith execute p.url p.init w = (r.map fun _ ↦ conn, w'') ∧
    c.traced.openWith (noting execute) p.url p.init (w, trace) =
      (r.map fun _ ↦ conn, w'', trace ++ calls.map .asked ++ ran.map (.executed conn))

/-- A profile whose connection is refused, or for which there is no driver, leaves with that error
and nothing executed. Otherwise its statements are executed on the connection, each once and in
order, up to the first that fails, whose error is the answer; where none fails, all are executed and
the connection is the answer. -/
theorem profile_opened (c : Catalog σ κ) (execute : κ → String → σ → Result Stats × σ)
    (p : Profile) (w : σ) (trace : List (Event σ κ)) : OpensProfile c execute p w trace := by
  obtain ⟨calls, hasks, htraced⟩ := require_traced c p.url w trace
  constructor
  · intro e w' hrequire
    rw [hrequire] at htraced
    refine ⟨calls, hasks, ?_, ?_⟩
    · simp only [openWith, hrequire]
    · simp only [openWith, htraced]
  · intro conn w' hrequire
    rw [hrequire] at htraced
    obtain ⟨ran, r, w'', hends, hplain, hnoted⟩ :=
      executeAll_noting execute conn p.init w' (trace ++ calls.map .asked)
    refine ⟨calls, ran, r, w'', hasks, hends, ?_, ?_⟩
    · simp only [openWith, hrequire, hplain]
      cases r <;> rfl
    · simp only [openWith, htraced, hnoted]
      cases r <;> rfl

def rejecting (bad : String) (_ sql : String) (w : Unit) : Result Stats × Unit :=
  (if sql = bad then .error (.native .execute "1" "rejected") else .ok {}, w)

theorem profile_opened_rejected :
    let c : Catalog Unit String := [named "a" ["db"]].foldl register {}
    let p : Profile := { url := "DB:t", init := ["x", "y", "x"] }
    c.require p.url () = (.ok "a", ()) ∧
    (∃ calls ran r w'', c.Asks p.url calls ∧ Ends (rejecting "y" "a") p.init () ran r w'' ∧
      c.openWith (rejecting "y") p.url p.init () = (r.map fun _ ↦ "a", w'') ∧
      c.traced.openWith (noting (rejecting "y")) p.url p.init ((), []) =
        (r.map fun _ ↦ "a", w'', [] ++ calls.map .asked ++ ran.map (.executed "a"))) ∧
    c.openWith (rejecting "y") p.url p.init () = (.error (.native .execute "1" "rejected"), ()) ∧
    (c.traced.openWith (noting (rejecting "y")) p.url p.init ((), [])).2.2.length = 3 := by
  intro c p
  have hrequire : c.require p.url () = (.ok "a", ()) := by decide +kernel
  refine ⟨hrequire, ?_, by decide +kernel, by decide +kernel⟩
  exact (profile_opened c (rejecting "y") p () []).connected "a" () hrequire

end Catalog
end SqlGateway
