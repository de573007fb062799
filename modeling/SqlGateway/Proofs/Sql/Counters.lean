import SqlGateway.Proofs.Success
import SqlGateway.Proofs.Sqlite.Counters
import SqlGateway.Sql.World

namespace SqlGateway.Sql

def Action.change? (c : Content) (f : Frame) : Action → Option (Option Failure × Progress)
  | insert p => (c.table? p.table).map fun t ↦ p.run c t f
  | update p => (c.table? p.table).map fun t ↦ p.run t f
  | delete p => (c.table? p.table).map fun t ↦ p.run t f
  | query _ | define | transaction => none

namespace World

def insertion (m : Machine) (w : World) : Option Int :=
  match resolveStatement (w.content m.client) m.written.statement with
  | .error _ => none
  | .ok r =>
    match acquire r.action.access m.client w with
    | .error _ => none
    | .ok w => (r.action.change? (w.content m.client) ⟨m.bound, []⟩).bind (·.2.lastRowid)

/-- The number of the row that the next step of a statement inserts last into a database. A run
that shows its rows already has nothing left to insert. -/
def inserted (i id : Nat) (w : World) : Option Int64 :=
  match w.machine? id with
  | none => none
  | some m =>
    if m.client = i ∧ i < w.clients.length ∧ ¬ Machine.isActive m then
      (insertion m w).map Int64.ofInt
    else none

variable {w w' w'' : World} {i id j : Nat} {m : Machine}

theorem client_setClient (w : World) (i : Nat) (c : Client) (j : Nat) :
    (w.setClient i c).client j = if i = j ∧ j < w.clients.length then c else w.client j := by
  simp only [client, setClient, List.getD_eq_getElem?_getD, List.getElem?_set]
  by_cases hij : i = j
  · subst hij
    by_cases hi : i < w.clients.length <;> simp [hi]
  · simp [hij]

/-- Neither what is viewed of the connections nor the number of objects is different. -/
structure Keeps {α : Type} (view : Client → α) (w w' : World) : Prop where
  client : ∀ j, view (w'.client j) = view (w.client j)
  clients : w'.clients.length = w.clients.length
  machines : w'.machines.length = w.machines.length

def tally (c : Client) : Nat × Int64 := (c.totalChanges, c.lastRowid)

namespace Keeps

variable {α : Type} {view : Client → α}

theorem refl (w : World) : Keeps view w w := ⟨fun _ ↦ rfl, rfl, rfl⟩

theorem trans (h : Keeps view w w') (h' : Keeps view w' w'') : Keeps view w w'' :=
  ⟨fun j ↦ (h'.client j).trans (h.client j), h'.clients.trans h.clients,
    h'.machines.trans h.machines⟩

theorem setMachine (w : World) (id : Nat) (m : Machine) : Keeps view w (w.setMachine id m) :=
  ⟨fun _ ↦ rfl, rfl, by simp [World.setMachine]⟩

theorem setStores (w : World) (stores : List Store) : Keeps view w { w with stores } :=
  ⟨fun _ ↦ rfl, rfl, rfl⟩

theorem setClient {c : Client} (h : view c = view (w.client i)) :
    Keeps view w (w.setClient i c) where
  client j := by
    rw [client_setClient]
    split
    · rename_i hj
      rw [h, hj.1]
    · rfl
  clients := by simp [World.setClient]
  machines := rfl

theorem rowid (h : Keeps tally w w') : Keeps Client.lastRowid w w' :=
  ⟨fun j ↦ congrArg Prod.snd (h.client j), h.clients, h.machines⟩

end Keeps

theorem keeps_acquireRead (h : acquireRead i w = .ok w') : Keeps tally w w' := by
  unfold acquireRead at h
  simp only at h
  split at h
  · cases h
    exact .refl w
  · split at h
    · cases h
    · cases h
      exact .setClient rfl

theorem keeps_acquireWrite (h : acquireWrite i w = .ok w') : Keeps tally w w' := by
  unfold acquireWrite at h
  obtain ⟨w₁, hread, h⟩ := bind_eq_ok_iff.mp h
  refine (keeps_acquireRead hread).trans ?_
  simp only at h
  split at h
  · cases h
  · split at h
    · cases h
      exact .refl _
    · split at h
      · cases h
      · cases h
        exact .setClient rfl

theorem keeps_acquireExclusive (h : acquireExclusive i w = .ok w') : Keeps tally w w' := by
  unfold acquireExclusive at h
  obtain ⟨w₁, hwrite, h⟩ := bind_eq_ok_iff.mp h
  refine (keeps_acquireWrite hwrite).trans ?_
  simp only at h
  split at h
  · cases h
  · cases h
    exact .setClient rfl

theorem keeps_acquire {access : Access} (h : acquire access i w = .ok w') : Keeps tally w w' := by
  cases access with
  | none =>
    cases h
    exact .refl w
  | read => exact keeps_acquireRead h
  | write => exact keeps_acquireWrite h

theorem keeps_release (i id : Nat) (w : World) : Keeps tally w (release i id w) := by
  unfold release
  simp only
  split
  · exact .refl w
  · split
    · exact .refl w
    · exact .setClient rfl

theorem keeps_halt (id : Nat) (w : World) : Keeps tally w (halt id w) := by
  unfold halt
  split
  · exact .setMachine w id _
  · exact .refl w

theorem keeps_over (i id : Nat) (w : World) : Keeps tally w (release i id (halt id w)) :=
  (keeps_halt id w).trans (keeps_release i id _)

theorem keeps_commit (h : commit i w = .ok w') : Keeps tally w w' := by
  unfold commit at h
  simp only at h
  split at h
  · cases h
    exact .refl w
  · split at h
    · cases h
    · cases h
      exact (Keeps.setStores w _).trans (.setClient rfl)

theorem keeps_abandon (id : Nat) (m : Machine) (before : Option Content) (w : World) :
    Keeps tally w (abandon id m before w) := by
  unfold abandon
  simp only
  refine .trans ?_ (keeps_over m.client id _)
  exact .setClient rfl

theorem keeps_conclude (id : Nat) (m : Machine) (w : World) :
    Keeps Client.lastRowid w (conclude id m w).2 := by
  unfold conclude
  simp only
  split
  · refine (Keeps.setClient ?_).trans (keeps_over m.client id _).rowid
    split <;> rfl
  · split
    · rename_i w' hcommit
      have hover : Keeps Client.lastRowid w' (release m.client id (halt id w')) :=
        (keeps_over m.client id w').rowid
      refine (Keeps.setClient ?_).trans ((keeps_commit hcommit).rowid.trans hover)
      split <;> rfl
    · exact (keeps_abandon id m none w).rowid

theorem keeps_begun {locks : Except Failure World}
    (hlocks : ∀ w₁, locks = .ok w₁ → Keeps tally w w₁)
    (h : (locks >>= fun w ↦
      if !(w.client i).autocommit then .error (.transaction .nested)
      else .ok (w.setClient i { w.client i with autocommit := false })) = .ok w') :
    Keeps tally w w' := by
  obtain ⟨w₁, hw₁, h⟩ := bind_eq_ok_iff.mp h
  refine (hlocks w₁ hw₁).trans ?_
  split at h
  · cases h
  · cases h
    exact .setClient rfl

theorem keeps_beginTransaction {mode : BeginMode} (h : beginTransaction i mode w = .ok w') :
    Keeps tally w w' := by
  unfold beginTransaction at h
  simp only at h
  split at h
  · have hnone : ∀ w₁, (.ok w : Except Failure World) = .ok w₁ → Keeps tally w w₁ := by
      rintro w₁ ⟨⟩
      exact .refl w
    exact keeps_begun hnone h
  · split at h
    · exact keeps_begun (fun _ ↦ keeps_acquireRead) h
    · exact keeps_begun (fun _ ↦ keeps_acquireWrite) h
  · split at h
    · exact keeps_begun (fun _ ↦ keeps_acquireRead) h
    · exact keeps_begun (fun _ ↦ keeps_acquireExclusive) h

theorem keeps_endTransaction (i : Nat) (w : World) : Keeps tally w (endTransaction i w) :=
  .setClient rfl

/-- A world that a statement about transactions leaves, whether it succeeds or not. -/
def Settled (w : World) (r : Except Failure World × World) : Prop :=
  (∀ w', r.1 = .ok w' → Keeps tally w w') ∧ Keeps tally w r.2

theorem settled_error {e : Failure} (h : Keeps tally w w') : Settled w (.error e, w') :=
  ⟨fun _ hw ↦ (by cases hw), h⟩

theorem settled_commitTransaction (i id : Nat) (w : World) :
    Settled w (commitTransaction i id w) := by
  unfold commitTransaction
  simp only
  split
  · exact settled_error (.refl w)
  · split
    · exact settled_error (.refl w)
    · split
      · rename_i w' hcommit
        have hkeeps := keeps_commit hcommit
        refine ⟨fun w'' hw ↦ ?_, hkeeps⟩
        cases hw
        exact hkeeps.trans (keeps_endTransaction i w')
      · exact settled_error (.setClient rfl)

theorem settled_transact (i id : Nat) (s : Statement) (w : World) :
    Settled w (transact i id s w) := by
  have hok : ∀ w', Keeps tally w w' → Settled w (.ok w', w) := fun w' h ↦
    ⟨fun w'' hw ↦ (by cases hw; exact h), .refl w⟩
  unfold transact
  simp only
  split
  · exact ⟨fun w' hw ↦ keeps_beginTransaction hw, .refl w⟩
  · exact settled_commitTransaction i id w
  · split
    · exact settled_error (.refl w)
    · exact hok _ (keeps_endTransaction i w)
  · exact hok _ (.setClient rfl)
  · unfold releaseSavepoint
    simp only
    split
    · exact settled_error (.refl w)
    · split
      · exact settled_commitTransaction i id w
      · exact hok _ (.setClient rfl)
  · split
    · exact settled_error (.refl w)
    · exact hok _ (.setClient rfl)
  · exact hok _ (.refl w)

def Stands (id : Nat) (w : World) : Prop := ∃ m, w.machine? id = some m ∧ Machine.isActive m = true

/-- What a step of a statement of connection `i` does to the counters, where `last` is the row that
it inserts last: the identity moves to it, and if there is a row to show, no change is counted. -/
structure Stepped (id i : Nat) (last : Option Int) (w : World) (r : Sqlite.Outcome × World) :
    Prop where
  rowid : ∀ j, (r.2.client j).lastRowid =
    if i = j ∧ j < w.clients.length then (last.map Int64.ofInt).getD (w.client j).lastRowid
    else (w.client j).lastRowid
  total : r.1 = .row → ∀ j, (r.2.client j).totalChanges = (w.client j).totalChanges
  stands : r.1 = .row → id < w.machines.length → Stands id r.2

namespace Stepped

variable {last : Option Int} {r : Sqlite.Outcome × World}

theorem ended {o : Sqlite.Outcome} (h : Keeps Client.lastRowid w w') (ho : o ≠ .row) :
    Stepped id i none w (o, w') where
  rowid j := by
    rw [h.client j]
    simp
  total hrow := absurd hrow ho
  stands hrow := absurd hrow ho

theorem after (h : Keeps tally w w') (hr : Stepped id i last w' r) : Stepped id i last w r where
  rowid j := by rw [hr.rowid j, h.clients, h.rowid.client j]
  total hrow j := (hr.total hrow j).trans (congrArg Prod.fst (h.client j))
  stands hrow hid := hr.stands hrow (h.machines ▸ hid)

theorem afterInsert {c : Client}
    (hrowid : c.lastRowid = (last.map Int64.ofInt).getD (w.client i).lastRowid)
    (htotal : c.totalChanges = (w.client i).totalChanges)
    (hr : Stepped id i none (w.setClient i c) r) : Stepped id i last w r where
  rowid j := by
    have hj := hr.rowid j
    simp only [Option.map_none, Option.getD_none, ite_self] at hj
    rw [hj, client_setClient]
    split
    · rename_i hij
      rw [hrowid, hij.1]
    · rfl
  total hrow j := by
    have hkeeps : Keeps Client.totalChanges w (w.setClient i c) := .setClient htotal
    exact (hr.total hrow j).trans (hkeeps.client j)
  stands hrow hid := hr.stands hrow hid

end Stepped

theorem failed_ne_row (failure : Failure) : failed failure ≠ .row := by simp [failed]

theorem stepped_refused (i id : Nat) (m : Machine) (before : Option Content) (failure : Failure)
    (w : World) : Stepped id i none w (failed failure, abandon id m before w) :=
  .ended (keeps_abandon id m before w).rowid (failed_ne_row failure)

theorem stepped_proceed (i id : Nat) (m : Machine) (rest : Pending) (w : World) :
    Stepped id i none w (proceed id m rest w) := by
  unfold proceed
  split
  · rename_i row rest' _
    refine ⟨fun j ↦ by simp [setMachine, client], fun _ j ↦ rfl, fun _ hid ↦ ?_⟩
    exact ⟨{ m with run := .active rest', row }, by simp [setMachine, machine?, hid], rfl⟩
  · exact stepped_refused i id m _ _ w
  · have hend := keeps_conclude id m w
    split
    · rename_i hconclude
      rw [hconclude] at hend
      exact .ended hend (failed_ne_row _)
    · rename_i hconclude
      rw [hconclude] at hend
      exact .ended hend (by simp)

theorem stepped_applyChange (id : Nat) (m : Machine) (before : Option Content) (c : Content)
    (result : Option Failure × Progress) (w : World) :
    Stepped id m.client result.2.lastRowid w (applyChange id m before c result w) := by
  obtain ⟨failure?, p⟩ := result
  cases failure? with
  | some failure =>
    refine .afterInsert ?_ ?_ (stepped_refused m.client id m before failure _)
    · cases p.lastRowid <;> rfl
    · rfl
  | none =>
    refine .afterInsert ?_ ?_ (stepped_proceed m.client id _ _ _)
    · cases p.lastRowid <;> rfl
    · rfl

theorem stepped_change (id : Nat) (m : Machine) (before : Option Content) (c : Content)
    (table : String) (run : Table → Option Failure × Progress) (w : World) :
    Stepped id m.client (((c.table? table).map run).bind (·.2.lastRowid)) w
      (match c.table? table with
      | some t => applyChange id m before c (run t) w
      | none => (failed (.noSuch .table table), abandon id m before w)) := by
  cases c.table? table with
  | none => exact stepped_refused m.client id m before _ w
  | some t => exact stepped_applyChange id m before c (run t) w

theorem stepped_perform (id : Nat) (m : Machine) (action : Action) (w : World) :
    Stepped id m.client
      ((action.change? (w.content m.client) ⟨m.bound, []⟩).bind (·.2.lastRowid)) w
      (perform id m action w) := by
  unfold perform
  simp only
  cases action with
  | query q => exact stepped_proceed m.client id m _ w
  | insert p => exact stepped_change id m _ _ p.table _ w
  | update p => exact stepped_change id m _ _ p.table _ w
  | delete p => exact stepped_change id m _ _ p.table _ w
  | define =>
    simp only [Action.change?]
    split
    · exact stepped_refused m.client id m _ _ w
    · split
      · exact stepped_refused m.client id m _ _ w
      · rename_i content _
        have hdraft : Keeps tally w
            (w.setClient m.client { w.client m.client with draft := some content }) :=
          .setClient rfl
        exact .after hdraft (stepped_proceed m.client id m _ _)
  | transaction =>
    have hsettled := settled_transact m.client id m.written.statement w
    simp only [Action.change?]
    split
    · rename_i htransact
      rw [htransact] at hsettled
      exact .ended (hsettled.2.trans (keeps_over m.client id _)).rowid (failed_ne_row _)
    · rename_i htransact
      rw [htransact] at hsettled
      exact .ended ((hsettled.1 _ rfl).trans (keeps_over m.client id _)).rowid (by simp)

theorem stepped_start (id : Nat) (m : Machine) (w : World) :
    Stepped id m.client (insertion m w) w (start id m w) := by
  unfold start insertion
  simp only
  cases resolveStatement (w.content m.client) m.written.statement with
  | error failure =>
    simp only
    split
    · exact stepped_refused m.client id _ _ _ w
    · rename_i w' hacquire
      exact .after (keeps_acquire hacquire) (stepped_refused m.client id _ _ _ w')
  | ok r =>
    simp only
    cases hacquire : acquire r.action.access m.client w with
    | error failure => exact stepped_refused m.client id _ _ failure w
    | ok w' =>
      let m' : Machine :=
        { m with row := [], changed := none, access := r.action.access, fields := r.fields }
      have hready : Keeps tally w (w'.setMachine id m') :=
        (keeps_acquire hacquire).trans (.setMachine w' id m')
      exact .after hready (stepped_perform id m' r.action (w'.setMachine id m'))

theorem stepped_step {m : Machine} (h : w.machine? id = some m) :
    Stepped id m.client (if Machine.isActive m then none else insertion m w) w (step id w) := by
  simp only [step, h]
  cases hrun : m.run with
  | active rest =>
    have hactive : Machine.isActive m = true := by simp [Machine.isActive, hrun]
    rw [if_pos hactive]
    exact stepped_proceed m.client id m rest w
  | ready =>
    have hactive : ¬ Machine.isActive m = true := by simp [Machine.isActive, hrun]
    rw [if_neg hactive]
    exact stepped_start id m w
  | halted =>
    have hactive : ¬ Machine.isActive m = true := by simp [Machine.isActive, hrun]
    rw [if_neg hactive]
    exact stepped_start id m w

theorem rowid_step (i id : Nat) (w : World) :
    (counters i (step id w).2).rowid = (inserted i id w).getD (counters i w).rowid := by
  cases h : w.machine? id with
  | none => simp [step, inserted, h]
  | some m =>
    have hrowid := (stepped_step h).rowid i
    simp only [counters, hrowid, inserted, h]
    by_cases hi : m.client = i ∧ i < w.clients.length
    · by_cases hactive : Machine.isActive m = true <;> simp [hi, hactive]
    · have hnot : ¬ (m.client = i ∧ i < w.clients.length ∧ ¬ Machine.isActive m = true) :=
        fun h ↦ hi ⟨h.1, h.2.1⟩
      rw [if_neg hi, if_neg hnot]
      rfl

theorem machine?_lt (h : w.machine? id = some m) : id < w.machines.length := by
  cases hslot : w.machines[id]? with
  | none => simp [machine?, hslot] at h
  | some slot => exact (List.getElem?_eq_some_iff.mp hslot).1

theorem step_row (h : step id w = (.row, w')) :
    Stands id w' ∧ ∀ j, (w'.client j).totalChanges = (w.client j).totalChanges := by
  cases hm : w.machine? id with
  | none => simp [step, hm] at h
  | some m =>
    have hstepped := stepped_step hm
    rw [h] at hstepped
    exact ⟨hstepped.stands rfl (machine?_lt hm), hstepped.total rfl⟩

theorem inserted_of_stands (h : Stands id w) (i : Nat) : inserted i id w = none := by
  obtain ⟨m, hm, hactive⟩ := h
  simp [inserted, hm, hactive]

theorem keeps_prepare (i : Nat) (text : List Char) (w : World) (j : Nat) :
    ((prepare i text w).2.client j).lastRowid = (w.client j).lastRowid := by
  have hknown : ∀ known, Keeps Client.lastRowid w
      (w.setClient i { w.client i with schemaKnown := known }) := fun known ↦ .setClient rfl
  unfold prepare
  simp only
  split
  · rfl
  · rfl
  · split
    · rfl
    · split
      · exact (hknown _).client j
      · exact (hknown _).client j

theorem keeps_reset (id : Nat) (w : World) : Keeps Client.lastRowid w (reset id w) := by
  unfold reset
  split
  · exact .refl w
  · rename_i m _
    simp only
    split
    · exact (keeps_conclude id m w).trans (.setMachine _ id _)
    · exact .setMachine w id _

theorem rowid_finalize (id : Nat) (w : World) (j : Nat) :
    ((finalize id w).client j).lastRowid = (w.client j).lastRowid := (keeps_reset id w).client j

theorem reset_prepared {i : Nat} {text rest : List Char}
    (h : prepare i text w = (.ok (some id, rest), w')) : reset id w' = w' := by
  unfold prepare at h
  split at h
  · cases h
  · cases h
  · rename_i written rest' _
    simp only at h
    split at h
    · cases h
    · split at h
      · cases h
      · cases h
        simp [reset, machine?, setMachine]

end World

theorem engine_documented : engine.Documented World.inserted where
  step := World.rowid_step
  resume _ _ _ _ h := World.inserted_of_stands (World.step_row h).1 _
  counted j _ _ _ h := (World.step_row h).2 j
  prepare i text w j := World.keeps_prepare i text w j
  reset j id w := (World.keeps_reset id w).client j
  finalize j id w := World.rowid_finalize id w j
  fresh _ _ _ _ _ _ h := World.reset_prepared h

end SqlGateway.Sql
