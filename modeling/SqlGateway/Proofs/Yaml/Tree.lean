import SqlGateway.Proofs.Yaml.Tokens
import SqlGateway.Yaml.Node.Reader

namespace SqlGateway.Yaml

namespace Outline

def textNode (s : String) : Node := .scalar {} s (Style.ofText s = .plain)

mutual

/-- The tree that an outline is written for. -/
def node : Outline → Node
  | text s => textNode s
  | items texts => .sequence {} (texts.map textNode)
  | fields fs => .mapping {} (fieldNodes fs)

def fieldNodes : List (String × Outline) → List (Node × Node)
  | [] => []
  | (key, v) :: rest => (textNode key, v.node) :: fieldNodes rest

end
end Outline

namespace Reader

variable {α β : Type} {fuel : ℕ} {rest : List Token}

theorem bind_of_ok {x : Reader α} {f : α → Reader β} {s s' : Source} {a : α}
    (h : x s = .ok (a, s')) : (x >>= f) s = f a s' := by
  change x s >>= (fun r ↦ f r.1 r.2) = f a s'
  rw [h]
  rfl

theorem node_text (s : String) (place : Place) (rest : List Token) :
    node (fuel + 1) place { tokens := Outline.textToken s :: rest } =
      .ok (Outline.textNode s, { tokens := rest }) := by
  rw [node]
  rfl

theorem node_flowSequence (place : Place) (rest : List Token) :
    node (fuel + 1) place { tokens := .flowSequence :: rest } =
      (do return .sequence {} (← flowItems fuel true) : Reader Node) { tokens := rest } := by
  rw [node]
  rfl

theorem node_flowMapping (place : Place) (rest : List Token) :
    node (fuel + 1) place { tokens := .flowMapping :: rest } =
      (do return .mapping {} (← flowFields fuel true) : Reader Node) { tokens := rest } := by
  rw [node]
  rfl

theorem node_entry (rest : List Token) :
    node (fuel + 1) .field { tokens := .entry :: rest } =
      (do return .sequence {} (← indentlessItems fuel) : Reader Node)
        { tokens := .entry :: rest } := by
  rw [node]
  rfl

theorem node_blockSequence (indentless : Bool) (rest : List Token) :
    node (fuel + 1) ⟨true, indentless⟩ { tokens := .blockSequence :: rest } =
      (do return .sequence {} (← blockItems fuel) : Reader Node) { tokens := rest } := by
  rw [node]
  cases indentless <;> rfl

theorem node_blockMapping (indentless : Bool) (rest : List Token) :
    node (fuel + 1) ⟨true, indentless⟩ { tokens := .blockMapping :: rest } =
      (do return .mapping {} (← blockFields fuel) : Reader Node) { tokens := rest } := by
  rw [node]
  cases indentless <;> rfl

theorem nodeUnless_text {isEnd : Token → Bool} {place : Place} (s : String)
    (h : isEnd (Outline.textToken s) = false) (rest : List Token) :
    nodeUnless (fuel + 2) isEnd place { tokens := Outline.textToken s :: rest } =
      .ok (Outline.textNode s, { tokens := rest }) := by
  rw [nodeUnless]
  refine (bind_of_ok (a := Outline.textToken s) rfl).trans ?_
  rw [h]
  exact node_text s place rest

theorem token?_of_ne {t u : Token} (h : u ≠ t) (rest : List Token) :
    token? t { tokens := u :: rest } = .ok (false, { tokens := u :: rest }) := by
  rw [token?]
  refine (bind_of_ok (a := u) rfl).trans ?_
  rw [if_neg h]
  rfl

theorem token?_self (t : Token) (rest : List Token) :
    token? t { tokens := t :: rest } = .ok (true, { tokens := rest }) := by
  rw [token?]
  refine (bind_of_ok (a := t) rfl).trans ?_
  rw [if_pos rfl]
  rfl

theorem token_self (t : Token) (name : String) (rest : List Token) :
    token t name { tokens := t :: rest } = .ok ((), { tokens := rest }) := by
  rw [token]
  exact bind_of_ok (token?_self t rest)

theorem blockItems_eq (texts : List String) (rest : List Token) (hfuel : texts.length + 2 ≤ fuel) :
    blockItems fuel { tokens := Outline.itemTokens texts ++ .blockEnd :: rest } =
      .ok (texts.map Outline.textNode, { tokens := rest }) := by
  induction texts generalizing fuel with
  | nil =>
    obtain ⟨fuel, rfl⟩ : ∃ n, fuel = n + 1 := ⟨fuel - 1, by omega⟩
    rw [blockItems]
    exact bind_of_ok (token?_self _ _)
  | cons s texts ih =>
    simp only [List.length_cons] at hfuel
    obtain ⟨fuel, rfl⟩ : ∃ n, fuel = n + 3 := ⟨fuel - 3, by omega⟩
    rw [blockItems]
    refine (bind_of_ok (token?_of_ne (u := .entry) (by simp) _)).trans ?_
    refine (bind_of_ok (token_self .entry _ _)).trans ?_
    refine (bind_of_ok (nodeUnless_text s rfl _)).trans ?_
    exact bind_of_ok (ih (by omega))

theorem indentlessItems_eq (texts : List String) (hrest : rest.headD .finish ≠ .entry)
    (hfuel : texts.length + 2 ≤ fuel) :
    indentlessItems fuel { tokens := Outline.itemTokens texts ++ rest } =
      .ok (texts.map Outline.textNode, { tokens := rest }) := by
  induction texts generalizing fuel with
  | nil =>
    obtain ⟨fuel, rfl⟩ : ∃ n, fuel = n + 1 := ⟨fuel - 1, by omega⟩
    have hentry : token? .entry { tokens := rest } = .ok (false, { tokens := rest }) := by
      rw [token?]
      refine (bind_of_ok (a := rest.headD .finish) rfl).trans ?_
      rw [if_neg hrest]
      rfl
    rw [indentlessItems]
    exact bind_of_ok hentry
  | cons s texts ih =>
    simp only [List.length_cons] at hfuel
    obtain ⟨fuel, rfl⟩ : ∃ n, fuel = n + 3 := ⟨fuel - 3, by omega⟩
    rw [indentlessItems]
    refine (bind_of_ok (token?_self .entry _)).trans ?_
    refine (bind_of_ok (nodeUnless_text s rfl _)).trans ?_
    exact bind_of_ok (ih (by omega))

theorem flowItems_empty (rest : List Token) :
    flowItems (fuel + 1) true { tokens := .flowSequenceEnd :: rest } =
      .ok ([], { tokens := rest }) := by
  rw [flowItems]
  exact bind_of_ok (token?_self _ _)

theorem flowFields_empty (rest : List Token) :
    flowFields (fuel + 1) true { tokens := .flowMappingEnd :: rest } =
      .ok ([], { tokens := rest }) := by
  rw [flowFields]
  exact bind_of_ok (token?_self _ _)

theorem length_itemTokens (texts : List String) :
    (Outline.itemTokens texts).length = 2 * texts.length := by
  induction texts with
  | nil => rfl
  | cons s texts ih =>
    rw [Outline.itemTokens, List.flatMap_cons, List.length_append, ← Outline.itemTokens, ih]
    simp only [List.length_cons, List.length_nil]
    omega

theorem node_items (texts : List String) (simple : Bool) (hrest : rest.headD .finish ≠ .entry)
    (hfuel : 2 * ((Outline.items texts).valueTokens simple).length + 1 ≤ fuel) :
    node fuel .field { tokens := (Outline.items texts).valueTokens simple ++ rest } =
      .ok ((Outline.items texts).node, { tokens := rest }) := by
  obtain ⟨fuel, rfl⟩ : ∃ n, fuel = n + 1 := ⟨fuel - 1, by omega⟩
  rcases texts with - | ⟨s, texts⟩
  · rw [Outline.valueTokens, List.length_cons] at hfuel
    obtain ⟨fuel, rfl⟩ : ∃ n, fuel = n + 1 := ⟨fuel - 1, by omega⟩
    rw [Outline.valueTokens]
    exact (node_flowSequence _ _).trans (bind_of_ok (flowItems_empty rest))
  · have hlength := length_itemTokens (s :: texts)
    rw [List.length_cons] at hlength
    rw [Outline.valueTokens_items] at hfuel ⊢
    cases simple with
    | true =>
      simp only [if_true] at hfuel ⊢
      refine (node_entry _).trans (bind_of_ok (indentlessItems_eq (s :: texts) hrest ?_))
      rw [List.length_cons]
      omega
    | false =>
      simp only [Bool.false_eq_true, if_false, List.length_cons, List.length_append,
        List.cons_append, List.append_assoc] at hfuel ⊢
      refine (node_blockSequence _ _).trans (bind_of_ok (blockItems_eq (s :: texts) rest ?_))
      rw [List.length_cons]
      omega

theorem endsField_valueTokens (v : Outline) (simple : Bool) (rest : List Token) :
    endsField ((v.valueTokens simple ++ rest).headD .finish) = false := by
  rcases v with s | texts | fs
  · rw [Outline.valueTokens]
    rfl
  · rcases texts with - | ⟨s, texts⟩
    · rw [Outline.valueTokens]
      rfl
    · rw [Outline.valueTokens_items]
      cases simple <;> rfl
  · rcases fs with - | ⟨f, fs⟩
    · rw [Outline.valueTokens]
      rfl
    · rw [Outline.valueTokens_fields _ (List.cons_ne_nil _ _)]
      rfl

theorem nodeUnless_of_node {isEnd : Token → Bool} {place : Place} {ts : List Token} {r : Node}
    {s : Source} (hstart : isEnd (ts.headD .finish) = false)
    (h : node fuel place { tokens := ts } = .ok (r, s)) :
    nodeUnless (fuel + 1) isEnd place { tokens := ts } = .ok (r, s) := by
  rw [nodeUnless]
  refine (bind_of_ok (a := ts.headD .finish) rfl).trans ?_
  rw [hstart]
  exact h

mutual

theorem node_value (v : Outline) (simple : Bool) {fuel : ℕ} {rest : List Token}
    (hrest : rest.headD .finish ≠ .entry)
    (hfuel : 2 * (v.valueTokens simple).length + 1 ≤ fuel) :
    node fuel .field { tokens := v.valueTokens simple ++ rest } =
      .ok (v.node, { tokens := rest }) := by
  match v with
  | .text s =>
    obtain ⟨fuel, rfl⟩ : ∃ n, fuel = n + 1 := ⟨fuel - 1, by omega⟩
    rw [Outline.valueTokens, Outline.node]
    exact node_text s .field rest
  | .items texts => exact node_items texts simple hrest hfuel
  | .fields [] =>
    rw [Outline.valueTokens, List.length_cons] at hfuel
    obtain ⟨fuel, rfl⟩ : ∃ n, fuel = n + 2 := ⟨fuel - 2, by omega⟩
    rw [Outline.valueTokens, Outline.node]
    exact (node_flowMapping _ _).trans (bind_of_ok (flowFields_empty rest))
  | .fields (f :: fs) =>
    obtain ⟨fuel, rfl⟩ : ∃ n, fuel = n + 1 := ⟨fuel - 1, by omega⟩
    rw [Outline.valueTokens_fields simple (List.cons_ne_nil _ _)] at hfuel ⊢
    simp only [List.cons_append, List.append_assoc, List.length_cons, List.length_append]
      at hfuel ⊢
    rw [Outline.node]
    exact (node_blockMapping _ _).trans (bind_of_ok (blockFields_eq (f :: fs) rest (by omega)))

theorem blockFields_eq (fs : List (String × Outline)) {fuel : ℕ} (rest : List Token)
    (hfuel : 2 * (Outline.fieldTokens fs).length + 1 ≤ fuel) :
    blockFields fuel { tokens := Outline.fieldTokens fs ++ .blockEnd :: rest } =
      .ok (Outline.fieldNodes fs, { tokens := rest }) := by
  match fs with
  | [] =>
    obtain ⟨fuel, rfl⟩ : ∃ n, fuel = n + 1 := ⟨fuel - 1, by omega⟩
    rw [Outline.fieldTokens, Outline.fieldNodes, blockFields]
    exact bind_of_ok (token?_self _ _)
  | (key, v) :: fs =>
    rw [Outline.fieldTokens] at hfuel ⊢
    simp only [List.length_cons, List.length_append, List.cons_append, List.append_assoc] at hfuel ⊢
    obtain ⟨fuel, rfl⟩ : ∃ n, fuel = n + 3 := ⟨fuel - 3, by omega⟩
    -- a list without marks around it ends where no item follows
    have hnext : (Outline.fieldTokens fs ++ .blockEnd :: rest).headD .finish ≠ .entry := by
      rcases fs with - | ⟨⟨key, v⟩, fs⟩ <;> rw [Outline.fieldTokens] <;> simp
    have hvalue := node_value v (Outline.isSimpleKey key) hnext (show _ ≤ fuel + 1 by omega)
    have hfields := blockFields_eq fs rest (show _ ≤ fuel + 2 by omega)
    rw [Outline.fieldNodes, blockFields]
    refine (bind_of_ok (token?_of_ne (u := .key) (by simp) _)).trans ?_
    refine (bind_of_ok (token_self .key _ _)).trans ?_
    refine (bind_of_ok (nodeUnless_text key rfl _)).trans ?_
    refine (bind_of_ok (token?_self .value _)).trans ?_
    refine (bind_of_ok (nodeUnless_of_node (endsField_valueTokens v _ _) hvalue)).trans ?_
    exact bind_of_ok hfields

end

end Reader
end SqlGateway.Yaml
