import Chip8.Document.Grammar
import Chip8.Proofs.Document.Writer

/-!
# Nodes of written tokens

The reader of tokens makes a node of the tokens that it is written with (`Node.ofTokens?_tokens`).
The bound on its recursion is no obstacle: for each of its functions, four times the number of
tokens is enough.
-/

namespace Chip8.Document

variable {node : Node} {fuel : Nat}

/-- The first token of a node starts nodes everywhere. -/
theorem startsNode_tokens (place : Place) (node : Node) (rest : List Token) :
    startsNode place (node.tokens ++ rest) = true := by
  cases node <;> rfl

theorem node?_flowListStart (place : Place) (rest : List Token) :
    node? (fuel + 1) place (.flowListStart :: rest) = flowItems? fuel [] rest := rfl

theorem node?_flowMappingStart (place : Place) (rest : List Token) :
    node? (fuel + 1) place (.flowMappingStart :: rest) = flowEntries? fuel [] rest := rfl

theorem flowItems?_flowListEnd (before : List Node) (rest : List Token) :
    flowItems? (fuel + 1) before (.flowListEnd :: rest) = some (.list before.reverse, rest) := rfl

theorem flowEntries?_flowMappingEnd (before : List (Node × Node)) (rest : List Token) :
    flowEntries? (fuel + 1) before (.flowMappingEnd :: rest) =
      some (.mapping before.reverse, rest) := rfl

/-- Reads an item, and goes on behind the separator. -/
theorem flowItems?_separator {item : Node} {rest : List Token} (before : List Node)
    (read : node? fuel .flow (item.tokens ++ .separator :: rest) =
      some (item, .separator :: rest)) :
    flowItems? (fuel + 1) before (item.tokens ++ .separator :: rest) =
      flowItems? fuel (item :: before) rest := by
  have unfolded : ∃ further, flowItems? (fuel + 1) before (item.tokens ++ .separator :: rest) =
        (node? fuel .flow (item.tokens ++ .separator :: rest)).bind further ∧
      further (item, .separator :: rest) = flowItems? fuel (item :: before) rest := by
    cases item <;> exact ⟨_, rfl, rfl⟩
  obtain ⟨further, reads, onward⟩ := unfolded
  rw [reads, read, Option.bind_some, onward]

theorem nodeOrAbsent?_tokens (node : Node) (rest : List Token) :
    nodeOrAbsent? (fuel + 1) .flow (node.tokens ++ rest) =
      node? fuel .flow (node.tokens ++ rest) := by
  rw [nodeOrAbsent?, startsNode_tokens, if_pos rfl]

/-- Reads an entry, and goes on behind the separator. -/
theorem flowEntries?_separator {key value : Node} {rest : List Token} (before : List (Node × Node))
    (readKey : node? (fuel + 1) .flow (key.tokens ++ .value :: (value.tokens ++ .separator :: rest))
      = some (key, .value :: (value.tokens ++ .separator :: rest)))
    (readValue : node? fuel .flow (value.tokens ++ .separator :: rest) =
      some (value, .separator :: rest)) :
    flowEntries? (fuel + 3) before
        (.key :: (key.tokens ++ .value :: (value.tokens ++ .separator :: rest))) =
      flowEntries? (fuel + 2) ((key, value) :: before) rest := by
  rw [flowEntries?]
  simp only [nodeOrAbsent?_tokens, readKey, value?, readValue, Option.bind_eq_bind,
    Option.bind_some]

mutual

theorem node?_tokens (place : Place) (node : Node) (writable : node.isWritable = true)
    (rest : List Token) {fuel : Nat} (enough : 4 * node.tokens.length ≤ fuel) :
    node? fuel place (node.tokens ++ rest) = some (node, rest) := by
  match node, fuel with
  | .plain text, fuel + 1 => rfl
  | .quoted text, fuel + 1 => rfl
  | .list items, fuel + 1 =>
    rw [Node.tokens] at enough ⊢
    rw [List.length_append, List.length_cons] at enough
    rw [List.append_assoc, List.cons_append, node?_flowListStart]
    exact flowItems?_tokens items writable [] rest (by omega)
  | .mapping entries, fuel + 1 =>
    rw [Node.tokens] at enough ⊢
    rw [List.length_append, List.length_cons] at enough
    rw [List.append_assoc, List.cons_append, node?_flowMappingStart]
    exact flowEntries?_tokens entries writable [] rest (by omega)

theorem flowItems?_tokens (items : List Node) (writable : areWritable items = true)
    (before : List Node) (rest : List Token) {fuel : Nat}
    (enough : 4 * (itemTokens items).length < fuel) :
    flowItems? fuel before (itemTokens items ++ .flowListEnd :: rest) =
      some (.list (before.reverse ++ items), rest) := by
  match items, fuel with
  | [], fuel + 1 =>
    rw [itemTokens, List.nil_append, flowItems?_flowListEnd, List.append_nil]
  | item :: later, fuel + 1 =>
    rw [areWritable, Bool.and_eq_true] at writable
    rw [itemTokens] at enough ⊢
    rw [List.length_append, List.length_cons] at enough
    rw [List.append_assoc, List.cons_append,
      flowItems?_separator before (node?_tokens .flow item writable.1 _ (by omega)),
      flowItems?_tokens later writable.2 (item :: before) rest (by omega), List.reverse_cons,
      List.append_assoc, List.singleton_append]

theorem flowEntries?_tokens (entries : List (Node × Node))
    (writable : areWritableEntries entries = true)
    (before : List (Node × Node)) (rest : List Token) {fuel : Nat}
    (enough : 4 * (entryTokens entries).length < fuel) :
    flowEntries? fuel before (entryTokens entries ++ .flowMappingEnd :: rest) =
      some (.mapping (before.reverse ++ entries), rest) := by
  match entries, fuel with
  | [], fuel + 1 =>
    rw [entryTokens, List.nil_append, flowEntries?_flowMappingEnd, List.append_nil]
  | (key, value) :: later, fuel + 3 =>
    rw [areWritableEntries, Bool.and_eq_true, Bool.and_eq_true] at writable
    rw [entryTokens] at enough ⊢
    simp only [List.length_append, List.length_cons] at enough
    simp only [List.append_assoc, List.cons_append]
    have readKey := node?_tokens .flow key writable.1.1
      (.value :: (value.tokens ++ .separator :: (entryTokens later ++ .flowMappingEnd :: rest)))
      (show _ ≤ fuel + 1 by omega)
    have readValue := node?_tokens .flow value writable.1.2
      (.separator :: (entryTokens later ++ .flowMappingEnd :: rest)) (show _ ≤ fuel by omega)
    rw [flowEntries?_separator before readKey readValue,
      flowEntries?_tokens later writable.2 ((key, value) :: before) rest (by omega),
      List.reverse_cons, List.append_assoc, List.singleton_append]

end

/-- The tokens of a node are those of a document with that content. -/
theorem Node.ofTokens?_tokens (writable : node.isWritable = true) :
    Node.ofTokens? node.tokens = some node := by
  have read := node?_tokens .item node writable [] (Nat.le_add_right (4 * node.tokens.length) 4)
  rw [List.append_nil] at read
  have unfolded : Node.ofTokens? node.tokens =
      (node? (4 * node.tokens.length + 4) .item node.tokens).bind fun found =>
        if found.2.all (· == .documentEnd) then some found.1 else none := by
    cases node <;> rfl
  rw [unfolded, read]
  rfl

end Chip8.Document
