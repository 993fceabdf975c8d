import RegistryAuth.Proofs.Yaml.Tokens
import RegistryAuth.Yaml.Node

/-!
# What can be wrong in the structure of a document

No reader of a document fails by a fault of a scalar by itself.  The only such fault that a
reader passes on is the one that ended the tokens, so the text accounts for it
(`Graph.misread_of_ofText`).
-/

namespace RegistryAuth
namespace Yaml

variable {text : List Char} {α β : Type}

/-- The text accounts for what ends the tokens that are left. -/
def Reader.IsOf (text : List Char) (r : Reader) : Prop := ∀ f, r.left.fault = some f → f.IsOf text

namespace Reading

/-- The text accounts for the faults of an action, and still for what ends the tokens. -/
abbrev Sound (text : List Char) (act : Reading α) : Prop :=
  Except.Maintains (Reader.IsOf text) (fun _ => True) (Fault.IsOf text) act

theorem sound_pure (a : α) : Sound text (pure a) := .pure trivial

theorem Sound.bind {act : Reading α} {f : α → Reading β} (h : Sound text act)
    (hf : ∀ a, Sound text (f a)) : Sound text (act >>= f) :=
  Except.Maintains.bind h fun a _ => hf a

theorem sound_structural (f : StructureFault) : Sound text (throw (.structural f) : Reading α) :=
  .throw nofun

theorem sound_node (f : NodeFault) : Sound text (throw (.node f) : Reading α) := .throw nofun

/-! ## Single tokens and nodes -/

theorem peek_sound : Sound text peek := by
  refine Except.Maintains.bind .get fun r hr => ?_
  split
  · exact sound_pure _
  · rename_i f _ hfault
    exact .throw (hr f hfault)
  · exact sound_pure _

theorem advance_sound : Sound text advance := .modify fun _ h => h

theorem add_sound (anchor : Option (List Char)) (n : Node) : Sound text (add anchor n) := by
  refine Except.Maintains.bind .get fun r hr => ?_
  cases anchor with
  | none => exact Except.Maintains.bind (.set hr) fun _ _ => sound_pure r.nodes.size
  | some name =>
    exact .ite (sound_node .duplicateAnchor)
      (Except.Maintains.bind (.set hr) fun _ _ => sound_pure r.nodes.size)

theorem fill_sound (i : Nat) (c : Content) : Sound text (fill i c) := .modify fun _ h => h

theorem addEmpty_sound : Sound text addEmpty := add_sound _ _

theorem tagName_sound (t : TagText) : Sound text (tagName t) := by
  rw [tagName]
  split
  · exact sound_pure _
  · refine Except.Maintains.bind .get fun r _ => ?_
    split
    · exact sound_pure _
    · exact sound_structural _

theorem properties_sound : Sound text properties := by
  rw [properties]
  refine peek_sound.bind fun t => ?_
  split
  · refine advance_sound.bind fun _ => peek_sound.bind fun t => ?_
    split
    · exact advance_sound.bind fun _ => (tagName_sound _).bind fun _ => sound_pure _
    · exact sound_pure _
  · refine advance_sound.bind fun _ => peek_sound.bind fun t => ?_
    split
    · exact advance_sound.bind fun _ => (tagName_sound _).bind fun _ => sound_pure _
    · exact (tagName_sound _).bind fun _ => sound_pure _
  · exact sound_pure _

theorem entryComma_sound (first : Bool) (f : StructureFault) : Sound text (entryComma first f) := by
  rw [entryComma]
  split
  · exact sound_pure _
  · refine peek_sound.bind fun t => ?_
    split
    · exact advance_sound
    · exact sound_structural _

/-! ## Nodes -/

mutual

theorem node_sound : ∀ (fuel : Nat) (block indentless : Bool),
    Sound text (node fuel block indentless)
  | 0, _, _ => sound_structural _
  | fuel + 1, block, indentless => by
    have hcollection {c : Type} (anchor : Option (List Char)) (n : Node) {read : Reading c}
        (hread : Sound text read) (content : c → Content) : Sound text (do
          let i ← add anchor n
          fill i (content (← read))
          return i) :=
      (add_sound anchor n).bind fun i => hread.bind fun members =>
        (fill_sound i (content members)).bind fun _ => sound_pure i
    rw [node]
    refine peek_sound.bind fun t => ?_
    split
    · refine advance_sound.bind fun _ => Except.Maintains.bind .get fun r _ => ?_
      split
      · exact sound_pure _
      · exact sound_node _
    · refine properties_sound.bind fun x => ?_
      refine peek_sound.bind fun t => ?_
      split
      · exact hcollection _ _ (indentlessItems_sound fuel) .sequence
      · exact advance_sound.bind fun _ => add_sound _ _
      · exact advance_sound.bind fun _ =>
          hcollection _ _ (flowItems_sound fuel true) .sequence
      · exact advance_sound.bind fun _ =>
          hcollection _ _ (flowEntries_sound fuel true) .mapping
      · exact advance_sound.bind fun _ => hcollection _ _ (blockItems_sound fuel) .sequence
      · exact advance_sound.bind fun _ => hcollection _ _ (blockEntries_sound fuel) .mapping
      · split
        · exact add_sound _ _
        · exact sound_structural _

theorem blockItems_sound : ∀ fuel : Nat, Sound text (blockItems fuel)
  | 0 => sound_structural _
  | fuel + 1 => by
    rw [blockItems]
    refine peek_sound.bind fun t => ?_
    split
    · refine advance_sound.bind fun _ => peek_sound.bind fun t => ?_
      have hend (i : Nat) : Sound text (do
          return i :: (← blockItems fuel)) :=
        (blockItems_sound fuel).bind fun _ => sound_pure _
      exact .ite (addEmpty_sound.bind hend) ((node_sound fuel true false).bind hend)
    · exact advance_sound.bind fun _ => sound_pure _
    · exact sound_structural _

theorem indentlessItems_sound : ∀ fuel : Nat, Sound text (indentlessItems fuel)
  | 0 => sound_structural _
  | fuel + 1 => by
    rw [indentlessItems]
    refine peek_sound.bind fun t => ?_
    split
    · refine advance_sound.bind fun _ => peek_sound.bind fun t => ?_
      have hend (i : Nat) : Sound text (do
          return i :: (← indentlessItems fuel)) :=
        (indentlessItems_sound fuel).bind fun _ => sound_pure _
      exact .ite (addEmpty_sound.bind hend) ((node_sound fuel true false).bind hend)
    · exact sound_pure _

theorem blockEntries_sound : ∀ fuel : Nat, Sound text (blockEntries fuel)
  | 0 => sound_structural _
  | fuel + 1 => by
    rw [blockEntries]
    refine peek_sound.bind fun t => ?_
    split
    · refine advance_sound.bind fun _ => peek_sound.bind fun t => ?_
      have hend (k : Nat) : Sound text (do
          let v ← blockValue fuel
          return (k, v) :: (← blockEntries fuel)) :=
        (blockValue_sound fuel).bind fun _ => (blockEntries_sound fuel).bind fun _ => sound_pure _
      exact .ite (addEmpty_sound.bind hend) ((node_sound fuel true true).bind hend)
    · exact advance_sound.bind fun _ => sound_pure _
    · exact sound_structural _

theorem blockValue_sound : ∀ fuel : Nat, Sound text (blockValue fuel)
  | 0 => sound_structural _
  | fuel + 1 => by
    rw [blockValue]
    refine peek_sound.bind fun t => ?_
    split
    · refine advance_sound.bind fun _ => peek_sound.bind fun t => ?_
      exact .ite addEmpty_sound (node_sound fuel true true)
    · exact addEmpty_sound

theorem flowItems_sound : ∀ (fuel : Nat) (first : Bool), Sound text (flowItems fuel first)
  | 0, _ => sound_structural _
  | fuel + 1, first => by
    rw [flowItems]
    refine peek_sound.bind fun t => ?_
    split
    · exact advance_sound.bind fun _ => sound_pure _
    · refine (entryComma_sound _ _).bind fun _ => peek_sound.bind fun t => ?_
      split
      · refine (add_sound _ _).bind fun i => advance_sound.bind fun _ => ?_
        refine (flowPart_sound fuel _ _).bind fun k => (flowValue_sound fuel _).bind fun v => ?_
        refine (fill_sound _ _).bind fun _ => ?_
        exact (flowItems_sound fuel false).bind fun _ => sound_pure _
      · exact advance_sound.bind fun _ => sound_pure _
      · refine (node_sound fuel false false).bind fun i => ?_
        exact (flowItems_sound fuel false).bind fun _ => sound_pure _

theorem flowEntries_sound : ∀ (fuel : Nat) (first : Bool), Sound text (flowEntries fuel first)
  | 0, _ => sound_structural _
  | fuel + 1, first => by
    rw [flowEntries]
    refine peek_sound.bind fun t => ?_
    split
    · exact advance_sound.bind fun _ => sound_pure _
    · refine (entryComma_sound _ _).bind fun _ => peek_sound.bind fun t => ?_
      split
      · refine advance_sound.bind fun _ => ?_
        refine (flowPart_sound fuel _ _).bind fun k => (flowValue_sound fuel _).bind fun v => ?_
        exact (flowEntries_sound fuel false).bind fun _ => sound_pure _
      · exact advance_sound.bind fun _ => sound_pure _
      · refine (node_sound fuel false false).bind fun k => addEmpty_sound.bind fun v => ?_
        exact (flowEntries_sound fuel false).bind fun _ => sound_pure _

theorem flowPart_sound : ∀ (fuel : Nat) (stop : Token) (isKey : Bool),
    Sound text (flowPart fuel stop isKey)
  | 0, _, _ => sound_structural _
  | fuel + 1, stop, isKey => by
    rw [flowPart]
    exact peek_sound.bind fun t => .ite addEmpty_sound (node_sound fuel false false)

theorem flowValue_sound : ∀ (fuel : Nat) (stop : Token), Sound text (flowValue fuel stop)
  | 0, _ => sound_structural _
  | fuel + 1, stop => by
    rw [flowValue]
    refine peek_sound.bind fun t => ?_
    split
    · exact advance_sound.bind fun _ => flowPart_sound fuel stop false
    · exact addEmpty_sound

end

/-! ## Documents -/

theorem skipDocumentEnds_sound (fuel : Nat) : Sound text (skipDocumentEnds fuel) := by
  induction fuel with
  | zero => exact sound_pure _
  | succ fuel ih =>
    rw [skipDocumentEnds]
    refine peek_sound.bind fun t => ?_
    split
    · exact advance_sound.bind fun _ => ih
    · exact sound_pure _

theorem directives_sound (fuel : Nat) (version : Bool) (own : List (List Char × List Char)) :
    Sound text (directives fuel version own) := by
  induction fuel generalizing version own with
  | zero => exact sound_pure _
  | succ fuel ih =>
    rw [directives]
    refine peek_sound.bind fun t => ?_
    split
    · refine advance_sound.bind fun _ => ?_
      split
      · exact .ite (sound_structural _) (.ite (sound_structural _) (ih _ _))
      · exact .ite (sound_structural _) (ih _ _)
      · exact ih _ _
    · exact .modify fun _ h => h

theorem documentHead_sound (fuel : Nat) : Sound text (documentHead fuel) := by
  rw [documentHead]
  refine (skipDocumentEnds_sound fuel).bind fun _ => peek_sound.bind fun t => ?_
  split
  · exact sound_pure _
  · refine (directives_sound fuel _ _).bind fun _ => peek_sound.bind fun t => ?_
    split
    · exact advance_sound.bind fun _ => sound_pure _
    · exact sound_structural _

theorem documentContent_sound (fuel : Nat) : Sound text (documentContent fuel) := by
  rw [documentContent]
  refine peek_sound.bind fun t => ?_
  split
  · exact addEmpty_sound
  · exact addEmpty_sound
  · exact addEmpty_sound
  · exact addEmpty_sound
  · exact node_sound fuel true false

theorem bareDocument_sound (fuel : Nat) : Sound text (bareDocument fuel) := by
  rw [bareDocument]
  refine Sound.bind (.modify fun _ h => h) fun _ => ?_
  exact (node_sound fuel true false).bind fun _ => sound_pure _

theorem headedDocument_sound (fuel : Nat) : Sound text (headedDocument fuel) := by
  rw [headedDocument]
  refine (documentHead_sound fuel).bind fun headed => ?_
  split
  · exact (documentContent_sound fuel).bind fun _ => sound_pure _
  · exact sound_pure _

theorem document_sound (fuel : Nat) : Sound text (document fuel) := by
  have hend (root : Option Nat) : Sound text (do
      if root.isSome then
        let another ← documentHead fuel
        if another then throw (.node .secondDocument)
      return root) := by
    split
    · refine (documentHead_sound fuel).bind fun another => ?_
      split
      · exact sound_node _
      · exact sound_pure _
    · exact sound_pure _
  rw [document]
  refine peek_sound.bind fun t => ?_
  exact .ite ((bareDocument_sound fuel).bind hend) ((headedDocument_sound fuel).bind hend)

end Reading

/-- Where the structure of a document fails by a fault of a scalar, the text accounts for it. -/
theorem Graph.misread_of_ofText {f : ScalarFault} (h : ofText text = .error (.scalar f)) :
    Misread text f := by
  have hstart : Reader.IsOf text ⟨Tokens.ofText text, #[], [], Reading.standardHandles⟩ :=
    fun _ h => Tokens.fault_of_ofText h
  have hsound := Reading.document_sound (4 * (Tokens.ofText text).tokens.length + 8) _ hstart
  rw [ofText] at h
  split at h
  · cases h
  · dsimp only at h
    split at h
    · rename_i herror
      cases h
      exact hsound.of_eq_error herror f rfl
    · cases h
    · cases h

end Yaml
end RegistryAuth
