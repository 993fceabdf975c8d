import RegistryAuth.Proofs.Except
import RegistryAuth.Yaml.Value

/-!
# What can be wrong with the values of a document

The nodes change while values are made, since mappings take entries in, but no scalar changes
its text, and no node becomes one of another type with values of its own (`Node.Follows`).  So a
fault of a scalar comes from a node of the graph whose type cannot be read from its text
(`Graph.Refused`, `Document.refused_of_ofGraph`).
-/

namespace RegistryAuth
namespace Yaml

variable {g : Graph} {α β : Type} {i : Nat}

/-! ## Texts that a type refuses -/

/-- The text does not write a value of the type. -/
inductive Tag.Refuses : Tag → List Char → ScalarFault → Prop
  | flag {text f} (h : Scalar.flag text = .error (.scalar f)) : Refuses .bool text f
  | int {text f} (h : Scalar.int text = .error (.scalar f)) : Refuses .int text f
  | float {text f} (h : Scalar.float text = .error (.scalar f)) : Refuses .float text f
  | moment {text f} (h : Scalar.moment text = .error (.scalar f)) : Refuses .timestamp text f

/-- The node is a scalar. -/
def Node.IsScalar (n : Node) : Prop := ∃ text, n.content = .scalar text

/-- The node at a position. -/
def Graph.node (g : Graph) (i : Nat) : Node := (g.nodes[i]?).getD ⟨.other, .scalar []⟩

/-- The node has the text; if it is no scalar, another node has it in its place. -/
inductive Graph.Holds (g : Graph) (i : Nat) (text : List Char) : Prop
  | own (h : (g.node i).content = .scalar text)
  | other {j : Nat} (hi : ¬(g.node i).IsScalar) (h : (g.node j).content = .scalar text)

/-- A node of the graph is of a type that its text does not write, or is a time and no
scalar. -/
inductive Graph.Refused (g : Graph) : ScalarFault → Prop
  | text {i : Nat} {text : List Char} {f : ScalarFault} (h : g.Holds i text)
      (hf : (g.node i).tag.Refuses text f) : Refused g f
  | moment {i : Nat} (htag : (g.node i).tag = .timestamp) (h : ¬(g.node i).IsScalar) :
      Refused g .momentOfMapping

/-- If the fault is one of a scalar, the graph accounts for it. -/
def Fault.IsOfGraph (g : Graph) (f : Fault) : Prop := ∀ s, f = .scalar s → g.Refused s

/-! ## Nodes that change -/

/-- What a node may become: the mark of a value may become a text, and a collection another
one. -/
structure Node.Follows (n n' : Node) : Prop where
  tag : n'.tag = n.tag ∨ n'.tag = .str
  content : ∀ text, n'.content = .scalar text ↔ n.content = .scalar text

theorem Node.Follows.refl (n : Node) : n.Follows n := ⟨.inl rfl, fun _ => .rfl⟩

theorem Node.Follows.isScalar_iff {n n' : Node} (h : n.Follows n') : n'.IsScalar ↔ n.IsScalar :=
  exists_congr h.content

/-- Every node has become what it may become. -/
def Maker.IsOf (g : Graph) (m : Maker) : Prop :=
  ∀ i, (g.node i).Follows ((m.nodes[i]?).getD ⟨.other, .scalar []⟩)

namespace Making

/-- An action keeps to what nodes may become, and the graph accounts for its faults. -/
abbrev Sound (g : Graph) (P : α → Prop) (act : Making α) : Prop :=
  Except.Maintains (Maker.IsOf g) P (Fault.IsOfGraph g) act

/-- As `Sound`, whatever the action gives. -/
abbrev Safe (g : Graph) (act : Making α) : Prop := Sound g (fun _ => True) act

theorem safe_pure (a : α) : Safe g (pure a) := .pure trivial

theorem Safe.bind {act : Making α} {f : α → Making β} (h : Safe g act)
    (hf : ∀ a, Safe g (f a)) : Safe g (act >>= f) :=
  Except.Maintains.bind h fun a _ => hf a

theorem sound_refuse {P : α → Prop} (f : ValueFault) : Sound g P (refuseValue f) := .throw nofun

theorem node_sound (i : Nat) : Sound g (fun n => (g.node i).Follows n) (node i) :=
  Except.Maintains.bind .get fun _ hm => .pure (hm i)

theorem setNode_safe {n : Node} (h : (g.node i).Follows n) : Safe g (setNode i n) := by
  refine .modify fun m hm j => ?_
  rw [Array.getElem?_modify]
  split
  · rename_i hij
    subst hij
    have hi := hm i
    cases hnode : m.nodes[i]? with
    | none =>
      rw [hnode] at hi
      exact hi
    | some n' => exact h
  · exact hm j

/-! ## Scalars -/

theorem markedValue?_safe (entries : List (Nat × Nat)) : Safe g (markedValue? entries) := by
  induction entries with
  | nil => exact safe_pure _
  | cons e entries ih =>
    rw [markedValue?]
    refine Except.Maintains.bind (node_sound e.1) fun n _ => ?_
    exact .ite (safe_pure _) ih

theorem scalarText_sound (fuel i : Nat) : Sound g (g.Holds i) (scalarText fuel i) := by
  induction fuel generalizing i with
  | zero => exact sound_refuse _
  | succ fuel ih =>
    rw [scalarText]
    refine Except.Maintains.bind (node_sound i) fun n hn => ?_
    split
    · rename_i text htext
      exact .pure (.own ((hn.content text).mp htext))
    · exact sound_refuse _
    · rename_i entries hentries
      have hi : ¬(g.node i).IsScalar := by
        rw [← hn.isScalar_iff]
        rintro ⟨text, htext⟩
        exact nomatch hentries.symm.trans htext
      refine Except.Maintains.bind (markedValue?_safe entries) fun v _ => ?_
      split
      · rename_i v
        intro m hm
        refine (ih v m hm).mono (fun x hx => ⟨?_, hx.2⟩) fun _ h => h
        rcases hx.1 with h | ⟨-, h⟩
        · exact .other hi h
        · exact .other hi h
      · exact sound_refuse _

theorem readScalar_safe {read : List Char → Except Fault α}
    (h : ∀ text, g.Holds i text → Except.Ensures (fun _ => True) (Fault.IsOfGraph g) (read text)) :
    Safe g (readScalar i read) := by
  refine Except.Maintains.bind .get fun m _ => ?_
  refine Except.Maintains.bind (scalarText_sound _ i) fun text htext => ?_
  have hread := h text htext
  split
  · exact safe_pure _
  · rename_i f hf
    exact .throw (hread.of_eq_error hf)

/-- A fault of a scalar that its own reader finds is a refusal of the type. -/
theorem readScalar_safe_of_refuses {read : List Char → Except Fault α}
    (h : ∀ text f, read text = .error (.scalar f) → (g.node i).tag.Refuses text f) :
    Safe g (readScalar i read) := by
  refine readScalar_safe fun text htext => ?_
  cases hread : read text with
  | ok a => trivial
  | error f =>
    rintro s rfl
    exact .text htext (h text s hread)

theorem binary_ne_scalar (text : List Char) (f : ScalarFault) :
    Scalar.binary text ≠ .error (.scalar f) := by
  rw [Scalar.binary]
  split
  · nofun
  · split
    · nofun
    · nofun

/-! ## Values -/

theorem postpone_safe (i : Nat) (v : Value) : Safe g (postpone i v) :=
  Safe.bind (.modify fun _ h => h) fun _ => safe_pure v

theorem make_safe (i : Nat) : Safe g (make i) := by
  rw [make]
  refine Except.Maintains.bind (node_sound i) fun n hn => ?_
  have htag {t : Tag} (ht : n.tag = t) (hstr : t ≠ .str) : (g.node i).tag = t := by
    rcases hn.tag with h | h
    · exact h ▸ ht
    · exact absurd (ht ▸ h) hstr
  split
  · exact readScalar_safe_of_refuses nofun
  · rename_i ht
    exact readScalar_safe_of_refuses fun text f h => htag ht nofun ▸ .flag (Except.map_eq_error h)
  · rename_i ht
    exact readScalar_safe_of_refuses fun text f h => htag ht nofun ▸ .int (Except.map_eq_error h)
  · rename_i ht
    exact readScalar_safe_of_refuses fun text f h => htag ht nofun ▸ .float (Except.map_eq_error h)
  · exact readScalar_safe_of_refuses fun text f h =>
      absurd (Except.map_eq_error h) (binary_ne_scalar _ _)
  · exact readScalar_safe_of_refuses nofun
  · rename_i ht
    have htime := htag ht nofun
    split
    · exact readScalar_safe_of_refuses fun text f h => htime ▸ .moment (Except.map_eq_error h)
    · rename_i hcontent
      refine readScalar_safe fun text _ => ?_
      rintro s ⟨⟩
      refine .moment htime ?_
      rw [← hn.isScalar_iff]
      rintro ⟨text, htext⟩
      exact hcontent text htext
  · exact postpone_safe _ _
  · exact postpone_safe _ _
  · exact postpone_safe _ _
  · exact postpone_safe _ _
  · exact postpone_safe _ _
  · exact sound_refuse _
  · exact sound_refuse _
  · exact sound_refuse _

theorem value_safe (i : Nat) : Safe g (value i) := by
  rw [value]
  refine Except.Maintains.bind .get fun m _ => ?_
  split
  · exact safe_pure _
  · exact (make_safe i).bind fun v => Safe.bind (.modify fun _ h => h) fun _ => safe_pure v

/-! ## Entries -/

/-- What has entries is no scalar. -/
theorem entriesOf_sound (i : Nat) :
    Sound g (fun es => es.isSome → ¬(g.node i).IsScalar) (entriesOf i) := by
  rw [entriesOf]
  refine Except.Maintains.bind (node_sound i) fun n hn => ?_
  split
  · rename_i entries hentries
    refine .pure fun _ => ?_
    rw [← hn.isScalar_iff]
    rintro ⟨text, htext⟩
    exact nomatch hentries.symm.trans htext
  · exact .pure nofun

theorem setEntries_safe (hi : ¬(g.node i).IsScalar) (entries : List (Nat × Nat)) :
    Safe g (setEntries i entries) := by
  refine Except.Maintains.bind (node_sound i) fun n hn => setNode_safe ⟨hn.tag, fun text => ?_⟩
  exact ⟨nofun, fun h => absurd ⟨text, h⟩ hi⟩

theorem nextMerge_safe (at' : Nat) (entries : List (Nat × Nat)) :
    Safe g (nextMerge at' entries) := by
  induction entries generalizing at' with
  | nil => exact safe_pure _
  | cons e entries ih =>
    rw [nextMerge]
    refine Except.Maintains.bind (node_sound e.1) fun key hkey => ?_
    have hstr : (g.node e.1).Follows { key with tag := .str } := ⟨.inr rfl, hkey.content⟩
    refine .ite (safe_pure _) ?_
    exact .ite ((setNode_safe hstr).bind fun _ => ih _) (ih _)

variable {flat : Nat → Making Unit}

theorem mergeSources_safe (hflat : ∀ i, Safe g (flat i)) (items : List Nat) :
    Safe g (mergeSources flat items) := by
  induction items with
  | nil => exact safe_pure _
  | cons i rest ih =>
    rw [mergeSources]
    refine Except.Maintains.bind (entriesOf_sound i) fun es _ => ?_
    refine .ite (sound_refuse _) ?_
    refine (hflat i).bind fun _ => ?_
    refine Except.Maintains.bind (entriesOf_sound i) fun es _ => ?_
    exact ih.bind fun _ => safe_pure _

theorem entriesFrom_safe (hflat : ∀ i, Safe g (flat i)) (v : Nat) :
    Safe g (entriesFrom flat v) := by
  rw [entriesFrom]
  refine Except.Maintains.bind (node_sound v) fun n _ => ?_
  split
  · refine (hflat v).bind fun _ => ?_
    exact Except.Maintains.bind (entriesOf_sound v) fun es _ => safe_pure _
  · exact (mergeSources_safe hflat _).bind fun _ => safe_pure _
  · exact sound_refuse _

/-- Entries are merged in only where there are entries. -/
theorem flatten_safe (merges i at' : Nat) (merged : List (Nat × Nat))
    (hmerged : merged ≠ [] → ¬(g.node i).IsScalar) : Safe g (flatten merges i at' merged) := by
  induction merges using Nat.strongRecOn generalizing i at' merged with
  | ind merges ih =>
    have hend (entries : List (Nat × Nat)) :
        Safe g (if merged.isEmpty then return else setEntries i (merged ++ entries)) := by
      split
      · exact safe_pure _
      · rename_i hempty
        exact setEntries_safe (hmerged (by simpa using hempty)) _
    rw [flatten.eq_def]
    refine Except.Maintains.bind (entriesOf_sound i) fun es hes => ?_
    cases es with
    | none =>
      -- what has no entries is left as it is
      simp only [Option.getD_none, List.drop_nil, nextMerge, pure_bind]
      exact hend _
    | some entries =>
      have hi : ¬(g.node i).IsScalar := hes rfl
      refine (nextMerge_safe at' _).bind fun next => ?_
      cases next with
      | none => exact hend _
      | some next =>
        cases merges with
        | zero => exact sound_refuse _
        | succ merges =>
          have hflat : ∀ j, Safe g (flatten merges j 0 []) := fun j =>
            ih merges (Nat.lt_succ_self _) j 0 [] nofun
          refine (setEntries_safe hi _).bind fun _ => (entriesFrom_safe hflat _).bind fun more => ?_
          exact ih merges (Nat.lt_succ_self _) i _ _ fun _ => hi

theorem makeEntries_safe (entries : List (Nat × Nat)) : Safe g (makeEntries entries) := by
  induction entries with
  | nil => exact safe_pure _
  | cons e entries ih =>
    rw [makeEntries]
    refine (value_safe e.1).bind fun key => .ite (sound_refuse _) ?_
    exact (value_safe e.2).bind fun val => ih.bind fun _ => safe_pure _

theorem mappingEntries_safe (i : Nat) : Safe g (mappingEntries i) := by
  rw [mappingEntries]
  refine Except.Maintains.bind (entriesOf_sound i) fun es _ => .ite (sound_refuse _) ?_
  refine Except.Maintains.bind .get fun m _ => ?_
  refine (flatten_safe _ i 0 [] nofun).bind fun _ => ?_
  exact Except.Maintains.bind (entriesOf_sound i) fun es _ => makeEntries_safe _

/-! ## Members -/

theorem itemsOf_safe (i : Nat) : Safe g (itemsOf i) := by
  rw [itemsOf]
  refine Except.Maintains.bind (node_sound i) fun n _ => ?_
  split
  · exact safe_pure _
  · exact sound_refuse _

theorem makePair_safe (i : Nat) : Safe g (makePair i) := by
  rw [makePair]
  refine Except.Maintains.bind (entriesOf_sound i) fun es _ => ?_
  split
  · exact (value_safe _).bind fun _ => (value_safe _).bind fun _ => safe_pure _
  · exact sound_refuse _
  · exact sound_refuse _

/-- Doing something safe for each of some nodes is safe. -/
theorem forIn_safe {act : Nat → Making α} (h : ∀ i, Safe g (act i)) (items : List Nat) :
    Safe g (do
      for item in items do
        let _ ← act item) := by
  refine Safe.bind (f := fun _ => pure ()) ?_ fun _ => safe_pure ()
  induction items with
  | nil => exact safe_pure _
  | cons item items ih =>
    rw [List.forIn_cons]
    refine Except.Maintains.bind (P := fun r => r = .yield ⟨⟩)
      (Except.Maintains.bind (h item) fun _ _ => .pure rfl) ?_
    rintro _ rfl
    exact ih

theorem makeMembers_safe (i : Nat) : Safe g (makeMembers i) := by
  rw [makeMembers]
  refine Except.Maintains.bind (node_sound i) fun n _ => ?_
  split
  · exact (itemsOf_safe i).bind fun items => forIn_safe value_safe items
  · exact (itemsOf_safe i).bind fun items => forIn_safe makePair_safe items
  · exact (itemsOf_safe i).bind fun items => forIn_safe makePair_safe items
  · exact (mappingEntries_safe i).bind fun _ => .modify fun _ h => h
  · exact (mappingEntries_safe i).bind fun _ => safe_pure _
  · exact safe_pure _

theorem makeAll_safe (fuel : Nat) : Safe g (makeAll fuel) := by
  induction fuel with
  | zero => exact safe_pure _
  | succ fuel ih =>
    rw [makeAll]
    refine Except.Maintains.bind .get fun m _ => ?_
    split
    · exact safe_pure _
    · refine Safe.bind (.modify fun _ h => h) fun _ => ?_
      exact (makeMembers_safe _).bind fun _ => ih

end Making

/-- Where the values of a graph cannot be made because of a scalar, the graph accounts for it. -/
theorem Document.refused_of_ofGraph {f : ScalarFault} (h : ofGraph g = .error (.scalar f)) :
    g.Refused f := by
  have hsafe : Making.Safe g (do
      let root ← Making.value g.root
      Making.makeAll (g.nodes.size + 1)
      return root) :=
    (Making.value_safe g.root).bind fun root =>
      (Making.makeAll_safe _).bind fun _ => Making.safe_pure root
  have hrun := hsafe ⟨g.nodes, .replicate g.nodes.size none, .replicate g.nodes.size [], []⟩
    fun _ => .refl _
  rw [ofGraph] at h
  split at h
  · rename_i herror
    cases h
    exact hrun.of_eq_error herror f rfl
  · cases h

end Yaml
end RegistryAuth
