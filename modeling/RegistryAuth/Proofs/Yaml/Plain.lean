import Mathlib.Data.List.Perm.Subperm
import Mathlib.Logic.Relation
import RegistryAuth.Proofs.Yaml.Making

/-!
# Documents of plain values

In a document whose nodes have the types of their forms, and whose keys are scalars that merge
nothing in, nothing but a scalar can be at fault.  So its values can be made exactly if every
scalar that is part of it writes a value of its type (`Document.ofGraph_of_isPlain`).

## Why the members are said apart

Values are made in the order of breadth, and a collection has its value before its members have
theirs.  `Making.Progress` holds at any time.  That the members of the collections that were taken
up have values does not hold while those of one of them are made, so it is said of the whole walk
alone (`Making.makeAll_progress`).
-/

namespace RegistryAuth
namespace Yaml

variable {g : Graph} {i j : Nat} {m : Maker} {seen : List Nat}

/-! ## Plain documents -/

/-- The type is one of scalars, and every text that it does not refuse has a value. -/
inductive Tag.IsPlain : Tag → Prop
  | null : IsPlain .null
  | bool : IsPlain .bool
  | int : IsPlain .int
  | float : IsPlain .float
  | str : IsPlain .str
  | timestamp : IsPlain .timestamp

/-- The node has the type of its form, and its members are nodes of the graph.  The keys of a
mapping are scalars. -/
inductive Node.IsPlain (g : Graph) : Node → Prop
  | scalar {tag : Tag} {text : List Char} (plain : tag.IsPlain) : IsPlain g ⟨tag, .scalar text⟩
  | sequence {items : List Nat} (inside : ∀ i ∈ items, i < g.nodes.size) :
      IsPlain g ⟨.seq, .sequence items⟩
  | mapping {entries : List (Nat × Nat)} (keys : ∀ e ∈ entries, (g.node e.1).IsScalar)
      (inside : ∀ e ∈ entries, e.1 < g.nodes.size ∧ e.2 < g.nodes.size) :
      IsPlain g ⟨.map, .mapping entries⟩

/-- All nodes of the graph are plain. -/
structure Graph.IsPlain (g : Graph) : Prop where
  root_lt : g.root < g.nodes.size
  node : ∀ i < g.nodes.size, (g.node i).IsPlain g

/-- The members of a node. -/
def Node.members (n : Node) : List Nat :=
  match n.content with
  | .scalar _ => []
  | .sequence items => items
  | .mapping entries => entries.flatMap fun e => [e.1, e.2]

/-- The node is part of the document. -/
def Graph.Reaches (g : Graph) : Nat → Prop :=
  Relation.ReflTransGen (fun i j => j ∈ (g.node i).members) g.root

/-- The node is a scalar whose text its type refuses. -/
def Node.Refuses (n : Node) (f : ScalarFault) : Prop :=
  ∃ text, n.content = .scalar text ∧ n.tag.Refuses text f

/-- A scalar that is part of the document accounts for the fault. -/
def Fault.IsReached (g : Graph) (e : Fault) : Prop :=
  ∃ i f, e = .scalar f ∧ g.Reaches i ∧ (g.node i).Refuses f

theorem Graph.IsPlain.inside (h : g.IsPlain) (hi : i < g.nodes.size) :
    ∀ j ∈ (g.node i).members, j < g.nodes.size := by
  intro j hj
  rw [Node.members] at hj
  cases hn : g.node i with
  | mk tag content =>
    have hplain := h.node i hi
    rw [hn] at hplain hj
    cases hplain with
    | scalar => cases hj
    | sequence inside => exact inside j hj
    | mapping _ inside =>
      obtain ⟨e, he, hj⟩ := List.mem_flatMap.mp hj
      rcases List.mem_pair.mp hj with rfl | rfl
      · exact (inside e he).1
      · exact (inside e he).2

theorem Graph.IsPlain.lt_of_reaches (h : g.IsPlain) (hi : g.Reaches i) : i < g.nodes.size := by
  induction hi with
  | refl => exact h.root_lt
  | tail _ hj ih => exact h.inside ih _ hj

theorem Graph.IsPlain.of_reaches (h : g.IsPlain) (hi : g.Reaches i) : (g.node i).IsPlain g :=
  h.node i (h.lt_of_reaches hi)

/-- No plain node merges something in, and none is the mark of a value. -/
theorem Node.IsPlain.tag_ne {n : Node} (h : n.IsPlain g) : n.tag ≠ .merge ∧ n.tag ≠ .value := by
  cases h with
  | scalar plain => cases plain <;> exact ⟨nofun, nofun⟩
  | sequence => exact ⟨nofun, nofun⟩
  | mapping => exact ⟨nofun, nofun⟩

/-! ## Scalars -/

theorem Tag.refuses_bool {text : List Char} {f : ScalarFault} :
    Tag.Refuses .bool text f ↔ Scalar.flag text = .error (.scalar f) := by
  refine ⟨fun h => ?_, .flag⟩
  cases h with
  | flag h => exact h

theorem Tag.refuses_int {text : List Char} {f : ScalarFault} :
    Tag.Refuses .int text f ↔ Scalar.int text = .error (.scalar f) := by
  refine ⟨fun h => ?_, .int⟩
  cases h with
  | int h => exact h

theorem Tag.refuses_float {text : List Char} {f : ScalarFault} :
    Tag.Refuses .float text f ↔ Scalar.float text = .error (.scalar f) := by
  refine ⟨fun h => ?_, .float⟩
  cases h with
  | float h => exact h

theorem Tag.refuses_timestamp {text : List Char} {f : ScalarFault} :
    Tag.Refuses .timestamp text f ↔ Scalar.moment text = .error (.scalar f) := by
  refine ⟨fun h => ?_, .moment⟩
  cases h with
  | moment h => exact h

namespace Scalar

/-- What is read has no other faults than those of scalars. -/
abbrev OnlyScalar {α : Type} (r : Except Fault α) : Prop :=
  Except.Ensures (fun _ => True) (fun e => ∃ f, e = .scalar f) r

theorem onlyScalar_flag (cs : List Char) : OnlyScalar (flag cs) := by
  rw [flag]
  exact .ite trivial (.ite trivial ⟨_, rfl⟩)

theorem onlyScalar_mapError {ε α : Type} {x : Except ε α} {words : ε → ScalarFault} :
    OnlyScalar (x.mapError fun e => .scalar (words e)) := by
  cases x with
  | error e => exact ⟨_, rfl⟩
  | ok a => trivial

theorem onlyScalar_mapM {α β : Type} {f : α → Except Fault β} (h : ∀ a, OnlyScalar (f a))
    (as : List α) : OnlyScalar (as.mapM f) := by
  induction as with
  | nil => trivial
  | cons a as ih =>
    rw [List.mapM_cons]
    exact (h a).bind fun b _ => ih.bind fun bs _ => trivial

theorem onlyScalar_bind_pure {α β : Type} {r : Except Fault α} (h : OnlyScalar r) (f : α → β) :
    OnlyScalar (r >>= fun a => pure (f a)) :=
  h.bind fun _ _ => trivial

theorem onlyScalar_int (cs : List Char) : OnlyScalar (int cs) := by
  rw [int]
  split
  · dsimp only
    split
    · exact ⟨_, rfl⟩
    · trivial
    · exact onlyScalar_bind_pure onlyScalar_mapError _
    · exact onlyScalar_bind_pure onlyScalar_mapError _
    · exact onlyScalar_bind_pure onlyScalar_mapError _
    · refine .ite ?_ (onlyScalar_bind_pure onlyScalar_mapError _)
      exact (onlyScalar_mapM (fun _ => onlyScalar_mapError) _).bind fun _ _ => trivial
  · exact ⟨_, rfl⟩

theorem onlyScalar_sumSixties (ds : List Double) (base : Nat) (sum : Double) :
    OnlyScalar (sumSixties ds base sum) := by
  induction ds generalizing base sum with
  | nil => trivial
  | cons d ds ih =>
    rw [sumSixties]
    split
    · exact ⟨_, rfl⟩
    · exact ih _ _

theorem onlyScalar_float (cs : List Char) : OnlyScalar (float cs) := by
  rw [float]
  split
  · dsimp only
    refine .ite trivial (.ite trivial (.ite ?_ (onlyScalar_bind_pure onlyScalar_mapError _)))
    exact (onlyScalar_mapM (fun _ => onlyScalar_mapError) _).bind fun _ _ =>
      onlyScalar_bind_pure (onlyScalar_sumSixties _ _ _) _
  · exact ⟨_, rfl⟩

theorem onlyScalar_moment (cs : List Char) : OnlyScalar (moment cs) := by
  rw [moment]
  split
  · exact ⟨_, rfl⟩
  · exact onlyScalar_mapError

end Scalar

namespace Making

/-! ## Runs on a plain document -/

/-- The value of a node, if it has one. -/
def value? (m : Maker) (i : Nat) : Option Value := (m.values[i]?).join

/-- What holds at any time, where the nodes in `seen` are those that were taken up: the nodes are
those of the document, those with a value are part of it and are not refused, and the collections
among them have been taken up or wait, each of them once. -/
structure Progress (g : Graph) (seen : List Nat) (m : Maker) : Prop where
  nodes : m.nodes = g.nodes
  size : m.values.size = g.nodes.size
  reached : ∀ i, (value? m i).isSome → g.Reaches i
  readable : ∀ i, (value? m i).isSome → ∀ f, ¬(g.node i).Refuses f
  hashable : ∀ i v, value? m i = some v → (g.node i).IsScalar → v.isHashable = true
  listed : ∀ i, i ∈ seen ++ m.waiting ↔ (value? m i).isSome ∧ ¬(g.node i).IsScalar
  nodup : (seen ++ m.waiting).Nodup

/-- Nodes that have a value keep having one. -/
def Grows (m m' : Maker) : Prop := ∀ i, (value? m i).isSome → (value? m' i).isSome

theorem Grows.refl (m : Maker) : Grows m m := fun _ h => h

theorem Grows.trans {m m' m'' : Maker} (h : Grows m m') (h' : Grows m' m'') : Grows m m'' :=
  fun i hi => h' i (h i hi)

/-- The action goes on with the values, and comes to what the condition says; it fails only
because of a scalar that is part of the document. -/
def Advances {α : Type} (g : Graph) (seen : List Nat) (m : Maker) (P : α → Maker → Prop)
    (act : Making α) : Prop :=
  Except.Ensures (fun x => Progress g seen x.2 ∧ Grows m x.2 ∧ P x.1 x.2) (Fault.IsReached g)
    (act.run m)

variable {α β : Type} {P : α → Maker → Prop} {Q : β → Maker → Prop} {act : Making α}

theorem Advances.bind {f : α → Making β} (h : Advances g seen m P act)
    (hf : ∀ a m', Progress g seen m' → Grows m m' → P a m' → Advances g seen m' Q (f a)) :
    Advances g seen m Q (act >>= f) := by
  rw [Advances, StateT.run_bind]
  refine Except.Ensures.bind h fun x hx => ?_
  obtain ⟨hprogress, hgrows, hx⟩ := hx
  refine (hf x.1 x.2 hprogress hgrows hx).mono (fun y hy => ?_) fun _ he => he
  exact ⟨hy.1, hgrows.trans hy.2.1, hy.2.2⟩

theorem Advances.pure {a : α} (h : Progress g seen m) (hP : P a m) :
    Advances g seen m P (pure a) := ⟨h, .refl m, hP⟩

theorem Progress.run_node (h : Progress g seen m) (i : Nat) :
    (node i).run m = .ok (g.node i, m) := by
  rw [Graph.node, ← h.nodes]
  rfl

/-! ### Scalars -/

theorem run_readScalar {text : List Char} {read : List Char → Except Fault α}
    (h : Progress g seen m) (ht : (g.node i).content = .scalar text) :
    (readScalar i read).run m = (read text).map fun a => (a, m) := by
  have htext : (scalarText (m.nodes.size + 1) i).run m = .ok (text, m) := by
    rw [scalarText, Except.run_bind_of_ok (h.run_node i), ht]
    rfl
  have hget : (get : Making Maker).run m = .ok (m, m) := rfl
  rw [readScalar, Except.run_bind_of_ok hget, Except.run_bind_of_ok htext]
  cases read text <;> rfl

/-- A reader of scalars gives a value that may be a key, or it refuses the text. -/
theorem ensures_read {tag : Tag} {text : List Char} {r : Except Fault α} {wrap : α → Value}
    (honly : Scalar.OnlyScalar r) (hwrap : ∀ a, (wrap a).isHashable = true)
    (hrefuses : ∀ f, tag.Refuses text f ↔ r = .error (.scalar f)) :
    Except.Ensures (fun x => x.2 = m ∧ x.1.isHashable = true ∧ ∀ f, ¬tag.Refuses text f)
      (fun e => ∃ f, e = .scalar f ∧ tag.Refuses text f)
      ((r.map wrap).map fun v => (v, m)) := by
  cases r with
  | ok a => exact ⟨rfl, hwrap a, fun f h => nomatch (hrefuses f).mp h⟩
  | error e =>
    obtain ⟨f, rfl⟩ := honly
    exact ⟨f, rfl, (hrefuses f).mpr rfl⟩

theorem make_scalar {tag : Tag} {text : List Char} (h : Progress g seen m)
    (hn : g.node i = ⟨tag, .scalar text⟩) (plain : tag.IsPlain) :
    Except.Ensures (fun x => x.2 = m ∧ x.1.isHashable = true ∧ ∀ f, ¬tag.Refuses text f)
      (fun e => ∃ f, e = .scalar f ∧ tag.Refuses text f) ((make i).run m) := by
  have ht : (g.node i).content = .scalar text := by rw [hn]
  rw [make, Except.run_bind_of_ok (h.run_node i), hn]
  cases plain with
  | null =>
    rw [run_readScalar h ht]
    exact ⟨rfl, rfl, fun f hf => by cases hf⟩
  | str =>
    rw [run_readScalar h ht]
    exact ⟨rfl, rfl, fun f hf => by cases hf⟩
  | bool =>
    rw [run_readScalar h ht]
    exact ensures_read (Scalar.onlyScalar_flag text) (fun _ => rfl) fun _ => Tag.refuses_bool
  | int =>
    rw [run_readScalar h ht]
    exact ensures_read (Scalar.onlyScalar_int text) (fun _ => rfl) fun _ => Tag.refuses_int
  | float =>
    rw [run_readScalar h ht]
    exact ensures_read (Scalar.onlyScalar_float text) (fun _ => rfl) fun _ => Tag.refuses_float
  | timestamp =>
    dsimp only
    rw [run_readScalar h ht]
    exact ensures_read (Scalar.onlyScalar_moment text) (fun _ => rfl)
      fun _ => Tag.refuses_timestamp

/-! ### Values -/

/-- The node gets a value. -/
def give (m : Maker) (i : Nat) (v : Value) : Maker :=
  { m with values := m.values.modify i fun _ => some v }

theorem value?_give (hi : i < m.values.size) (v : Value) (j : Nat) :
    value? (give m i v) j = if j = i then some v else value? m j := by
  rw [value?, give, Array.getElem?_modify]
  by_cases hij : j = i
  · subst hij
    rw [if_pos rfl, if_pos rfl, Array.getElem?_eq_getElem hi]
    rfl
  · rw [if_neg (Ne.symm hij), if_neg hij, value?]

theorem grows_give (hi : i < m.values.size) (v : Value) : Grows m (give m i v) := by
  intro j hj
  rw [value?_give hi]
  split
  · rfl
  · exact hj

theorem isSome_give_iff (hi : i < m.values.size) (v : Value) (j : Nat) :
    (value? (give m i v) j).isSome ↔ j = i ∨ (value? m j).isSome := by
  rw [value?_give hi]
  split
  · next hij => simp [hij]
  · next hij => simp [hij]

theorem Progress.give_scalar (h : Progress g seen m) (hlt : i < g.nodes.size) (hi : g.Reaches i)
    (hscalar : (g.node i).IsScalar) (hread : ∀ f, ¬(g.node i).Refuses f) {v : Value}
    (hv : v.isHashable = true) : Progress g seen (give m i v) := by
  have hsize : i < m.values.size := h.size ▸ hlt
  refine ⟨h.nodes, by rw [give, Array.size_modify, h.size], fun j hj => ?_, fun j hj => ?_,
    fun j w hw hj => ?_, fun j => ?_, h.nodup⟩
  · rcases (isSome_give_iff hsize v j).mp hj with rfl | hj
    · exact hi
    · exact h.reached j hj
  · rcases (isSome_give_iff hsize v j).mp hj with rfl | hj
    · exact hread
    · exact h.readable j hj
  · rw [value?_give hsize] at hw
    split at hw
    · rw [← Option.some.inj hw, hv]
    · exact h.hashable j w hw hj
  · rw [isSome_give_iff hsize]
    refine (h.listed j).trans (and_congr_left fun hnot => ?_)
    exact (or_iff_right (mt (fun hij : j = i => hij ▸ hscalar) hnot)).symm

theorem Progress.give_collection (h : Progress g seen m) (hlt : i < g.nodes.size)
    (hi : g.Reaches i) (hnot : ¬(g.node i).IsScalar) (hnone : value? m i = none) (v : Value) :
    Progress g seen (give { m with waiting := m.waiting ++ [i] } i v) := by
  have hsize : i < m.values.size := h.size ▸ hlt
  have hsome : ∀ j, (value? (give { m with waiting := m.waiting ++ [i] } i v) j).isSome ↔
      j = i ∨ (value? m j).isSome := isSome_give_iff hsize v
  have hfresh : i ∉ seen ++ m.waiting := by
    rw [h.listed, hnone]
    exact fun hi => Bool.false_ne_true hi.1
  refine ⟨h.nodes, by rw [give, Array.size_modify, h.size], fun j hj => ?_, fun j hj f hf => ?_,
    fun j w hw hj => ?_, fun j => ?_, ?_⟩
  · rcases (hsome j).mp hj with rfl | hj
    · exact hi
    · exact h.reached j hj
  · rcases (hsome j).mp hj with rfl | hj
    · exact hnot ⟨_, hf.choose_spec.1⟩
    · exact h.readable j hj f hf
  · have hgive := (value?_give hsize v j).symm.trans hw
    split at hgive
    · next hij => exact absurd (hij ▸ hj) hnot
    · exact h.hashable j w hgive hj
  · rw [hsome, give, ← List.append_assoc, List.mem_append, List.mem_singleton, h.listed]
    constructor
    · rintro (⟨hj, hjnot⟩ | rfl)
      · exact ⟨.inr hj, hjnot⟩
      · exact ⟨.inl rfl, hnot⟩
    · rintro ⟨rfl | hj, hjnot⟩
      · exact .inr rfl
      · exact .inl ⟨hj, hjnot⟩
  · rw [give, ← List.append_assoc]
    refine List.nodup_append.mpr ⟨h.nodup, List.pairwise_singleton _ i, ?_⟩
    rintro j hj _ hij rfl
    exact hfresh (List.mem_singleton.mp hij ▸ hj)

theorem run_value (m : Maker) (i : Nat) :
    (value i).run m =
      (match value? m i with
        | some v => (Pure.pure v : Making Value)
        | none => do
          let v ← make i
          modify fun m => give m i v
          return v).run m := rfl

theorem run_make_collection {v : Value} (h : Progress g seen m)
    (htag : (g.node i).tag = .seq ∧ v = .list ∨ (g.node i).tag = .map ∧ v = .mapping i) :
    (make i).run m = .ok (v, { m with waiting := m.waiting ++ [i] }) := by
  rw [make, Except.run_bind_of_ok (h.run_node i)]
  rcases htag with ⟨htag, rfl⟩ | ⟨htag, rfl⟩
  · rw [htag]
    rfl
  · rw [htag]
    rfl

/-- The value of a node that is part of the document is at hand, or it is made. -/
theorem value_advances (hg : g.IsPlain) (h : Progress g seen m) (hi : g.Reaches i) :
    Advances g seen m
      (fun v m' => (value? m' i).isSome ∧ ((g.node i).IsScalar → v.isHashable = true))
      (value i) := by
  have hlt := hg.lt_of_reaches hi
  have hsize : i < m.values.size := h.size ▸ hlt
  have hgiven (m' : Maker) (hm' : i < m'.values.size) (v : Value) :
      (value? (give m' i v) i).isSome := (isSome_give_iff hm' v i).mpr (.inl rfl)
  rw [Advances]
  cases hvalue : value? m i with
  | some v =>
    rw [run_value, hvalue]
    exact ⟨h, .refl m, by rw [hvalue]; rfl, h.hashable i v hvalue⟩
  | none =>
    have hmake : (value i).run m = (make i).run m >>= fun x => .ok (x.1, give x.2 i x.1) := by
      rw [run_value, hvalue]
      rfl
    rw [hmake]
    have hcollection {v : Value} (hnot : ¬(g.node i).IsScalar)
        (htag : (g.node i).tag = .seq ∧ v = .list ∨ (g.node i).tag = .map ∧ v = .mapping i) :
        Except.Ensures (fun x => Progress g seen x.2 ∧ Grows m x.2 ∧ (value? x.2 i).isSome ∧
          ((g.node i).IsScalar → x.1.isHashable = true)) (Fault.IsReached g)
          ((make i).run m >>= fun x => .ok (x.1, give x.2 i x.1)) := by
      rw [run_make_collection h htag]
      exact ⟨h.give_collection hlt hi hnot hvalue v, grows_give hsize v, hgiven _ hsize v,
        fun hscalar => absurd hscalar hnot⟩
    cases hn : g.node i with
    | mk tag content =>
      have hplain := hg.node i hlt
      rw [hn] at hplain hcollection
      cases hplain with
      | @scalar _ text plain =>
        refine ((make_scalar h hn plain).mono (fun _ hx => hx) ?_).bind fun x hx => ?_
        · rintro e ⟨f, rfl, hf⟩
          exact ⟨i, f, rfl, hi, text, by rw [hn], by rw [hn]; exact hf⟩
        · obtain ⟨hm, hv, hread⟩ := hx
          have hscalar : (g.node i).IsScalar := ⟨text, by rw [hn]⟩
          rw [hm]
          refine ⟨h.give_scalar hlt hi hscalar ?_ hv, grows_give hsize _, hgiven m hsize _,
            fun _ => hv⟩
          rintro f ⟨text', ht, hf⟩
          rw [hn] at ht hf
          cases ht
          exact hread f hf
      | sequence inside => exact hcollection nofun (.inl ⟨rfl, rfl⟩)
      | mapping keys inside => exact hcollection nofun (.inr ⟨rfl, rfl⟩)

/-! ### Members -/

/-- All of the nodes have values. -/
def Made (nodes : List Nat) (m : Maker) : Prop := ∀ j ∈ nodes, (value? m j).isSome

theorem Made.grows {nodes : List Nat} {m m' : Maker} (h : Made nodes m) (hgrows : Grows m m') :
    Made nodes m' := fun j hj => hgrows j (h j hj)

theorem items_advances (hg : g.IsPlain) {items : List Nat} (hitems : ∀ j ∈ items, g.Reaches j)
    (h : Progress g seen m) :
    Advances g seen m (fun _ m' => Made items m') (do
      for item in items do
        let _ ← value item) := by
  have hloop : Advances g seen m (fun _ m' => Made items m')
      (forIn items PUnit.unit fun item _ => do
        let _ ← value item
        return ForInStep.yield PUnit.unit) := by
    induction items generalizing m with
    | nil => exact .pure h (List.forall_mem_nil _)
    | cons item items ih =>
      obtain ⟨hitem, hitems⟩ := List.forall_mem_cons.mp hitems
      rw [List.forIn_cons]
      refine Advances.bind (P := fun r m' => r = .yield PUnit.unit ∧ (value? m' item).isSome) ?_ ?_
      · refine (value_advances hg h hitem).bind fun v m' hm' _ hv => ?_
        exact .pure hm' ⟨rfl, hv.1⟩
      · rintro _ m' hm' _ ⟨rfl, hvalue⟩
        refine (ih hitems hm').mono (fun x hx => ⟨hx.1, hx.2.1, ?_⟩) fun _ he => he
        exact List.forall_mem_cons.mpr ⟨hx.2.1 item hvalue, hx.2.2⟩
  exact hloop.bind fun _ m' hm' _ hmade => .pure hm' hmade

theorem makeEntries_advances (hg : g.IsPlain) {entries : List (Nat × Nat)}
    (hkeys : ∀ e ∈ entries, (g.node e.1).IsScalar)
    (hreached : ∀ e ∈ entries, g.Reaches e.1 ∧ g.Reaches e.2) (h : Progress g seen m) :
    Advances g seen m (fun _ m' => Made (entries.flatMap fun e => [e.1, e.2]) m')
      (makeEntries entries) := by
  induction entries generalizing m with
  | nil => exact .pure h (List.forall_mem_nil _)
  | cons e entries ih =>
    obtain ⟨hkey, hkeys⟩ := List.forall_mem_cons.mp hkeys
    obtain ⟨⟨hk, hv⟩, hreached⟩ := List.forall_mem_cons.mp hreached
    rw [makeEntries]
    refine (value_advances hg h hk).bind fun key m₁ h₁ _ hkeyvalue => ?_
    rw [hkeyvalue.2 hkey]
    refine (value_advances hg h₁ hv).bind fun val m₂ h₂ hgrows₂ hval => ?_
    refine (ih hkeys hreached h₂).bind fun rest m₃ h₃ hgrows₃ hmade => .pure h₃ ?_
    rw [List.flatMap_cons]
    refine List.forall_mem_cons.mpr ⟨?_, List.forall_mem_cons.mpr ⟨?_, hmade⟩⟩
    · exact hgrows₃ _ (hgrows₂ _ hkeyvalue.1)
    · exact hgrows₃ _ hval.1

/-- Where all keys are plain, nothing is merged in. -/
theorem run_nextMerge_of_isPlain (hg : g.IsPlain) (h : Progress g seen m)
    {entries : List (Nat × Nat)} (hin : ∀ e ∈ entries, e.1 < g.nodes.size) (at' : Nat) :
    (nextMerge at' entries).run m = .ok (none, m) := by
  induction entries generalizing at' with
  | nil => rfl
  | cons e entries ih =>
    obtain ⟨he, hin⟩ := List.forall_mem_cons.mp hin
    obtain ⟨hmerge, hvalue⟩ := (hg.node e.1 he).tag_ne
    rw [nextMerge, Except.run_bind_of_ok (h.run_node e.1), if_neg hmerge, if_neg hvalue]
    exact ih hin (at' + 1)

theorem Progress.run_entriesOf {entries : List (Nat × Nat)} (h : Progress g seen m)
    (hn : (g.node i).content = .mapping entries) :
    (entriesOf i).run m = .ok (some entries, m) := by
  rw [entriesOf, Except.run_bind_of_ok (h.run_node i), hn]
  rfl

theorem run_flatten_of_isPlain (hg : g.IsPlain) (h : Progress g seen m)
    {entries : List (Nat × Nat)} (hn : (g.node i).content = .mapping entries)
    (hin : ∀ e ∈ entries, e.1 < g.nodes.size) (bound : Nat) :
    (flatten bound i 0 []).run m = .ok ((), m) := by
  rw [flatten.eq_def, Except.run_bind_of_ok (h.run_entriesOf hn), Option.getD_some]
  dsimp only
  rw [List.drop_zero, Except.run_bind_of_ok (run_nextMerge_of_isPlain hg h hin 0)]
  rfl

theorem mappingEntries_advances (hg : g.IsPlain) (h : Progress g seen m) (hi : g.Reaches i)
    {entries : List (Nat × Nat)} (hn : g.node i = ⟨.map, .mapping entries⟩) :
    Advances g seen m (fun _ m' => Made (g.node i).members m') (mappingEntries i) := by
  have hcontent : (g.node i).content = .mapping entries := by rw [hn]
  have hmembers : (g.node i).members = entries.flatMap fun e => [e.1, e.2] := by
    rw [Node.members, hcontent]
  have hplain := hg.of_reaches hi
  rw [hn] at hplain
  cases hplain with
  | mapping keys inside =>
    have hreached : ∀ e ∈ entries, g.Reaches e.1 ∧ g.Reaches e.2 := by
      intro e he
      have hmem : ∀ j ∈ [e.1, e.2], j ∈ (g.node i).members := fun j hj => by
        rw [hmembers]
        exact List.mem_flatMap.mpr ⟨e, he, hj⟩
      exact ⟨hi.tail (hmem _ (by simp)), hi.tail (hmem _ (by simp))⟩
    have hin : ∀ e ∈ entries, e.1 < g.nodes.size := fun e he => (inside e he).1
    have hget : (MonadState.get : Making Maker).run m = .ok (m, m) := rfl
    rw [Advances, hmembers, mappingEntries, Except.run_bind_of_ok (h.run_entriesOf hcontent),
      if_neg (by simp), Except.run_bind_of_ok hget,
      Except.run_bind_of_ok (run_flatten_of_isPlain hg h hcontent hin _),
      Except.run_bind_of_ok (h.run_entriesOf hcontent)]
    exact makeEntries_advances hg keys hreached h

theorem makeMembers_advances (hg : g.IsPlain) (h : Progress g seen m) (hi : g.Reaches i)
    (hnot : ¬(g.node i).IsScalar) :
    Advances g seen m (fun _ m' => Made (g.node i).members m') (makeMembers i) := by
  rw [Advances, makeMembers, Except.run_bind_of_ok (h.run_node i)]
  cases hn : g.node i with
  | mk tag content =>
    have hplain := hg.of_reaches hi
    rw [hn] at hplain hnot
    cases hplain with
    | @scalar _ text plain => exact absurd ⟨text, rfl⟩ hnot
    | @sequence items inside =>
      have hitems : (itemsOf i).run m = .ok (items, m) := by
        rw [itemsOf, Except.run_bind_of_ok (h.run_node i), hn]
        rfl
      dsimp only
      rw [Except.run_bind_of_ok hitems]
      refine items_advances hg (fun j hj => hi.tail ?_) h
      rw [Node.members, hn]
      exact hj
    | mapping keys inside =>
      have hentries := mappingEntries_advances hg h hi hn
      rw [hn] at hentries
      dsimp only
      rw [StateT.run_bind]
      refine Except.Ensures.bind hentries fun x hx => ?_
      obtain ⟨hx, hgrows, hmade⟩ := hx
      exact ⟨⟨hx.nodes, hx.size, hx.reached, hx.readable, hx.hashable, hx.listed, hx.nodup⟩,
        hgrows, hmade⟩

/-! ### All values -/

/-- The members of the nodes that were taken up have values. -/
def Closed (g : Graph) (seen : List Nat) (m : Maker) : Prop :=
  ∀ i ∈ seen, Made (g.node i).members m

/-- Nodes are taken up until none waits, and then the members of all that were have values. -/
theorem makeAll_progress (hg : g.IsPlain) (fuel : Nat) (h : Progress g seen m)
    (hclosed : Closed g seen m) (hfuel : g.nodes.size < fuel + seen.length) :
    Except.Ensures (fun x => Grows m x.2 ∧ ∃ seen', Progress g seen' x.2 ∧ Closed g seen' x.2 ∧
      x.2.waiting = []) (Fault.IsReached g) ((makeAll fuel).run m) := by
  have hbound {seen : List Nat} {m : Maker} (h : Progress g seen m) :
      (seen ++ m.waiting).length ≤ g.nodes.size := by
    have hrange : seen ++ m.waiting ⊆ List.range g.nodes.size := fun i hi =>
      List.mem_range.mpr (hg.lt_of_reaches (h.reached i ((h.listed i).mp hi).1))
    have hlength := (h.nodup.subperm hrange).length_le
    rwa [List.length_range] at hlength
  induction fuel generalizing seen m with
  | zero =>
    have hlength := hbound h
    rw [List.length_append] at hlength
    omega
  | succ fuel ih =>
    have hget : (MonadState.get : Making Maker).run m = .ok (m, m) := rfl
    rw [makeAll, Except.run_bind_of_ok hget]
    split
    · next hwaiting => exact ⟨.refl m, seen, h, hclosed, hwaiting⟩
    · next i rest hwaiting =>
      have htaken : seen ++ [i] ++ rest = seen ++ m.waiting := by
        rw [hwaiting, List.append_assoc, List.singleton_append]
      have hmodify : (modify fun m => { m with waiting := rest } : Making Unit).run m =
          .ok ((), { m with waiting := rest }) := rfl
      have hm' : Progress g (seen ++ [i]) { m with waiting := rest } :=
        ⟨h.nodes, h.size, h.reached, h.readable, h.hashable, fun j => htaken ▸ h.listed j,
          htaken ▸ h.nodup⟩
      obtain ⟨hvalue, hnot⟩ := (h.listed i).mp (by simp [hwaiting])
      rw [Except.run_bind_of_ok hmodify, StateT.run_bind]
      refine Except.Ensures.bind (makeMembers_advances hg hm' (h.reached i hvalue) hnot)
        fun x hx => ?_
      obtain ⟨hx, hgrows, hmade⟩ := hx
      refine (ih hx ?_ ?_).mono (fun y hy => ⟨hgrows.trans hy.1, hy.2⟩) fun _ he => he
      · intro j hj
        rcases List.mem_append.mp hj with hj | hj
        · exact (hclosed j hj).grows hgrows
        · rw [List.mem_singleton.mp hj]
          exact hmade
      · rw [List.length_append, List.length_singleton]
        omega

end Making

/-- **Plain documents.**  Their values can be made, and no scalar in them is refused; or a scalar
that is part of the document is refused, and that is why they cannot. -/
theorem Document.ofGraph_of_isPlain (h : g.IsPlain) :
    ((∃ d, ofGraph g = .ok d) ∧ ∀ i f, g.Reaches i → ¬(g.node i).Refuses f) ∨
      ∃ i f, ofGraph g = .error (.scalar f) ∧ g.Reaches i ∧ (g.node i).Refuses f := by
  let start : Maker :=
    ⟨g.nodes, .replicate g.nodes.size none, .replicate g.nodes.size [], []⟩
  have hnone (i : Nat) : Making.value? start i = none := by
    simp only [Making.value?, start, Array.getElem?_replicate]
    split <;> rfl
  have hstart : Making.Progress g [] start := by
    refine ⟨rfl, by simp [start], ?_, ?_, ?_, ?_, List.nodup_nil⟩
    all_goals simp [hnone, start]
  have hrun : Except.Ensures (fun x => ∀ i f, g.Reaches i → ¬(g.node i).Refuses f)
      (Fault.IsReached g) ((do
        let root ← Making.value g.root
        Making.makeAll (g.nodes.size + 1)
        return root : Making Value).run start) := by
    rw [StateT.run_bind]
    refine Except.Ensures.bind (Making.value_advances h hstart .refl) fun x hx => ?_
    obtain ⟨hprogress, -, hroot, -⟩ := hx
    rw [StateT.run_bind]
    refine Except.Ensures.bind (Making.makeAll_progress h _ hprogress (List.forall_mem_nil _)
      (by simp)) fun y hy i f hi => ?_
    obtain ⟨hgrows, seen, hprogress, hclosed, hwaiting⟩ := hy
    refine hprogress.readable i ?_ f
    -- what has a value and members was taken up, so that its members have values as well
    induction hi with
    | refl => exact hgrows _ hroot
    | @tail j k _ hk ih =>
      refine hclosed j ?_ k hk
      have hlisted := (hprogress.listed j).mpr ⟨ih, ?_⟩
      · rwa [hwaiting, List.append_nil] at hlisted
      · rintro ⟨text, ht⟩
        rw [Node.members, ht] at hk
        cases hk
  rw [ofGraph]
  split
  · rename_i herror
    obtain ⟨i, f, rfl, hi, hf⟩ := hrun.of_eq_error herror
    exact .inr ⟨i, f, rfl, hi, hf⟩
  · rename_i hok
    exact .inl ⟨⟨_, rfl⟩, hrun.of_eq_ok hok⟩

/-- The values of `a: 2001-99-99` cannot be made, since there is no such month. -/
example : Document.ofGraph ⟨#[⟨.map, .mapping [(1, 2)]⟩, ⟨.str, .scalar "a".toList⟩,
    ⟨.timestamp, .scalar "2001-99-99".toList⟩], 0⟩ = .error (.scalar (.moment .month)) := by
  cbv

end Yaml
end RegistryAuth
