import Mathlib.Data.List.InsertIdx
import RegistryAuth.Proofs.Except
import RegistryAuth.Yaml.Value

/-!
# Merges come to an end

Taking entries of other mappings in is bounded by the number of merges that there are
(`Making.mergesIn`), and that bound is never felt: two runs agree whenever their bounds cover that
number (`Making.flatten_congr`), so the entries of a mapping are those that any larger bound gives
(`Making.run_mappingEntries`).  For a merge is taken out of its mapping before what it merges in
is looked at, and no entry that is taken in is a merge itself.

## Why a mapping may be met while it is flattened

A mapping can be merged into itself, at once or by way of others.  Then it is flattened anew, while
the outer call waits, and the outer call goes on behind the entries it has seen.  So what such a
call needs is no more than that these entries hold no merge, and that is so whether the mapping was
left alone or flattened meanwhile (`Making.Settles`).
-/

namespace RegistryAuth
namespace Yaml
namespace Making

variable {m m' m'' : Maker} {i j k at' : Nat} {entries merged : List (Nat × Nat)} {α β : Type}

/-! ## Merges -/

/-- The node is a key that merges something in. -/
def isMerge (m : Maker) (k : Nat) : Bool := (m.nodes[k]?).any fun key => key.tag = .merge

/-- How many of the entries merge something in. -/
def merges (m : Maker) (entries : List (Nat × Nat)) : Nat := entries.countP fun e => isMerge m e.1

/-- None of the entries merges anything in. -/
def IsFlat (m : Maker) (entries : List (Nat × Nat)) : Prop := ∀ e ∈ entries, isMerge m e.1 = false

/-- The entries of a node that is a mapping. -/
def entries? (m : Maker) (i : Nat) : Option (List (Nat × Nat)) :=
  match (m.nodes[i]?).map Node.content with
  | some (.mapping entries) => some entries
  | _ => none

theorem merges_eq_zero (h : IsFlat m entries) : merges m entries = 0 :=
  List.countP_eq_zero.mpr fun e he => by simp [h e he]

theorem merges_append (es es' : List (Nat × Nat)) :
    merges m (es ++ es') = merges m es + merges m es' :=
  List.countP_append

theorem IsFlat.append {es es' : List (Nat × Nat)} (h : IsFlat m es) (h' : IsFlat m es') :
    IsFlat m (es ++ es') := fun e he => (List.mem_append.mp he).elim (h e) (h' e)

/-- The same keys merge something in. -/
def SameMarks (m m' : Maker) : Prop := ∀ k, isMerge m' k = isMerge m k

theorem SameMarks.merges_eq (h : SameMarks m m') (entries : List (Nat × Nat)) :
    merges m' entries = merges m entries := by
  rw [merges, merges]
  exact List.countP_congr fun e _ => by rw [h e.1]

theorem SameMarks.isFlat (h : SameMarks m m') (hflat : IsFlat m entries) : IsFlat m' entries :=
  fun e he => (h e.1).trans (hflat e he)

/-! ## The number of merges -/

theorem mergesAt_eq {n : Node} (m : Maker) :
    mergesAt m n = match n.content with
      | .mapping entries => merges m entries
      | _ => 0 := rfl

/-- A node takes the place of another in a sum over all of them. -/
theorem foldr_modify (w : Node → Nat) {n n' : Node} {nodes : List Node} {i : Nat}
    (h : nodes[i]? = some n) :
    (nodes.modify i fun _ => n').foldr (fun n sum => w n + sum) 0 + w n =
      nodes.foldr (fun n sum => w n + sum) 0 + w n' := by
  induction nodes generalizing i with
  | nil => cases h
  | cons n₀ nodes ih =>
    cases i with
    | zero =>
      obtain rfl := Option.some.inj h
      simp only [List.modify_zero_cons, List.foldr_cons]
      omega
    | succ i =>
      have hrest := ih (i := i) h
      simp only [List.modify_succ_cons, List.foldr_cons]
      omega

theorem mergesIn_eq_of_nodes {m m' : Maker} {n n' : Node} (hmarks : SameMarks m m')
    (hnodes : m'.nodes = m.nodes.modify i fun _ => n') (hn : m.nodes[i]? = some n) :
    mergesIn m' + mergesAt m n = mergesIn m + mergesAt m n' := by
  have hweight (n : Node) : mergesAt m' n = mergesAt m n := by
    rw [mergesAt_eq, mergesAt_eq]
    split
    · exact hmarks.merges_eq _
    · rfl
  have hlist : m.nodes.toList[i]? = some n := by rw [Array.getElem?_toList, hn]
  rw [mergesIn, mergesIn, hnodes, Array.toList_modify]
  simp only [hweight]
  exact foldr_modify (mergesAt m) hlist

/-! ## Single actions -/

theorem run_node (m : Maker) (i : Nat) :
    (node i).run m = .ok ((m.nodes[i]?).getD ⟨.other, .scalar []⟩, m) := rfl

theorem run_setNode (m : Maker) (i : Nat) (n : Node) :
    (setNode i n).run m = .ok ((), { m with nodes := m.nodes.modify i fun _ => n }) := rfl

theorem run_entriesOf (m : Maker) (i : Nat) : (entriesOf i).run m = .ok (entries? m i, m) := by
  rw [entriesOf, Except.run_bind_of_ok (run_node m i), entries?]
  cases m.nodes[i]? with
  | none => rfl
  | some n =>
    simp only [Option.getD_some, Option.map_some]
    cases n.content <;> rfl

/-- A node takes the place of another that merges in as much as it does. -/
theorem sameMarks_of_nodes {n n' : Node} (hnodes : m'.nodes = m.nodes.modify i fun _ => n')
    (hn : m.nodes[i]? = some n) (htag : n'.tag = .merge ↔ n.tag = .merge) : SameMarks m m' := by
  intro j
  rw [isMerge, isMerge, hnodes, Array.getElem?_modify]
  split
  · next hij =>
    subst hij
    simp [hn, htag]
  · rfl

theorem entries?_of_nodes {n' : Node} (hnodes : m'.nodes = m.nodes.modify i fun _ => n')
    (hj : j ≠ i) : entries? m' j = entries? m j := by
  rw [entries?, entries?, hnodes, Array.getElem?_modify, if_neg (Ne.symm hj)]

/-- Only marks of values were changed. -/
structure Retags (m m' : Maker) : Prop where
  marks : SameMarks m m'
  entries : ∀ i, entries? m' i = entries? m i
  merges : mergesIn m' = mergesIn m

theorem Retags.refl (m : Maker) : Retags m m := ⟨fun _ => rfl, fun _ => rfl, rfl⟩

theorem Retags.trans (h : Retags m m') (h' : Retags m' m'') : Retags m m'' :=
  ⟨fun k => (h'.marks k).trans (h.marks k), fun i => (h'.entries i).trans (h.entries i),
    h'.merges.trans h.merges⟩

theorem retags_setNode {n : Node} (hn : m.nodes[i]? = some n) (htag : n.tag = .value) :
    Retags m { m with nodes := m.nodes.modify i fun _ => { n with tag := .str } } := by
  have hmarks : SameMarks m
      { m with nodes := m.nodes.modify i fun _ => { n with tag := .str } } :=
    sameMarks_of_nodes rfl hn (by simp [htag])
  refine ⟨hmarks, fun j => ?_, ?_⟩
  · by_cases hj : j = i
    · subst hj
      simp [entries?, Array.getElem?_modify, hn]
    · exact entries?_of_nodes rfl hj
  · have hsum := mergesIn_eq_of_nodes hmarks rfl hn
    have hsame : mergesAt m { n with tag := .str } = mergesAt m n := rfl
    omega

/-- What looking for a merge comes to: there is none, or one behind entries that are none. -/
inductive Next (m : Maker) (at' : Nat) (entries : List (Nat × Nat)) : Option (Nat × Nat) → Prop
  | none (flat : IsFlat m entries) : Next m at' entries none
  | some {n v : Nat} {e : Nat × Nat} (hn : entries[n]? = some e) (merge : isMerge m e.1 = true)
      (flat : IsFlat m (entries.take n)) : Next m at' entries (some (at' + n, v))

theorem run_nextMerge (at' : Nat) (entries : List (Nat × Nat)) (m : Maker) :
    ∃ next m', (nextMerge at' entries).run m = .ok (next, m') ∧ Retags m m' ∧
      Next m at' entries next := by
  induction entries generalizing at' m with
  | nil => exact ⟨none, m, rfl, .refl m, .none (List.forall_mem_nil _)⟩
  | cons e entries ih =>
    rw [nextMerge, Except.run_bind_of_ok (run_node m e.1)]
    have hmerge : isMerge m e.1 = decide
        (((m.nodes[e.1]?).getD ⟨.other, .scalar []⟩).tag = .merge) := by
      rw [isMerge]
      cases m.nodes[e.1]? <;> rfl
    split
    · next htag =>
      rw [htag] at hmerge
      exact ⟨some (at', e.2), m, rfl, .refl m,
        .some (n := 0) rfl (by simpa using hmerge) (by simp [IsFlat])⟩
    · next htag =>
      have hnot : isMerge m e.1 = false := by rw [hmerge]; exact decide_eq_false htag
      have hbehind {m₁ : Maker} (h : Retags m m₁) :
          ∃ next m', (nextMerge (at' + 1) entries).run m₁ = .ok (next, m') ∧ Retags m m' ∧
            Next m at' (e :: entries) next := by
        obtain ⟨next, m', hrun, hretags, hnext⟩ := ih (at' + 1) m₁
        refine ⟨next, m', hrun, h.trans hretags, ?_⟩
        have hflat {es : List (Nat × Nat)} (hes : IsFlat m₁ es) : IsFlat m (e :: es) :=
          List.forall_mem_cons.mpr ⟨hnot, fun x hx => (h.marks x.1).symm.trans (hes x hx)⟩
        cases hnext with
        | none flat => exact .none (hflat flat)
        | @some n v e' hn merge flat =>
          rw [Nat.add_assoc, Nat.add_comm 1]
          exact .some (n := n + 1) hn ((h.marks e'.1).symm.trans merge) (hflat flat)
      split
      · next hvalue =>
        cases hn : m.nodes[e.1]? with
        | none =>
          rw [hn] at hvalue
          cases hvalue
        | some n =>
          rw [hn] at hvalue
          rw [Except.run_bind_of_ok (run_setNode m e.1 _)]
          exact hbehind (retags_setNode hn hvalue)
      · exact hbehind (.refl m)

theorem exists_node_of_entries? (h : entries? m i = some entries) :
    ∃ n, m.nodes[i]? = some n ∧ n.content = .mapping entries := by
  rw [entries?] at h
  cases hn : m.nodes[i]? with
  | none =>
    rw [hn] at h
    cases h
  | some n =>
    rw [hn, Option.map_some] at h
    refine ⟨n, rfl, ?_⟩
    cases hcontent : n.content with
    | mapping entries' =>
      rw [hcontent] at h
      rw [Option.some.inj h]
    | scalar text =>
      rw [hcontent] at h
      cases h
    | sequence items =>
      rw [hcontent] at h
      cases h

/-- A mapping gets other entries. -/
structure Resets (i : Nat) (new : List (Nat × Nat)) (m m' : Maker) : Prop where
  marks : SameMarks m m'
  own : entries? m' i = some new
  others : ∀ j ≠ i, entries? m' j = entries? m j

theorem run_setEntries (h : entries? m i = some entries) (new : List (Nat × Nat)) :
    ∃ m', (setEntries i new).run m = .ok ((), m') ∧ Resets i new m m' ∧
      mergesIn m' + merges m entries = mergesIn m + merges m new := by
  obtain ⟨n, hn, hcontent⟩ := exists_node_of_entries? h
  have hmarks : SameMarks m
      { m with nodes := m.nodes.modify i fun _ => { n with content := .mapping new } } :=
    sameMarks_of_nodes rfl hn .rfl
  refine ⟨_, ?_, ⟨hmarks, ?_, fun j hj => entries?_of_nodes rfl hj⟩, ?_⟩
  · rw [setEntries, Except.run_bind_of_ok (run_node m i), hn]
    rfl
  · simp [entries?, Array.getElem?_modify, hn]
  · have hsum := mergesIn_eq_of_nodes hmarks rfl hn
    rwa [mergesAt_eq, mergesAt_eq, hcontent] at hsum

/-! ## What flattening leaves behind -/

/-- All entries of the node are flat, if it has any. -/
def FlatAt (m : Maker) (i : Nat) : Prop := ∀ entries, entries? m i = some entries → IsFlat m entries

/-- The same keys merge something in, mappings were left alone or are flat now, and there are no
more merges than before. -/
structure Settles (m m' : Maker) : Prop where
  marks : SameMarks m m'
  entries : ∀ i, entries? m' i = entries? m i ∨ ∃ es, entries? m' i = some es ∧ IsFlat m' es
  merges_le : mergesIn m' ≤ mergesIn m

theorem Settles.refl (m : Maker) : Settles m m := ⟨fun _ => rfl, fun _ => .inl rfl, Nat.le_refl _⟩

theorem Settles.trans (h : Settles m m') (h' : Settles m' m'') : Settles m m'' := by
  refine ⟨fun k => (h'.marks k).trans (h.marks k), fun i => ?_,
    Nat.le_trans h'.merges_le h.merges_le⟩
  rcases h'.entries i with heq | hflat
  · rcases h.entries i with heq' | ⟨es, hes, hflat⟩
    · exact .inl (heq.trans heq')
    · exact .inr ⟨es, heq.trans hes, h'.marks.isFlat hflat⟩
  · exact .inr hflat

theorem Retags.settles (h : Retags m m') : Settles m m' :=
  ⟨h.marks, fun i => .inl (h.entries i), Nat.le_of_eq h.merges⟩

theorem Settles.isSome (h : Settles m m') (hi : (entries? m i).isSome) :
    (entries? m' i).isSome := by
  rcases h.entries i with heq | ⟨es, hes, -⟩
  · rwa [heq]
  · rw [hes]
    rfl

/-- The entries in front of a position of a mapping are flat. -/
def FlatTo (m : Maker) (i at' : Nat) : Prop :=
  ∀ entries, entries? m i = some entries → IsFlat m (entries.take at')

theorem Settles.flatTo (h : Settles m m') (hi : FlatTo m i at') : FlatTo m' i at' := by
  intro entries hentries
  rcases h.entries i with heq | ⟨es, hes, hflat⟩
  · exact h.marks.isFlat (hi entries (heq ▸ hentries))
  · rw [← Option.some.inj (hes.symm.trans hentries)]
    exact fun e he => hflat e (List.mem_of_mem_take he)

/-- If the action gives something, mappings settle, and what it gives meets the condition. -/
def Settling (m : Maker) (P : α → Maker → Prop) (act : Making α) : Prop :=
  Except.Ensures (fun x => Settles m x.2 ∧ P x.1 x.2) (fun _ => True) (act.run m)

variable {P : α → Maker → Prop} {Q : β → Maker → Prop} {act : Making α}

theorem Settling.bind {f : α → Making β} (h : Settling m P act)
    (hf : ∀ a m', Settles m m' → P a m' → Settling m' Q (f a)) : Settling m Q (act >>= f) := by
  rw [Settling, StateT.run_bind]
  refine Except.Ensures.bind h fun x hx => ?_
  refine (hf x.1 x.2 hx.1 hx.2).mono (fun y hy => ?_) fun _ h => h
  exact ⟨hx.1.trans hy.1, hy.2⟩

theorem Settling.pure {a : α} (h : P a m) : Settling m P (pure a) := ⟨.refl m, h⟩

theorem settling_refuse (f : ValueFault) : Settling m P (refuseValue f) := trivial

theorem settling_entriesOf (m : Maker) (i : Nat) :
    Settling m (fun es m' => m' = m ∧ es = entries? m i) (entriesOf i) := by
  rw [Settling, run_entriesOf]
  exact ⟨.refl m, rfl, rfl⟩

/-- The action flattens the mapping at its node, wherever it begins. -/
def Flattens (flat : Nat → Making Unit) : Prop :=
  ∀ i m, Settling m (fun _ m' => FlatAt m' i) (flat i)

theorem isFlat_getD (h : FlatAt m i) : IsFlat m ((entries? m i).getD []) := by
  cases hentries : entries? m i with
  | none => exact List.forall_mem_nil _
  | some entries => exact h entries hentries

theorem settling_mergeSources {flat : Nat → Making Unit} (h : Flattens flat) (items : List Nat)
    (m : Maker) :
    Settling m (fun ess m' => ∀ es ∈ ess, IsFlat m' es) (mergeSources flat items) := by
  induction items generalizing m with
  | nil => exact .pure (List.forall_mem_nil _)
  | cons i rest ih =>
    rw [mergeSources]
    refine (settling_entriesOf m i).bind ?_
    rintro es m - ⟨rfl, rfl⟩
    split
    · exact settling_refuse _
    · refine (h i m).bind fun _ m _ hflat => ?_
      refine (settling_entriesOf m i).bind ?_
      rintro es m - ⟨rfl, rfl⟩
      refine (ih m).bind fun ess m' hsettles hess => .pure ?_
      exact List.forall_mem_cons.mpr ⟨hsettles.marks.isFlat (isFlat_getD hflat), hess⟩

theorem settling_entriesFrom {flat : Nat → Making Unit} (h : Flattens flat) (v : Nat) (m : Maker) :
    Settling m (fun es m' => IsFlat m' es) (entriesFrom flat v) := by
  rw [entriesFrom]
  refine Settling.bind (P := fun _ _ => True) ⟨.refl m, trivial⟩ fun n m _ _ => ?_
  split
  · refine (h v m).bind fun _ m _ hflat => ?_
    refine (settling_entriesOf m v).bind ?_
    rintro es m - ⟨rfl, rfl⟩
    exact .pure (isFlat_getD hflat)
  · refine (settling_mergeSources h _ m).bind fun ess m _ hess => .pure fun e he => ?_
    obtain ⟨es, hes, he⟩ := List.mem_flatten.mp he
    exact hess es (List.mem_reverse.mp hes) e he
  · exact settling_refuse _

/-- Where flattening begins, and what was merged in before, is in order. -/
structure Ready (m : Maker) (i at' : Nat) (merged : List (Nat × Nat)) : Prop where
  merged_flat : IsFlat m merged
  isMapping : merged ≠ [] → (entries? m i).isSome
  front_flat : FlatTo m i at'

/-- Flattening begins in order. -/
theorem ready_start (m : Maker) (i : Nat) : Ready m i 0 [] :=
  ⟨List.forall_mem_nil _, fun h => absurd rfl h, fun _ _ => List.forall_mem_nil _⟩

theorem Settles.ready (h : Settles m m') (hready : Ready m i at' merged) :
    Ready m' i at' merged :=
  ⟨h.marks.isFlat hready.merged_flat, fun hne => h.isSome (hready.isMapping hne),
    h.flatTo hready.front_flat⟩

/-- A merge that is taken out of the entries is one less. -/
theorem merges_eraseIdx {n : Nat} {e : Nat × Nat} (he : entries[n]? = some e)
    (hmerge : isMerge m e.1 = true) : merges m (entries.eraseIdx n) + 1 = merges m entries := by
  have hsplit : entries = entries.take n ++ e :: entries.drop (n + 1) := by
    obtain ⟨hn, rfl⟩ := List.getElem?_eq_some_iff.mp he
    rw [List.getElem_cons_drop, List.take_append_drop]
  have hcons : merges m (e :: entries.drop (n + 1)) = merges m (entries.drop (n + 1)) + 1 :=
    List.countP_cons_of_pos hmerge
  conv => rhs; rw [hsplit, merges_append, hcons]
  rw [List.eraseIdx_eq_take_drop_succ, merges_append]
  rfl

/-- The run of `flatten` as far as the next merge: there is none any more, or it is taken out of
its mapping, and what it merges in is looked at. -/
inductive Step (m : Maker) (i at' : Nat) (merged : List (Nat × Nat)) : Prop
  | done (m' : Maker) (run : ∀ bound, (flatten bound i at' merged).run m = .ok ((), m'))
      (settles : Settles m m') (flat : FlatAt m' i)
  | merge (v next : Nat) (m' : Maker) (marks : SameMarks m m')
      (others : ∀ j ≠ i, entries? m' j = entries? m j) (fewer : mergesIn m' + 1 = mergesIn m)
      (ready : Ready m' i next merged) (isMapping : (entries? m' i).isSome)
      (refused : (flatten 0 i at' merged).run m = .error (.value .mergeSource))
      (run : ∀ bound, (flatten (bound + 1) i at' merged).run m = (do
        let more ← entriesFrom (fun j => flatten bound j 0 []) v
        flatten bound i next (merged ++ more)).run m')

theorem run_flatten_none (hnext :
      (nextMerge at' (((entries? m i).getD []).drop at')).run m = .ok (none, m')) (bound : Nat) :
    (flatten bound i at' merged).run m =
      (if merged.isEmpty then Pure.pure ()
        else setEntries i (merged ++ (entries? m i).getD [])).run m' := by
  rw [flatten.eq_def, Except.run_bind_of_ok (run_entriesOf m i)]
  exact Except.run_bind_of_ok hnext

theorem run_flatten_zero {next v : Nat} (hnext :
      (nextMerge at' (((entries? m i).getD []).drop at')).run m = .ok (some (next, v), m')) :
    (flatten 0 i at' merged).run m = .error (.value .mergeSource) := by
  rw [flatten.eq_def, Except.run_bind_of_ok (run_entriesOf m i)]
  exact Except.run_bind_of_ok hnext

theorem run_flatten_succ {next v : Nat} (hnext :
      (nextMerge at' (((entries? m i).getD []).drop at')).run m = .ok (some (next, v), m'))
    (bound : Nat) :
    (flatten (bound + 1) i at' merged).run m = (do
      setEntries i (((entries? m i).getD []).eraseIdx next)
      let more ← entriesFrom (fun j => flatten bound j 0 []) v
      flatten bound i next (merged ++ more)).run m' := by
  rw [flatten.eq_def, Except.run_bind_of_ok (run_entriesOf m i)]
  exact Except.run_bind_of_ok hnext

theorem flatAt_of_entries? (hentries : entries? m i = some entries) (h : IsFlat m entries) :
    FlatAt m i := by
  intro es hes
  rwa [← Option.some.inj (hentries.symm.trans hes)]

/-- A mapping that gets flat entries settles. -/
theorem Resets.settles {new : List (Nat × Nat)} (h : Resets i new m m') (hnew : IsFlat m new)
    (hle : mergesIn m' ≤ mergesIn m) : Settles m m' := by
  refine ⟨h.marks, fun j => ?_, hle⟩
  by_cases hj : j = i
  · subst hj
    exact .inr ⟨new, h.own, h.marks.isFlat hnew⟩
  · exact .inl (h.others j hj)

/-- If no merge is left, what was merged in goes to the front. -/
theorem step_of_flat (h : Ready m i at' merged) (hentries : entries? m i = some entries)
    (hnext : (nextMerge at' (((entries? m i).getD []).drop at')).run m = .ok (none, m'))
    (hretags : Retags m m') (hdrop : IsFlat m (entries.drop at')) : Step m i at' merged := by
  have hrun (bound : Nat) : (flatten bound i at' merged).run m = _ := run_flatten_none hnext bound
  have hentries' : entries? m' i = some entries := (hretags.entries i).trans hentries
  have hflat : IsFlat m entries := by
    rw [← List.take_append_drop at' entries]
    exact (h.front_flat entries hentries).append hdrop
  by_cases hmerged : merged = []
  · exact .done m' (fun bound => by rw [hrun, hmerged]; rfl) hretags.settles
      (flatAt_of_entries? hentries' (hretags.marks.isFlat hflat))
  · obtain ⟨m₂, hset, hresets, hsum⟩ := run_setEntries hentries' (merged ++ entries)
    have hnew : IsFlat m' (merged ++ entries) :=
      hretags.marks.isFlat (h.merged_flat.append hflat)
    rw [merges_eq_zero hnew, merges_eq_zero (hretags.marks.isFlat hflat)] at hsum
    refine .done m₂ (fun bound => ?_)
      (hretags.settles.trans (hresets.settles hnew (Nat.le_of_eq hsum)))
      (flatAt_of_entries? hresets.own (hresets.marks.isFlat hnew))
    rw [hrun, if_neg (by simpa using hmerged), hentries]
    exact hset

/-- A merge that is found is taken out. -/
theorem step_of_merge {n v : Nat} {e : Nat × Nat} (h : Ready m i at' merged)
    (hentries : entries? m i = some entries)
    (hnext : (nextMerge at' (((entries? m i).getD []).drop at')).run m =
      .ok (some (at' + n, v), m'))
    (hretags : Retags m m') (hn : entries[at' + n]? = some e) (hmerge : isMerge m e.1 = true)
    (hflat : IsFlat m ((entries.drop at').take n)) : Step m i at' merged := by
  obtain ⟨m₂, hset, hresets, hsum⟩ :=
    run_setEntries ((hretags.entries i).trans hentries) (entries.eraseIdx (at' + n))
  have hmarks : SameMarks m m₂ := fun k => (hresets.marks k).trans (hretags.marks k)
  have hothers : ∀ j ≠ i, entries? m₂ j = entries? m j := fun j hj =>
    (hresets.others j hj).trans (hretags.entries j)
  have hfewer : mergesIn m₂ + 1 = mergesIn m := by
    have herase := merges_eraseIdx hn ((hretags.marks e.1).trans hmerge)
    have hsame := hretags.merges
    omega
  have hmapping : (entries? m₂ i).isSome := by
    rw [hresets.own]
    rfl
  have hready : Ready m₂ i (at' + n) merged := by
    refine ⟨hmarks.isFlat h.merged_flat, fun _ => hmapping, fun es hes => ?_⟩
    rw [← Option.some.inj (hresets.own.symm.trans hes),
      List.take_eraseIdx_eq_take_of_le _ _ _ (Nat.le_refl _), List.take_add]
    exact hmarks.isFlat ((h.front_flat entries hentries).append hflat)
  refine .merge v (at' + n) m₂ hmarks hothers hfewer hready hmapping
    (run_flatten_zero hnext) fun bound => ?_
  rw [run_flatten_succ hnext, hentries]
  exact Except.run_bind_of_ok hset

theorem step_flatten (h : Ready m i at' merged) : Step m i at' merged := by
  obtain ⟨next, m', hnext, hretags, hcase⟩ :=
    run_nextMerge at' (((entries? m i).getD []).drop at') m
  cases hentries : entries? m i with
  | none =>
    -- what has no entries is left as it is
    have hmerged : merged = [] := by
      by_contra hne
      exact absurd (h.isMapping hne) (by simp [hentries])
    rw [hentries, Option.getD_none, List.drop_nil] at hcase
    cases hcase with
    | some hn => cases hn
    | none =>
      refine .done m' (fun bound => ?_) hretags.settles fun entries hi => ?_
      · rw [run_flatten_none hnext, hmerged]
        rfl
      · rw [hretags.entries, hentries] at hi
        cases hi
  | some entries =>
    rw [hentries, Option.getD_some] at hcase
    cases hcase with
    | none hdrop => exact step_of_flat h hentries hnext hretags hdrop
    | some hn hmerge hflat =>
      rw [List.getElem?_drop] at hn
      exact step_of_merge h hentries hnext hretags hn hmerge hflat

/-- Behind a merge that was taken out, the mapping settles as soon as it is flat. -/
theorem settles_of_takes (marks : SameMarks m m') (others : ∀ j ≠ i, entries? m' j = entries? m j)
    (fewer : mergesIn m' ≤ mergesIn m) (h : Settles m' m'') (isMapping : (entries? m' i).isSome)
    (flat : FlatAt m'' i) : Settles m m'' := by
  refine ⟨fun k => (h.marks k).trans (marks k), fun j => ?_, Nat.le_trans h.merges_le fewer⟩
  by_cases hj : j = i
  · subst hj
    obtain ⟨es, hes⟩ := Option.isSome_iff_exists.mp (h.isSome isMapping)
    exact .inr ⟨es, hes, flat es hes⟩
  · rcases h.entries j with heq | hflat
    · exact .inl (heq.trans (others j hj))
    · exact .inr hflat

/-- If flattening gives something, the mapping is flat, and all others settle. -/
theorem settling_flatten (bound : Nat) (h : Ready m i at' merged) :
    Settling m (fun _ m' => FlatAt m' i) (flatten bound i at' merged) := by
  induction bound generalizing i at' merged m with
  | zero =>
    cases step_flatten h with
    | done m' run settles flat =>
      rw [Settling, run]
      exact ⟨settles, flat⟩
    | merge _ _ _ _ _ _ _ _ refused _ =>
      rw [Settling, refused]
      trivial
  | succ bound ih =>
    cases step_flatten h with
    | done m' run settles flat =>
      rw [Settling, run]
      exact ⟨settles, flat⟩
    | merge v next m₁ marks others fewer ready isMapping _ run =>
      have hflat : Flattens fun j => flatten bound j 0 [] := fun j m => ih (ready_start m j)
      have hrest : Settling m₁ (fun _ m' => FlatAt m' i) (do
          let more ← entriesFrom (fun j => flatten bound j 0 []) v
          flatten bound i next (merged ++ more)) := by
        refine (settling_entriesFrom hflat v m₁).bind fun more m₂ hsettles hmore => ih ?_
        have hready := hsettles.ready ready
        exact ⟨hready.merged_flat.append hmore, fun _ => hsettles.isSome isMapping,
          hready.front_flat⟩
      rw [Settling, run]
      refine hrest.mono (fun x hx => ⟨?_, hx.2⟩) fun _ h => h
      exact settles_of_takes marks others (by omega) hx.1 isMapping hx.2

/-! ## The bound is not felt -/

/-- Two ways to flatten run alike as long as there are no more merges than that. -/
def Agree (bound : Nat) (flat flat' : Nat → Making Unit) : Prop :=
  ∀ i m, mergesIn m ≤ bound → (flat i).run m = (flat' i).run m

/-- Actions that run alike on a state may be followed by such that run alike on what settles. -/
theorem run_bind_congr {act act' : Making α} {f f' : α → Making β} (h : Settling m P act)
    (hact : act.run m = act'.run m)
    (hf : ∀ a m', Settles m m' → P a m' → (f a).run m' = (f' a).run m') :
    (act >>= f).run m = (act' >>= f').run m := by
  rw [StateT.run_bind, StateT.run_bind, ← hact]
  cases hrun : act.run m with
  | error e => rfl
  | ok x =>
    obtain ⟨hsettles, hP⟩ := h.of_eq_ok hrun
    exact hf x.1 x.2 hsettles hP

theorem mergeSources_congr {bound : Nat} {flat flat' : Nat → Making Unit} (h : Flattens flat)
    (hagree : Agree bound flat flat') (items : List Nat) (hm : mergesIn m ≤ bound) :
    (mergeSources flat items).run m = (mergeSources flat' items).run m := by
  induction items generalizing m with
  | nil => rfl
  | cons i rest ih =>
    rw [mergeSources, mergeSources]
    refine run_bind_congr (settling_entriesOf m i) rfl ?_
    rintro es m - ⟨rfl, rfl⟩
    split
    · rfl
    · refine run_bind_congr (h i m) (hagree i m hm) fun _ m₁ hsettles _ => ?_
      have hm₁ := Nat.le_trans hsettles.merges_le hm
      refine run_bind_congr (settling_entriesOf m₁ i) rfl ?_
      rintro es m₂ - ⟨rfl, rfl⟩
      exact run_bind_congr (settling_mergeSources h rest m₂) (ih hm₁) fun _ _ _ _ => rfl

theorem entriesFrom_congr {bound : Nat} {flat flat' : Nat → Making Unit} (h : Flattens flat)
    (hagree : Agree bound flat flat') (v : Nat) (hm : mergesIn m ≤ bound) :
    (entriesFrom flat v).run m = (entriesFrom flat' v).run m := by
  rw [entriesFrom, entriesFrom, Except.run_bind_of_ok (run_node m v),
    Except.run_bind_of_ok (run_node m v)]
  split
  · exact run_bind_congr (h v m) (hagree v m hm) fun _ _ _ _ => rfl
  · exact run_bind_congr (settling_mergeSources h _ m) (mergeSources_congr h hagree _ hm)
      fun _ _ _ _ => rfl
  · rfl

/-- **The bound is not felt.**  Two runs of `flatten` agree whenever their bounds cover the merges
that there are. -/
theorem flatten_congr {bound bound' : Nat} (h : Ready m i at' merged) (hbound : mergesIn m ≤ bound)
    (hbound' : mergesIn m ≤ bound') :
    (flatten bound i at' merged).run m = (flatten bound' i at' merged).run m := by
  induction bound generalizing bound' i at' merged m with
  | zero =>
    cases step_flatten h with
    | done m' run _ _ => rw [run, run]
    | merge _ _ _ _ _ fewer _ _ _ _ => omega
  | succ bound ih =>
    cases step_flatten h with
    | done m' run _ _ => rw [run, run]
    | merge v next m₁ _ _ fewer ready isMapping _ run =>
      obtain ⟨bound', rfl⟩ : ∃ n, bound' = n + 1 := ⟨bound' - 1, by omega⟩
      have hflat : Flattens fun j => flatten bound j 0 [] := fun j m =>
        settling_flatten bound (ready_start m j)
      have hagree : Agree (mergesIn m₁) (fun j => flatten bound j 0 [])
          fun j => flatten bound' j 0 [] := fun j m hm =>
        ih (ready_start m j) (Nat.le_trans hm (by omega)) (Nat.le_trans hm (by omega))
      rw [run, run]
      refine run_bind_congr (settling_entriesFrom hflat v m₁)
        (entriesFrom_congr hflat hagree v (Nat.le_refl _)) fun more m₂ hsettles hmore => ?_
      have hle := hsettles.merges_le
      have hready₂ := hsettles.ready ready
      exact ih ⟨hready₂.merged_flat.append hmore, fun _ => hsettles.isSome isMapping,
        hready₂.front_flat⟩ (by omega) (by omega)

/-- The entries of a mapping, with any bound that covers the merges in the place of their
number. -/
theorem run_mappingEntries {bound : Nat} (h : mergesIn m ≤ bound) (i : Nat) :
    (mappingEntries i).run m = (do
      if (← entriesOf i).isNone then refuseValue .notMapping
      flatten bound i 0 []
      makeEntries ((← entriesOf i).getD [])).run m := by
  have hget : (get : Making Maker).run m = .ok (m, m) := rfl
  have hflatten := flatten_congr (ready_start m i) (Nat.le_refl _) h
  rw [mappingEntries, Except.run_bind_of_ok (run_entriesOf m i),
    Except.run_bind_of_ok (run_entriesOf m i)]
  cases hentries : entries? m i with
  | none => rfl
  | some entries =>
    simp only [Option.isNone_some, Bool.false_eq_true, if_false]
    rw [Except.run_bind_of_ok hget, StateT.run_bind, StateT.run_bind, hflatten]

end Making
end Yaml
end RegistryAuth
