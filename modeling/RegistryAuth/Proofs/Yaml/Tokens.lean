import RegistryAuth.Proofs.Yaml.Token
import RegistryAuth.Yaml.Tokens

/-!
# What ends the tokens of a text

A step of the scanner leads from a place in the text to another, and if it fails, the text
accounts for a fault of a scalar (`Scanner.step_steps`).  So the text accounts for what ends its
tokens (`Tokens.fault_of_ofText`).
-/

namespace RegistryAuth
namespace Yaml
namespace Scanner

variable {text : List Char} {s : Scanner}

/-- The place of the scanner is in the text. -/
def IsIn (text : List Char) (s : Scanner) : Prop := s.place.IsIn text

/-- A part of a step ends at a place in the text, or fails by a fault of it. -/
abbrev Steps (text : List Char) (r : Except Fault Scanner) : Prop := Reads text (IsIn text) r

/-! ## Keys and indentation -/

theorem dropStale_steps (h : s.IsIn text) : Steps text s.dropStale := by
  rw [dropStale]
  split
  · exact reads_refuse _
  · exact h

theorem dropPending_steps (h : s.IsIn text) : Steps text s.dropPending := by
  rw [dropPending]
  split
  · exact h
  · split
    · exact reads_refuse _
    · exact h

theorem savePending_steps (h : s.IsIn text) : Steps text s.savePending := by
  rw [savePending]
  split
  · exact h
  · exact Except.Ensures.bind (dropPending_steps h) fun _ hs => hs

theorem unwindTo_isIn (h : s.IsIn text) (column : Int) (indents : List Int) :
    (unwindTo column indents s).IsIn text := by
  induction indents generalizing s with
  | nil => exact h
  | cons outer rest ih =>
    rw [unwindTo]
    split
    · exact ih (s := { s.push .blockEnd with indent := outer, indents := rest }) h
    · exact h

theorem unwind_isIn (h : s.IsIn text) (column : Int) : (s.unwind column).IsIn text := by
  rw [unwind]
  split
  · exact h
  · exact unwindTo_isIn h _ _

theorem indentTo_isIn (h : s.IsIn text) (column : Int) : (s.indentTo column).2.IsIn text := by
  rw [indentTo]
  split
  · exact h
  · exact h

theorem openBlock_isIn (h : s.IsIn text) (t : Token) : (s.openBlock t).IsIn text := by
  have hindent := indentTo_isIn h s.place.column
  rw [openBlock]
  split
  · rename_i heq
    rw [heq] at hindent
    exact hindent
  · rename_i heq
    rw [heq] at hindent
    exact hindent

theorem emit_isIn (h : s.IsIn text) (n : Nat) (t : Token) : (s.emit n t).IsIn text :=
  Cursor.IsIn.skip h n

theorem confirmKey_isIn (h : s.IsIn text) (k : PendingKey) : (s.confirmKey k).IsIn text := by
  rw [confirmKey]
  split
  · exact h
  · have hindent (queue : List Token) := indentTo_isIn
      (s := { s with
        pending := s.pending.filter fun e => e.1 != s.flow
        queue := queue
        keysAllowed := false }) h k.column
    split
    · rename_i heq
      have := hindent (s.queue.insertIdx (k.number - s.taken) .key)
      rw [heq] at this
      exact this
    · rename_i heq
      have := hindent (s.queue.insertIdx (k.number - s.taken) .key)
      rw [heq] at this
      exact this

theorem skipGaps_isIn (h : s.IsIn text) (fuel : Nat) : (skipGaps fuel s).IsIn text := by
  induction fuel generalizing s with
  | zero => exact h
  | succ fuel ih =>
    rw [skipGaps]
    split
    · exact ih (Cursor.IsIn.lineBreak (Cursor.IsIn.skipComment h))
    · exact Cursor.IsIn.skipComment h

theorem skipToToken_isIn (h : s.IsIn text) : s.skipToToken.IsIn text := by
  rw [skipToToken]
  split
  · exact skipGaps_isIn (s := { s with place := s.place.next }) (Cursor.IsIn.next h) _
  · exact skipGaps_isIn h _

/-! ## Tokens -/

theorem closeAll_steps (h : s.IsIn text) : Steps text s.closeAll :=
  Except.Ensures.bind (dropPending_steps (unwind_isIn h _)) fun _ hs => hs

theorem streamEnd_steps (h : s.IsIn text) : Steps text s.streamEnd :=
  Except.Ensures.bind (closeAll_steps h) fun _ hs => hs

theorem directive_steps (h : s.IsIn text) : Steps text s.directive :=
  Except.Ensures.bind (closeAll_steps h) fun _ hs =>
    Except.Ensures.bind (readDirective_keeps (Cursor.IsIn.next hs)) fun _ hx => hx

theorem documentMark_steps (h : s.IsIn text) (t : Token) : Steps text (s.documentMark t) :=
  Except.Ensures.bind (closeAll_steps h) fun _ hs => emit_isIn hs _ _

theorem flowStart_steps (h : s.IsIn text) (t : Token) : Steps text (s.flowStart t) :=
  Except.Ensures.bind (savePending_steps h) fun _ hs => emit_isIn hs _ t

theorem flowEnd_steps (h : s.IsIn text) (t : Token) : Steps text (s.flowEnd t) :=
  Except.Ensures.bind (dropPending_steps h) fun _ hs => emit_isIn hs _ t

theorem flowEntry_steps (h : s.IsIn text) : Steps text s.flowEntry :=
  Except.Ensures.bind (dropPending_steps (s := { s with keysAllowed := true }) h) fun _ hs =>
    emit_isIn hs 1 .flowEntry

/-- A mark that may open a block collection outside a flow collection. -/
theorem mark_steps (h : s.IsIn text) (opening mark : Token) (keysAllowed : Scanner → Bool) :
    Steps text (do
      let s := if s.inFlow then s else s.openBlock opening
      let s ← { s with keysAllowed := keysAllowed s }.dropPending
      return s.emit 1 mark) := by
  have hend {s : Scanner} (h : s.IsIn text) : Steps text (do
      let s ← { s with keysAllowed := keysAllowed s }.dropPending
      return s.emit 1 mark) :=
    Except.Ensures.bind (dropPending_steps (s := { s with keysAllowed := keysAllowed s }) h)
      fun _ hs => emit_isIn hs 1 mark
  split
  · exact hend h
  · exact hend (openBlock_isIn h opening)

theorem blockEntry_steps (h : s.IsIn text) : Steps text s.blockEntry := by
  rw [blockEntry]
  split
  · exact reads_refuse _
  · exact mark_steps h .blockSequenceStart .blockEntry fun _ => true

theorem explicitKey_steps (h : s.IsIn text) : Steps text s.explicitKey := by
  rw [explicitKey]
  split
  · exact reads_refuse _
  · exact mark_steps h .blockMappingStart .key fun s => !s.inFlow

theorem valueMark_steps (h : s.IsIn text) : Steps text s.valueMark := by
  rw [valueMark]
  cases s.pending.lookup s.flow with
  | some k => exact emit_isIn (confirmKey_isIn h k) 1 .value
  | none =>
    dsimp only
    by_cases hplace : (!s.inFlow && !s.keysAllowed) = true
    · rw [if_pos hplace]
      exact reads_refuse _
    · rw [if_neg hplace]
      exact mark_steps h .blockMappingStart .value fun s => !s.inFlow

theorem keyed_steps (h : s.IsIn text) {read : Cursor → Except Fault (Token × Cursor)}
    (hread : ∀ p : Cursor, p.IsIn text → Keeps text (read p)) : Steps text (s.keyed read) :=
  Except.Ensures.bind (savePending_steps h) fun _ hs =>
    Except.Ensures.bind (hread _ hs) fun _ hx => hx

theorem blockScalar_steps (h : s.IsIn text) (folded : Bool) : Steps text (s.blockScalar folded) :=
  Except.Ensures.bind (dropPending_steps (s := { s with keysAllowed := true }) h) fun _ hs =>
    Except.Ensures.bind (readBlockScalar_keeps hs) fun _ hx => hx

theorem plainScalar_steps (h : s.IsIn text) : Steps text s.plainScalar :=
  Except.Ensures.bind (savePending_steps h) fun _ hs => readPlain_isIn hs

theorem scanToken_steps (h : s.IsIn text) : Steps text s.scanToken := by
  rw [scanToken]
  refine Except.Ensures.ite (streamEnd_steps h) ?_
  refine Except.Ensures.ite (directive_steps h) ?_
  refine Except.Ensures.ite (documentMark_steps h _) ?_
  refine Except.Ensures.ite (documentMark_steps h _) ?_
  refine Except.Ensures.ite (flowStart_steps h _) ?_
  refine Except.Ensures.ite (flowStart_steps h _) ?_
  refine Except.Ensures.ite (flowEnd_steps h _) ?_
  refine Except.Ensures.ite (flowEnd_steps h _) ?_
  refine Except.Ensures.ite (flowEntry_steps h) ?_
  refine Except.Ensures.ite (blockEntry_steps h) ?_
  refine Except.Ensures.ite (explicitKey_steps h) ?_
  refine Except.Ensures.ite (valueMark_steps h) ?_
  have hanchor (name : List Char → Token) :
      Steps text (s.keyed fun p => (readAnchor p).map fun x => (name x.1, x.2)) :=
    keyed_steps h fun _ hp => (readAnchor_keeps hp).map fun _ hx => hx
  have hquoted (double : Bool) :
      Steps text (s.keyed fun p => (readQuoted double p).map fun x => (.scalar x.1 false, x.2)) :=
    keyed_steps h fun _ hp => (readQuoted_keeps hp).map fun _ hx => hx
  refine Except.Ensures.ite (hanchor .alias) ?_
  refine Except.Ensures.ite (hanchor .anchor) ?_
  refine Except.Ensures.ite
    (keyed_steps h fun _ hp => (readTag_keeps hp).map fun _ hx => hx) ?_
  refine Except.Ensures.ite (blockScalar_steps h _) ?_
  refine Except.Ensures.ite (blockScalar_steps h _) ?_
  refine Except.Ensures.ite (hquoted false) ?_
  refine Except.Ensures.ite (hquoted true) ?_
  exact Except.Ensures.ite (plainScalar_steps h) (reads_refuse _)

/-! ## Steps -/

theorem step_steps (h : s.IsIn text) : Steps text s.step :=
  Except.Ensures.bind (dropStale_steps (skipToToken_isIn h)) fun s hs =>
    scanToken_steps (unwind_isIn hs s.place.column)

theorem release_isIn (h : s.IsIn text) (ts : List Token) : (release ts s).2.IsIn text := by
  induction ts generalizing s with
  | nil => exact h
  | cons t ts ih =>
    rw [release]
    split
    · exact h
    · exact ih (s := { s with queue := ts, taken := s.taken + 1 }) h

section

-- Comparing the two sides must not open the steps themselves.
attribute [local irreducible] step dropStale release

theorem run_zero (s : Scanner) : s.run 0 = ⟨[], none⟩ := rfl

theorem run_succ (s : Scanner) (fuel : Nat) : s.run (fuel + 1) =
    match s.step with
    | .error f => ⟨[], some f⟩
    | .ok s =>
      match if s.done then .ok s else s.dropStale with
      | .error f => ⟨[], some f⟩
      | .ok s =>
        if (release s.queue s).2.done then ⟨(release s.queue s).1, none⟩
        else ⟨(release s.queue s).1 ++ ((release s.queue s).2.run fuel).tokens,
          ((release s.queue s).2.run fuel).fault⟩ := rfl

end

/-- The text accounts for what ends a run. -/
theorem run_fault (h : s.IsIn text) (fuel : Nat) {f : Fault} (hf : (s.run fuel).fault = some f) :
    f.IsOf text := by
  induction fuel generalizing s with
  | zero =>
    rw [run_zero] at hf
    cases hf
  | succ fuel ih =>
    rw [run_succ] at hf
    have hstep := step_steps h
    split at hf
    · rename_i e herror
      obtain rfl : e = f := Option.some.inj hf
      exact hstep.of_eq_error herror
    · rename_i s' hok
      have hs' : s'.IsIn text := hstep.of_eq_ok hok
      have hnext : Steps text (if s'.done then .ok s' else s'.dropStale) := by
        split
        · exact hs'
        · exact dropStale_steps hs'
      split at hf
      · rename_i e herror
        obtain rfl : e = f := Option.some.inj hf
        exact hnext.of_eq_error herror
      · rename_i s'' hok'
        split at hf
        · cases hf
        · exact ih (release_isIn (hnext.of_eq_ok hok') _) hf

end Scanner

/-- The text accounts for what ends its tokens. -/
theorem Tokens.fault_of_ofText {text : List Char} {f : Fault}
    (h : (Tokens.ofText text).fault = some f) : f.IsOf text :=
  Scanner.run_fault (s := .start text) (Cursor.start_isIn text) _ h

end Yaml
end RegistryAuth
