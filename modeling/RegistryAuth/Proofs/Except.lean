import Mathlib.Data.List.Forall2

/-!
# Computations that may fail

What is known of the parts of a computation when the whole gives a result, of two computations
that give the same in part, and of all that a computation can come to, without a state
(`Except.Ensures`) and with one (`Except.Maintains`).
-/

namespace RegistryAuth
namespace Except

variable {ε ε' α β : Type}

theorem bind_eq_ok {x : Except ε α} {f : α → Except ε β} {b : β} (h : x >>= f = .ok b) :
    ∃ a, x = .ok a ∧ f a = .ok b := by
  cases x with
  | error e => cases h
  | ok a => exact ⟨a, rfl, h⟩

theorem map_eq_ok {x : Except ε α} {f : α → β} {b : β} (h : x.map f = .ok b) :
    ∃ a, x = .ok a ∧ f a = b := by
  cases x with
  | error e => cases h
  | ok a => exact ⟨a, rfl, Except.ok.inj h⟩

theorem map_eq_error {x : Except ε α} {f : α → β} {e : ε} (h : x.map f = .error e) :
    x = .error e := by
  cases x with
  | error e' => exact congrArg _ (Except.error.inj h)
  | ok a => cases h

theorem mapError_eq_ok {x : Except ε α} {f : ε → ε'} {a : α} (h : x.mapError f = .ok a) :
    x = .ok a := by
  cases x with
  | error e => cases h
  | ok b => rw [Except.ok.inj h]

theorem exists_error_iff {x : Except ε α} : (∃ e, x = .error e) ↔ ¬∃ a, x = .ok a := by
  cases x <;> simp

/-- Behind an action that gives something, the run goes on with it. -/
theorem run_bind_of_ok {σ : Type} {act : StateT σ (Except ε) α} {f : α → StateT σ (Except ε) β}
    {s s' : σ} {a : α} (h : act.run s = .ok (a, s')) : (act >>= f).run s = (f a).run s' := by
  rw [StateT.run_bind, h]
  rfl

/-- A computation that fails under a condition gives something where the condition is not met. -/
theorem guard_eq_ok {p : Prop} [Decidable p] {e : ε} {f : Unit → Except ε β} {b : β}
    (h : (if p then MonadExcept.throw e >>= f else f ()) = .ok b) : ¬p ∧ f () = .ok b := by
  split at h
  · cases h
  · next hp => exact ⟨hp, h⟩

/-- Computations one after the other all give something, each its own. -/
theorem mapM_eq_ok_iff {f : α → Except ε β} {as : List α} {bs : List β} :
    as.mapM f = .ok bs ↔ List.Forall₂ (fun a b => f a = .ok b) as bs := by
  induction as generalizing bs with
  | nil =>
    rw [List.forall₂_nil_left_iff]
    exact ⟨fun h => (Except.ok.inj h).symm, fun h => h ▸ rfl⟩
  | cons a as ih =>
    rw [List.mapM_cons, List.forall₂_cons_left_iff]
    constructor
    · intro h
      obtain ⟨b, hb, h⟩ := bind_eq_ok h
      obtain ⟨rest, hrest, h⟩ := bind_eq_ok h
      exact ⟨b, rest, hb, ih.mp hrest, (Except.ok.inj h).symm⟩
    · rintro ⟨b, rest, hb, hrest, rfl⟩
      rw [hb, ih.mpr hrest]
      rfl

/-- Two computations that agree on a part of what they give fail alike, or agree on that
part. -/
theorem cases_of_map_eq {x y : Except ε α} {f : α → β} (h : x.map f = y.map f) :
    (∃ e, x = .error e ∧ y = .error e) ∨ ∃ a b, x = .ok a ∧ y = .ok b ∧ f a = f b := by
  cases x with
  | error e =>
    cases y with
    | error e' => cases h; exact Or.inl ⟨_, rfl, rfl⟩
    | ok b => cases h
  | ok a =>
    cases y with
    | error e' => cases h
    | ok b => exact Or.inr ⟨a, b, rfl, rfl, Except.ok.inj h⟩

/-- Both fail alike, or both give something, and what they give is related. -/
inductive Agree (R : α → β → Prop) : Except ε α → Except ε β → Prop
  | error (e : ε) : Agree R (.error e) (.error e)
  | ok {a : α} {b : β} (h : R a b) : Agree R (.ok a) (.ok b)

theorem Agree.of_eq {R : α → α → Prop} (hrefl : ∀ a, R a a) {x y : Except ε α} (h : x = y) :
    Agree R x y := by
  subst h
  cases x with
  | error e => exact .error e
  | ok a => exact .ok (hrefl a)

theorem Agree.map {γ δ : Type} {R : α → β → Prop} {S : γ → δ → Prop} {x : Except ε α}
    {y : Except ε β} (h : Agree R x y) {f : α → γ} {g : β → δ}
    (hfg : ∀ a b, R a b → S (f a) (g b)) : Agree S (x.map f) (y.map g) := by
  cases h with
  | error e => exact .error e
  | ok h => exact .ok (hfg _ _ h)

theorem Agree.mapError {R : α → β → Prop} {x : Except ε α} {y : Except ε β} (h : Agree R x y)
    (f : ε → ε') : Agree R (x.mapError f) (y.mapError f) := by
  cases h with
  | error e => exact .error (f e)
  | ok h => exact .ok h

/-- What is given meets one condition, and a failure another. -/
def Ensures (P : α → Prop) (E : ε → Prop) : Except ε α → Prop
  | .ok a => P a
  | .error e => E e

namespace Ensures

variable {P : α → Prop} {Q : β → Prop} {E : ε → Prop} {x : Except ε α}

theorem bind (h : Ensures P E x) {f : α → Except ε β} (hf : ∀ a, P a → Ensures Q E (f a)) :
    Ensures Q E (x >>= f) := by
  cases x with
  | error e => exact h
  | ok a => exact hf a h

theorem map (h : Ensures P E x) {f : α → β} (hf : ∀ a, P a → Q (f a)) :
    Ensures Q E (x.map f) := by
  cases x with
  | error e => exact h
  | ok a => exact hf a h

theorem ite {c : Prop} [Decidable c] {y : Except ε α} (hx : Ensures P E x) (hy : Ensures P E y) :
    Ensures P E (if c then x else y) := by
  split
  · exact hx
  · exact hy

theorem mono (h : Ensures P E x) {P' : α → Prop} {E' : ε → Prop} (hP : ∀ a, P a → P' a)
    (hE : ∀ e, E e → E' e) : Ensures P' E' x := by
  cases x with
  | error e => exact hE e h
  | ok a => exact hP a h

theorem of_eq_error {e : ε} (h : Ensures P E x) (hx : x = .error e) : E e := by
  rw [hx] at h
  exact h

theorem of_eq_ok {a : α} (h : Ensures P E x) (hx : x = .ok a) : P a := by
  rw [hx] at h
  exact h

end Ensures

/-- From a state that meets the invariant, the action gives what meets one condition and leads
to such a state, or its failure meets another. -/
def Maintains {σ : Type} (I : σ → Prop) (P : α → Prop) (E : ε → Prop)
    (act : StateT σ (Except ε) α) : Prop :=
  ∀ s, I s → Ensures (fun x => P x.1 ∧ I x.2) E (act.run s)

namespace Maintains

variable {σ : Type} {I : σ → Prop} {P : α → Prop} {Q : β → Prop} {E : ε → Prop}
  {act : StateT σ (Except ε) α}

theorem pure {a : α} (h : P a) : Maintains I P E (pure a) := fun _ hs => ⟨h, hs⟩

theorem throw {e : ε} (h : E e) : Maintains I P E (throw e) := fun _ _ => h

theorem get : Maintains I I E get := fun _ hs => ⟨hs, hs⟩

theorem set {s : σ} (h : I s) : Maintains I (fun _ => True) E (set s) := fun _ _ => ⟨trivial, h⟩

theorem modify {f : σ → σ} (h : ∀ s, I s → I (f s)) :
    Maintains I (fun _ => True) E (modify f) := fun s hs => ⟨trivial, h s hs⟩

theorem bind (h : Maintains I P E act) {f : α → StateT σ (Except ε) β}
    (hf : ∀ a, P a → Maintains I Q E (f a)) : Maintains I Q E (act >>= f) := fun s hs =>
  Ensures.bind (h s hs) fun x hx => hf x.1 hx.1 x.2 hx.2

theorem ite {c : Prop} [Decidable c] {act' : StateT σ (Except ε) α} (h : Maintains I P E act)
    (h' : Maintains I P E act') : Maintains I P E (if c then act else act') := by
  split
  · exact h
  · exact h'

end Maintains
end Except
end RegistryAuth
