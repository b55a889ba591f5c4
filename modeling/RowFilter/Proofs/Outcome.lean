import RowFilter.Log

/-!
Steps that may fail, one after the other: what a result says about the steps on the way to it, and
what kinds of errors the whole may end with.
-/

namespace RowFilter

variable {α β : Type}

/-- Outcomes can be compared, so that runs on given inputs can be evaluated. -/
instance decEqOutcome [DecidableEq α] : DecidableEq (Except Error α)
  | .ok a, .ok b => decidable_of_iff (a = b) ⟨congrArg Except.ok, Except.ok.inj⟩
  | .error e, .error f => decidable_of_iff (e = f) ⟨congrArg Except.error, Except.error.inj⟩
  | .ok _, .error _ => isFalse (fun h => by cases h)
  | .error _, .ok _ => isFalse (fun h => by cases h)

@[simp] theorem ok_bind (a : α) (f : α → Except Error β) : (.ok a >>= f) = f a := rfl

@[simp] theorem error_bind (e : Error) (f : α → Except Error β) :
    (.error e >>= f) = .error e := rfl

@[simp] theorem pure_eq_ok (a : α) : (pure a : Except Error α) = .ok a := rfl

/-- Two steps succeed when the first one does and the second one does with its result. -/
theorem bind_eq_ok_iff {x : Except Error α} {f : α → Except Error β} {b : β} :
    (x >>= f) = .ok b ↔ ∃ a, x = .ok a ∧ f a = .ok b := by
  cases x with
  | ok a => simp
  | error e => simp

/-! ## Results that are reported -/

theorem Logged.andThen_fst (x : Logged α) (f : α → Logged β) :
    (x.andThen f).1 = x.1 >>= fun a => (f a).1 := by
  obtain ⟨e | a, log⟩ := x
  · rfl
  · rfl

theorem Logged.check_fst (x : Logged α) (f : α → Except Error β) :
    (x.check f).1 = x.1 >>= f :=
  x.andThen_fst _

/-- Only what a step does with the result there is matters. -/
theorem Logged.check_congr {x : Logged α} {f f' : α → Except Error β} {a : α} (hx : x.1 = .ok a)
    (hf : f a = f' a) : x.check f = x.check f' := by
  obtain ⟨result, log⟩ := x
  dsimp only at hx
  rw [hx, Logged.check, Logged.check, Logged.andThen, Logged.andThen, hf]

/-! ## Kinds of errors -/

/-- Fails with errors of a kind only. -/
def Fails {α : Type} (P : Error → Prop) (x : Except Error α) : Prop :=
  ∀ e, x = .error e → P e

section Fails

variable {P Q : Error → Prop}

theorem fails_ok (a : α) : Fails P (.ok a) := nofun

theorem fails_error {e : Error} (h : P e) : Fails P (.error e : Except Error α) := by
  rintro e' ⟨⟩
  exact h

theorem Fails.mono {x : Except Error α} (h : Fails P x) (hPQ : ∀ e, P e → Q e) : Fails Q x :=
  fun e he => hPQ e (h e he)

theorem Fails.bind {x : Except Error α} {f : α → Except Error β} (hx : Fails P x)
    (hf : ∀ a, Fails P (f a)) : Fails P (x >>= f) := by
  cases x with
  | ok a => exact hf a
  | error e => exact fails_error (hx e rfl)

theorem Fails.andThen {x : Logged α} {f : α → Logged β} (hx : Fails P x.1)
    (hf : ∀ a, Fails P (f a).1) : Fails P (x.andThen f).1 := by
  rw [Logged.andThen_fst]
  exact hx.bind hf

end Fails

/-! ## Results that are the same up to the error -/

/-- The same result, or errors that `g` does not tell apart. -/
inductive SameUpTo {κ : Type} (g : Error → κ) : Except Error α → Except Error α → Prop where
  | ok (a : α) : SameUpTo g (.ok a) (.ok a)
  | error {e e' : Error} (h : g e = g e') : SameUpTo g (.error e) (.error e')

section SameUpTo

variable {κ : Type} {g : Error → κ}

namespace SameUpTo

variable {x y z : Except Error α}

theorem refl (x : Except Error α) : SameUpTo g x x := by
  cases x with
  | ok a => exact .ok a
  | error e => exact .error rfl

theorem symm (h : SameUpTo g x y) : SameUpTo g y x := by
  cases h with
  | ok a => exact .ok a
  | error h => exact .error h.symm

theorem trans (h : SameUpTo g x y) (h' : SameUpTo g y z) : SameUpTo g x z := by
  cases h with
  | ok a => exact h'
  | error h =>
    cases h' with
    | error h' => exact .error (h.trans h')

theorem bind {f f' : α → Except Error β} (h : SameUpTo g x y)
    (hf : ∀ a, SameUpTo g (f a) (f' a)) : SameUpTo g (x >>= f) (y >>= f') := by
  cases h with
  | ok a => exact hf a
  | error h => exact .error h

/-- Errors are told apart by what they are. -/
theorem eq_of_id (h : SameUpTo id x y) : x = y := by
  cases h with
  | ok a => rfl
  | error h => exact congrArg Except.error h

end SameUpTo

/-- The same reports on the way to results that are the same up to the error. -/
def Logged.SameUpTo (g : Error → κ) (x y : Logged α) : Prop :=
  RowFilter.SameUpTo g x.1 y.1 ∧ x.2 = y.2

theorem Logged.SameUpTo.symm {x y : Logged α} (h : x.SameUpTo g y) : y.SameUpTo g x :=
  ⟨h.1.symm, h.2.symm⟩

theorem Logged.SameUpTo.trans {x y z : Logged α} (h : x.SameUpTo g y) (h' : y.SameUpTo g z) :
    x.SameUpTo g z :=
  ⟨h.1.trans h'.1, h.2.trans h'.2⟩

/-- Where there is a result, nothing differs. -/
theorem Logged.SameUpTo.eq_of_ok {x y : Logged α} {a : α} (h : x.SameUpTo g y)
    (hy : y.1 = .ok a) : x = y := by
  refine Prod.ext ?_ h.2
  obtain ⟨result, log⟩ := x
  obtain ⟨h, -⟩ := h
  rw [hy] at h ⊢
  cases h
  rfl

theorem Logged.SameUpTo.eq_of_id {x y : Logged α} (h : x.SameUpTo id y) : x = y :=
  Prod.ext h.1.eq_of_id h.2

theorem Logged.SameUpTo.andThen {x y : Logged α} {f f' : α → Logged β} (h : x.SameUpTo g y)
    (hf : ∀ a, (f a).SameUpTo g (f' a)) : (x.andThen f).SameUpTo g (y.andThen f') := by
  obtain ⟨x, log⟩ := x
  obtain ⟨y, log'⟩ := y
  obtain ⟨hresult, hlog⟩ := h
  dsimp only at hresult hlog
  subst hlog
  cases hresult with
  | ok a => exact ⟨(hf a).1, congrArg (log ++ ·) (hf a).2⟩
  | error h => exact ⟨.error h, rfl⟩

end SameUpTo

end RowFilter
