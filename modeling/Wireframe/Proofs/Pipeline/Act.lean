import Mathlib.Order.Defs.Unbundled
import Wireframe.Pipeline.Stage

/-!
# What steps leave behind

Steps leave a context behind also when they fail. Three properties say that it is the right one, each
closed under doing one thing after another:

* `Act.Keeps` — whatever becomes of the steps, the context left behind is related to the first one.
* `Act.Sure` — the steps never fail.
* `Act.FailsWithin` — if the steps fail, the context left behind is related to the first one. For this
  all that can fail has to come ahead of the first change that counts.
-/

set_option autoImplicit false

namespace Wireframe.Act

variable {α β : Type} {r : Context → Context → Prop} {x : Act α} {g : α → Act β}

/-- The context that steps leave behind. -/
def left (x : Act α) (c : Context) : Context :=
  match x.run c with
  | .ok _ next => next
  | .error _ next => next

/-- Steps that change a context only in a way that a relation admits. -/
def Keeps (r : Context → Context → Prop) (x : Act α) : Prop := ∀ c, r (x.left c) c

/-- Steps that come to a value in every context. -/
def Sure (x : Act α) : Prop := ∀ c, ∃ a next, x.run c = .ok a next

/-- Steps that, where they fail, have changed the context only in a way that a relation admits. -/
def FailsWithin (r : Context → Context → Prop) (x : Act α) : Prop :=
  ∀ c f next, x.run c = .error f next → r next c

theorem left_of_ok {c next : Context} {a : α} (h : x.run c = .ok a next) : x.left c = next := by
  unfold left
  rw [h]

theorem left_of_error {c next : Context} {f : Failure} (h : x.run c = .error f next) :
    x.left c = next := by
  unfold left
  rw [h]

/-! ## Single steps -/

@[simp] theorem run_ofExcept_ok (a : α) (c : Context) :
    (liftM (Except.ok a : Except Failure α) : Act α).run c = .ok a c := rfl

@[simp] theorem run_ofExcept_error (f : Failure) (c : Context) :
    (liftM (Except.error f : Except Failure α) : Act α).run c = .error f c := rfl

@[simp] theorem run_fail (f : Failure) (c : Context) : (throw f : Act α).run c = .error f c := rfl

@[simp] theorem run_find? (key : String) (c : Context) :
    (find? key).run c = .ok (c.get? key) c := rfl

theorem run_need (key : String) (c : Context) :
    (need key).run c = (liftM (c.need key) : Act Datum).run c := rfl

theorem run_need_of_get? {key : String} {c : Context} {d : Datum} (h : c.get? key = some d) :
    (need key).run c = .ok d c := by
  rw [run_need, Context.need, h]
  rfl

theorem run_need_of_none {key : String} {c : Context} (h : c.get? key = none) :
    (need key).run c = .error (.missingKey key) c := by
  rw [run_need, Context.need, h]
  rfl

@[simp] theorem run_put (key : String) (d : Datum) (c : Context) :
    (put key d).run c = .ok () (c.put key d) := rfl

@[simp] theorem run_warn (warnings : List String) (c : Context) :
    (warn warnings).run c = .ok () (c.warn warnings) := rfl

@[simp] theorem run_addErrors (errors : List String) (c : Context) :
    (addErrors errors).run c = .ok () (c.addErrors errors) := rfl

/-! ## One thing after another -/

theorem run_bind_of_ok {c next : Context} {a : α} (h : x.run c = .ok a next) :
    (x >>= g).run c = (g a).run next := by
  rw [EStateM.run_bind, h]

theorem run_bind_of_error {c next : Context} {f : Failure} (h : x.run c = .error f next) :
    (x >>= g).run c = .error f next := by
  rw [EStateM.run_bind, h]

/-- Steps one after another fail in the first or, if that passes, in the second. -/
theorem run_bind_eq_error {c next : Context} {f : Failure} (h : (x >>= g).run c = .error f next) :
    x.run c = .error f next ∨
      ∃ a middle, x.run c = .ok a middle ∧ (g a).run middle = .error f next := by
  cases hx : x.run c with
  | ok a middle =>
    rw [run_bind_of_ok hx] at h
    exact .inr ⟨a, middle, rfl, h⟩
  | error e middle =>
    rw [run_bind_of_error hx] at h
    cases h
    exact .inl rfl

/-- Steps one after another come to a value in both. -/
theorem run_bind_eq_ok {c next : Context} {b : β} (h : (x >>= g).run c = .ok b next) :
    ∃ a middle, x.run c = .ok a middle ∧ (g a).run middle = .ok b next := by
  cases hx : x.run c with
  | ok a middle =>
    rw [run_bind_of_ok hx] at h
    exact ⟨a, middle, rfl, h⟩
  | error f middle =>
    rw [run_bind_of_error hx] at h
    cases h

theorem run_ofExcept_eq_ok {e : Except Failure α} {c next : Context} {a : α}
    (h : (liftM e : Act α).run c = .ok a next) : e = .ok a ∧ next = c := by
  cases e with
  | ok b =>
    cases h
    exact ⟨rfl, rfl⟩
  | error f => cases h

theorem run_need_eq_ok {key : String} {c next : Context} {d : Datum}
    (h : (need key).run c = .ok d next) : c.get? key = some d ∧ next = c := by
  cases hget : c.get? key with
  | none =>
    rw [run_need_of_none hget] at h
    cases h
  | some e =>
    rw [run_need_of_get? hget] at h
    cases h
    exact ⟨rfl, rfl⟩

/-! ## Steps that keep what a relation asks for -/

namespace Keeps

theorem bind [IsPreorder Context r] (hx : Keeps r x) (hg : ∀ a, Keeps r (g a)) :
    Keeps r (x >>= g) := by
  intro c
  have hfirst := hx c
  cases h : x.run c with
  | ok a next =>
    have hsecond := hg a next
    rw [left_of_ok h] at hfirst
    unfold left at hsecond ⊢
    rw [run_bind_of_ok h]
    exact trans_of r hsecond hfirst
  | error f next =>
    rw [left_of_error h] at hfirst
    unfold left
    rw [run_bind_of_error h]
    exact hfirst

variable [Std.Refl r]

theorem pure (a : α) : Keeps r (pure a : Act α) := refl_of r

theorem throw (f : Failure) : Keeps r (throw f : Act α) := refl_of r

theorem ofExcept (e : Except Failure α) : Keeps r (liftM e : Act α) := by
  intro c
  cases e <;> exact refl_of r c

theorem find? (key : String) : Keeps r (find? key) := refl_of r

theorem need (key : String) : Keeps r (need key) := fun c => ofExcept (c.need key) c

end Keeps

/-! ## Steps that never fail -/

namespace Sure

theorem run_ne_error (h : Sure x) (c : Context) (f : Failure) (next : Context) :
    x.run c ≠ .error f next := by
  obtain ⟨a, other, hok⟩ := h c
  rw [hok]
  nofun

theorem bind (hx : Sure x) (hg : ∀ a, Sure (g a)) : Sure (x >>= g) := by
  intro c
  obtain ⟨a, next, h⟩ := hx c
  rw [run_bind_of_ok h]
  exact hg a next

theorem pure (a : α) : Sure (pure a : Act α) := fun c => ⟨a, c, rfl⟩

theorem put (key : String) (d : Datum) : Sure (put key d) := fun _ => ⟨_, _, rfl⟩

theorem warn (warnings : List String) : Sure (warn warnings) := fun _ => ⟨_, _, rfl⟩

theorem addErrors (errors : List String) : Sure (addErrors errors) := fun _ => ⟨_, _, rfl⟩

end Sure

/-! ## Steps that fail before they change anything that counts -/

namespace FailsWithin

theorem ofKeeps (h : Keeps r x) : FailsWithin r x := by
  intro c f next hf
  have hleft := h c
  rwa [left_of_error hf] at hleft

theorem ofSure (h : Sure x) : FailsWithin r x :=
  fun c f next hf => absurd hf (h.run_ne_error c f next)

/-- What the relation admits may be done ahead of steps that fail within it. -/
theorem bind [IsTrans Context r] (hx : Keeps r x) (hg : ∀ a, FailsWithin r (g a)) :
    FailsWithin r (x >>= g) := by
  intro c f next h
  rcases run_bind_eq_error h with hfirst | ⟨a, middle, hpass, hsecond⟩
  · exact ofKeeps hx c f next hfirst
  · have hmiddle := hx c
    rw [left_of_ok hpass] at hmiddle
    exact trans_of r (hg a middle f next hsecond) hmiddle

/-- Behind steps that fail within the relation, anything may be done that never fails. -/
theorem bindSure (hx : FailsWithin r x) (hg : ∀ a, Sure (g a)) : FailsWithin r (x >>= g) := by
  intro c f next h
  rcases run_bind_eq_error h with hfirst | ⟨a, middle, -, hsecond⟩
  · exact hx c f next hfirst
  · exact absurd hsecond ((hg a).run_ne_error middle f next)

end FailsWithin

end Wireframe.Act
