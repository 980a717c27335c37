import Mathlib.Data.List.Basic

/-!
# What holds of every value of a computation

A computation in a monad always has a property if it comes to nothing but values with the property,
whatever else it does.
-/

namespace Reckoner

variable {m : Type → Type} [Monad m] {α β : Type} {P : α → Prop} {Q : β → Prop}

/-- Whatever the computation comes to has the property. -/
def Always (P : α → Prop) (x : m α) : Prop :=
  ∃ y : m {a // P a}, Subtype.val <$> y = x

theorem always_id {x : Id α} : Always P x ↔ P x := by
  constructor
  · rintro ⟨y, rfl⟩
    exact y.2
  · exact fun holds => ⟨⟨x, holds⟩, rfl⟩

namespace Always

variable [LawfulMonad m]

theorem pure {a : α} (holds : P a) : Always P (pure a : m α) :=
  ⟨Pure.pure ⟨a, holds⟩, map_pure _ _⟩

theorem of_forall (holds : ∀ a, P a) (x : m α) : Always P x :=
  ⟨(fun a => ⟨a, holds a⟩) <$> x, by rw [← comp_map]; exact id_map x⟩

theorem map {x : m β} {f : β → α} (first : Always (fun b => P (f b)) x) : Always P (f <$> x) := by
  rcases first with ⟨y, rfl⟩
  exact ⟨(fun b => ⟨f b.1, b.2⟩) <$> y, by rw [← comp_map, ← comp_map]; rfl⟩

theorem imp {R : α → Prop} {x : m α} (first : Always P x) (weaker : ∀ a, P a → R a) :
    Always R x := by
  rcases first with ⟨y, rfl⟩
  exact ⟨(fun a => ⟨a.1, weaker a.1 a.2⟩) <$> y, by rw [← comp_map]; rfl⟩

theorem bind {x : m α} {f : α → m β} (first : Always P x)
    (next : ∀ a, P a → Always Q (f a)) : Always Q (x >>= f) := by
  rcases first with ⟨y, rfl⟩
  choose g values using next
  refine ⟨y >>= fun a => g a.1 a.2, ?_⟩
  simp only [map_bind, values, bind_map_left]

theorem bind_congr {x : m α} {f g : α → m β} (first : Always P x)
    (same : ∀ a, P a → f a = g a) : x >>= f = x >>= g := by
  rcases first with ⟨y, rfl⟩
  rw [bind_map_left, bind_map_left]
  exact congrArg (y >>= ·) (funext fun a => same a.1 a.2)

end Always

end Reckoner
