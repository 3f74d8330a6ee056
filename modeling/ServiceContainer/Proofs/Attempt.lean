import ServiceContainer.World.Lookup

/-!
# What computations in the world ensure

A property of the results and the worlds in which a computation can end. A computation that does not end ensures
everything.

## Main definitions

* `Attempt.Ensures` — every end of a computation has a property
* `Attempt.Halts` — a computation ends

## Main statements

* `Attempt.Ensures.bind` — one computation after another
* `Attempt.Ensures.observe` — a computation whose refusal is a result
* `Attempt.Halts.bind`, `Attempt.Halts.mapM` — computations that end, one after another
-/

namespace ServiceContainer.Attempt

variable {α β : Type}

/-- Whatever the computation ends with from a world, it has the property. -/
def Ensures (m : Attempt α) (w : World) (post : Except DependencyError α → World → Prop) : Prop :=
  ∀ r w', m.run w = some (r, w') → post r w'

variable {m : Attempt α} {f : α → Attempt β} {w : World}

theorem Ensures.mono {post post' : Except DependencyError α → World → Prop} (h : m.Ensures w post)
    (hpost : ∀ r w', post r w' → post' r w') : m.Ensures w post' :=
  fun r w' hrun => hpost r w' (h r w' hrun)

theorem Ensures.and {post post' : Except DependencyError α → World → Prop} (h : m.Ensures w post)
    (h' : m.Ensures w post') : m.Ensures w fun r w' => post r w' ∧ post' r w' :=
  fun r w' hrun => ⟨h r w' hrun, h' r w' hrun⟩

theorem Ensures.pure {x : α} {post : Except DependencyError α → World → Prop} (h : post (.ok x) w) :
    (pure x : Attempt α).Ensures w post := by
  intro r w' hrun
  obtain ⟨rfl, rfl⟩ := Prod.mk.inj (Option.some.inj hrun)
  exact h

theorem Ensures.throw {e : DependencyError} {post : Except DependencyError α → World → Prop}
    (h : post (.error e) w) : (throw e : Attempt α).Ensures w post := by
  intro r w' hrun
  obtain ⟨rfl, rfl⟩ := Prod.mk.inj (Option.some.inj hrun)
  exact h

theorem Ensures.endless {post : Except DependencyError α → World → Prop} :
    (endless : Attempt α).Ensures w post :=
  fun _ _ hrun => nomatch hrun

theorem run_bind : (m >>= f).run w = (m.run w).bind fun x =>
    match x with
    | (.ok y, w') => (f y).run w'
    | (.error e, w') => some (.error e, w') := by
  change Option.bind (m.run w) _ = _
  congr 1
  funext ⟨r, w'⟩
  cases r <;> rfl

theorem Ensures.bind {mid : Except DependencyError α → World → Prop}
    {post : Except DependencyError β → World → Prop} (h : m.Ensures w mid)
    (hok : ∀ x w', mid (.ok x) w' → (f x).Ensures w' post)
    (herror : ∀ e w', mid (.error e) w' → post (.error e) w') : (m >>= f).Ensures w post := by
  intro r w' hrun
  rw [run_bind] at hrun
  obtain ⟨⟨r₁, w₁⟩, hm, hf⟩ := Option.bind_eq_some_iff.mp hrun
  cases r₁ with
  | ok x => exact hok x w₁ (h _ _ hm) r w' hf
  | error e =>
    obtain ⟨rfl, rfl⟩ := Prod.mk.inj (Option.some.inj hf)
    exact herror e w₁ (h _ _ hm)

theorem Ensures.map {g : α → β} {post : Except DependencyError β → World → Prop}
    (h : m.Ensures w fun r w' => post (r.map g) w') : (g <$> m).Ensures w post := by
  rw [map_eq_pure_bind]
  exact h.bind (fun x w' hx => .pure hx) fun e w' he => he

theorem Ensures.get_bind {f : World → Attempt β} {post : Except DependencyError β → World → Prop}
    (h : (f w).Ensures w post) : (get >>= f : Attempt β).Ensures w post := by
  intro r w' hrun
  rw [run_bind] at hrun
  exact h r w' hrun

theorem Ensures.change {g : World → World} {post : Except DependencyError Unit → World → Prop}
    (h : post (.ok ()) (g w)) : (change g).Ensures w post := by
  intro r w' hrun
  obtain ⟨rfl, rfl⟩ := Prod.mk.inj (Option.some.inj hrun)
  exact h

theorem Ensures.changeGet {g : World → α × World} {post : Except DependencyError α → World → Prop}
    (h : post (.ok (g w).1) (g w).2) : (changeGet g).Ensures w post := by
  intro r w' hrun
  obtain ⟨rfl, rfl⟩ := Prod.mk.inj (Option.some.inj hrun)
  exact h

theorem Ensures.observe {post : Except DependencyError (Except DependencyError α) → World → Prop}
    (h : m.Ensures w fun r w' => post (.ok r) w') : m.observe.Ensures w post := by
  intro r w' hrun
  obtain ⟨⟨r₁, w₁⟩, hm, heq⟩ := Option.bind_eq_some_iff.mp hrun
  obtain ⟨rfl, rfl⟩ := Prod.mk.inj (Option.some.inj heq)
  exact h _ _ hm

/-! ### Computations that end -/

/-- The computation ends from every world, with a result or a refusal. -/
def Halts (m : Attempt α) : Prop := ∀ w, m.run w ≠ none

theorem Halts.pure (x : α) : (pure x : Attempt α).Halts := fun _ => Option.some_ne_none _

theorem Halts.throw (e : DependencyError) : (throw e : Attempt α).Halts := fun _ => Option.some_ne_none _

theorem Halts.changeGet (g : World → α × World) : (changeGet g).Halts := fun _ => Option.some_ne_none _

theorem Halts.change (g : World → World) : (change g).Halts := fun _ => Option.some_ne_none _

theorem Halts.bind (hm : m.Halts) (hf : ∀ x, (f x).Halts) : (m >>= f).Halts := by
  intro w
  rw [run_bind]
  obtain ⟨⟨r, w'⟩, hrun⟩ := Option.ne_none_iff_exists'.mp (hm w)
  rw [hrun, Option.bind_some]
  cases r with
  | ok x => exact hf x w'
  | error e => exact Option.some_ne_none _

theorem Halts.map {g : α → β} (hm : m.Halts) : (g <$> m).Halts := by
  rw [map_eq_pure_bind]
  exact hm.bind fun x => .pure (g x)

theorem Halts.get_bind {f : World → Attempt β} (hf : ∀ w, (f w).Halts) : (get >>= f : Attempt β).Halts := by
  intro w
  rw [run_bind]
  exact hf w w

theorem Halts.observe (hm : m.Halts) : m.observe.Halts := by
  intro w
  obtain ⟨⟨r, w'⟩, hrun⟩ := Option.ne_none_iff_exists'.mp (hm w)
  change (m.run w).bind _ ≠ none
  rw [hrun]
  exact Option.some_ne_none _

theorem Halts.mapM {g : α → Attempt β} {xs : List α} (hg : ∀ x ∈ xs, (g x).Halts) : (xs.mapM g).Halts := by
  induction xs with
  | nil => exact .pure []
  | cons x rest ih =>
    rw [List.mapM_cons]
    refine (hg x List.mem_cons_self).bind fun y => ?_
    exact (ih fun z hz => hg z (List.mem_cons_of_mem x hz)).bind fun ys => .pure (y :: ys)

end ServiceContainer.Attempt
