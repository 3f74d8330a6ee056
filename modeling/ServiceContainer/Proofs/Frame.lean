import ServiceContainer.Proofs.Run

/-!
# Steps that ask for nothing

New handles, disposal and letting go leave all instances and all cells as they are: instances are made and cells filled
by requests only.

## Main definitions

* `World.Keeps` — instances and cells stay as they are
* `World.Persists` — instances and filled cells stay

## Main statements

* `Handle.dispose_keeps`, `Handle.createScope_keeps`, `World.release_keeps` — what handles do
* `Stage.perform_keeps` — a step that is no request
-/

namespace ServiceContainer

/-- Instances and cells stay as they are. -/
structure World.Keeps (w w' : World) : Prop where
  instances : w'.instances = w.instances
  cells : w'.cells = w.cells

section

variable {w w' w'' : World}

theorem World.Keeps.refl (w : World) : w.Keeps w := ⟨rfl, rfl⟩

theorem World.Keeps.trans (h : w.Keeps w') (h' : w'.Keeps w'') : w.Keeps w'' :=
  ⟨h'.instances.trans h.instances, h'.cells.trans h.cells⟩

/-- Instances and filled cells stay; there may be more of both. -/
structure World.Persists (w w' : World) : Prop where
  instances : w.instances <+: w'.instances
  kept : ∀ n cell x, w.cell? n cell = some x → w'.cell? n cell = some x

theorem World.Persists.refl (w : World) : w.Persists w := ⟨List.prefix_refl _, fun _ _ _ h => h⟩

theorem World.Persists.trans (h : w.Persists w') (h' : w'.Persists w'') : w.Persists w'' :=
  ⟨h.instances.trans h'.instances, fun n cell x hx => h'.kept n cell x (h.kept n cell x hx)⟩

theorem World.Keeps.persists (h : w.Keeps w') : w.Persists w' where
  instances := h.instances ▸ List.prefix_refl _
  kept n cell x hx := by rwa [World.cell?, h.cells]

theorem World.Grows.persists {services : Site → Prop} (h : w.Grows w' services) : w.Persists w' :=
  ⟨h.instances, h.kept⟩

theorem World.newStore_keeps (w : World) : w.Keeps w.newStore.2 := ⟨rfl, rfl⟩

theorem World.newScope_keeps (w : World) : w.Keeps w.newScope.2 := ⟨rfl, rfl⟩

mutual

theorem Handle.dispose_keeps : ∀ (h : Handle) (w : World), w.Keeps (h.dispose w)
  | .root _ _, _ => ⟨rfl, rfl⟩
  | .scoped _ _ _, _ => ⟨rfl, rfl⟩
  | .scope id owner inner, w => by
    rw [Handle.dispose]
    split
    · exact .refl w
    · change w.Keeps (if owner then inner.dispose { w with ended := w.ended ++ [id] } else _)
      split
      · refine .trans ?_ (Handle.dispose_keeps inner _)
        exact ⟨rfl, rfl⟩
      · exact ⟨rfl, rfl⟩
  | .composed parts, w => by
    rw [Handle.dispose]
    exact disposeParts_keeps parts w
  | .foreign _, _ => ⟨rfl, rfl⟩

theorem disposeParts_keeps : ∀ (hs : List Handle) (w : World), w.Keeps (disposeParts hs w)
  | [], w => .refl w
  | h :: rest, w => by
    rw [disposeParts]
    exact (Handle.dispose_keeps h w).trans (disposeParts_keeps rest _)

end

mutual

theorem Handle.createScope_keeps : ∀ (h : Handle) (w : World), w.Keeps (h.createScope w).2
  | .root _ _, _ => ⟨rfl, rfl⟩
  | .scoped _ _ _, _ => ⟨rfl, rfl⟩
  | .scope _ _ inner, w => by
    rw [Handle.createScope]
    exact Handle.createScope_keeps inner w
  | .composed parts, w => by
    rw [Handle.createScope]
    exact (createScopes_keeps parts w).trans ⟨rfl, rfl⟩
  | .foreign _, _ => ⟨rfl, rfl⟩

theorem createScopes_keeps : ∀ (hs : List Handle) (w : World), w.Keeps (createScopes hs w).2
  | [], w => .refl w
  | h :: rest, w => by
    rw [createScopes]
    exact (Handle.createScope_keeps h w).trans (createScopes_keeps rest _)

end

theorem World.release_keeps (w : World) (h : Handle) (remaining : List Handle) : w.Keeps (w.release h remaining) := by
  have hfold (gone : List (Nat × Handle)) (v : World) : v.Keeps (gone.foldl (fun w s => s.2.dispose w) v) := by
    induction gone generalizing v with
    | nil => exact .refl v
    | cons x rest ih => exact (x.2.dispose_keeps v).trans (ih _)
  exact hfold _ w

namespace Stage

variable {s : Stage} {t : Step}

theorem put_keeps {w : World} (hw : s.world.Keeps w) (handles : List (String × Handle)) (name : String) (h : Handle) :
    s.world.Keeps ((Stage.mk w handles).put name h).world := by
  rw [put]
  split
  · exact hw.trans (World.release_keeps _ _ _)
  · exact hw

/-- Handles that are taken leave the world and the other handles as they are. -/
theorem takeAll?_eq_some {names : List String} {taken : Stage} {parts : List Handle}
    (h : s.takeAll? names = some (taken, parts)) : taken.world = s.world ∧ taken.handles.Sublist s.handles ∧
      ∀ p ∈ parts, ∃ y ∈ s.handles, y.2 = p := by
  induction names generalizing s parts with
  | nil =>
    obtain ⟨rfl, rfl⟩ := Prod.mk.inj (Option.some.inj h)
    exact ⟨rfl, List.Sublist.refl _, by simp⟩
  | cons name rest ih =>
    rw [Stage.takeAll?] at h
    obtain ⟨first, hfirst, h⟩ := Option.bind_eq_some_iff.mp h
    obtain ⟨⟨after, others⟩, hothers, heq⟩ := Option.bind_eq_some_iff.mp h
    obtain ⟨rfl, rfl⟩ := Prod.mk.inj (Option.some.inj heq)
    obtain ⟨hworld, hsub, hparts⟩ := ih hothers
    have hleft : (s.take name).handles.Sublist s.handles := without_sublist s name
    refine ⟨hworld, hsub.trans hleft, List.forall_mem_cons.mpr ⟨⟨_, handle?_eq_some hfirst, rfl⟩, fun p hp => ?_⟩⟩
    obtain ⟨y, hy, heq⟩ := hparts p hp
    exact ⟨y, hleft.subset hy, heq⟩

theorem onHandle_keeps {name : String} {f : Handle → Stage × Outcome} (hf : ∀ h, s.world.Keeps (f h).1.world) :
    s.world.Keeps (s.onHandle name f).1.world := by
  rw [onHandle]
  split
  · exact hf _
  · exact .refl _

/-- A step that asks for nothing makes no instances and fills no cells. -/
theorem perform_keeps (ht : ¬ t.IsRequest) : s.world.Keeps (s.perform t).1.world := by
  cases t with
  | get | require => exact absurd trivial ht
  | root a name => exact put_keeps s.world.newStore_keeps _ _ _
  | foreign f name => exact put_keeps (.refl _) _ _ _
  | compose sources name =>
    rw [perform]
    split
    next taken parts htake => exact put_keeps ((takeAll?_eq_some htake).1 ▸ .refl _) _ _ _
    next => exact .refl _
  | clone source name | inspect source =>
    refine onHandle_keeps fun h => ?_
    cases h <;> first | exact .refl _ | exact put_keeps (.refl _) _ _ _
  | scope source name => exact onHandle_keeps fun h => put_keeps (h.createScope_keeps _) _ _ _
  | innerScope source name =>
    refine onHandle_keeps fun h => ?_
    cases h with
    | scope id owner inner => exact put_keeps (inner.createScope_keeps _) _ _ _
    | _ => exact .refl _
  | dispose source => exact onHandle_keeps fun h => h.dispose_keeps _
  | drop source => exact onHandle_keeps fun h => World.release_keeps _ _ _
  | finish source =>
    refine onHandle_keeps fun h => ?_
    cases h with
    | scope id owner inner =>
      dsimp only
      split
      · exact .refl _
      · exact World.release_keeps _ _ _
    | _ => exact .refl _
  | own source name | nest source name => exact onHandle_keeps fun h => put_keeps s.world.newScope_keeps _ _ _
  | _ => exact onHandle_keeps fun h => put_keeps s.world.newStore_keeps _ _ _

end Stage

end

end ServiceContainer
